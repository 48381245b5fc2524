/-!
# Powers

A power of a number is the one of the core library, also where a module sees another one.
-/

attribute [instance (2000), default_instance 20000] instPowNat
