/-!
# TOML

Values of a TOML document, and the rules for putting them together. How a table was begun decides
what may still be put into it, so that no text says a thing twice.

- `Toml.put` puts a value under a dotted key.
- `Toml.openTable` and `Toml.openEntry` begin what a header `[a.b]` or `[[a.b]]` names.
- `Toml.fieldsBy?` reads a table, or a list in its place, as the fields of a record.
-/

namespace Federation.Text

/-- How a table was begun. -/
inductive Toml.Opening
  /-- By a header of its own. -/
  | header
  /-- By a header of a table within it. -/
  | parent
  /-- By a dotted key. -/
  | dotted
  /-- By braces, which have been closed. -/
  | braces
deriving DecidableEq, Repr

/-- A value of a document. -/
inductive Toml
  | text (s : String)
  | integer (n : Int)
  | boolean (b : Bool)
  /-- A number with a fraction or an exponent, as written. -/
  | decimal (numeral : String)
  /-- A date, a time or both, as written. -/
  | moment (written : String)
  | array (items : List Toml)
  /-- The tables that headers in double brackets began. -/
  | entries (tables : List Toml)
  | table (opening : Toml.Opening) (members : List (String × Toml))
deriving Repr

namespace Toml

/-! ## Putting documents together -/

/-- The members with the value of a key changed, or begun. -/
def alterMember (key : String) (f : Option Toml → Option Toml) :
    List (String × Toml) → Option (List (String × Toml))
  | [] => (f none).map fun v => [(key, v)]
  | (k, v) :: rest =>
    if k = key then (f (some v)).map fun v => (k, v) :: rest
    else (alterMember key f rest).map ((k, v) :: ·)

/-- Changes the table at the end of a path. A path leads into the last of several tables. Tables
that are not there are begun; a dotted key leads through none that has a header, and nothing leads
through closed braces. -/
def alterTable (isDotted : Bool) (f : Opening → List (String × Toml) → Option Toml) :
    List String → Opening → List (String × Toml) → Option Toml
  | [], opening, members => f opening members
  | key :: path, opening, members => do
    let enter : Option Toml → Option Toml
      | none => alterTable isDotted f path (if isDotted then .dotted else .parent) []
      | some (.table .braces _) => none
      | some (.table o ms) =>
        if isDotted ∧ o = .header then none else alterTable isDotted f path o ms
      | some (.entries tables) =>
        match tables.getLast? with
        | some (.table o ms) =>
          (alterTable isDotted f path o ms).map fun t => .entries (tables.dropLast ++ [t])
        | _ => none
      | some _ => none
    return .table opening (← alterMember key enter members)

/-- Changes the value of the last key of a path, in the table that the others lead to. -/
def alterAt (t : Toml) (isDotted : Bool) (path : List String)
    (f : Opening → Option Toml → Option Toml) : Option Toml :=
  match path.getLast?, t with
  | some key, .table opening members =>
    alterTable isDotted (fun o ms => (alterMember key (f o) ms).map (.table o)) path.dropLast
      opening members
  | _, _ => none

/-- Puts a value under a dotted key that has none yet. Several keys in a row extend only tables that
dotted keys began, and one key none of those. -/
def put (t : Toml) (path : List String) (v : Toml) : Option Toml :=
  t.alterAt true path fun opening old =>
    if (opening = .dotted) = (path.length = 1) ∨ old.isSome then none else some v

/-- Begins the table that a header names; headers within it may have come before. -/
def openTable (t : Toml) (path : List String) : Option Toml :=
  t.alterAt false path fun _ old =>
    match old with
    | none => some (.table .header [])
    | some (.table .parent members) => some (.table .header members)
    | some _ => none

/-- Begins one more of the tables that a header in double brackets names. -/
def openEntry (t : Toml) (path : List String) : Option Toml :=
  t.alterAt false path fun _ old =>
    match old with
    | none => some (.entries [.table .header []])
    | some (.entries tables) => some (.entries (tables ++ [.table .header []]))
    | some _ => none

/-- Puts a value under a dotted key of the table that a header began last. -/
def putBelow (t : Toml) (header path : List String) (v : Toml) : Option Toml :=
  match t with
  | .table opening members =>
    alterTable false (fun o ms => (Toml.table o ms).put path v) header opening members
  | _ => none

/-! ## Reading values -/

def text? : Toml → Option String
  | .text s => some s
  | _ => none

def boolean? : Toml → Option Bool
  | .boolean b => some b
  | _ => none

/-- A whole number from zero on. -/
def natural? : Toml → Option Nat
  | .integer n => if 0 ≤ n then some n.toNat else none
  | _ => none

/-- The fields of a record: the members of a table by their names, or the items of a list in the
order of the names. What the names do not have is not asked for; a date has none of them. -/
def fieldsBy? (names : List String) : Toml → Option (String → Option Toml)
  | .table _ members => some fun name => members.lookup name
  | .array items | .entries items => some fun name => (names.zip items).lookup name
  | .moment _ => some fun _ => none
  | _ => none

end Toml

end Federation.Text
