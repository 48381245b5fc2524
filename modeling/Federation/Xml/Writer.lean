import Federation.Xml.Escape

/-!
# Writing XML

Compact text: nothing stands between tags, and attributes keep the order they are given in.

- `Writer` takes tags one at a time and closes what is left open at the end.
- `Node` is an element to be written, and `Node.render` its text.
-/

namespace Federation.Xml

/-! ## Tags -/

/-- A text with its markup characters written as references. -/
def escaped (s : String) : String := String.ofList (escape s.toList)

/-- The attributes of a tag, each after a space. -/
def attributeText : List (String × String) → String
  | [] => ""
  | (name, value) :: rest =>
    " " ++ name ++ "=\"" ++ escaped value ++ "\"" ++ attributeText rest

/-- A tag up to its closing bracket. -/
def tagText (name : String) (attributes : List (String × String)) : String :=
  "<" ++ name ++ attributeText attributes

def startText (name : String) (attributes : List (String × String)) : String :=
  tagText name attributes ++ ">"

def emptyText (name : String) (attributes : List (String × String)) : String :=
  tagText name attributes ++ "/>"

def endText (name : String) : String := "</" ++ name ++ ">"

def leafText (name : String) (attributes : List (String × String)) (text : String) : String :=
  startText name attributes ++ escaped text ++ endText name

/-! ## Tag by tag -/

/-- A document being written: its text so far and the names of the open elements, innermost
first. -/
structure Writer where
  out : String := ""
  pending : List String := []
deriving DecidableEq, Repr

namespace Writer

/-- Opens an element. -/
def start (w : Writer) (name : String) (attributes : List (String × String)) : Writer :=
  { out := w.out ++ startText name attributes, pending := name :: w.pending }

/-- Writes an element without content. -/
def empty (w : Writer) (name : String) (attributes : List (String × String)) : Writer :=
  { w with out := w.out ++ emptyText name attributes }

/-- Writes an element that holds text. -/
def leaf (w : Writer) (name : String) (attributes : List (String × String)) (text : String) :
    Writer :=
  { w with out := w.out ++ leafText name attributes text }

/-- Closes the innermost open element, if there is one. -/
def close (w : Writer) : Writer :=
  match w.pending with
  | [] => w
  | name :: rest => { out := w.out ++ endText name, pending := rest }

/-- The document, with everything closed that is still open. -/
def finish (w : Writer) : String := w.pending.foldl (fun out name => out ++ endText name) w.out

end Writer

/-! ## Whole elements -/

/-- An element to be written, under the name and the attributes that the text shows. -/
inductive Node
  /-- An element without content, written as one tag. -/
  | empty (name : String) (attributes : List (String × String))
  /-- An element that holds text. -/
  | leaf (name : String) (attributes : List (String × String)) (text : String)
  /-- An element that holds elements. -/
  | group (name : String) (attributes : List (String × String)) (children : List Node)
deriving Repr

namespace Node

mutual

/-- The text of an element. -/
def render : Node → String
  | .empty name attributes => emptyText name attributes
  | .leaf name attributes text => leafText name attributes text
  | .group name attributes children =>
    startText name attributes ++ renderAll children ++ endText name

/-- The text of elements one after another. -/
def renderAll : List Node → String
  | [] => ""
  | n :: rest => render n ++ renderAll rest

end

end Node

end Federation.Xml
