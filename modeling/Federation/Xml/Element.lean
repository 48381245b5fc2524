import Federation.Text.Blank
import Federation.Text.Quoted
import Federation.Xml.Event

/-!
# Element trees

The messages here have no mixed content, so an element keeps its text as one string beside its child
elements. The text of an element without children is kept as it is; text of blanks only around child
elements is layout and is dropped. Prefixes are resolved while the tree is built, so later lookups
need a namespace and a local name only.

- `Element.ofEvents` builds the tree of a list of events.
- `Element.parse` reads a document and answers its root element.

An element may stand inside at most 64 open ones.
-/

namespace Federation.Xml

open Federation.Text

/-- An element of a document. Attributes are listed by local name, without namespace
declarations. -/
structure Element where
  ns? : Option String
  name : String
  attributes : List (String × String) := []
  children : List Element := []
  text : String := ""
deriving Repr

/-- Why a document or a value in it cannot be read. -/
inductive Fault
  /-- Markup, attributes or references that are not well formed. -/
  | malformed
  | nestedTooDeeply
  | documentType
  | unexpectedEnd
  | noRoot
  | secondRoot
  | unboundPrefix (name : String)
  | missingAttribute (element name : String)
  /-- The text is not a date and time. -/
  | timestamp (text : String)
  | base64
deriving DecidableEq, Repr

/-- The wording of a fault. -/
def Fault.message : Fault → String
  | .malformed => "markup is not well formed"
  | .nestedTooDeeply => "document nested too deeply"
  | .documentType => "DOCTYPE is not allowed"
  | .unexpectedEnd => "unexpected end of document"
  | .noRoot => "document has no root element"
  | .secondRoot => "document has more than one root"
  | .unboundPrefix name => "unbound namespace prefix: " ++ name
  | .missingAttribute element name => element ++ " is missing attribute " ++ name
  | .timestamp text => "invalid timestamp " ++ quote text ++ ": not an RFC 3339 date and time"
  | .base64 => "base64 decode error: not canonical base64"

namespace Element

/-! ## Lookups -/

/-- The element has this namespace and this local name. -/
def isNamed (e : Element) (ns name : String) : Bool := e.name == name && e.ns? == some ns

/-- The value of the first attribute with a local name. -/
def attribute? (e : Element) (name : String) : Option String := e.attributes.lookup name

/-- The value of an attribute that must be there. -/
def requiredAttribute (e : Element) (name : String) : Except Fault String :=
  match e.attribute? name with
  | some value => .ok value
  | none => .error (.missingAttribute e.name name)

/-- The first child with a local name. -/
def child? (e : Element) (name : String) : Option Element := e.children.find? (·.name == name)

/-- All children with a local name. -/
def childrenNamed (e : Element) (name : String) : List Element :=
  e.children.filter (·.name == name)

/-- The first child with a namespace and a local name. -/
def childIn? (e : Element) (ns name : String) : Option Element :=
  e.children.find? (·.isNamed ns name)

/-- All children with a namespace and a local name. -/
def childrenIn (e : Element) (ns name : String) : List Element :=
  e.children.filter (·.isNamed ns name)

/-- The text of the first child with a local name. -/
def childText? (e : Element) (name : String) : Option String := (e.child? name).map text

/-! ## Namespaces -/

/-- Prefixes and the namespaces that one tag declares for them; no prefix is the empty one. -/
abbrev Scope := List (String × String)

/-- The namespace that a prefix stands for, innermost scope first. An empty namespace undoes a
declaration. -/
def resolve (scopes : List Scope) (pre : String) : Option String :=
  (scopes.findSome? (·.lookup pre)).filter (· ≠ "")

/-- A qualified name as a prefix and the rest, cut at the first colon. -/
def splitName (s : List Char) : List Char × List Char :=
  match s.dropWhile (· ≠ ':') with
  | _ :: rest => (s.takeWhile (· ≠ ':'), rest)
  | [] => ([], s)

/-- What follows the last colon. -/
def localName (s : List Char) : List Char := (s.reverse.takeWhile (· ≠ ':')).reverse

/-- The prefix that an attribute declares a namespace for, if it declares one. -/
def declared? (key : List Char) : Option (List Char) :=
  if key = "xmlns".toList then some []
  else if "xmlns:".toList.isPrefixOf key then some (key.drop 6)
  else none

/-- The namespace declarations among a tag's attributes. -/
def declarations (attributes : List (List Char × List Char)) : Scope :=
  attributes.filterMap fun (key, value) =>
    (declared? key).map fun pre => (String.ofList pre, String.ofList value)

/-- The other attributes of a tag, by local name. -/
def plainAttributes (attributes : List (List Char × List Char)) : List (String × String) :=
  attributes.filterMap fun (key, value) =>
    match declared? key with
    | some _ => none
    | none => some (String.ofList (localName key), String.ofList value)

/-! ## Building the tree -/

/-- An element whose end tag is still to come: its name as written, the namespaces it declares, and
what has been read of it. -/
structure Frame where
  written : List Char
  scope : Scope
  element : Element

/-- Open elements, innermost first, and the root once it is complete. -/
structure Builder where
  frames : List Frame := []
  root : Option Element := none

/-- How many elements may be open at once. -/
def maxDepth : Nat := 64

/-- The element that a tag opens, still without content, and the namespaces the tag declares. -/
def start (frames : List Frame) (tag : Tag) : Except Fault Frame :=
  match tag.attributes with
  | none => .error .malformed
  | some attributes =>
    let scope := declarations attributes
    let (pre, name) := splitName tag.name
    let pre := String.ofList pre
    let ns := resolve (scope :: frames.map (·.scope)) pre
    if pre ≠ "" ∧ ns = none then .error (.unboundPrefix pre)
    else .ok
      { written := tag.name, scope
        element :=
          { ns? := ns, name := String.ofList name, attributes := plainAttributes attributes } }

/-- Adds a complete element to the innermost open one, or makes it the root. -/
def Builder.attach (b : Builder) (e : Element) : Except Fault Builder :=
  match b.frames, b.root with
  | f :: rest, _ =>
    let parent := { f.element with children := f.element.children ++ [e] }
    .ok { b with frames := { f with element := parent } :: rest }
  | [], none => .ok { b with root := some e }
  | [], some _ => .error .secondRoot

/-- Adds text to the innermost open element; outside the root it is skipped. -/
def Builder.addText (b : Builder) (s : List Char) : Builder :=
  match b.frames with
  | f :: rest =>
    let parent := { f.element with text := f.element.text ++ String.ofList s }
    { b with frames := { f with element := parent } :: rest }
  | [] => b

/-- Drops blank text around children. -/
def withoutLayout (e : Element) : Element :=
  if !e.children.isEmpty && allBlank e.text.toList then { e with text := "" } else e

/-- Takes one event in. -/
def Builder.step (b : Builder) : Event → Except Fault Builder
  | .opening tag =>
    if maxDepth ≤ b.frames.length then .error .nestedTooDeeply
    else do
      let f ← start b.frames tag
      return { b with frames := f :: b.frames }
  | .empty tag => do
    let f ← start b.frames tag
    b.attach f.element
  | .closing name =>
    match b.frames with
    | f :: rest =>
      if f.written = name then { b with frames := rest }.attach f.element.withoutLayout
      else .error .malformed
    | [] => .error .malformed
  | .text raw =>
    match b.frames with
    | _ :: _ =>
      match unescape raw with
      | some s => .ok (b.addText s)
      | none => .error .malformed
    | [] => .ok b
  | .cdata content => .ok (b.addText content)
  | .doctype => .error .documentType
  | .remark => .ok b
  | .malformed => .error .malformed

/-- The root, once every element is closed. -/
def Builder.finish (b : Builder) : Except Fault Element :=
  match b.frames, b.root with
  | _ :: _, _ => .error .unexpectedEnd
  | [], some e => .ok e
  | [], none => .error .noRoot

/-- The tree that a list of events describes. -/
def ofEvents (events : List Event) : Except Fault Element := do
  (← events.foldlM Builder.step {}).finish

/-- Reads a document. -/
def parse (s : String) : Except Fault Element := ofEvents (Event.scan s.toList)

end Element

end Federation.Xml
