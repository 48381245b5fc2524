import Federation.Text.Blank

/-!
# Canonical text

The canonical form of a written document leaves out the XML declaration and blank text between tags.
Text between a start tag and an end tag is the content of an element and is kept even when it is
blank, so `<a> </a>` and `<a></a>` stay distinct.
-/

namespace Federation.Xml

open Federation.Text

/-! ## Algorithm -/

/-- What comes after the first `?>`, if there is one. -/
def afterDeclaration? : List Char → Option (List Char)
  | '?' :: '>' :: rest => some rest
  | _ :: rest => afterDeclaration? rest
  | [] => none

/-- A text without blanks and an XML declaration in front. -/
def dropDeclaration (s : List Char) : List Char :=
  let body := trimStart s
  if "<?xml".toList.isPrefixOf body then (afterDeclaration? body).getD body else body

/-- The tag opens an element, so text may follow that is its content. -/
def opensElement (tag : List Char) : Bool :=
  match tag with
  | '<' :: '/' :: _ | '<' :: '?' :: _ | '<' :: '!' :: _ => false
  | _ =>
    match tag.reverse with
    | '>' :: '/' :: _ => false
    | _ => true

/-- The text or the tag being read, in reverse. -/
inductive Piece
  | text (seen : List Char)
  | tag (seen : List Char)

/-- Reads on from a piece; `opened` tells whether the last tag opened an element. -/
def canonicalFrom (opened : Bool) : Piece → List Char → List Char
  | .text seen, [] => if allBlank seen then [] else seen.reverse
  | .text seen, c :: rest =>
    if c = '<' then
      (if (opened && rest.head? == some '/') || !allBlank seen then seen.reverse else [])
        ++ canonicalFrom opened (.tag [c]) rest
    else canonicalFrom opened (.text (c :: seen)) rest
  | .tag seen, [] => seen.reverse
  | .tag seen, c :: rest =>
    if c = '>' then
      let tag := (c :: seen).reverse
      tag ++ canonicalFrom (opensElement tag) (.text []) rest
    else canonicalFrom opened (.tag (c :: seen)) rest

/-- The canonical form of a document. -/
def canonicalize (s : String) : String :=
  String.ofList (canonicalFrom false (.text []) (dropDeclaration s.toList))

end Federation.Xml
