import Federation.Xml.Escape

/-!
# Markup events

The pieces that an XML text consists of, in order. A piece of markup without an end, or of no known
form, is the event `malformed`, and the text is read no further. Names are not checked for being XML
names.

- `Event.scan` cuts a text into its events.
- `Tag.attributes` reads the attributes of a start tag.
-/

namespace Federation.Xml

/-- The content of a start tag: the name, and what follows it as it is written. -/
structure Tag where
  name : List Char
  rest : List Char
deriving DecidableEq, Repr

/-- A piece of an XML text. -/
inductive Event
  /-- A start tag. -/
  | opening (tag : Tag)
  /-- The tag of an element without content. -/
  | empty (tag : Tag)
  /-- An end tag with its name. -/
  | closing (name : List Char)
  /-- Text as it is written, references included. -/
  | text (raw : List Char)
  /-- The content of a CDATA section. -/
  | cdata (content : List Char)
  /-- A document type declaration. -/
  | doctype
  /-- A comment, a processing instruction or an XML declaration. -/
  | remark
  /-- Markup without an end or of no known form. -/
  | malformed
deriving DecidableEq, Repr

/-! ## Tags -/

/-- White space inside tags. -/
def isTagSpace (c : Char) : Bool := c = ' ' || c = '\t' || c = '\n' || c = '\r'

/-- The tag with a given content: its name ends at the first space. -/
def Tag.ofContent (s : List Char) : Tag where
  name := s.takeWhile fun c => !isTagSpace c
  rest := s.dropWhile fun c => !isTagSpace c

/-- What has been read of the attribute being read. Collected characters are in reverse. -/
inductive AttributeState
  /-- Between attributes. -/
  | between
  /-- Inside a name that has at least one character. -/
  | name (seen : List Char)
  /-- After a name and a space; the equals sign is still to come. -/
  | named (name : List Char)
  /-- After the equals sign. -/
  | equals (name : List Char)
  /-- Inside the quoted value. -/
  | value (name : List Char) (quote : Char) (seen : List Char)

/-- Reads names and quoted values; the first character of a name may be any but a space. -/
def attributesFrom : AttributeState → List Char → Option (List (List Char × List Char))
  | .between, [] => some []
  | .between, c :: rest =>
    if isTagSpace c then attributesFrom .between rest else attributesFrom (.name [c]) rest
  | .name seen, c :: rest =>
    if c = '=' then attributesFrom (.equals seen.reverse) rest
    else if isTagSpace c then attributesFrom (.named seen.reverse) rest
    else attributesFrom (.name (c :: seen)) rest
  | .named name, c :: rest =>
    if c = '=' then attributesFrom (.equals name) rest
    else if isTagSpace c then attributesFrom (.named name) rest
    else none
  | .equals name, c :: rest =>
    if c = '"' ∨ c = '\'' then attributesFrom (.value name c []) rest
    else if isTagSpace c then attributesFrom (.equals name) rest
    else none
  | .value name quote seen, c :: rest =>
    if c = quote then (attributesFrom .between rest).map ((name, seen.reverse) :: ·)
    else attributesFrom (.value name quote (c :: seen)) rest
  | _, [] => none

/-- No name occurs twice. -/
def distinctNames : List (List Char × List Char) → Bool
  | [] => true
  | (name, _) :: rest => rest.all (fun a => a.1 != name) && distinctNames rest

/-- The attributes of a tag in order, values with their references replaced. Values are quoted, and
no name stands twice. -/
def Tag.attributes (tag : Tag) : Option (List (List Char × List Char)) := do
  let raw ← attributesFrom .between tag.rest
  if distinctNames raw then
    raw.mapM fun (name, value) => (unescape value).map (name, ·)
  else none

/-! ## Scanning -/

/-- What has been read of the piece being read. Collected characters are in reverse. -/
inductive ScanState
  /-- Text. -/
  | text (seen : List Char)
  /-- After the character that opens markup. -/
  | opened
  /-- A start or end tag, inside a quoted value or not. -/
  | tag (quote : Option Char) (seen : List Char)
  /-- A processing instruction, from its question mark on. -/
  | instruction (seen : List Char)
  /-- A comment, CDATA section or declaration, from its exclamation mark on. -/
  | declaration (seen : List Char)

/-- The name in an end tag: space after it does not count, unless there is nothing else. -/
def closingName (s : List Char) : List Char :=
  if s.all isTagSpace then s else (s.reverse.dropWhile isTagSpace).reverse

/-- The event of a complete tag with a given content. -/
def tagEvent (content : List Char) : Event :=
  match content with
  | '/' :: name => .closing (closingName name)
  | _ =>
    match content.reverse with
    | '/' :: front => .empty (Tag.ofContent front.reverse)
    | _ => .opening (Tag.ofContent content)

/-- A declaration of a document type has balanced brackets before its end. -/
def balanced (s : List Char) : Bool := s.count '<' == s.count '>'

/-- ASCII letters in upper case. -/
def upper (s : List Char) : List Char := s.map Char.toUpper

/-- The event of markup that starts with an exclamation mark and that a closing bracket follows, or
nothing if it goes on. `seen` is the markup before the bracket, in reverse. -/
def declarationEvent? (seen : List Char) : Option Event :=
  let content := seen.reverse
  match content with
  | '!' :: '-' :: _ =>
    if 5 ≤ content.length && "--".toList.isPrefixOf seen then
      some (if "!--".toList.isPrefixOf content then .remark else .malformed)
    else none
  | '!' :: '[' :: _ =>
    if "]]".toList.isPrefixOf seen then
      some (if "![CDATA[".toList.isPrefixOf content then
        .cdata ((content.drop 8).take (content.length - 10)) else .malformed)
    else none
  | '!' :: 'D' :: _ | '!' :: 'd' :: _ =>
    if balanced content then
      some (if "!DOCTYPE".toList.isPrefixOf (upper content)
          && (content.drop 8).any (fun c => !isTagSpace c) then .doctype else .malformed)
    else none
  | _ => none

/-- Cuts a text into events, going on from a state. -/
def scanFrom : ScanState → List Char → List Event
  | .text seen, [] => if seen.isEmpty then [] else [.text seen.reverse]
  | .text seen, c :: rest =>
    if c = '<' then
      if seen.isEmpty then scanFrom .opened rest
      else .text seen.reverse :: scanFrom .opened rest
    else scanFrom (.text (c :: seen)) rest
  | .opened, c :: rest =>
    if c = '!' then
      match rest with
      | '-' :: _ | '[' :: _ | 'D' :: _ | 'd' :: _ => scanFrom (.declaration [c]) rest
      | _ => [.malformed]
    else if c = '?' then scanFrom (.instruction [c]) rest
    else if c = '>' then tagEvent [] :: scanFrom (.text []) rest
    else scanFrom (.tag (if c = '"' ∨ c = '\'' then some c else none) [c]) rest
  | .tag none seen, c :: rest =>
    if c = '>' then tagEvent seen.reverse :: scanFrom (.text []) rest
    else scanFrom (.tag (if c = '"' ∨ c = '\'' then some c else none) (c :: seen)) rest
  | .tag (some quote) seen, c :: rest =>
    scanFrom (.tag (if c = quote then none else some quote) (c :: seen)) rest
  | .instruction seen, c :: rest =>
    match c, seen with
    | '>', ['?'] => [.malformed]
    | '>', '?' :: _ => .remark :: scanFrom (.text []) rest
    | _, _ => scanFrom (.instruction (c :: seen)) rest
  | .declaration seen, c :: rest =>
    if c = '>' then
      match declarationEvent? seen with
      | some .malformed => [.malformed]
      | some event => event :: scanFrom (.text []) rest
      | none => scanFrom (.declaration (c :: seen)) rest
    else scanFrom (.declaration (c :: seen)) rest
  | _, [] => [.malformed]

/-- A text without a byte order mark in front. -/
def dropMark : List Char → List Char
  | c :: rest => if c = Char.ofNat 0xFEFF then rest else c :: rest
  | [] => []

/-- The events of a text. -/
def Event.scan (s : List Char) : List Event := scanFrom (.text []) (dropMark s)

end Federation.Xml
