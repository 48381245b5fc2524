import Federation.Text.Url.Host

/-!
# URLs

Absolute URLs in the one form that all their spellings share: small letters in scheme and host, no
`portNumber` that the scheme implies, no path segments that lead back, and percent escapes for what
must not stand as it is. Only URLs of the web are taken apart; of others the scheme is known, and
that the host they may have can be one.

- `Url.parse?` reads a URL.
- `Url.text` writes one of the web.
-/

namespace Federation.Text

/-- The parts of a URL of the web, or the scheme of another. -/
inductive Url
  | web (scheme user : List Char) (host : Host) (portNumber : Option Nat) (path : List (List Char))
      (query fragment : Option (List Char))
  | other (scheme : List Char)
deriving DecidableEq, Repr

namespace Url

/-! ## Escapes -/

/-- One byte as a percent sign and two digits. -/
def percent (b : UInt8) : List Char := '%' :: (Hex.pair b).map Char.toUpper

/-- Escapes control characters, all beyond ASCII, and the given ones. -/
def escape (also : List Char) (s : List Char) : List Char :=
  s.flatMap fun c =>
    if c.toNat < 32 ∨ 127 ≤ c.toNat ∨ also.contains c then
      (Bytes.ofText (String.singleton c)).flatMap percent
    else [c]

def fragmentSet : List Char := " \"<>`".toList

def pathSet : List Char := fragmentSet ++ "#?\x7b\x7d".toList

def userSet : List Char := pathSet ++ "/:;=@[\\]^|".toList

def querySet : List Char := " \"#<>'".toList

/-! ## Parts -/

/-- The parts before and after the first character of a kind, and that character. -/
def cutBefore (p : Char → Bool) (s : List Char) : List Char × List Char :=
  (s.takeWhile fun c => !p c, s.dropWhile fun c => !p c)

/-- The scheme in small letters, and what follows its colon. -/
def scheme? (s : List Char) : Option (List Char × List Char) :=
  let (scheme, rest) := cutBefore (· == ':') s
  let isLetter := scheme.head?.any Char.isAlpha
  if rest.isEmpty ∨ !isLetter
      ∨ !(scheme.all fun c => c.isAlphanum || c == '+' || c == '-' || c == '.') then none
  else some (scheme.map Char.toLower, rest.drop 1)

/-- The user in front of a host, with the sign that ends it; a password follows a colon. -/
def userText (s : List Char) : List Char :=
  let (name, password) := cutBefore (· == ':') s
  let password := password.drop 1
  let name := escape userSet name
  if name.isEmpty ∧ password.isEmpty then []
  else name ++ (if password.isEmpty then [] else ':' :: escape userSet password) ++ ['@']

/-- The parts before and after the last sign that ends a user. -/
def cutUser (authority : List Char) : Option (List Char × List Char) :=
  match authority.reverse.dropWhile (· ≠ '@') with
  | [] => none
  | _ :: front => some (front.reverse, authority.drop (front.length + 1))

/-- The parts of a host and `portNumber` before and after the colon between them; one within square
brackets belongs to the host. -/
def cutPortNumber (isInside : Bool) : List Char → List Char × Option (List Char)
  | [] => ([], none)
  | c :: rest =>
    if c = ':' ∧ !isInside then ([], some rest)
    else
      let (host, portNumber) :=
        cutPortNumber (if c = '[' then true else if c = ']' then false else isInside) rest
      (c :: host, portNumber)

/-- Reads a `portNumber`; it may be empty. -/
def portNumber? (s : List Char) : Option (Option Nat) :=
  if s.isEmpty then some none
  else if s.all Char.isDigit then
    let n := s.foldl (fun n c => 10 * n + (c.toNat - 48)) 0
    if n < 65536 then some (some n) else none
  else none

/-- A segment that names the directory itself or the one above, as the number of its points. -/
def points (segment : List Char) : Nat :=
  let s := (String.ofList (segment.map Char.toLower)).replace "%2e" "."
  if s = "." then 1 else if s = ".." then 2 else 0

/-- The segments of a path without those that lead back. -/
def resolve (done : List (List Char)) : List (List Char) → List (List Char)
  | [] => done
  | [last] =>
    match points last with
    | 0 => done ++ [escape pathSet last]
    | 1 => done ++ [[]]
    | _ => done.dropLast ++ [[]]
  | segment :: rest =>
    match points segment with
    | 0 => resolve (done ++ [escape pathSet segment]) rest
    | 1 => resolve done rest
    | _ => resolve done.dropLast rest

/-- The text after a mark, if the mark comes first. -/
def after? (mark : Char) : List Char → Option (List Char)
  | c :: rest => if c = mark then some rest else none
  | [] => none

/-! ## URLs -/

def isSlash (c : Char) : Bool := c == '/' || c == '\\'

/-- The `portNumber` that a scheme of the web implies. -/
def impliedPortNumber (scheme : List Char) : Nat := if scheme = "http".toList then 80 else 443

/-- Reads what follows the scheme of a URL of the web. -/
def web? (scheme rest : List Char) : Option Url := do
  let rest := rest.dropWhile isSlash
  let (authority, rest) := cutBefore (fun c => isSlash c || c == '?' || c == '#') rest
  let (user, place) := (cutUser authority).getD ([], authority)
  let (name, portNumber) := cutPortNumber false place
  let host ← Host.parse? name
  let portNumber ← portNumber? (portNumber.getD [])
  let (path, rest) := cutBefore (fun c => c == '?' || c == '#') rest
  let (query, rest) := cutBefore (· == '#') rest
  some (.web scheme (userText user) host (portNumber.filter (· ≠ impliedPortNumber scheme))
    (resolve [] (splitAt isSlash (path.drop 1)))
    ((after? '?' query).map (escape querySet)) ((after? '#' rest).map (escape fragmentSet)))

/-- The host of a URL that is not of the web can be one. -/
def hasHost (scheme rest : List Char) : Bool :=
  let isSpecial := ["ftp", "ws", "wss"].contains (String.ofList scheme)
  let ends (c : Char) : Bool := c == '/' || c == '?' || c == '#' || (isSpecial && c == '\\')
  if scheme = "file".toList then
    let name := (cutBefore (fun c => isSlash c || c == '?' || c == '#') (rest.drop 2)).1
    rest.take 2 ≠ ['/', '/'] || name.isEmpty || (Host.parse? name).isSome
  else if isSpecial ∨ rest.take 2 = ['/', '/'] then
    let authority := (cutBefore ends (if isSpecial then rest.dropWhile isSlash else rest.drop 2)).1
    let (user, place) := (cutUser authority).getD ([], authority)
    let (name, portNumber) := cutPortNumber false place
    (portNumber? (portNumber.getD [])).isSome &&
      (if isSpecial then (Host.parse? name).isSome
      else if name.isEmpty then portNumber.isNone && user.isEmpty
      else if name.head? = some '[' then (Host.parse? name).isSome
      else !name.any fun c => Domain.isForbidden c && c != '%' && (32 ≤ c.toNat && c.toNat != 127))
  else true

/-- Reads a URL. Blanks around it and line breaks and tabs anywhere do not count. -/
def parse? (s : String) : Option Url := do
  let isOuter (c : Char) : Bool := c.toNat ≤ 32
  let trimmed := ((s.toList.dropWhile isOuter).reverse.dropWhile isOuter).reverse
  let cs := trimmed.filter fun c => c ≠ '\t' ∧ c ≠ '\n' ∧ c ≠ '\r'
  let (scheme, rest) ← scheme? cs
  if scheme = "http".toList ∨ scheme = "https".toList then web? scheme rest
  else if hasHost scheme rest then some (.other scheme)
  else none

def text : Url → String
  | other scheme => String.ofList (scheme ++ [':'])
  | web scheme user host portNumber path query fragment =>
    String.ofList (scheme ++ "://".toList ++ user ++ host.text
      ++ (match portNumber with
        | some n => ':' :: Nat.toDigits 10 n
        | none => [])
      ++ '/' :: ['/'].intercalate path
      ++ (match query with
        | some q => '?' :: q
        | none => [])
      ++ (match fragment with
        | some f => '#' :: f
        | none => []))

end Url

end Federation.Text
