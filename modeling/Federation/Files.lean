/-!
# Files

The files that a run can see, as a value: reading looks a path up, writing gives another value. A
directory is there as soon as some file is in it, and paths that do not begin with a slash start
from the working directory.

    (files.write p s).read q = if q is p then s else files.read q
-/

namespace Federation

/-- What reading a path gives. -/
inductive Reading
  | text (content : String)
  | missing
  | unreadable (reason : String)
deriving DecidableEq, Repr

/-- What reading the full paths gives. -/
structure Files where
  workingDirectory : String
  entries : List (String × Reading) := []
deriving DecidableEq, Repr

namespace Files

/-! ## Algorithm -/

/-- The path of a name in a directory. -/
def join (directory name : String) : String :=
  if name.startsWith "/" then name
  else if directory = "" ∨ directory.endsWith "/" then directory ++ name
  else directory ++ "/" ++ name

/-- The full path of a path. -/
def full (files : Files) (path : String) : String := join files.workingDirectory path

/-- The names below a directory, at any depth. -/
def namesBelow (files : Files) (directory : String) : List String :=
  let lead := (join (files.full directory) "").toList
  files.entries.filterMap fun (path, _) =>
    if lead.isPrefixOf path.toList then some (String.ofList (path.toList.drop lead.length))
    else none

/-- The names of the files in a directory, if it is there. -/
def list? (files : Files) (directory : String) : Option (List String) :=
  let names := files.namesBelow directory
  if names.isEmpty then none else some (names.filter fun name => !name.toList.contains '/')

def read (files : Files) (path : String) : Reading :=
  match files.entries.lookup (files.full path) with
  | some reading => reading
  | none => if (files.namesBelow path).isEmpty then .missing else .unreadable "Is a directory"

/-- Puts a file at a path, in place of one that was there. -/
def write (files : Files) (path content : String) : Files :=
  let place := files.full path
  let others := files.entries.filter fun entry => entry.1 != place
  { files with entries := (place, .text content) :: others }

/-- The directory that a path lies in. -/
def parent (path : String) : String :=
  String.ofList ((path.toList.reverse.dropWhile (· != '/')).drop 1).reverse

/-- Why a file cannot be put at a path, if it cannot. -/
def obstacle? (files : Files) (path : String) : Option String :=
  let directory := parent (files.full path)
  if !(files.namesBelow path).isEmpty then some "Is a directory"
  else if directory = files.workingDirectory ∨ !(files.namesBelow directory).isEmpty then none
  else some "No such file or directory"

/-! ## Lemmas -/

theorem read_write (files : Files) (path content : String) :
    (files.write path content).read path = .text content := by
  simp [read, write, full]

end Files

end Federation
