import TypeComments.Text.Lines

/-!
Paths of files, as texts. A slash separates the parts of a path.
-/

namespace TypeComments.Command

def endsInSlash (path : List Char) : Bool :=
  path.getLast? == some '/'

/-- A path inside another. A path that starts with a slash stands by itself. -/
def joinPath (base path : List Char) : List Char :=
  if path.head? == some '/' then path
  else if base.isEmpty || endsInSlash base then base ++ path
  else base ++ '/' :: path

def trimSlashes (path : List Char) : List Char :=
  (path.reverse.dropWhile (· == '/')).reverse

/-- The directory of a path: what stands before its last slash. -/
def directoryOf (path : List Char) : List Char :=
  let head := (path.reverse.dropWhile (· != '/')).reverse
  -- the root keeps its slashes
  if head.all (· == '/') then head else trimSlashes head

/-- The longest text that two texts start with. -/
def sharedHead : List Char → List Char → List Char
  | a :: s, b :: t => if a == b then a :: sharedHead s t else []
  | _, _ => []

/-- The longest text that all texts start with. -/
def commonStart : List (List Char) → List Char
  | [] => []
  | s :: rest => rest.foldl sharedHead s

/-- The directory that a list of paths has in common. The texts may share the start of a name; then it
is the directory of what they share. -/
def baseDirectory (isDirectory : List Char → Bool) (paths : List (List Char)) : List Char :=
  let base := commonStart paths
  if base.isEmpty || endsInSlash base || isDirectory base then base else directoryOf base

/-- A directory with a slash at its end, if it has a name. -/
def withSlash (directory : List Char) : List Char :=
  if directory.isEmpty || endsInSlash directory then directory else directory ++ ['/']

/-- Where the output for a file goes: the same place under the output directory as it has under the
base; `none` if it is not under the base. -/
def outputPath? (base output file : List Char) : Option (List Char) :=
  let base := withSlash base
  if base.isPrefixOf file then some (joinPath output (file.drop base.length)) else none

end TypeComments.Command
