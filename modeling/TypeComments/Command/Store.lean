import TypeComments.Command.Path
import TypeComments.Settings.Arguments

/-!
Files and directories. A path is looked up part by part from the working directory; a directory is there
if it has been made or if a file stands in it.
-/

namespace TypeComments.Command

/-- The parts of the place of a file, from the working directory on. A place above the working directory
starts with parent parts, one counted from the root with a slash. -/
abbrev Place := List (List Char)

def parentPart : List Char := ['.', '.']

def rootPlace : Place := [['/']]

/-- Is the place under the working directory? -/
def Place.isInside (place : Place) : Bool :=
  place.head? != some ['/'] && place.head? != some parentPart

/-- The place that a part of a path leads to. -/
def Place.enter (place : Place) (part : List Char) : Place :=
  if part.isEmpty || part == ['.'] then place
  else if part != parentPart then place ++ [part]
  else if place == rootPlace then place
  else if place.all (· == parentPart) then place ++ [parentPart]
  else place.dropLast

/-- Files by their places, and directories that have been made. -/
structure Store where
  files : List (Place × List Char) := []
  directories : List Place := []

/-- Why a path leads nowhere. -/
inductive PathFault where
  | missing
  /-- A part of the path is a file. -/
  | notDirectory
  | isDirectory
  | taken
  deriving DecidableEq

def PathFault.message (path : List Char) (fault : PathFault) : List Char :=
  let text := match fault with
    | .missing => "[Errno 2] No such file or directory: "
    | .notDirectory => "[Errno 20] Not a directory: "
    | .isDirectory => "[Errno 21] Is a directory: "
    | .taken => "[Errno 17] File exists: "
  text.toList ++ quoted path

/-- The place where a path starts. -/
def startOf (path : List Char) : Place :=
  if path.head? == some '/' then rootPlace else []

/-- The place of a path, taken that the directories on it are there. -/
def placeOf (path : List Char) : Place :=
  (List.splitOn '/' path).foldl Place.enter (startOf path)

def pathOf : Place → List Char
  | ['/'] :: parts => '/' :: List.intercalate ['/'] parts
  | parts => List.intercalate ['/'] parts

namespace Store

def file? (s : Store) (place : Place) : Option (List Char) :=
  s.files.lookup place

def isDirectoryAt (s : Store) (place : Place) : Bool :=
  place.all (· == parentPart) || place == rootPlace || s.directories.any (place.isPrefixOf ·) ||
    s.files.any fun (p, _) => place.isPrefixOf p && place.length < p.length

/-- Follow the parts of a path from a place. All parts but the last have to be directories. -/
def follow (s : Store) (place : Place) : List (List Char) → Except PathFault Place
  | [] => .ok place
  | part :: rest =>
    let next := place.enter part
    if rest.isEmpty || s.isDirectoryAt next then s.follow next rest
    else if (s.file? next).isSome then .error .notDirectory
    else .error .missing

/-- The place that a path leads to. -/
def place? (s : Store) (path : List Char) : Except PathFault Place :=
  if path.isEmpty then .error .missing
  else s.follow (startOf path) (List.splitOn '/' path)

def isDirectory (s : Store) (path : List Char) : Bool :=
  match s.place? path with
  | .ok place => s.isDirectoryAt place
  | .error _ => false

def read (s : Store) (path : List Char) : Except PathFault (List Char) := do
  let place ← s.place? path
  match s.file? place with
  | some text => .ok text
  | none => .error (if s.isDirectoryAt place then .isDirectory else .missing)

def put (place : Place) (text : List Char) : List (Place × List Char) → List (Place × List Char)
  | [] => [(place, text)]
  | (p, t) :: rest => if p == place then (p, text) :: rest else (p, t) :: put place text rest

def write (s : Store) (path text : List Char) : Except PathFault Store := do
  let place ← s.place? path
  if s.isDirectoryAt place then .error .isDirectory
  else .ok { s with files := put place text s.files }

/-- Make directories along the parts of a path, from a place on. The path up to the place is `before`,
with the slash after it; the last part must not be there. -/
def makeDirectories (s : Store) (before : List Char) (place : Place) :
    List (List Char) → Except (PathFault × List Char) Store
  | [] => .ok s
  | part :: rest =>
    let path := before ++ part
    let next := place.enter part
    let taken := (s.file? next).isSome
    if !part.isEmpty && (s.file? place).isSome then .error (.notDirectory, path)
    else if rest.isEmpty && part != ['.'] && (taken || s.isDirectoryAt next) then .error (.taken, path)
    else if taken then s.makeDirectories (path ++ ['/']) next rest
    else { s with directories := s.directories ++ [next] }.makeDirectories (path ++ ['/']) next rest

/-- The names of a list in order, each once. -/
def sortNames (names : List (List Char)) : List (List Char) :=
  (names.mergeSort Settings.textLe).eraseDups

/-- The names of the files and of the directories in a directory. -/
def listing (s : Store) (place : Place) : List (List Char) × List (List Char) :=
  let inside (p : Place) : Option (List Char × Bool) :=
    if place.isPrefixOf p then
      match p.drop place.length with
      | [] => none
      | [name] => some (name, true)
      | name :: _ => some (name, false)
    else none
  let entries := s.files.filterMap (inside ·.1)
  let made := (s.directories.filterMap inside).map (·.1)
  (sortNames ((entries.filter (·.2)).map (·.1)),
    sortNames ((entries.filter (!·.2)).map (·.1) ++ made))

end Store

end TypeComments.Command
