import TypeComments.Command.Run

/-!
The command line: load the files that a call is about, run the command over them, print what it prints
and write the files that it changes.
-/

namespace TypeComments.Command

/-- Why a run has ended in the middle, for its user. -/
def Fault.text : Fault → List Char
  | .config file fault => fault.message file
  | .unknownFormat name => "unknown format ".toList ++ quoted name
  | .processes => "the number of processes is not positive".toList
  | .encoding fault => fault.message
  | .outsideBase file base => file ++ " is not in ".toList ++ quoted base
  | .directory fault path => fault.message path
  | .convert (.source fault) => fault.message.toList
  | .convert (.literal fault) => fault.message.toList
  | .convert _ => "a function cannot be converted".toList

/-- The directories on the way to a path, and the path itself. -/
def pathsTo (path : List Char) : List (List Char) :=
  let parts := List.splitOn '/' path
  (List.range parts.length).map fun i => List.intercalate ['/'] (parts.take (i + 1))

def noteDirectory (s : Store) (path : List Char) : IO Store := do
  let file := (← IO.currentDir) / String.ofList path
  if ← file.isDir then pure { s with directories := s.directories ++ [placeOf path] } else pure s

def loadFile (s : Store) (path : List Char) : IO Store := do
  let file := (← IO.currentDir) / String.ofList path
  if (← file.pathExists) && !(← file.isDir) then
    let content ← IO.FS.readFile file
    pure { s with files := Store.put (placeOf path) content.toList s.files }
  else pure s

/-- Load the source files of a directory and of the directories in it. -/
partial def loadDirectory (s : Store) (path : List Char) : IO Store := do
  let file := (← IO.currentDir) / String.ofList path
  if ← file.isDir then
    let s ← noteDirectory s path
    let names := (← file.readDir).toList.map fun entry => entry.fileName.toList
    (names.filter (·.head? != some '.')).foldlM (fun s name => do
      let inner := joinPath path name
      let s ← if isSourceName name then loadFile s inner else pure s
      loadDirectory s inner) s
  else pure s

def loadPath (s : Store) (path : List Char) : IO Store := do
  let s ← (pathsTo path).foldlM noteDirectory s
  loadDirectory (← loadFile s path) path

/-- Load what a call is about: its settings file, the paths among its arguments, and what is in the
output directory. -/
def loadCall (inv : Invocation) : IO Invocation := do
  match Settings.readArguments programOptions inv.arguments with
  | .error _ => pure inv
  | .ok a =>
    let store ← loadPath inv.store (joinPath (settingText a.settings "config") configName)
    let inv := { inv with store }
    match configure inv a.settings with
    | .error _ => pure inv
    | .ok plan =>
      let paths := a.rest.filter (· != ['-'])
      let outputs := if plan.outputDirectory.isEmpty then [] else [plan.outputDirectory]
      pure { inv with store := ← (paths ++ outputs).foldlM loadPath inv.store }

/-- Write the files that differ from those that were loaded. -/
def writeBack (old new : Store) : IO Unit := do
  let directory ← IO.currentDir
  for (place, content) in new.files do
    if old.file? place != some content then
      let path := pathOf place
      IO.FS.createDirAll (directory / String.ofList (directoryOf path))
      IO.FS.writeFile (directory / String.ofList path) (String.ofList content)

end TypeComments.Command

open TypeComments.Command in
/-- Run the command; the result is its exit code. -/
def main (args : List String) : IO UInt32 := do
  let input ← if args.contains "-" then (← IO.getStdin).readToEnd else pure ""
  let inv ← loadCall
    { arguments := args.map String.toList
      input := input.toList
      directory := (← IO.currentDir).toString.toList }
  let outcome := run inv
  IO.print (String.ofList outcome.out)
  IO.eprint (String.ofList outcome.log)
  writeBack inv.store outcome.store
  match outcome.ending with
  | .done code => pure code.toUInt32
  | .exit code => pure code.toUInt32
  | .fault fault =>
    IO.eprintln (String.ofList fault.text)
    pure 1
