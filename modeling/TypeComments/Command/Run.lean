import TypeComments.Command.Encoding
import TypeComments.Command.Options
import TypeComments.Command.Store
import TypeComments.Signature.Convert
import TypeComments.Text.Diff

/-!
A run of the command over a store of files: what it prints, what it logs, which files it writes, and how
it ends. A file that cannot be opened or parsed is an error that is logged and counted; other faults end
the run.
-/

namespace TypeComments.Command

open Settings Signature Source

/-- Why a run ends in the middle. -/
inductive Fault where
  | config (file : List Char) (fault : ConfigFault)
  | unknownFormat (name : List Char)
  /-- The number of processes is not positive. -/
  | processes
  | encoding (fault : EncodingFault)
  /-- A file is not under the base of the output. -/
  | outsideBase (file base : List Char)
  | directory (fault : PathFault) (path : List Char)
  | convert (fault : Signature.Fault)

/-- How a run ends. -/
inductive Ending where
  /-- All was done; the number says whether there were errors. -/
  | done (code : Nat)
  /-- The arguments end the run. -/
  | exit (code : Nat)
  | fault (fault : Fault)

/-- The state of a run. -/
structure Work where
  store : Store
  out : List Char := []
  log : List Char := []
  /-- Has a file been written? -/
  wrote : Bool := false
  /-- The files that are or should be written. -/
  handled : List (List Char) := []
  errors : List (List Char) := []

/-- A part of a run. -/
abbrev Job := ExceptT Fault (StateM Work)

namespace Job

def print (line : List Char) : Job Unit :=
  modify fun w => { w with out := w.out ++ line ++ ['\n'] }

/-- Log a line. -/
def say (line : List Char) : Job Unit :=
  modify fun w => { w with log := w.log ++ line ++ ['\n'] }

/-- Log a line if the run is verbose. -/
def note (p : Plan) (line : List Char) : Job Unit :=
  if p.verbose then say line else pure ()

/-- Log an error and count it. -/
def fail (line : List Char) : Job Unit := do
  modify fun w => { w with errors := w.errors ++ [line] }
  say line

end Job

open Job

/-- The defaults that a plan gives for the comments. -/
def Plan.defaults (p : Plan) : Defaults where
  format := Docstring.Format.ofName? p.format
  argTypes := p.argTypes
  returnType := p.returnType
  markup := Markup.readDocument

/-- Convert a source text; `none` if it cannot be parsed. -/
def convertText (p : Plan) (name source : List Char) : Job (Option Converted) := do
  match read source with
  | .error (.scan fault true) => throw (.convert (.source (.scan fault true)))
  | .error fault =>
    fail ("Can't parse ".toList ++ name ++ ": ".toList ++ fault.kindName.toList ++ ": ".toList ++
      fault.message.toList)
    pure none
  | .ok tree =>
    note p ("Refactoring ".toList ++ name)
    let (outcome, messages) := (convertTree p.defaults name tree).run.run []
    messages.forM fun m => say m.text
    match outcome with
    | .error fault => throw (.convert fault)
    | .ok converted => pure (some converted)

def readSource (path : List Char) : Job (Option (List Char × Encoding)) := do
  match (← get).store.read path with
  | .error fault =>
    fail ("Can't open ".toList ++ path ++ ": ".toList ++ fault.message path)
    pure none
  | .ok text =>
    match encodingOf text with
    | .error fault => throw (.encoding fault)
    | .ok encoding =>
      match decode text encoding with
      | .error fault => throw (.encoding fault)
      | .ok text => pure (some (text, encoding))

/-- Where a file is written. -/
def targetOf (p : Plan) (base path : List Char) : Job (List Char) :=
  if p.outputDirectory.isEmpty then pure path
  else
    match outputPath? base p.outputDirectory path with
    | some target => pure target
    | none => throw (.outsideBase path (withSlash base))

def makeDirectoryFor (target : List Char) : Job Unit := do
  let directory := directoryOf target
  let store := (← get).store
  if directory.isEmpty || store.isDirectory directory then pure ()
  else
    match store.makeDirectories [] (startOf directory) (List.splitOn '/' directory) with
    | .ok store => modify fun w => { w with store }
    | .error (fault, path) => throw (.directory fault path)

def writeFile (p : Plan) (base path text : List Char) (encoding : Encoding) : Job Unit := do
  let target ← targetOf p base path
  if target != path then
    makeDirectoryFor target
    say ("Writing converted ".toList ++ path ++ " to ".toList ++ target ++ ".".toList)
  match (← get).store.write target (encode text encoding) with
  | .error fault => fail ("Can't create ".toList ++ target ++ ": ".toList ++ fault.message target)
  | .ok store =>
    modify fun w => { w with store, wrote := true }
    note p ("Wrote changes to ".toList ++ target)

/-- Report a file that has a new text; `true` if the text differs from the old one. -/
def report (p : Plan) (name old new : List Char) : Job Bool := do
  if old == new then
    say ("No changes to ".toList ++ name)
    -- said twice in a verbose run
    note p ("No changes to ".toList ++ name)
    pure false
  else
    say ("Refactored ".toList ++ name)
    if p.shows then (diffLines name old new).forM print
    pure true

/-- Do what is to be done with the new text of a file. -/
def handleFile (p : Plan) (base path new : List Char) : Job Unit := do
  modify fun w => { w with handled := w.handled ++ [path] }
  -- the file is read again for the text that the new one is compared with
  match ← readSource path with
  | none => pure ()
  | some (old, encoding) =>
    let changed ← report p path old new
    if changed || p.writeUnchanged then
      if p.writes then writeFile p base path new encoding
      else note p ("Not writing changes to ".toList ++ path)

/-- The new text of a file; `none` if there is nothing to do with it. A line feed has been added to the
source. Where unchanged files are written too, a source that cannot be parsed becomes the text for no
result, less its last character. -/
def newText (p : Plan) : Option Converted → Option (List Char)
  | some c => if p.writeUnchanged || c.changed then some c.text.dropLast else none
  | none => if p.writeUnchanged then some "None".toList.dropLast else none

def convertFile (p : Plan) (base path : List Char) : Job Unit := do
  match ← readSource path with
  | none => pure ()
  | some (source, _) =>
    match newText p (← convertText p path (source ++ ['\n'])) with
    | some new => handleFile p base path new
    | none => note p ("No changes in ".toList ++ path)

/-- Is this the name of a file that is converted when its directory is? -/
def isSourceName (name : List Char) : Bool :=
  name.head? != some '.' && ".py".toList.isSuffixOf name

/-- Convert the files of a directory, then those of the directories in it, `depth` of them nested at
most. -/
def convertDirectory (p : Plan) (base : List Char) : Nat → List Char → Job Unit
  | 0, _ => pure ()
  | depth + 1, path => do
    note p ("Descending into ".toList ++ path)
    match (← get).store.place? path with
    | .error _ => pure ()
    | .ok place =>
      let (files, directories) := (← get).store.listing place
      (files.filter isSourceName).forM fun name => convertFile p base (joinPath path name)
      (directories.filter (·.head? != some '.')).forM fun name =>
        convertDirectory p base depth (joinPath path name)

/-- How deeply directories can be nested: no deeper than there are parts in all paths. -/
def maxDepth (p : Plan) (s : Store) : Nat :=
  2 * (s.files.foldl (fun n (place, _) => n + place.length) 0 + p.outputDirectory.length) + 2

def convertPath (p : Plan) (base path : List Char) : Job Unit := do
  let store := (← get).store
  if store.isDirectory path then convertDirectory p base (maxDepth p store) path
  else convertFile p base path

/-- The name of the standard input. -/
def inputName : List Char := "<stdin>".toList

def convertInput (p : Plan) (input : List Char) : Job Unit := do
  match ← convertText p inputName input with
  | some c =>
    if c.changed then
      modify fun w => { w with handled := w.handled ++ [inputName] }
      if ← report p inputName input c.text then
        note p ("Not writing changes to ".toList ++ inputName)
    else note p "No changes in stdin".toList
  | none => note p "No changes in stdin".toList

/-- Log what has been done. -/
def summarize : Job Unit := do
  let w ← get
  let were := if w.wrote then "were".toList else "need to be".toList
  if w.handled.isEmpty then say ("No files ".toList ++ were ++ " modified.".toList)
  else
    say ("Files that ".toList ++ were ++ " modified:".toList)
    w.handled.forM say
  match w.errors.length with
  | 0 => pure ()
  | 1 => say "There was 1 error:".toList
  | n => say ("There were ".toList ++ (toString n).toList ++ " errors:".toList)
  w.errors.forM say

/-- Forget what has been done: it was done in other processes. -/
def forget : Job Unit :=
  modify fun w => { w with wrote := false, handled := [], errors := [] }

/-- A call of the command. -/
structure Invocation where
  arguments : List (List Char)
  store : Store := {}
  input : List Char := []
  /-- The working directory, as it is shown. -/
  directory : List Char := []
  /-- Can files be converted in several processes? -/
  parallel : Bool := true

/-- The directory that paths are counted from: the one that they have in common. -/
def Plan.base (p : Plan) (isDirectory : List Char → Bool) (paths : List (List Char)) : List Char :=
  let base := baseDirectory isDirectory paths
  if p.outputDirectory.isEmpty then base else trimSlashes base

/-- Convert what the arguments name. -/
def convertAll (p : Plan) (inv : Invocation) (paths : List (List Char)) : Job Nat := do
  let store := (← get).store
  let base := p.base store.isDirectory paths
  if !p.outputDirectory.isEmpty then
    say ("Output in ".toList ++ quoted p.outputDirectory ++ " will mirror the input directory ".toList ++
      quoted base ++ " layout.".toList)
  note p "Adding transformation: type_comments".toList
  let finish : Job Nat := do
    summarize
    return if (← get).errors.isEmpty then 0 else 1
  if paths.contains ['-'] then
    convertInput p inv.input
    finish
  else if p.processes != 1 && !inv.parallel then
    if p.processes < 1 then throw .processes
    say "Sorry, -j isn't supported on this platform.".toList
    pure 1
  else
    paths.forM (convertPath p base)
    if p.processes != 1 then forget
    finish

def runPlan (p : Plan) (inv : Invocation) (paths : List (List Char)) : Job Nat := do
  if !p.format.isEmpty then
    say ("Using ".toList ++ quoted p.format ++ " format".toList)
    if (Docstring.Format.ofName? p.format).isNone then throw (.unknownFormat p.format)
  if p.writeUnchanged && !p.write then
    say "WARNING: --write-unchanged-files/-W implies -w.".toList
  if paths.isEmpty then
    say "At least one file or directory argument required.".toList
    say "Use --help to show usage.".toList
    pure 1
  else if paths.contains ['-'] && p.writes then
    say "Can't write to stdin.".toList
    pure 1
  else convertAll p inv paths

def configName : List Char := "setup.cfg".toList

/-- The settings of a call: those of its arguments, then those of its settings file. -/
def configure (inv : Invocation) (given : Assigned) : Except Fault Plan :=
  let place := settingText given "config"
  -- messages name the working directory; the file is read by the path as given
  let file := joinPath (if place.isEmpty then inv.directory else place) configName
  let text := (inv.store.read (joinPath place configName)).toOption
  match applyConfig text programKeys given with
  | .ok c => .ok (Plan.ofSettings c)
  | .error fault => .error (.config file fault)

/-- What comes of a call. -/
structure Outcome where
  ending : Ending
  out : List Char
  log : List Char
  store : Store

def run (inv : Invocation) : Outcome :=
  match readArguments programOptions inv.arguments with
  | .error .help =>
    ⟨.exit 0, helpText programUsage programDescription programOptions, [], inv.store⟩
  | .error .version => ⟨.exit 0, programName ++ ' ' :: programVersion ++ ['\n'], [], inv.store⟩
  | .error (.wrong text) =>
    ⟨.exit 2, [], usageText programUsage ++ "\n".toList ++ programName ++ ": error: ".toList ++ text ++
      ['\n'], inv.store⟩
  | .ok a =>
    match configure inv a.settings with
    | .error fault => ⟨.fault fault, [], [], inv.store⟩
    | .ok p =>
      let (ending, w) := (runPlan p inv a.rest).run.run { store := inv.store }
      let ending := match ending with
        | .ok code => .done code
        | .error fault => .fault fault
      ⟨ending, w.out, w.log, w.store⟩

end TypeComments.Command
