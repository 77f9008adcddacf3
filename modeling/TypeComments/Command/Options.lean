import TypeComments.Settings.Arguments
import TypeComments.Settings.Config
import TypeComments.Settings.Help

/-!
The options of the command, and the plan that settings make for a run of it.
-/

namespace TypeComments.Command

open Settings

def programName : List Char := "doc484".toList

def programVersion : List Char := "0.3.4".toList

def programUsage : List Char := "doc484 [options] file|dir ...".toList

def programDescription : List Char := "Generate PEP 484 type annotations from docstrings.".toList

/-- An option that switches something on. -/
def switch (flags : List String) (help : String) : Declaration where
  flags := flags.map String.toList
  action := some "store_true".toList
  default := some (.flag false)
  help := help.toList

def declarations : List Declaration :=
  [{ flags := ["-f".toList, "--format".toList]
     choices := some ["google".toList, "numpy".toList, "rest".toList]
     help := ("Specify the docstring convention used within files to be converted (by default this is " ++
       "automatically determined by inspecting each docstring but it is faster and more reliable to " ++
       "specify this explicitly)").toList },
   { flags := ["--default-return-type".toList]
     default := some (.text "Any".toList)
     help := "Default type to use for undocumented return values (defaults to 'Any'".toList },
   { flags := ["-j".toList, "--processes".toList]
     action := some "store".toList
     default := some (.number 1)
     type := some "int".toList
     help := ("Number of concurrent processes to usefor conversion (using more than the number of " ++
       "physicalcores is usually beneficial)").toList },
   switch ["-v", "--verbose"] "More verbose logging",
   switch ["--show-diffs"] ("Show diffs of the refactoring when writing. (always true when --write is " ++
     "not present)"),
   switch ["-w", "--write"] "Write back modified files",
   { flags := ["-c".toList, "--config".toList]
     action := some "store".toList
     type := some "str".toList
     default := some .missing
     help := ("Read settings from the specified ini-style configuration file (defaults to " ++
       "\x60./setup.cfg'").toList },
   { flags := ["-o".toList, "--output-dir".toList]
     action := some "store".toList
     type := some "str".toList
     default := some (.text [])
     help := ("Put output files in this directory instead of overwriting the input files.  " ++
       "Requires -n.").toList },
   switch ["-W", "--write-unchanged-files"] ("Also write files even if no changes were required " ++
     "(useful with --output-dir); implies -w.")]

def programOptions : List Opt :=
  match optionsOf true declarations with
  | .ok options => options
  | .error _ => []

def programKeys : List Key :=
  match keysOf programOptions with
  | .ok keys => keys
  | .error _ => []

/-- What a run of the command does. -/
structure Plan where
  format : List Char
  returnType : List Char
  argTypes : Entries
  processes : Int
  verbose : Bool
  showDiffs : Bool
  write : Bool
  writeUnchanged : Bool
  outputDirectory : List Char

/-- The text of a setting; nothing if it is no text. -/
def settingText (a : Assigned) (name : String) : List Char :=
  match a.value? name.toList with
  | some (.text s) => s
  | _ => []

def settingOn (a : Assigned) (name : String) : Bool :=
  ((a.value? name.toList).getD .missing).isOn

/-- The plan that settings make. -/
def Plan.ofSettings (c : Configured) : Plan where
  format := settingText c.settings "format"
  returnType := settingText c.settings "default_return_type"
  argTypes := c.argTypes
  processes := match c.settings.value? "processes".toList with
    | some (.number n) => n
    | _ => 1
  verbose := settingOn c.settings "verbose"
  showDiffs := settingOn c.settings "show_diffs"
  write := settingOn c.settings "write"
  writeUnchanged := settingOn c.settings "write_unchanged_files"
  outputDirectory := settingText c.settings "output_dir"

/-- Are files written? Writing unchanged files is writing. -/
def Plan.writes (p : Plan) : Bool :=
  p.write || p.writeUnchanged

/-- Are differences shown? They are where nothing is written. -/
def Plan.shows (p : Plan) : Bool :=
  !p.writes || p.showDiffs

end TypeComments.Command
