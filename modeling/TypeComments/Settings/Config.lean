import TypeComments.Settings.Declare
import TypeComments.Settings.Ini

/-!
Settings from a file. A setting that has been given stays; another is taken from the file, in the type
that it has; and what the file does not say keeps its default.
-/

namespace TypeComments.Settings

/-- The section of a settings file that holds the settings. -/
def settingsSection : List Char := "doc484".toList

/-- The section of a settings file that holds the types of arguments, by their names. -/
def argTypesSection : List Char := "doc484:default_arg_types".toList

/-- Why settings cannot be taken from a file. -/
inductive ConfigFault where
  | ini (fault : IniFault)
  /-- There is no way to read a value of this type. -/
  | unknownType (type : List Char)
  | notInteger (value : List Char)
  /-- An integer has too many digits. -/
  | tooManyDigits (digits : Nat)
  | notDecimal (value : List Char)
  | notFlag (value : List Char)

def ConfigFault.message (file : List Char) : ConfigFault → List Char
  | .ini fault => fault.message file
  | .unknownType type =>
    "'ConfigParser' object has no attribute ".toList ++ quoted ("get".toList ++ type)
  -- a long value is cut off
  | .notInteger value => "invalid literal for int() with base 10: ".toList ++ (quoted value).take 200
  | .tooManyDigits digits =>
    (s!"Exceeds the limit ({digitLimit} digits) for integer string conversion: value has {digits} " ++
      "digits; use sys.set_int_max_str_digits() to increase the limit").toList
  | .notDecimal value => "could not convert string to float: ".toList ++ quoted value
  | .notFlag value => "Not a boolean: ".toList ++ value

def flagWords : List (List Char × Bool) :=
  [("1".toList, true), ("yes".toList, true), ("true".toList, true), ("on".toList, true),
   ("0".toList, false), ("no".toList, false), ("false".toList, false), ("off".toList, false)]

/-- How values of a type are read; `none` if there is no way. -/
def readerOf? (type : List Char) : Option (List Char → Except ConfigFault Value) :=
  if type == "string".toList || type == "choice".toList || type.isEmpty then some fun s => .ok (.text s)
  else if type == "int".toList then
    some fun s => match readInt 10 s with
      | .ok n => .ok (.number n)
      | .error .malformed => .error (.notInteger s)
      | .error (.tooLong digits) => .error (.tooManyDigits digits)
  else if type == "float".toList then
    some fun s => match readDecimal? s with
      | some d => .ok (.decimal d)
      | none => .error (.notDecimal s)
  else if type == "boolean".toList then
    some fun s => match flagWords.lookup (lower s) with
      | some b => .ok (.flag b)
      | none => .error (.notFlag s)
  else none

/-- The value of a setting that has not been given. -/
def configured (ini : Ini) (key : Key) : Except ConfigFault Value :=
  match readerOf? key.type with
  | none => .error (.unknownType key.type)
  | some read =>
    match ini.get? settingsSection key.name with
    | .error fault => .error (.ini fault)
    | .ok none => .ok key.default
    | .ok (some s) => read s

/-- Add settings that have not been given. -/
def resolve (ini : Ini) (given : Assigned) (keys : List Key) : Except ConfigFault Assigned :=
  keys.foldlM (fun a key =>
    if (a.value? key.name).isSome then .ok a
    else do return a.put key.name (← configured ini key)) given

/-- The settings that a file and what has been given make, and the types of arguments. -/
structure Configured where
  settings : Assigned
  argTypes : Entries

/-- The settings file with this text; no file is an empty one. -/
def fileOf : Option (List Char) → Except IniFault Ini
  | none => .ok []
  | some text => readIni text

/-- Take settings from the text of a file; there may be no file. -/
def applyConfig (text : Option (List Char)) (keys : List Key) (given : Assigned) :
    Except ConfigFault Configured := do
  let ini ← (fileOf text).mapError .ini
  let settings ← resolve ini given keys
  let argTypes ← (ini.allEntries argTypesSection).mapError .ini
  pure ⟨settings, argTypes⟩

end TypeComments.Settings
