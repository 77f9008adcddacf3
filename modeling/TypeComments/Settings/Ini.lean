import TypeComments.Text.Blank
import TypeComments.Text.Case
import TypeComments.Text.Lines
import TypeComments.Text.Quoted

/-!
Settings files. A file has sections with a header in brackets, and in them entries of a key and a value
with an equals sign or a colon between them. Keys are lower case. A line that is indented deeper than
its entry continues the value. What stands in the section `DEFAULT` counts in all sections. A value can
refer to other entries by `%(key)s`.
-/

namespace TypeComments.Settings

/-- Why a settings file cannot be read, or a value of it not be given. -/
inductive IniFault where
  /-- A line stands before the first header. -/
  | noHeader (line : Nat) (text : List Char)
  | repeatedSection (line : Nat) (name : List Char)
  | repeatedKey (line : Nat) (name key : List Char)
  /-- Lines that are neither headers nor entries. -/
  | badLines (lines : List (Nat × List Char))
  /-- A reference is not closed. -/
  | openReference (rest : List Char)
  /-- A percent sign opens nothing. -/
  | strayPercent (rest : List Char)
  /-- A reference to a key that is not there. -/
  | unknownKey (name key reference raw : List Char)
  /-- References are nested too deeply. -/
  | tooDeep (name key raw : List Char)

/-- A line number of two places at least. -/
def lineText (n : Nat) : List Char :=
  let s := (toString n).toList
  "[line ".toList ++ (if s.length < 2 then ' ' :: s else s) ++ "]".toList

def referenceDepth : Nat := 10

def IniFault.message (file : List Char) : IniFault → List Char
  | .noHeader line text =>
    "File contains no section headers.\nfile: ".toList ++ quoted file ++ ", line: ".toList ++
      (toString line).toList ++ "\n".toList ++ quoted text
  | .repeatedSection line name =>
    "While reading from ".toList ++ quoted file ++ " ".toList ++ lineText line ++ ": section ".toList ++
      quoted name ++ " already exists".toList
  | .repeatedKey line name key =>
    "While reading from ".toList ++ quoted file ++ " ".toList ++ lineText line ++ ": option ".toList ++
      quoted key ++ " in section ".toList ++ quoted name ++ " already exists".toList
  | .badLines lines =>
    "Source contains parsing errors: ".toList ++ quoted file ++ lines.flatMap fun (line, text) =>
      "\n\t".toList ++ lineText line ++ ": ".toList ++ quoted text
  | .openReference rest => "bad interpolation variable reference ".toList ++ quoted rest
  | .strayPercent rest => "'%' must be followed by '%' or '(', found: ".toList ++ quoted rest
  | .unknownKey name key reference raw =>
    "Bad value substitution: option ".toList ++ quoted key ++ " in section ".toList ++ quoted name ++
      " contains an interpolation key ".toList ++ quoted reference ++
      " which is not a valid option name. Raw value: ".toList ++ quoted raw
  | .tooDeep name key raw =>
    "Recursion limit exceeded in value substitution: option ".toList ++ quoted key ++
      " in section ".toList ++ quoted name ++
      " contains an interpolation key which cannot be substituted in ".toList ++
      (toString referenceDepth).toList ++ " steps. Raw value: ".toList ++ quoted raw

/-- The name of the section whose entries count everywhere. -/
def defaultSection : List Char := "DEFAULT".toList

/-- Entries of a section, by key. -/
abbrev Entries := List (List Char × List Char)

/-- The sections of a file. -/
abbrev Ini := List (List Char × Entries)

/-- A section while it is read: its entries with the lines of their values. -/
structure OpenSection where
  name : List Char
  entries : List (List Char × List (List Char))

/-- Where the reading of a file stands. -/
structure IniReading where
  /-- The sections read before, and the current one first. -/
  sections : List OpenSection := []
  /-- The key whose value may go on. -/
  key : Option (List Char) := none
  /-- The indentation of the last header or entry. -/
  indent : Nat := 0
  bad : List (Nat × List Char) := []

/-- A header: what stands between the bracket at the start and the last bracket. -/
def header? : List Char → Option (List Char)
  | '[' :: rest =>
    let name := (rest.reverse.dropWhile (· != ']')).drop 1
    if name.isEmpty then none else some name.reverse
  | _ => none

/-- An entry: the text before the first equals sign or colon, and the text after it. -/
def entry? (s : List Char) : Option (List Char × List Char) :=
  let isSeparator (c : Char) : Bool := c == '=' || c == ':'
  match s.dropWhile (!isSeparator ·) with
  | [] => none
  | _ :: value => some (trimRight (s.takeWhile (!isSeparator ·)), trim value)

def addLine (key line : List Char) (s : OpenSection) : OpenSection :=
  { s with entries := s.entries.map fun (k, lines) => if k == key then (k, lines ++ [line]) else (k, lines) }

namespace IniReading

/-- Add a line to the value that may go on. -/
def continueValue (line : List Char) (r : IniReading) : IniReading :=
  match r.key, r.sections with
  | some key, current :: rest => { r with sections := addLine key line current :: rest }
  | _, _ => r

/-- Open a section. The default section may be opened again. -/
def openSection (number : Nat) (name : List Char) (r : IniReading) : Except IniFault IniReading :=
  match r.sections.find? (·.name == name) with
  | none => .ok { r with sections := ⟨name, []⟩ :: r.sections, key := none }
  | some s =>
    if name == defaultSection then
      .ok { r with sections := s :: r.sections.filter (·.name != name), key := none }
    else .error (.repeatedSection number name)

/-- Put an entry into the current section. An entry without a key is a bad line, but counts. -/
def putEntry (number : Nat) (line key value : List Char) (r : IniReading) : Except IniFault IniReading :=
  match r.sections with
  | [] => .error (.noHeader number line)
  | current :: rest =>
    let bad := if key.isEmpty then r.bad ++ [(number, line)] else r.bad
    let key := lower key
    if current.entries.any (·.1 == key) then .error (.repeatedKey number current.name key)
    else
      let current := { current with entries := current.entries ++ [(key, [value])] }
      .ok { r with
        sections := current :: rest
        key := if key.isEmpty then none else some key
        bad }

/-- Read a line. A comment is left out, and a blank line belongs to the value that may go on. -/
def step (r : IniReading) (number : Nat) (line : List Char) : Except IniFault IniReading :=
  let value := trim line
  if value.head?.any (fun c => c == '#' || c == ';') then .ok r
  else if value.isEmpty then .ok (r.continueValue [])
  -- deeper than its key, a line belongs to the value
  else if r.key.isSome && r.indent < indentOf line then .ok (r.continueValue value)
  else
    let r := { r with indent := indentOf line }
    match header? value with
    | some name => r.openSection number name
    | none =>
      if r.sections.isEmpty then .error (.noHeader number line)
      else
        match entry? value with
        | some (key, value) => r.putEntry number line key value
        | none => .ok { r with bad := r.bad ++ [(number, line)] }

/-- The sections of a file that has been read, values on one text. -/
def finish (r : IniReading) : Except IniFault Ini :=
  if r.bad.isEmpty then
    .ok (r.sections.reverse.map fun s =>
      (s.name, s.entries.map fun (key, lines) => (key, trimRight (List.intercalate ['\n'] lines))))
  else .error (.badLines r.bad)

end IniReading

/-- A text with line feeds for all ends of line. -/
def plainLineEnds : List Char → List Char
  | [] => []
  | '\r' :: '\n' :: rest => '\n' :: plainLineEnds rest
  | c :: rest => (if c == '\r' then '\n' else c) :: plainLineEnds rest

def readIni (text : List Char) : Except IniFault Ini := do
  let lines := physicalLines (plainLineEnds text)
  let r ← lines.zipIdx.foldlM (fun (r : IniReading) (line, i) => r.step (i + 1) line) {}
  r.finish

namespace Ini

/-- The entries that count in a section: its own, then the default ones. -/
def entries? (ini : Ini) (name : List Char) : Option Entries :=
  (ini.lookup name).map (· ++ (ini.lookup defaultSection).getD [])

/-- The value of a key as it is written. -/
def raw? (ini : Ini) (name key : List Char) : Option (List Char) :=
  (ini.entries? name).bind (·.lookup (lower key))

end Ini

/-- The key of a reference at the start of a text, and the text after it. -/
def reference? : List Char → Option (List Char × List Char)
  | '%' :: '(' :: rest =>
    let key := rest.takeWhile (· != ')')
    match rest.drop key.length with
    | ')' :: 's' :: after => if key.isEmpty then none else some (key, after)
    | _ => none
  | _ => none

theorem reference?_length {s key after : List Char} (h : reference? s = some (key, after)) :
    after.length < s.length := by
  unfold reference? at h
  split at h
  · rename_i rest
    dsimp only at h
    split at h
    · rename_i after' heq
      split at h
      · simp at h
      · obtain ⟨-, rfl⟩ := by simpa using h
        have := congrArg List.length heq
        simp only [List.length_drop, List.length_cons] at this ⊢
        omega
    · simp at h
  · simp at h

/-- A text with its references replaced by what `value` gives for them. -/
def expandReferences (value : List Char → Except IniFault (List Char)) (s : List Char) :
    Except IniFault (List Char) :=
  match s with
  | [] => .ok []
  | '%' :: '%' :: rest => do return '%' :: (← expandReferences value rest)
  | '%' :: '(' :: rest =>
    match _h : reference? ('%' :: '(' :: rest) with
    | none => .error (.openReference ('%' :: '(' :: rest))
    | some (key, after) => do
      let v ← value (lower key)
      return v ++ (← expandReferences value after)
  | '%' :: rest => .error (.strayPercent ('%' :: rest))
  | c :: rest => do return c :: (← expandReferences value rest)
termination_by s.length
decreasing_by
  · simp only [List.length_cons]; omega
  · exact reference?_length (by assumption)
  · simp only [List.length_cons]; omega

/-- The value of an entry of a section with its references replaced, `depth` of them nested at most. -/
def expandValue (entries : Entries) (name key : List Char) : Nat → List Char → Except IniFault (List Char)
  | 0, s => .error (.tooDeep name key ((entries.lookup key).getD s))
  | depth + 1, s =>
    expandReferences (fun reference =>
      match entries.lookup reference with
      | none => .error (.unknownKey name key reference ((entries.lookup key).getD s))
      | some v => if v.contains '%' then expandValue entries name key depth v else .ok v) s

namespace Ini

/-- The value of a key in a section; `none` if there is no such section or key. -/
def get? (ini : Ini) (name key : List Char) : Except IniFault (Option (List Char)) :=
  match ini.entries? name with
  | none => .ok none
  | some entries =>
    match entries.lookup (lower key) with
    | none => .ok none
    | some s => do return some (← expandValue entries name (lower key) referenceDepth s)

/-- All entries that count in a section, the default ones first; none if there is no such section. -/
def allEntries (ini : Ini) (name : List Char) : Except IniFault Entries :=
  match ini.lookup name with
  | none => .ok []
  | some own =>
    let defaults := (ini.lookup defaultSection).getD []
    let entries := own ++ defaults
    let keys := defaults.map (·.1) ++ (own.map (·.1)).filter (fun k => !(defaults.any (·.1 == k)))
    keys.mapM fun key => do
      return (key, ← expandValue entries name key referenceDepth ((entries.lookup key).getD []))

end Ini

end TypeComments.Settings
