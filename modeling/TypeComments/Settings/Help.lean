import TypeComments.Settings.Declare

/-!
The help of a command: its usage, what it does, and its options. The flags of an option stand in a
column of their own; longer ones take a line.
-/

namespace TypeComments.Settings

/-- The words of a text, each with the blanks before it. -/
def spacedWords (blanks word : List Char) : List Char → List (List Char × List Char)
  | [] => if word.isEmpty then [] else [(blanks, word)]
  | c :: rest =>
    if !isBlank c then spacedWords blanks (word ++ [c]) rest
    else if word.isEmpty then spacedWords (blanks ++ [c]) [] rest
    else (blanks, word) :: spacedWords [c] [] rest

/-- Words in lines of a width. `line` is the current line. The blanks before a word stay if the word is
not the first of its line. -/
def wrapFrom (width : Nat) (line : List Char) : List (List Char × List Char) → List (List Char)
  | [] => if line.isEmpty then [] else [line]
  | (blanks, word) :: rest =>
    if line.isEmpty then wrapFrom width word rest
    else if line.length + blanks.length + word.length ≤ width then
      wrapFrom width (line ++ blanks ++ word) rest
    else line :: wrapFrom width word rest

def wrap (width : Nat) (s : List Char) : List (List Char) :=
  wrapFrom width [] (spacedWords [] [] s)

def helpWidth : Nat := 78

/-- The column in which what is said about an option starts, at most. -/
def maxHelpColumn : Nat := 24

/-- The flags of an option, with the name of its argument. -/
def Opt.usage (o : Opt) : List Char :=
  let argument := upper (o.dest.getD [])
  let flags :=
    if o.type.isSome then
      o.short.map (· ++ ' ' :: argument) ++ o.long.map (· ++ '=' :: argument)
    else o.short ++ o.long
  List.intercalate ", ".toList flags

/-- The column in which what is said about options starts. -/
def helpColumn (options : List Opt) : Nat :=
  min (((options.map fun o => o.usage.length + 2).max?.getD 0) + 2) maxHelpColumn

def Opt.helpLines (column : Nat) (o : Opt) : List (List Char) :=
  let flags := o.usage
  let width := column - 4
  let lines := wrap (helpWidth - column) o.help
  let indented := lines.map (List.replicate column ' ' ++ ·)
  if width < flags.length then (' ' :: ' ' :: flags) :: indented
  else
    let start := ' ' :: ' ' :: flags ++ List.replicate (width - flags.length + 2) ' '
    (start ++ lines.headD []) :: indented.drop 1

def usageText (usage : List Char) : List Char :=
  "Usage: ".toList ++ usage ++ "\n".toList

def helpText (usage description : List Char) (options : List Opt) : List Char :=
  let column := helpColumn options
  let lines := options.flatMap (·.helpLines column)
  usageText usage ++ "\n".toList ++ (wrap helpWidth description).flatMap (· ++ ['\n']) ++
    "\nOptions:\n".toList ++ lines.flatMap (· ++ ['\n'])

end TypeComments.Settings
