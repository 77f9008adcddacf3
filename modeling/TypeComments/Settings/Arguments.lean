import TypeComments.Settings.Declare

/-!
The arguments of a command. Options may stand between the other arguments, long ones may be shortened
as long as one option is meant, and short ones without an argument may be joined. Two dashes end the
options. A setting takes the value that is given last.
-/

namespace TypeComments.Settings

/-- Why reading the arguments ends early. -/
inductive ArgumentStop where
  | help
  | version
  /-- The arguments are wrong. -/
  | wrong (text : List Char)

/-- What the arguments say: settings, and the arguments that are no options. -/
structure Arguments where
  settings : Assigned := []
  rest : List (List Char) := []

def unknownOptionText (flag : List Char) : List Char :=
  "no such option: ".toList ++ flag

/-- The order of texts by their characters. -/
def textLe : List Char → List Char → Bool
  | [], _ => true
  | _ :: _, [] => false
  | a :: s, b :: t => if a == b then textLe s t else a < b

/-- The long flag that a text is or shortens. -/
def longFlag (options : List Opt) (flag : List Char) : Except ArgumentStop (List Char) :=
  let flags := options.flatMap (·.long)
  if flags.contains flag then .ok flag
  else
    match flags.filter flag.isPrefixOf with
    | [] => .error (.wrong (unknownOptionText flag))
    | [found] => .ok found
    | found =>
      .error (.wrong ("ambiguous option: ".toList ++ flag ++ " (".toList ++
        List.intercalate ", ".toList (found.mergeSort textLe) ++ "?)".toList))

/-- Do what an option does, with its argument if it has one. -/
def Opt.apply (o : Opt) (flag : List Char) (argument : Option (List Char)) (a : Assigned) :
    Except ArgumentStop Assigned := do
  let value ← match argument with
    | none => pure .missing
    | some s => match o.valueOf flag s with
      | .ok v => pure v
      | .error text => throw (.wrong text)
  let dest := o.dest.getD []
  match o.action with
  | .help => throw .help
  | .version => throw .version
  | .storeTrue => pure (a.put dest (.flag true))
  | .storeFalse => pure (a.put dest (.flag false))
  | .append => match a.value? dest with
    | some (.list items) => pure (a.put dest (.list (items ++ [value])))
    | _ => pure (a.put dest (.list [value]))
  | .count => match a.value? dest with
    | some (.number n) => pure (a.put dest (.number (n + 1)))
    | _ => pure (a.put dest (.number 1))
  | _ => pure (a.put dest value)

def missingArgumentText (flag : List Char) : List Char :=
  flag ++ " option requires 1 argument".toList

/-- Do what an option with an argument does: the argument is attached to the flag, or it follows. -/
def Opt.takeArgument (o : Opt) (flag : List Char) (attached : Option (List Char)) (rest : List (List Char))
    (a : Assigned) : Except ArgumentStop (Assigned × List (List Char)) :=
  match attached, rest with
  | some value, rest => do return (← o.apply flag (some value) a, rest)
  | none, value :: rest => do return (← o.apply flag (some value) a, rest)
  | none, [] => .error (.wrong (missingArgumentText flag))

def readLong (options : List Opt) (argument : List Char) (rest : List (List Char)) (a : Assigned) :
    Except ArgumentStop (Assigned × List (List Char)) := do
  let attached := match argument.dropWhile (· != '=') with
    | [] => none
    | _ :: value => some value
  let flag ← longFlag options (argument.takeWhile (· != '='))
  match options.find? (·.long.contains flag) with
  | none => throw (.wrong (unknownOptionText flag))
  | some o =>
    if o.type.isSome then o.takeArgument flag attached rest a
    else if attached.isSome then throw (.wrong (flag ++ " option does not take a value".toList))
    else return (← o.apply flag none a, rest)

def readShort (options : List Opt) (rest : List (List Char)) :
    List Char → Assigned → Except ArgumentStop (Assigned × List (List Char))
  | [], a => .ok (a, rest)
  | c :: more, a => do
    let flag := ['-', c]
    match options.find? (·.short.contains flag) with
    | none => throw (.wrong (unknownOptionText flag))
    | some o =>
      if o.type.isSome then o.takeArgument flag (if more.isEmpty then none else some more) rest a
      else readShort options rest more (← o.apply flag none a)

/-- Read arguments; each step takes one at least, so their number is enough fuel. -/
def readArgumentsFrom (options : List Opt) :
    Nat → List (List Char) → Arguments → Except ArgumentStop Arguments
  | 0, _, a => .ok a
  | _ + 1, [], a => .ok a
  | fuel + 1, argument :: rest, a => do
    if argument == ['-', '-'] then return { a with rest := a.rest ++ rest }
    else if ['-', '-'].isPrefixOf argument then
      let (settings, rest) ← readLong options argument rest a.settings
      readArgumentsFrom options fuel rest { a with settings }
    else if ['-'].isPrefixOf argument && 1 < argument.length then
      let (settings, rest) ← readShort options rest (argument.drop 1) a.settings
      readArgumentsFrom options fuel rest { a with settings }
    -- a lone dash is a word as well
    else readArgumentsFrom options fuel rest { a with rest := a.rest ++ [argument] }

def readArguments (options : List Opt) (arguments : List (List Char)) :
    Except ArgumentStop Arguments :=
  readArgumentsFrom options (arguments.length + 1) arguments {}

end TypeComments.Settings
