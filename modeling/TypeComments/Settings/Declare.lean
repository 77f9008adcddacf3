import TypeComments.Settings.Value
import TypeComments.Text.Lines
import TypeComments.Text.Quoted

/-!
Options of a command line. A declaration says which flags an option has, what it does when it is met,
and what type its argument has; it is checked when it is added to the others. The options then are
settings: each has a name, a type and a default.
-/

namespace TypeComments.Settings

/-- What an option does when it is met. -/
inductive Action where
  | store
  | storeConst
  | storeTrue
  | storeFalse
  | append
  | appendConst
  | count
  | callback
  | help
  | version
  deriving DecidableEq

def Action.all : List Action :=
  [.store, .storeConst, .storeTrue, .storeFalse, .append, .appendConst, .count, .callback, .help,
   .version]

def Action.name : Action → List Char
  | .store => "store".toList
  | .storeConst => "store_const".toList
  | .storeTrue => "store_true".toList
  | .storeFalse => "store_false".toList
  | .append => "append".toList
  | .appendConst => "append_const".toList
  | .count => "count".toList
  | .callback => "callback".toList
  | .help => "help".toList
  | .version => "version".toList

/-- May the option have an argument? -/
def Action.mayTakeArgument (a : Action) : Bool :=
  [.store, .append, .callback].contains a

/-- Does the option have an argument always? -/
def Action.takesArgument (a : Action) : Bool :=
  [.store, .append].contains a

/-- Does the option set something? -/
def Action.isStoring (a : Action) : Bool :=
  [.store, .storeConst, .storeTrue, .storeFalse, .append, .appendConst, .count].contains a

/-- Does the option set a constant? -/
def Action.isConstant (a : Action) : Bool :=
  [.storeConst, .appendConst].contains a

/-- The type of the argument of an option. -/
inductive ArgType where
  | string
  | int
  | long
  | float
  | complex
  | choice
  deriving DecidableEq

def ArgType.all : List ArgType :=
  [.string, .int, .long, .float, .complex, .choice]

def ArgType.name : ArgType → List Char
  | .string => "string".toList
  | .int => "int".toList
  | .long => "long".toList
  | .float => "float".toList
  | .complex => "complex".toList
  | .choice => "choice".toList

/-- What a declaration says. -/
structure Declaration where
  flags : List (List Char)
  action : Option (List Char) := none
  type : Option (List Char) := none
  dest : Option (List Char) := none
  default : Option Value := none
  choices : Option (List (List Char)) := none
  hasConst : Bool := false
  hasCount : Bool := false
  help : List Char := []
  /-- Words that mean nothing here. -/
  unknown : List (List Char) := []

structure Opt where
  short : List (List Char)
  long : List (List Char)
  action : Action
  type : Option ArgType
  dest : Option (List Char)
  default : Option Value
  choices : List (List Char)
  help : List Char

/-- Why a declaration is refused. -/
inductive DeclareFault where
  /-- There is no flag at all. -/
  | noFlags
  /-- All flags are empty. -/
  | emptyFlags
  /-- Something is wrong with the option that has the flags `option`. -/
  | wrong (option text : List Char)
  /-- Flags are taken. -/
  | conflict (option : List Char) (flags : List (List Char))
  /-- A default has another type. -/
  | badDefault (text : List Char)
  /-- What the option does makes it no setting. -/
  | noSetting (action : Action)

def flagsText (short long : List (List Char)) : List Char :=
  List.intercalate ['/'] (short ++ long)

def wrongText (option text : List Char) : List Char :=
  if option.isEmpty then text else "option ".toList ++ option ++ ": ".toList ++ text

def DeclareFault.message : DeclareFault → List Char
  | .noFlags => "tuple index out of range".toList
  | .emptyFlags => "at least one option string must be supplied".toList
  | .wrong option text => wrongText option text
  | .conflict option flags =>
    wrongText option ("conflicting option string(s): ".toList ++ List.intercalate ", ".toList flags)
  | .badDefault text => text
  | .noSetting action => action.name

/-- Sort flags into short and long ones: a short one has one character after a dash, a long one starts
with two dashes. -/
def sortFlags (short long : List (List Char)) :
    List (List Char) → Except DeclareFault (List (List Char) × List (List Char))
  | [] => .ok (short, long)
  | flag :: rest =>
    let refuse (kind rule : String) : Except DeclareFault (List (List Char) × List (List Char)) :=
      .error (.wrong (flagsText short long)
        ("invalid ".toList ++ kind.toList ++ " ".toList ++ quoted flag ++ ": ".toList ++ rule.toList))
    match flag with
    | [] => refuse "option string" "must be at least two characters long"
    | [_] => refuse "option string" "must be at least two characters long"
    | [a, b] =>
      if a == '-' && b != '-' then sortFlags (short ++ [flag]) long rest
      else refuse "short option string" "must be of the form -x, (x any non-dash char)"
    | a :: b :: c :: _ =>
      if a == '-' && b == '-' && c != '-' then sortFlags short (long ++ [flag]) rest
      else refuse "long option string" "must start with --, followed by non-dash"

/-- The type of an argument of this name; `str` is another name of `string`. -/
def ArgType.ofName? (name : List Char) : Option ArgType :=
  if name == "str".toList then some .string else ArgType.all.find? (·.name == name)

/-- The setting that an option without a given name sets: its first long flag, else its first short
flag. -/
def destOf (short long : List (List Char)) : Option (List Char) :=
  match long, short with
  | flag :: _, _ => some ((flag.drop 2).map fun c => if c == '-' then '_' else c)
  | [], flag :: _ => some (flag.drop 1)
  | [], [] => none

def Declaration.check (d : Declaration) : Except DeclareFault Opt := do
  -- the first check that fails is the one reported
  if d.flags.isEmpty then throw .noFlags
  let flags := d.flags.filter (!·.isEmpty)
  if flags.isEmpty then throw .emptyFlags
  let (short, long) ← sortFlags [] [] flags
  let refuse {α : Type} (text : List Char) : Except DeclareFault α :=
    .error (.wrong (flagsText short long) text)
  if !d.unknown.isEmpty then
    refuse ("invalid keyword arguments: ".toList ++ List.intercalate ", ".toList d.unknown)
  let action ← match d.action with
    | none => pure .store
    | some name => match Action.all.find? (·.name == name) with
      | some a => pure a
      | none => refuse ("invalid action: ".toList ++ quoted name)
  let type ← match d.type with
    | none =>
      pure (if !action.takesArgument then none
        else if d.choices.isSome then some .choice else some .string)
    | some name => match ArgType.ofName? name with
      | none => refuse ("invalid option type: ".toList ++ quoted name)
      | some t =>
        if action.mayTakeArgument then pure (some t)
        else refuse ("must not supply a type for action ".toList ++ quoted action.name)
  if type == some .choice && d.choices.isNone then
    refuse "must supply a list of choices for type 'choice'".toList
  if type != some .choice && d.choices.isSome then
    refuse ("must not supply choices for type ".toList ++
      ((type.map fun t => quoted t.name).getD "None".toList))
  if !action.isConstant && d.hasConst then
    refuse ("'const' must not be supplied for action ".toList ++ quoted action.name)
  if !action.mayTakeArgument && d.hasCount then
    refuse ("'nargs' must not be supplied for action ".toList ++ quoted action.name)
  if action = .callback then refuse "callback not callable: None".toList
  let dest := match d.dest with
    | some name => some name
    | none => if action.isStoring || type.isSome then destOf short long else none
  pure ⟨short, long, action, type, dest, d.default, d.choices.getD [], d.help⟩

def addOption (options : List Opt) (d : Declaration) : Except DeclareFault (List Opt) := do
  let o ← d.check
  let taken := options.flatMap fun p => p.short ++ p.long
  match (o.short ++ o.long).filter taken.contains with
  | [] => pure (options ++ [o])
  | flags => throw (.conflict (flagsText o.short o.long) flags)

def versionDeclaration : Declaration where
  flags := ["--version".toList]
  action := some "version".toList
  help := "show program's version number and exit".toList

def helpDeclaration : Declaration where
  flags := ["-h".toList, "--help".toList]
  action := some "help".toList
  help := "show this help message and exit".toList

/-- The options that declarations give, after the standard ones. -/
def optionsOf (hasVersion : Bool) (ds : List Declaration) : Except DeclareFault (List Opt) :=
  ((if hasVersion then [versionDeclaration] else []) ++ helpDeclaration :: ds).foldlM addOption []

def invalidText (flag : List Char) (what : String) (value : List Char) : List Char :=
  "option ".toList ++ flag ++ ": invalid ".toList ++ what.toList ++ " value: ".toList ++ quoted value

/-- The value of an argument, or what is said about it. -/
def Opt.valueOf (o : Opt) (flag value : List Char) : Except (List Char) Value :=
  let integer : Except (List Char) Value := match readMarkedInt value with
    | .ok n => .ok (.number n)
    | .error _ => .error (invalidText flag "integer" value)
  match o.type with
  | some .int => integer
  | some .long => integer
  | some .float => match readDecimal? value with
    | some d => .ok (.decimal d)
    | none => .error (invalidText flag "floating-point" value)
  | some .choice =>
    if o.choices.contains value then .ok (.text value)
    else
      .error ("option ".toList ++ flag ++ ": invalid choice: ".toList ++ quoted value ++
        " (choose from ".toList ++ List.intercalate ", ".toList (o.choices.map quoted) ++ ")".toList)
  | _ => .ok (.text value)

/-- The defaults as they are declared: the last one given for a setting counts. -/
def declaredDefaults (options : List Opt) : Assigned :=
  options.foldl (fun a o =>
    match o.dest, o.default with
    | some dest, some value => a.put dest value
    -- an option without a default does not take away an earlier one
    | some dest, none => if (a.value? dest).isSome then a else a.put dest .missing
    | none, _ => a) []

/-- The flag that names an option in messages. -/
def Opt.mainFlag (o : Opt) : List Char :=
  (o.long ++ o.short).headD []

/-- The defaults of all settings. A default that is a text is read like an argument. -/
def defaultValues (options : List Opt) : Except DeclareFault Assigned :=
  options.foldlM (fun a o =>
    match o.dest with
    | none => .ok a
    | some dest =>
      match a.value? dest with
      | some (.text s) =>
        match o.valueOf o.mainFlag s with
        | .ok v => .ok (a.put dest v)
        | .error text => .error (.badDefault text)
      | _ => .ok a) (declaredDefaults options)

/-- A setting that a settings file can hold. -/
structure Key where
  name : List Char
  type : List Char
  default : Value

/-- The setting of an option: `none` for one that shows something, and for the one that says where the
settings file is. -/
def Opt.key? (defaults : Assigned) (o : Opt) : Except DeclareFault (Option Key) :=
  if o.dest == some "config".toList || o.action = .version then .ok none
  else
    let key (type : List Char) : Option Key :=
      o.dest.map fun dest => ⟨dest, type, (defaults.value? dest).getD .missing⟩
    match o.type with
    | some t => .ok (key t.name)
    | none =>
      match o.action with
      | .storeTrue => .ok (key "boolean".toList)
      | .storeFalse => .ok (key "boolean".toList)
      | .help => .ok none
      | .append => .ok none
      | a => .error (.noSetting a)

def keysOf (options : List Opt) : Except DeclareFault (List Key) := do
  let defaults ← defaultValues options
  return (← options.mapM (Opt.key? defaults)).filterMap id

end TypeComments.Settings
