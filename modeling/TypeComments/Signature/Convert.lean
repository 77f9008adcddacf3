import TypeComments.Docstring.Format
import TypeComments.Signature.Comment
import TypeComments.Source.Function
import TypeComments.Source.Module

/-!
Writing type comments into a source. The functions of a tree are visited one after the other, the deepest
first, and the tree is changed in place: for a function whose docstring documents a type, the comment goes
in front of the first line of its body. A visit looks at the tree that the visits before it left, and
writes last.
-/

namespace TypeComments.Signature

open Source Docstring

/-- What types to write where nothing is documented, the format of the docstrings, and how their markup is
read. -/
structure Defaults where
  format : Option Format := none
  argTypes : List (List Char × List Char) := []
  returnType : List Char := "Any".toList
  markup : List Char → Markup.Reading := Markup.readDocument

/-- The options that docstrings are read with. -/
def Defaults.options (defaults : Defaults) : Options where
  markup := defaults.markup

/-- Why a source cannot be converted. -/
inductive Fault where
  | source (fault : SourceFault)
  /-- A function stands in a class without a body of its own. -/
  | classBody
  | literal (fault : LiteralFault)
  /-- The body of a function stands on the line of its header. -/
  | inlineBody
  /-- A docstring is a byte string. -/
  | byteDocstring
  | docstring (fault : ParseFault)
  /-- What stands between the parentheses is neither a name nor a list. -/
  | parameters (text : List Char)

/-- A notice with its place in the source. -/
structure Message where
  level : Level
  text : List Char
  deriving DecidableEq

/-- Converting writes messages and may fail; the messages written stay. -/
abbrev Convert := ExceptT Fault (StateM (List Message))

/-- A tree that is being converted: the tree as it stands, whether a comment was written into it, and the
messages so far. -/
structure Progress where
  tree : Tree
  /-- Was a comment written? It may be the one that was there. -/
  changed : Bool := false
  messages : List Message := []

/-- A step of a visit, which may look at the tree and change it. What was changed stays when it fails. -/
abbrev Visit := ExceptT Fault (StateM Progress)

def Visit.say (messages : List Message) : Visit Unit :=
  modify fun s => { s with messages := s.messages ++ messages }

/-- A new text in front of the first line of a body. -/
structure Edit where
  /-- The line of the block's first token. -/
  line : Nat
  before : List Char

/-- A token after an edit: one block opens on a line, so the line tells whether it is concerned. -/
def Edit.applyTo (edit : Edit) (t : Token) : Token :=
  if t.kind = .indent ∧ t.line = edit.line then { t with before := edit.before } else t

/-- Write an edit into the tree. -/
def Visit.write (edit : Edit) : Visit Unit :=
  modify fun s => { s with tree := s.tree.mapTokens edit.applyTo, changed := true }

/-- The types that a docstring documents. -/
structure Types where
  params : List (Option (List Char) × List Char) := []
  result : Option (List Char) := none

/-- Do the types say something? -/
def Types.isEmpty (t : Types) : Bool :=
  t.params.isEmpty && t.result.all List.isEmpty

/-- The types among what is documented. -/
def Types.ofDocumented (d : Documented) : Types where
  params := d.params.filterMap fun p =>
    match p.entry.type with
    | some type => if type.isEmpty then none else some (p.name, type)
    | none => none
  result := d.result.bind (·.type)

def readTypes (defaults : Defaults) (file : List Char) (doc : DocText) : Visit Types := do
  match doc.value with
  | .bytes [] => pure {}
  | .bytes _ => throw .byteDocstring
  | .text [] => pure {}
  | .text text =>
    let (outcome, notices) := (parseDocstring none defaults.format defaults.options text).run.run []
    Visit.say (notices.map fun n => ⟨n.level, n.render file doc.line⟩)
    match outcome with
    | .error fault => throw (.docstring fault)
    | .ok documented => pure (.ofDocumented documented)

def docstringOf (b : Block) : Visit (Option DocText) :=
  match b.docstring with
  | .ok doc => pure doc
  | .error fault => throw (.literal fault)

/-- The type of a parameter: the documented one, else the default for its name. -/
def argumentType? (defaults : Defaults) (types : Types) (name : List Char) : Option (List Char) :=
  types.params.lookup (some name) <|> defaults.argTypes.lookup name

/-- The types of the arguments, as the comment lists them. -/
def argumentTypes (defaults : Defaults) (types : Types) (isMethod : Bool)
    (names : List (List Char × Stars)) : List (List Char) :=
  names.zipIdx.filterMap fun ((name, stars), i) =>
    let type := argumentType? defaults types name
    if !isMethod || keepsArgument i name type then
      -- the stars are those of the header; stars around a documented type go
      some (stars.text ++ trimBy (· == '*') (typeOr "Any".toList type))
    else none

def defaultResult (defaults : Defaults) (isMethod : Bool) (name : List Char) : List Char :=
  if isMethod && name == "__init__".toList then "None".toList else defaults.returnType

/-- The comment of a function with these types. -/
def commentFor (defaults : Defaults) (types : Types) (isMethod : Bool) (f : Function) :
    Visit (List Char) := do
  match parameterNames? f.parameters with
  | none => throw (.parameters ((f.parameters.map Tree.source).getD []))
  | some names =>
    pure (typeComment (argumentTypes defaults types isMethod names)
      (typeOr (defaultResult defaults isMethod f.name) types.result))

/-- The text in front of a body with the comment `comment`, where `before` stands now. A type comment is
replaced, another comment goes after it; `none` if the comment is there already. -/
def withComment (blanks before comment : List Char) : Option (List Char) :=
  -- what is compared has no blanks, so an indented comment is replaced by itself
  if before == comment then none
  else if isTypeComment before then some (blanks ++ comment)
  else some (blanks ++ comment ++ before)

/-- Does a comment in front of a body ask to leave the function alone? -/
def isOptOut (before : List Char) : Bool :=
  trim before == "# notype".toList

/-- The docstring that documents a function: its own or, for a constructor, that of its class. -/
def documentation (f : Function) (own : Option DocText) : Visit (Option DocText) :=
  match own, f.enclosing with
  | none, .body suite =>
    if f.name == "__init__".toList then
      match suite.block? with
      | some block => docstringOf block
      | none => pure none
    else pure none
  | own, _ => pure own

/-- Does a function stand in a class? The class has to have a body of its own. -/
def standsInClass : Enclosing → Visit Bool
  | .nothing => pure false
  | .oneLine => throw .classBody
  | .body _ => pure true

/-- The edit for one function. -/
def convertFunction (defaults : Defaults) (file : List Char) (f : Function) : Visit (Option Edit) := do
  let isMethod ← standsInClass f.enclosing
  match f.body.block? with
  | none => throw .inlineBody
  | some block =>
    -- read in front of the opt-out: a docstring without a value is a fault there too
    let own ← docstringOf block
    if isOptOut block.indent.before then pure none
    else
      match ← documentation f own with
      | none => pure none
      | some doc =>
        let types ← readTypes defaults file doc
        if types.isEmpty then pure none
        else
          let comment ← commentFor defaults types isMethod f
          pure ((withComment block.indent.text block.indent.before comment).map (⟨block.indent.line, ·⟩))

/-- Visit the function at a place of the tree: work out its edit, and then write it. -/
def visitAt (defaults : Defaults) (file : List Char) (place : Nat) : Visit Unit := do
  match (← get).tree.allFunctions[place]? with
  | none => pure ()
  | some f =>
    match ← convertFunction defaults file f with
    | none => pure ()
    | some edit => Visit.write edit

/-- Visit the functions at these places, each in the tree that the visits before it left. -/
def visitInOrder (defaults : Defaults) (file : List Char) (places : List Nat) : Visit Unit :=
  places.forM (visitAt defaults file)

/-- The places of the functions of a tree in the order in which they are visited: the deepest first, and
those of one depth in the order of the text. -/
def visitOrder (t : Tree) : List Nat :=
  (t.allFunctions.zipIdx.mergeSort fun f g => g.1.depth ≤ f.1.depth).map Prod.snd

structure Converted where
  text : List Char
  /-- Was a comment written? It may be the one that was there. -/
  changed : Bool
  deriving DecidableEq

/-- Convert a tree. -/
def convertTree (defaults : Defaults) (file : List Char) (t : Tree) : Convert Converted :=
  ExceptT.mk do
    let (outcome, s) := (visitInOrder defaults file (visitOrder t)).run.run ⟨t, false, ← get⟩
    set s.messages
    pure (outcome.map fun _ => ⟨s.tree.source, s.changed⟩)

def convert (defaults : Defaults) (file source : List Char) : Convert Converted := do
  match read source with
  | .error fault => throw (.source fault)
  | .ok tree => convertTree defaults file tree

end TypeComments.Signature
