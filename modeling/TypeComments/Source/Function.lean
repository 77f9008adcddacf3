import TypeComments.Source.Literal
import TypeComments.Source.Tree
import TypeComments.Text.Blank

/-!
The functions of a source: their names, parameters and bodies, and the classes they stand in.
-/

namespace TypeComments.Source

/-- A block on lines of its own. -/
structure Block where
  /-- The blanks that open it, with the comments in front of them. -/
  indent : Token
  /-- The string that its first statement starts with. -/
  docToken : Option Token

/-- The string that a statement starts with. -/
def Tree.leadingString? (statement : Tree) : Option Token :=
  match statement.children with
  | .leaf t :: _ => if t.kind = .string then some t else none
  | _ => none

/-- The block of a body; `none` if the body stands on the line of its header. -/
def Tree.block? (body : Tree) : Option Block :=
  match body.children with
  | _ :: .leaf indent :: first :: _ =>
    if indent.kind = .indent then some ⟨indent, first.leadingString?⟩ else none
  | _ => none

/-- A docstring: its value and the line it starts on. -/
structure DocText where
  value : Literal
  line : Nat

def Block.docstring (b : Block) : Except LiteralFault (Option DocText) :=
  match b.docToken with
  | none => .ok none
  | some t => (literalValue t.text).map fun value => some ⟨value, t.line⟩

/-- The nearest class around a place. -/
inductive Enclosing where
  | nothing
  /-- A class with its body on the line of its header. -/
  | oneLine
  /-- A class with a body of its own. -/
  | body (suite : Tree)

def Enclosing.ofParts (parts : List Tree) : Enclosing :=
  match parts.find? (·.isNode .suite) with
  | some suite => .body suite
  | none => .oneLine

structure Function where
  nameToken : Token
  /-- What stands between the parentheses. -/
  parameters : Option Tree
  body : Tree
  enclosing : Enclosing
  /-- The number of trees around it. -/
  depth : Nat

def Function.name (f : Function) : List Char :=
  trim f.nameToken.source

/-- The parts between the parentheses of a parameter list. -/
def insideParentheses (parameters : Tree) : Option Tree :=
  match parameters.children with
  | [_, inside, _] => some inside
  | _ => none

def Function.ofParts? (enclosing : Enclosing) (depth : Nat) (parts : List Tree) : Option Function :=
  match parts, parts.getLast? with
  | _ :: .leaf name :: parameters :: _, some body =>
    some ⟨name, insideParentheses parameters, body, enclosing, depth⟩
  | _, _ => none

mutual

/-- The functions of a tree, in the order of their headers. -/
def Tree.functions (enclosing : Enclosing) (depth : Nat) : Tree → List Function
  | .leaf _ => []
  | .node rule parts =>
    let inner := if rule = .classDef then .ofParts parts else enclosing
    let own := if rule = .functionDef then (Function.ofParts? enclosing depth parts).toList else []
    own ++ functionsAll inner (depth + 1) parts

@[inherit_doc Tree.functions]
def functionsAll (enclosing : Enclosing) (depth : Nat) : List Tree → List Function
  | [] => []
  | t :: rest => t.functions enclosing depth ++ functionsAll enclosing depth rest

end

def Tree.allFunctions (t : Tree) : List Function :=
  t.functions .nothing 0

mutual

/-- The words of a tree with the classes around them. -/
def Tree.words (enclosing : Enclosing) : Tree → List (Token × Enclosing)
  | .leaf t => if t.kind = .name then [(t, enclosing)] else []
  | .node rule parts => wordsAll (if rule = .classDef then .ofParts parts else enclosing) parts

@[inherit_doc Tree.words]
def wordsAll (enclosing : Enclosing) : List Tree → List (Token × Enclosing)
  | [] => []
  | t :: rest => t.words enclosing ++ wordsAll enclosing rest

end

/-- How many stars stand in front of a parameter. -/
inductive Stars where
  | none
  | one
  | two
  deriving DecidableEq

def Stars.text : Stars → List Char
  | .none => []
  | .one => ['*']
  | .two => ['*', '*']

/-- The names in a parameter list with their stars: the first name after each comma. A parameter with
an annotation is no name. -/
def namesInList (wanted : Bool) (stars : Stars) : List Tree → List (List Char × Stars)
  | [] => []
  | part :: rest =>
    if wanted && part.isLeaf .name then
      match part with
      | .leaf t => (t.text, stars) :: namesInList false stars rest
      | .node _ _ => namesInList false stars rest
    else if wanted && part.isWord "*" then namesInList wanted .one rest
    else if wanted && part.isWord "**" then namesInList wanted .two rest
    else if part.isWord "," then namesInList true .none rest
    -- an equals sign, a default value or a parameter with its annotation
    else namesInList wanted stars rest

/-- The names of the parameters; `none` if what stands between the parentheses is neither a name nor a
list. -/
def parameterNames? : Option Tree → Option (List (List Char × Stars))
  | none => some []
  | some (.leaf t) => if t.kind = .name then some [(t.text, .none)] else none
  | some (.node rule parts) => if rule = .parameterList then some (namesInList true .none parts) else none

end TypeComments.Source
