import TypeComments.Source.Token

/-!
The grammar of Python source, both of its generations at once. A rule's right side is a regular
expression over tokens and rules, and what may still follow inside a rule is a list of expressions,
the partial derivatives by what has been read. The grammar is such that the next token decides: at
most one symbol that may follow can start with it.
-/

namespace TypeComments.Source

/-- The rules, named for what they describe. -/
inductive Rule where
  | fileInput
  | decorator
  | decorators
  | decorated
  | asyncFunctionDef
  | functionDef
  | parameters
  | parameterList
  | typedName
  | parameter
  | parameterTuple
  | lambdaParameterList
  | lambdaName
  | lambdaParameter
  | lambdaParameterTuple
  | statement
  | simpleStatement
  | smallStatement
  | exprStatement
  | annotatedAssign
  | testlistStar
  | augmentedAssign
  | printStatement
  | delStatement
  | passStatement
  | flowStatement
  | breakStatement
  | continueStatement
  | returnStatement
  | yieldStatement
  | raiseStatement
  | importStatement
  | importName
  | importFrom
  | importAsName
  | dottedAsName
  | importAsNames
  | dottedAsNames
  | dottedName
  | globalStatement
  | execStatement
  | assertStatement
  | compoundStatement
  | asyncStatement
  | ifStatement
  | whileStatement
  | forStatement
  | tryStatement
  | withStatement
  | withItem
  | exceptClause
  | suite
  | testlistSafe
  | oldTest
  | oldLambda
  | namedTest
  | test
  | orTest
  | andTest
  | notTest
  | comparison
  | comparisonOp
  | starExpr
  | expr
  | xorExpr
  | andExpr
  | shiftExpr
  | arithExpr
  | term
  | factor
  | power
  | atom
  | listMaker
  | tupleMaker
  | lambdaDef
  | trailer
  | subscriptList
  | subscript
  | sliceOp
  | exprlist
  | testlist
  | dictMaker
  | classDef
  | argumentList
  | argument
  | compIter
  | compFor
  | compIf
  | quotedTests
  | yieldExpr
  | yieldArg
  deriving DecidableEq, Repr

/-- A token as the grammar sees it: a class of tokens, or a keyword or operator by its text. -/
inductive Terminal where
  | kind (k : Kind)
  | word (text : List Char)
  deriving DecidableEq

/-- What a rule is made of. -/
inductive Part where
  | terminal (t : Terminal)
  | rule (r : Rule)
  deriving DecidableEq

/-- A regular expression over tokens and rules. -/
inductive Rx where
  | empty
  | part (p : Part)
  | seq (a b : Rx)
  | alt (a b : Rx)
  | many (a : Rx)
  deriving DecidableEq

namespace Rx

instance : Coe String Rx := ⟨fun text => .part (.terminal (.word text.toList))⟩
instance : Coe Kind Rx := ⟨fun k => .part (.terminal (.kind k))⟩
instance : Coe Rule Rx := ⟨fun r => .part (.rule r)⟩

/-- One after the other; the empty expression adds nothing. -/
def andThen : Rx → Rx → Rx
  | .empty, b => b
  | a, .empty => a
  | a, b => .seq a b

def all (parts : List Rx) : Rx :=
  parts.foldr andThen .empty

def oneOf : List Rx → Rx
  | [] => .empty
  | [a] => a
  | a :: rest => .alt a (oneOf rest)

/-- All of these in a row, or nothing. -/
def optional (parts : List Rx) : Rx :=
  .alt (all parts) .empty

/-- Any number of these rows. -/
def repeated (parts : List Rx) : Rx :=
  .many (all parts)

/-- One `a` or more, with `sep` between them. -/
def separated (sep : Rx) (a : Rx) : Rx :=
  all [a, repeated [sep, a]]

/-- One `a` or more with commas between them and perhaps after the last. -/
def commaList (a : Rx) : Rx :=
  all [separated "," a, optional [","]]

/-- May the expression end here? -/
def nullable : Rx → Bool
  | .empty => true
  | .part _ => false
  | .seq a b => a.nullable && b.nullable
  | .alt a b => a.nullable || b.nullable
  | .many _ => true

/-- The parts that may come first. -/
def firsts : Rx → List Part
  | .empty => []
  | .part p => [p]
  | .seq a b => a.firsts ++ if a.nullable then b.firsts else []
  | .alt a b => a.firsts ++ b.firsts
  | .many a => a.firsts

/-- What may be left after the part `p`. -/
def after (p : Part) : Rx → List Rx
  | .empty => []
  | .part q => if p = q then [.empty] else []
  | .seq a b => (a.after p).map (·.andThen b) ++ if a.nullable then b.after p else []
  | .alt a b => a.after p ++ b.after p
  | .many a => (a.after p).map (·.andThen (.many a))

end Rx

open Rx Kind Rule

/-- The shape of a parameter list, shared by functions and lambdas: parameters that only go by
position before a slash, parameters with defaults, a starred one and a doubly starred one. -/
def parameterShape (param name : Rule) : Rx :=
  let default : Rx := optional ["=", test]
  let plain : Rx := all [param, default]
  let more : Rx := repeated [",", param, default]
  let keywords : Rx := all ["**", name, optional [","]]
  let starred : Rx :=
    all ["*", optional [name], repeated [",", name, default],
      optional [",", optional ["**", name, optional [","]]]]
  let list : Rx :=
    oneOf
      [all [repeated [param, default, ","], oneOf [starred, keywords]],
       all [plain, more, optional [","]]]
  oneOf [all [plain, more, ",", "/", optional [",", optional [list]]], list]

def Rule.body : Rule → Rx
  | .fileInput => all [repeated [oneOf [newline, statement]], endMarker]
  | .decorator => all ["@", dottedName, optional ["(", optional [argumentList], ")"], newline]
  | .decorators => all [decorator, repeated [decorator]]
  | .decorated => all [decorators, oneOf [classDef, functionDef, asyncFunctionDef]]
  | .asyncFunctionDef => all [async, functionDef]
  | .functionDef => all ["def", name, parameters, optional ["->", test], ":", suite]
  | .parameters => all ["(", optional [parameterList], ")"]
  | .parameterList => parameterShape parameter typedName
  | .typedName => all [name, optional [":", test]]
  | .parameter => oneOf [typedName, all ["(", parameterTuple, ")"]]
  | .parameterTuple => commaList parameter
  | .lambdaParameterList => parameterShape lambdaParameter lambdaName
  | .lambdaName => name
  | .lambdaParameter => oneOf [lambdaName, all ["(", lambdaParameterTuple, ")"]]
  | .lambdaParameterTuple => commaList lambdaParameter
  | .statement => oneOf [simpleStatement, compoundStatement]
  | .simpleStatement => all [separated ";" smallStatement, optional [";"], newline]
  | .smallStatement =>
    oneOf
      [exprStatement, printStatement, delStatement, passStatement, flowStatement, importStatement,
       globalStatement, execStatement, assertStatement]
  | .exprStatement =>
    all
      [testlistStar,
       oneOf
         [annotatedAssign, all [augmentedAssign, oneOf [yieldExpr, testlist]],
          repeated ["=", oneOf [yieldExpr, testlistStar]]]]
  | .annotatedAssign => all [":", test, optional ["=", test]]
  | .testlistStar => commaList (oneOf [test, starExpr])
  | .augmentedAssign =>
    oneOf ["+=", "-=", "*=", "@=", "/=", "%=", "&=", "|=", "^=", "<<=", ">>=", "**=", "//="]
  | .printStatement =>
    all
      ["print",
       oneOf
         [optional [commaList test],
          all [">>", test, optional [",", test, repeated [",", test], optional [","]]]]]
  | .delStatement => all ["del", exprlist]
  | .passStatement => "pass"
  | .flowStatement =>
    oneOf [breakStatement, continueStatement, returnStatement, raiseStatement, yieldStatement]
  | .breakStatement => "break"
  | .continueStatement => "continue"
  | .returnStatement => all ["return", optional [testlistStar]]
  | .yieldStatement => yieldExpr
  | .raiseStatement =>
    all
      ["raise",
       optional [test, optional [oneOf [all ["from", test], all [",", test, optional [",", test]]]]]]
  | .importStatement => oneOf [importName, importFrom]
  | .importName => all ["import", dottedAsNames]
  | .importFrom =>
    all
      ["from", oneOf [all [repeated ["."], dottedName], all [".", repeated ["."]]], "import",
       oneOf ["*", all ["(", importAsNames, ")"], importAsNames]]
  | .importAsName => all [name, optional ["as", name]]
  | .dottedAsName => all [dottedName, optional ["as", name]]
  | .importAsNames => commaList importAsName
  | .dottedAsNames => separated "," dottedAsName
  | .dottedName => separated "." name
  | .globalStatement => all [oneOf ["global", "nonlocal"], separated "," name]
  | .execStatement => all ["exec", expr, optional ["in", test, optional [",", test]]]
  | .assertStatement => all ["assert", test, optional [",", test]]
  | .compoundStatement =>
    oneOf
      [ifStatement, whileStatement, forStatement, tryStatement, withStatement, functionDef, classDef,
       decorated, asyncStatement]
  | .asyncStatement => all [async, oneOf [functionDef, withStatement, forStatement]]
  | .ifStatement =>
    all
      ["if", namedTest, ":", suite, repeated ["elif", namedTest, ":", suite],
       optional ["else", ":", suite]]
  | .whileStatement => all ["while", namedTest, ":", suite, optional ["else", ":", suite]]
  | .forStatement =>
    all ["for", exprlist, "in", testlist, ":", suite, optional ["else", ":", suite]]
  | .tryStatement =>
    all
      ["try", ":", suite,
       oneOf
         [all
            [exceptClause, ":", suite, repeated [exceptClause, ":", suite],
             optional ["else", ":", suite], optional ["finally", ":", suite]],
          all ["finally", ":", suite]]]
  | .withStatement => all ["with", separated "," withItem, ":", suite]
  | .withItem => all [test, optional ["as", expr]]
  | .exceptClause => all ["except", optional [test, optional [oneOf [",", "as"], test]]]
  | .suite => oneOf [simpleStatement, all [newline, indent, statement, repeated [statement], dedent]]
  | .testlistSafe =>
    all [oldTest, optional [",", oldTest, repeated [",", oldTest], optional [","]]]
  | .oldTest => oneOf [orTest, oldLambda]
  | .oldLambda => all ["lambda", optional [lambdaParameterList], ":", oldTest]
  | .namedTest => all [test, optional [":=", test]]
  | .test => oneOf [all [orTest, optional ["if", orTest, "else", test]], lambdaDef]
  | .orTest => separated "or" andTest
  | .andTest => separated "and" notTest
  | .notTest => oneOf [all ["not", notTest], comparison]
  | .comparison => separated comparisonOp expr
  | .comparisonOp =>
    oneOf
      ["<", ">", "==", ">=", "<=", "<>", "!=", "in", all ["not", "in"], "is", all ["is", "not"]]
  | .starExpr => all ["*", expr]
  | .expr => separated "|" xorExpr
  | .xorExpr => separated "^" andExpr
  | .andExpr => separated "&" shiftExpr
  | .shiftExpr => separated (oneOf ["<<", ">>"]) arithExpr
  | .arithExpr => separated (oneOf ["+", "-"]) term
  | .term => separated (oneOf ["*", "@", "/", "%", "//"]) factor
  | .factor => oneOf [all [oneOf ["+", "-", "~"], factor], power]
  | .power => all [optional [await], atom, repeated [trailer], optional ["**", factor]]
  | .atom =>
    oneOf
      [all ["(", optional [oneOf [yieldExpr, tupleMaker]], ")"], all ["[", optional [listMaker], "]"],
       all ["\x7b", optional [dictMaker], "\x7d"], all ["\x60", quotedTests, "\x60"], name, number,
       all [string, repeated [string]], all [".", ".", "."]]
  | .listMaker => elements
  | .tupleMaker => elements
  | .lambdaDef => all ["lambda", optional [lambdaParameterList], ":", test]
  | .trailer =>
    oneOf
      [all ["(", optional [argumentList], ")"], all ["[", subscriptList, "]"], all [".", name]]
  | .subscriptList => commaList subscript
  | .subscript => oneOf [test, all [optional [test], ":", optional [test], optional [sliceOp]]]
  | .sliceOp => all [":", optional [test]]
  | .exprlist => commaList (oneOf [expr, starExpr])
  | .testlist => commaList test
  | .dictMaker =>
    let entry : Rx := oneOf [all [test, ":", test], all ["**", expr]]
    let element : Rx := oneOf [test, starExpr]
    oneOf
      [all [entry, oneOf [compFor, all [repeated [",", entry], optional [","]]]],
       all [element, oneOf [compFor, all [repeated [",", element], optional [","]]]]]
  | .classDef => all ["class", name, optional ["(", optional [argumentList], ")"], ":", suite]
  | .argumentList => commaList argument
  | .argument =>
    oneOf
      [all [test, optional [compFor]], all [test, ":=", test], all [test, "=", test],
       all ["**", test], all ["*", test]]
  | .compIter => oneOf [compFor, compIf]
  | .compFor => all [optional [async], "for", exprlist, "in", testlistSafe, optional [compIter]]
  | .compIf => all ["if", oldTest, optional [compIter]]
  | .quotedTests => separated "," test
  | .yieldExpr => all ["yield", optional [yieldArg]]
  | .yieldArg => oneOf [all ["from", test], testlistStar]
where
  /-- The inside of brackets: a comprehension, or elements with commas between them. -/
  elements : Rx :=
    let element : Rx := oneOf [namedTest, starExpr]
    all [element, oneOf [compFor, all [repeated [",", element], optional [","]]]]

/-- The words that are no names. -/
def keywords : List (List Char) :=
  ["and", "as", "assert", "break", "class", "continue", "def", "del", "elif", "else", "except", "exec",
   "finally", "for", "from", "global", "if", "import", "in", "is", "lambda", "nonlocal", "not", "or",
   "pass", "print", "raise", "return", "try", "while", "with", "yield"].map String.toList

/-- More than the rules that can open with one another in a row. -/
def ruleDepth : Nat := 100

/-- May this part start with `t`? The rules that open with one another in a row are fewer than `fuel`. -/
def Part.startsWith (t : Terminal) : Nat → Part → Bool
  | _, .terminal u => t = u
  | 0, .rule _ => false
  | fuel + 1, .rule r => r.body.firsts.any (startsWith t fuel)

end TypeComments.Source
