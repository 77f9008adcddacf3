import TypeComments.Source.Token.Scan
import TypeComments.Source.Tree.Build
import TypeComments.Text.Quoted

/-!
Reading a whole source text. A text that imports `print_function` from the future at its top uses
`print` as a name; in all others it opens a statement.
-/

namespace TypeComments.Source

/-- Does nothing but blanks stand in front of the token? -/
def Token.adjoins (t : Token) : Bool :=
  t.before.all isSpacing

/-- Where the search for imports from the future stands. -/
inductive FutureState where
  /-- Between statements; a docstring may have been seen. -/
  | between (docstring : Bool)
  | afterFrom (docstring : Bool)
  | afterFuture (docstring : Bool)
  | afterImport (docstring : Bool)
  /-- A name may follow. -/
  | wantName (docstring : Bool)
  /-- A comma may follow. -/
  | wantComma (docstring : Bool)

/-- The names imported from the future at the top of a text, and whether the search came to the end of
the tokens. Such an import stands on one line. -/
def futureNames : FutureState → List Token → List (List Char) × Bool
  | _, [] => ([], true)
  | state, t :: rest =>
    let isName (word : String) : Bool := t.adjoins && t.kind = .name && t.text == word.toList
    let isOp (text : String) : Bool := t.adjoins && t.kind = .operator && t.text == text.toList
    let between (docstring : Bool) : List (List Char) × Bool :=
      if t.kind = .newline then futureNames (.between docstring) rest
      else if t.kind = .string then
        if docstring then ([], false) else futureNames (.between true) rest
      else if t.kind = .name && t.text == "from".toList then futureNames (.afterFrom docstring) rest
      else ([], false)
    let ends (docstring : Bool) : List (List Char) × Bool :=
      if t.adjoins then futureNames (.between docstring) rest else between docstring
    let name (docstring : Bool) : List (List Char) × Bool :=
      if t.adjoins && t.kind = .name then
        let (names, toEnd) := futureNames (.wantComma docstring) rest
        (t.text :: names, toEnd)
      else ends docstring
    match state with
    | .between docstring => between docstring
    | .afterFrom docstring =>
      if isName "__future__" then futureNames (.afterFuture docstring) rest else ([], false)
    | .afterFuture docstring =>
      if isName "import" then futureNames (.afterImport docstring) rest else ([], false)
    | .afterImport docstring =>
      if isOp "(" then futureNames (.wantName docstring) rest else name docstring
    | .wantName docstring => name docstring
    | .wantComma docstring =>
      if isOp "," then futureNames (.wantName docstring) rest else ends docstring

/-- Why a text is no source. -/
inductive SourceFault where
  /-- It cannot be cut into tokens; `early` says that this showed before the grammar was chosen. -/
  | scan (fault : ScanFault) (early : Bool)
  /-- A token is refused. -/
  | refused (refusal : Refusal)

def placeText (line column : Nat) : String :=
  s!"({line}, {column})"

def ScanFault.message : ScanFault → String
  | .unindent line =>
    s!"unindent does not match any outer indentation level (<tokenize>, line {line})"
  | .openStatement line =>
    let place := placeText line 0
    s!"('EOF in multi-line statement', {place})"
  | .openString line column =>
    let place := placeText line column
    s!"('EOF in multi-line string', {place})"
  | .overtaken endLine endColumn line column =>
    let last := placeText endLine endColumn
    let place := placeText line column
    s!"({last}, {place})"

def Token.refusalText (what : String) (t : Token) : String :=
  let code := t.code
  let value := String.ofList (quoted t.text)
  let before := String.ofList (quoted t.before)
  let place := placeText t.line t.column
  s!"{what}: type={code}, value={value}, context=({before}, {place})"

def Refusal.message : Refusal → String
  | .badToken t => t.refusalText "bad token"
  | .badInput t => t.refusalText "bad input"
  | .unknownOperator text => String.ofList (quoted text)

def SourceFault.message : SourceFault → String
  | .scan fault _ => fault.message
  | .refused refusal => refusal.message

def SourceFault.kindName : SourceFault → String
  | .scan (.unindent ..) _ => "IndentationError"
  | .scan (.overtaken ..) _ => "AssertionError"
  | .scan .. => "TokenError"
  | .refused (.unknownOperator _) => "KeyError"
  | .refused _ => "ParseError"

/-- The tree of a scanned text. A refused token counts before a fault that comes after it. -/
def Scan.tree (printWord : Bool) (s : Scan) : Except SourceFault Tree :=
  match buildTree printWord s.tokens, s.fault with
  | .error refusal, _ => .error (.refused refusal)
  | .ok (some tree), _ => .ok tree
  | .ok none, some fault => .error (.scan fault false)
  | .ok none, none => .error (.scan (.openStatement 0) false)

/-- The tree of a text in which `print` opens a statement. -/
def readClassic (source : List Char) : Except SourceFault Tree :=
  (scan source).tree true

/-- Is this a fault of the text itself, which shows wherever it is scanned? -/
def ScanFault.isPlain : ScanFault → Bool
  | .overtaken .. => false
  | _ => true

def read (source : List Char) : Except SourceFault Tree :=
  let s := scan source
  let (names, toEnd) := futureNames (.between false) s.tokens
  -- a fault that the search for imports comes upon is found before the grammar is tried
  match s.fault.filter (fun fault => toEnd && fault.isPlain) with
  | some fault => .error (.scan fault true)
  | none => s.tree (!names.contains "print_function".toList)

end TypeComments.Source
