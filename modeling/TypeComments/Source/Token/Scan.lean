import TypeComments.Source.Lexeme
import TypeComments.Text.Lines

/-!
Cutting a source text into tokens. The scanner reads line by line; what is no token (blanks, comments,
blank lines, line continuations) waits in `gap` until the next token takes it.

A statement is indented by the column of its first character: a blank is one column, a tab goes to the
next multiple of eight, a form feed goes back to the first. Inside brackets, after a continuation and
inside a string the indentation does not count.

`async` is a keyword in front of `def` and `for` and, like `await`, inside an `async def`. Whether it
is one shows at the next word, so it is held back until then.
-/

namespace TypeComments.Source

/-- Why a text cannot be cut into tokens to its end. -/
inductive ScanFault where
  /-- A line is indented less than its block and not as an outer one. -/
  | unindent (line : Nat)
  /-- The text ends inside brackets or after a continuation. -/
  | openStatement (line : Nat)
  /-- The text ends inside the string that starts here. -/
  | openString (line column : Nat)
  /-- A token that was held back starts before the end of the last one. -/
  | overtaken (endLine endColumn line column : Nat)
  deriving DecidableEq

/-- A string that goes on after its line. -/
structure OpenString where
  quote : Char
  triple : Bool
  before : List Char
  text : List Char
  line : Nat
  column : Nat

/-- The length of a line up to the end of the string that it continues. -/
def OpenString.closing? (o : OpenString) (line : List Char) : Option Nat :=
  if o.triple then closingTriple? o.quote line else Source.closing? o.quote line

/-- A block that is the body of an `async def`. -/
structure AsyncBlock where
  /-- The column of the `async def`. -/
  column : Nat
  /-- Is its first line complete? -/
  opened : Bool

/-- The scanner between two pieces of text. -/
structure Scanner where
  /-- The tokens, last first. -/
  tokens : List Token := []
  /-- The text since the last token. -/
  gap : List Char := []
  line : Nat := 0
  /-- The columns of the open blocks, innermost first. -/
  indents : List Nat := [0]
  /-- Open brackets less closed ones. -/
  depth : Int := 0
  /-- Did the last line end in a continuation? -/
  continued : Bool := false
  inString : Option OpenString := none
  asyncBlock : Option AsyncBlock := none
  /-- The word `async`, held back. -/
  held : Option Token := none
  /-- The end of the last token that came before the word held back. -/
  overtakenAt : Option (Nat × Nat) := none
  /-- Has a last line of blanks only ended the text? -/
  ended : Bool := false
  fault : Option ScanFault := none

/-- What the scanner makes of a piece of a line. -/
inductive PieceKind where
  | comment
  | continuation
  | string
  | number
  | lineEnd
  | operator
  /-- A word that may open an identifier. -/
  | word
  /-- A string that goes on after the line. -/
  | opened (quote : Char) (triple : Bool)
  /-- Text that is no token. -/
  | stray
  deriving DecidableEq

/-- Is this text of a number one? It opens with an ASCII digit or a point. -/
def opensNumber (text : List Char) : Bool :=
  text.head?.any fun c => ('0' ≤ c && c ≤ '9') || c == '.'

/-- The piece at the start of a text without leading blanks, and its length. -/
def pieceAt? (s : List Char) : Option (PieceKind × Nat) :=
  match lexeme? s with
  | none => none
  | some (.continuation, n) => some (.continuation, n)
  | some (.comment, n) => some (.comment, n)
  | some (.tripleQuote q, n) =>
    match closingTriple? q (s.drop n) with
    | none => some (.opened q true, s.length)
    | some m => some (.string, n + m)
  | some (.number, n) => some (if opensNumber (s.take n) then .number else .operator, n)
  | some (.lineEnd, n) => some (.lineEnd, n)
  | some (.operator, n) => some (.operator, n)
  | some (.string, n) => some (.string, n)
  | some (.openString q, _) => some (.opened q false, s.length)
  | some (.word, n) => some (if (s.take n).head?.any isIdentifierStart then .word else .operator, n)

/-- A piece that is cut off a line: the blanks in front of it, its text and what is left. -/
structure Cut where
  kind : PieceKind
  blanks : List Char
  text : List Char
  rest : List Char

def cutPiece (c : Char) (cs : List Char) : Cut :=
  let blanks := (c :: cs).takeWhile isSpacing
  let body := (c :: cs).dropWhile isSpacing
  match pieceAt? body with
  | none => ⟨.stray, [], [c], cs⟩
  | some (kind, n) => ⟨kind, blanks, body.take n, cs.drop (blanks.length + n - 1)⟩

theorem length_rest_le (c : Char) (cs : List Char) : (cutPiece c cs).rest.length ≤ cs.length := by
  simp only [cutPiece]
  split
  · exact Nat.le_refl _
  · rw [List.length_drop]
    exact Nat.sub_le _ _

namespace Scanner

def indentColumn (s : Scanner) : Nat :=
  s.indents.headD 0

/-- Keep text for the next token. -/
def skip (s : Scanner) (text : List Char) : Scanner :=
  { s with gap := s.gap ++ text }

/-- Add a token. Nothing follows a fault. -/
def push (s : Scanner) (t : Token) : Scanner :=
  if s.fault.isSome then s else { s with tokens := t :: s.tokens }

/-- Release the word held back as a token of kind `kind`. -/
def release (s : Scanner) (kind : Kind) : Scanner :=
  match s.held, s.overtakenAt with
  | none, _ => s
  | some t, none => { s with held := none }.push { t with kind }
  | some t, some (endLine, endColumn) =>
    { s with
      held := none
      overtakenAt := none
      fault := s.fault <|> some (.overtaken endLine endColumn t.line t.column) }

def releaseName (s : Scanner) : Scanner :=
  s.release .name

/-- Add a token that starts on this line. -/
def emit (s : Scanner) (kind : Kind) (text : List Char) (column : Nat) : Scanner :=
  { s with gap := [] }.push ⟨kind, s.gap, text, s.line, column⟩

/-- Add a token that ends at `endColumn` of this line, in front of the word held back if there is one. -/
def overtake (s : Scanner) (t : Token) (endColumn : Nat) : Scanner :=
  match s.held with
  | none => { s with gap := [] }.push t
  | some h =>
    -- the first token to pass the word takes the source of the word along
    let before := if s.overtakenAt.isNone then h.source ++ t.before else t.before
    { s with gap := [], overtakenAt := some (s.line, endColumn) }.push { t with before }

/-- A number or stray text, which does not wait for the word held back. -/
def emitAtOnce (s : Scanner) (kind : Kind) (text : List Char) (column : Nat) : Scanner :=
  s.overtake ⟨kind, s.gap, text, s.line, column⟩ (column + text.length)

/-- A word that may open an identifier. -/
def emitWord (s : Scanner) (text : List Char) (column : Nat) : Scanner :=
  let isAsync := text == "async".toList
  if s.asyncBlock.isSome && isAsync then s.emit .async text column
  else if s.asyncBlock.isSome && text == "await".toList then s.emit .await text column
  else if isAsync && s.held.isNone then
    { s with held := some ⟨.name, s.gap, text, s.line, column⟩, gap := [] }
  else if s.held.isSome && text == "def".toList then
    let s : Scanner := { s.release .async with asyncBlock := some ⟨s.indentColumn, false⟩ }
    s.emit .name text column
  else if s.held.isSome && text == "for".toList then (s.release .async).emit .name text column
  else s.releaseName.emit .name text column

/-- The end of a logical line, or of a line inside brackets. -/
def emitLineEnd (s : Scanner) (text : List Char) (column : Nat) : Scanner :=
  -- inside brackets a line end is text between tokens
  if 0 < s.depth then s.releaseName.skip text
  else
    let s : Scanner := { s with asyncBlock := s.asyncBlock.map fun b => { b with opened := true } }
    s.releaseName.emit .newline text column

/-- Open brackets less closed ones, after an operator. -/
def depthAfter (depth : Int) (operator : List Char) : Int :=
  match operator.head? with
  | some c =>
    if c == '(' || c == '[' || c == '\x7b' then depth + 1
    else if c == ')' || c == ']' || c == '\x7d' then depth - 1
    else depth
  | none => depth

/-- An operator, or a word that no identifier can open with. -/
def emitOperator (s : Scanner) (text : List Char) (column : Nat) : Scanner :=
  let s : Scanner := { s with depth := depthAfter s.depth text }
  s.releaseName.emit .operator text column

/-- Take a piece with this text, which starts at `column`. -/
def take (s : Scanner) (column : Nat) (text : List Char) : PieceKind → Scanner
  | .comment => s.releaseName.skip text
  | .continuation => { s.releaseName.skip text with continued := true }
  | .string => s.releaseName.emit .string text column
  | .number => s.emitAtOnce .number text column
  | .lineEnd => s.emitLineEnd text column
  | .operator => s.emitOperator text column
  | .word => s.emitWord text column
  | .opened quote triple =>
    { s with inString := some ⟨quote, triple, s.gap, text, s.line, column⟩, gap := [] }
  | .stray => s.emitAtOnce .stray text column

/-- Cut the rest of a line, from `column` on. -/
def scanRest (s : Scanner) (column : Nat) : List Char → Scanner
  | [] => s
  | c :: cs =>
    let next := cutPiece c cs
    let start := column + next.blanks.length
    scanRest ((s.skip next.blanks).take start next.text next.kind) (start + next.text.length) next.rest
termination_by rest => rest.length
decreasing_by exact Nat.lt_succ_of_le (length_rest_le c cs)

/-- The column after blanks. -/
def columnAfter (blanks : List Char) : Nat :=
  blanks.foldl (fun column c =>
    if c == ' ' then column + 1 else if c == '\t' then (column / 8 + 1) * 8 else 0) 0

/-- Leave the `async def` whose block is closed. -/
def leaveAsync (closed : Bool) (s : Scanner) : Scanner :=
  match s.asyncBlock with
  | some b => if (closed || b.opened) && s.indentColumn ≤ b.column then { s with asyncBlock := none } else s
  | none => s

/-- Close these blocks at `column`. -/
def dedent (s : Scanner) (column : Nat) (closed : List Nat) : Scanner :=
  closed.foldl (fun s _ => s.emit .dedent [] column) s

/-- Open a block, or close blocks, for a statement at `column` after `blanks`. -/
def indentTo (s : Scanner) (column : Nat) (blanks : List Char) : Scanner :=
  if s.indentColumn < column then
    let s : Scanner := { s with indents := column :: s.indents }
    s.emit .indent blanks 0
  else
    -- no new block: the blanks stand in front of the next token
    let s := s.skip blanks
    if s.indents.contains column then
      let closed := s.indents.takeWhile (column < ·)
      let s := { s with indents := s.indents.dropWhile (column < ·) }
      (s.dedent blanks.length closed).leaveAsync !closed.isEmpty
    else { s with fault := some (.unindent s.line) }

/-- The layout of a line with a statement after `blanks`. -/
def layOut (s : Scanner) (blanks : List Char) : Scanner :=
  (s.indentTo (columnAfter blanks) blanks).leaveAsync false

/-- A line that may start a statement. -/
def scanStatement (s : Scanner) (line : List Char) : Scanner :=
  let blanks := line.takeWhile isSpacing
  match line.dropWhile isSpacing with
  -- only the last line can be without a line feed
  | [] => { s with ended := true }
  | c :: rest =>
    let s := s.releaseName
    if c == '#' || c == '\r' || c == '\n' then s.skip line
    else
      let s := s.layOut blanks
      if s.fault.isSome then s else s.scanRest blanks.length (c :: rest)

def endsContinued (line : List Char) : Bool :=
  ['\\', '\n'].isSuffixOf line || ['\\', '\r', '\n'].isSuffixOf line

/-- A line that continues the string `o`. -/
def scanString (s : Scanner) (o : OpenString) (line : List Char) : Scanner :=
  match o.closing? line with
  | some n =>
    let t : Token := ⟨.string, o.before, o.text ++ line.take n, o.line, o.column⟩
    let s : Scanner := { s.overtake t n with inString := none }
    s.scanRest n (line.drop n)
  | none =>
    if o.triple || endsContinued line then
      { s with inString := some { o with text := o.text ++ line } }
    else
      -- in single quotes a string ends with its line, so this is none
      let t : Token := ⟨.stray, o.before, o.text ++ line, o.line, o.column⟩
      { s.overtake t line.length with inString := none }

/-- A line that continues a statement. -/
def scanContinued (s : Scanner) (line : List Char) : Scanner :=
  { s with continued := false }.scanRest 0 line

def scanLine (s : Scanner) (line : List Char) : Scanner :=
  if s.fault.isSome then s
  else
    let s := { s with line := s.line + 1 }
    match s.inString with
    | some o => s.scanString o line
    | none =>
      if s.depth == 0 && !s.continued then s.scanStatement line else s.scanContinued line

def run (lines : List (List Char)) : Scanner :=
  lines.foldl scanLine {}

/-- Close the open blocks and end the text. -/
def closeAll (s : Scanner) : Scanner :=
  (s.dedent 0 (s.indents.drop 1)).emit .endMarker [] 0

/-- The end of the text. A last line without line feed is given one; the open blocks are closed. -/
def finish (s : Scanner) (unended : Bool) : Scanner :=
  if s.fault.isSome then s
  else
    let line := if s.ended then s.line else s.line + 1
    match s.inString with
    | some o => { s with fault := some (.openString o.line o.column) }
    | none =>
      if !s.ended && (s.depth != 0 || s.continued) then { s with fault := some (.openStatement line) }
      else
        let s := { s.releaseName with line }
        if s.fault.isSome then s
        else (if unended && !s.ended then s.skip ['\n'] else s).closeAll

end Scanner

/-- The tokens of a text, and what stopped the scanner before its end. -/
structure Scan where
  tokens : List Token
  fault : Option ScanFault

def scan (source : List Char) : Scan :=
  let s := (Scanner.run (physicalLines source)).finish (source.getLast?.any (· != '\n'))
  ⟨s.tokens.reverse, s.fault⟩

end TypeComments.Source
