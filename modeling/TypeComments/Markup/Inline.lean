import TypeComments.Markup.Node
import TypeComments.Markup.Punctuation
import TypeComments.Text.Word

/-!
Inline markup: emphasis, strong text, literals, references, footnotes and substitutions. A backslash
takes the markup from the character after it; inside this module it is a null character in front of
that character. Markup that is opened and not closed is a problem, and its opening is kept as text.
-/

namespace TypeComments.Markup

/-- Backslashes as nulls; the character after one is not looked at. -/
def escapes : List Char → List Char
  | [] => []
  | ['\\'] => ['\x00']
  | '\\' :: c :: rest => '\x00' :: c :: escapes rest
  | c :: rest => c :: escapes rest

/-- The text without nulls. A blank or line feed after a null goes with it. -/
def unescaped : List Char → List Char
  | [] => []
  | '\x00' :: ' ' :: rest => unescaped rest
  | '\x00' :: '\n' :: rest => unescaped rest
  | c :: rest => if c == '\x00' then unescaped rest else c :: unescaped rest

/-- The text as written, with its backslashes. -/
def asWritten (s : List Char) : List Char :=
  s.map fun c => if c == '\x00' then '\\' else c

def isNameChar (c : Char) : Bool :=
  isWord c && c != '_'

def isNameJoiner (c : Char) : Bool :=
  c == '-' || c == '.' || c == '_' || c == '+' || c == ':'

/-- The length of the rest of a reference name. -/
def nameTail : List Char → Nat
  | [] => 0
  | [c] => if isNameChar c then 1 else 0
  | c :: d :: rest =>
    if isNameChar c then nameTail (d :: rest) + 1
    else if isNameJoiner c && isNameChar d then nameTail rest + 2
    else 0

def nameLength : List Char → Nat
  | [] => 0
  | c :: rest => if isNameChar c then nameTail rest + 1 else 0

/-- What opens at a place. -/
inductive Opening where
  /-- Marked text, up to its end mark. -/
  | mark (m : Mark)
  | substitution
  /-- A complete reference. -/
  | reference (target : Target) (shown : List Char)

/-- Is the text at its end or before something else than a blank? -/
def beforeText (s : List Char) : Bool :=
  !(s.head?.any isBlank)

/-- A footnote or citation label. -/
def noteTarget? (label : List Char) : Option (Target × List Char) :=
  match label with
  | [] => none
  | ['#'] => some (.numberedNote, [])
  | ['*'] => some (.symbolNote, [])
  | '#' :: name =>
    if nameLength name == name.length then some (.note (normalName name), []) else none
  | label =>
    if label.all (fun c => '0' ≤ c && c ≤ '9') || nameLength label == label.length then
      some (.note (normalName label), label)
    else none

/-- The opening at the start of a text, and its length. -/
def openingAt (s : List Char) : Option (Opening × Nat) :=
  let reference : Option (Opening × Nat) :=
    match nameLength s with
    | 0 => none
    | n =>
      let name := s.take n
      match s.drop n with
      | '_' :: '_' :: rest =>
        if closesBefore rest then some (.reference .anonymous name, n + 2) else none
      | '_' :: rest =>
        if closesBefore rest then some (.reference (.named (normalName name)) name, n + 1) else none
      | _ => none
  match s with
  | '*' :: '*' :: rest => if beforeText rest then some (.mark .strong, 2) else none
  | '*' :: rest => if beforeText rest then some (.mark .emphasis, 1) else none
  | '\x60' :: '\x60' :: rest => if beforeText rest then some (.mark .literal, 2) else none
  | '|' :: rest =>
    if rest.head? != some '|' && beforeText rest then some (.substitution, 1) else none
  | '[' :: rest =>
    let label := rest.takeWhile (· != ']')
    match rest.drop label.length, noteTarget? label with
    | ']' :: '_' :: after, some (target, shown) =>
      if closesBefore after then some (.reference target shown, label.length + 3) else none
    | _, _ => none
  | _ => reference

/-- Something that opens in a text. -/
structure Opened where
  before : List Char
  opening : Opening
  /-- The text of the opening. -/
  start : List Char
  /-- The text after the opening. -/
  after : List Char
  /-- The character in front of the opening. -/
  previous : Option Char

/-- The first opening in a text that comes after `previous`. -/
def firstOpening (previous : Option Char) : List Char → Option Opened
  | [] => none
  | c :: rest =>
    let here := if opensAfter previous then openingAt (c :: rest) else none
    match here with
    | some (opening, n) =>
      some ⟨[], opening, (c :: rest).take n, (c :: rest).drop n, previous⟩
    | none => (firstOpening (some c) rest).map fun o => { o with before := c :: o.before }

/-- Is the opening between two marks that match, or at the end? Then it opens nothing. -/
def Opened.isQuoted (o : Opened) : Bool :=
  match o.previous, o.after with
  | none, _ => false
  | some _, [] => true
  | some opening, close :: _ => marksMatch opening close

/-- A closing of markup: the text before it, the end mark and the text after it. -/
structure Closed where
  content : List Char
  mark : List Char
  after : List Char

/-- The first place where one of the end marks closes. An end mark does not follow a blank or an escape;
a longer mark comes first in the list. -/
def firstClosing (literal : Bool) (marks : List (List Char)) (previous : Option Char) :
    List Char → Option Closed
  | [] => none
  | c :: rest =>
    let may := !(previous.any fun p => isBlank p || (!literal && p == '\x00'))
    let here := if may then
      marks.find? (fun m => m.isPrefixOf (c :: rest) && closesBefore ((c :: rest).drop m.length))
      else none
    match here with
    | some m => some ⟨[], m, (c :: rest).drop m.length⟩
    | none =>
      (firstClosing literal marks (some c) rest).map fun f => { f with content := c :: f.content }

def Opening.endMarks : Opening → List (List Char)
  | .mark .emphasis => [['*']]
  | .mark .strong => [['*', '*']]
  | .mark .literal => [['\x60', '\x60']]
  | .mark .problem => []
  | .substitution => [['|', '_', '_'], ['|', '_'], ['|']]
  | .reference .. => []

def Opening.name : Opening → List Char
  | .mark .emphasis => "emphasis".toList
  | .mark .strong => "strong".toList
  | .mark .literal => "literal".toList
  | .mark .problem => "problematic".toList
  | .substitution => "substitution_reference".toList
  | .reference .. => "reference".toList

/-- A substitution with the link that its end mark makes. -/
def substitutionPiece (content mark : List Char) : Inline :=
  let shown := unescaped content
  let link := match mark with
    | ['|', '_', '_'] => some Target.anonymous
    | ['|', '_'] => some (.named (normalName shown))
    | _ => none
  .substitution (joinWords shown) link (asWritten ('|' :: content ++ mark))

/-- The piece that an opening makes of what it encloses. -/
def Opening.piece (content mark : List Char) : Opening → Inline
  | .mark .literal => .marked .literal (asWritten content)
  | .mark m => .marked m (unescaped content)
  | .substitution => substitutionPiece content mark
  | .reference target shown => .reference target shown content

/-- The text up to the first markup as a piece, if there is any. -/
def textPiece (s : List Char) : List Inline :=
  if s.isEmpty then [] else [.text (unescaped s)]

def unclosedText (opening : Opening) : List Char :=
  "Inline ".toList ++ opening.name ++ " start-string without end-string.".toList

/-- The pieces of an escaped text and the problems in it. `plain` is text that has been passed. -/
def piecesFrom (line : Nat) : Nat → List Char → List Char → List Inline × List Problem
  | 0, plain, s => (textPiece (plain ++ s), [])
  | fuel + 1, plain, s =>
    match firstOpening none s with
    | none => (textPiece (plain ++ s), [])
    | some o =>
      let before := plain ++ o.before
      let goOn (piece : Inline) (rest : List Char) (problems : List Problem) :
          List Inline × List Problem :=
        let (pieces, more) := piecesFrom line fuel [] rest
        (textPiece before ++ piece :: pieces, problems ++ more)
      match o.opening with
      | .reference target shown => goOn (.reference target shown (asWritten o.start)) o.after []
      | opening =>
        if o.isQuoted then piecesFrom line fuel (before ++ o.start) o.after
        else
          let literal := match opening with
            | .mark .literal => true
            | _ => false
          match (firstClosing literal opening.endMarks none o.after).filter (!·.content.isEmpty) with
          | some f => goOn (opening.piece f.content f.mark) f.after []
          | none =>
            goOn (.marked .problem (asWritten o.start)) o.after
              [⟨.warning, some line, unclosedText opening⟩]

/-- The inline content of a text on a line, and the problems in it. -/
def inlineContent (line : Nat) (s : List Char) : List Inline × List Problem :=
  let s := escapes s
  piecesFrom line (s.length + 1) [] s

end TypeComments.Markup
