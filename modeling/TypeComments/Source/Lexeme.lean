import TypeComments.Source.Token
import TypeComments.Text.Digit
import TypeComments.Text.Word

/-!
The pieces that a line of source is cut into. Each recogniser gives the number of characters that the
piece takes at the start of a text; zero or `none` says that there is no such piece.
-/

namespace TypeComments.Source

/-- The blanks that may stand between tokens. -/
def isSpacing (c : Char) : Bool :=
  c == ' ' || c == '\t' || c == '\x0c'

/-- A decimal digit of any script. -/
def isDigit (c : Char) : Bool :=
  (digitValue? c).isSome

/-- Digits that continue a number: more of them, each group after an underscore. -/
def groupedTail (p : Char → Bool) : List Char → Nat
  | [] => 0
  | [c] => if p c then 1 else 0
  | c :: d :: rest =>
    if p c then groupedTail p (d :: rest) + 1
    else if c == '_' && p d then groupedTail p rest + 2
    else 0

/-- Groups of digits with an underscore between two groups. -/
def grouped (p : Char → Bool) : List Char → Nat
  | [] => 0
  | c :: rest => if p c then groupedTail p rest + 1 else 0

def exponent : List Char → Nat
  | [] => 0
  | e :: rest =>
    if e == 'e' || e == 'E' then
      let sign := if rest.head?.any (fun c => c == '+' || c == '-') then 1 else 0
      match grouped isDigit (rest.drop sign) with
      | 0 => 0
      | n => 1 + sign + n
    else 0

def pointNumber? (s : List Char) : Option Nat :=
  let whole := grouped isDigit s
  match s.drop whole with
  | '.' :: rest =>
    let part := grouped isDigit rest
    if whole == 0 && part == 0 then none
    else some (whole + 1 + part + exponent (rest.drop part))
  | _ => none

def scaledNumber? (s : List Char) : Option Nat :=
  let whole := grouped isDigit s
  let scale := exponent (s.drop whole)
  if whole == 0 || scale == 0 then none else some (whole + scale)

def floatNumber? (s : List Char) : Option Nat :=
  pointNumber? s <|> scaledNumber? s

/-- The length of `s` up to `n` and the mark of an imaginary number after it. -/
def imaginaryAt (s : List Char) (n : Nat) : Option Nat :=
  if (s.drop n).head?.any (fun c => c == 'j' || c == 'J') then some (n + 1) else none

def imaginaryNumber? (s : List Char) : Option Nat :=
  let whole := grouped isDigit s
  (if whole == 0 then none else imaginaryAt s whole) <|>
    (floatNumber? s).bind (imaginaryAt s)

/-- A number in another base: the characters before its digits and the digits, with the mark of a
long number if it may have one. -/
def basedNumber? (long : Bool) (p : Char → Bool) (s : List Char) (lead : Nat) : Option Nat :=
  let lead := if (s.drop lead).head? == some '_' then lead + 1 else lead
  match grouped p (s.drop lead) with
  | 0 => none
  | n =>
    let mark := if long && (s.drop (lead + n)).head?.any (fun c => c == 'l' || c == 'L') then 1 else 0
    some (lead + n + mark)

def wholeNumber? (s : List Char) : Option Nat :=
  match s with
  | [] => none
  | '0' :: rest =>
    let next (p : Char → Bool) : Bool := rest.head?.any p
    let other :=
      if next (fun c => c == 'b' || c == 'B') then
        basedNumber? false (fun c => c == '0' || c == '1') s 2
      else if next (fun c => c == 'x' || c == 'X') then
        basedNumber? true (fun c => isDigit c || ('a' ≤ c && c ≤ 'f') || ('A' ≤ c && c ≤ 'F')) s 2
      else
        basedNumber? true (fun c => '0' ≤ c && c ≤ '7') s
          (if next (fun c => c == 'o' || c == 'O') then 2 else 1)
    other <|> some (if next (fun c => c == 'l' || c == 'L') then 2 else 1)
  | c :: rest =>
    if '1' ≤ c && c ≤ '9' then
      let n := groupedTail isDigit rest + 1
      some (if (s.drop n).head?.any (fun c => c == 'l' || c == 'L') then n + 1 else n)
    else none

def number? (s : List Char) : Option Nat :=
  imaginaryNumber? s <|> floatNumber? s <|> wholeNumber? s

def isQuote (c : Char) : Bool :=
  c == '\x27' || c == '\x22'

/-- May these letters stand in front of a string? -/
def isStringMark (mark : List Char) : Bool :=
  match mark.map Char.toLower with
  | [] => true
  | [c] => c == 'u' || c == 'r' || c == 'b' || c == 'f'
  | [c, d] =>
    (c == 'r' && (d == 'f' || d == 'b')) || (d == 'r' && (c == 'f' || c == 'b' || c == 'u'))
  | _ => false

/-- The opening of a string: the letters in front of the quote, and the quote. -/
def stringOpening? (s : List Char) : Option (Nat × Char) :=
  [0, 1, 2].findSome? fun n =>
    match s.drop n with
    | q :: _ => if isQuote q && isStringMark (s.take n) then some (n, q) else none
    | [] => none

/-- The rest of a string on its first line: its length, and whether it is closed there. A string
that is not closed ends in a line continuation. -/
def stringRest? (q : Char) : List Char → Option (Nat × Bool)
  | [] => none
  | '\\' :: '\n' :: _ => some (2, false)
  | '\\' :: '\r' :: '\n' :: _ => some (3, false)
  | '\\' :: _ :: rest => (stringRest? q rest).map fun (n, closed) => (n + 2, closed)
  | c :: rest =>
    if c == q then some (1, true)
    else if c == '\n' || c == '\\' then none
    else (stringRest? q rest).map fun (n, closed) => (n + 1, closed)

/-- The length of a line up to the quote that closes a string. -/
def closing? (q : Char) : List Char → Option Nat
  | [] => none
  | '\\' :: d :: rest => if d == '\n' then none else (closing? q rest).map (· + 2)
  | c :: rest =>
    if c == q then some 1
    else if c == '\\' then none
    else (closing? q rest).map (· + 1)

/-- The length of a line up to the three quotes that close a string. -/
def closingTriple? (q : Char) : List Char → Option Nat
  | [] => none
  | '\\' :: d :: rest => if d == '\n' then none else (closingTriple? q rest).map (· + 2)
  | c :: rest =>
    if c == q && rest.take 2 == [q, q] then some 3
    else if c == '\\' then none
    else (closingTriple? q rest).map (· + 1)

/-- A piece of a line. -/
inductive Lexeme where
  /-- A backslash at the end of a line. -/
  | continuation
  | comment
  /-- The opening of a string in three quotes. -/
  | tripleQuote (q : Char)
  | number
  | lineEnd
  | operator
  | string
  /-- A string that goes on after the line. -/
  | openString (q : Char)
  | word

/-- The piece at the start of a text, and its length. -/
def lexeme? (s : List Char) : Option (Lexeme × Nat) :=
  let continuation : Option (Lexeme × Nat) := match s with
    | '\\' :: '\n' :: _ => some (.continuation, 2)
    | '\\' :: '\r' :: '\n' :: _ => some (.continuation, 3)
    | _ => none
  let comment : Option (Lexeme × Nat) :=
    if s.head? == some '#' then
      some (.comment, (s.takeWhile fun c => c != '\r' && c != '\n').length)
    else none
  let opening := stringOpening? s
  let triple : Option (Lexeme × Nat) := opening.bind fun (n, q) =>
    if (s.drop n).take 3 == [q, q, q] then some (.tripleQuote q, n + 3) else none
  let lineEnd : Option (Lexeme × Nat) := match s with
    | '\n' :: _ => some (.lineEnd, 1)
    | '\r' :: '\n' :: _ => some (.lineEnd, 2)
    | _ => none
  let operator : Option (Lexeme × Nat) :=
    (operators.find? (fun (text, _) => text.isPrefixOf s)).map fun (text, _) => (.operator, text.length)
  let string : Option (Lexeme × Nat) := opening.bind fun (n, q) =>
    (stringRest? q (s.drop (n + 1))).map fun (m, closed) =>
      (if closed then .string else .openString q, n + 1 + m)
  let word : Option (Lexeme × Nat) := match (s.takeWhile isWord).length with
    | 0 => none
    | n => some (.word, n)
  continuation <|> comment <|> triple <|> (number? s).map (fun n => (.number, n)) <|> operator <|>
    lineEnd <|> string <|> word

end TypeComments.Source
