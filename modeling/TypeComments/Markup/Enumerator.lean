import TypeComments.Text.Blank
import TypeComments.Text.Case

/-!
Enumerators of list items: a number, a letter, a Roman numeral or a hash, in parentheses, before a
parenthesis or before a full stop.
-/

namespace TypeComments.Markup

/-- What an enumerator counts with. -/
inductive Sequence where
  | arabic
  | lowerAlpha
  | upperAlpha
  | lowerRoman
  | upperRoman
  | auto
  deriving DecidableEq

/-- What stands around the counter. -/
inductive EnumFormat where
  | parens
  | rparen
  | period
  deriving DecidableEq

/-- An enumerator: its format, its counter and its length with the blanks after it. -/
structure Enumerator where
  format : EnumFormat
  counter : List Char
  length : Nat

/-- Roman numerals with their values, largest first. -/
def romanDigits : List (Nat × List Char) :=
  [(1000, "M"), (900, "CM"), (500, "D"), (400, "CD"), (100, "C"), (90, "XC"), (50, "L"), (40, "XL"),
   (10, "X"), (9, "IX"), (5, "V"), (4, "IV"), (1, "I")].map fun (n, s) => (n, s.toList)

/-- A number in Roman numerals, if it is below five thousand. -/
def toRoman? (n : Nat) : Option (List Char) :=
  if n == 0 || 5000 ≤ n then none
  else
    some (romanDigits.foldl
      (fun (left, out) (value, digits) =>
        (left % value, out ++ (List.replicate (left / value) digits).flatten)) (n, [])).2

def romanValue (c : Char) : Nat :=
  ((romanDigits.find? fun (_, digits) => digits == [c]).map (·.1)).getD 0

/-- The sum of Roman digits, those before a larger one taken away. -/
def romanSum : List Char → Int
  | [] => 0
  | [c] => romanValue c
  | c :: d :: rest =>
    (if romanValue c < romanValue d then -(romanValue c : Int) else romanValue c) + romanSum (d :: rest)

/-- The number that a text in Roman numerals stands for. -/
def ofRoman? (s : List Char) : Option Nat :=
  let n := (romanSum s).toNat
  if toRoman? n == some s then some n else none

def isAsciiDigit (c : Char) : Bool :=
  '0' ≤ c && c ≤ '9'

/-- May a text be counted in this sequence? -/
def Sequence.admits (s : List Char) : Sequence → Bool
  | .arabic => !s.isEmpty && s.all isAsciiDigit
  | .lowerAlpha => s.length == 1 && s.all fun c => 'a' ≤ c && c ≤ 'z'
  | .upperAlpha => s.length == 1 && s.all fun c => 'A' ≤ c && c ≤ 'Z'
  | .lowerRoman => !s.isEmpty && s.all fun c => "ivxlcdm".toList.contains c
  | .upperRoman => !s.isEmpty && s.all fun c => "IVXLCDM".toList.contains c
  | .auto => s == ['#']

/-- The sequences, in the order in which they are tried. -/
def Sequence.tried : List Sequence :=
  [.arabic, .lowerAlpha, .upperAlpha, .lowerRoman, .upperRoman]

/-- The length of a marker of `n` characters with the blanks after it; `none` if other text follows. -/
def markerLength (n : Nat) (s : List Char) : Option Nat :=
  match s.drop n with
  | [] => some n
  | ' ' :: rest => some (n + 1 + (rest.takeWhile (· == ' ')).length)
  | _ => none

def counterOf (s : List Char) : List Char :=
  s.takeWhile fun c => c.isAlphanum || c == '#'

def isCounter (s : List Char) : Bool :=
  (Sequence.auto :: Sequence.tried).any (·.admits s)

def enumerator? (s : List Char) : Option Enumerator :=
  let make (format : EnumFormat) (counter : List Char) (n : Nat) : Option Enumerator :=
    if isCounter counter then (markerLength n s).map (⟨format, counter, ·⟩) else none
  match s with
  | '(' :: rest =>
    let counter := counterOf rest
    if (rest.drop counter.length).head? == some ')' then make .parens counter (counter.length + 2)
    else none
  | s =>
    let counter := counterOf s
    match (s.drop counter.length).head? with
    | some ')' => make .rparen counter (counter.length + 1)
    | some '.' => make .period counter (counter.length + 1)
    | _ => none

/-- The sequence of a counter. An expected sequence is tried first; a lone `i` is Roman. -/
def Enumerator.sequence (expected : Option Sequence) (e : Enumerator) : Sequence :=
  let first := (Sequence.tried.find? (·.admits e.counter)).getD .auto
  if e.counter == ['#'] then .auto
  else match expected with
    | some s => if s != .auto && s.admits e.counter then s else first
    | none =>
      if e.counter == ['i'] then .lowerRoman
      else if e.counter == ['I'] then .upperRoman
      else first

/-- The ordinal of a counter in a sequence; `none` if it is no numeral. -/
def Enumerator.ordinal (e : Enumerator) : Sequence → Option Nat
  | .arabic => some (e.counter.foldl (fun n c => n * 10 + (c.toNat - '0'.toNat)) 0)
  | .lowerAlpha => some ((e.counter.headD 'a').toNat - 'a'.toNat + 1)
  | .upperAlpha => some ((e.counter.headD 'A').toNat - 'A'.toNat + 1)
  | .lowerRoman => ofRoman? (upper e.counter)
  | .upperRoman => ofRoman? e.counter
  | .auto => some 1

/-- The counter of an ordinal in a sequence. -/
def Sequence.counter? (ordinal : Nat) : Sequence → Option (List Char)
  | .arabic => some (toString ordinal).toList
  | .lowerAlpha => if 26 < ordinal then none else some [Char.ofNat ('a'.toNat + ordinal - 1)]
  | .upperAlpha => if 26 < ordinal then none else some [Char.ofNat ('A'.toNat + ordinal - 1)]
  | .lowerRoman => (toRoman? ordinal).map lower
  | .upperRoman => toRoman? ordinal
  | .auto => some ['#']

/-- A counter in its format, with a blank after it. -/
def EnumFormat.wrap (counter : List Char) : EnumFormat → List Char
  | .parens => '(' :: counter ++ [')', ' ']
  | .rparen => counter ++ [')', ' ']
  | .period => counter ++ ['.', ' ']

/-- May an item with this ordinal stand before the line `next`? The line is blank, indented, or starts
with the next enumerator or an automatic one. -/
def fitsBefore (ordinal : Nat) (sequence : Sequence) (format : EnumFormat) :
    Option (List Char) → Bool
  | none => true
  | some next =>
    (next.head?.all isBlank) ||
      match sequence.counter? (ordinal + 1) with
      | none => false
      | some counter =>
        (format.wrap counter).isPrefixOf next || (format.wrap ['#']).isPrefixOf next

end TypeComments.Markup
