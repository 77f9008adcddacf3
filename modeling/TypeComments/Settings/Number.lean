import TypeComments.Text.Blank
import TypeComments.Text.Case
import TypeComments.Text.Digit

/-!
Numbers in settings. Digits of every script count, and single underscores may stand between digits. An
integer has a limited number of digits.
-/

namespace TypeComments.Settings

/-- A decimal number: `mantissa` with the point moved `places` to the left. -/
structure Decimal where
  mantissa : Int
  places : Nat
  deriving DecidableEq

def digitIn? (base : Nat) (c : Char) : Option Nat :=
  let value := match digitValue? c with
    | some n => some n
    | none =>
      if 'a' ≤ c && c ≤ 'z' then some (c.toNat - 'a'.toNat + 10)
      else if 'A' ≤ c && c ≤ 'Z' then some (c.toNat - 'A'.toNat + 10)
      else none
  value.filter (· < base)

/-- The digits of a text, if it is made of digits with single underscores between them. -/
def digits? (base : Nat) : List Char → Option (List Nat)
  | [] => none
  | [c] => (digitIn? base c).map ([·])
  | c :: '_' :: rest => do
    let d ← digitIn? base c
    let ds ← digits? base rest
    pure (d :: ds)
  | c :: rest => do
    let d ← digitIn? base c
    let ds ← digits? base rest
    pure (d :: ds)

def ofDigits (base : Nat) (digits : List Nat) : Nat :=
  digits.foldl (fun n d => n * base + d) 0

/-- The sign at the start of a text, and the text after it. -/
def splitSign : List Char → Int × List Char
  | '-' :: rest => (-1, rest)
  | '+' :: rest => (1, rest)
  | s => (1, s)

/-- The text without the mark of its base. An underscore may follow the mark. -/
def dropBaseMark (base : Nat) (s : List Char) : List Char :=
  let isMark (c : Char) : Bool :=
    (base == 16 && (c == 'x' || c == 'X')) || (base == 8 && (c == 'o' || c == 'O')) ||
      (base == 2 && (c == 'b' || c == 'B'))
  match s with
  | '0' :: c :: rest =>
    if isMark c then
      match rest with
      | '_' :: rest => rest
      | rest => rest
    else s
  | s => s

/-- Blanks that may stand around a number: all but the separators of files, groups, records and units. -/
def isNumberBlank (c : Char) : Bool :=
  isBlank c && !('\x1c' ≤ c && c ≤ '\x1f')

/-- The most digits of an integer. -/
def digitLimit : Nat := 4300

/-- Are the digits of an integer to this base limited? Those to a power of two are read one by one and are
not. -/
def isLimited (base : Nat) : Bool :=
  base != 2 && base != 8 && base != 16

/-- Why a text is no integer. -/
inductive IntFault where
  | malformed
  /-- It starts with more digits than an integer may have. -/
  | tooLong (digits : Nat)
  deriving DecidableEq

/-- Read an integer. Its digits are counted before what follows them is looked at. -/
def readInt (base : Nat) (s : List Char) : Except IntFault Int :=
  let (sign, body) := splitSign (trimBy isNumberBlank s)
  let body := dropBaseMark base body
  let run := body.takeWhile fun c => (digitIn? base c).isSome || c == '_'
  match digits? base run with
  | none => .error .malformed
  | some ds =>
    if isLimited base && digitLimit < ds.length then .error (.tooLong ds.length)
    else if run.length < body.length then .error .malformed
    else .ok (sign * ofDigits base ds)

/-- Read an integer whose base its start shows: `0x`, `0b` or an octal zero. -/
def readMarkedInt (s : List Char) : Except IntFault Int :=
  match lower (s.take 2) with
  | ['0', 'x'] => readInt 16 s
  | ['0', 'b'] => readInt 2 (if (s.drop 2).isEmpty then ['0'] else s.drop 2)
  | _ => if s.head? == some '0' then readInt 8 s else readInt 10 s

/-- The exponent of a decimal number: a letter, a sign and digits, or nothing. -/
def readExponent? : List Char → Option Int
  | [] => some 0
  | c :: rest =>
    if c == 'e' || c == 'E' then
      let (sign, body) := splitSign rest
      (digits? 10 body).map fun ds => sign * ofDigits 10 ds
    else none

/-- The digits of a part of a decimal number that may be empty. -/
def optionalDigits? (s : List Char) : Option (List Nat) :=
  if s.isEmpty then some [] else digits? 10 s

/-- A mantissa with digits after the point, moved by an exponent. -/
def Decimal.scaled (mantissa : Int) (places : Nat) (exponent : Int) : Decimal :=
  if exponent ≤ places then ⟨mantissa, (places - exponent).toNat⟩
  else ⟨mantissa * Nat.pow 10 (exponent - places).toNat, 0⟩

def readDecimal? (s : List Char) : Option Decimal := do
  let (sign, body) := splitSign (trimBy isNumberBlank s)
  let isPart (c : Char) : Bool := (digitValue? c).isSome || c == '_'
  let whole := body.takeWhile isPart
  let after := body.drop whole.length
  let (fraction, rest) := match after with
    | '.' :: rest => (rest.takeWhile isPart, rest.dropWhile isPart)
    | rest => ([], rest)
  let ws ← optionalDigits? whole
  let fs ← optionalDigits? fraction
  if ws.isEmpty && fs.isEmpty then none
  else
    let exponent ← readExponent? rest
    pure (Decimal.scaled (sign * ofDigits 10 (ws ++ fs)) fs.length exponent)

end TypeComments.Settings
