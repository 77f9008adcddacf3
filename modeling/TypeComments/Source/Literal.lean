import TypeComments.Source.Lexeme
import TypeComments.Text.Blank
import TypeComments.Text.CharName

/-!
The values of string literals. Letters in front of the quotes say how to read what stands between them:
`r` takes it as it is, `b` gives bytes, `f` fills in fields. In a source that is read as one text, any
line end counts as a line feed, and a literal in single quotes holds one only after a backslash.

Of what a field may hold, only constants are evaluated here. A name is taken to have no value, also one
that has a value where the literal stands, and any other expression to be malformed. Characters are known
by the names of a table, and a code that belongs to no character stands for the replacement character.

A text with escapes is read as if each character outside ASCII were written as an escape of ten
characters; places in error messages count in that form.
-/

namespace TypeComments.Source

/-- The value of a string literal. -/
inductive Literal where
  | text (s : List Char)
  | bytes (bs : List Nat)
  deriving DecidableEq

def Literal.isEmpty : Literal → Bool
  | .text s => s.isEmpty
  | .bytes bs => bs.isEmpty

/-- Why an escape cannot be read. -/
inductive EscapeFault where
  | shortByte
  | shortUnit
  | shortWide
  | beyondUnicode
  | malformedName
  | unknownName
  deriving DecidableEq

def EscapeFault.message : EscapeFault → String
  | .shortByte => "truncated \\xXX escape"
  | .shortUnit => "truncated \\uXXXX escape"
  | .shortWide => "truncated \\UXXXXXXXX escape"
  | .beyondUnicode => "illegal Unicode character"
  | .malformedName => "malformed \\N character escape"
  | .unknownName => "unknown Unicode character name"

/-- Why a literal has no value. -/
inductive LiteralFault where
  /-- An escape from `start` up to `stop` cannot be read. -/
  | escape (fault : EscapeFault) (start stop line : Nat)
  /-- A byte escape lacks a digit. -/
  | byteEscape (start line : Nat)
  /-- A byte string holds other characters than ASCII. -/
  | notAscii
  /-- The letters in front of the quotes do not go together. -/
  | badMark
  /-- The text holds a null character. -/
  | nullCharacter
  /-- A line ends before the single quote that closes the literal. -/
  | unterminated (line : Nat)
  /-- A closing brace stands alone. -/
  | singleBrace (line : Nat)
  /-- A field is not closed. -/
  | openField (line : Nat)
  /-- A field is empty. -/
  | emptyField (line : Nat)
  /-- A field holds no expression. -/
  | badField (line : Nat)
  /-- A field names a value that is not there. -/
  | unknownValue (name : List Char)
  deriving DecidableEq

/-- Is a literal at fault because of the name in a field, and not because of how it is written? -/
def LiteralFault.isUnknownValue : LiteralFault → Bool
  | .unknownValue _ => true
  | _ => false

def LiteralFault.message : LiteralFault → String
  | .escape fault start stop line =>
    let last := stop - 1
    let reason := fault.message
    s!"(unicode error) 'unicodeescape' codec can't decode bytes in position {start}-{last}: " ++
      s!"{reason} (<string>, line {line})"
  | .byteEscape start line =>
    s!"(value error) invalid \\x escape at position {start} (<string>, line {line})"
  | .notAscii => "bytes can only contain ASCII literal characters (<string>, line 1)"
  | .badMark => "invalid syntax (<string>, line 1)"
  | .nullCharacter => "source code string cannot contain null bytes"
  | .unterminated line => s!"unterminated string literal (detected at line {line}) (<string>, line 1)"
  | .singleBrace line => s!"f-string: single '\x7d' is not allowed (<string>, line {line})"
  | .openField line => s!"f-string: expecting '\x7d' (<string>, line {line})"
  | .emptyField line => s!"f-string: empty expression not allowed (<string>, line {line})"
  | .badField line => s!"f-string: invalid syntax (<string>, line {line})"
  | .unknownValue name =>
    let name := String.ofList name
    s!"name '{name}' is not defined"

/-- Any line end as a line feed. -/
def plainLineEnds : List Char → List Char
  | [] => []
  | '\r' :: '\n' :: rest => '\n' :: plainLineEnds rest
  | c :: rest => (if c == '\r' then '\n' else c) :: plainLineEnds rest

def hexValue? (c : Char) : Option Nat :=
  if '0' ≤ c && c ≤ '9' then some (c.toNat - '0'.toNat)
  else if 'a' ≤ c && c ≤ 'f' then some (c.toNat - 'a'.toNat + 10)
  else if 'A' ≤ c && c ≤ 'F' then some (c.toNat - 'A'.toNat + 10)
  else none

/-- The values of the hexadecimal digits at the start of a text, `most` of them at most. -/
def hexRun (most : Nat) (s : List Char) : List Nat :=
  ((s.take most).takeWhile fun c => (hexValue? c).isSome).filterMap hexValue?

/-- The values of the octal digits at the start of a text, three of them at most. -/
def octalRun (s : List Char) : List Nat :=
  ((s.take 3).takeWhile fun c => '0' ≤ c && c ≤ '7').map fun c => c.toNat - '0'.toNat

def ofDigits (base : Nat) (digits : List Nat) : Nat :=
  digits.foldl (fun n d => n * base + d) 0

/-- The character with this code; a code that belongs to no character gives the replacement
character. -/
def charOf (code : Nat) : Char :=
  if code.isValidChar then Char.ofNat code else '�'

/-- The character that a single letter after a backslash stands for, line feeds apart. -/
def simpleEscape? (c : Char) : Option Char :=
  [('\\', '\\'), ('\x27', '\x27'), ('\x22', '\x22'), ('a', '\x07'), ('b', '\x08'), ('f', '\x0c'),
   ('n', '\n'), ('r', '\r'), ('t', '\t'), ('v', '\x0b')].lookup c

/-- The places that a character takes. -/
def width (c : Char) : Nat :=
  if c.toNat < 128 then 1 else 10

def widths (s : List Char) : Nat :=
  s.foldl (fun n c => n + width c) 0

/-- An escape with `digits` hexadecimal digits after its letter: its character, and the characters it
takes after the backslash. -/
def hexEscape (short : EscapeFault) (digits : Nat) (rest : List Char) :
    Except (EscapeFault × Nat) (List Char × Nat) :=
  let run := hexRun digits rest
  let code := ofDigits 16 run
  if run.length < digits then .error (short, 1 + run.length)
  else if 0x10ffff < code then .error (.beyondUnicode, 1 + digits)
  else .ok ([charOf code], 1 + digits)

def namedEscape : List Char → Except (EscapeFault × Nat) (List Char × Nat)
  | '\x7b' :: rest =>
    let name := rest.takeWhile (· != '\x7d')
    if name.length == rest.length then .error (.malformedName, 2 + widths name)
    else if name.isEmpty then .error (.malformedName, 2)
    else match charNamed? name with
      | some c => .ok ([c], name.length + 3)
      | none => .error (.unknownName, 3 + widths name)
  | _ => .error (.malformedName, 1)

/-- The escape after a backslash: its characters and how many characters it takes, or its fault and
the places it takes. -/
def escape : List Char → Except (EscapeFault × Nat) (List Char × Nat)
  | [] => .ok (['\\'], 0)
  | c :: rest =>
    match simpleEscape? c, octalRun (c :: rest) with
    | some d, _ => .ok ([d], 1)
    | none, d :: digits => .ok ([charOf (ofDigits 8 (d :: digits))], digits.length + 1)
    | none, [] =>
      if c == '\n' then .ok ([], 1)
      else if c == 'x' then hexEscape .shortByte 2 rest
      else if c == 'u' then hexEscape .shortUnit 4 rest
      else if c == 'U' then hexEscape .shortWide 8 rest
      else if c == 'N' then namedEscape rest
      else .ok (['\\', c], 1)

/-- A text with its escapes replaced, from place `pos` on, where `skip` characters still belong to an
escape. -/
def unescapeFrom (line : Nat) (skip pos : Nat) : List Char → Except LiteralFault (List Char)
  | [] => .ok []
  | c :: rest =>
    match skip with
    | skip + 1 => unescapeFrom line skip (pos + width c) rest
    | 0 =>
      if c == '\\' then
        match escape rest with
        | .error (fault, n) => .error (.escape fault pos (pos + 1 + n) line)
        | .ok (chars, n) =>
          -- in front of a wide character the backslash is spelled out, in six places
          let own := if rest.head?.any (128 ≤ ·.toNat) then 6 else 1
          (unescapeFrom line n (pos + own) rest).map (chars ++ ·)
      else (unescapeFrom line 0 (pos + width c) rest).map (c :: ·)

def unescape (line : Nat) (s : List Char) : Except LiteralFault (List Char) :=
  unescapeFrom line 0 0 s

/-- Bytes with their escapes replaced. -/
def unescapeBytesFrom (line : Nat) (skip pos : Nat) : List Char → Except LiteralFault (List Nat)
  | [] => .ok []
  | c :: rest =>
    match skip with
    | skip + 1 => unescapeBytesFrom line skip (pos + 1) rest
    | 0 =>
      let next (bytes : List Nat) (n : Nat) : Except LiteralFault (List Nat) :=
        (unescapeBytesFrom line n (pos + 1) rest).map (bytes ++ ·)
      if c == '\\' then
        match rest.head?.bind simpleEscape?, octalRun rest with
        | some d, _ => next [d.toNat] 1
        | none, d :: digits => next [ofDigits 8 (d :: digits) % 256] (digits.length + 1)
        | none, [] =>
          if rest.head? == some '\n' then next [] 1
          else if rest.head? == some 'x' then
            let run := hexRun 2 (rest.drop 1)
            if run.length < 2 then .error (.byteEscape pos line) else next [ofDigits 16 run] 3
          else next ['\\'.toNat] 0
      else next [c.toNat] 0

/-- A piece of a literal with fields. -/
inductive Piece where
  | plain (s : List Char)
  | field (s : List Char)

/-- The length of a field up to its closing brace. -/
def fieldLength? (depth : Nat) : List Char → Option Nat
  | [] => none
  | c :: rest =>
    if c == '\x7b' then (fieldLength? (depth + 1) rest).map (· + 1)
    else if c == '\x7d' then
      match depth with
      | 0 => some 0
      | depth + 1 => (fieldLength? depth rest).map (· + 1)
    else (fieldLength? depth rest).map (· + 1)

/-- Cut a literal into plain pieces and fields. A doubled brace stands for itself and ends a piece.
`plain` is the piece so far, last character first; `skip` characters are already used. -/
def piecesFrom (raw : Bool) (line : Nat) (skip : Nat) (plain : List Char) :
    List Char → Except LiteralFault (List Piece)
  | [] => .ok [.plain plain.reverse]
  | c :: rest =>
    match skip with
    | skip + 1 => piecesFrom raw line skip plain rest
    | 0 =>
      if c == '\x7b' then
        if rest.head? == some '\x7b' then
          (piecesFrom raw line 1 [] rest).map (.plain (c :: plain).reverse :: ·)
        else match fieldLength? 0 rest with
          | none => .error (.openField line)
          | some n =>
            (piecesFrom raw line (n + 1) [] rest).map
              ([.plain plain.reverse, .field (rest.take n)] ++ ·)
      else if c == '\x7d' then
        if rest.head? == some '\x7d' then
          (piecesFrom raw line 1 [] rest).map (.plain (c :: plain).reverse :: ·)
        else .error (.singleBrace line)
      else if !raw && c == '\\' && ['N', '\x7b'].isPrefixOf rest then
        let n := (rest.takeWhile (· != '\x7d')).length + 1
        piecesFrom raw line n ((rest.take n).reverse ++ c :: plain) rest
      else if !raw && c == '\\' then
        match rest with
        | d :: _ =>
          -- a brace after a backslash is still one of a field
          if d == '\x7b' || d == '\x7d' then piecesFrom raw line 0 (c :: plain) rest
          else piecesFrom raw line 1 (d :: c :: plain) rest
        | [] => piecesFrom raw line 0 (c :: plain) rest
      else piecesFrom raw line 0 (c :: plain) rest

/-- The text of a field that holds a constant: a whole number or one of three words. -/
def fieldText (line : Nat) (field : List Char) : Except LiteralFault (List Char) :=
  let field := trim field
  let word := field.takeWhile isWord
  if field.isEmpty then .error (.emptyField line)
  else if field.all (fun c => '0' ≤ c && c ≤ '9') && (field.head? != some '0' || field.length == 1) then
    .ok field
  else if ["None", "True", "False"].any (·.toList == field) then .ok field
  else if word.head?.any isIdentifierStart then .error (.unknownValue word)
  else .error (.badField line)

/-- The text of a literal with fields: how it is written counts before the values of its fields. -/
def fillFields (raw : Bool) (line : Nat) (s : List Char) : Except LiteralFault (List Char) := do
  let pieces ← piecesFrom raw line 0 [] s
  let texts ← pieces.mapM fun
    | .plain s => if raw then .ok (Sum.inl s) else (unescape line s).map .inl
    | .field f =>
      match fieldText line f with
      | .ok s => .ok (.inl s)
      | .error fault => if fault.isUnknownValue then .ok (.inr fault) else .error fault
  let texts ← texts.mapM fun
    | .inl s => .ok s
    | .inr fault => .error fault
  pure texts.flatten

/-- The line on which a text has its first line feed that no backslash stands in front of, counted from
`line` on. -/
def openLine? (line : Nat) : List Char → Option Nat
  | [] => none
  | '\\' :: c :: rest => openLine? (if c == '\n' then line + 1 else line) rest
  | c :: rest => if c == '\n' then some line else openLine? line rest

def literalValue (literal : List Char) : Except LiteralFault Literal :=
  let literal := plainLineEnds literal
  let mark := (literal.takeWhile (!isQuote ·)).map Char.toLower
  let body := literal.dropWhile (!isQuote ·)
  -- two quotes alone are an empty string and not the start of three
  let quotes := match body with
    | q :: rest => if 5 ≤ rest.length && rest.take 2 == [q, q] then 3 else 1
    | [] => 0
  let content := (body.drop quotes).take (body.length - 2 * quotes)
  let line := literal.count '\n' + 1
  let raw := mark.contains 'r'
  if literal.contains '\x00' then .error .nullCharacter
  else match if quotes == 1 then openLine? 1 content else none with
    | some last => .error (.unterminated last)
    | none =>
      if mark.contains 'u' && raw then .error .badMark
      else if mark.contains 'b' then
        if content.any (128 ≤ ·.toNat) then .error .notAscii
        else if raw then .ok (.bytes (content.map Char.toNat))
        else (unescapeBytesFrom line 0 0 content).map .bytes
      else if mark.contains 'f' then (fillFields raw line content).map .text
      else if raw then .ok (.text content)
      else (unescape line content).map .text

end TypeComments.Source
