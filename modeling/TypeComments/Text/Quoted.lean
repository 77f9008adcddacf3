import TypeComments.Text.Printable

/-!
Quoted texts as messages show them. The quote is an apostrophe, unless the text holds apostrophes and
no double quotes; the quote and the backslash are escaped, and so is everything that is not printable.
-/

namespace TypeComments

/-- `n` in lower-case hexadecimal, at least `width` digits. -/
def hexDigits (width n : Nat) : List Char :=
  let digits := Nat.toDigits 16 n
  List.replicate (width - digits.length) '0' ++ digits

/-- One character inside a text quoted by `q`. -/
def quoteChar (q c : Char) : List Char :=
  if c == q || c == '\\' then ['\\', c]
  else if c == '\t' then ['\\', 't']
  else if c == '\n' then ['\\', 'n']
  else if c == '\r' then ['\\', 'r']
  else if isPrintable c then [c]
  else if c.toNat < 0x100 then ['\\', 'x'] ++ hexDigits 2 c.toNat
  else if c.toNat < 0x10000 then ['\\', 'u'] ++ hexDigits 4 c.toNat
  else ['\\', 'U'] ++ hexDigits 8 c.toNat

/-- The quote that a text is shown with. -/
def quoteMark (s : List Char) : Char :=
  if s.contains '\x27' && !s.contains '\x22' then '\x22' else '\x27'

def quoted (s : List Char) : List Char :=
  let q := quoteMark s
  q :: s.flatMap (quoteChar q) ++ [q]

end TypeComments
