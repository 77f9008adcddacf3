/-!
Tokens of a source text. A token carries the text in front of it (blanks, comments, blank lines and
line continuations), so that the tokens of a source concatenate to it.
-/

namespace TypeComments.Source

/-- What a token is. -/
inductive Kind where
  | endMarker
  | name
  | number
  | string
  /-- The end of a logical line. -/
  | newline
  /-- The blanks that open a deeper block. -/
  | indent
  /-- The end of a block; it has no text. -/
  | dedent
  | operator
  /-- The word `async` where it is a keyword. -/
  | async
  /-- The word `await` where it is a keyword. -/
  | await
  /-- Text that is no token. -/
  | stray
  deriving DecidableEq, Repr

/-- A token with the text in front of it and the place where it starts. Lines count from one, columns
from zero. -/
structure Token where
  kind : Kind
  before : List Char
  text : List Char
  line : Nat
  column : Nat
  deriving DecidableEq

/-- The text that a token covers. -/
def Token.source (t : Token) : List Char :=
  t.before ++ t.text

/-- The operators with their codes. Of two that match at a place the first counts. -/
def operators : List (List Char × Nat) :=
  [("**=", 47), ("**", 36), (">>=", 46), (">>", 35), ("<<=", 45), ("<<", 34), ("<>", 29), ("!=", 29),
   ("//=", 49), ("//", 48), ("->", 55), ("+=", 37), ("+", 14), ("-=", 38), ("-", 15), ("*=", 39),
   ("*", 16), ("/=", 40), ("/", 17), ("%=", 41), ("%", 24), ("&=", 42), ("&", 19), ("@=", 51),
   ("@", 50), ("|=", 43), ("|", 18), ("^=", 44), ("^", 33), ("==", 28), ("=", 22), ("<=", 30),
   ("<", 20), (">=", 31), (">", 21), ("~", 32), ("[", 9), ("]", 10), ("(", 7), (")", 8),
   ("\x7b", 26), ("\x7d", 27), (":=", 59), (":", 11), (";", 13), (".", 23), (",", 12), ("\x60", 25)].map
    fun (text, code) => (text.toList, code)

def operatorCode? (text : List Char) : Option Nat :=
  operators.lookup text

/-- The number that an error message gives for a token. -/
def Token.code (t : Token) : Nat :=
  match t.kind with
  | .endMarker => 0
  | .name => 1
  | .number => 2
  | .string => 3
  | .newline => 4
  | .indent => 5
  | .dedent => 6
  | .operator => (operatorCode? t.text).getD 0
  | .await => 56
  | .async => 57
  | .stray => 58

end TypeComments.Source
