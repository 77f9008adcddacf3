/-!
Lines of a text. `splitLines` cuts at every line boundary (a carriage return and the line feed after
it are one boundary) and drops the boundaries; `physicalLines` cuts after line feeds only and keeps
them, so that its result concatenates to the text.
-/

namespace TypeComments

/-- The line boundaries of every script. -/
def isLineBreak (c : Char) : Bool :=
  c == '\n' || c == '\r' || c == '\x0b' || c == '\x0c' || c == '\x1c' || c == '\x1d' ||
    c == '\x1e' || c == '\u0085' || c == '\u2028' || c == '\u2029'

/-- Lines of a text whose first line has begun with `line`, in reverse. -/
def splitLinesFrom (line : List Char) : List Char → List (List Char)
  | [] => if line.isEmpty then [] else [line.reverse]
  | '\r' :: '\n' :: rest => line.reverse :: splitLinesFrom [] rest
  | c :: rest =>
    if isLineBreak c then line.reverse :: splitLinesFrom [] rest
    else splitLinesFrom (c :: line) rest

/-- The lines of a text, cut at every line boundary. A boundary at the end opens no new line. -/
def splitLines (s : List Char) : List (List Char) :=
  splitLinesFrom [] s

/-- Lines that end after each line feed and keep it. -/
def physicalLinesFrom (line : List Char) : List Char → List (List Char)
  | [] => if line.isEmpty then [] else [line.reverse]
  | c :: rest =>
    if c == '\n' then ('\n' :: line).reverse :: physicalLinesFrom [] rest
    else physicalLinesFrom (c :: line) rest

@[inherit_doc physicalLinesFrom]
def physicalLines (s : List Char) : List (List Char) :=
  physicalLinesFrom [] s

end TypeComments
