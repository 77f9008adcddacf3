import TypeComments.Docstring.Clean
import TypeComments.Markup.Node

/-!
Lines of a marked-up text, with their numbers, and the blocks of lines that belong together by their
indentation. Taking a block gives its lines, the lines after it, and whether it is set off from them by
a blank line or the end of the text.
-/

namespace TypeComments.Markup

/-- A line with its number. -/
structure Line where
  number : Nat
  text : List Char
  deriving DecidableEq

/-- A text cut into lines: tabs become spaces, and blanks at line ends go. -/
def linesOf (s : List Char) : List Line :=
  let s := s.map fun c => if c == '\x0b' || c == '\x0c' then ' ' else c
  (splitLines s).zipIdx.map fun (text, i) => ⟨i + 1, trimRight (Docstring.expandTabs text)⟩

namespace Line

def blank (l : Line) : Bool :=
  (trim l.text).isEmpty

def indented (l : Line) : Bool :=
  l.text.head? == some ' '

/-- May the line belong to an indented block? -/
def inBlock (l : Line) : Bool :=
  l.blank || l.indented

def dropChars (n : Nat) (l : Line) : Line :=
  { l with text := l.text.drop n }

end Line

/-- A block of lines, the lines after it, and whether it is set off from them. -/
structure Taken where
  block : List Line
  rest : List Line
  setOff : Bool

/-- The smallest indentation of lines that are not blank. -/
def commonIndent (lines : List Line) : Nat :=
  (((lines.filter (!·.blank)).map fun l => indentOf l.text).min?).getD 0

/-- Is a block of `taken` before `rest` set off? -/
def isSetOff (taken rest : List Line) : Bool :=
  rest.isEmpty || taken.getLast?.any Line.blank

/-- Take an indented block; it loses its common indentation and blank lines at its start. -/
def takeIndented (lines : List Line) : Taken :=
  let taken := lines.takeWhile Line.inBlock
  let rest := lines.dropWhile Line.inBlock
  ⟨(taken.map (Line.dropChars (commonIndent taken))).dropWhile Line.blank, rest, isSetOff taken rest⟩

/-- Take the block of a marker of `n` characters: the rest of its line, and the lines indented at least
as far. -/
def takeKnown (n : Nat) : List Line → Taken
  | [] => ⟨[], [], true⟩
  | first :: lines =>
    let inside (l : Line) : Bool :=
      l.blank || (l.indented && (trim (l.text.take n)).isEmpty)
    let taken := lines.takeWhile inside
    let rest := lines.dropWhile inside
    ⟨((first :: taken).map (Line.dropChars n)).dropWhile Line.blank, rest,
      isSetOff (first :: taken) rest⟩

/-- Take the block of a marker of `n` characters: the rest of its line, and the indented lines after
it, which lose their common indentation if `strip` says so. -/
def takeAfterMarker (n : Nat) (strip : Bool) : List Line → Taken
  | [] => ⟨[], [], true⟩
  | first :: lines =>
    let taken := lines.takeWhile Line.inBlock
    let rest := lines.dropWhile Line.inBlock
    let indent := if strip then commonIndent taken else 0
    ⟨(first.dropChars n :: taken.map (Line.dropChars indent)).dropWhile Line.blank, rest,
      isSetOff (first :: taken) rest⟩

/-- Take the rest of a marker's line and the indented lines after it, up to a blank line. -/
def takeUntilBlank (n : Nat) (strip : Bool) : List Line → Taken
  | [] => ⟨[], [], true⟩
  | first :: lines =>
    let inside (l : Line) : Bool := !l.blank && l.indented
    let taken := lines.takeWhile inside
    let rest := lines.dropWhile inside
    let indent := if strip then commonIndent taken else 0
    ⟨(first.dropChars n :: taken.map (Line.dropChars indent)).dropWhile Line.blank, rest,
      rest.head?.all Line.blank⟩

def texts (lines : List Line) : List (List Char) :=
  lines.map (·.text)

def joined (lines : List Line) : List Char :=
  List.intercalate ['\n'] (texts lines)

end TypeComments.Markup
