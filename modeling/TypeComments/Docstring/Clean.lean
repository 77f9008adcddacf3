import TypeComments.Text.Blank
import TypeComments.Text.Lines

/-!
Docstring text without its indentation. Tabs become spaces, the common margin of the lines after the
first one goes, and empty lines at either end go; `clean` also deletes every backquote.
-/

namespace TypeComments.Docstring

/-- Tabs as spaces up to the next multiple of `width`; `col` characters of the line are written. -/
def expandTabsFrom (width : Nat) (col : Nat) : List Char → List Char
  | [] => []
  | c :: rest =>
    if c == '\t' then
      let n := width - col % width
      List.replicate n ' ' ++ expandTabsFrom width (col + n) rest
    else if c == '\n' || c == '\r' then c :: expandTabsFrom width 0 rest
    else c :: expandTabsFrom width (col + 1) rest

/-- Tabs as spaces, with a tab stop at every eighth column. -/
def expandTabs (s : List Char) : List Char :=
  expandTabsFrom 8 0 s

/-- The smallest indentation of the lines that are not blank. -/
def margin? (lines : List (List Char)) : Option Nat :=
  ((lines.filter (fun l => !(trimLeft l).isEmpty)).map indentOf).min?

/-- Lines without the common margin: the first line loses all its leading blanks, the others the
margin. -/
def unindentLines : List (List Char) → List (List Char)
  | [] => []
  | first :: rest =>
    trimLeft first :: match margin? rest with
      | none => rest
      | some m => rest.map (List.drop m)

/-- Lines without empty lines at either end. -/
def dropEmptyEnds (lines : List (List Char)) : List (List Char) :=
  let front := lines.dropWhile List.isEmpty
  (front.reverse.dropWhile List.isEmpty).reverse

/-- A docstring without its indentation. -/
def unindent (doc : List Char) : List Char :=
  List.intercalate ['\n'] (dropEmptyEnds (unindentLines (List.splitOn '\n' (expandTabs doc))))

/-- A docstring without its indentation and its backquotes. -/
def clean (doc : List Char) : List Char :=
  (unindent doc).filter (· != '\x60')

end TypeComments.Docstring
