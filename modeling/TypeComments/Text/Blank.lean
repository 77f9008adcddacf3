import TypeComments.Text.Ranges

/-!
Blank characters of every script, and cutting them off the ends of a text.
-/

namespace TypeComments

/-- Blank characters, by code point: the ASCII blanks and separators, and the spaces and line
separators of the other blocks. -/
def blankRanges : List (Nat × Nat) :=
  [(9, 13), (28, 32), (133, 133), (160, 160), (5760, 5760), (8192, 8202), (8232, 8233),
   (8239, 8239), (8287, 8287), (12288, 12288)]

def isBlank (c : Char) : Bool :=
  inRanges blankRanges c.toNat

/-- `s` without the characters of `p` at its end. -/
def trimRightBy (p : Char → Bool) (s : List Char) : List Char :=
  (s.reverse.dropWhile p).reverse

/-- `s` without the characters of `p` at either end. -/
def trimBy (p : Char → Bool) (s : List Char) : List Char :=
  trimRightBy p (s.dropWhile p)

def trimLeft (s : List Char) : List Char :=
  s.dropWhile isBlank

def trimRight (s : List Char) : List Char :=
  trimRightBy isBlank s

def trim (s : List Char) : List Char :=
  trimBy isBlank s

/-- The number of leading blanks. -/
def indentOf (s : List Char) : Nat :=
  (s.takeWhile isBlank).length

/-- The words of a text: its maximal runs of other characters than blanks. -/
def wordsFrom (word : List Char) : List Char → List (List Char)
  | [] => if word.isEmpty then [] else [word.reverse]
  | c :: rest =>
    if isBlank c then
      if word.isEmpty then wordsFrom [] rest else word.reverse :: wordsFrom [] rest
    else wordsFrom (c :: word) rest

@[inherit_doc wordsFrom]
def blankSeparated (s : List Char) : List (List Char) :=
  wordsFrom [] s

end TypeComments
