import TypeComments.Text.Blank
import TypeComments.Text.Lines
import TypeComments.Text.Word

/-!
Types in ordinary words. A documented type such as `string or list, optional` is brought into the form
of a type expression: alternatives become a union, a trailing `optional` an optional type, and common
words the names of types.
-/

namespace TypeComments.Docstring

/-- A type on one line: without blanks at its ends, and with spaces for line feeds. -/
def oneLine (s : List Char) : List Char :=
  (trim s).map (fun c => if c == '\n' then ' ' else c)

/-- Words and the types they stand for. -/
def typeWords : List (List Char × List Char) :=
  [("boolean".toList, "bool".toList),
   ("string".toList, "str".toList),
   ("integer".toList, "int".toList),
   ("list".toList, "List".toList),
   ("dict".toList, "Dict".toList),
   ("dictionary".toList, "Dict".toList),
   ("any".toList, "Any".toList),
   ("tuple".toList, "Tuple".toList),
   ("set".toList, "Set".toList),
   ("sequence".toList, "Sequence".toList),
   ("iterable".toList, "Iterable".toList),
   ("mapping".toList, "Mapping".toList)]

/-- Does the text start with something else than a word character? -/
def atBoundary : List Char → Bool
  | [] => true
  | c :: _ => !isWord c

/-- Replace `word` where it stands as a whole word. `skip` characters of a replaced word are still to
pass; `inWord` tells whether the character before is a word character. -/
def replaceWordFrom (word type : List Char) (skip : Nat) (inWord : Bool) : List Char → List Char
  | [] => []
  | c :: rest =>
    match skip with
    | n + 1 => replaceWordFrom word type n true rest
    | 0 =>
      if !inWord && word.isPrefixOf (c :: rest) && atBoundary ((c :: rest).drop word.length) then
        type ++ replaceWordFrom word type (word.length - 1) true rest
      else c :: replaceWordFrom word type 0 (isWord c) rest

def replaceWord (word type s : List Char) : List Char :=
  replaceWordFrom word type 0 false s

/-- Replace each word of the table by its type, one after the other. -/
def replaceWords (s : List Char) : List Char :=
  typeWords.foldl (fun s (word, type) => replaceWord word type s) s

/-- A comma, blanks, `optional` and blanks, and nothing after them. -/
def isOptionalTail : List Char → Bool
  | ',' :: rest =>
    let tail := rest.dropWhile isBlank
    "optional".toList.isPrefixOf tail && (tail.drop 8).all isBlank
  | _ => false

/-- The text before the last tail `, optional`. -/
def beforeOptional? : List Char → Option (List Char)
  | [] => none
  | c :: rest =>
    -- a later tail comes first, so all but the last one stays
    match beforeOptional? rest with
    | some s => some (c :: s)
    | none => if isOptionalTail (c :: rest) then some [] else none

/-- The length of the separator of alternatives that opens the text: the word `or` between blanks, or
a bar with any blanks around it. -/
def separatorLength (s : List Char) : Option Nat :=
  let blanks := s.takeWhile isBlank
  let tail := s.drop blanks.length
  match tail with
  | 'o' :: 'r' :: rest =>
    let after := rest.takeWhile isBlank
    if blanks.isEmpty || after.isEmpty then none else some (blanks.length + 2 + after.length)
  | '|' :: rest => some (blanks.length + 1 + (rest.takeWhile isBlank).length)
  | _ => none

/-- The alternatives of a type; `skip` characters of a separator are still to pass. -/
def alternativesFrom (skip : Nat) : List Char → List (List Char)
  | [] => [[]]
  | c :: rest =>
    match skip with
    | n + 1 => alternativesFrom n rest
    | 0 =>
      match separatorLength (c :: rest) with
      | some n => [] :: alternativesFrom (n - 1) rest
      | none =>
        match alternativesFrom 0 rest with
        | [] => [[c]]
        | piece :: pieces => (c :: piece) :: pieces

def alternatives (s : List Char) : List (List Char) :=
  alternativesFrom 0 s

/-- The type expression of several alternatives. -/
def unionType : List (List Char) → List Char
  | [] => []
  | [s] => s
  | parts => "Union[".toList ++ List.intercalate ", ".toList parts ++ "]".toList

/-- A type in words as a type expression, with `prepare` applied first. The type of a result is never
optional. -/
def standardizeWith (prepare : List Char → List Char) (isResult : Bool) (s : List Char) : List Char :=
  let s := prepare s
  let optional? := if isResult then none else beforeOptional? s
  let type := unionType ((alternatives (optional?.getD s)).map replaceWords)
  if optional?.isSome then "Optional[".toList ++ type ++ "]".toList else type

/-- Why a type is not standardized. -/
inductive TypeTextFault where
  /-- Nothing is given to prepare the text with. -/
  | noPreparation
deriving DecidableEq, Repr

def standardize (prepare : Option (List Char → List Char)) (isResult : Bool) (s : List Char) :
    Except TypeTextFault (List Char) :=
  match prepare with
  | none => .error .noPreparation
  | some prepare => .ok (standardizeWith prepare isResult s)

end TypeComments.Docstring
