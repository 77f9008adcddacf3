import TypeComments.Text.Blank
import TypeComments.Text.Word

/-!
Cutting a field line. A field line is cut at its first colon outside cross-references; a
cross-reference is a text in backquotes, with the roles before it. What stands before the colon of a
google field may end in a type in parentheses.
-/

namespace TypeComments.Docstring

/-- Characters up to and with the next backquote, on the same line. -/
def toBackquote : List Char → Option Nat
  | [] => none
  | c :: rest =>
    if c == '\x60' then some 1
    else if c == '\n' then none
    else (toBackquote rest).map (· + 1)

/-- Characters of a quoted text and its closing backquote: at least one character, on one line. -/
def quotedLength : List Char → Option Nat
  | [] => none
  | c :: rest => if c == '\n' then none else (toBackquote rest).map (· + 1)

/-- Characters of role names, a colon and a quoted text. The role names reach as far as they can. -/
def roleLength : List Char → Option Nat
  | [] => none
  | c :: rest =>
    if isBlank c then none
    -- a later colon and quote come first: they make the role names longer
    else match roleLength rest with
      | some n => some (n + 1)
      | none =>
        match rest with
        | ':' :: '\x60' :: tail => (quotedLength tail).map (· + 3)
        | _ => none

/-- The length of the cross-reference that opens the text: a domain, roles and a quoted text, roles
and a quoted text, or a quoted text alone, the first that fits. -/
def referenceLength : List Char → Option Nat
  | ':' :: rest =>
    let domain := rest.takeWhile isWord
    let withDomain :=
      match rest.drop domain.length with
      | ':' :: tail =>
        if domain.isEmpty then none else (roleLength tail).map (· + domain.length + 2)
      | _ => none
    match withDomain with
    | some n => some n
    | none => (roleLength rest).map (· + 1)
  | '\x60' :: rest => (quotedLength rest).map (· + 1)
  | _ => none

/-- Put a character in front of pieces: in front of the first of them or, if it `ends` its piece, as a
piece of its own. -/
def consPiece (ends : Bool) (c : Char) (pieces : List (List Char)) : List (List Char) :=
  if ends then [c] :: pieces else pieces.modifyHead (c :: ·)

/-- The pieces of a text, of which `inside` characters still belong to a cross-reference. -/
def referencePiecesFrom : (inside : Nat) → List Char → List (List Char)
  | _, [] => [[]]
  | n + 1, c :: rest => consPiece (n == 0) c (referencePiecesFrom n rest)
  | 0, c :: rest =>
    match referenceLength (c :: rest) with
    | some n => [] :: consPiece (n == 1) c (referencePiecesFrom (n - 1) rest)
    | none => consPiece false c (referencePiecesFrom 0 rest)

/-- A text cut at its cross-references: the text before the first, and each cross-reference with the text
after it. The pieces with an even index stand outside. -/
def referencePieces (s : List Char) : List (List Char) :=
  referencePiecesFrom 0 s

/-- The pieces before and after the first colon that stands outside, and whether there is one; `outside`
tells whether the first piece does. -/
def cutPieces (outside : Bool) : List (List Char) → List (List Char) × Bool × List (List Char)
  | [] => ([], false, [])
  | piece :: rest =>
    if outside && piece.contains ':' then
      ([piece.takeWhile (· != ':')], true, (piece.dropWhile (· != ':')).tail :: rest)
    else
      let (before, colon, after) := cutPieces (!outside) rest
      (piece :: before, colon, after)

structure FieldParts where
  before : List Char
  colon : Bool
  after : List Char
deriving DecidableEq, Repr

/-- Cut a field line at its first colon outside cross-references. -/
def partitionField (line : List Char) : FieldParts :=
  let (before, colon, after) := cutPieces true (referencePieces line)
  ⟨trim before.flatten, colon, trim after.flatten⟩

/-- The shortest non-empty start, on one line, that blanks and `close` follow. -/
def shortestBefore (close : Char) : List Char → Option (List Char × List Char)
  | [] => none
  | c :: rest =>
    if c == '\n' then none
    else match rest.dropWhile isBlank with
      | d :: tail =>
        if d == close then some ([c], tail)
        else (shortestBefore close rest).map (fun (s, t) => (c :: s, t))
      | [] => none

/-- The type in the parentheses that have just been opened. Blanks before it go, unless nothing else
is left. -/
def parenthesized (s : List Char) : Option (List Char) :=
  match s with
  | [] => none
  | c :: rest =>
    if isBlank c then
      -- a blank belongs to the type only if there is none without it
      match parenthesized rest with
      | some t => some t
      | none => (shortestBefore ')' s).map Prod.fst
    else (shortestBefore ')' s).map Prod.fst

/-- The shortest non-empty name, on one line, that blanks and a type in parentheses follow. -/
def nameAndType : List Char → Option (List Char × List Char)
  | [] => none
  | c :: rest =>
    if c == '\n' then none
    else
      let here :=
        match rest.dropWhile isBlank with
        | '(' :: tail => parenthesized tail
        | _ => none
      match here with
      | some t => some ([c], t)
      | none => (nameAndType rest).map (fun (n, t) => (c :: n, t))

/-- A name and a type in parentheses, `name (type)`, at the start of the text. -/
def typedArgument (s : List Char) : Option (List Char × List Char) :=
  match s with
  | [] => none
  | c :: rest =>
    if isBlank c then
      match typedArgument rest with
      | some r => some r
      | none => nameAndType s
    else nameAndType s

/-- A starred name with its stars escaped. -/
def escapeStars : List Char → List Char
  | '*' :: '*' :: rest => '\\' :: '*' :: '\\' :: '*' :: rest
  | '*' :: rest => '\\' :: '*' :: rest
  | name => name

end TypeComments.Docstring
