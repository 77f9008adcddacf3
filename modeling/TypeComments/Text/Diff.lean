import TypeComments.Text.Lines

/-!
Differences between two texts, line by line. The longest common run of lines is matched first, of equal
ones the first; then what stands before it and after it, in the same way. In a long text, lines that
occur often start no run, but may extend one. Differences are shown with three lines around them.
-/

namespace TypeComments

/-- A run of equal lines: where it starts on either side, and its length. -/
structure Run where
  left : Nat
  right : Nat
  length : Nat
  deriving DecidableEq

/-- From this number of lines on, lines can occur too often. -/
def longText : Nat := 200

/-- Does a line occur too often in a text? -/
def isPopular (lines : List (List Char)) (line : List Char) : Bool :=
  longText ≤ lines.length && lines.length / 100 + 1 < lines.count line

/-- The lengths of the common runs that end at each line of the right side, given those for the line
before on the left. -/
def runLengths (line : List Char) : List Nat → List (List Char) → List Nat
  | before :: rest, other :: others =>
    (if line == other then before + 1 else 0) :: runLengths line rest others
  | _, _ => []

/-- The first of the longest runs that end at a line `i` of the left side, if it is longer than the best
one so far. -/
def betterRun (i : Nat) : Nat → List Nat → Run → Run
  | _, [], best => best
  | j, n :: rest, best =>
    betterRun i (j + 1) rest (if best.length < n then ⟨i + 1 - n, j + 1 - n, n⟩ else best)

/-- The first of the longest common runs. `lengths` are those of the line before. -/
def longestRunFrom (popular : List Char → Bool) (right : List (List Char)) (i : Nat)
    (lengths : List Nat) (best : Run) : List (List Char) → Run
  | [] => best
  | line :: rest =>
    -- a line that occurs too often starts no run, but may extend one
    let new := if popular line then List.replicate right.length 0
      else runLengths line (0 :: lengths) right
    longestRunFrom popular right (i + 1) new (betterRun i 0 new best) rest

/-- The number of lines at the start that two lists share. -/
def sharedStart : List (List Char) → List (List Char) → Nat
  | a :: as, b :: bs => if a == b then sharedStart as bs + 1 else 0
  | _, _ => 0

/-- A run with the equal lines before it and after it. -/
def Run.extend (left right : List (List Char)) (r : Run) : Run :=
  let back := sharedStart (left.take r.left).reverse (right.take r.right).reverse
  let on := sharedStart (left.drop (r.left + r.length)) (right.drop (r.right + r.length))
  ⟨r.left - back, r.right - back, back + r.length + on⟩

def longestRun (popular : List Char → Bool) (left right : List (List Char)) : Run :=
  (longestRunFrom popular right 0 (List.replicate right.length 0) ⟨0, 0, 0⟩ left).extend left right

/-- The common runs of two lists of lines, which start at lines `i` and `j`. A run takes a line of the
left side, so their number is enough fuel. -/
def commonRuns (popular : List Char → Bool) : Nat → Nat → Nat → List (List Char) → List (List Char) →
    List Run
  | 0, _, _, _, _ => []
  | fuel + 1, i, j, left, right =>
    let r := longestRun popular left right
    if r.length == 0 then []
    else
      commonRuns popular fuel i j (left.take r.left) (right.take r.right) ++
      ⟨i + r.left, j + r.right, r.length⟩ ::
      commonRuns popular fuel (i + r.left + r.length) (j + r.right + r.length)
        (left.drop (r.left + r.length)) (right.drop (r.right + r.length))

/-- Runs with those joined that touch on both sides. -/
def joinRuns : List Run → List Run
  | [] => []
  | r :: rest =>
    match joinRuns rest with
    | [] => [r]
    | s :: more =>
      if r.left + r.length == s.left && r.right + r.length == s.right then
        ⟨r.left, r.right, r.length + s.length⟩ :: more
      else r :: s :: more

/-- A part of a difference: the lines of either side that are the same or take each other's place. -/
structure Change where
  same : Bool
  leftStart : Nat
  leftEnd : Nat
  rightStart : Nat
  rightEnd : Nat
  deriving DecidableEq

/-- The parts of a difference with these runs, from lines `i` and `j` on. -/
def changesFrom (i j : Nat) : List Run → List Change
  | [] => []
  | r :: rest =>
    (if i < r.left || j < r.right then [⟨false, i, r.left, j, r.right⟩] else []) ++
    (if r.length == 0 then [] else [⟨true, r.left, r.left + r.length, r.right, r.right + r.length⟩]) ++
    changesFrom (r.left + r.length) (r.right + r.length) rest

def changes (left right : List (List Char)) : List Change :=
  let runs := commonRuns (isPopular right) (left.length + 1) 0 0 left right
  -- the empty run at the end closes the last part
  changesFrom 0 0 (joinRuns runs ++ [⟨left.length, right.length, 0⟩])

/-- The number of lines shown around a difference. -/
def contextLines : Nat := 3

def Change.last (n : Nat) (c : Change) : Change :=
  { c with leftStart := max c.leftStart (c.leftEnd - n), rightStart := max c.rightStart (c.rightEnd - n) }

def Change.first (n : Nat) (c : Change) : Change :=
  { c with leftEnd := min c.leftEnd (c.leftStart + n), rightEnd := min c.rightEnd (c.rightStart + n) }

/-- The parts with the first one cut to the context. -/
def trimStart : List Change → List Change
  | c :: rest => (if c.same then c.last contextLines else c) :: rest
  | [] => []

/-- The parts with the last one cut to the context. -/
def trimEnd : List Change → List Change
  | [] => []
  | [c] => [if c.same then c.first contextLines else c]
  | c :: rest => c :: trimEnd rest

/-- Parts in groups: a long part that is the same is cut between two groups. -/
def groupsFrom (group : List Change) : List Change → List (List Change)
  | [] => [group]
  | c :: rest =>
    if c.same && 2 * contextLines < c.leftEnd - c.leftStart then
      (group ++ [c.first contextLines]) :: groupsFrom [c.last contextLines] rest
    else groupsFrom (group ++ [c]) rest

/-- The groups of a difference that are shown. -/
def changeGroups (left right : List (List Char)) : List (List Change) :=
  (groupsFrom [] (trimEnd (trimStart (changes left right)))).filter fun group =>
    group.any (!·.same)

/-- A range of lines: its first line, and its length if this is not one. -/
def rangeText (first last : Nat) : List Char :=
  let n := last - first
  let start := if n == 0 then first else first + 1
  if n == 1 then (toString start).toList
  else (toString start).toList ++ ',' :: (toString n).toList

def slice (first last : Nat) (lines : List (List Char)) : List (List Char) :=
  (lines.take last).drop first

/-- The lines that show a part. -/
def Change.render (left right : List (List Char)) (c : Change) : List (List Char) :=
  if c.same then (slice c.leftStart c.leftEnd left).map (' ' :: ·)
  else
    (slice c.leftStart c.leftEnd left).map ('-' :: ·) ++
      (slice c.rightStart c.rightEnd right).map ('+' :: ·)

/-- The lines that show a group of parts. -/
def showGroup (left right : List (List Char)) (group : List Change) : List (List Char) :=
  match group.head?, group.getLast? with
  | some first, some last =>
    ("@@ -".toList ++ rangeText first.leftStart last.leftEnd ++ " +".toList ++
      rangeText first.rightStart last.rightEnd ++ " @@".toList) :: group.flatMap (·.render left right)
  | _, _ => []

/-- The lines that show how the text of a file changes; none if it stays. -/
def diffLines (file old new : List Char) : List (List Char) :=
  let left := splitLines old
  let right := splitLines new
  match changeGroups left right with
  | [] => []
  | groups =>
    ("--- ".toList ++ file ++ "\t(original)".toList) ::
    ("+++ ".toList ++ file ++ "\t(refactored)".toList) ::
    groups.flatMap (showGroup left right)

end TypeComments
