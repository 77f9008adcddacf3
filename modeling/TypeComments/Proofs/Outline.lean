import TypeComments.Proofs.ReaderRun

/-!
# Reading as a function of the lines

The loops of the reader stop at a test of the lines that are still ahead, so what they take is a function
of these lines: `takeAhead` and `dropAhead` are `takeWhile` and `dropWhile` with a test of the whole
rest. `Scope.fields`, `Scope.body` and `turn` say so for the fields of a section, for its body and for one
turn of the outer loop; `findings` is the list of what all turns find. The theorems about runs below
identify each step of the reader with its function.
-/

namespace TypeComments.Docstring

/-! ### Loops with look-ahead -/

/-- The elements in front of the first rest that fails the test. -/
def takeAhead {α : Type} (p : List α → Bool) : List α → List α
  | [] => []
  | a :: rest => if p (a :: rest) then a :: takeAhead p rest else []

/-- The first rest that fails the test. -/
def dropAhead {α : Type} (p : List α → Bool) : List α → List α
  | [] => []
  | a :: rest => if p (a :: rest) then dropAhead p rest else a :: rest

section
variable {α : Type} (p : List α → Bool)

theorem takeAhead_append_dropAhead (as : List α) : takeAhead p as ++ dropAhead p as = as := by
  induction as with
  | nil => rfl
  | cons a rest ih =>
    simp only [takeAhead, dropAhead]
    split
    · rw [List.cons_append, ih]
    · rfl

theorem dropAhead_suffix (as : List α) : dropAhead p as <:+ as :=
  ⟨takeAhead p as, takeAhead_append_dropAhead p as⟩

/-- A test of the first element alone makes `takeWhile` and `dropWhile`. -/
theorem takeAhead_head (q : α → Bool) (as : List α) :
    takeAhead (fun as => as.head?.any q) as = as.takeWhile q ∧
      dropAhead (fun as => as.head?.any q) as = as.dropWhile q := by
  induction as with
  | nil => exact ⟨rfl, rfl⟩
  | cons a rest ih => cases hq : q a <;> simp [takeAhead, dropAhead, hq, ih]

end

/-- A blank line; the reader cuts trailing blanks off. -/
def Line.isEmpty (l : Line) : Bool :=
  l.text.isEmpty

/-! ### Sections -/

namespace Scope

/-- Does the section end at these lines? -/
def ends (sc : Scope) (ls : List Line) : Bool :=
  (breakAt sc.style sc.directives sc.inSection sc.indent ls).ends

/-- Does the text of a field that is indented less than `indent` go on here? -/
def below (sc : Scope) (indent : Int) (ls : List Line) : Bool :=
  !sc.ends ls && ls.head?.any fun l => l.isEmpty || isIndented indent l.text

/-- The lines on which the fields of a section start, and the lines after its fields. -/
def fields (sc : Scope) (ls : List Line) : List Line × List Line :=
  match ls with
  | [] => ([], [])
  | l :: rest =>
    if sc.ends (l :: rest) then ([], l :: rest)
    else
      let more := sc.fields (dropAhead (sc.below (indentOf l.text + 1)) rest)
      (l :: more.1, more.2)
termination_by ls.length
decreasing_by
  simp only [List.length_cons]
  exact Nat.lt_succ_of_le (dropAhead_suffix _ _).length_le

/-- The body of a section without the blank lines in front of it, and the lines after it. -/
def body (sc : Scope) (ls : List Line) : List Line × List Line :=
  let start := ls.dropWhile Line.isEmpty
  let left := dropAhead (fun ls => !sc.ends ls) start
  (takeAhead (fun ls => !sc.ends ls) start ++ left.takeWhile Line.isEmpty, left.dropWhile Line.isEmpty)

def params (sc : Scope) (preferType : Bool) (ls : List Line) : List Param × List Line :=
  let heads := sc.fields (ls.dropWhile Line.isEmpty)
  ((heads.1.map (Read.fieldOf sc.style true preferType)).filter Read.isMeaningful, heads.2)

def results (sc : Scope) (ls : List Line) : List Entry × List Line :=
  match sc.style with
  | .google => (Read.resultOf (dedent false (sc.body ls).1), (sc.body ls).2)
  | .numpy => ((sc.params true ls).1.map (·.entry), (sc.params true ls).2)

end Scope

/-- What one turn of the outer loop finds. -/
inductive Finding where
  | params (ps : List Param)
  | returns (es : List Entry)
  | yields (es : List Entry)
  | nothing
deriving DecidableEq, Repr

/-- Enter a finding into the report; a later section replaces an earlier one of its kind. -/
def Finding.addTo (report : Report) : Finding → Report
  | .params ps => { report with params := some ps }
  | .returns es => { report with returns := some es }
  | .yields es => { report with yields := some es }
  | .nothing => report

namespace Scope

/-- What the section under `heading` documents, and the lines after it. -/
def found (sc : Scope) (heading : List Char) (ls : List Line) : Finding × List Line :=
  if opensDirective heading then (.nothing, (sc.body ls).2)
  else match sectionKind? (lower heading) with
    | some .params => (.params (sc.params false ls).1, (sc.params false ls).2)
    | some .returns => (.returns (sc.results ls).1, (sc.results ls).2)
    | some .yields => (.yields (sc.results ls).1, (sc.results ls).2)
    | some .skipped | none => (.nothing, (sc.body ls).2)

end Scope

/-- The text of a heading that names its section, and the lines below the heading. -/
def Style.cutHeading (style : Style) (l : Line) (rest : List Line) : List Char × List Line :=
  match style with
  | .google =>
    let name := trimBy (· == ':') l.text
    (if (sectionKind? (lower name)).isSome then name else l.text, rest)
  | .numpy => (l.text, if opensDirective l.text then rest else rest.tail)

/-- One turn of the outer loop: a heading and its section, or text that belongs to no section. -/
def turn (style : Style) (directives : List (List Char)) (l : Line) (rest : List Line) :
    Finding × List Line :=
  if headingAt style directives (l :: rest) then
    let cut := style.cutHeading l rest
    Scope.found ⟨style, directives, true, indentAhead cut.2⟩ cut.1 cut.2
  else (.nothing, (Scope.body ⟨style, directives, false, 0⟩ (l :: rest)).2)

/-! ### Every turn takes a line -/

namespace Scope
variable {sc : Scope} {l : Line} {ls rest : List Line}

theorem fields_nil (sc : Scope) : sc.fields [] = ([], []) := by
  rw [fields]

theorem fields_cons (sc : Scope) (l : Line) (rest : List Line) : sc.fields (l :: rest) =
    if sc.ends (l :: rest) then ([], l :: rest)
    else (l :: (sc.fields (dropAhead (sc.below (indentOf l.text + 1)) rest)).1,
      (sc.fields (dropAhead (sc.below (indentOf l.text + 1)) rest)).2) := by
  rw [fields]

theorem fields_suffix (sc : Scope) (ls : List Line) : (sc.fields ls).2 <:+ ls := by
  fun_induction fields sc ls with
  | case1 => exact List.suffix_rfl
  | case2 l rest h => exact List.suffix_rfl
  | case3 l rest h more ih =>
    exact (ih.trans (dropAhead_suffix _ rest)).trans (List.suffix_cons l rest)

theorem body_suffix (sc : Scope) (ls : List Line) : (sc.body ls).2 <:+ ls :=
  ((List.dropWhile_suffix _).trans (dropAhead_suffix _ _)).trans (List.dropWhile_suffix _)

theorem params_suffix (sc : Scope) (preferType : Bool) (ls : List Line) :
    (sc.params preferType ls).2 <:+ ls :=
  (sc.fields_suffix _).trans (List.dropWhile_suffix _)

theorem results_suffix (sc : Scope) (ls : List Line) : (sc.results ls).2 <:+ ls := by
  unfold results
  split
  · exact sc.body_suffix ls
  · exact sc.params_suffix true ls

theorem found_suffix (sc : Scope) (heading : List Char) (ls : List Line) :
    (sc.found heading ls).2 <:+ ls := by
  unfold found
  split
  · exact sc.body_suffix ls
  split
  exacts [sc.params_suffix false ls, sc.results_suffix ls, sc.results_suffix ls, sc.body_suffix ls,
    sc.body_suffix ls]

/-- Outside sections only a heading ends the text at a line that is not blank. -/
theorem ends_outside {style : Style} {directives : List (List Char)} (indent : Int) (hl : l.isEmpty = false)
    (hh : headingAt style directives (l :: rest) = false) :
    ends ⟨style, directives, false, indent⟩ (l :: rest) = false := by
  have hl' : l.text.isEmpty = false := hl
  simp [ends, breakAt, hh, hl', Break.ends]

end Scope

theorem Style.cutHeading_suffix (style : Style) (l : Line) (rest : List Line) :
    (style.cutHeading l rest).2 <:+ rest := by
  cases style with
  | google => exact List.suffix_rfl
  | numpy =>
    simp only [Style.cutHeading]
    split
    · exact List.suffix_rfl
    · exact List.tail_suffix rest

theorem turn_suffix (style : Style) (directives : List (List Char)) (l : Line) (rest : List Line) :
    (turn style directives l rest).2 <:+ rest := by
  unfold turn
  split
  · exact (Scope.found_suffix _ _ _).trans (style.cutHeading_suffix l rest)
  · have hh : headingAt style directives (l :: rest) = false := Bool.eq_false_iff.2 ‹_›
    cases hl : l.isEmpty with
    | true =>
      have hs := Scope.body_suffix ⟨style, directives, false, 0⟩ rest
      simpa [Scope.body, hl] using hs
    | false =>
      have hends := Scope.ends_outside 0 hl hh
      simp only [Scope.body, List.dropWhile_cons, hl, Bool.false_eq_true, ↓reduceIte, dropAhead, hends,
        Bool.not_false]
      exact (List.dropWhile_suffix _).trans (dropAhead_suffix _ rest)

/-- What is found in the lines, turn after turn. -/
def findings (style : Style) (directives : List (List Char)) (ls : List Line) : List Finding :=
  match ls with
  | [] => []
  | l :: rest =>
    (turn style directives l rest).1 :: findings style directives (turn style directives l rest).2
termination_by ls.length
decreasing_by
  simp only [List.length_cons]
  exact Nat.lt_succ_of_le (turn_suffix style directives l rest).length_le

theorem findings_nil (style : Style) (directives : List (List Char)) : findings style directives [] = [] := by
  rw [findings]

theorem findings_cons (style : Style) (directives : List (List Char)) (l : Line) (rest : List Line) :
    findings style directives (l :: rest) = (turn style directives l rest).1 ::
      findings style directives (turn style directives l rest).2 := by
  rw [findings]

def Style.report (style : Style) (ls : List Line) : Report :=
  (findings style style.directives (ls.dropWhile Line.isEmpty)).foldl Finding.addTo .empty

end TypeComments.Docstring
