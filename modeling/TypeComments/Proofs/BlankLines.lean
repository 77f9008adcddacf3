import TypeComments.Proofs.Concatenation
import TypeComments.Proofs.LineShape

/-!
# Blank lines in google style

Google style gives blank lines no meaning. No test stops at one (`Scope.ends_blank`), and no test of a line that is not
blank sees the blank lines below it (`Scope.ends_filled`), so every loop takes the same lines whether the blank ones
are there or not, and leaves a text that does not start with one. `Style.google_report_filled` says so of a whole
docstring, and `google_ignores_blank_lines` adds where the lines stand.
-/

namespace TypeComments.Docstring
variable {directives : List (List Char)} {l : Line} {ls rest : List Line}

def filled (ls : List Line) : List Line :=
  ls.filter fun l => !l.isEmpty

theorem filled_of_blank (h : l.isEmpty = true) (rest : List Line) : filled (l :: rest) = filled rest :=
  List.filter_cons_of_neg (by simp [h])

theorem filled_cons (h : l.isEmpty = false) (rest : List Line) : filled (l :: rest) = l :: filled rest :=
  List.filter_cons_of_pos (by simp [h])

theorem filled_dropWhile (ls : List Line) : filled (ls.dropWhile Line.isEmpty) = filled ls := by
  induction ls with
  | nil => rfl
  | cons l rest ih =>
    cases hl : l.isEmpty with
    | true => rw [List.dropWhile_cons_of_pos hl, ih, filled_of_blank hl]
    | false => rw [List.dropWhile_cons_of_neg (by simp [hl])]

theorem startsFilled_filled (ls : List Line) : StartsFilled (filled ls) := by
  rw [← filled_dropWhile]
  cases h : ls.dropWhile Line.isEmpty with
  | nil => rfl
  | cons l rest =>
    have hl := (h ▸ startsFilled_dropWhile ls : StartsFilled (l :: rest)).head
    simp [filled_cons hl, StartsFilled, hl]

theorem dropWhile_filled (ls : List Line) : (filled ls).dropWhile Line.isEmpty = filled ls :=
  dropWhile_of_startsFilled (startsFilled_filled ls)

/-! ### Loops that pass blank lines -/

/-- The test passes blank lines, and at any other line it does not see the blank ones below. -/
structure PassesBlank (p : List Line → Bool) : Prop where
  blank : ∀ l rest, l.isEmpty = true → p (l :: rest) = true
  unseen : ∀ l rest, l.isEmpty = false → p (l :: filled rest) = p (l :: rest)

namespace PassesBlank
variable {p : List Line → Bool}

theorem takeAhead_filled (hp : PassesBlank p) (ls : List Line) : takeAhead p (filled ls) = filled (takeAhead p ls) := by
  induction ls with
  | nil => rfl
  | cons l rest ih =>
    cases hl : l.isEmpty with
    | true => rw [filled_of_blank hl, ih, takeAhead, if_pos (hp.blank l rest hl), filled_of_blank hl]
    | false =>
      rw [filled_cons hl, takeAhead, takeAhead, hp.unseen l rest hl]
      split
      · rw [filled_cons hl, ih]
      · rfl

theorem dropAhead_filled (hp : PassesBlank p) (ls : List Line) : dropAhead p (filled ls) = filled (dropAhead p ls) := by
  induction ls with
  | nil => rfl
  | cons l rest ih =>
    cases hl : l.isEmpty with
    | true => rw [filled_of_blank hl, ih, dropAhead, if_pos (hp.blank l rest hl)]
    | false =>
      rw [filled_cons hl, dropAhead, dropAhead, hp.unseen l rest hl]
      split
      · exact ih
      · rw [filled_cons hl]

theorem startsFilled_dropAhead (hp : PassesBlank p) (ls : List Line) : StartsFilled (dropAhead p ls) := by
  induction ls with
  | nil => rfl
  | cons l rest ih =>
    rw [dropAhead]
    split
    · exact ih
    · rename_i hstop
      cases hl : l.isEmpty with
      | true => exact absurd (hp.blank l rest hl) hstop
      | false => simp [StartsFilled, hl]

end PassesBlank

/-! ### Tests -/

theorem indentAhead_filled (ls : List Line) : indentAhead (filled ls) = indentAhead ls := by
  induction ls with
  | nil => rfl
  | cons l rest ih =>
    cases hl : l.isEmpty with
    | true => rw [filled_of_blank hl, indentAhead_of_blank hl, ih]
    | false => rw [filled_cons hl, indentAhead_of_filled hl, indentAhead_of_filled hl]

theorem headingAt_filled (directives : List (List Char)) (l : Line) (rest : List Line) :
    headingAt .google directives (l :: filled rest) = headingAt .google directives (l :: rest) := by
  simp only [headingAt, indentAhead_filled]

namespace Scope
variable {sc : Scope} (hsc : sc.style = .google)

section
include hsc

theorem ends_blank (hl : l.isEmpty = true) (rest : List Line) : sc.ends (l :: rest) = false := by
  have hl' : l.text.isEmpty = true := hl
  rw [ends, breakAt, not_heading_of_indent (.inl hl), hsc, hl']
  cases sc.inSection <;> rfl

theorem ends_filled (l : Line) (rest : List Line) : sc.ends (l :: filled rest) = sc.ends (l :: rest) := by
  rw [ends, ends, breakAt, breakAt, hsc, headingAt_filled]
  rfl

theorem passesBlank_inside : PassesBlank fun ls => !sc.ends ls where
  blank l rest hl := by rw [ends_blank hsc hl rest, Bool.not_false]
  unseen l rest _ := by rw [ends_filled hsc l rest]

theorem passesBlank_below (indent : Int) : PassesBlank (sc.below indent) where
  blank l rest hl := by simp [below, ends_blank hsc hl rest, hl]
  unseen l rest _ := by simp only [below, ends_filled hsc l rest, List.head?_cons]

/-! ### Sections -/

theorem startsFilled_fields (ls : List Line) : StartsFilled (sc.fields ls).2 := by
  fun_induction fields sc ls with
  | case1 => rfl
  | case2 l rest hends =>
    cases hl : l.isEmpty with
    | true =>
      rw [ends_blank hsc hl rest] at hends
      cases hends
    | false => simp [StartsFilled, hl]
  | case3 l rest hends more ih => exact ih

/-- A blank line in front of a field would be a field of its own, and take all others for its text. -/
theorem fields_filled (h : StartsFilled ls) : sc.fields (filled ls) = ((sc.fields ls).1, filled (sc.fields ls).2) := by
  fun_induction fields sc ls with
  | case1 => exact sc.fields_nil
  | case2 l rest hends => rw [filled_cons h.head, fields_cons, ends_filled hsc, if_pos hends]
  | case3 l rest hends more ih =>
    have hbelow := passesBlank_below hsc (indentOf l.text + 1)
    rw [filled_cons h.head, fields_cons, ends_filled hsc, if_neg hends, hbelow.dropAhead_filled,
      ih (hbelow.startsFilled_dropAhead rest)]

theorem params_filled (preferType : Bool) (ls : List Line) :
    sc.params preferType (filled ls) = ((sc.params preferType ls).1, filled (sc.params preferType ls).2) := by
  have hfields := fields_filled hsc (startsFilled_dropWhile ls)
  rw [filled_dropWhile] at hfields
  rw [params, params, dropWhile_filled, hfields]

/-- A section ends at a line that is not blank, so no blank lines are left for its body to take. -/
theorem body_eq (ls : List Line) :
    sc.body ls = (takeAhead (fun ls => !sc.ends ls) (ls.dropWhile Line.isEmpty),
      dropAhead (fun ls => !sc.ends ls) (ls.dropWhile Line.isEmpty)) := by
  have hleft := (passesBlank_inside hsc).startsFilled_dropAhead (ls.dropWhile Line.isEmpty)
  rw [body, takeWhile_of_startsFilled hleft, dropWhile_of_startsFilled hleft, List.append_nil]

theorem startsFilled_body (ls : List Line) : StartsFilled (sc.body ls).1 ∧ StartsFilled (sc.body ls).2 := by
  have hstart := startsFilled_dropWhile ls
  rw [body_eq hsc]
  refine ⟨?_, (passesBlank_inside hsc).startsFilled_dropAhead _⟩
  cases hd : ls.dropWhile Line.isEmpty with
  | nil => rfl
  | cons l rest =>
    rw [hd] at hstart
    rw [takeAhead]
    split
    · exact hstart
    · rfl

theorem body_filled (ls : List Line) : sc.body (filled ls) = (filled (sc.body ls).1, filled (sc.body ls).2) := by
  have hinside := passesBlank_inside hsc
  rw [body_eq hsc, body_eq hsc, dropWhile_filled, ← filled_dropWhile ls, hinside.takeAhead_filled,
    hinside.dropAhead_filled]

end

theorem resultOf_filled (h : StartsFilled ls) :
    Read.resultOf (dedent false (filled ls)) = Read.resultOf (dedent false ls) := by
  cases ls with
  | nil => rfl
  | cons l rest =>
    have hindent : minIndent ((l :: filled rest).map (·.text)) = minIndent ((l :: rest).map (·.text)) := by
      rw [minIndent, minIndent, ← filled_cons h.head, List.filter_map, List.filter_map, filled, List.filter_filter]
      congr 5
      funext l'
      exact Bool.and_self _
    rw [filled_cons h.head, dedent, dedent, hindent]
    rfl

include hsc

theorem results_filled (ls : List Line) :
    sc.results (filled ls) = ((sc.results ls).1, filled (sc.results ls).2) := by
  simp only [results, hsc]
  rw [body_filled hsc, resultOf_filled (startsFilled_body hsc ls).1]

theorem found_filled (heading : List Char) (ls : List Line) :
    sc.found heading (filled ls) = ((sc.found heading ls).1, filled (sc.found heading ls).2) := by
  simp only [found, body_filled hsc, params_filled hsc, results_filled hsc]
  split
  · rfl
  split <;> rfl

theorem startsFilled_found (heading : List Char) (ls : List Line) : StartsFilled (sc.found heading ls).2 := by
  have hbody := (startsFilled_body hsc ls).2
  have hresults : StartsFilled (sc.results ls).2 := by
    simp only [results, hsc]
    exact hbody
  unfold found
  split
  · exact hbody
  split
  exacts [startsFilled_fields hsc _, hresults, hresults, hbody, hbody]

end Scope

/-! ### Turns -/

theorem turn_filled (hl : l.isEmpty = false) (rest : List Line) :
    turn .google directives l (filled rest) =
      ((turn .google directives l rest).1, filled (turn .google directives l rest).2) := by
  rw [turn, turn, headingAt_filled]
  split
  · simp only [Style.cutHeading, indentAhead_filled]
    exact Scope.found_filled rfl _ rest
  · rw [← filled_cons hl, Scope.body_filled rfl]

theorem startsFilled_turn (l : Line) (rest : List Line) : StartsFilled (turn .google directives l rest).2 := by
  unfold turn
  split
  · exact Scope.startsFilled_found rfl _ _
  · exact (Scope.startsFilled_body rfl _).2

theorem findings_filled (h : StartsFilled ls) :
    findings .google directives (filled ls) = findings .google directives ls := by
  fun_induction findings .google directives ls with
  | case1 => exact findings_nil .google directives
  | case2 l rest ih =>
    rw [filled_cons h.head, findings_cons, turn_filled h.head, ih (startsFilled_turn l rest)]

/-- Blank lines do not change what a google docstring documents. -/
theorem Style.google_report_filled (ls : List Line) : Style.google.report (filled ls) = Style.google.report ls := by
  rw [Style.report, Style.report, dropWhile_filled, ← filled_dropWhile, findings_filled (startsFilled_dropWhile ls)]

/-! ### Line numbers -/

/-- The number of a line that is not blank, and its number when the blank lines above it are taken out. -/
def SamePlace (lines : List (List Char)) (n n' : Nat) : Prop :=
  ∃ above w below, lines = above ++ w :: below ∧ w.all isBlank = false ∧ n = above.length + 2 ∧
    n' = (above.filter fun l => !l.all isBlank).length + 2

theorem filled_numberedFrom (above lines : List (List Char)) :
    List.Forall₂ (Line.Alike (SamePlace (above ++ lines))) (filled (numberedFrom above.length lines))
      (numberedFrom (above.filter fun l => !l.all isBlank).length (lines.filter fun l => !l.all isBlank)) := by
  induction lines generalizing above with
  | nil => exact .nil
  | cons w below ih =>
    have hrest := ih (above ++ [w])
    rw [List.append_assoc, List.singleton_append, List.length_append, List.length_singleton, List.filter_append,
      List.length_append] at hrest
    have hempty : (Line.ofIndexed (above.length, w)).isEmpty = w.all isBlank := isEmpty_ofIndexed above.length w
    rw [numberedFrom]
    cases hw : w.all isBlank with
    | true =>
      rw [filled_of_blank (hempty.trans hw), List.filter_cons_of_neg (by simp [hw])]
      simpa [hw] using hrest
    | false =>
      rw [filled_cons (hempty.trans hw), List.filter_cons_of_pos (by simp [hw]), numberedFrom]
      refine .cons ⟨rfl, above, w, below, rfl, hw, rfl, rfl⟩ ?_
      simpa [hw] using hrest

/-- Without its blank lines a google docstring documents the same: the same parts, with the same names and types in the
same order, each from the same line. -/
theorem google_ignores_blank_lines (lines : List (List Char)) :
    ∃ report report', Style.google.parse lines = .ok report ∧
      Style.google.parse (lines.filter fun l => !l.all isBlank) = .ok report' ∧
      report.Alike (SamePlace lines) report' := by
  refine ⟨_, _, Style.google.parse_eq _, Style.google.parse_eq _, ?_⟩
  rw [← Style.google_report_filled]
  exact Style.google.report_alike (filled_numberedFrom [] lines)

end TypeComments.Docstring
