import TypeComments.Proofs.Headings
import TypeComments.Proofs.Outline

/-!
# The shape of a line

The reader takes the trailing blanks off a line. A blank line is empty then, and any other line keeps its
indentation (`indentOf_trimRight`), so what the tests for blank and indented lines see of the numbered lines can be
said of the lines as they were given.
-/

namespace TypeComments.Docstring
variable {s : List Char} {l : Line} {ls rest : List Line}

/-! ### Indented lines -/

theorem isIndented_eq (h : s.all isBlank = false) (n : Int) : isIndented n s = decide (n ≤ indentOf s) := by
  induction s generalizing n with
  | nil => cases h
  | cons c s ih =>
    rw [isIndented]
    cases hc : isBlank c with
    | false =>
      have hzero : indentOf (c :: s) = 0 := by simp [indentOf, hc]
      rw [hzero]
      split <;> simp_all
    | true =>
      have hsucc : indentOf (c :: s) = indentOf s + 1 := by simp [indentOf, hc]
      rw [List.all_cons, hc, Bool.true_and] at h
      rw [hsucc, Bool.true_and, ih h]
      split
      · rw [eq_comm, decide_eq_true_eq]
        omega
      · exact decide_eq_decide.2 (by omega)

/-! ### Blank lines -/

/-- The lines do not start with a blank one. -/
def StartsFilled (ls : List Line) : Prop :=
  ls.head?.any Line.isEmpty = false

theorem StartsFilled.head (h : StartsFilled (l :: rest)) : l.isEmpty = false := by
  simpa [StartsFilled] using h

theorem startsFilled_dropWhile (ls : List Line) : StartsFilled (ls.dropWhile Line.isEmpty) := by
  cases h : ls.dropWhile Line.isEmpty with
  | nil => rfl
  | cons l rest =>
    have hhead := List.head?_dropWhile_not Line.isEmpty ls
    rw [h] at hhead
    simpa [StartsFilled] using hhead

theorem dropWhile_of_startsFilled (h : StartsFilled ls) : ls.dropWhile Line.isEmpty = ls := by
  cases ls with
  | nil => rfl
  | cons l rest => rw [List.dropWhile_cons_of_neg (by simp [h.head])]

theorem takeWhile_of_startsFilled (h : StartsFilled ls) : ls.takeWhile Line.isEmpty = [] := by
  cases ls with
  | nil => rfl
  | cons l rest => rw [List.takeWhile_cons_of_neg (by simp [h.head])]

theorem indentAhead_of_blank (hl : l.isEmpty = true) (rest : List Line) :
    indentAhead (l :: rest) = indentAhead rest := by
  have hl' : l.text.isEmpty = true := hl
  simp only [indentAhead, List.dropWhile_cons, hl', ↓reduceIte]

theorem indentAhead_of_filled (hl : l.isEmpty = false) (rest : List Line) :
    indentAhead (l :: rest) = indentOf l.text := by
  have hl' : l.text.isEmpty = false := hl
  simp only [indentAhead, List.dropWhile_cons, hl', Bool.false_eq_true, ↓reduceIte]

/-! ### Numbered lines -/

theorem isEmpty_ofIndexed (i : Nat) (text : List Char) : (Line.ofIndexed (i, text)).isEmpty = text.all isBlank := by
  rw [Line.isEmpty, Bool.eq_iff_iff, List.isEmpty_iff]
  exact trimRight_eq_nil

theorem isIndented_ofIndexed (h : s.all isBlank = false) (i : Nat) (n : Int) :
    isIndented n (Line.ofIndexed (i, s)).text = decide (n ≤ indentOf s) := by
  rw [← indentOf_trimRight h]
  exact isIndented_eq (all_blank_trimRight h) n

theorem indentAhead_numberedFrom (k : Nat) (below : List (List Char)) : indentAhead (numberedFrom k below) =
    ((below.find? fun l => !l.all isBlank).map indentOf).getD 0 := by
  induction below generalizing k with
  | nil => rfl
  | cons l below ih =>
    have hempty := isEmpty_ofIndexed k l
    rw [numberedFrom, List.find?_cons]
    cases hl : l.all isBlank with
    | true =>
      rw [indentAhead_of_blank (hempty.trans hl)]
      exact ih (k + 1)
    | false =>
      rw [indentAhead_of_filled (hempty.trans hl)]
      exact indentOf_trimRight hl

theorem exists_of_mem_numberedFrom {k : Nat} {lines : List (List Char)} (h : l ∈ numberedFrom k lines) :
    ∃ text ∈ lines, l.text = trimRight text := by
  induction lines generalizing k with
  | nil => cases h
  | cons text lines ih =>
    rcases List.mem_cons.1 h with rfl | h
    · exact ⟨text, .head _, rfl⟩
    · obtain ⟨u, hu, hl⟩ := ih h
      exact ⟨u, .tail _ hu, hl⟩

theorem cons_suffix_numberedFrom {k : Nat} {lines : List (List Char)} :
    l :: rest <:+ numberedFrom k lines ↔ ∃ above w below, lines = above ++ w :: below ∧
      l = Line.ofIndexed (k + above.length, w) ∧ rest = numberedFrom (k + above.length + 1) below := by
  constructor
  · rintro ⟨front, h⟩
    have hlen := congrArg List.length h
    rw [List.length_append, length_numberedFrom, List.length_cons] at hlen
    have hsplit := numberedFrom_append k (lines.take front.length) (lines.drop front.length)
    rw [List.take_append_drop, ← h] at hsplit
    have htail := (List.append_inj hsplit (by rw [length_numberedFrom, List.length_take]; omega)).2
    cases hdrop : lines.drop front.length with
    | nil =>
      rw [hdrop, numberedFrom] at htail
      cases htail
    | cons w below =>
      rw [hdrop, numberedFrom, List.cons.injEq] at htail
      exact ⟨_, w, below, by rw [← hdrop, List.take_append_drop], htail⟩
  · rintro ⟨above, w, below, rfl, rfl, rfl⟩
    rw [numberedFrom_append, numberedFrom]
    exact List.suffix_append _ _

end TypeComments.Docstring
