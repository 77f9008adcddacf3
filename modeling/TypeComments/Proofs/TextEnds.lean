import Mathlib.Data.List.Induction
import Mathlib.Data.List.TakeWhile
import TypeComments.Text.Blank
import TypeComments.Text.Lines
import TypeComments.Text.Word

/-!
# The ends of a text

What is left of a text when the blanks at its ends are cut off. A text is `Tight` if no blank stands at its ends: such a
text is what cutting them off leaves (`tight_trim`), and it comes through unchanged (`Tight.trim_eq`), also with blanks
put around it. Cutting off trailing blanks keeps the indentation of a text that is not blank (`indentOf_trimRight`).
-/

namespace TypeComments
variable {s t : List Char} {c : Char}

/-! ### Blanks and other characters -/

theorem exists_of_inRanges {rs : List (Nat × Nat)} {n : Nat} (h : inRanges rs n = true) :
    ∃ p ∈ rs, p.1 ≤ n ∧ n ≤ p.2 := by
  induction rs with
  | nil => simp [inRanges] at h
  | cons p rest ih =>
    obtain ⟨lo, hi⟩ := p
    simp only [inRanges] at h
    split at h
    · simp at h
    · simp only [Bool.or_eq_true, decide_eq_true_eq] at h
      rcases h with h | h
      · exact ⟨(lo, hi), by simp, by omega, h⟩
      · obtain ⟨q, hq, hn⟩ := ih h
        exact ⟨q, by simp [hq], hn⟩

theorem isBlank_of_isWord (h : isWord c = true) : isBlank c = false := by
  have hapart : ∀ b ∈ blankRanges, ∀ w ∈ wordRanges, b.2 < w.1 ∨ w.2 < b.1 := by decide +kernel
  refine Bool.eq_false_iff.2 fun hb => ?_
  obtain ⟨b, hb, hlo, hhi⟩ := exists_of_inRanges hb
  obtain ⟨w, hw, hlo', hhi'⟩ := exists_of_inRanges h
  rcases hapart b hb w hw with h | h <;> omega

theorem isBlank_of_isLineBreak (h : isLineBreak c = true) : isBlank c = true := by
  simp only [isLineBreak, Bool.or_eq_true, beq_iff_eq, or_assoc] at h
  rcases h with rfl | rfl | rfl | rfl | rfl | rfl | rfl | rfl | rfl | rfl <;> decide

theorem blank_replicate (d : Nat) : ∀ c ∈ List.replicate d ' ', isBlank c = true := by
  intro c hc
  rw [List.eq_of_mem_replicate hc]
  decide

/-! ### Cutting off the ends -/

theorem trimRightBy_concat (p : Char → Bool) (s : List Char) (c : Char) :
    trimRightBy p (s ++ [c]) = if p c then trimRightBy p s else s ++ [c] := by
  simp only [trimRightBy, List.reverse_append, List.reverse_singleton, List.singleton_append,
    List.dropWhile_cons]
  split <;> simp

theorem trimRightBy_isPrefix (p : Char → Bool) (s : List Char) : trimRightBy p s <+: s := by
  have h := List.dropWhile_suffix p (l := s.reverse)
  rw [← List.reverse_prefix, List.reverse_reverse] at h
  exact h

theorem trimBy_subset (q : Char → Bool) (s : List Char) : trimBy q s ⊆ s :=
  List.Subset.trans (trimRightBy_isPrefix q _).subset (List.dropWhile_suffix q).subset

theorem trimBy_of_not_mem {c : Char} {s : List Char} (h : c ∉ s) : trimBy (· == c) s = s := by
  have hdrop (u : List Char) (hu : c ∉ u) : u.dropWhile (· == c) = u := by
    cases u with
    | nil => rfl
    | cons d u =>
      have hd : d ≠ c := fun hd => hu (by rw [hd]; exact .head _)
      exact List.dropWhile_cons_of_neg (by simpa using hd)
  rw [trimBy, hdrop s h, trimRightBy, hdrop _ (by simpa using h), List.reverse_reverse]

theorem trimRight_eq_nil : trimRight s = [] ↔ s.all isBlank = true := by
  rw [trimRight, trimRightBy, List.reverse_eq_nil_iff, List.dropWhile_eq_nil_iff, List.all_eq_true]
  simp only [List.mem_reverse]

theorem trimRight_append_cons {c : Char} (hc : isBlank c = false) (s t : List Char) :
    trimRight (s ++ c :: t) = s ++ c :: trimRight t := by
  rw [trimRight, trimRight, trimRightBy, trimRightBy, List.reverse_append, List.reverse_cons, List.append_assoc,
    List.dropWhile_append]
  cases h : t.reverse.dropWhile isBlank with
  | nil => simp [hc]
  | cons d u => simp

theorem trimRight_concat {c : Char} (hc : isBlank c = false) (s : List Char) : trimRight (s ++ [c]) = s ++ [c] :=
  trimRight_append_cons hc s []

/-- A line that is not blank ends in another character when its trailing blanks are off. -/
theorem exists_trimRight (h : s.all isBlank = false) : ∃ u c, trimRight s = u ++ [c] ∧ isBlank c = false := by
  rcases List.eq_nil_or_concat (trimRight s) with hnil | ⟨u, c, hc⟩
  · rw [trimRight_eq_nil, h] at hnil
    cases hnil
  · refine ⟨u, c, by rw [hc, List.concat_eq_append], ?_⟩
    rw [List.concat_eq_append, trimRight, trimRightBy, List.reverse_eq_iff] at hc
    have hhead := List.head?_dropWhile_not isBlank s.reverse
    rw [hc] at hhead
    simpa using hhead

theorem all_blank_trimRight (h : s.all isBlank = false) : (trimRight s).all isBlank = false := by
  obtain ⟨u, c, hs, hc⟩ := exists_trimRight h
  simp [hs, hc]

theorem exists_trimRight_append (s : List Char) : ∃ b, s = trimRight s ++ b ∧ ∀ c ∈ b, isBlank c = true := by
  induction s using List.reverseRecOn with
  | nil => exact ⟨[], rfl, by simp⟩
  | append_singleton s c ih =>
    rw [trimRight, trimRightBy_concat]
    cases hc : isBlank c with
    | false => exact ⟨[], by simp, by simp⟩
    | true =>
      obtain ⟨b, hs, hb⟩ := ih
      refine ⟨b ++ [c], ?_, ?_⟩
      · rw [if_pos rfl, ← List.append_assoc]
        exact congrArg (· ++ [c]) hs
      · simpa [or_imp, forall_and, hc] using hb

theorem trimRight_append_of_blank (h : ∀ c ∈ t, isBlank c = true) (s : List Char) :
    trimRight (s ++ t) = trimRight s := by
  rw [trimRight, trimRight, trimRightBy, trimRightBy, List.reverse_append,
    List.dropWhile_append_of_pos fun c hc => h c (List.mem_reverse.1 hc)]

theorem trim_append_of_blank (h : ∀ c ∈ s, isBlank c = true) (t : List Char) : trim (s ++ t) = trim t := by
  rw [trim, trim, trimBy, trimBy, List.dropWhile_append_of_pos h]

/-! ### Indentation -/

theorem indentOf_replicate (d : Nat) (l : List Char) : indentOf (List.replicate d ' ' ++ l) = d + indentOf l := by
  rw [indentOf, List.takeWhile_append_of_pos (blank_replicate d), List.length_append, List.length_replicate]
  rfl

theorem indentOf_trimRight (h : s.all isBlank = false) : indentOf (trimRight s) = indentOf s := by
  obtain ⟨t, ht⟩ := trimRightBy_isPrefix isBlank s
  have hshort : (trimRight s).takeWhile isBlank ≠ trimRight s := by
    intro hall
    have := List.takeWhile_eq_self_iff.1 hall
    have hfalse := all_blank_trimRight h
    rw [List.all_eq_true.2 this] at hfalse
    cases hfalse
  have hlen : ((trimRight s).takeWhile isBlank).length ≠ (trimRight s).length := fun hlen =>
    hshort ((List.takeWhile_prefix isBlank).eq_of_length hlen)
  calc indentOf (trimRight s)
    _ = ((trimRight s ++ t).takeWhile isBlank).length := by rw [List.takeWhile_append, if_neg hlen]; rfl
    _ = indentOf s := by rw [show trimRight s ++ t = s from ht]; rfl

/-! ### Texts without blanks around them -/

/-- No blank stands at either end of the text. -/
structure Tight (s : List Char) : Prop where
  first : ∀ c ∈ s.head?, isBlank c = false
  last : ∀ c ∈ s.getLast?, isBlank c = false

namespace Tight

theorem dropWhile_eq (h : Tight s) (t : List Char) (hs : s ≠ []) : (s ++ t).dropWhile isBlank = s ++ t := by
  cases s with
  | nil => exact absurd rfl hs
  | cons c s => exact List.dropWhile_cons_of_neg (by simp [h.first c rfl])

theorem trimRight_eq (h : ∀ c ∈ s.getLast?, isBlank c = false) : trimRight s = s := by
  rw [trimRight, trimRightBy]
  cases hr : s.reverse with
  | nil => simpa using hr.symm
  | cons c r =>
    have hc : isBlank c = false := h c (by rw [← List.head?_reverse, hr]; rfl)
    rw [List.dropWhile_cons_of_neg (by simp [hc]), ← hr, List.reverse_reverse]

theorem trim_eq (h : Tight s) : trim s = s := by
  have hdrop : s.dropWhile isBlank = s := by
    cases s with
    | nil => rfl
    | cons c s => exact List.dropWhile_cons_of_neg (by simp [h.first c rfl])
  rw [trim, trimBy, hdrop]
  exact trimRight_eq h.last

theorem last_trimRight (s : List Char) : ∀ c ∈ (trimRight s).getLast?, isBlank c = false := by
  intro c hc
  have hlast := List.head?_dropWhile_not isBlank s.reverse
  rw [trimRight, trimRightBy, List.getLast?_reverse, Option.mem_def] at hc
  rw [hc] at hlast
  simpa using hlast

theorem trim_append_blank (h : Tight s) (hs : s ≠ []) (ht : ∀ c ∈ t, isBlank c = true) : trim (s ++ t) = s := by
  rw [trim, trimBy, h.dropWhile_eq _ hs]
  exact (trimRight_append_of_blank ht s).trans (trimRight_eq h.last)

theorem trim_replicate_append (h : Tight s) (k : Nat) : trim (List.replicate k ' ' ++ s) = s := by
  rw [trim_append_of_blank (blank_replicate k), h.trim_eq]

end Tight

theorem tight_trim (s : List Char) : Tight (trim s) where
  first c hc := by
    have hfirst := List.head?_dropWhile_not isBlank s
    obtain ⟨t, ht⟩ : trim s <+: s.dropWhile isBlank := trimRightBy_isPrefix isBlank _
    rw [← ht, List.head?_append, Option.mem_def.1 hc] at hfirst
    simpa using hfirst
  last := Tight.last_trimRight _

end TypeComments
