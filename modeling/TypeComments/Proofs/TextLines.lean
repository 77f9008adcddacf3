import Mathlib.Data.List.Basic
import TypeComments.Text.Lines

/-!
# Complete lines

A text is a row of complete lines and a rest without a line feed (`exists_lines`), and `physicalLines` cuts
it into just these (`physicalLines_lines`). So a text that is put together from complete lines is cut
into the same lines again.
-/

namespace TypeComments
variable {l t : List Char} {ls : List (List Char)}

/-- A complete line: it ends in a line feed and holds no other. -/
def IsLine (l : List Char) : Prop :=
  ∃ t, l = t ++ ['\n'] ∧ '\n' ∉ t

theorem physicalLinesFrom_append (ht : '\n' ∉ t) (line s : List Char) :
    physicalLinesFrom line (t ++ s) = physicalLinesFrom (t.reverse ++ line) s := by
  induction t generalizing line with
  | nil => rfl
  | cons c t ih =>
    rw [List.mem_cons, not_or] at ht
    rw [List.cons_append, physicalLinesFrom, if_neg (by simpa using Ne.symm ht.1), ih ht.2]
    simp

theorem IsLine.physicalLines_append (hl : IsLine l) (s : List Char) :
    physicalLines (l ++ s) = l :: physicalLines s := by
  obtain ⟨t, rfl, ht⟩ := hl
  rw [physicalLines, List.append_assoc, physicalLinesFrom_append ht]
  simp [physicalLinesFrom, physicalLines]

theorem physicalLines_of_not_mem (ht : '\n' ∉ t) : physicalLines t = if t.isEmpty then [] else [t] := by
  have h := physicalLinesFrom_append ht [] []
  rw [List.append_nil, List.append_nil] at h
  rw [physicalLines, h]
  simp [physicalLinesFrom]

theorem physicalLines_flatten_append (hls : ∀ l ∈ ls, IsLine l) (s : List Char) :
    physicalLines (ls.flatten ++ s) = ls ++ physicalLines s := by
  induction ls with
  | nil => rfl
  | cons l ls ih =>
    rw [List.flatten_cons, List.append_assoc, (hls l (by simp)).physicalLines_append,
      ih fun l' h => hls l' (by simp [h]), List.cons_append]

/-- Complete lines and a rest are cut where they were put together. -/
theorem physicalLines_lines (hls : ∀ l ∈ ls, IsLine l) (ht : '\n' ∉ t) :
    physicalLines (ls.flatten ++ t) = ls ++ if t.isEmpty then [] else [t] := by
  rw [physicalLines_flatten_append hls, physicalLines_of_not_mem ht]

theorem physicalLines_flatten (hls : ∀ l ∈ ls, IsLine l) : physicalLines ls.flatten = ls := by
  have h := physicalLines_lines (t := []) hls (by simp)
  simpa using h

theorem exists_lines (s : List Char) :
    ∃ ls t, s = List.flatten ls ++ t ∧ (∀ l ∈ ls, IsLine l) ∧ '\n' ∉ t := by
  induction s with
  | nil => exact ⟨[], [], rfl, by simp, by simp⟩
  | cons c s ih =>
    obtain ⟨ls, t, rfl, hls, ht⟩ := ih
    by_cases hc : c = '\n'
    · subst hc
      refine ⟨['\n'] :: ls, t, by simp, ?_, ht⟩
      simpa using ⟨⟨[], rfl, by simp⟩, hls⟩
    · cases ls with
      | nil => exact ⟨[], c :: t, rfl, by simp, by simpa [ht] using Ne.symm hc⟩
      | cons l ls =>
        obtain ⟨u, hu, hnot⟩ := hls l (by simp)
        refine ⟨(c :: l) :: ls, t, by simp, ?_, ht⟩
        rintro l' h'
        rcases List.mem_cons.1 h' with rfl | h'
        · exact ⟨c :: u, by simp [hu], by simpa [hnot] using Ne.symm hc⟩
        · exact hls l' (by simp [h'])

theorem physicalLines_append_feed (s s' : List Char) :
    physicalLines (s ++ ['\n'] ++ s') = physicalLines (s ++ ['\n']) ++ physicalLines s' := by
  obtain ⟨ls, t, rfl, hls, ht⟩ := exists_lines s
  have hall : ∀ l ∈ ls ++ [t ++ ['\n']], IsLine l := by
    intro l hl
    rcases List.mem_append.1 hl with hl | hl
    · exact hls l hl
    · exact ⟨t, List.mem_singleton.1 hl, ht⟩
  have htext : ls.flatten ++ t ++ ['\n'] = (ls ++ [t ++ ['\n']]).flatten := by simp
  rw [htext, physicalLines_flatten_append hall, physicalLines_flatten hall]

end TypeComments
