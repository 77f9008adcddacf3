import TypeComments.Docstring.Format
import TypeComments.Proofs.TextEnds
import TypeComments.Proofs.TextPieces

/-!
# Indented docstrings

`indented d lines` is a docstring as it stands in a source: the lines, each indented by `d` spaces, after a line
feed. Cleaning takes the indentation off again (`Flush.unindent`, `Flush.clean`).
-/

namespace TypeComments
variable {l s : List Char} {lines : List (List Char)}

/-! ### Tabs and margins -/

namespace Docstring

theorem expandTabsFrom_of_not_mem (hs : '\t' ∉ s) (width col : Nat) : expandTabsFrom width col s = s := by
  induction s generalizing col with
  | nil => rfl
  | cons c s ih =>
    rw [List.mem_cons, not_or] at hs
    rw [expandTabsFrom, if_neg (by simpa using Ne.symm hs.1)]
    split <;> rw [ih hs.2]

/-- The lines of a docstring, indented by `d` spaces, as they stand in a source. -/
def indented (d : Nat) (lines : List (List Char)) : List Char :=
  '\n' :: List.intercalate ['\n'] (lines.map (List.replicate d ' ' ++ ·))

/-- Lines as a docstring has them when its indentation is off: the first line is flush, the last one is not
empty, and none holds a line feed or a tab. -/
structure Flush (lines : List (List Char)) : Prop where
  first : ∃ c l rest, lines = (c :: l) :: rest ∧ isBlank c = false
  last : lines.getLast? ≠ some []
  plain : ∀ l ∈ lines, '\n' ∉ l ∧ '\t' ∉ l

namespace Flush
variable (h : Flush lines) (d : Nat)
include h

theorem margin? : margin? (lines.map (List.replicate d ' ' ++ ·)) = some d := by
  obtain ⟨c, l, rest, rfl, hc⟩ := h.first
  rw [Docstring.margin?, List.min?_eq_some_iff]
  have hindent : indentOf (List.replicate d ' ' ++ c :: l) = d := by
    rw [indentOf_replicate]
    simp [indentOf, hc]
  constructor
  · refine List.mem_map.2 ⟨_, List.mem_filter.2 ⟨.head _, ?_⟩, hindent⟩
    simp [trimLeft, List.dropWhile_append_of_pos (blank_replicate d), hc]
  · intro n hn
    obtain ⟨k, hk, rfl⟩ := List.mem_map.1 hn
    obtain ⟨m, -, rfl⟩ := List.mem_map.1 (List.mem_of_mem_filter hk)
    rw [indentOf_replicate]
    omega

theorem dropEmptyEnds : dropEmptyEnds ([] :: lines) = lines := by
  have hfront : ([] :: lines).dropWhile List.isEmpty = lines := by
    obtain ⟨c, l, rest, rfl, -⟩ := h.first
    rfl
  have hback : lines.reverse.dropWhile List.isEmpty = lines.reverse := by
    have hlast := h.last
    rw [← List.head?_reverse] at hlast
    cases hr : lines.reverse with
    | nil => rfl
    | cons l rest =>
      rw [hr] at hlast
      exact List.dropWhile_cons_of_neg (by simpa using hlast)
  simp only [Docstring.dropEmptyEnds, hfront, hback, List.reverse_reverse]

theorem unindent : unindent (indented d lines) = List.intercalate ['\n'] lines := by
  have hne : lines.map (List.replicate d ' ' ++ ·) ≠ [] := by
    obtain ⟨c, l, rest, rfl, -⟩ := h.first
    simp
  have hplain {c : Char} (hc : c ≠ ' ') (hl : ∀ l ∈ lines, c ∉ l) :
      ∀ l ∈ lines.map (List.replicate d ' ' ++ ·), c ∉ l := by
    intro l hmem
    obtain ⟨k, hk, rfl⟩ := List.mem_map.1 hmem
    rw [List.mem_append, not_or]
    exact ⟨fun h => hc (List.eq_of_mem_replicate h), hl k hk⟩
  have htabs : '\t' ∉ indented d lines := by
    rw [indented, List.mem_cons, not_or]
    exact ⟨by decide, not_mem_intercalate (by decide) (hplain (by decide) fun l hl => (h.plain l hl).2)⟩
  have hcut : List.splitOn '\n' (indented d lines) = [] :: lines.map (List.replicate d ' ' ++ ·) := by
    have hjoin := List.splitOn_intercalate '\n' (hplain (by decide) fun l hl => (h.plain l hl).1) hne
    rw [indented, List.splitOn_cons_eq_if_modifyHead, if_pos (by simp), hjoin]
  have hdrop : (lines.map (List.replicate d ' ' ++ ·)).map (List.drop d) = lines := by
    simp [Function.comp_def]
  rw [Docstring.unindent, expandTabs, expandTabsFrom_of_not_mem htabs, hcut, unindentLines, h.margin?]
  simp only [hdrop, trimLeft, List.dropWhile_nil]
  rw [h.dropEmptyEnds]

theorem clean (hquotes : ∀ l ∈ lines, '\x60' ∉ l) : clean (indented d lines) = List.intercalate ['\n'] lines := by
  have hclear : '\x60' ∉ List.intercalate ['\n'] lines := not_mem_intercalate (by decide) hquotes
  rw [Docstring.clean, h.unindent, List.filter_eq_self]
  intro c hc
  simp only [bne_iff_ne, ne_eq]
  rintro rfl
  exact hclear hc

end Flush

end Docstring
end TypeComments
