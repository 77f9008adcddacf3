import Mathlib.Data.List.Chain
import TypeComments.Proofs.BlankLines
import TypeComments.Proofs.FlatSections

/-!
# Sections whose fields have text below them

A field is a block: its own line, and lines below it that are blank or indented deeper. Whatever those lines say, a
field takes all of its block and nothing of the next one (`Scope.Owns`), so the fields of a section are the first lines
of its blocks (`Scope.fields_blocks`). The two styles differ in the blank lines that a block may have: in numpy style
two of them in a row end the section, in google style blank lines mean nothing.
-/

namespace TypeComments.Docstring

/-- A line, and the lines below it that belong to it. -/
structure FieldBlock where
  head : List Char
  body : List (List Char)

def FieldBlock.lines (b : FieldBlock) : List (List Char) :=
  b.head :: b.body

/-- The first line of each block, when the first block starts at the index `n`. -/
def blockHeads (n : Nat) (bs : List FieldBlock) : List Line :=
  bs.mapIdx fun i b => Line.ofIndexed (n + ((bs.take i).flatMap FieldBlock.lines).length, b.head)

theorem blockHeads_cons (n : Nat) (b : FieldBlock) (bs : List FieldBlock) :
    blockHeads n (b :: bs) = Line.ofIndexed (n, b.head) :: blockHeads (n + b.lines.length) bs := by
  simp [blockHeads, List.mapIdx_cons, Nat.add_assoc]

namespace Scope
variable {sc : Scope} {k : Nat} {b : FieldBlock} {body : List (List Char)} {rest : List Line}

/-- In this section the block is one field at indentation `k`: the section goes on at its first line, and its other
lines are passed on the way to what follows. -/
structure Owns (sc : Scope) (k : Nat) (b : FieldBlock) : Prop where
  filled : b.head.all isBlank = false
  indent : indentOf b.head = k
  starts : ∀ n rest, sc.ends (Line.ofIndexed (n, b.head) :: rest) = false
  takes : ∀ n rest, StartsFilled rest →
    dropAhead (sc.below (k + 1)) (numberedFrom n b.body ++ rest) = dropAhead (sc.below (k + 1)) rest

section
variable {bs : List FieldBlock} (h : ∀ b ∈ bs, sc.Owns k b)
include h

theorem startsFilled_blocks (n : Nat) : StartsFilled (numberedFrom n (bs.flatMap FieldBlock.lines)) := by
  cases bs with
  | nil => rfl
  | cons b bs =>
    have hempty := isEmpty_ofIndexed n b.head
    rw [(h b (.head _)).filled] at hempty
    simp [StartsFilled, FieldBlock.lines, numberedFrom, hempty]

/-- A field does not reach into the next block. -/
theorem dropAhead_blocks (n : Nat) : dropAhead (sc.below (k + 1)) (numberedFrom n (bs.flatMap FieldBlock.lines)) =
    numberedFrom n (bs.flatMap FieldBlock.lines) := by
  cases bs with
  | nil => rfl
  | cons b bs =>
    have hb := h b (.head _)
    have hempty := isEmpty_ofIndexed n b.head
    rw [hb.filled] at hempty
    have hflush : isIndented (k + 1) (Line.ofIndexed (n, b.head)).text = false := by
      rw [isIndented_ofIndexed hb.filled, hb.indent, decide_eq_false_iff_not]
      omega
    rw [List.flatMap_cons, FieldBlock.lines, List.cons_append, numberedFrom, dropAhead, if_neg]
    simp [below, hempty, hflush]

/-- The fields of a section are the first lines of its blocks. -/
theorem fields_blocks (n : Nat) : sc.fields (numberedFrom n (bs.flatMap FieldBlock.lines)) = (blockHeads n bs, []) := by
  induction bs generalizing n with
  | nil => exact sc.fields_nil
  | cons b bs ih =>
    have hb := h b (.head _)
    have hbs : ∀ b' ∈ bs, sc.Owns k b' := fun b' hb' => h b' (.tail _ hb')
    have hindent : indentOf (Line.ofIndexed (n, b.head)).text = k := (indentOf_trimRight hb.filled).trans hb.indent
    have hlength : n + 1 + b.body.length = n + b.lines.length := by
      rw [FieldBlock.lines, List.length_cons]
      omega
    rw [List.flatMap_cons, FieldBlock.lines, List.cons_append, numberedFrom, numberedFrom_append, fields_cons,
      hb.starts, hindent, hb.takes _ _ (startsFilled_blocks hbs _), dropAhead_blocks hbs, ih hbs, blockHeads_cons,
      hlength]
    rfl

theorem params_blocks (preferType : Bool) (n : Nat) :
    sc.params preferType (numberedFrom n (bs.flatMap FieldBlock.lines)) =
      (((blockHeads n bs).map (Read.fieldOf sc.style true preferType)).filter Read.isMeaningful, []) := by
  rw [params, dropWhile_of_startsFilled (startsFilled_blocks h n), fields_blocks h]

theorem indentAhead_blocks (hne : bs ≠ []) (n : Nat) :
    indentAhead (numberedFrom n (bs.flatMap FieldBlock.lines)) = k := by
  obtain ⟨b, bs, rfl⟩ := List.exists_cons_of_ne_nil hne
  have hb := h b (.head _)
  rw [indentAhead_numberedFrom, List.flatMap_cons, FieldBlock.lines, List.cons_append, List.find?_cons, hb.filled]
  exact hb.indent

end

/-! ### The lines of a block -/

/-- Lines below a field belong to it: the deeper ones are neither headings nor outside the section, so only its blank
lines could end it. -/
theorem dropAhead_body (hindent : sc.indent = k) (hdeep : ∀ l ∈ body, l.all isBlank = true ∨ k < indentOf l)
    (hblank : ∀ l below, l :: below <:+ body → l.all isBlank = true →
      ∀ n, sc.ends (Line.ofIndexed (n, l) :: (numberedFrom (n + 1) below ++ rest)) = false) (n : Nat) :
    dropAhead (sc.below (k + 1)) (numberedFrom n body ++ rest) = dropAhead (sc.below (k + 1)) rest := by
  induction body generalizing n with
  | nil => rfl
  | cons l body ih =>
    have hbelow : sc.below (k + 1) (Line.ofIndexed (n, l) :: (numberedFrom (n + 1) body ++ rest)) = true := by
      have hempty := isEmpty_ofIndexed n l
      cases hl : l.all isBlank with
      | true =>
        rw [hl] at hempty
        simp [below, hblank l body List.suffix_rfl hl n, hempty]
      | false =>
        have hk : k < indentOf l := (hdeep l (.head _)).resolve_left (by simp [hl])
        have hin (i : Int) (hi : i ≤ indentOf l) : isIndented i (Line.ofIndexed (n, l)).text = true := by
          rw [isIndented_ofIndexed hl, decide_eq_true hi]
        have htext : 0 < indentOf (Line.ofIndexed (n, l)).text := by
          rw [show (Line.ofIndexed (n, l)).text = trimRight l from rfl, indentOf_trimRight hl]
          omega
        have hends : sc.ends (Line.ofIndexed (n, l) :: (numberedFrom (n + 1) body ++ rest)) = false :=
          sc.not_ends_of_indented (hempty.trans hl) (hin _ (by omega)) (not_heading_of_indent (.inr htext))
        simp [below, hends, hin (k + 1) (by omega)]
    rw [numberedFrom, List.cons_append, dropAhead, if_pos hbelow]
    exact ih (fun l' hl' => hdeep l' (.tail _ hl'))
      (fun l' below hs => hblank l' below (hs.trans (List.suffix_cons l body))) (n + 1)

theorem starts_of_not_heading (hindent : sc.indent = k) (hfilled : b.head.all isBlank = false)
    (hk : indentOf b.head = k) (n : Nat)
    (hh : headingAt sc.style sc.directives (Line.ofIndexed (n, b.head) :: rest) = false) :
    sc.ends (Line.ofIndexed (n, b.head) :: rest) = false := by
  refine sc.not_ends_of_indented ((isEmpty_ofIndexed n b.head).trans hfilled) ?_ hh
  rw [isIndented_ofIndexed hfilled, hk, hindent]
  exact decide_eq_true (Int.le_refl _)

theorem owns_google (hsc : sc.style = .google) (hindent : sc.indent = k) (hpos : 0 < k)
    (hfilled : b.head.all isBlank = false) (hk : indentOf b.head = k)
    (hdeep : ∀ l ∈ b.body, l.all isBlank = true ∨ k < indentOf l) : sc.Owns k b where
  filled := hfilled
  indent := hk
  starts n rest := by
    have htext : indentOf (Line.ofIndexed (n, b.head)).text = k := (indentOf_trimRight hfilled).trans hk
    exact starts_of_not_heading hindent hfilled hk n (not_heading_of_indent (.inr (htext ▸ hpos)))
  takes n rest _ := by
    refine dropAhead_body hindent hdeep (fun l below _ hl m => ?_) n
    exact ends_blank hsc ((isEmpty_ofIndexed m l).trans hl) _

theorem owns_of_spaced (hindent : sc.indent = k) (hfilled : b.head.all isBlank = false) (hk : indentOf b.head = k)
    (hh : ∀ n rest, headingAt sc.style sc.directives (Line.ofIndexed (n, b.head) :: rest) = false)
    (hdeep : ∀ l ∈ b.body, l.all isBlank = true ∨ k < indentOf l)
    (hspaced : b.body.IsChain fun l m => ¬(l.all isBlank = true ∧ m.all isBlank = true)) : sc.Owns k b where
  filled := hfilled
  indent := hk
  starts n rest := starts_of_not_heading hindent hfilled hk n (hh n rest)
  takes n rest hrest := by
    refine dropAhead_body hindent hdeep (fun l below hs hl m => ?_) n
    -- the line after a blank one is not blank, be it in the block or after it
    refine sc.not_ends_blank ((isEmpty_ofIndexed m l).trans hl) ?_
    cases below with
    | nil => exact hrest
    | cons l' below =>
      have hpair := (hspaced.suffix hs).rel_head? rfl
      have hl' : l'.all isBlank = false := Bool.eq_false_iff.2 fun hl' => hpair ⟨hl, hl'⟩
      have hempty := (isEmpty_ofIndexed (m + 1) l').trans hl'
      simp [StartsFilled, numberedFrom, hempty]

end Scope

end TypeComments.Docstring
