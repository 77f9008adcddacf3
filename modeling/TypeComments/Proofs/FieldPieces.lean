import TypeComments.Docstring.Partition
import TypeComments.Proofs.TextEnds

/-!
# The pieces of a field line

A field line is cut at its cross-references, and the pieces before and after the first colon outside them are joined
again. The pieces make the line (`flatten_referencePiecesFrom`), so the line is cut at the index of that colon
(`partitionField_of_some`, `partitionField_of_none`). `colonIndex?` finds the index without the pieces.
-/

namespace TypeComments.Docstring
variable {c : Char} {s line : List Char} {index : Option Nat} {i n : Nat} {pieces : List (List Char)}

/-- The index of the first colon outside cross-references; `inside` characters of a cross-reference
are still to pass. -/
def colonIndex? : (inside : Nat) → List Char → Option Nat
  | _, [] => none
  | n + 1, _ :: rest => (colonIndex? n rest).map (· + 1)
  | 0, c :: rest =>
    match referenceLength (c :: rest) with
    | some n => (colonIndex? (n - 1) rest).map (· + 1)
    | none => if c == ':' then some 0 else (colonIndex? 0 rest).map (· + 1)

theorem referenceLength_pos (h : referenceLength s = some n) : 0 < n := by
  have hpos {x : Option Nat} {f : Nat → Nat} (hf : ∀ m, 0 < f m) (h : x.map f = some n) : 0 < n := by
    obtain ⟨m, -, rfl⟩ := Option.map_eq_some_iff.1 h
    exact hf m
  unfold referenceLength at h
  split at h
  · simp only at h
    split at h
    · rename_i m hdomain
      obtain rfl := Option.some.inj h
      split at hdomain
      · split at hdomain
        · cases hdomain
        · exact hpos (fun _ => Nat.succ_pos _) hdomain
      · cases hdomain
    · exact hpos Nat.succ_pos h
  · exact hpos Nat.succ_pos h
  · cases h

/-! ### Putting a character in front -/

theorem consPiece_ne_nil {ends : Bool} (h : pieces ≠ []) : consPiece ends c pieces ≠ [] := by
  obtain ⟨piece, rest, rfl⟩ := List.exists_cons_of_ne_nil h
  cases ends <;> simp [consPiece]

theorem flatten_consPiece {ends : Bool} (h : pieces ≠ []) :
    (consPiece ends c pieces).flatten = c :: pieces.flatten := by
  obtain ⟨piece, rest, rfl⟩ := List.exists_cons_of_ne_nil h
  cases ends <;> rfl

theorem referencePiecesFrom_ne_nil (n : Nat) (s : List Char) : referencePiecesFrom n s ≠ [] := by
  fun_induction referencePiecesFrom n s with
  | case1 => simp
  | case2 n c rest ih => exact consPiece_ne_nil ih
  | case3 => simp
  | case4 c rest _ ih => exact consPiece_ne_nil ih

theorem flatten_referencePiecesFrom (n : Nat) (s : List Char) : (referencePiecesFrom n s).flatten = s := by
  fun_induction referencePiecesFrom n s with
  | case1 => rfl
  | case2 n c rest ih => rw [flatten_consPiece (referencePiecesFrom_ne_nil n rest), ih]
  | case3 c rest n _ ih =>
    rw [List.flatten_cons, List.nil_append, flatten_consPiece (referencePiecesFrom_ne_nil _ rest), ih]
  | case4 c rest _ ih => rw [flatten_consPiece (referencePiecesFrom_ne_nil 0 rest), ih]

/-! ### The cut -/

/-- The pieces before and after a cut make the text before and after the index, if there is one. -/
structure CutAt (s : List Char) (index : Option Nat) (cut : List (List Char) × Bool × List (List Char)) : Prop where
  colon : cut.2.1 = index.isSome
  before : cut.1.flatten = index.elim s s.take
  after : cut.2.2.flatten = index.elim [] fun i => s.drop (i + 1)

theorem CutAt.cons {cut cut' : List (List Char) × Bool × List (List Char)} (h : CutAt s index cut)
    (hbefore : cut'.1.flatten = c :: cut.1.flatten) (hrest : cut'.2 = cut.2) :
    CutAt (c :: s) (index.map (· + 1)) cut' where
  colon := by rw [hrest, h.colon, Option.isSome_map]
  before := by
    rw [hbefore, h.before]
    cases index <;> rfl
  after := by
    rw [hrest, h.after]
    cases index <;> rfl

theorem cutPieces_cons (outside : Bool) (hc : outside = true → c ≠ ':') (h : pieces ≠ []) :
    (cutPieces outside (consPiece false c pieces)).1.flatten = c :: (cutPieces outside pieces).1.flatten ∧
      (cutPieces outside (consPiece false c pieces)).2 = (cutPieces outside pieces).2 := by
  obtain ⟨piece, rest, rfl⟩ := List.exists_cons_of_ne_nil h
  have hcons : consPiece false c (piece :: rest) = (c :: piece) :: rest := rfl
  cases outside with
  | false => exact ⟨rfl, rfl⟩
  | true =>
    have hne := hc rfl
    have hcontains : (c :: piece).contains ':' = piece.contains ':' := by
      rw [List.contains_cons, beq_eq_false_iff_ne.2 hne.symm, Bool.false_or]
    have htake : (c :: piece).takeWhile (· != ':') = c :: piece.takeWhile (· != ':') :=
      List.takeWhile_cons_of_pos (by simpa using hne)
    have hdrop : (c :: piece).dropWhile (· != ':') = piece.dropWhile (· != ':') :=
      List.dropWhile_cons_of_pos (by simpa using hne)
    rw [hcons, cutPieces, cutPieces, hcontains, htake, hdrop]
    split <;> exact ⟨rfl, rfl⟩

/-- A character of a cross-reference is put in front of pieces that go on inside it or, after its last character,
outside. -/
theorem cutPieces_consPiece (n : Nat) (h : pieces ≠ []) :
    (cutPieces false (consPiece (n == 0) c pieces)).1.flatten = c :: (cutPieces (n == 0) pieces).1.flatten ∧
      (cutPieces false (consPiece (n == 0) c pieces)).2 = (cutPieces (n == 0) pieces).2 := by
  cases n with
  | zero => exact ⟨rfl, rfl⟩
  | succ n => exact cutPieces_cons false (fun h => nomatch h) h

theorem cutAt_referencePiecesFrom (n : Nat) (s : List Char) :
    CutAt s (colonIndex? n s) (cutPieces (n == 0) (referencePiecesFrom n s)) := by
  induction s generalizing n with
  | nil => cases n <;> exact ⟨rfl, rfl, rfl⟩
  | cons c s ih =>
    cases n with
    | succ n =>
      obtain ⟨hbefore, hrest⟩ := cutPieces_consPiece (c := c) n (referencePiecesFrom_ne_nil n s)
      exact (ih n).cons hbefore hrest
    | zero =>
      rw [colonIndex?, referencePiecesFrom]
      cases hlength : referenceLength (c :: s) with
      | some n =>
        obtain ⟨n, rfl⟩ := Nat.exists_eq_succ_of_ne_zero (referenceLength_pos hlength).ne'
        obtain ⟨hbefore, hrest⟩ := cutPieces_consPiece (c := c) n (referencePiecesFrom_ne_nil n s)
        have hcut : CutAt (c :: s) ((colonIndex? n s).map (· + 1))
            (cutPieces true ([] :: consPiece (n == 0) c (referencePiecesFrom n s))) := (ih n).cons hbefore hrest
        have hlast : (n.succ == 1) = (n == 0) := by simp
        simp only [hlast]
        exact hcut
      | none =>
        by_cases hc : c = ':'
        · obtain ⟨piece, rest, hpieces⟩ := List.exists_cons_of_ne_nil (referencePiecesFrom_ne_nil 0 s)
          have hflatten := flatten_referencePiecesFrom 0 s
          rw [hpieces] at hflatten
          simp only [hc, hpieces]
          exact ⟨rfl, rfl, hflatten⟩
        · obtain ⟨hbefore, hrest⟩ := cutPieces_cons true (fun _ => hc) (referencePiecesFrom_ne_nil 0 s)
          simp only [beq_iff_eq, hc, if_false]
          exact (ih 0).cons hbefore hrest

theorem partitionField_of_some (h : colonIndex? 0 line = some i) :
    partitionField line = ⟨trim (line.take i), true, trim (line.drop (i + 1))⟩ := by
  obtain ⟨hcolon, hbefore, hafter⟩ := h ▸ cutAt_referencePiecesFrom 0 line
  exact FieldParts.mk.injEq .. ▸ ⟨congrArg trim hbefore, hcolon, congrArg trim hafter⟩

theorem partitionField_of_none (h : colonIndex? 0 line = none) : partitionField line = ⟨trim line, false, []⟩ := by
  obtain ⟨hcolon, hbefore, hafter⟩ := h ▸ cutAt_referencePiecesFrom 0 line
  exact FieldParts.mk.injEq .. ▸ ⟨congrArg trim hbefore, hcolon, congrArg trim hafter⟩

end TypeComments.Docstring
