import Mathlib.Data.Nat.Find
import TypeComments.Proofs.FieldLines
import TypeComments.Proofs.LineShape
import TypeComments.Proofs.TextPieces

/-!
# Where a field line is cut

A cross-reference is said once more here, as a pattern with its ways of matching in the order in which they are tried
(`Pattern.lengths`), and `referenceLength` measures the first of them (`length?_reference`). The spans of a line are its
leftmost matches that do not overlap: each is the match at its start, they stand one after the other, and no match starts
outside them (`IsSpans`). A field line is cut at its first colon that no span covers (`colonIndex?_eq_some_iff`).
-/

namespace TypeComments.Docstring
variable {s : List Char} {c : Char} {n k i : Nat}

/-! ### Patterns -/

/-- A pattern for a part of a text. No pattern matches the empty text. -/
inductive Pattern where
  /-- One character. -/
  | one (p : Char → Bool)
  /-- As many characters as possible, at least one. -/
  | most (p : Char → Bool)
  /-- As few characters as possible, at least one. -/
  | fewest (p : Char → Bool)
  /-- One after the other. -/
  | seq (a b : Pattern)
  /-- The first, or else the second. -/
  | alt (a b : Pattern)

namespace Pattern
variable {p : Pattern}

/-- The lengths of the starts of a text that the pattern matches, in the order in which they are tried. -/
def lengths : Pattern → List Char → List Nat
  | one p, s => if s.head?.any p then [1] else []
  | most p, s => (List.range' 1 (s.takeWhile p).length).reverse
  | fewest p, s => List.range' 1 (s.takeWhile p).length
  | seq a b, s => (a.lengths s).flatMap fun n => (b.lengths (s.drop n)).map (· + n)
  | alt a b, s => a.lengths s ++ b.lengths s

/-- The length of the match at the start of a text. -/
def length? (p : Pattern) (s : List Char) : Option Nat :=
  (p.lengths s).head?

theorem lengths_nil (p : Pattern) : p.lengths [] = [] := by
  induction p with
  | one | most | fewest => rfl
  | seq a b iha _ => rw [lengths, iha, List.flatMap_nil]
  | alt a b iha ihb => rw [lengths, iha, ihb, List.append_nil]

theorem pos_of_mem_lengths (h : n ∈ p.lengths s) : 0 < n := by
  induction p generalizing s n with
  | one p =>
    rw [lengths] at h
    split at h
    · rw [List.mem_singleton.1 h]
      exact Nat.one_pos
    · cases h
  | most p => exact (List.mem_range'_1.1 (List.mem_reverse.1 h)).1
  | fewest p => exact (List.mem_range'_1.1 h).1
  | seq a b iha _ =>
    obtain ⟨m, hm, hn⟩ := List.mem_flatMap.1 h
    obtain ⟨l, -, rfl⟩ := List.mem_map.1 hn
    exact Nat.lt_of_lt_of_le (iha hm) (Nat.le_add_left m l)
  | alt a b iha ihb => exact (List.mem_append.1 h).elim iha ihb

theorem pos_of_length? (h : p.length? s = some n) : 0 < n :=
  pos_of_mem_lengths (List.mem_of_mem_head? h)

@[simp] theorem length?_nil (p : Pattern) : p.length? [] = none := by
  rw [length?, lengths_nil, List.head?_nil]

theorem length?_alt (a b : Pattern) (s : List Char) : (alt a b).length? s = (a.length? s).or (b.length? s) := by
  rw [length?, lengths, List.head?_append]
  rfl

theorem length?_seq (a b : Pattern) (s : List Char) :
    (seq a b).length? s = (a.lengths s).findSome? fun n => (b.length? (s.drop n)).map (· + n) := by
  rw [length?, lengths, List.head?_flatMap]
  simp only [List.head?_map, length?]

theorem length?_one_cons (p : Char → Bool) (c : Char) (s : List Char) :
    (one p).length? (c :: s) = if p c then some 1 else none := by
  cases hc : p c <;> simp [length?, lengths, hc]

theorem length?_seq_one_cons (p : Char → Bool) (b : Pattern) (c : Char) (s : List Char) :
    (seq (one p) b).length? (c :: s) = if p c then (b.length? s).map (· + 1) else none := by
  rw [length?_seq]
  cases hc : p c <;> simp [lengths, hc]

theorem findSome?_lengths_succ (b : Pattern) (c : Char) (s : List Char) (ns : List Nat) :
    (ns.map (1 + ·)).findSome? (fun n => (b.length? ((c :: s).drop n)).map (· + n)) =
      (ns.findSome? fun n => (b.length? (s.drop n)).map (· + n)).map (· + 1) := by
  rw [List.findSome?_map, List.map_findSome?]
  refine congrArg (ns.findSome? ·) (funext fun n => ?_)
  rw [Function.comp_apply, Function.comp_apply, Nat.add_comm, List.drop_succ_cons, Option.map_map]
  rfl

/-- A greedy repetition goes on as long as it can. -/
theorem length?_seq_most_cons (p : Char → Bool) (b : Pattern) (c : Char) (s : List Char) :
    (seq (most p) b).length? (c :: s) =
      if p c then (((seq (most p) b).length? s).or (b.length? s)).map (· + 1) else none := by
  rw [length?_seq, length?_seq]
  cases hc : p c with
  | false => simp [lengths, hc]
  | true =>
    have hways : (most p).lengths (c :: s) = ((most p).lengths s).map (1 + ·) ++ [1] := by
      simp [lengths, hc, List.range'_succ, List.map_add_range']
    rw [hways, List.findSome?_append, findSome?_lengths_succ, if_pos rfl, Option.map_or]
    simp

/-- A lazy repetition stops as soon as it can. -/
theorem length?_seq_fewest_cons (p : Char → Bool) (b : Pattern) (c : Char) (s : List Char) :
    (seq (fewest p) b).length? (c :: s) =
      if p c then ((b.length? s).or ((seq (fewest p) b).length? s)).map (· + 1) else none := by
  rw [length?_seq, length?_seq]
  cases hc : p c with
  | false => simp [lengths, hc]
  | true =>
    have hways : (fewest p).lengths (c :: s) = [1] ++ ((fewest p).lengths s).map (1 + ·) := by
      simp [lengths, hc, List.range'_succ, List.map_add_range']
    rw [hways, List.findSome?_append, findSome?_lengths_succ, if_pos rfl, Option.map_or]
    simp

end Pattern

/-! ### Cross-references as a pattern -/

open Pattern

def colonPattern : Pattern :=
  .one (· == ':')

/-- Characters of one line, as few as possible, and a backquote. -/
def quotedTextPattern : Pattern :=
  .seq (.fewest (· != '\n')) (.one (· == '\x60'))

def quotedPattern : Pattern :=
  .seq (.one (· == '\x60')) quotedTextPattern

/-- Role names, as long as possible, a colon and a quoted text. -/
def rolePattern : Pattern :=
  .seq (.most (!isBlank ·)) (.seq colonPattern quotedPattern)

/-- A cross-reference: a domain, roles and a quoted text, roles and a quoted text, or a quoted text alone. -/
def reference : Pattern :=
  .alt (.seq colonPattern (.seq (.most isWord) (.seq colonPattern rolePattern)))
    (.alt (.seq colonPattern rolePattern) quotedPattern)

theorem length?_toBackquote (s : List Char) :
    ((Pattern.one (· == '\x60')).length? s).or (quotedTextPattern.length? s) = toBackquote s := by
  induction s with
  | nil => simp [toBackquote]
  | cons c s ih =>
    rw [length?_one_cons, quotedTextPattern, length?_seq_fewest_cons, ← quotedTextPattern, ih, toBackquote]
    by_cases hquote : c = '\x60'
    · simp [hquote]
    · by_cases hfeed : c = '\n' <;> simp [hquote, hfeed]

theorem length?_quotedText (s : List Char) : quotedTextPattern.length? s = quotedLength s := by
  cases s with
  | nil => simp [quotedLength]
  | cons c s =>
    rw [quotedTextPattern, length?_seq_fewest_cons, ← quotedTextPattern, length?_toBackquote, quotedLength]
    by_cases hfeed : c = '\n' <;> simp [hfeed]

theorem length?_quoted_cons (c : Char) (s : List Char) :
    quotedPattern.length? (c :: s) = if c == '\x60' then (quotedLength s).map (· + 1) else none := by
  rw [quotedPattern, length?_seq_one_cons, length?_quotedText]

theorem length?_colonQuoted (s : List Char) :
    (Pattern.seq colonPattern quotedPattern).length? (':' :: '\x60' :: s) = (quotedLength s).map (· + 2) := by
  rw [colonPattern, length?_seq_one_cons, length?_quoted_cons, if_pos (beq_self_eq_true _), if_pos (beq_self_eq_true _),
    Option.map_map]
  rfl

theorem length?_colonQuoted_of_ne (h : ∀ t, s ≠ ':' :: '\x60' :: t) :
    (Pattern.seq colonPattern quotedPattern).length? s = none := by
  cases s with
  | nil => exact length?_nil _
  | cons c s =>
    rw [colonPattern, length?_seq_one_cons]
    by_cases hcolon : c = ':'
    · cases s with
      | nil => simp
      | cons d s =>
        have hquote : d ≠ '\x60' := fun hd => h s (by rw [hcolon, hd])
        simp [length?_quoted_cons, hquote]
    · simp [hcolon]

theorem length?_role (s : List Char) : rolePattern.length? s = roleLength s := by
  induction s with
  | nil => exact length?_nil _
  | cons c s ih =>
    -- `roleLength` tries longer role names first too, so both sides go on in the same way
    rw [rolePattern, length?_seq_most_cons, ← rolePattern, ih]
    conv_rhs => unfold roleLength
    cases hblank : isBlank c with
    | true => rfl
    | false =>
      cases hrole : roleLength s with
      | some n => rfl
      | none =>
        simp only [Option.none_or, Bool.not_false, Bool.false_eq_true, ↓reduceIte]
        split
        · rw [length?_colonQuoted, Option.map_map]
          rfl
        · rename_i hne
          rw [length?_colonQuoted_of_ne hne, Option.map_none]

/-- The characters of a word are no colons, so a domain reaches to the end of a word. -/
theorem length?_domain (b : Pattern) (s : List Char) :
    (Pattern.seq (.most isWord) (.seq colonPattern b)).length? s =
      if s.takeWhile isWord = [] then none
      else ((Pattern.seq colonPattern b).length? (s.drop (s.takeWhile isWord).length)).map
        (· + (s.takeWhile isWord).length) := by
  induction s with
  | nil => exact length?_nil _
  | cons c s ih =>
    rw [length?_seq_most_cons, ih]
    cases hc : isWord c with
    | false => simp [hc]
    | true =>
      cases s with
      | nil => simp [hc]
      | cons d s =>
        cases hd : isWord d with
        | false => simp [hc, hd]
        | true =>
          -- a shorter domain would end in front of `d`, which is no colon
          have hcolon : d ≠ ':' := by
            rintro rfl
            exact absurd hd (by decide)
          have hnone : (Pattern.seq colonPattern b).length? (d :: s) = none := by
            rw [colonPattern, length?_seq_one_cons, if_neg (by simpa using hcolon)]
          simp [hc, hd, hnone, Function.comp_def, Nat.add_assoc]

theorem length?_reference (s : List Char) : reference.length? s = referenceLength s := by
  cases s with
  | nil => exact length?_nil _
  | cons c s =>
    rw [reference, length?_alt, length?_alt, colonPattern, length?_seq_one_cons, length?_seq_one_cons, ← colonPattern,
      length?_role, length?_quoted_cons, length?_domain]
    by_cases hcolon : c = ':'
    · subst hcolon
      simp only [referenceLength, beq_self_eq_true, ↓reduceIte]
      -- what the word is and what follows it does not matter from here on
      generalize s.takeWhile isWord = domain
      generalize s.drop domain.length = rest
      cases rest with
      | nil => simp
      | cons d t =>
        rw [colonPattern, length?_seq_one_cons, length?_role]
        by_cases hd : d = ':'
        · subst hd
          cases domain with
          | nil => simp
          | cons e domain =>
            cases hrole : roleLength t with
            | none => simp [hrole]
            | some n =>
              simp [hrole]
              omega
        · simp [hd]
    · by_cases hquote : c = '\x60'
      · subst hquote
        simp [referenceLength]
      · simp [hcolon, hquote, referenceLength_of_ne hcolon hquote]

/-! ### Spans -/

/-- Is the index inside one of the spans? A span is given by its first index and the one after its last. -/
def IsInside (spans : List (Nat × Nat)) (i : Nat) : Prop :=
  ∃ span ∈ spans, span.1 ≤ i ∧ i < span.2

instance (spans : List (Nat × Nat)) (i : Nat) : Decidable (IsInside spans i) :=
  inferInstanceAs (Decidable (∃ span ∈ spans, span.1 ≤ i ∧ i < span.2))

theorem isInside_cons {span : Nat × Nat} {spans : List (Nat × Nat)} :
    IsInside (span :: spans) i ↔ (span.1 ≤ i ∧ i < span.2) ∨ IsInside spans i := by
  simp only [IsInside, List.mem_cons, exists_eq_or_imp]

namespace Pattern
variable {p : Pattern} {span : Nat × Nat}

/-- The leftmost matches in a line that do not overlap. -/
structure IsSpans (p : Pattern) (line : List Char) (spans : List (Nat × Nat)) : Prop where
  /-- Each span is the match at its start. -/
  matched : ∀ span ∈ spans, ∃ n, p.length? (line.drop span.1) = some n ∧ span.2 = span.1 + n
  /-- They stand one after the other. -/
  apart : spans.Pairwise fun a b => a.2 ≤ b.1
  /-- No match starts outside them. -/
  leftmost : ∀ i, ¬ IsInside spans i → p.length? (line.drop i) = none

/-- The matches in a text whose first character has the index `k`; `inside` characters of a match are still to pass. -/
def spansFrom (p : Pattern) : (inside k : Nat) → List Char → List (Nat × Nat)
  | _, _, [] => []
  | n + 1, k, _ :: rest => p.spansFrom n (k + 1) rest
  | 0, k, c :: rest =>
    match p.length? (c :: rest) with
    | some n => (k, k + n) :: p.spansFrom (n - 1) (k + 1) rest
    | none => p.spansFrom 0 (k + 1) rest

/-- The matches in a line, from left to right. -/
def spans (p : Pattern) (line : List Char) : List (Nat × Nat) :=
  p.spansFrom 0 0 line

theorem spansFrom_drop (p : Pattern) (n k : Nat) (s : List Char) :
    p.spansFrom n k s = p.spansFrom 0 (k + n) (s.drop n) := by
  induction n generalizing k s with
  | zero => rfl
  | succ n ih =>
    cases s with
    | nil => simp [spansFrom]
    | cons c s => rw [spansFrom, ih, List.drop_succ_cons, Nat.add_right_comm, Nat.add_assoc]

theorem spansFrom_of_some (h : p.length? s = some n) (k : Nat) :
    p.spansFrom 0 k s = (k, k + n) :: p.spansFrom 0 (k + n) (s.drop n) := by
  cases s with
  | nil => simp at h
  | cons c s =>
    obtain ⟨n, rfl⟩ := Nat.exists_eq_succ_of_ne_zero (pos_of_length? h).ne'
    rw [spansFrom, h]
    show _ :: p.spansFrom n (k + 1) s = _
    rw [spansFrom_drop, List.drop_succ_cons, Nat.add_right_comm, Nat.add_assoc]

theorem spansFrom_of_none (h : p.length? (c :: s) = none) (k : Nat) :
    p.spansFrom 0 k (c :: s) = p.spansFrom 0 (k + 1) s := by
  rw [spansFrom, h]

/-- What holds of the empty text, and goes over to a text from what is left after a match at its start, or after its
first character if there is none, holds of every text. -/
theorem span_induction (p : Pattern) {P : Nat → List Char → Prop} (nil : ∀ k, P k [])
    (found : ∀ k s n, p.length? s = some n → P (k + n) (s.drop n) → P k s)
    (other : ∀ k c s, p.length? (c :: s) = none → P (k + 1) s → P k (c :: s)) (k : Nat) (s : List Char) : P k s := by
  induction hn : s.length using Nat.strongRecOn generalizing k s with
  | _ m ih =>
    cases s with
    | nil => exact nil k
    | cons c s =>
      cases h : p.length? (c :: s) with
      | none => exact other k c s h (ih s.length (by rw [← hn]; exact Nat.lt_succ_self _) _ _ rfl)
      | some n =>
        have hpos := pos_of_length? h
        refine found k _ n h (ih _ ?_ _ _ rfl)
        rw [← hn, List.length_drop, List.length_cons]
        omega

theorem matched_of_mem (h : span ∈ p.spansFrom 0 k s) :
    ∃ i n, span = (k + i, k + i + n) ∧ p.length? (s.drop i) = some n := by
  induction k, s using p.span_induction with
  | nil k => cases h
  | found k s n hmatch ih =>
    rw [spansFrom_of_some hmatch] at h
    rcases h with _ | ⟨_, h⟩
    · exact ⟨0, n, rfl, hmatch⟩
    · obtain ⟨i, m, rfl, hm⟩ := ih h
      rw [List.drop_drop] at hm
      exact ⟨n + i, m, by rw [Nat.add_assoc], hm⟩
  | other k c s hnone ih =>
    rw [spansFrom_of_none hnone] at h
    obtain ⟨i, m, rfl, hm⟩ := ih h
    exact ⟨i + 1, m, by rw [Nat.add_right_comm, Nat.add_assoc], hm⟩

theorem not_isInside_of_lt (h : i < k) : ¬ IsInside (p.spansFrom 0 k s) i := by
  rintro ⟨span, hspan, hle, -⟩
  obtain ⟨j, n, rfl, -⟩ := matched_of_mem hspan
  exact absurd (Nat.le_trans (Nat.le_add_right k j) hle) (Nat.not_le_of_lt h)

/-- A match covers its own characters, and leaves the others to the matches after it. -/
theorem isInside_of_some (h : p.length? s = some n) :
    IsInside (p.spansFrom 0 k s) (k + i) ↔ i < n ∨ IsInside (p.spansFrom 0 (k + n) (s.drop n)) (k + i) := by
  rw [spansFrom_of_some h, isInside_cons]
  simp

theorem apart_spansFrom (p : Pattern) (k : Nat) (s : List Char) :
    (p.spansFrom 0 k s).Pairwise fun a b => a.2 ≤ b.1 := by
  induction k, s using p.span_induction with
  | nil k => exact .nil
  | found k s n hmatch ih =>
    rw [spansFrom_of_some hmatch]
    refine List.pairwise_cons.2 ⟨fun span hspan => ?_, ih⟩
    obtain ⟨i, m, rfl, -⟩ := matched_of_mem hspan
    exact Nat.le_add_right _ _
  | other k c s hnone ih => rwa [spansFrom_of_none hnone]

theorem leftmost_spansFrom (h : ¬ IsInside (p.spansFrom 0 k s) (k + i)) : p.length? (s.drop i) = none := by
  induction k, s using p.span_induction generalizing i with
  | nil k => rw [List.drop_nil, length?_nil]
  | found k s n hmatch ih =>
    rw [isInside_of_some hmatch, not_or, Nat.not_lt] at h
    obtain ⟨j, rfl⟩ := Nat.exists_eq_add_of_le h.1
    rw [← List.drop_drop]
    exact ih (by rw [Nat.add_assoc]; exact h.2)
  | other k c s hnone ih =>
    cases i with
    | zero => exact hnone
    | succ i =>
      rw [spansFrom_of_none hnone] at h
      exact ih (by rwa [Nat.add_right_comm])

theorem isSpans_spans (p : Pattern) (line : List Char) : p.IsSpans line (p.spans line) where
  matched span hspan := by
    obtain ⟨i, n, rfl, hn⟩ := matched_of_mem hspan
    rw [Nat.zero_add]
    exact ⟨n, hn, rfl⟩
  apart := apart_spansFrom p 0 line
  leftmost i hi := leftmost_spansFrom (by rwa [Nat.zero_add])

end Pattern

/-! ### The first colon outside -/

/-- There is a colon at this index, outside all cross-references. The first character of the text has the index `k`. -/
def IsFree (k : Nat) (s : List Char) (i : Nat) : Prop :=
  s[i]? = some ':' ∧ ¬ IsInside (reference.spansFrom 0 k s) (k + i)

theorem isFree_of_some (h : reference.length? s = some n) :
    IsFree k s i ↔ n ≤ i ∧ IsFree (k + n) (s.drop n) (i - n) := by
  rw [IsFree, IsFree, isInside_of_some h, not_or, Nat.not_lt, List.getElem?_drop]
  constructor
  · rintro ⟨hcolon, hle, hout⟩
    rw [Nat.add_assoc, Nat.add_sub_cancel' hle]
    exact ⟨hle, hcolon, hout⟩
  · rintro ⟨hle, hcolon, hout⟩
    rw [Nat.add_sub_cancel' hle] at hcolon
    rw [Nat.add_assoc, Nat.add_sub_cancel' hle] at hout
    exact ⟨hcolon, hle, hout⟩

theorem isFree_zero (h : reference.length? (c :: s) = none) : IsFree k (c :: s) 0 ↔ c = ':' := by
  rw [IsFree, spansFrom_of_none h]
  simp [not_isInside_of_lt]

theorem isFree_succ (h : reference.length? (c :: s) = none) : IsFree k (c :: s) (i + 1) ↔ IsFree (k + 1) s i := by
  rw [IsFree, IsFree, spansFrom_of_none h, List.getElem?_cons_succ, Nat.add_right_comm, Nat.add_assoc]

theorem colonIndex?_drop (n : Nat) (s : List Char) : colonIndex? n s = (colonIndex? 0 (s.drop n)).map (· + n) := by
  induction n generalizing s with
  | zero => simp
  | succ n ih =>
    cases s with
    | nil => rfl
    | cons c s =>
      rw [colonIndex?, ih, List.drop_succ_cons, Option.map_map]
      rfl

theorem colonIndex?_of_some (h : reference.length? s = some n) :
    colonIndex? 0 s = (colonIndex? 0 (s.drop n)).map (· + n) := by
  cases s with
  | nil => simp at h
  | cons c s =>
    obtain ⟨n, rfl⟩ := Nat.exists_eq_succ_of_ne_zero (pos_of_length? h).ne'
    rw [length?_reference] at h
    rw [colonIndex?, h]
    show (colonIndex? n s).map (· + 1) = _
    rw [colonIndex?_drop, List.drop_succ_cons, Option.map_map]
    rfl

theorem colonIndex?_of_none (h : reference.length? (c :: s) = none) :
    colonIndex? 0 (c :: s) = if c = ':' then some 0 else (colonIndex? 0 s).map (· + 1) := by
  rw [length?_reference] at h
  rw [colonIndex?, h]
  simp

/-- A line is cut at its first colon outside all cross-references. -/
theorem colonIndex?_eq_some_iff (k : Nat) (s : List Char) (i : Nat) :
    colonIndex? 0 s = some i ↔ IsFree k s i ∧ ∀ j < i, ¬ IsFree k s j := by
  induction k, s using reference.span_induction generalizing i with
  | nil k => simp [colonIndex?, IsFree]
  | found k s n hmatch ih =>
    rw [colonIndex?_of_some hmatch, Option.map_eq_some_iff]
    constructor
    · rintro ⟨j, hj, rfl⟩
      obtain ⟨hfree, hfirst⟩ := (ih j).1 hj
      simp only [isFree_of_some hmatch]
      refine ⟨⟨Nat.le_add_left n j, by rwa [Nat.add_sub_cancel]⟩, ?_⟩
      rintro m hm ⟨hle, hfree⟩
      exact hfirst (m - n) (by omega) hfree
    · rintro ⟨hfree, hfirst⟩
      simp only [isFree_of_some hmatch] at hfree hfirst
      refine ⟨i - n, (ih _).2 ⟨hfree.2, fun m hm hfree' => ?_⟩, Nat.sub_add_cancel hfree.1⟩
      exact hfirst (m + n) (by omega) ⟨Nat.le_add_left n m, by rwa [Nat.add_sub_cancel]⟩
  | other k c s hnone ih =>
    rw [colonIndex?_of_none hnone]
    by_cases hc : c = ':'
    · have hfree : IsFree k (c :: s) 0 := (isFree_zero hnone).2 hc
      rw [if_pos hc]
      cases i with
      | zero => exact iff_of_true rfl ⟨hfree, fun j hj => absurd hj (Nat.not_lt_zero j)⟩
      | succ i => exact iff_of_false (by simp) fun h => h.2 0 (Nat.succ_pos i) hfree
    · have hfree : ¬ IsFree k (c :: s) 0 := mt (isFree_zero hnone).1 hc
      rw [if_neg hc, Option.map_eq_some_iff]
      cases i with
      | zero => exact iff_of_false (by simp) fun h => hfree h.1
      | succ i =>
        simp only [Nat.forall_lt_succ_left, isFree_succ hnone, hfree, not_false_eq_true, true_and, ← ih i]
        simp

theorem colonIndex?_eq_none_iff (k : Nat) (s : List Char) : colonIndex? 0 s = none ↔ ∀ i, ¬ IsFree k s i := by
  classical
  constructor
  · intro hnone i hi
    have hex : ∃ i, IsFree k s i := ⟨i, hi⟩
    have hfirst := (colonIndex?_eq_some_iff k s _).2 ⟨Nat.find_spec hex, fun j hj => Nat.find_min hex hj⟩
    rw [hnone] at hfirst
    cases hfirst
  · intro h
    cases hsome : colonIndex? 0 s with
    | none => rfl
    | some i => exact absurd ((colonIndex?_eq_some_iff k s i).1 hsome).1 (h i)

/-! ### The cut -/

/-- The spans cover all colons and the line is not cut, or it is cut at the first colon that they do not cover. -/
theorem partitionField_cases (field : List Char) :
    (partitionField field = ⟨trim field, false, []⟩ ∧ ∀ i, field[i]? = some ':' → IsInside (reference.spans field) i) ∨
      ∃ i, partitionField field = ⟨trim (field.take i), true, trim (field.drop (i + 1))⟩ ∧
        field[i]? = some ':' ∧ ¬ IsInside (reference.spans field) i ∧
        ∀ j < i, field[j]? = some ':' → IsInside (reference.spans field) j := by
  have hfree : ∀ i, IsFree 0 field i ↔ field[i]? = some ':' ∧ ¬ IsInside (reference.spans field) i := by
    intro i
    rw [IsFree, Nat.zero_add]
    rfl
  have hcovered : ∀ i, ¬ IsFree 0 field i ↔ (field[i]? = some ':' → IsInside (reference.spans field) i) := by
    intro i
    rw [hfree, not_and, not_not]
  cases hindex : colonIndex? 0 field with
  | none =>
    refine .inl ⟨partitionField_of_none hindex, fun i => ?_⟩
    exact (hcovered i).1 ((colonIndex?_eq_none_iff 0 field).1 hindex i)
  | some i =>
    obtain ⟨hi, hfirst⟩ := (colonIndex?_eq_some_iff 0 field i).1 hindex
    obtain ⟨hcolon, houtside⟩ := (hfree i).1 hi
    exact .inr ⟨i, partitionField_of_some hindex, hcolon, houtside, fun j hj => (hcovered j).1 (hfirst j hj)⟩

/-! ### Lines without backquotes -/

def cutAtColon (line : List Char) : FieldParts :=
  ⟨trim (line.takeWhile (· != ':')), line.contains ':', trim ((line.dropWhile (· != ':')).drop 1)⟩

theorem all_ne_colon (hs : ':' ∉ s) : ∀ c ∈ s, (c != ':') = true := by
  intro c hc
  simpa using fun heq : c = ':' => hs (heq ▸ hc)

theorem cutAtColon_append (hs : ':' ∉ s) (t : List Char) : cutAtColon (s ++ ':' :: t) = ⟨trim s, true, trim t⟩ := by
  rw [cutAtColon, List.takeWhile_append_of_pos (all_ne_colon hs), List.dropWhile_append_of_pos (all_ne_colon hs)]
  simp

theorem cutAtColon_of_not_mem (hs : ':' ∉ s) : cutAtColon s = ⟨trim s, false, []⟩ := by
  rw [cutAtColon, List.takeWhile_eq_self_iff.2 (all_ne_colon hs), List.dropWhile_eq_nil_iff.2 (all_ne_colon hs)]
  simp [hs]
  rfl

/-- The pattern matches no text without a backquote. -/
def NeedsBackquote (p : Pattern) : Prop :=
  ∀ s, '\x60' ∉ s → p.length? s = none

namespace NeedsBackquote
variable {a b : Pattern}

theorem seq (hb : NeedsBackquote b) (a : Pattern) : NeedsBackquote (.seq a b) := by
  intro s hs
  rw [length?_seq, List.findSome?_eq_none_iff]
  intro n _
  rw [hb _ fun hmem => hs (List.mem_of_mem_drop hmem), Option.map_none]

theorem alt (ha : NeedsBackquote a) (hb : NeedsBackquote b) : NeedsBackquote (.alt a b) := by
  intro s hs
  rw [length?_alt, ha s hs, hb s hs, Option.or_none]

end NeedsBackquote

theorem needsBackquote_reference : NeedsBackquote reference := by
  have hquoted : NeedsBackquote quotedPattern := by
    intro s hs
    cases s with
    | nil => exact length?_nil _
    | cons c s => rw [length?_quoted_cons, if_neg fun hc => hs (by simp [beq_iff_eq.1 hc])]
  have hrole : NeedsBackquote rolePattern := (hquoted.seq _).seq _
  exact (((hrole.seq _).seq _).seq _).alt ((hrole.seq _).alt hquoted)

/-- Without backquotes there are no cross-references, and a line is cut at its first colon. -/
theorem partitionField_of_backquote_not_mem {field : List Char} (hfield : '\x60' ∉ field) :
    partitionField field = cutAtColon field := by
  have houtside : ∀ i, ¬ IsInside (reference.spans field) i := by
    rintro i ⟨span, hspan, -⟩
    obtain ⟨n, hmatch, -⟩ := (isSpans_spans reference field).matched span hspan
    rw [needsBackquote_reference _ fun hmem => hfield (List.mem_of_mem_drop hmem)] at hmatch
    cases hmatch
  obtain ⟨hparts, hall⟩ | ⟨i, hparts, hcolon, -, hfirst⟩ := partitionField_cases field
  · have hnone : ':' ∉ field := by
      intro hmem
      obtain ⟨i, hi⟩ := List.mem_iff_getElem?.1 hmem
      exact houtside i (hall i hi)
    rw [hparts, cutAtColon_of_not_mem hnone]
  · have hbefore : ':' ∉ field.take i := by
      intro hmem
      obtain ⟨j, hj⟩ := List.mem_iff_getElem?.1 hmem
      rw [List.getElem?_take] at hj
      split at hj
      · rename_i hlt
        exact houtside j (hfirst j hlt hj)
      · cases hj
    have hsplit : field = field.take i ++ ':' :: field.drop (i + 1) := by
      obtain ⟨hlt, hget⟩ := List.getElem?_eq_some_iff.1 hcolon
      rw [← hget, ← List.drop_eq_getElem_cons hlt, List.take_append_drop]
    conv_rhs => rw [hsplit, cutAtColon_append hbefore]
    exact hparts

/-- A reader of a cleaned docstring takes no line with a backquote. -/
theorem backquote_not_mem_of_takes {style : Style} {doc : List Char} {ls : List Line} {l : Line} {r : Reader}
    (h : (Reader.ofLines style (splitLines (clean doc))).Takes ls r) (hl : l ∈ ls) : '\x60' ∉ l.text := by
  obtain ⟨hready, hahead⟩ := Reader.ready_ofLines style (splitLines (clean doc))
  have hmem : l ∈ numberedFrom 0 (splitLines (clean doc)) := by
    rw [← hahead, h.ahead hready]
    exact List.mem_append_left _ hl
  obtain ⟨text, htext, heq⟩ := exists_of_mem_numberedFrom hmem
  intro hquote
  rw [heq] at hquote
  have hclean := splitLinesFrom_subset htext ((trimRightBy_isPrefix _ _).subset hquote)
  simp [clean] at hclean

/-- A field line is cut at its first colon outside the spans of cross-references, and at no colon if and only if they
cover all of them. A line without backquotes is cut at its first colon, and of a cleaned docstring a reader takes only
such lines. -/
theorem partitionField_outside_spans (field : List Char) :
    let spans := reference.spans field
    let parts := partitionField field
    reference.IsSpans field spans ∧
      (parts.colon = false ↔ ∀ i, field[i]? = some ':' → IsInside spans i) ∧
      (parts.colon = false → parts.before = trim field ∧ parts.after = []) ∧
      (parts.colon = true → ∃ i, field[i]? = some ':' ∧ ¬ IsInside spans i ∧
        (∀ j < i, field[j]? = some ':' → IsInside spans j) ∧
        parts.before = trim (field.take i) ∧ parts.after = trim (field.drop (i + 1))) ∧
      ('\x60' ∉ field → parts = cutAtColon field) ∧
      ∀ style doc ls r, (Reader.ofLines style (splitLines (clean doc))).Takes ls r →
        ∀ l ∈ ls, field <:+: l.text → '\x60' ∉ field := by
  intro spans parts
  have hread : ∀ style doc ls r, (Reader.ofLines style (splitLines (clean doc))).Takes ls r →
      ∀ l ∈ ls, field <:+: l.text → '\x60' ∉ field := by
    intro style doc ls r htakes l hl hpart hquote
    exact backquote_not_mem_of_takes htakes hl (hpart.subset hquote)
  obtain ⟨hparts, hall⟩ | ⟨i, hparts, hcolon, houtside, hfirst⟩ := partitionField_cases field
  · have hnone : parts.colon = false := congrArg FieldParts.colon hparts
    refine ⟨isSpans_spans reference field, iff_of_true hnone hall, fun _ => ?_, fun hsome => ?_,
      partitionField_of_backquote_not_mem, hread⟩
    · exact ⟨congrArg FieldParts.before hparts, congrArg FieldParts.after hparts⟩
    · rw [hnone] at hsome
      cases hsome
  · have hsome : parts.colon = true := congrArg FieldParts.colon hparts
    refine ⟨isSpans_spans reference field, iff_of_false (by simp [hsome]) fun hall => houtside (hall i hcolon),
      fun hnone => ?_, fun _ => ⟨i, hcolon, houtside, hfirst, ?_, ?_⟩, partitionField_of_backquote_not_mem, hread⟩
    · rw [hsome] at hnone
      cases hnone
    · exact congrArg FieldParts.before hparts
    · exact congrArg FieldParts.after hparts

/-- The colons of a cross-reference with a domain are inside it, also the one in its quoted text. -/
example : reference.spans ":py:class:\x60a:b\x60 : c".toList = [(0, 15)] ∧
    (∀ i ∈ [0, 3, 9, 12], IsInside [(0, 15)] i) ∧ ¬ IsInside [(0, 15)] 16 ∧
    partitionField ":py:class:\x60a:b\x60 : c".toList = ⟨":py:class:\x60a:b\x60".toList, true, "c".toList⟩ := by
  decide +kernel

end TypeComments.Docstring
