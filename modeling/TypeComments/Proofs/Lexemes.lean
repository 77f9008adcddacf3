import Mathlib.Data.List.TakeWhile
import TypeComments.Source.Lexeme

/-!
# Pieces of a line

A piece of a line is not empty, and it stands in front of the line feed unless it is the line end itself,
a continuation or a string that goes on: `lexeme_fits`. The recognisers are put together from one
another, and so are the proofs: `room s` counts the characters in front of the first line feed, and a
recogniser that takes no more than there is room for can be followed by another one (`room_drop`). What a
piece can be is said once (`lexeme_cases`), and all else about pieces comes from these cases.
-/

namespace TypeComments.Source
variable {s : List Char} {c q : Char} {k m n : Nat}

/-- The number of characters in front of the first line feed. -/
def room (s : List Char) : Nat :=
  (s.takeWhile (· != '\n')).length

theorem room_cons (h : c ≠ '\n') (s : List Char) : room (c :: s) = room s + 1 := by
  simp [room, h]

theorem room_newline (s : List Char) : room ('\n' :: s) = 0 := rfl

theorem room_drop (h : k ≤ room s) : room (s.drop k) + k = room s := by
  induction k generalizing s with
  | zero => rfl
  | succ k ih =>
    cases s with
    | nil => simp [room] at h
    | cons c s =>
      by_cases hc : c = '\n'
      · rw [hc, room_newline] at h
        omega
      · rw [room_cons hc] at h ⊢
        rw [List.drop_succ_cons, ← Nat.add_assoc, ih (by omega)]

theorem add_le_room (hk : k ≤ room s) (hm : m ≤ room (s.drop k)) : k + m ≤ room s := by
  have := room_drop hk
  omega

/-- A character of a class without the line feed, after a piece. -/
theorem succ_le_room {p : Char → Bool} (hp : p '\n' = false) (hk : k ≤ room s)
    (hc : (s.drop k).head?.any p = true) : k + 1 ≤ room s := by
  refine add_le_room hk ?_
  cases hd : s.drop k with
  | nil => simp [hd] at hc
  | cons d rest =>
    rw [hd] at hc
    rw [room_cons (by rintro rfl; simp [hp] at hc)]
    omega

/-- A text without a line feed at the start leaves room for itself. -/
theorem length_le_room {t : List Char} (h : t <+: s) (ht : '\n' ∉ t) : t.length ≤ room s := by
  obtain ⟨rest, rfl⟩ := h
  induction t with
  | nil => exact Nat.zero_le _
  | cons c t ih =>
    rw [List.mem_cons, not_or] at ht
    rw [List.cons_append, room_cons (Ne.symm ht.1), List.length_cons]
    exact Nat.succ_le_succ (ih ht.2)

/-! ### Numbers -/

section
variable {p : Char → Bool}

theorem groupedTail_le_room (hp : p '\n' = false) (s : List Char) : groupedTail p s ≤ room s := by
  fun_induction groupedTail p s with
  | case1 => exact Nat.zero_le _
  | case2 c h => rw [room_cons (by rintro rfl; simp [hp] at h)]; omega
  | case3 => exact Nat.zero_le _
  | case4 c d rest h ih => rw [room_cons (by rintro rfl; simp [hp] at h)]; omega
  | case5 c d rest h h' ih =>
    simp only [Bool.and_eq_true, beq_iff_eq] at h'
    rw [room_cons (by rw [h'.1]; decide), room_cons (by rintro rfl; simp [hp] at h')]
    omega
  | case6 => exact Nat.zero_le _

theorem grouped_le_room (hp : p '\n' = false) (s : List Char) : grouped p s ≤ room s := by
  cases s with
  | nil => exact Nat.zero_le _
  | cons c rest =>
    rw [grouped]
    split
    · rename_i h
      rw [room_cons (by rintro rfl; simp [hp] at h)]
      exact Nat.succ_le_succ (groupedTail_le_room hp rest)
    · exact Nat.zero_le _

end

theorem isDigit_newline : isDigit '\n' = false := by decide

theorem exponent_le_room (s : List Char) : exponent s ≤ room s := by
  cases s with
  | nil => exact Nat.zero_le _
  | cons e rest =>
    rw [exponent]
    split
    · rename_i he
      have hne : e ≠ '\n' := by rintro rfl; simp at he
      set sign := if rest.head?.any (fun c => c == '+' || c == '-') then 1 else 0 with hsign
      have hs : sign ≤ room rest := by
        rw [hsign]
        split
        · rename_i h
          exact succ_le_room (p := fun c => c == '+' || c == '-') (k := 0) rfl (Nat.zero_le _) h
        · exact Nat.zero_le _
      have hg := add_le_room hs (grouped_le_room isDigit_newline (rest.drop sign))
      rw [room_cons hne]
      dsimp only
      split <;> omega
    · exact Nat.zero_le _

/-- A recogniser that takes a piece takes at least one character and leaves the line feed. -/
def Fits (s : List Char) (n : Nat) : Prop :=
  0 < n ∧ n ≤ room s

theorem pointNumber_fits (h : pointNumber? s = some n) : Fits s n := by
  have hw := grouped_le_room isDigit_newline s
  rw [pointNumber?] at h
  set whole := grouped isDigit s
  dsimp only at h
  split at h
  · rename_i rest hd
    have hpoint := succ_le_room (p := (· == '.')) rfl hw (by rw [hd]; rfl)
    have hrest : s.drop (whole + 1) = rest := by rw [← List.drop_drop, hd]; rfl
    have hpart := grouped_le_room isDigit_newline rest
    have hexp := add_le_room hpart (exponent_le_room _)
    rw [← hrest] at hexp
    have hall := add_le_room hpoint hexp
    rw [hrest] at hall
    split at h
    · simp at h
    · rw [← Option.some.inj h]
      exact ⟨by omega, by omega⟩
  · simp at h

theorem scaledNumber_fits (h : scaledNumber? s = some n) : Fits s n := by
  have h₁ := add_le_room (grouped_le_room isDigit_newline s) (exponent_le_room _)
  simp only [scaledNumber?] at h
  split at h
  · simp at h
  · rename_i hne
    simp only [Bool.or_eq_true, beq_iff_eq, not_or] at hne
    rw [← Option.some.inj h]
    exact ⟨by omega, h₁⟩

theorem orElse_cases {α : Type} {a b : Option α} {x : α} (h : (a <|> b) = some x) : a = some x ∨ b = some x := by
  rw [Option.orElse_eq_orElse, Option.orElse_eq_or, Option.or_eq_some_iff] at h
  exact h.imp id And.right

theorem floatNumber_fits (h : floatNumber? s = some n) : Fits s n := by
  rcases orElse_cases h with h | h
  · exact pointNumber_fits h
  · exact scaledNumber_fits h

theorem imaginaryAt_fits (hk : k ≤ room s) (h : imaginaryAt s k = some n) : Fits s n := by
  rw [imaginaryAt] at h
  split at h
  · rename_i hc
    rw [← Option.some.inj h]
    exact ⟨by omega, succ_le_room (p := fun c => c == 'j' || c == 'J') rfl hk hc⟩
  · simp at h

theorem imaginaryNumber_fits (h : imaginaryNumber? s = some n) : Fits s n := by
  rcases orElse_cases h with h | h
  · split at h
    · simp at h
    · exact imaginaryAt_fits (grouped_le_room isDigit_newline s) h
  · obtain ⟨k, hk, h⟩ := Option.bind_eq_some_iff.1 h
    exact imaginaryAt_fits (floatNumber_fits hk).2 h

theorem basedNumber_fits {long : Bool} {p : Char → Bool} (hp : p '\n' = false) (hk : k ≤ room s)
    (h : basedNumber? long p s k = some n) : Fits s n := by
  rw [basedNumber?] at h
  set lead := if (s.drop k).head? == some '_' then k + 1 else k with hlead
  have hl : lead ≤ room s := by
    rw [hlead]
    split
    · rename_i hc
      refine succ_le_room (p := (· == '_')) rfl hk ?_
      rw [beq_iff_eq.1 hc]
      rfl
    · exact hk
  have hgroup := add_le_room hl (grouped_le_room hp (s.drop lead))
  dsimp only at h
  split at h
  · simp at h
  · rename_i hne
    rw [← Option.some.inj h]
    refine ⟨by have := Nat.pos_of_ne_zero hne; omega, ?_⟩
    split
    · rename_i hc
      rw [Bool.and_eq_true] at hc
      exact succ_le_room (p := fun c => c == 'l' || c == 'L') rfl hgroup hc.2
    · exact hgroup

theorem wholeNumber_fits (h : wholeNumber? s = some n) : Fits s n := by
  unfold wholeNumber? at h
  split at h
  · simp at h
  · rename_i rest
    have h₀ : 1 ≤ room ('0' :: rest) := by rw [room_cons (by decide)]; omega
    have hnext : ∀ p : Char → Bool, p '\n' = false → rest.head?.any p = true → 2 ≤ room ('0' :: rest) :=
      fun p hp hc => succ_le_room hp h₀ hc
    rcases orElse_cases h with h | h
    · split at h
      · rename_i hc
        exact basedNumber_fits rfl (hnext (fun c => c == 'b' || c == 'B') rfl hc) h
      split at h
      · rename_i hc
        exact basedNumber_fits (by decide) (hnext (fun c => c == 'x' || c == 'X') rfl hc) h
      · refine basedNumber_fits (by decide) ?_ h
        split
        · rename_i hc
          exact hnext (fun c => c == 'o' || c == 'O') rfl hc
        · exact h₀
    · rw [← Option.some.inj h]
      split
      · rename_i hc
        exact ⟨by omega, hnext (fun c => c == 'l' || c == 'L') rfl hc⟩
      · exact ⟨by omega, h₀⟩
  · rename_i c rest hne
    split at h
    · rename_i hc
      have hcn : c ≠ '\n' := by rintro rfl; revert hc; decide
      have hn : groupedTail isDigit rest + 1 ≤ room (c :: rest) := by
        rw [room_cons hcn]
        exact Nat.succ_le_succ (groupedTail_le_room isDigit_newline rest)
      rw [← Option.some.inj h]
      split
      · rename_i hl
        exact ⟨by omega, succ_le_room (p := fun c => c == 'l' || c == 'L') rfl hn hl⟩
      · exact ⟨by omega, hn⟩
    · simp at h

theorem number_fits (h : number? s = some n) : Fits s n := by
  rcases orElse_cases h with h | h
  · exact imaginaryNumber_fits h
  rcases orElse_cases h with h | h
  · exact floatNumber_fits h
  · exact wholeNumber_fits h

/-! ### Operators and strings -/

theorem operators_plain : operators.all (fun o => !o.1.isEmpty && !o.1.contains '\n') = true := by
  decide

theorem operator_fits {o : List Char × Nat} (h : operators.find? (fun o => o.1.isPrefixOf s) = some o) :
    Fits s o.1.length := by
  have hplain := List.all_eq_true.1 operators_plain o (List.mem_of_find?_eq_some h)
  have hpre : o.1 <+: s := List.isPrefixOf_iff_prefix.1 (by simpa using List.find?_some h)
  simp only [Bool.and_eq_true, Bool.not_eq_true', List.isEmpty_eq_false_iff, List.contains_eq_mem,
    decide_eq_false_iff_not] at hplain
  exact ⟨List.length_pos_iff.2 hplain.1, length_le_room hpre hplain.2⟩

theorem isQuote_ne (h : isQuote q = true) : q ≠ '\n' := by
  rintro rfl
  simp [isQuote] at h

theorem mark_letters {mark : List Char} (h : isStringMark mark = true) :
    ∀ c ∈ mark, c.toLower ∈ ['u', 'r', 'b', 'f'] := by
  intro c hc
  have hmap : c.toLower ∈ mark.map Char.toLower := List.mem_map_of_mem hc
  unfold isStringMark at h
  split at h
  · rename_i heq
    simp [heq] at hmap
  · rename_i d heq
    rw [heq, List.mem_singleton] at hmap
    rw [hmap]
    simpa [or_assoc] using h
  · rename_i d e heq
    simp only [Bool.or_eq_true, Bool.and_eq_true, beq_iff_eq] at h
    rw [heq] at hmap
    rcases h with ⟨rfl, rfl | rfl⟩ | ⟨rfl, (rfl | rfl) | rfl⟩ <;> grind
  · cases h

theorem newline_not_mem_mark {mark : List Char} (h : isStringMark mark = true) : '\n' ∉ mark :=
  fun hmem => absurd (mark_letters h _ hmem) (by decide)

theorem stringOpening_split (h : stringOpening? s = some (k, q)) :
    ∃ rest, s.drop k = q :: rest ∧ isStringMark (s.take k) = true ∧ isQuote q = true := by
  obtain ⟨m, -, h⟩ := List.exists_of_findSome?_eq_some h
  split at h
  · rename_i q' rest hd
    split at h
    · rename_i hq
      obtain ⟨rfl, rfl⟩ := Prod.mk.inj (Option.some.inj h)
      rw [Bool.and_eq_true] at hq
      exact ⟨rest, hd, hq.2, hq.1⟩
    · cases h
  · cases h

theorem stringOpening_fits (h : stringOpening? s = some (n, q)) : n + 1 ≤ room s ∧ isQuote q = true := by
  obtain ⟨rest, hd, hmark, hq⟩ := stringOpening_split h
  have hlen : (s.take n).length = n := by
    have := congrArg List.length hd
    rw [List.length_drop, List.length_cons] at this
    rw [List.length_take]
    omega
  have hroom := length_le_room (List.take_prefix n s) (newline_not_mem_mark hmark)
  rw [hlen] at hroom
  exact ⟨succ_le_room (p := isQuote) rfl hroom (by rw [hd]; exact hq), hq⟩

theorem stringRest_le_room (hq : isQuote q = true) (h : stringRest? q s = some (n, true)) : n ≤ room s := by
  fun_induction stringRest? q s generalizing n with
  | case1 => simp at h
  | case2 => simp at h
  | case3 => simp at h
  | case4 c rest hne hne' ih =>
    obtain ⟨⟨m, closed⟩, hm, heq⟩ := Option.map_eq_some_iff.1 h
    obtain ⟨rfl, rfl⟩ := Prod.mk.inj heq
    rw [room_cons (by decide), room_cons (by rintro rfl; exact hne rfl)]
    have := ih hm
    omega
  | case5 c rest _ _ _ hc =>
    obtain ⟨rfl, -⟩ := Prod.mk.inj (Option.some.inj h)
    rw [room_cons (by rw [beq_iff_eq.1 hc]; exact isQuote_ne hq)]
    omega
  | case6 => simp at h
  | case7 c rest _ _ _ hc hne ih =>
    obtain ⟨⟨m, closed⟩, hm, heq⟩ := Option.map_eq_some_iff.1 h
    obtain ⟨rfl, rfl⟩ := Prod.mk.inj heq
    rw [room_cons (by rintro rfl; simp at hne)]
    have := ih hm
    omega

/-- A text with no line feed but at its end. -/
def OneLine (s : List Char) : Prop :=
  '\n' ∉ s.dropLast

theorem OneLine.tail (h : OneLine (c :: s)) : OneLine s := by
  cases s with
  | nil => simp [OneLine]
  | cons d s =>
    rw [OneLine, List.dropLast_cons_of_ne_nil (by simp), List.mem_cons, not_or] at h
    exact h.2

theorem OneLine.drop (h : OneLine s) (k : Nat) : OneLine (s.drop k) := by
  induction k generalizing s with
  | zero => exact h
  | succ k ih =>
    cases s with
    | nil => exact h
    | cons c s => exact ih h.tail

theorem OneLine.eq_nil (h : OneLine ('\n' :: s)) : s = [] := by
  cases s with
  | nil => rfl
  | cons d s =>
    rw [OneLine, List.dropLast_cons_of_ne_nil (by simp)] at h
    simp at h

/-- A quote that closes a string stands in front of the line feed. -/
theorem closing_le_room (hq : isQuote q = true) (hs : OneLine s) (h : closing? q s = some n) : n ≤ room s := by
  fun_induction closing? q s generalizing n with
  | case1 => simp at h
  | case2 => simp at h
  | case3 d rest hd ih =>
    obtain ⟨m, hm, rfl⟩ := Option.map_eq_some_iff.1 h
    rw [room_cons (by decide), room_cons (by simpa using hd)]
    have := ih hs.tail.tail hm
    omega
  | case4 c rest _ hc =>
    rw [← Option.some.inj h, room_cons (by rw [beq_iff_eq.1 hc]; exact isQuote_ne hq)]
    omega
  | case5 => simp at h
  | case6 c rest _ hc _ ih =>
    obtain ⟨m, hm, rfl⟩ := Option.map_eq_some_iff.1 h
    have hne : c ≠ '\n' := by
      rintro rfl
      rw [hs.eq_nil] at hm
      simp [closing?] at hm
    rw [room_cons hne]
    have := ih hs.tail hm
    omega

@[inherit_doc closing_le_room]
theorem closingTriple_le_room (hq : isQuote q = true) (hs : OneLine s) (h : closingTriple? q s = some n) :
    n ≤ room s := by
  fun_induction closingTriple? q s generalizing n with
  | case1 => simp at h
  | case2 => simp at h
  | case3 d rest hd ih =>
    obtain ⟨m, hm, rfl⟩ := Option.map_eq_some_iff.1 h
    rw [room_cons (by decide), room_cons (by simpa using hd)]
    have := ih hs.tail.tail hm
    omega
  | case4 c rest _ hc =>
    rw [Bool.and_eq_true, beq_iff_eq, beq_iff_eq] at hc
    have hpre : [q, q, q] <+: c :: rest := by
      rw [hc.1, List.cons_prefix_cons, ← hc.2]
      exact ⟨rfl, List.take_prefix 2 rest⟩
    rw [← Option.some.inj h]
    exact length_le_room hpre (by simpa using Ne.symm (isQuote_ne hq))
  | case5 => simp at h
  | case6 c rest _ hc _ ih =>
    obtain ⟨m, hm, rfl⟩ := Option.map_eq_some_iff.1 h
    have hne : c ≠ '\n' := by
      rintro rfl
      rw [hs.eq_nil] at hm
      simp [closingTriple?] at hm
    rw [room_cons hne]
    have := ih hs.tail hm
    omega

/-! ### Pieces -/

theorem word_fits (h : (s.takeWhile isWord).length ≠ 0) : Fits s (s.takeWhile isWord).length := by
  refine ⟨Nat.pos_of_ne_zero h, length_le_room (List.takeWhile_prefix _) fun hmem => ?_⟩
  have hw := List.mem_takeWhile_imp hmem
  revert hw
  decide +kernel

def IsFeed (feed : List Char) : Prop :=
  feed = ['\n'] ∨ feed = ['\r', '\n']

theorem IsFeed.mem {feed : List Char} (h : IsFeed feed) : '\n' ∈ feed := by
  rcases h with rfl | rfl <;> simp

/-- What a piece at the start of a text is made of, with its length. -/
inductive IsLexeme (s : List Char) : Lexeme → Nat → Prop
  | continuation {feed : List Char} : IsFeed feed → '\\' :: feed <+: s → IsLexeme s .continuation (feed.length + 1)
  | comment : s.head? = some '#' → IsLexeme s .comment (s.takeWhile fun c => c != '\r' && c != '\n').length
  | tripleQuote {k : Nat} {q : Char} : stringOpening? s = some (k, q) → [q, q, q] <+: s.drop k →
      IsLexeme s (.tripleQuote q) (k + 3)
  | number {n : Nat} : number? s = some n → IsLexeme s .number n
  | operator {o : List Char × Nat} : operators.find? (fun o => o.1.isPrefixOf s) = some o →
      IsLexeme s .operator o.1.length
  | lineEnd {feed : List Char} : IsFeed feed → feed <+: s → IsLexeme s .lineEnd feed.length
  | string {k m : Nat} {q : Char} : stringOpening? s = some (k, q) → stringRest? q (s.drop (k + 1)) = some (m, true) →
      IsLexeme s .string (k + 1 + m)
  | openString {k m : Nat} {q : Char} : stringOpening? s = some (k, q) →
      stringRest? q (s.drop (k + 1)) = some (m, false) → IsLexeme s (.openString q) (k + 1 + m)
  | word : (s.takeWhile isWord).length ≠ 0 → IsLexeme s .word (s.takeWhile isWord).length

theorem lexeme_cases {x : Lexeme} (h : lexeme? s = some (x, n)) : IsLexeme s x n := by
  unfold lexeme? at h
  rcases orElse_cases h with h | h
  · split at h <;> cases h
    · exact .continuation (.inl rfl) ⟨_, rfl⟩
    · exact .continuation (.inr rfl) ⟨_, rfl⟩
  rcases orElse_cases h with h | h
  · split at h
    · rename_i hs
      cases h
      exact .comment (beq_iff_eq.1 hs)
    · cases h
  rcases orElse_cases h with h | h
  · obtain ⟨⟨k, q⟩, hopen, h⟩ := Option.bind_eq_some_iff.1 h
    dsimp only at h
    split at h
    · rename_i htriple
      cases h
      refine .tripleQuote hopen ?_
      rw [← beq_iff_eq.1 htriple]
      exact List.take_prefix 3 _
    · cases h
  rcases orElse_cases h with h | h
  · obtain ⟨k, hk, heq⟩ := Option.map_eq_some_iff.1 h
    cases heq
    exact .number hk
  rcases orElse_cases h with h | h
  · obtain ⟨o, ho, heq⟩ := Option.map_eq_some_iff.1 h
    cases heq
    exact .operator ho
  rcases orElse_cases h with h | h
  · split at h <;> cases h
    · exact .lineEnd (.inl rfl) ⟨_, rfl⟩
    · exact .lineEnd (.inr rfl) ⟨_, rfl⟩
  rcases orElse_cases h with h | h
  · obtain ⟨⟨k, q⟩, hopen, h⟩ := Option.bind_eq_some_iff.1 h
    obtain ⟨⟨m, closed⟩, hm, heq⟩ := Option.map_eq_some_iff.1 h
    cases closed with
    | false => cases heq; exact .openString hopen hm
    | true => cases heq; exact .string hopen hm
  · split at h
    · cases h
    · rename_i hk
      cases h
      exact .word hk

/-- The quote that a piece opens. -/
def Lexeme.quote? : Lexeme → Option Char
  | .tripleQuote q | .openString q => some q
  | _ => none

/-- A piece takes at least one character; it stands in front of the line feed, or ends the line with it,
or opens a string that goes on. -/
theorem lexeme_fits {x : Lexeme} (h : lexeme? s = some (x, n)) :
    0 < n ∧ (n ≤ room s ∨ (n = room s + 1 ∧ (x = .lineEnd ∨ x = .continuation)) ∨ ∃ q, x = .openString q) ∧
      x.quote?.all isQuote = true := by
  cases lexeme_cases h with
  | continuation hfeed hs =>
    obtain ⟨rest, rfl⟩ := hs
    refine ⟨by omega, .inr (.inl ⟨?_, .inr rfl⟩), rfl⟩
    rcases hfeed with rfl | rfl <;> rfl
  | comment hs =>
    obtain ⟨rest, rfl⟩ := List.head?_eq_some_iff.1 hs
    refine ⟨by simp, .inl (length_le_room (List.takeWhile_prefix _) fun hmem => ?_), rfl⟩
    have hw := List.mem_takeWhile_imp hmem
    simp at hw
  | tripleQuote hopen hpre =>
    have hfits := stringOpening_fits hopen
    have hroom := length_le_room hpre (by simpa using Ne.symm (isQuote_ne hfits.2))
    exact ⟨by omega, .inl (add_le_room (by omega) hroom), hfits.2⟩
  | number hn => exact ⟨(number_fits hn).1, .inl (number_fits hn).2, rfl⟩
  | operator ho => exact ⟨(operator_fits ho).1, .inl (operator_fits ho).2, rfl⟩
  | lineEnd hfeed hs =>
    obtain ⟨rest, rfl⟩ := hs
    refine ⟨List.length_pos_of_mem hfeed.mem, .inr (.inl ⟨?_, .inl rfl⟩), rfl⟩
    rcases hfeed with rfl | rfl <;> rfl
  | string hopen hrest =>
    have hfits := stringOpening_fits hopen
    exact ⟨by omega, .inl (add_le_room hfits.1 (stringRest_le_room hfits.2 hrest)), rfl⟩
  | openString hopen _ => exact ⟨by omega, .inr (.inr ⟨_, rfl⟩), (stringOpening_fits hopen).2⟩
  | word hk => exact ⟨(word_fits hk).1, .inl (word_fits hk).2, rfl⟩

/-- The pieces that leave no token inside brackets: the ends of a line take its line feed, and a comment
reaches to the end of its line. -/
theorem lexeme_silent {x : Lexeme} (h : lexeme? s = some (x, n)) :
    (x = .lineEnd ∨ x = .continuation → '\n' ∈ s) ∧
      (x = .comment → s.head? = some '#' ∧ n = (s.takeWhile fun c => c != '\r' && c != '\n').length) := by
  cases lexeme_cases h with
  | continuation hfeed hs => exact ⟨fun _ => hs.subset (.tail _ hfeed.mem), by simp⟩
  | lineEnd hfeed hs => exact ⟨fun _ => hs.subset hfeed.mem, by simp⟩
  | comment hs => exact ⟨by simp, fun _ => ⟨hs, rfl⟩⟩
  | _ => simp

end TypeComments.Source
