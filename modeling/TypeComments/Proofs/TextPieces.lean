import Mathlib.Data.List.Basic
import TypeComments.Text.Lines

/-!
# The pieces of a text

A text is cut at a separator or at every line boundary. A piece stands after as many separators as there are pieces in
front of it (`split_of_getElem?`, `splitLines_getElem?`), and lines that are put together with line feeds are cut where
they were put together (`splitLines_intercalate`). `Clear p s` says that `s` is free of the class `p`.
-/

namespace TypeComments
variable {p q : Char → Bool} {c sep : Char} {l s t x y piece : List Char} {lines pieces : List (List Char)} {j k : Nat}

theorem mem_of_mem_intercalate (h : c ∈ s.intercalate pieces) : c ∈ s ∨ ∃ t ∈ pieces, c ∈ t := by
  induction pieces with
  | nil => simp at h
  | cons t rest ih =>
    cases rest with
    | nil => exact .inr ⟨t, .head _, by rwa [List.intercalate_singleton] at h⟩
    | cons u rest =>
      rw [List.intercalate_cons_cons, List.mem_append, List.mem_append] at h
      rcases h with (h | h) | h
      · exact .inr ⟨t, .head _, h⟩
      · exact .inl h
      · exact (ih h).imp_right fun ⟨v, hv, hc⟩ => ⟨v, .tail _ hv, hc⟩

theorem not_mem_intercalate (hs : c ∉ s) (h : ∀ t ∈ pieces, c ∉ t) : c ∉ s.intercalate pieces := by
  intro hc
  obtain hc | ⟨t, ht, hc⟩ := mem_of_mem_intercalate hc
  exacts [hs hc, h t ht hc]

/-! ### Texts free of a class of characters -/

/-- No character of the text is in the class. -/
def Clear (p : Char → Bool) (s : List Char) : Prop :=
  ∀ c ∈ s, p c = false

instance (p : Char → Bool) (s : List Char) : Decidable (Clear p s) :=
  List.decidableBAll (p · = false) s

namespace Clear

theorem of_subset (h : Clear p t) (hs : s ⊆ t) : Clear p s :=
  fun c hc => h c (hs hc)

theorem mono (h : Clear q s) (hpq : ∀ c, p c = true → q c = true) : Clear p s := by
  intro c hc
  cases hp : p c with
  | false => rfl
  | true => exact absurd (hpq c hp) (by simp [h c hc])

theorem append (hs : Clear p s) (ht : Clear p t) : Clear p (s ++ t) := by
  intro c hc
  rcases List.mem_append.1 hc with hc | hc
  exacts [hs c hc, ht c hc]

theorem intercalate (hs : Clear p s) {pieces : List (List Char)} (h : ∀ t ∈ pieces, Clear p t) :
    Clear p (s.intercalate pieces) := by
  intro c hc
  obtain hc | ⟨t, ht, hc⟩ := mem_of_mem_intercalate hc
  exacts [hs c hc, h t ht c hc]

end Clear

/-! ### Cutting at a separator -/

theorem exists_splitOn (sep : Char) (s : List Char) : ∃ first rest, s.splitOn sep = first :: rest :=
  List.exists_cons_of_ne_nil (List.splitOn_ne_nil sep s)

theorem not_mem_of_mem_splitOn (h : piece ∈ s.splitOn sep) : sep ∉ piece := by
  induction s generalizing piece with
  | nil =>
    obtain rfl := List.mem_singleton.1 h
    exact List.not_mem_nil
  | cons c s ih =>
    rw [List.splitOn_cons_eq_if_modifyHead] at h
    split at h
    · rcases List.mem_cons.1 h with rfl | h
      · exact List.not_mem_nil
      · exact ih h
    · rename_i hc
      obtain ⟨first, rest, hs⟩ := exists_splitOn sep s
      rw [hs, List.modifyHead_cons] at h
      rw [hs] at ih
      rcases List.mem_cons.1 h with rfl | h
      · rw [List.mem_cons, not_or]
        exact ⟨fun heq => hc (by simp [heq]), ih (.head _)⟩
      · exact ih (.tail _ h)

theorem splitOn_append_left (ht : sep ∉ t) (s : List Char) :
    (t ++ s).splitOn sep = (s.splitOn sep).modifyHead (t ++ ·) := by
  induction t with
  | nil => exact (List.modifyHead_id ▸ rfl)
  | cons c t ih =>
    rw [List.mem_cons, not_or] at ht
    rw [List.cons_append, List.splitOn_cons_eq_if_modifyHead, if_neg (by simpa using Ne.symm ht.1), ih ht.2,
      List.modifyHead_modifyHead]
    rfl

/-- A piece stands after as many separators as there are pieces in front of it. -/
theorem split_of_getElem? (h : (s.splitOn sep)[j]? = some piece) :
    ∃ x y, s = x ++ piece ++ y ∧ x.count sep = j ∧ (j = 0 → x = []) := by
  induction s generalizing j piece with
  | nil =>
    cases j with
    | zero =>
      obtain rfl := Option.some.inj h
      exact ⟨[], [], rfl, rfl, fun _ => rfl⟩
    | succ j => cases h
  | cons c s ih =>
    rw [List.splitOn_cons_eq_if_modifyHead] at h
    by_cases hc : c = sep
    · rw [if_pos (by simpa using hc)] at h
      cases j with
      | zero =>
        obtain rfl := Option.some.inj h
        exact ⟨[], c :: s, rfl, rfl, fun _ => rfl⟩
      | succ j =>
        obtain ⟨x, y, rfl, rfl, -⟩ := ih h
        exact ⟨c :: x, y, rfl, by rw [hc, List.count_cons_self], by simp⟩
    · obtain ⟨first, rest, hs⟩ := exists_splitOn sep s
      rw [if_neg (by simpa using hc), hs, List.modifyHead_cons] at h
      rw [hs] at ih
      cases j with
      | zero =>
        obtain rfl := Option.some.inj h
        obtain ⟨x, y, rfl, -, hx⟩ := ih (j := 0) rfl
        obtain rfl := hx rfl
        exact ⟨[], y, rfl, rfl, fun _ => rfl⟩
      | succ j =>
        obtain ⟨x, y, rfl, hx, -⟩ := ih (j := j + 1) h
        exact ⟨c :: x, y, rfl, by rw [List.count_cons_of_ne hc, hx], by simp⟩

theorem exists_piece (ht : sep ∉ t) (x y : List Char) :
    ∃ piece, ((x ++ t ++ y).splitOn sep)[x.count sep]? = some piece ∧ t <:+: piece := by
  induction x with
  | nil =>
    obtain ⟨first, rest, hy⟩ := exists_splitOn sep y
    rw [List.nil_append, splitOn_append_left ht, hy]
    exact ⟨t ++ first, rfl, (List.prefix_append t first).isInfix⟩
  | cons c x ih =>
    obtain ⟨piece, hpiece, hinfix⟩ := ih
    rw [List.cons_append, List.cons_append, List.splitOn_cons_eq_if_modifyHead]
    by_cases hc : c = sep
    · rw [if_pos (by simpa using hc), hc, List.count_cons_self, List.getElem?_cons_succ]
      exact ⟨piece, hpiece, hinfix⟩
    · obtain ⟨first, rest, hs⟩ := exists_splitOn sep (x ++ t ++ y)
      rw [if_neg (by simpa using hc), List.count_cons_of_ne hc, hs, List.modifyHead_cons]
      rw [hs] at hpiece
      cases hn : x.count sep with
      | zero =>
        rw [hn] at hpiece
        obtain rfl := Option.some.inj hpiece
        exact ⟨c :: first, rfl, hinfix.trans (List.suffix_cons c first).isInfix⟩
      | succ n =>
        rw [hn] at hpiece
        exact ⟨piece, hpiece, hinfix⟩

theorem splitOn_filter {keep : Char → Bool} (hsep : keep sep = true) (s : List Char) :
    (s.filter keep).splitOn sep = (s.splitOn sep).map (·.filter keep) := by
  induction s with
  | nil => rfl
  | cons c s ih =>
    obtain ⟨first, rest, hs⟩ := exists_splitOn sep s
    rw [hs, List.map_cons] at ih
    by_cases hc : c = sep
    · subst hc
      rw [List.filter_cons_of_pos hsep, List.splitOn_cons_eq_if_modifyHead, List.splitOn_cons_eq_if_modifyHead,
        if_pos (beq_self_eq_true c), if_pos (beq_self_eq_true c), ih, hs]
      rfl
    · rw [List.splitOn_cons_eq_if_modifyHead, if_neg (by simpa using hc), hs, List.modifyHead_cons, List.map_cons]
      by_cases hk : keep c = true
      · rw [List.filter_cons_of_pos hk, List.filter_cons_of_pos hk, List.splitOn_cons_eq_if_modifyHead,
          if_neg (by simpa using hc), ih, List.modifyHead_cons]
      · rw [List.filter_cons_of_neg hk, List.filter_cons_of_neg hk, ih]

/-! ### Cutting at line boundaries -/

theorem splitLinesFrom_cons {c : Char} (hc : isLineBreak c = false) (line s : List Char) :
    splitLinesFrom line (c :: s) = splitLinesFrom (c :: line) s := by
  rw [splitLinesFrom.eq_def]
  split
  · simp_all
  · rename_i heq
    cases heq
    exact absurd hc (by decide)
  · rename_i heq
    cases heq
    rw [if_neg (by simp [hc])]

theorem splitLinesFrom_feed (line s : List Char) :
    splitLinesFrom line ('\n' :: s) = line.reverse :: splitLinesFrom [] s := by
  rw [splitLinesFrom.eq_def]
  simp [isLineBreak]

theorem splitLinesFrom_return_feed (line s : List Char) :
    splitLinesFrom line ('\r' :: '\n' :: s) = line.reverse :: splitLinesFrom [] s :=
  rfl

theorem splitLinesFrom_append (hl : Clear isLineBreak l) (line s : List Char) :
    splitLinesFrom line (l ++ s) = splitLinesFrom (l.reverse ++ line) s := by
  induction l generalizing line with
  | nil => rfl
  | cons c l ih =>
    rw [List.cons_append, splitLinesFrom_cons (hl c (.head _)), ih fun d hd => hl d (.tail _ hd)]
    simp

theorem splitLinesFrom_break {c : Char} (hc : isLineBreak c = true) {s : List Char} (hs : c = '\r' → s.head? ≠ some '\n')
    (line : List Char) : splitLinesFrom line (c :: s) = line.reverse :: splitLinesFrom [] s := by
  rw [splitLinesFrom.eq_def]
  split
  · simp_all
  · rename_i heq
    cases heq
    exact absurd rfl (hs rfl)
  · rename_i heq
    cases heq
    rw [if_pos hc]

theorem splitLinesFrom_append_feed (line u s : List Char) :
    splitLinesFrom line (u ++ '\n' :: s) = splitLinesFrom line (u ++ ['\n']) ++ splitLinesFrom [] s := by
  have hnil : splitLinesFrom [] [] = [] := rfl
  fun_induction splitLinesFrom line u with
  | case1 line _ | case2 line _ =>
    rw [List.nil_append, List.nil_append, splitLinesFrom_feed, splitLinesFrom_feed, hnil]
    rfl
  | case3 line rest ih =>
    rw [List.cons_append, List.cons_append, List.cons_append, List.cons_append, splitLinesFrom_return_feed,
      splitLinesFrom_return_feed, ih]
    rfl
  | case4 line c rest hne hbreak ih =>
    cases rest with
    | nil =>
      by_cases hc : c = '\r'
      · subst hc
        rw [List.singleton_append, List.singleton_append, splitLinesFrom_return_feed, splitLinesFrom_return_feed, hnil]
        rfl
      · rw [List.singleton_append, List.singleton_append, splitLinesFrom_break hbreak (absurd · hc),
          splitLinesFrom_break hbreak (absurd · hc), splitLinesFrom_feed, splitLinesFrom_feed, hnil]
        rfl
    | cons d rest =>
      have hhead (t : List Char) : c = '\r' → (d :: rest ++ t).head? ≠ some '\n' := by
        rintro hc hd
        exact hne rest hc (by rw [Option.some.inj hd])
      show splitLinesFrom line (c :: (d :: rest ++ '\n' :: s)) = splitLinesFrom line (c :: (d :: rest ++ ['\n'])) ++ _
      rw [splitLinesFrom_break hbreak (hhead _), splitLinesFrom_break hbreak (hhead _), ih]
      rfl
  | case5 line c rest _ hbreak ih =>
    rw [List.cons_append, List.cons_append, splitLinesFrom_cons (by simpa using hbreak),
      splitLinesFrom_cons (by simpa using hbreak), ih]

theorem splitLines_line {l : List Char} (hl : Clear isLineBreak l) (s : List Char) :
    splitLines (l ++ '\n' :: s) = l :: splitLines s := by
  rw [splitLines, splitLinesFrom_append hl, splitLinesFrom_feed]
  simp [splitLines]

theorem splitLines_intercalate (h : ∀ l ∈ lines, Clear isLineBreak l) (hlast : lines.getLast? ≠ some []) :
    splitLines (['\n'].intercalate lines) = lines := by
  induction lines with
  | nil => rfl
  | cons l rest ih =>
    cases rest with
    | nil =>
      have happend := splitLinesFrom_append (h l (.head _)) [] []
      rw [List.append_nil, List.append_nil] at happend
      have hne : ¬l.reverse.isEmpty = true := by simpa using hlast
      rw [List.intercalate_singleton, splitLines, happend, splitLinesFrom.eq_def]
      simp only [hne, Bool.false_eq_true, ↓reduceIte, List.reverse_reverse]
    | cons m rest =>
      rw [List.intercalate_cons_cons, List.append_assoc, List.singleton_append, splitLines_line (h l (.head _)),
        ih (fun k hk => h k (.tail _ hk)) (by simpa using hlast)]

theorem splitLinesFrom_clear (line s : List Char) (hline : Clear isLineBreak line) :
    ∀ l ∈ splitLinesFrom line s, Clear isLineBreak l := by
  have hrev : Clear isLineBreak line.reverse := hline.of_subset (by simp)
  fun_induction splitLinesFrom line s with
  | case1 => simp
  | case2 line h => simpa using hrev
  | case3 line rest ih =>
    rintro l (_ | ⟨_, hl⟩)
    · exact hrev
    · exact ih (by decide) (by decide) l hl
  | case4 line c rest _ h ih =>
    rintro l (_ | ⟨_, hl⟩)
    · exact hrev
    · exact ih (by decide) (by decide) l hl
  | case5 line c rest _ h ih =>
    have hcons : Clear isLineBreak (c :: line) := by
      rintro d (_ | ⟨_, hd⟩)
      · exact Bool.eq_false_iff.2 h
      · exact hline d hd
    exact ih hcons (hcons.of_subset (by simp))

theorem splitLines_clear (s : List Char) : ∀ l ∈ splitLines s, Clear isLineBreak l :=
  splitLinesFrom_clear [] s (by decide)

theorem splitLinesFrom_subset {l s line : List Char} (h : l ∈ splitLinesFrom line s) : l ⊆ line ++ s := by
  fun_induction splitLinesFrom line s with
  | case1 => cases h
  | case2 line _ =>
    obtain rfl := List.mem_singleton.1 h
    simp
  | case3 line rest ih =>
    rcases h with _ | ⟨_, h⟩
    · simp
    · intro c hc
      exact List.mem_append_right _ (.tail _ (.tail _ (ih h hc)))
  | case4 line c rest _ hbreak ih =>
    rcases h with _ | ⟨_, h⟩
    · simp
    · intro c' hc
      exact List.mem_append_right _ (.tail _ (ih h hc))
  | case5 line c rest _ hbreak ih => exact List.Subset.trans (ih h) (by simp)

theorem splitLinesFrom_getElem? {line acc : List Char} (hret : '\r' ∉ s) (hacc : Clear isLineBreak acc)
    (h : (splitLinesFrom acc s)[k]? = some line) :
    ∃ x y, acc.reverse ++ s = x ++ line ++ y ∧ x.countP isLineBreak = k := by
  fun_induction splitLinesFrom acc s generalizing k with
  | case1 acc _ => cases h
  | case2 acc _ =>
    cases k with
    | zero =>
      obtain rfl := Option.some.inj h
      exact ⟨[], [], by simp, rfl⟩
    | succ k => cases h
  | case3 => exact absurd List.mem_cons_self hret
  | case4 acc c rest _ hbreak ih =>
    cases k with
    | zero =>
      obtain rfl := Option.some.inj h
      exact ⟨[], c :: rest, by simp, rfl⟩
    | succ k =>
      obtain ⟨x, y, hrest, hx⟩ := ih (fun hmem => hret (.tail _ hmem)) (List.forall_mem_nil _) h
      refine ⟨acc.reverse ++ c :: x, y, by simpa using hrest, ?_⟩
      have hzero : acc.countP isLineBreak = 0 := List.countP_eq_zero.2 fun d hd => by simp [hacc d hd]
      rw [List.countP_append, List.countP_reverse, hzero, List.countP_cons_of_pos hbreak, hx]
      omega
  | case5 acc c rest _ hbreak ih =>
    obtain ⟨x, y, hrest, hx⟩ := ih (fun hmem => hret (.tail _ hmem))
      (List.forall_mem_cons.2 ⟨by simpa using hbreak, hacc⟩) h
    exact ⟨x, y, by simpa using hrest, hx⟩

/-- A line stands after as many boundaries as there are lines in front of it. -/
theorem splitLines_getElem? {line : List Char} (hret : '\r' ∉ s) (h : (splitLines s)[k]? = some line) :
    ∃ x y, s = x ++ line ++ y ∧ x.countP isLineBreak = k :=
  splitLinesFrom_getElem? hret (List.forall_mem_nil _) h

end TypeComments
