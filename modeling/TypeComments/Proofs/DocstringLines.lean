import TypeComments.Docstring.Clean
import TypeComments.Source.Literal
import TypeComments.Proofs.TextPieces
import TypeComments.Proofs.TokenLines

/-!
# Where the lines of a docstring are written

A docstring is written between the quotes of a literal and cleaned before it is read: the empty lines at its start are
dropped, the others lose their indentation, tabs and backquotes. Each line of the cleaned docstring is a part of one
line of the literal (`written_of_clean`), and the number of lines in front of it there is the number in front of it
after cleaning, and the lines that were dropped.

Lines are not counted alike in the three texts: a lone carriage return ends a line of a literal but no line of the
source (`loneReturns`), and a cleaned docstring is cut at more boundaries than line feeds (`otherBreaks`).
-/

namespace TypeComments
variable {sep c : Char} {s x y p : List Char} {j k : Nat}

/-! ### Line boundaries -/

/-- The line boundaries of a text that are no line feeds. -/
def otherBreaks (s : List Char) : Nat :=
  s.countP fun c => isLineBreak c && c != '\n'

theorem otherBreaks_of_all (h : s.all (fun c => !isLineBreak c || c == '\n') = true) : otherBreaks s = 0 := by
  refine List.countP_eq_zero.2 fun c hc => ?_
  have hc' := List.all_eq_true.1 h c hc
  cases hbreak : isLineBreak c <;> simp_all

theorem countP_isLineBreak (s : List Char) : s.countP isLineBreak = s.count '\n' + otherBreaks s := by
  induction s with
  | nil => rfl
  | cons c s ih =>
    have hfeed : isLineBreak '\n' = true := by decide
    rw [otherBreaks] at ih ⊢
    rw [List.countP_cons, List.countP_cons, List.count_cons, ih]
    by_cases hc : c = '\n'
    · simp only [hc, hfeed, beq_self_eq_true, bne_self_eq_false, Bool.and_false, if_true, Bool.false_eq_true, if_false]
      omega
    · cases isLineBreak c with
      | true =>
        simp [hc]
        omega
      | false => simp [hc]

namespace Docstring
variable {doc line q : List Char} {lines : List (List Char)}

/-! ### Cleaning -/

/-- The empty lines at the start of a docstring, which cleaning drops. -/
def droppedLines (doc : List Char) : Nat :=
  ((unindentLines (List.splitOn '\n' (expandTabs doc))).takeWhile List.isEmpty).length

theorem splitOn_expandTabsFrom (width col : Nat) (s : List Char) : ∃ first rest,
    List.splitOn '\n' s = first :: rest ∧ List.splitOn '\n' (expandTabsFrom width col s) =
      expandTabsFrom width col first :: rest.map (expandTabsFrom width 0) := by
  induction s generalizing col with
  | nil => exact ⟨[], [], rfl, rfl⟩
  | cons c s ih =>
    have hinside {d : Char} (hd : d ≠ '\n') {u first : List Char} {rest : List (List Char)}
        (h : List.splitOn '\n' u = first :: rest) : List.splitOn '\n' (d :: u) = (d :: first) :: rest := by
      rw [List.splitOn_cons_eq_if_modifyHead, if_neg (by simpa using hd), h, List.modifyHead_cons]
    have hfeed {u first : List Char} {rest : List (List Char)} (h : List.splitOn '\n' u = first :: rest) :
        List.splitOn '\n' ('\n' :: u) = [] :: first :: rest := by
      rw [List.splitOn_cons_eq_if_modifyHead, if_pos (beq_self_eq_true _), h]
    by_cases htab : c = '\t'
    · subst htab
      obtain ⟨first, rest, hs, htabs⟩ := ih (col + (width - col % width))
      refine ⟨'\t' :: first, rest, hinside (by decide) hs, ?_⟩
      simp only [expandTabsFrom, beq_self_eq_true, if_true]
      rw [splitOn_append_left (by simp [List.mem_replicate]), htabs, List.modifyHead_cons]
    · by_cases hend : c = '\n'
      · subst hend
        obtain ⟨first, rest, hs, htabs⟩ := ih 0
        exact ⟨[], first :: rest, hfeed hs, hfeed htabs⟩
      · by_cases hret : c = '\r'
        · subst hret
          obtain ⟨first, rest, hs, htabs⟩ := ih 0
          refine ⟨'\r' :: first, rest, hinside (by decide) hs, ?_⟩
          exact hinside (by decide) htabs
        · obtain ⟨first, rest, hs, htabs⟩ := ih (col + 1)
          refine ⟨c :: first, rest, hinside hend hs, ?_⟩
          simp only [expandTabsFrom, htab, hend, hret, beq_iff_eq, Bool.or_eq_true, or_self, if_false]
          exact hinside hend htabs

theorem mem_of_mem_expandTabsFrom {width col : Nat} (h : c ∈ expandTabsFrom width col s) : c = ' ' ∨ c ∈ s := by
  induction s generalizing col with
  | nil => cases h
  | cons d s ih =>
    rw [expandTabsFrom] at h
    split at h
    · rcases List.mem_append.1 h with h | h
      · exact .inl (List.eq_of_mem_replicate h)
      · exact (ih h).imp_right (List.mem_cons_of_mem d)
    · split at h <;> rcases List.mem_cons.1 h with rfl | h
      · exact .inr List.mem_cons_self
      · exact (ih h).imp_right (List.mem_cons_of_mem d)
      · exact .inr List.mem_cons_self
      · exact (ih h).imp_right (List.mem_cons_of_mem d)

theorem splitOn_expandTabs (doc : List Char) :
    List.splitOn '\n' (expandTabs doc) = (List.splitOn '\n' doc).map expandTabs := by
  obtain ⟨first, rest, hs, htabs⟩ := splitOn_expandTabsFrom 8 0 doc
  rw [expandTabs, htabs, hs]
  rfl

/-- A line without its indentation is an end of the line. -/
theorem unindentLines_getElem? (h : (unindentLines lines)[j]? = some q) : ∃ r, lines[j]? = some r ∧ q <:+ r := by
  cases lines with
  | nil => cases h
  | cons first rest =>
    rw [unindentLines] at h
    cases j with
    | zero =>
      obtain rfl := Option.some.inj h
      exact ⟨first, rfl, List.dropWhile_suffix _⟩
    | succ j =>
      rw [List.getElem?_cons_succ] at h ⊢
      split at h
      · exact ⟨q, h, List.suffix_rfl⟩
      · rename_i m _
        rw [List.getElem?_map, Option.map_eq_some_iff] at h
        obtain ⟨r, hr, rfl⟩ := h
        exact ⟨r, hr, List.drop_suffix m r⟩

theorem dropEmptyEnds_getElem? (h : (dropEmptyEnds lines)[j]? = some q) :
    lines[(lines.takeWhile List.isEmpty).length + j]? = some q := by
  have hprefix : dropEmptyEnds lines <+: lines.dropWhile List.isEmpty := by
    rw [dropEmptyEnds, ← List.reverse_suffix, List.reverse_reverse]
    exact List.dropWhile_suffix _
  obtain ⟨rest, hrest⟩ := hprefix
  have hall : lines.takeWhile List.isEmpty ++ (dropEmptyEnds lines ++ rest) = lines := by
    rw [hrest, List.takeWhile_append_dropWhile]
  have hget : (lines.takeWhile List.isEmpty ++ (dropEmptyEnds lines ++ rest))[
      (lines.takeWhile List.isEmpty).length + j]? = some q := by
    rw [List.getElem?_append_right (Nat.le_add_right _ _), Nat.add_sub_cancel_left,
      List.getElem?_append_left (List.getElem?_eq_some_iff.1 h).1, h]
  rwa [hall] at hget

/-- A line that cleaning leaves is the end of a line of the docstring, tabs apart. -/
theorem exists_origin {l : List Char}
    (h : (dropEmptyEnds (unindentLines (List.splitOn '\n' (expandTabs doc))))[j]? = some l) :
    ∃ raw, (List.splitOn '\n' doc)[droppedLines doc + j]? = some raw ∧ l <:+ expandTabs raw := by
  obtain ⟨r, hr, hsuffix⟩ := unindentLines_getElem? (dropEmptyEnds_getElem? h)
  rw [← droppedLines, splitOn_expandTabs, List.getElem?_map, Option.map_eq_some_iff] at hr
  obtain ⟨raw, hraw, rfl⟩ := hr
  exact ⟨raw, hraw, hsuffix⟩

theorem mem_of_mem_clean (h : c ∈ clean doc) (hspace : c ≠ ' ') (hfeed : c ≠ '\n') : c ∈ doc := by
  by_contra hdoc
  refine not_mem_intercalate (by simpa using hfeed) (fun l hl hc => ?_) (List.mem_of_mem_filter h)
  obtain ⟨j, hj⟩ := List.getElem?_of_mem hl
  obtain ⟨raw, hraw, hsuffix⟩ := exists_origin hj
  obtain ⟨x, y, rfl, -⟩ := split_of_getElem? hraw
  have hc' := (mem_of_mem_expandTabsFrom (hsuffix.subset hc)).resolve_left hspace
  exact hdoc (by simp [hc'])

/-- A part of a line of a cleaned docstring is a part of a line of the docstring, tabs and backquotes apart. -/
theorem clean_part (hline : '\n' ∉ line) (h : clean doc = x ++ line ++ y) (hne : line ≠ []) :
    ∃ raw, (List.splitOn '\n' doc)[droppedLines doc + x.count '\n']? = some raw ∧
      line <:+: (expandTabs raw).filter (· != '\x60') := by
  set cut := dropEmptyEnds (unindentLines (List.splitOn '\n' (expandTabs doc))) with hcut
  have hfeed : ∀ l ∈ cut, '\n' ∉ l := by
    intro l hl hmem
    obtain ⟨j, hj⟩ := List.getElem?_of_mem hl
    obtain ⟨raw, hraw, hsuffix⟩ := exists_origin hj
    have hmem' := (mem_of_mem_expandTabsFrom (hsuffix.subset hmem)).resolve_left (by decide)
    exact not_mem_of_mem_splitOn (List.mem_of_getElem? hraw) hmem'
  have hne' : cut ≠ [] := by
    intro hnil
    rw [clean, unindent, ← hcut, hnil] at h
    simp [List.intercalate, hne] at h
  have hpieces : List.splitOn '\n' (clean doc) = cut.map (·.filter (· != '\x60')) := by
    rw [clean, unindent, ← hcut, splitOn_filter (by decide), List.splitOn_intercalate _ hfeed hne']
  obtain ⟨q, hq, hinfix⟩ := exists_piece hline x y
  rw [← h, hpieces, List.getElem?_map, Option.map_eq_some_iff] at hq
  obtain ⟨l, hl, rfl⟩ := hq
  obtain ⟨raw, hraw, hsuffix⟩ := exists_origin hl
  exact ⟨raw, hraw, hinfix.trans (hsuffix.filter _).isInfix⟩

end Docstring

namespace Source
variable {text value : List Char}

/-! ### The value of a literal -/

/-- The carriage returns of a text that no line feed follows. -/
def loneReturns : List Char → Nat
  | [] => 0
  | '\r' :: '\n' :: rest => loneReturns rest
  | c :: rest => (if c == '\r' then 1 else 0) + loneReturns rest

theorem plainLineEnds_cons (h : c = '\r' → s.head? ≠ some '\n') :
    plainLineEnds (c :: s) = (if c == '\r' then '\n' else c) :: plainLineEnds s := by
  rw [plainLineEnds.eq_def]
  split
  · simp_all
  · rename_i heq
    cases heq
    exact absurd rfl (h rfl)
  · rename_i heq
    cases heq
    rfl

theorem loneReturns_of_not_mem (h : '\r' ∉ s) : loneReturns s = 0 := by
  fun_induction loneReturns s with
  | case1 => rfl
  | case2 => exact absurd List.mem_cons_self h
  | case3 c rest _ ih =>
    rw [List.mem_cons, not_or] at h
    rw [ih h.2, if_neg (by simpa using Ne.symm h.1)]

theorem loneReturns_cons (h : c = '\r' → s.head? ≠ some '\n') :
    loneReturns (c :: s) = (if c == '\r' then 1 else 0) + loneReturns s := by
  rw [loneReturns.eq_def]
  split
  · simp_all
  · rename_i heq
    cases heq
    exact absurd rfl (h rfl)
  · rename_i heq
    cases heq
    rfl

/-- A character that is cut off alone does not open a line end of two characters. -/
theorem head?_ne_feed (h : ∀ rest, c = '\r' → s = '\n' :: rest → False) : c = '\r' → s.head? ≠ some '\n' := by
  intro hc hs
  obtain ⟨rest, hrest⟩ := List.head?_eq_some_iff.1 hs
  exact h rest hc hrest

theorem count_plainLineEnds (s : List Char) : (plainLineEnds s).count '\n' = s.count '\n' + loneReturns s := by
  fun_induction plainLineEnds s with
  | case1 => rfl
  | case2 rest ih =>
    rw [loneReturns, List.count_cons_self, List.count_cons_of_ne (by decide), List.count_cons_self, ih]
    omega
  | case3 c rest hne ih =>
    rw [loneReturns_cons (head?_ne_feed hne), List.count_cons, List.count_cons, ih]
    by_cases hc : c = '\r'
    · subst hc
      simp
      omega
    · simp [hc]
      omega

theorem return_not_mem_plainLineEnds (s : List Char) : '\r' ∉ plainLineEnds s := by
  fun_induction plainLineEnds s with
  | case1 => exact List.not_mem_nil
  | case2 rest ih => simpa using ih
  | case3 c rest _ ih =>
    rw [List.mem_cons, not_or]
    refine ⟨?_, ih⟩
    split
    · decide
    · rename_i hc
      exact fun h => hc (by simp [← h])

theorem plainLineEnds_of_not_mem (h : '\n' ∉ plainLineEnds s) : plainLineEnds s = s := by
  fun_induction plainLineEnds s with
  | case1 => rfl
  | case2 rest ih => exact absurd List.mem_cons_self h
  | case3 c rest _ ih =>
    rw [List.mem_cons, not_or] at h
    split at h
    · exact absurd rfl h.1
    · rename_i hc
      rw [if_neg hc, ih h.2]

theorem mem_of_mem_plainLineEnds (h : c ∈ plainLineEnds s) (hc : c ≠ '\n') : c ∈ s := by
  fun_induction plainLineEnds s with
  | case1 => cases h
  | case2 rest ih => exact .tail _ (.tail _ (ih ((List.mem_cons.1 h).resolve_left hc)))
  | case3 d rest _ ih =>
    rcases List.mem_cons.1 h with heq | h
    · split at heq
      · exact absurd heq hc
      · exact heq ▸ List.mem_cons_self
    · exact .tail _ (ih h)

theorem plainLineEnds_append_left (hx : '\r' ∉ x) (s : List Char) : plainLineEnds (x ++ s) = x ++ plainLineEnds s := by
  induction x with
  | nil => rfl
  | cons c x ih =>
    rw [List.mem_cons, not_or] at hx
    rw [List.cons_append, plainLineEnds_cons (fun hc => absurd hc.symm hx.1), ih hx.2,
      if_neg (by simpa using Ne.symm hx.1)]
    rfl

theorem plainLineEnds_split (h : plainLineEnds s = x ++ y) :
    ∃ u w, s = u ++ w ∧ plainLineEnds u = x ∧ plainLineEnds w = y := by
  fun_induction plainLineEnds s generalizing x with
  | case1 =>
    obtain ⟨rfl, rfl⟩ := List.append_eq_nil_iff.1 h.symm
    exact ⟨[], [], rfl, rfl, rfl⟩
  | case2 rest ih =>
    cases x with
    | nil => exact ⟨[], _, rfl, rfl, h⟩
    | cons d x =>
      obtain ⟨rfl, hrest⟩ := List.cons.inj h
      obtain ⟨u, w, rfl, rfl, hw⟩ := ih hrest
      exact ⟨'\r' :: '\n' :: u, w, rfl, rfl, hw⟩
  | case3 c rest hne ih =>
    cases x with
    | nil => exact ⟨[], _, rfl, rfl, by rwa [plainLineEnds_cons (head?_ne_feed hne)]⟩
    | cons d x =>
      obtain ⟨hd, hrest⟩ := List.cons.inj h
      obtain ⟨u, w, rfl, rfl, hw⟩ := ih hrest
      refine ⟨c :: u, w, rfl, ?_, hw⟩
      rw [plainLineEnds_cons, hd]
      intro hc hu
      obtain ⟨rest, rfl⟩ := List.head?_eq_some_iff.1 hu
      exact hne _ hc rfl

/-- The letters in front of the quotes of a literal. -/
def literalMark (text : List Char) : List Char :=
  (text.takeWhile (!isQuote ·)).map Char.toLower

/-- The value of a literal is the text between its quotes, but for its line ends: it is raw or has no escape, and no
value is filled in. -/
structure IsVerbatim (text : List Char) : Prop where
  escapes : 'r' ∈ literalMark text ∨ '\\' ∉ text
  fields : 'f' ∈ literalMark text → '\x7b' ∉ text ∧ '\x7d' ∉ text

theorem unescapeFrom_of_not_mem (hs : '\\' ∉ s) (line pos : Nat) : unescapeFrom line 0 pos s = .ok s := by
  induction s generalizing pos with
  | nil => rfl
  | cons c s ih =>
    rw [List.mem_cons, not_or] at hs
    rw [unescapeFrom, if_neg (by simpa using Ne.symm hs.1), ih hs.2]
    rfl

theorem piecesFrom_of_not_mem {raw : Bool} (hescapes : raw = true ∨ '\\' ∉ s) (hopen : '\x7b' ∉ s)
    (hclose : '\x7d' ∉ s) (line : Nat) (plain : List Char) :
    piecesFrom raw line 0 plain s = .ok [.plain (plain.reverse ++ s)] := by
  induction s generalizing plain with
  | nil => simp [piecesFrom]
  | cons c s ih =>
    simp only [List.mem_cons, not_or] at hescapes hopen hclose
    have hc : (!raw && c == '\\') = false := by
      rcases hescapes with hraw | hc
      · simp [hraw]
      · simp [Ne.symm hc.1]
    simp only [piecesFrom, beq_eq_false_iff_ne.2 (Ne.symm hopen.1), beq_eq_false_iff_ne.2 (Ne.symm hclose.1), hc,
      Bool.false_and, Bool.false_eq_true, if_false]
    rw [ih (hescapes.imp_right And.right) hopen.2 hclose.2]
    simp

theorem fillFields_of_not_mem {raw : Bool} (hescapes : raw = true ∨ '\\' ∉ s) (hopen : '\x7b' ∉ s)
    (hclose : '\x7d' ∉ s) (line : Nat) : fillFields raw line s = .ok s := by
  unfold fillFields
  rw [piecesFrom_of_not_mem hescapes hopen hclose]
  cases raw with
  | true => simp [bind, Except.bind, pure, Except.pure]
  | false =>
    have hs := unescapeFrom_of_not_mem (hescapes.resolve_left (by simp)) line 0
    simp [bind, Except.bind, pure, Except.pure, unescape, hs, Except.map]

/-- A literal opens with its mark and a quote, which hold no line end. -/
theorem OpensString.cut (h : OpensString text) : ∃ mark q rest, isQuote q = true ∧
    plainLineEnds text = mark ++ q :: rest ∧ '\n' ∉ mark ∧
    (plainLineEnds text).takeWhile (!isQuote ·) = mark ∧ (plainLineEnds text).dropWhile (!isQuote ·) = q :: rest ∧
    text.takeWhile (!isQuote ·) = mark := by
  obtain ⟨mark, q, rest, rfl, hmark, hq⟩ := h
  have hletters := mark_letters hmark
  have hquotes : ∀ c ∈ mark, (!isQuote c) = true := by
    intro c hc
    cases hcq : isQuote c with
    | false => rfl
    | true =>
      simp only [isQuote, Bool.or_eq_true, beq_iff_eq] at hcq
      rcases hcq with rfl | rfl <;> exact absurd (hletters _ hc) (by decide)
  have hret : '\r' ∉ mark := fun hmem => absurd (hletters _ hmem) (by decide)
  have hq' : q ≠ '\r' := by
    rintro rfl
    exact absurd hq (by decide)
  have htext : plainLineEnds (mark ++ q :: rest) = mark ++ q :: plainLineEnds rest := by
    rw [plainLineEnds_append_left hret, plainLineEnds_cons (absurd · hq'), if_neg (by simpa using hq')]
  have htake (u : List Char) : (mark ++ q :: u).takeWhile (!isQuote ·) = mark := by
    rw [List.takeWhile_append_of_pos hquotes, List.takeWhile_cons_of_neg (by simp [hq]), List.append_nil]
  refine ⟨mark, q, plainLineEnds rest, hq, htext, newline_not_mem_mark hmark, ?_, ?_, htake rest⟩
  · rw [htext, htake]
  · rw [htext, List.dropWhile_append_of_pos hquotes, List.dropWhile_cons_of_neg (by simp [hq])]

theorem newline_not_mem_quotes {q : Char} (hq : isQuote q = true) (rest : List Char) :
    '\n' ∉ (q :: rest).take (if (decide (5 ≤ rest.length) && rest.take 2 == [q, q]) = true then 3 else 1) := by
  have hne : '\n' ≠ q := (isQuote_ne hq).symm
  split
  · rename_i hthree
    rw [Bool.and_eq_true, beq_iff_eq] at hthree
    simpa [List.take_succ_cons, hthree.2] using hne
  · simpa using hne

/-- The value of such a literal stands behind its mark and the quotes. -/
theorem literalValue_of_verbatim (hopens : OpensString text) (h : IsVerbatim text)
    (hvalue : literalValue text = .ok (.text value)) :
    ∃ front back, plainLineEnds text = front ++ value ++ back ∧ '\n' ∉ front := by
  obtain ⟨mark, q, rest, hq, htext, hmark, htake, hdrop, hown⟩ := hopens.cut
  have hmark' : literalMark text = mark.map Char.toLower := by rw [literalMark, hown]
  have hquotes := newline_not_mem_quotes hq rest
  simp only [literalValue, htake, hdrop] at hvalue
  generalize (if (decide (5 ≤ rest.length) && rest.take 2 == [q, q]) = true then 3 else 1) = quotes at hvalue hquotes
  set content := ((q :: rest).drop quotes).take ((q :: rest).length - 2 * quotes) with hcontent
  have hall : plainLineEnds text = (mark ++ (q :: rest).take quotes) ++ content ++
      ((q :: rest).drop quotes).drop ((q :: rest).length - 2 * quotes) := by
    rw [htext, hcontent, List.append_assoc, List.append_assoc, List.take_append_drop, List.take_append_drop]
  have hchars {c : Char} (hc : c ≠ '\n') (htext : c ∉ text) : c ∉ content := fun hmem =>
    htext (mem_of_mem_plainLineEnds (by rw [hall]; simp [hmem]) hc)
  have hraw : (mark.map Char.toLower).contains 'r' = true ∨ '\\' ∉ content := by
    refine h.escapes.imp (fun hr => ?_) (hchars (by decide))
    rw [hmark'] at hr
    simpa using hr
  suffices hcontent : content = value by
    rw [hcontent] at hall
    exact ⟨_, _, hall, by simp [hmark, hquotes]⟩
  generalize (plainLineEnds text).count '\n' + 1 = line at hvalue
  split at hvalue
  · cases hvalue
  split at hvalue
  · cases hvalue
  split at hvalue
  · cases hvalue
  split at hvalue
  · split at hvalue
    · cases hvalue
    split at hvalue
    · cases hvalue
    · cases hbytes : unescapeBytesFrom line 0 0 content <;> rw [hbytes] at hvalue <;> cases hvalue
  split at hvalue
  · rename_i hfields
    have hbraces := h.fields (by rw [hmark']; simpa using hfields)
    rw [fillFields_of_not_mem hraw (hchars (by decide) hbraces.1) (hchars (by decide) hbraces.2)] at hvalue
    exact Literal.text.inj (Except.ok.inj hvalue)
  split at hvalue
  · exact Literal.text.inj (Except.ok.inj hvalue)
  · rename_i hnot
    rw [unescape, unescapeFrom_of_not_mem (hraw.resolve_left hnot)] at hvalue
    exact Literal.text.inj (Except.ok.inj hvalue)

theorem literal_line (hopens : OpensString text) (h : IsVerbatim text) (hvalue : literalValue text = .ok (.text value))
    {raw : List Char} (hraw : (List.splitOn '\n' value)[j]? = some raw) :
    ∃ head, head ++ raw <+: text ∧ head.count '\n' + loneReturns head = j := by
  obtain ⟨front, back, hall, hfront⟩ := literalValue_of_verbatim hopens h hvalue
  obtain ⟨x, y, rfl, hx, -⟩ := split_of_getElem? hraw
  have hall' : plainLineEnds text = (front ++ x) ++ (raw ++ (y ++ back)) := by simpa using hall
  obtain ⟨head, tail, rfl, hhead, htail⟩ := plainLineEnds_split hall'
  obtain ⟨raw', rest, rfl, hraw', -⟩ := plainLineEnds_split htail
  have hline : '\n' ∉ plainLineEnds raw' := by
    rw [hraw']
    exact not_mem_of_mem_splitOn (List.mem_of_getElem? hraw)
  rw [plainLineEnds_of_not_mem hline] at hraw'
  subst hraw'
  refine ⟨head, ⟨rest, by simp⟩, ?_⟩
  rw [← count_plainLineEnds, hhead, List.count_append, List.count_eq_zero_of_not_mem hfront, hx, Nat.zero_add]

end Source

open Docstring Source

/-- A line of a cleaned docstring and where it is written: `x` stands in front of it in the cleaned docstring, and
`head` stands in front of the line `raw` of the literal that it comes from. -/
structure Written (literal doc head raw x line : List Char) : Prop where
  literal : head ++ raw <+: literal
  cleaned : x ++ line <+: clean doc
  /-- What it comes from is a whole line of the docstring. -/
  whole : (List.splitOn '\n' doc)[droppedLines doc + x.count '\n']? = some raw
  /-- The line is a part of what it comes from, tabs and backquotes apart. -/
  part : line <:+: (expandTabs raw).filter (· != '\x60')
  /-- As many lines stand in front of the one as of the other, the dropped ones apart. -/
  lines : head.count '\n' + loneReturns head = droppedLines doc + x.count '\n'

/-- Each line of a cleaned docstring is written on one line of its literal. -/
theorem written_of_clean {literal doc line : List Char} (hopens : OpensString literal) (h : IsVerbatim literal)
    (hvalue : literalValue literal = .ok (.text doc)) (hline : (splitLines (clean doc))[k]? = some line)
    (hne : line ≠ []) :
    ∃ head raw x, Written literal doc head raw x line ∧ k = x.count '\n' + otherBreaks x := by
  have hret : '\r' ∉ clean doc := by
    obtain ⟨front, back, hall, -⟩ := literalValue_of_verbatim hopens h hvalue
    intro hmem
    have hdoc := mem_of_mem_clean hmem (by decide) (by decide)
    exact return_not_mem_plainLineEnds literal (by simp [hall, hdoc])
  obtain ⟨x, y, hclean, hx⟩ := splitLines_getElem? hret hline
  have hfeed : '\n' ∉ line := fun hmem =>
    absurd (splitLines_clear _ _ (List.mem_of_getElem? hline) _ hmem) (by decide)
  obtain ⟨raw, hraw, hpart⟩ := clean_part hfeed hclean hne
  obtain ⟨head, hliteral, hhead⟩ := literal_line hopens h hvalue hraw
  exact ⟨head, raw, x, ⟨hliteral, ⟨y, hclean.symm⟩, hraw, hpart, hhead⟩, by rw [← hx, countP_isLineBreak]⟩

/-- The physical line that a line of a docstring is written on. -/
theorem Written.physicalLine {literal doc head raw x line before source : List Char}
    (h : Written literal doc head raw x line) (hne : line ≠ []) (htoken : before ++ literal <+: completed source) :
    ∃ physical, (physicalLines source)[(before ++ head).count '\n']? = some physical ∧ raw <:+: physical := by
  have hfeed : '\n' ∉ raw := not_mem_of_mem_splitOn (List.mem_of_getElem? h.whole)
  have hraw : raw ≠ [] := by
    rintro rfl
    exact hne (List.infix_nil.1 h.part)
  obtain ⟨rest, hrest⟩ := htoken
  obtain ⟨rest', rfl⟩ := h.literal
  refine physicalLine_of_completed hfeed hraw ?_
  rw [← hrest, show before ++ (head ++ raw ++ rest') ++ rest = before ++ head ++ raw ++ (rest' ++ rest) by simp]
  exact exists_physicalLine hfeed hraw

end TypeComments
