import Mathlib.Data.List.Chain
import Mathlib.Data.List.Induction
import TypeComments.Proofs.ScanLines

/-!
# Scanning a whole text

A text of complete lines that is scanned without a fault is the concatenation of its tokens
(`scan_flatten`). The last line of a text may lack its line feed. Then, if each block and the text end
after the end of a statement, that line holds no statement: it is a comment, which is completed, or blanks,
which are dropped. So the tokens of the text are those of the completed text, up to the line end that
completes a comment after a continuation (`Completes`, `scan_completed`).
-/

namespace TypeComments.Source
variable {c : Char} {cs l t : List Char} {L : List (List Char)}

/-- Each block, and the text, end after the end of a statement. -/
def Rests (ts : List Token) : Prop :=
  ts.IsChain fun t u => u.kind = .dedent ∨ u.kind = .endMarker → t.kind = .newline ∨ t.kind = .dedent

theorem Rests.head {last : Token} {dedents ts : List Token} (h : Rests (last :: (dedents ++ ts)).reverse)
    (hlast : last.kind = .endMarker) (hdedents : ∀ t ∈ dedents, t.kind = .dedent) :
    ∀ u ∈ ts.head?, u.kind = .newline ∨ u.kind = .dedent := by
  intro u hu
  rw [Rests, List.reverse_cons, List.reverse_append, List.append_assoc, List.isChain_append] at h
  obtain ⟨v, hv⟩ : ∃ v, v ∈ (dedents.reverse ++ [last]).head? := by
    cases hd : dedents.reverse with
    | nil => exact ⟨last, rfl⟩
    | cons v vs => exact ⟨v, rfl⟩
  refine h.2.2 u (by simpa using hu) v hv ?_
  rcases List.mem_append.1 (List.mem_of_head? hv) with hmem | hmem
  · exact .inl (hdedents v (by simpa using hmem))
  · rw [List.mem_singleton.1 hmem]
    exact .inr hlast

/-- Does a piece of this kind make a token on its line? -/
def PieceKind.emits : PieceKind → Bool
  | .string | .number | .operator | .word | .stray => true
  | _ => false

namespace Scanner
variable {s s' : Scanner} {x : List Char} {p : Kind → Prop}

/-! ### Tokens stay -/

/-- From `s` to `s'` only tokens are added that do not end the text. -/
def Adds (s s' : Scanner) : Prop :=
  ∃ added, s'.tokens = added ++ s.tokens ∧ ∀ t ∈ added, t.kind ≠ .endMarker

theorem Adds.same (h : s'.tokens = s.tokens) : s.Adds s' := ⟨[], h, by simp⟩

theorem Adds.trans {s'' : Scanner} (h : s.Adds s') (h' : s'.Adds s'') : s.Adds s'' := by
  obtain ⟨added, ht, hk⟩ := h
  obtain ⟨added', ht', hk'⟩ := h'
  refine ⟨added' ++ added, by rw [ht', ht, List.append_assoc], fun t hmem => ?_⟩
  exact (List.mem_append.1 hmem).elim (hk' t) (hk t)

theorem Adds.suffix (h : s.Adds s') : s.tokens <:+ s'.tokens :=
  let ⟨added, heq, _⟩ := h
  ⟨added, heq.symm⟩

theorem Grows.suffix (h : Grows p s s') : s.tokens <:+ s'.tokens :=
  let ⟨added, heq, _⟩ := h.tokens
  ⟨added, heq.symm⟩

theorem Grows.adds (h : Grows (· ≠ .endMarker) s s') : s.Adds s' := h.tokens

theorem inline_ne_endMarker (k : Kind) (hk : k.isInline = true) : k ≠ .endMarker := by
  rintro rfl
  simp [Kind.isInline] at hk

theorem Adds.release (s : Scanner) : s.Adds s.releaseName :=
  (Grows.release s (by decide)).adds

theorem Adds.dedent (s : Scanner) (column : Nat) (closed : List Nat) : s.Adds (s.dedent column closed) := by
  induction closed generalizing s with
  | nil => exact .same rfl
  | cons i closed ih => exact (Grows.emit s (by decide) _ _).adds.trans (ih _)

theorem Adds.indentTo (s : Scanner) (column : Nat) (blanks : List Char) : s.Adds (s.indentTo column blanks) := by
  unfold Scanner.indentTo
  dsimp only
  split
  · exact (Grows.emit { s with indents := column :: s.indents } (by decide) _ _).adds
  split
  · exact (Adds.dedent { s.skip blanks with indents := _ } _ _).trans (.same (leaveAsync_tokens _ _))
  · exact .same rfl

theorem Adds.layOut (s : Scanner) (blanks : List Char) : s.Adds (s.layOut blanks) :=
  (Adds.indentTo s _ _).trans (.same (leaveAsync_tokens _ _))

theorem Adds.scanRest (s : Scanner) (column : Nat) (line : List Char) : s.Adds (s.scanRest column line) :=
  (Grows.scanRest inline_ne_endMarker s column line fun _ => by decide).adds

theorem Adds.scanStatement (s : Scanner) (line : List Char) : s.Adds (s.scanStatement line) := by
  unfold Scanner.scanStatement
  dsimp only
  split
  · exact .same rfl
  split
  · exact Adds.release s
  split
  · exact (Adds.release s).trans (.layOut _ _)
  · exact ((Adds.release s).trans (.layOut _ _)).trans (.scanRest _ _ _)

theorem Adds.scanString (s : Scanner) (o : OpenString) (line : List Char) : s.Adds (s.scanString o line) := by
  unfold Scanner.scanString
  split
  · exact (Grows.overtake s (by simp) _).adds.trans (Adds.scanRest { s.overtake _ _ with inString := none } _ _)
  split
  · exact .same rfl
  · exact (Grows.overtake s (by simp) _).adds

theorem Adds.scanLine (s : Scanner) (line : List Char) : s.Adds (s.scanLine line) := by
  unfold Scanner.scanLine
  dsimp only
  split
  · exact .same rfl
  split
  · exact Adds.scanString { s with line := s.line + 1 } _ _
  split
  · exact Adds.scanStatement { s with line := s.line + 1 } _
  · exact Adds.scanRest { s with line := s.line + 1, continued := false } _ _

theorem Adds.run (L : List (List Char)) : Adds {} (Scanner.run L) := by
  have hfold : ∀ (L : List (List Char)) (s : Scanner), s.Adds (L.foldl Scanner.scanLine s) := by
    intro L
    induction L with
    | nil => exact fun s => .same rfl
    | cons l L ih => exact fun s => (Adds.scanLine s l).trans (ih _)
  exact hfold L {}

theorem fault_of_scanLine (hf : (s.scanLine l).fault = none) : s.fault = none := by
  by_contra hne
  rw [scanLine, if_pos (Option.isSome_iff_ne_none.2 hne)] at hf
  exact hne hf

theorem run_append (L L' : List (List Char)) : run (L ++ L') = L'.foldl scanLine (run L) := by
  simp [run]

theorem run_concat (L : List (List Char)) (l : List Char) : run (L ++ [l]) = (run L).scanLine l :=
  run_append L [l]

theorem lined_run (hL : ∀ l ∈ L, IsLine l) (hf : (run L).fault = none)
    (hstray : ∀ t ∈ (run L).tokens, t.kind ≠ .stray) : (run L).Lined L := by
  induction L using List.reverseRecOn with
  | nil => exact lined_start
  | append_singleton L l ih =>
    rw [run_concat] at hf hstray ⊢
    have hlined := ih (fun l' hl' => hL l' (by simp [hl'])) (fault_of_scanLine hf) fun t ht =>
      hstray t ((Adds.scanLine _ l).suffix.subset ht)
    exact hlined.scanLine (hL l (by simp)) hf hstray

/-! ### The end of the text -/

/-- The last tokens close the open blocks and end the text. -/
theorem closeAll_tokens (hf : s.fault = none) : s.closeAll.fault = none ∧
    ∃ last dedents, s.closeAll.tokens = last :: (dedents ++ s.tokens) ∧ last.kind = .endMarker ∧
      ∀ t ∈ dedents, t.kind = .dedent := by
  obtain ⟨hlaid, dedents, ht, hk⟩ := dedent_laid hf 0 (s.indents.drop 1)
  have hlast := emit_tokens hlaid.fault .endMarker [] 0
  rw [ht] at hlast
  exact ⟨(Laid.emit hlaid.fault _ _ _).fault, _, dedents, hlast, rfl, hk⟩

theorem Exact.closeAll (h : s.Exact x) (hf : s.fault = none) (hheld : s.held = none) (hin : s.inString = none) :
    s.closeAll.tokens.reverse.flatMap Token.source = x := by
  have hlaid := (dedent_laid hf 0 (s.indents.drop 1)).1
  have hemit := (h.dedent hf hheld hin 0 (s.indents.drop 1)).emit hlaid.fault (hlaid.held.trans hheld)
    (hlaid.inString.trans hin) .endMarker [] 0
  have hclosed : s.Laid s.closeAll := hlaid.trans (.emit hlaid.fault _ _ _)
  have htext := hemit.text
  rw [List.append_nil, ← Scanner.closeAll] at htext
  have hgap : s.closeAll.gap = [] := by simp [Scanner.closeAll, Scanner.emit]
  simpa [Scanner.text, heldText, openText, hgap, hclosed.held, hheld, hclosed.inString, hin] using htext

/-- A text that can end here: outside strings, and not inside a statement unless blanks end the text. -/
theorem finish_eq {unended : Bool} (hf : (s.finish unended).fault = none) :
    s.fault = none ∧ s.inString = none ∧ (s.ended = false → s.midway = false) ∧ s.releaseName.fault = none ∧
      ∃ n, s.finish unended = (if unended && !s.ended then { s.releaseName with line := n }.skip ['\n']
        else { s.releaseName with line := n }).closeAll := by
  unfold finish at hf ⊢
  dsimp only at hf ⊢
  split at hf
  · rename_i hsome
    exact absurd hf (Option.isSome_iff_ne_none.1 hsome)
  rename_i hs
  rw [if_neg hs]
  split at hf
  · simp at hf
  rename_i hin
  split at hf
  · simp at hf
  rename_i hmid
  rw [if_neg hmid]
  split at hf
  · rename_i hsome
    exact absurd hf (Option.isSome_iff_ne_none.1 hsome)
  rename_i hr
  rw [if_neg hr]
  have hended : s.releaseName.ended = s.ended := (Grows.release (p := fun _ => True) s trivial).ended
  refine ⟨by simpa using hs, hin, fun he => ?_, by simpa using hr, _, by rw [hended]⟩
  simpa [midway, hin, he] using hmid

theorem finish_tokens {unended : Bool} (hf : (s.finish unended).fault = none) :
    ∃ marker dedents, (s.finish unended).tokens = marker :: (dedents ++ s.releaseName.tokens) ∧
      marker.kind = .endMarker ∧ ∀ t ∈ dedents, t.kind = .dedent := by
  obtain ⟨-, -, -, hr, n, heq⟩ := finish_eq hf
  rw [heq]
  split
  · exact (closeAll_tokens (s := { s.releaseName with line := n }.skip ['\n']) hr).2
  · exact (closeAll_tokens (s := { s.releaseName with line := n }) hr).2

theorem finish_suffix {unended : Bool} (hf : (s.finish unended).fault = none) :
    s.releaseName.tokens <:+ (s.finish unended).tokens := by
  obtain ⟨marker, dedents, heq, -⟩ := finish_tokens hf
  exact ⟨marker :: dedents, by rw [heq, List.cons_append]⟩

/-- Only a text that is scanned to its end has a token for it. -/
theorem fault_of_finish {unended : Bool} (hs : ∀ t ∈ s.tokens, t.kind ≠ .endMarker)
    (h : ∃ t ∈ (s.finish unended).tokens, t.kind = .endMarker) : (s.finish unended).fault = none := by
  obtain ⟨t, ht, hk⟩ := h
  have hrelease : ∀ t ∈ s.releaseName.tokens, t.kind ≠ .endMarker := by
    obtain ⟨added, heq, hadded⟩ := Adds.release s
    intro t ht
    rw [heq] at ht
    exact (List.mem_append.1 ht).elim (hadded t) (hs t)
  unfold finish at ht ⊢
  dsimp only at ht ⊢
  split at ht
  · exact absurd hk (hs t ht)
  rename_i hf
  rw [if_neg hf]
  split at ht
  · exact absurd hk (hs t ht)
  split at ht
  · exact absurd hk (hs t ht)
  rename_i hmid
  rw [if_neg hmid]
  split at ht
  · exact absurd hk (hrelease t ht)
  rename_i hr
  rw [if_neg hr]
  have hr' : s.releaseName.fault = none := by simpa using hr
  split <;> exact (closeAll_tokens (by exact hr')).1

/-- Only the last token ends the text. -/
theorem finish_unended {unended : Bool} (hf : (s.finish unended).fault = none)
    (hs : ∀ t ∈ s.tokens, t.kind ≠ .endMarker) :
    ∃ marker rest, (s.finish unended).tokens = marker :: rest ∧ ∀ t ∈ rest, t.kind ≠ .endMarker := by
  obtain ⟨marker, dedents, htokens, -, hk⟩ := finish_tokens hf
  obtain ⟨added, hrel, hadded⟩ := Adds.release s
  refine ⟨marker, dedents ++ s.releaseName.tokens, htokens, fun t ht => ?_⟩
  rw [hrel] at ht
  rcases List.mem_append.1 ht with ht | ht
  · simp [hk t ht]
  · exact (List.mem_append.1 ht).elim (hadded t) (hs t)

/-- A statement has ended in front of the last tokens. -/
theorem finish_head {unended : Bool} (hf : (s.finish unended).fault = none)
    (hrests : Rests (s.finish unended).tokens.reverse) :
    ∀ u ∈ s.releaseName.tokens.head?, u.kind = .newline ∨ u.kind = .dedent := by
  obtain ⟨marker, dedents, htokens, hmarker, hk⟩ := finish_tokens hf
  rw [htokens] at hrests
  exact hrests.head hmarker hk

/-! ### What a line adds -/

/-- The number of tokens, with the word held back. -/
def size (s : Scanner) : Nat :=
  s.tokens.length + s.held.toList.length

theorem release_size {kind : Kind} (hf : (s.release kind).fault = none) :
    (s.release kind).size = s.size ∧ (s.release kind).held = none := by
  rcases release_cases hf with ⟨hheld, heq⟩ | ⟨w, hheld, -, heq⟩
  · rw [heq]
    exact ⟨rfl, hheld⟩
  · rw [heq]
    simp [size, hheld]

theorem emit_size (hf : s.fault = none) (kind : Kind) (t : List Char) (column : Nat) :
    (s.emit kind t column).size = s.size + 1 := by
  have hheld : (s.emit kind t column).held = s.held := by simp [emit]
  rw [size, size, emit_tokens hf, hheld, List.length_cons]
  omega

theorem overtake_size (hf : s.fault = none) (t : Token) (endColumn : Nat) :
    (s.overtake t endColumn).size = s.size + 1 := by
  have htokens := overtake_tokens hf t endColumn
  have hheld : (s.overtake t endColumn).held = s.held := by
    unfold overtake
    split <;> simp
  rw [size, size, htokens, hheld, List.length_cons]
  omega

theorem release_emit_size {kind kind' : Kind} {t : List Char} {column : Nat}
    (hf : ((s.release kind).emit kind' t column).fault = none) :
    ((s.release kind).emit kind' t column).size = s.size + 1 := by
  have hr := fault_of_emit hf
  rw [emit_size hr, (release_size hr).1]

theorem emitWord_size {t : List Char} {column : Nat} (hf : (s.emitWord t column).fault = none) :
    (s.emitWord t column).size = s.size + 1 := by
  have hs := fault_of_emitWord hf
  unfold emitWord at hf ⊢
  dsimp only at hf ⊢
  split at hf
  · rw [if_pos ‹_›, emit_size hs]
  rw [if_neg ‹_›]
  split at hf
  · rw [if_pos ‹_›, emit_size hs]
  rw [if_neg ‹_›]
  split at hf
  · rename_i hhold
    rw [if_pos hhold]
    simp only [Bool.and_eq_true, Option.isNone_iff_eq_none] at hhold
    simp [size, hhold.2]
  rw [if_neg ‹_›]
  split at hf
  · rw [if_pos ‹_›]
    have hr := fault_of_emit hf
    rw [emit_size hr]
    exact congrArg (· + 1) (release_size hr).1
  rw [if_neg ‹_›]
  split at hf
  · rw [if_pos ‹_›, release_emit_size hf]
  · rw [if_neg ‹_›]
    exact release_emit_size hf

theorem take_size {column : Nat} {t : List Char} {piece : PieceKind} (hf : (s.take column t piece).fault = none) :
    s.size + piece.emits.toNat ≤ (s.take column t piece).size := by
  have hs := fault_of_take hf
  cases piece with
  | comment => exact (release_size hf).1.ge
  | continuation => exact (release_size hf).1.ge
  | string => exact (release_emit_size hf).ge
  | number => exact (overtake_size hs _ _).ge
  | lineEnd =>
    simp only [take, emitLineEnd] at hf ⊢
    split at hf
    · rw [if_pos ‹_›]
      exact (release_size hf).1.ge
    · rw [if_neg ‹_›]
      refine le_of_le_of_eq ?_ (release_emit_size hf).symm
      exact Nat.le_succ _
  | operator => exact (release_emit_size hf).ge
  | word => exact (emitWord_size hf).ge
  | opened q triple => exact Nat.le_refl _
  | stray => exact (overtake_size hs _ _).ge

theorem scanRest_size {column : Nat} {line : List Char} (hf : (s.scanRest column line).fault = none) :
    s.size ≤ (s.scanRest column line).size := by
  fun_induction Scanner.scanRest s column line with
  | case1 => exact Nat.le_refl _
  | case2 s column c cs next start =>
    rename_i ih
    have hf' := fault_of_scanRest hf
    have hskip : (s.skip next.blanks).size = s.size := rfl
    have htake := take_size hf'
    have := ih hf
    omega

/-- A piece that makes no token and leaves no string open, on a line without line feed, is a comment. -/
theorem cutPiece_comment_of_size {column : Nat} (hn : '\n' ∉ c :: cs)
    (hf : (s.scanRest column (c :: cs)).fault = none) (hin : (s.scanRest column (c :: cs)).inString = none)
    (hsize : (s.scanRest column (c :: cs)).size = s.size) :
    ∃ r, (c :: cs).dropWhile isSpacing = '#' :: r ∧
      cutPiece c cs = ⟨.comment, (c :: cs).takeWhile isSpacing,
        ('#' :: r).takeWhile fun d => d != '\r' && d != '\n', ('#' :: r).dropWhile fun d => d != '\r' && d != '\n'⟩ := by
  rw [Scanner.scanRest] at hf hin hsize
  set next := cutPiece c cs with hnext
  have hf' := fault_of_scanRest hf
  have htake := take_size hf'
  have hrest := scanRest_size hf
  have hskip : (s.skip next.blanks).size = s.size := rfl
  have hquiet : next.kind.emits = false := by
    cases he : next.kind.emits with
    | false => rfl
    | true =>
      rw [he] at htake
      simp only [Bool.toNat_true] at htake
      omega
  have hcomment : next.kind = .comment := by
    cases hk : next.kind with
    | comment => rfl
    | continuation => exact absurd (cutPiece_lineEnd (.inr hk)) hn
    | lineEnd => exact absurd (cutPiece_lineEnd (.inl hk)) hn
    | opened q triple =>
      have hnil := (cutPiece_quote c cs q (by rw [← hnext, hk]; rfl)).2
      rw [← hnext] at hnil
      rw [hnil, hk, Scanner.scanRest] at hin
      simp [take] at hin
    | _ => simp [hk, PieceKind.emits] at hquiet
  rcases cutPiece_cases c cs with ⟨-, heq⟩ | ⟨kind, n, hsome, heq⟩
  · rw [hnext, heq] at hcomment
    simp at hcomment
  · rw [hnext, heq] at hcomment
    simp only at hcomment
    subst hcomment
    obtain ⟨hhead, hlen⟩ := (pieceAt_silent hsome).2 rfl
    obtain ⟨r, hr⟩ := List.head?_eq_some_iff.1 hhead
    refine ⟨r, hr, ?_⟩
    rw [hnext, heq, hlen, hr, drop_length_takeWhile, ← List.prefix_iff_eq_take.1 (List.takeWhile_prefix _)]

theorem take_comment (hheld : s.held = none) (blanks comment : List Char) (column : Nat) :
    (s.skip blanks).take column comment .comment = { s with gap := s.gap ++ blanks ++ comment } := by
  rw [take, releaseName_of_held (s := s.skip blanks) hheld]
  rfl

/-- A line without line feed that makes no token and leaves no string open is a comment after blanks. -/
theorem scanRest_comment_of_size {column : Nat} (hne : t ≠ []) (hn : '\n' ∉ t) (hheld : s.held = none)
    (hf : (s.scanRest column t).fault = none) (hin : (s.scanRest column t).inString = none)
    (hsize : (s.scanRest column t).size = s.size) :
    (∃ blanks r, t = blanks ++ '#' :: r ∧ blanks.all isSpacing = true ∧ '\r' ∉ r) ∧
      s.scanRest column t = { s with gap := s.gap ++ t } := by
  obtain ⟨c, cs, rfl⟩ := List.exists_cons_of_ne_nil hne
  obtain ⟨r, hr, hcut⟩ := cutPiece_comment_of_size hn hf hin hsize
  have hline : c :: cs = (c :: cs).takeWhile isSpacing ++ '#' :: r := by
    rw [← hr, List.takeWhile_append_dropWhile]
  rw [Scanner.scanRest, hcut] at hf hin hsize ⊢
  simp only [take_comment hheld] at hf hin hsize ⊢
  -- after the comment only a carriage return could follow, and that would be stray text
  have hrest : ('#' :: r).dropWhile (fun d => d != '\r' && d != '\n') = [] := by
    by_contra hne
    obtain ⟨d, ds, hd⟩ := List.exists_cons_of_ne_nil hne
    have hdn : '\n' ∉ d :: ds := by
      rw [← hd]
      intro hmem
      rw [hline] at hn
      exact hn (List.mem_append_right _ (List.dropWhile_subset _ hmem))
    rw [hd] at hf hin hsize
    obtain ⟨r', hr', -⟩ := cutPiece_comment_of_size hdn hf hin hsize
    have hstop : (d != '\r' && d != '\n') = false := by
      have := List.head?_dropWhile_not (fun d => d != '\r' && d != '\n') ('#' :: r)
      rw [hd] at this
      simpa using this
    have hdr : d = '\r' := by
      by_contra hne'
      simp only [List.mem_cons, not_or] at hdn
      simp [hne', Ne.symm hdn.1] at hstop
    subst hdr
    simp [isSpacing] at hr'
  have hall : ('#' :: r).takeWhile (fun d => d != '\r' && d != '\n') = '#' :: r := by
    have := List.takeWhile_append_dropWhile (p := fun d => d != '\r' && d != '\n') (l := '#' :: r)
    rwa [hrest, List.append_nil] at this
  refine ⟨⟨_, r, hline, List.all_takeWhile, fun hmem => ?_⟩, ?_⟩
  · have := List.mem_takeWhile_imp (hall ▸ List.mem_cons_of_mem '#' hmem)
    simp at this
  · rw [hrest, Scanner.scanRest, hall, List.append_assoc, ← hline]

theorem cutPiece_comment {blanks r : List Char} (hb : blanks.all isSpacing = true) (hr : '\r' ∉ r) (hn : '\n' ∉ r)
    (hline : c :: cs = blanks ++ '#' :: r ++ ['\n']) : cutPiece c cs = ⟨.comment, blanks, '#' :: r, ['\n']⟩ := by
  have hb' : ∀ d ∈ blanks, isSpacing d = true := by simpa using hb
  have hstop : ∀ d ∈ '#' :: r, (d != '\r' && d != '\n') = true := by
    intro d hd
    rcases List.mem_cons.1 hd with rfl | hd
    · rfl
    · simp only [Bool.and_eq_true, bne_iff_ne, ne_eq]
      exact ⟨fun h => hr (h ▸ hd), fun h => hn (h ▸ hd)⟩
  have htake : (c :: cs).takeWhile isSpacing = blanks := by
    rw [hline, List.append_assoc, List.takeWhile_append_of_pos hb']
    simp [isSpacing]
  have hdrop : (c :: cs).dropWhile isSpacing = ('#' :: r) ++ ['\n'] := by
    rw [hline, List.append_assoc, List.dropWhile_append_of_pos hb']
    simp [isSpacing]
  have hpiece : pieceAt? (('#' :: r) ++ ['\n']) = some (.comment, r.length + 1) := by
    have htw : (('#' :: r) ++ ['\n']).takeWhile (fun d => d != '\r' && d != '\n') = '#' :: r := by
      rw [List.takeWhile_append_of_pos hstop]
      simp
    have hlex : lexeme? (('#' :: r) ++ ['\n']) = some (.comment, r.length + 1) := by
      rw [List.cons_append] at htw ⊢
      simp only [lexeme?, htw]
      rfl
    simp only [pieceAt?, hlex]
  rcases cutPiece_cases c cs with ⟨hnone, -⟩ | ⟨kind, n, hsome, heq⟩
  · rw [hdrop, hpiece] at hnone
    simp at hnone
  · rw [hdrop, hpiece] at hsome
    cases hsome
    have hlen : ('#' :: r).length = r.length + 1 := rfl
    rw [heq, htake, hdrop, List.take_left' hlen, List.drop_left' hlen]

theorem emitLineEnd_ends (hf : s.fault = none) (hheld : s.held = none) (hdepth : s.depth = 0) (t : List Char)
    (column : Nat) : (s.emitLineEnd t column).tokens = ⟨.newline, s.gap, t, s.line, column⟩ :: s.tokens ∧
      (s.emitLineEnd t column).fault = none ∧ (s.emitLineEnd t column).midway = s.midway := by
  set s₁ : Scanner := { s with asyncBlock := s.asyncBlock.map fun b => { b with opened := true } } with hs₁
  have heq : s.emitLineEnd t column = s₁.emit .newline t column := by
    rw [emitLineEnd, if_neg (by simp [hdepth])]
    exact congrArg (Scanner.emit · _ _ _) (releaseName_of_held (s := s₁) hheld)
  rw [heq]
  exact ⟨emit_tokens (s := s₁) hf _ _ _, by simp [emit, hs₁, hf], by simp [emit, hs₁, midway]⟩

theorem scanRest_newline (s : Scanner) (column : Nat) : s.scanRest column ['\n'] = s.emitLineEnd ['\n'] column := by
  have hskip : s.skip [] = s := by simp [skip]
  rw [Scanner.scanRest, show cutPiece '\n' [] = ⟨.lineEnd, [], ['\n'], []⟩ from rfl, Scanner.scanRest, hskip]
  rfl

/-- A comment after a continuation ends its statement. -/
theorem scanRest_comment {blanks r : List Char} (hb : blanks.all isSpacing = true) (hr : '\r' ∉ r)
    (hn : '\n' ∉ r) (hf : s.fault = none) (hheld : s.held = none) (hm : s.midway = false) {s' : Scanner} {column : Nat}
    (hs' : s' = s.scanRest column (blanks ++ '#' :: r ++ ['\n'])) :
    s'.fault = none ∧ s'.midway = false ∧ ∃ u, u.kind = .newline ∧ s'.tokens = u :: s.tokens := by
  obtain ⟨c, cs, hline⟩ := List.exists_cons_of_ne_nil (l := blanks ++ '#' :: r ++ ['\n']) (by simp)
  rw [hline, Scanner.scanRest, cutPiece_comment hb hr hn hline.symm] at hs'
  simp only [take_comment hheld, scanRest_newline] at hs'
  obtain ⟨htokens, hf', hm'⟩ := emitLineEnd_ends (s := { s with gap := s.gap ++ blanks ++ '#' :: r }) hf hheld
    (midway_eq_false hm).2.1 ['\n'] (column + blanks.length + ('#' :: r).length)
  rw [hs']
  exact ⟨hf', hm'.trans hm, _, rfl, htokens⟩

/-! ### A last line without line feed -/

/-- Nothing is added after the end of a statement. -/
theorem Grows.tokens_eq (h : Grows (·.isInline = true) s s')
    (hhead : ∀ u ∈ s'.tokens.head?, u.kind = .newline ∨ u.kind = .dedent) : s'.tokens = s.tokens := by
  obtain ⟨added, heq, hk⟩ := h.tokens
  cases added with
  | nil => exact heq
  | cons u us =>
    have hu := hk u (by simp)
    rcases hhead u (by simp [heq]) with h | h <;> simp [h, Kind.isInline] at hu

/-- A line without line feed behind which a statement has ended makes no token. -/
theorem scanRest_size_eq {column : Nat} (hn : '\n' ∉ t) (hf : (s.scanRest column t).releaseName.fault = none)
    (hhead : ∀ u ∈ (s.scanRest column t).releaseName.tokens.head?, u.kind = .newline ∨ u.kind = .dedent) :
    s.held = none ∧ (s.scanRest column t).size = s.size := by
  have hgrows : Grows (·.isInline = true) s (s.scanRest column t) :=
    .scanRest (fun _ => id) _ _ _ fun hmem => absurd hmem hn
  have hrel : Grows (·.isInline = true) (s.scanRest column t) (s.scanRest column t).releaseName := .release _ rfl
  have htokens := (hgrows.trans hrel).tokens_eq hhead
  obtain ⟨hsize, hheld⟩ : (s.scanRest column t).releaseName.size = (s.scanRest column t).size ∧
    (s.scanRest column t).releaseName.held = none := release_size hf
  -- a word held back before the line would be a token now
  have hle := scanRest_size (hrel.fault hf)
  rw [size, htokens, hheld] at hsize
  simp only [Option.toList_none, List.length_nil, Nat.add_zero] at hsize
  cases hs : s.held with
  | none =>
    have : s.size = s.tokens.length := by simp [size, hs]
    exact ⟨rfl, by omega⟩
  | some w =>
    have : s.size = s.tokens.length + 1 := by simp [size, hs]
    omega

/-- A line that goes on after a continuation or inside brackets is a comment. -/
theorem Lined.last_continued (h : s.Lined L) (hne : t ≠ []) (hn : '\n' ∉ t)
    {s₀ s₁ : Scanner} (hs₀ : s₀ = { s with line := s.line + 1, continued := false }) (hs₁ : s₁ = s₀.scanRest 0 t)
    (hf : s₁.releaseName.fault = none) (hm : s₁.midway = false)
    (hhead : ∀ u ∈ s₁.releaseName.tokens.head?, u.kind = .newline ∨ u.kind = .dedent) :
    s.held = none ∧ s₁ = { s₀ with gap := s.gap ++ t } ∧ t.all isSpacing = false ∧
      ∃ s', s' = s₀.scanRest 0 (t ++ ['\n']) ∧ s'.fault = none ∧ s'.midway = false ∧
        ∃ u, u.kind = .newline ∧ s'.tokens = u :: s.tokens := by
  subst hs₁
  have hf₁ := fault_of_release hf
  obtain ⟨hheld, hsize⟩ := scanRest_size_eq hn hf hhead
  obtain ⟨⟨blanks, r, rfl, hb, hr⟩, heq⟩ := scanRest_comment_of_size hne hn hheld hf₁ (midway_eq_false hm).1 hsize
  have hn' : '\n' ∉ r := fun hmem => hn (List.mem_append_right _ (List.mem_cons_of_mem _ hmem))
  have hm₀ : s₀.midway = false := by
    rw [heq] at hm
    exact hm
  have hf₀ : s₀.fault = none := by rw [hs₀]; exact h.fault
  have hcomment := scanRest_comment hb hr hn' hf₀ hheld hm₀
    (rfl : _ = s₀.scanRest 0 (blanks ++ '#' :: r ++ ['\n']))
  rw [hs₀] at hheld heq ⊢
  rw [hs₀] at hcomment
  exact ⟨hheld, heq, by simp [isSpacing], _, rfl, hcomment⟩

/-- A string cannot end on such a line: a token would follow the end of the statement. -/
theorem Lined.last_string (h : s.Lined L) (hn : '\n' ∉ t) {o : OpenString} {s₁ : Scanner}
    (hs₁ : s₁ = { s with line := s.line + 1 }.scanString o t) (hin : s₁.inString = none)
    (hstray : ∀ u ∈ s₁.tokens, u.kind ≠ .stray)
    (hhead : ∀ u ∈ s₁.releaseName.tokens.head?, u.kind = .newline ∨ u.kind = .dedent) : False := by
  set s₀ : Scanner := { s with line := s.line + 1 } with hs₀
  have hf₀ : s₀.fault = none := h.fault
  unfold scanString at hs₁
  split at hs₁
  · rename_i n hclose
    set u : Token := ⟨.string, o.before, o.text ++ t.take n, o.line, o.column⟩
    have hrest : Grows (·.isInline = true) { s₀.overtake u n with inString := none } s₁ := by
      rw [hs₁]
      exact .scanRest (fun _ => id) _ _ _ fun hmem => absurd (List.mem_of_mem_drop hmem) hn
    have hover : Grows (·.isInline = true) (s₀.overtake u n) s₁.releaseName :=
      (hrest.trans (.release s₁ rfl)).of_same ⟨rfl, rfl, rfl, rfl, rfl⟩
    have htokens := ((Grows.overtake s₀ (t := u) (by rfl) n).trans hover).tokens_eq hhead
    have hcons := overtake_tokens hf₀ u n
    have hlen := hover.suffix.length_le
    rw [htokens, hcons, List.length_cons] at hlen
    omega
  split at hs₁
  · rw [hs₁] at hin
    simp at hin
  · have htokens := overtake_tokens hf₀ ⟨.stray, o.before, o.text ++ t, o.line, o.column⟩ t.length
    rw [hs₁] at hstray
    exact hstray ⟨.stray, s₀.heldText ++ o.before, o.text ++ t, o.line, o.column⟩ (by simp [htokens]) rfl

/-- A line that may start a statement: it is blank, or a comment. -/
theorem Lined.last_statement (h : s.Lined L) (hm : s.midway = false) (hn : '\n' ∉ t) {s₀ s₁ : Scanner}
    (hs₀ : s₀ = { s with line := s.line + 1 }) (hs₁ : s₁ = s₀.scanStatement t)
    (hf : s₁.releaseName.fault = none) (hin : s₁.inString = none)
    (hhead : ∀ u ∈ s₁.releaseName.tokens.head?, u.kind = .newline ∨ u.kind = .dedent) :
    (t.all isSpacing = true ∧ s₁ = { s₀ with ended := true }) ∨
      (IsIdle (t ++ ['\n']) ∧ t.all isSpacing = false ∧ s₁ = { s₀ with gap := s.gap ++ t }) := by
  have hheld : s₀.held = none := by rw [hs₀]; exact (h.settled hm).1
  have hrel := releaseName_of_held hheld
  unfold scanStatement at hs₁
  dsimp only at hs₁
  split at hs₁
  · rename_i hd
    exact .inl ⟨by simpa using hd, hs₁⟩
  rename_i c cs hd
  have hblank : t.all isSpacing = false := by
    by_contra hall
    rw [Bool.not_eq_false, List.all_eq_true, ← List.dropWhile_eq_nil_iff, hd] at hall
    simp at hall
  rw [hrel] at hs₁
  split at hs₁
  · rename_i hc
    refine .inr ⟨⟨⟨t, rfl, hn⟩, ?_⟩, hblank, by rw [hs₁, hs₀]; rfl⟩
    have hidle : (t ++ ['\n']).dropWhile isSpacing = (c :: cs) ++ ['\n'] := by
      rw [List.dropWhile_append, hd]
      rfl
    simpa [opensIdle, hidle] using hc
  rename_i hc
  -- the first piece of the statement would be a token
  exfalso
  split at hs₁
  · rename_i hsome
    rw [hs₁] at hf
    simp [fault_of_release hf] at hsome
  have hn' : '\n' ∉ c :: cs := fun hmem => hn (List.dropWhile_subset _ (hd ▸ hmem))
  rw [hs₁] at hf hhead hin
  obtain ⟨-, hsize⟩ := scanRest_size_eq hn' hf hhead
  have hf₁ := fault_of_release hf
  obtain ⟨r, hr, -⟩ := cutPiece_comment_of_size hn' hf₁ hin hsize
  have hspace : isSpacing c = false := by
    have := List.head?_dropWhile_not isSpacing t
    rw [hd] at this
    simpa using this
  rw [List.dropWhile_cons, if_neg (by simp [hspace])] at hr
  simp [(List.cons.inj hr).1] at hc

/-- Between statements complete lines can end the text. -/
theorem Lined.finish_eq_closeAll (h : s.Lined L) (hm : s.midway = false) :
    ∃ n, s.finish false = { s with line := n }.closeAll := by
  obtain ⟨hin, hdepth, hcont⟩ := midway_eq_false hm
  refine ⟨s.line + 1, ?_⟩
  unfold finish
  rw [if_neg (by simp [h.fault])]
  simp only [hin, hdepth, hcont, h.ended, releaseName_of_held (h.settled hm).1, h.fault]
  rfl

end Scanner

/-! ### Whole texts -/

/-- A line with its line feed; a last line of blanks only is dropped. -/
def completeLine (l : List Char) : List Char :=
  if l.getLast? = some '\n' then l else if l.all isSpacing then [] else l ++ ['\n']

/-- A text whose last line is complete. -/
def completed (source : List Char) : List Char :=
  (physicalLines source).flatMap completeLine

theorem completed_lines (hL : ∀ l ∈ L, IsLine l) (hn : '\n' ∉ t) :
    completed (L.flatten ++ t) = L.flatten ++ if t.all isSpacing then [] else t ++ ['\n'] := by
  have hmap : L.flatMap completeLine = L.flatten := by
    rw [← List.flatMap_id']
    refine List.flatMap_congr fun l hl => ?_
    obtain ⟨u, rfl, -⟩ := hL l hl
    simp [completeLine]
  rw [completed, physicalLines_lines hL hn, List.flatMap_append, hmap]
  cases t with
  | nil => rfl
  | cons c cs =>
    have hlast : (c :: cs).getLast? ≠ some '\n' := fun h => hn (List.mem_of_getLast? h)
    simp [completeLine, hlast]

open Scanner

theorem scan_lines (hL : ∀ l ∈ L, IsLine l) (hn : '\n' ∉ t) (hne : t ≠ []) :
    scan (L.flatten ++ t) = ⟨(((run L).scanLine t).finish true).tokens.reverse,
      (((run L).scanLine t).finish true).fault⟩ := by
  have hlast : (L.flatten ++ t).getLast?.any (· != '\n') = true := by
    rw [List.getLast?_append_of_ne_nil _ hne, List.getLast?_eq_some_getLast hne]
    have : t.getLast hne ≠ '\n' := fun h => hn (h ▸ List.getLast_mem hne)
    simpa using this
  rw [scan, physicalLines_lines hL hn, if_neg (by simpa using hne), hlast, run_concat]

theorem scan_flatten (hL : ∀ l ∈ L, IsLine l) :
    scan L.flatten = ⟨((run L).finish false).tokens.reverse, ((run L).finish false).fault⟩ := by
  have hlast : L.flatten.getLast?.any (· != '\n') = false := by
    induction L using List.reverseRecOn with
    | nil => rfl
    | append_singleton L l _ =>
      obtain ⟨u, rfl, -⟩ := hL l (by simp)
      simp
  rw [scan, physicalLines_flatten hL, hlast]

theorem run_unended (L : List (List Char)) : ∀ t ∈ (run L).tokens, t.kind ≠ .endMarker := by
  obtain ⟨added, heq, hk⟩ := Adds.run L
  intro t ht
  rw [heq] at ht
  exact hk t (by simpa using ht)

theorem scan_fault {source : List Char} (h : ∃ t ∈ (scan source).tokens, t.kind = .endMarker) :
    (scan source).fault = none := by
  obtain ⟨t, ht, hk⟩ := h
  exact fault_of_finish (run_unended _) ⟨t, List.mem_reverse.1 ht, hk⟩

theorem scan_unended {source : List Char} (hf : (scan source).fault = none) :
    ∃ rest marker, (scan source).tokens = rest ++ [marker] ∧ ∀ t ∈ rest, t.kind ≠ .endMarker := by
  obtain ⟨marker, rest, heq, hk⟩ := finish_unended hf (run_unended _)
  exact ⟨rest.reverse, marker, by rw [scan, heq, List.reverse_cons], by simpa using hk⟩

/-- How the tokens of a text end, and the complete lines `M` that the text stands for: `front` and `last`
are its tokens, `front` and `more` those of the lines. -/
structure Completes (source : List Char) (M : List (List Char)) (front last more : List Token) : Prop where
  lines : ∀ l ∈ M, IsLine l
  text : completed source = M.flatten
  lined : (run M).Lined M
  settled : (run M).midway = false
  tokens : (scan source).tokens = front ++ last
  source : (scan source).tokens.flatMap Token.source = M.flatten
  last : ∃ dedents marker, last = dedents ++ [marker] ∧ marker.kind = .endMarker ∧
    ∀ u ∈ dedents, u.kind = .dedent
  front : (run M).tokens.reverse = front ++ more
  more : ∀ u ∈ more, u.kind = .newline

/-- The scanner before the last tokens of a text. -/
theorem Completes.of_closeAll {source : List Char} {s : Scanner} {M : List (List Char)} (more : List Token)
    (hM : ∀ l ∈ M, IsLine l) (htext : completed source = M.flatten) (hlined : (run M).Lined M)
    (hm : (run M).midway = false) (hscan : (scan source).tokens = s.closeAll.tokens.reverse) (hf : s.fault = none)
    (hheld : s.held = none) (hin : s.inString = none) (hexact : s.Exact M.flatten)
    (hmore : (run M).tokens = more ++ s.tokens) (hk : ∀ u ∈ more, u.kind = .newline) :
    ∃ front last more, Completes source M front last more := by
  obtain ⟨-, marker, dedents, htokens, hmarker, hdedents⟩ := closeAll_tokens hf
  refine ⟨s.tokens.reverse, dedents.reverse ++ [marker], more.reverse, hM, htext, hlined, hm, ?_, ?_,
    ⟨dedents.reverse, marker, rfl, hmarker, by simpa using hdedents⟩, by simp [hmore], by simpa using hk⟩
  · rw [hscan, htokens]
    simp
  · rw [hscan, hexact.closeAll hf hheld hin]

theorem Completes.of_blank (hL : ∀ l ∈ L, IsLine l) (hn : '\n' ∉ t) (hne : t ≠ []) (h : (run L).Lined L)
    (hm : (run L).midway = false) (hblank : t.all isSpacing = true) {k : Nat} (hs₁ : (run L).scanLine t =
      { run L with line := k, ended := true }) (hfin : (((run L).scanLine t).finish true).fault = none) :
    ∃ front last more, Completes (L.flatten ++ t) L front last more := by
  have hheld := (h.settled hm).1
  obtain ⟨-, -, -, -, n, heq⟩ := finish_eq hfin
  have hended : ((run L).scanLine t).ended = true := by rw [hs₁]
  have hrel : ((run L).scanLine t).releaseName = (run L).scanLine t :=
    releaseName_of_held (by rw [hs₁]; exact hheld)
  rw [if_neg (by simp [hended]), hrel, hs₁] at heq
  refine Completes.of_closeAll (s := { run L with line := n, ended := true }) [] hL ?_ h hm ?_ h.fault
    hheld (midway_eq_false hm).1 ⟨h.exact.text, h.exact.calm, h.exact.single⟩ rfl (by simp)
  · rw [completed_lines hL hn, hblank]
    simp
  · rw [scan_lines hL hn hne, hs₁, heq]

theorem Completes.of_comment (hL : ∀ l ∈ L, IsLine l) (hn : '\n' ∉ t) (hne : t ≠ []) (h : (run L).Lined L)
    (hstray : ∀ u ∈ (run L).tokens, u.kind ≠ .stray) (hheld : (run L).held = none) (hin : (run L).inString = none)
    (hblank : t.all isSpacing = false) {k : Nat} (hs₁ : (run L).scanLine t =
      { run L with line := k, continued := false, gap := (run L).gap ++ t })
    (hfin : (((run L).scanLine t).finish true).fault = none)
    (hf : ((run L).scanLine (t ++ ['\n'])).fault = none) (hm : ((run L).scanLine (t ++ ['\n'])).midway = false)
    (more : List Token) (hmore : ((run L).scanLine (t ++ ['\n'])).tokens = more ++ (run L).tokens)
    (hk : ∀ u ∈ more, u.kind = .newline) :
    ∃ M front last more, Completes (L.flatten ++ t) M front last more := by
  have hM : ∀ l ∈ L ++ [t ++ ['\n']], IsLine l := by
    intro l hl
    rcases List.mem_append.1 hl with hl | hl
    · exact hL l hl
    · rw [List.mem_singleton.1 hl]
      exact ⟨t, rfl, hn⟩
  have hlined : (run (L ++ [t ++ ['\n']])).Lined (L ++ [t ++ ['\n']]) := by
    rw [run_concat]
    refine h.scanLine ⟨t, rfl, hn⟩ hf fun u hu => ?_
    rw [hmore] at hu
    rcases List.mem_append.1 hu with hu | hu
    · simp [hk u hu]
    · exact hstray u hu
  obtain ⟨-, -, -, -, n, heq⟩ := finish_eq hfin
  have hended : ((run L).scanLine t).ended = false := by rw [hs₁]; exact h.ended
  have hrel : ((run L).scanLine t).releaseName = (run L).scanLine t :=
    releaseName_of_held (by rw [hs₁]; exact hheld)
  rw [if_pos (by simp [hended]), hrel] at heq
  set s : Scanner := { (run L).scanLine t with line := n } with hs
  have hexact : (s.skip ['\n']).Exact (L ++ [t ++ ['\n']]).flatten := by
    have : s.Exact (L.flatten ++ t) := by
      have hskip := h.exact.skip t
      rw [hs, hs₁]
      exact ⟨hskip.text, hskip.calm, hskip.single⟩
    simpa using this.skip ['\n']
  refine ⟨L ++ [t ++ ['\n']], Completes.of_closeAll (s := s.skip ['\n']) more hM ?_ hlined ?_ ?_ ?_ ?_ ?_
    hexact ?_ hk⟩
  · rw [completed_lines hL hn, hblank]
    simp
  · rw [run_concat]
    exact hm
  · rw [scan_lines hL hn hne, heq]
  · rw [hs, hs₁]
    exact h.fault
  · rw [hs, hs₁]
    exact hheld
  · rw [hs, hs₁]
    exact hin
  · rw [run_concat, hmore, hs, hs₁]
    rfl

/-- A text whose blocks end after statements and that has no stray text stands for complete lines. -/
theorem scan_completed {source : List Char} (hf : (scan source).fault = none)
    (hstray : ∀ u ∈ (scan source).tokens, u.kind ≠ .stray) (hrests : Rests (scan source).tokens) :
    ∃ M front last more, Completes source M front last more := by
  obtain ⟨L, t, rfl, hL, hn⟩ := exists_lines source
  have htext := completed_lines hL hn
  by_cases hne : t = []
  · subst hne
    simp only [List.all_nil, ↓reduceIte, List.append_nil] at htext hf hstray ⊢
    rw [scan_flatten hL] at hf hstray
    obtain ⟨hf₀, hin, hmid, -, -⟩ := finish_eq hf
    have hsuffix := (Adds.release (run L)).suffix.trans (finish_suffix hf)
    have hlined := lined_run hL hf₀ fun u hu => hstray u (List.mem_reverse.2 (hsuffix.subset hu))
    have hm := hmid hlined.ended
    obtain ⟨n, heq⟩ := hlined.finish_eq_closeAll hm
    refine ⟨L, Completes.of_closeAll (s := { run L with line := n }) [] hL htext hlined hm ?_ hf₀
      (hlined.settled hm).1 hin ⟨hlined.exact.text, hlined.exact.calm, hlined.exact.single⟩ rfl (by simp)⟩
    rw [scan_flatten hL, heq]
  · rw [scan_lines hL hn hne] at hf hstray hrests
    obtain ⟨hf₁, hin₁, hmid, hr, n, heq⟩ := finish_eq hf
    have hhead := finish_head hf hrests
    have hsuffix := (Adds.release _).suffix.trans (finish_suffix hf)
    have hstray₁ : ∀ u ∈ ((run L).scanLine t).tokens, u.kind ≠ .stray := fun u hu =>
      hstray u (List.mem_reverse.2 (hsuffix.subset hu))
    have hstray₀ : ∀ u ∈ (run L).tokens, u.kind ≠ .stray := fun u hu =>
      hstray₁ u ((Adds.scanLine _ t).suffix.subset hu)
    have hlined := lined_run hL (fault_of_scanLine hf₁) hstray₀
    cases hin : (run L).inString with
    | some o =>
      exact (hlined.last_string hn (scanLine_string hlined.fault hin t) hin₁ hstray₁ hhead).elim
    | none =>
      cases hm : (run L).midway with
      | false =>
        have hstatement := scanLine_statement hlined.fault hm
        rcases hlined.last_statement hm hn rfl (hstatement t) hr hin₁ hhead with
          ⟨hblank, hs₁⟩ | ⟨hidle, hblank, hs₁⟩
        · exact ⟨L, Completes.of_blank hL hn hne hlined hm hblank hs₁ hf⟩
        · have hcont := (midway_eq_false hm).2.2
          have hheld := (hlined.settled hm).1
          have hidle₁ := (hstatement (t ++ ['\n'])).trans (scanStatement_idle hidle _)
          rw [releaseName_of_held (s := { run L with line := (run L).line + 1 }) hheld] at hidle₁
          refine Completes.of_comment hL hn hne hlined hstray₀ hheld hin hblank (k := (run L).line + 1) ?_ hf
            (by rw [hidle₁]; exact hlined.fault) (by rw [hidle₁]; exact hm) [] (by rw [hidle₁]; rfl) (by simp)
          rw [hs₁, ← hcont]
      | true =>
        have hcontinued := scanLine_continued hlined.fault hin hm
        have hended : ((run L).scanLine t).ended = false := by
          rw [hcontinued]
          exact (Grows.scanRest (p := fun _ => True) (fun _ _ => trivial) _ _ _ fun _ => trivial).ended.trans hlined.ended
        obtain ⟨hheld, hs₁, hblank, s', hs', hf', hm', u, hu, htokens⟩ :=
          hlined.last_continued hne hn rfl (hcontinued t) hr (hmid hended) hhead
        have hs'₁ : (run L).scanLine (t ++ ['\n']) = s' := (hcontinued _).trans hs'.symm
        exact Completes.of_comment hL hn hne hlined hstray₀ hheld hin hblank hs₁ hf (hs'₁ ▸ hf') (hs'₁ ▸ hm')
          [u] (hs'₁ ▸ htokens) (by simpa using hu)

end TypeComments.Source
