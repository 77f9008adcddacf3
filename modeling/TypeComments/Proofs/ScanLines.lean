import TypeComments.Proofs.ScanText

/-!
# Runs over complete lines

A statement starts on a line of its own unless the scanner is `midway`: in a string, inside brackets or
after a continuation. Between statements the gap holds whole idle lines, blank or with a comment alone,
because the line feed that ends a statement is a token. `Scanner.Lined` collects what a run over complete
lines keeps; from it comes what is known about the tokens that open a block: they take whole idle lines
in front of them, their text is blank, and no two of them stand on one line.
-/

namespace TypeComments.Source
variable {c : Char} {cs l : List Char} {L : List (List Char)}

/-! ### Idle lines -/

/-- Does a line hold no statement? It is blank, or a comment stands on it alone. -/
def opensIdle (l : List Char) : Bool :=
  (l.dropWhile isSpacing).head?.any fun c => c == '#' || c == '\r' || c == '\n'

/-- A complete line without a statement. -/
def IsIdle (l : List Char) : Prop :=
  IsLine l ∧ opensIdle l = true

def IdleLines (s : List Char) : Prop :=
  ∃ ls : List (List Char), s = ls.flatten ∧ ∀ l ∈ ls, IsIdle l

theorem IdleLines.nil : IdleLines [] := ⟨[], rfl, by simp⟩

theorem IdleLines.append {s t : List Char} (hs : IdleLines s) (ht : IdleLines t) : IdleLines (s ++ t) := by
  obtain ⟨ls, rfl, hls⟩ := hs
  obtain ⟨ls', rfl, hls'⟩ := ht
  refine ⟨ls ++ ls', by simp, fun l hl => ?_⟩
  exact (List.mem_append.1 hl).elim (hls l) (hls' l)

theorem IsIdle.idleLines (h : IsIdle l) : IdleLines l := ⟨[l], by simp, by simpa using h⟩

/-- A complete line is idle, or a statement starts after its blanks. -/
theorem isLine_cases (hl : IsLine l) : IsIdle l ∨ ∃ c cs, l.dropWhile isSpacing = c :: cs ∧
    IsLine (c :: cs) ∧ (c == '#' || c == '\r' || c == '\n') = false := by
  have hbody := isLine_dropWhile hl
  cases hd : l.dropWhile isSpacing with
  | nil =>
    obtain ⟨t, ht, -⟩ := hbody
    rw [hd] at ht
    simp at ht
  | cons c cs =>
    rw [hd] at hbody
    cases hc : c == '#' || c == '\r' || c == '\n' with
    | true => exact .inl ⟨hl, by simp only [opensIdle, hd, List.head?_cons, Option.any_some, hc]⟩
    | false => exact .inr ⟨c, cs, rfl, hbody, hc⟩

namespace Scanner
variable {s s' : Scanner} {x : List Char}

/-! ### The end of a line -/

/-- Is the scanner inside a statement: in a string, inside brackets or after a continuation? -/
def midway (s : Scanner) : Bool :=
  s.inString.isSome || s.depth != 0 || s.continued

/-- The line feed is a token, unless the statement goes on. -/
theorem take_settles {column : Nat} {t : List Char} {piece : PieceKind} (hp : piece.ends = true)
    (hf : (s.take column t piece).fault = none) : (s.take column t piece).midway = true ∨
      ((s.take column t piece).gap = [] ∧ (s.take column t piece).held = none) := by
  cases piece with
  | lineEnd =>
    simp only [take, emitLineEnd] at hf ⊢
    split
    · rename_i hdepth
      refine .inl ?_
      have : s.depth ≠ 0 := by omega
      simp [midway, skip, releaseName, this]
    · rename_i hdepth
      rw [if_neg hdepth] at hf
      refine .inr ⟨by simp [emit], ?_⟩
      have hr := fault_of_emit hf
      rcases release_cases hr with ⟨hheld, heq⟩ | ⟨w, -, -, heq⟩
      · simp only [releaseName, emit, push_held, heq]
        exact hheld
      · simp [releaseName, emit, heq]
  | continuation => simp [take, midway]
  | opened q triple => simp [take, midway]
  | comment => simp [PieceKind.ends] at hp
  | string => simp [PieceKind.ends] at hp
  | number => simp [PieceKind.ends] at hp
  | operator => simp [PieceKind.ends] at hp
  | word => simp [PieceKind.ends] at hp
  | stray => simp [PieceKind.ends] at hp

theorem scanRest_settles {column : Nat} {line : List Char} (hl : IsLine line) (hin : s.inString = none)
    (hf : (s.scanRest column line).fault = none) : (s.scanRest column line).midway = true ∨
      ((s.scanRest column line).gap = [] ∧ (s.scanRest column line).held = none) := by
  fun_induction Scanner.scanRest s column line with
  | case1 =>
    obtain ⟨t, ht, -⟩ := hl
    simp at ht
  | case2 s column c cs next start =>
    rename_i ih
    rcases cutPiece_rest hl with hrest | ⟨hrest, hends⟩
    · have hin' : (s.skip next.blanks).inString = none := hin
      cases hq : next.kind.quote? with
      | none => exact ih hrest (take_inString hin' hq _ _) hf
      | some q =>
        -- a string that goes on would have taken the whole line
        obtain ⟨t, ht, -⟩ := hrest
        rw [(cutPiece_quote c cs q hq).2] at ht
        simp at ht
    · rw [show next.rest = [] from hrest, Scanner.scanRest] at hf ⊢
      exact take_settles hends hf

/-! ### Layout -/

theorem leaveAsync_eq (closed : Bool) (s : Scanner) : s.leaveAsync closed = s ∨
    s.leaveAsync closed = { s with asyncBlock := none } := by
  unfold leaveAsync
  split
  · split
    · exact .inr rfl
    · exact .inl rfl
  · exact .inl rfl

theorem leaveAsync_tokens (closed : Bool) (s : Scanner) : (s.leaveAsync closed).tokens = s.tokens := by
  rcases leaveAsync_eq closed s with heq | heq <;> rw [heq]

theorem leaveAsync_fault (closed : Bool) (s : Scanner) : (s.leaveAsync closed).fault = s.fault := by
  rcases leaveAsync_eq closed s with heq | heq <;> rw [heq]

theorem Exact.leaveAsync (h : s.Exact x) (closed : Bool) : (s.leaveAsync closed).Exact x := by
  rcases leaveAsync_eq closed s with heq | heq
  · rwa [heq]
  · rw [heq]
    exact ⟨h.text, h.calm, by simp⟩

/-- Between two lines the layout of the second one is scanned; all else stays. -/
structure Laid (s s' : Scanner) : Prop where
  fault : s'.fault = none
  line : s'.line = s.line
  depth : s'.depth = s.depth
  continued : s'.continued = s.continued
  inString : s'.inString = s.inString
  held : s'.held = s.held
  ended : s'.ended = s.ended

theorem Laid.refl (hf : s.fault = none) : s.Laid s := ⟨hf, rfl, rfl, rfl, rfl, rfl, rfl⟩

theorem Laid.trans {s'' : Scanner} (h : s.Laid s') (h' : s'.Laid s'') : s.Laid s'' :=
  ⟨h'.fault, h'.line.trans h.line, h'.depth.trans h.depth, h'.continued.trans h.continued,
    h'.inString.trans h.inString, h'.held.trans h.held, h'.ended.trans h.ended⟩

theorem Laid.emit (hf : s.fault = none) (kind : Kind) (t : List Char) (column : Nat) :
    s.Laid (s.emit kind t column) := by
  refine ⟨?_, ?_, ?_, ?_, ?_, ?_, ?_⟩ <;> simp [Scanner.emit, hf]

theorem Laid.leaveAsync (hf : s.fault = none) (closed : Bool) : s.Laid (s.leaveAsync closed) := by
  rcases leaveAsync_eq closed s with heq | heq <;> rw [heq] <;> exact ⟨hf, rfl, rfl, rfl, rfl, rfl, rfl⟩

theorem dedent_laid (hf : s.fault = none) (column : Nat) (closed : List Nat) : s.Laid (s.dedent column closed) ∧
    ∃ added, (s.dedent column closed).tokens = added ++ s.tokens ∧ ∀ t ∈ added, t.kind = .dedent := by
  induction closed generalizing s with
  | nil => exact ⟨.refl hf, [], rfl, by simp⟩
  | cons i closed ih =>
    have hlaid := Laid.emit hf .dedent [] column
    obtain ⟨hlaid', added, ht, hk⟩ := ih hlaid.fault
    refine ⟨hlaid.trans hlaid', added ++ [⟨.dedent, s.gap, [], s.line, column⟩], ?_, ?_⟩
    · rw [dedent, List.foldl_cons, ← dedent, ht, emit_tokens hf, List.append_assoc]
      rfl
    · intro t ht
      rcases List.mem_append.1 ht with ht | ht
      · exact hk t ht
      · rw [List.mem_singleton.1 ht]

theorem Exact.dedent (h : s.Exact x) (hf : s.fault = none) (hheld : s.held = none) (hin : s.inString = none)
    (column : Nat) (closed : List Nat) : (s.dedent column closed).Exact x := by
  induction closed generalizing s with
  | nil => exact h
  | cons i closed ih =>
    have hemit := h.emit hf hheld hin .dedent [] column
    rw [List.append_nil] at hemit
    have hlaid := Laid.emit hf .dedent [] column
    exact ih hemit hlaid.fault (hlaid.held.trans hheld) (hlaid.inString.trans hin)

/-- The layout of a line opens one block, or closes some. -/
theorem indentTo_laid (hheld : s.held = none) (hin : s.inString = none) (h : s.Exact x) {column : Nat}
    {blanks : List Char} (hs : s.fault = none) (hf : (s.indentTo column blanks).fault = none) :
    s.Laid (s.indentTo column blanks) ∧ (s.indentTo column blanks).Exact (x ++ blanks) ∧
      ((s.indentColumn < column ∧
          (s.indentTo column blanks).tokens = ⟨.indent, s.gap, blanks, s.line, 0⟩ :: s.tokens) ∨
        ∃ added, (s.indentTo column blanks).tokens = added ++ s.tokens ∧ ∀ t ∈ added, t.kind = .dedent) := by
  unfold indentTo at hf ⊢
  dsimp only at hf ⊢
  split at hf
  · rename_i hcol
    rw [if_pos hcol]
    have h' : Exact { s with indents := column :: s.indents } x := ⟨h.text, h.calm, h.single⟩
    refine ⟨⟨hf, ?_, ?_, ?_, ?_, ?_, ?_⟩, h'.emit hs hheld hin _ _ _, .inl ⟨hcol, ?_⟩⟩
    all_goals simp [Scanner.emit, push_tokens, hs]
  · rename_i hcol
    rw [if_neg hcol]
    split at hf
    · rename_i hmem
      rw [if_pos hmem]
      set closed := (s.skip blanks).indents.takeWhile (column < ·)
      have h' : Exact { s.skip blanks with indents := (s.skip blanks).indents.dropWhile (column < ·) } (x ++ blanks) :=
        ⟨(h.skip blanks).text, (h.skip blanks).calm, (h.skip blanks).single⟩
      have hexact := h'.dedent hs hheld hin blanks.length closed
      obtain ⟨hlaid, added, ht, hk⟩ := dedent_laid (s := { s.skip blanks with
        indents := (s.skip blanks).indents.dropWhile (column < ·) }) hs blanks.length closed
      have hleave := hlaid.trans (.leaveAsync hlaid.fault (!closed.isEmpty))
      refine ⟨⟨hleave.fault, hleave.line, hleave.depth, hleave.continued, hleave.inString, hleave.held,
        hleave.ended⟩, hexact.leaveAsync _, .inr ⟨added, ?_, hk⟩⟩
      rw [leaveAsync_tokens]
      exact ht
    · simp at hf

/-! ### Runs -/

/-- The tokens up to a line. Those that open a block take idle lines and blanks, and no two of them
stand on one line. -/
structure Blocks (line : Nat) (ts : List Token) : Prop where
  shape : ∀ t ∈ ts, t.kind = .indent → t.text.all isSpacing = true ∧ IdleLines t.before ∧ t.line ≤ line
  apart : ts.Pairwise fun t u => t.kind = .indent → u.kind = .indent → u.line < t.line
  unended : ∀ t ∈ ts, t.kind ≠ .endMarker

theorem Blocks.append {line : Nat} {ts added : List Token} (h : Blocks line ts)
    (hadded : ∀ t ∈ added, t.kind ≠ .indent ∧ t.kind ≠ .endMarker) : Blocks line (added ++ ts) where
  shape t ht hk := by
    rcases List.mem_append.1 ht with ht | ht
    · exact absurd hk (hadded t ht).1
    · exact h.shape t ht hk
  apart := by
    refine List.pairwise_append.2 ⟨?_, h.apart, fun t ht _ _ hk => absurd hk (hadded t ht).1⟩
    exact List.pairwise_of_forall_mem_list fun t ht _ _ hk => absurd hk (hadded t ht).1
  unended t ht := (List.mem_append.1 ht).elim (fun ht => (hadded t ht).2) (h.unended t)

theorem Blocks.next {line : Nat} {ts : List Token} (h : Blocks line ts) : Blocks (line + 1) ts :=
  ⟨fun t ht hk => have hs := h.shape t ht hk; ⟨hs.1, hs.2.1, Nat.le_succ_of_le hs.2.2⟩, h.apart, h.unended⟩

theorem Blocks.indent {line column : Nat} {ts : List Token} (h : Blocks line ts) {gap blanks : List Char}
    (hgap : IdleLines gap) (hb : blanks.all isSpacing = true) :
    Blocks (line + 1) (⟨.indent, gap, blanks, line + 1, column⟩ :: ts) where
  shape t ht hk := by
    rcases List.mem_cons.1 ht with rfl | ht
    · exact ⟨hb, hgap, Nat.le_refl _⟩
    · exact h.next.shape t ht hk
  apart := by
    refine List.pairwise_cons.2 ⟨fun u hu _ hk => ?_, h.apart⟩
    exact Nat.lt_succ_of_le (h.shape u hu hk).2.2
  unended t ht := by
    rcases List.mem_cons.1 ht with rfl | ht
    · simp
    · exact h.unended t ht

/-- The scanner has read the complete lines `L` without a fault. -/
structure Lined (s : Scanner) (L : List (List Char)) : Prop where
  fault : s.fault = none
  exact : s.Exact L.flatten
  line : s.line = L.length
  ended : s.ended = false
  /-- Between statements no word is held back, and the gap holds idle lines. -/
  settled : s.midway = false → s.held = none ∧ IdleLines s.gap
  /-- What is open is a string, and the gap is part of it. -/
  opened : ∀ o ∈ s.inString, isQuote o.quote = true ∧ s.gap = []
  blocks : Blocks L.length s.tokens

theorem lined_start : Lined {} [] where
  fault := rfl
  exact := ⟨rfl, fun _ => rfl, by simp⟩
  line := rfl
  ended := rfl
  settled _ := ⟨rfl, .nil⟩
  opened := by simp
  blocks := ⟨by simp, .nil, by simp⟩

theorem inline_layout (k : Kind) (hk : k.isInline = true) : k ≠ .indent ∧ k ≠ .endMarker := by
  constructor <;> rintro rfl <;> simp [Kind.isInline] at hk

theorem scanRest_opened {column : Nat} {line : List Char} (hin : s.inString = none ∨
    (line = [] ∧ ∀ o ∈ s.inString, isQuote o.quote = true ∧ s.gap = [])) :
    ∀ o ∈ (s.scanRest column line).inString, isQuote o.quote = true ∧ (s.scanRest column line).gap = [] := by
  fun_induction Scanner.scanRest s column line with
  | case1 =>
    rcases hin with hin | hin
    · simp [hin]
    · exact hin.2
  | case2 s column c cs next start =>
    rename_i ih
    have hin' : (s.skip next.blanks).inString = none := hin.resolve_right (by simp)
    refine ih ?_
    cases hq : next.kind.quote? with
    | none => exact .inl (take_inString hin' hq _ _)
    | some q =>
      obtain ⟨hquote, hrest⟩ := cutPiece_quote c cs q hq
      refine .inr ⟨hrest, ?_⟩
      cases hk : next.kind with
      | opened q' triple =>
        simp only [hk, PieceKind.quote?, Option.some.injEq] at hq
        simpa [take, hq] using hquote
      | _ => simp [hk, PieceKind.quote?] at hq

/-- The rest of a line, after its layout or the end of a string. -/
theorem Lined.of_scanRest {front rest : List Char} {column : Nat} (hexact : s.Exact (L.flatten ++ front))
    (hline : s.line = L.length + 1) (hended : s.ended = false) (hin : s.inString = none)
    (hblocks : Blocks (L.length + 1) s.tokens) (hrest : IsLine rest) (hf : (s.scanRest column rest).fault = none) :
    Lined (s.scanRest column rest) (L ++ [front ++ rest]) := by
  have hgrows := Grows.scanRest inline_layout s column rest (by simp)
  obtain ⟨added, ht, hk⟩ := hgrows.tokens
  refine ⟨hf, ?_, ?_, hgrows.ended.trans hended, fun hm => ?_, scanRest_opened (.inl hin), ?_⟩
  · simpa using hexact.scanRest (.inl hin) hf
  · simpa [hline] using hgrows.line
  · rcases scanRest_settles hrest hin hf with hmid | ⟨hgap, hheld⟩
    · rw [hm] at hmid
      simp at hmid
    · rw [hgap]
      exact ⟨hheld, .nil⟩
  · rw [ht, List.length_append, List.length_singleton]
    exact hblocks.append hk

theorem scanStatement_idle (hl : IsIdle l) (s : Scanner) : s.scanStatement l = s.releaseName.skip l := by
  have hidle := hl.2
  rw [opensIdle] at hidle
  unfold scanStatement
  cases hd : l.dropWhile isSpacing with
  | nil => simp [hd] at hidle
  | cons c cs =>
    rw [hd, List.head?_cons, Option.any_some] at hidle
    simp only [hidle, ↓reduceIte]

theorem scanStatement_eq (hd : l.dropWhile isSpacing = c :: cs) (hc : (c == '#' || c == '\r' || c == '\n') = false)
    (s : Scanner) : s.scanStatement l =
      if (s.releaseName.layOut (l.takeWhile isSpacing)).fault.isSome then s.releaseName.layOut (l.takeWhile isSpacing)
      else (s.releaseName.layOut (l.takeWhile isSpacing)).scanRest (l.takeWhile isSpacing).length (c :: cs) := by
  simp only [scanStatement, hd, hc, Bool.false_eq_true, ↓reduceIte]

theorem releaseName_of_held (hheld : s.held = none) : s.releaseName = s := by
  rw [releaseName, release, hheld]

theorem midway_eq_false (hm : s.midway = false) :
    s.inString = none ∧ s.depth = 0 ∧ s.continued = false := by
  simpa [midway, and_assoc] using hm

/-- A line that starts a statement: the layout opens one block or closes some, and then the rest is cut. -/
theorem scanStatement_laid (hheld : s.held = none) (hin : s.inString = none) (h : s.Exact x) (hs : s.fault = none)
    (hd : l.dropWhile isSpacing = c :: cs) (hc : (c == '#' || c == '\r' || c == '\n') = false)
    (hf : (s.scanStatement l).fault = none) : ∃ s' : Scanner,
      s.scanStatement l = s'.scanRest (l.takeWhile isSpacing).length (c :: cs) ∧ s.Laid s' ∧
      s'.Exact (x ++ l.takeWhile isSpacing) ∧
      (s'.tokens = ⟨.indent, s.gap, l.takeWhile isSpacing, s.line, 0⟩ :: s.tokens ∨
        ∃ added, s'.tokens = added ++ s.tokens ∧ ∀ t ∈ added, t.kind = .dedent) := by
  rw [scanStatement_eq hd hc, releaseName_of_held hheld] at hf ⊢
  set blanks := l.takeWhile isSpacing
  have hlf : (s.layOut blanks).fault = none := by
    by_contra hne
    rw [if_pos (Option.isSome_iff_ne_none.2 hne)] at hf
    exact hne hf
  have hif : (s.indentTo (columnAfter blanks) blanks).fault = none := by rwa [layOut, leaveAsync_fault] at hlf
  obtain ⟨hlaid, hexact, htokens⟩ := indentTo_laid hheld hin h hs hif
  refine ⟨s.layOut blanks, by rw [if_neg (by simp [hlf])], hlaid.trans (.leaveAsync hif false),
    hexact.leaveAsync false, ?_⟩
  rw [layOut, leaveAsync_tokens]
  exact htokens.imp And.right id

theorem Lined.statement (h : s.Lined L) (hm : s.midway = false) (hl : IsLine l)
    (hf : ({ s with line := s.line + 1 }.scanStatement l).fault = none) :
    Lined ({ s with line := s.line + 1 }.scanStatement l) (L ++ [l]) := by
  set s₁ : Scanner := { s with line := s.line + 1 } with hs₁
  obtain ⟨hheld, hgap⟩ := h.settled hm
  have hin := (midway_eq_false hm).1
  have hline : s₁.line = L.length + 1 := by rw [hs₁, h.line]
  have hexact : s₁.Exact L.flatten := ⟨h.exact.text, h.exact.calm, h.exact.single⟩
  have hrel : s₁.releaseName = s₁ := releaseName_of_held hheld
  rcases isLine_cases hl with hidle | ⟨c, cs, hd, hrest, hc⟩
  · rw [scanStatement_idle hidle, hrel]
    refine ⟨h.fault, by simpa using hexact.skip l, by simp [skip, hline], h.ended, fun _ => ?_,
      fun o ho => ?_, by simpa [skip] using h.blocks.next⟩
    · exact ⟨hheld, hgap.append hidle.idleLines⟩
    · simp [skip, hs₁, hin] at ho
  · obtain ⟨s₂, heq, hlaid, hexact', htokens⟩ := scanStatement_laid (s := s₁) hheld hin hexact h.fault hd hc hf
    rw [heq] at hf ⊢
    have hblocks : Blocks (L.length + 1) s₂.tokens := by
      rcases htokens with ht | ⟨added, ht, hk⟩
      · rw [ht, hline]
        exact h.blocks.indent hgap List.all_takeWhile
      · rw [ht]
        exact h.blocks.next.append fun t ht => by simp [hk t ht]
    have hall : L ++ [l] = L ++ [l.takeWhile isSpacing ++ (c :: cs)] := by
      rw [← hd, List.takeWhile_append_dropWhile]
    rw [hall]
    exact Lined.of_scanRest hexact' (hlaid.line.trans hline) (hlaid.ended.trans h.ended)
      (hlaid.inString.trans hin) hblocks hrest hf

theorem closing_fits {o : OpenString} {n : Nat} (hq : isQuote o.quote = true) (hl : IsLine l)
    (hn : o.closing? l = some n) : n ≤ room l := by
  unfold OpenString.closing? at hn
  split at hn
  · exact closingTriple_le_room hq (isLine_oneLine hl) hn
  · exact closing_le_room hq (isLine_oneLine hl) hn

/-- The first token that overtakes the word held back takes the text of that word in front of it. -/
theorem overtake_tokens (hf : s.fault = none) (t : Token) (endColumn : Nat) :
    (s.overtake t endColumn).tokens = { t with before := s.heldText ++ t.before } :: s.tokens := by
  cases hheld : s.held with
  | none => simp [overtake, push_tokens, heldText, hheld, hf]
  | some h => cases hover : s.overtakenAt <;> simp [overtake, push_tokens, heldText, hheld, hover, hf]

/-- A line that continues a string: it closes the string, or all of it belongs to the string. -/
theorem Lined.string (h : s.Lined L) (hl : IsLine l) {o : OpenString} (hin : s.inString = some o)
    (hf : ({ s with line := s.line + 1 }.scanString o l).fault = none)
    (hstray : ∀ t ∈ ({ s with line := s.line + 1 }.scanString o l).tokens, t.kind ≠ .stray) :
    Lined ({ s with line := s.line + 1 }.scanString o l) (L ++ [l]) := by
  set s₁ : Scanner := { s with line := s.line + 1 } with hs₁
  obtain ⟨hquote, hgap⟩ := h.opened o hin
  have hline : s₁.line = L.length + 1 := by rw [hs₁, h.line]
  have hexact : s₁.Exact L.flatten := ⟨h.exact.text, h.exact.calm, h.exact.single⟩
  have hopen : s₁.openText = o.before ++ o.text := by simp [openText, hs₁, hin]
  have hgap₁ : s₁.gap = [] := hgap
  unfold scanString at hf hstray ⊢
  cases hclose : o.closing? l with
  | some n =>
    simp only [hclose] at hf hstray ⊢
    set t : Token := ⟨.string, o.before, o.text ++ l.take n, o.line, o.column⟩ with ht
    have hexact' := hexact.overtake (t := t) (u := l.take n) h.fault
      (by simp [ht, Token.source, hopen, hgap₁]) n
    have hgrows := Grows.overtake (p := fun k => k ≠ .indent ∧ k ≠ .endMarker) s₁ (t := t) (by simp [ht]) n
    obtain ⟨added, htokens, hk⟩ := hgrows.tokens
    have hblocks : Blocks (L.length + 1) (s₁.overtake t n).tokens := by
      rw [htokens]
      exact h.blocks.next.append hk
    conv => rhs; rw [← List.take_append_drop n l]
    exact Lined.of_scanRest hexact' (hgrows.line.trans hline) (hgrows.ended.trans h.ended) rfl hblocks
      (isLine_drop hl (closing_fits hquote hl hclose)) hf
  | none =>
    simp only [hclose] at hf hstray ⊢
    split
    · refine ⟨h.fault, ⟨?_, h.exact.calm, h.exact.single⟩, by simp [hline], h.ended, by simp [midway], ?_, ?_⟩
      · rw [List.flatten_append, ← h.exact.text]
        simp [Scanner.text, heldText, openText, hin, hs₁, hgap]
      · simpa [hs₁, hgap] using hquote
      · simpa using h.blocks.next
    · rename_i hgo
      rw [if_neg hgo] at hstray
      have htokens := overtake_tokens (s := s₁) h.fault ⟨.stray, o.before, o.text ++ l, o.line, o.column⟩ l.length
      exact absurd rfl (hstray ⟨.stray, s₁.heldText ++ o.before, o.text ++ l, o.line, o.column⟩ (by simp [htokens]))

theorem Lined.continued (h : s.Lined L) (hl : IsLine l) (hin : s.inString = none)
    (hf : ({ s with line := s.line + 1 }.scanContinued l).fault = none) :
    Lined ({ s with line := s.line + 1 }.scanContinued l) (L ++ [l]) := by
  have hexact : Exact { s with line := s.line + 1, continued := false } (L.flatten ++ []) :=
    ⟨by rw [List.append_nil, ← h.exact.text]; rfl, h.exact.calm, h.exact.single⟩
  exact Lined.of_scanRest hexact (by simp [h.line]) h.ended hin h.blocks.next hl hf

theorem scanLine_string {o : OpenString} (hf : s.fault = none) (hin : s.inString = some o) (l : List Char) :
    s.scanLine l = { s with line := s.line + 1 }.scanString o l := by
  unfold Scanner.scanLine
  rw [if_neg (by simp [hf])]
  simp only [hin]

theorem scanLine_statement (hf : s.fault = none) (hm : s.midway = false) (l : List Char) :
    s.scanLine l = { s with line := s.line + 1 }.scanStatement l := by
  obtain ⟨hin, hdepth, hcont⟩ := midway_eq_false hm
  unfold Scanner.scanLine
  rw [if_neg (by simp [hf])]
  simp only [hin, hdepth, hcont]
  rfl

theorem scanLine_continued (hf : s.fault = none) (hin : s.inString = none) (hm : s.midway = true) (l : List Char) :
    s.scanLine l = { s with line := s.line + 1 }.scanContinued l := by
  have hstart : (s.depth == 0 && !s.continued) = false := by
    rw [midway, hin] at hm
    cases hc : s.continued <;> simp_all
  unfold Scanner.scanLine
  rw [if_neg (by simp [hf])]
  simp only [hin, hstart]
  rfl

/-- One line of a run: its text is kept, and between statements the gap holds idle lines. -/
theorem Lined.scanLine (h : s.Lined L) (hl : IsLine l) (hf : (s.scanLine l).fault = none)
    (hstray : ∀ t ∈ (s.scanLine l).tokens, t.kind ≠ .stray) : (s.scanLine l).Lined (L ++ [l]) := by
  cases hin : s.inString with
  | some o =>
    rw [scanLine_string h.fault hin] at hf hstray ⊢
    exact h.string hl hin hf hstray
  | none =>
    cases hm : s.midway with
    | false =>
      rw [scanLine_statement h.fault hm] at hf ⊢
      exact h.statement hm hl hf
    | true =>
      rw [scanLine_continued h.fault hin hm] at hf ⊢
      exact h.continued hl hin hf

end Scanner

end TypeComments.Source
