import TypeComments.Proofs.ScanRun

/-!
# Scanning a retouched text

A text is retouched when the idle lines in front of some blocks are replaced by others. The retouched text is
cut into the same tokens, with the new lines in front of those blocks and new line numbers
(`scan_retouched`). The proof runs both texts side by side. Line numbers play no part in the scanner but
in messages, so the two scanners are compared without them (`Scanner.unnumbered`), and each step of the
scanner commutes with forgetting them. Between statements the second scanner waits with the idle lines
until it is known which token takes them.
-/

namespace TypeComments.Source

def Token.unnumbered (t : Token) : Token :=
  { t with line := 0 }

def OpenString.unnumbered (o : OpenString) : OpenString :=
  { o with line := 0 }

def ScanFault.unnumbered : ScanFault → ScanFault
  | .unindent _ => .unindent 0
  | .openStatement _ => .openStatement 0
  | .openString _ column => .openString 0 column
  | .overtaken _ endColumn _ column => .overtaken 0 endColumn 0 column

namespace Scanner
variable {e : Token → Token} {s : Scanner}

/-- A scanner without the numbers of lines, with its tokens changed by `e`. -/
def unnumbered (e : Token → Token) (s : Scanner) : Scanner :=
  { s with
    tokens := s.tokens.map fun t => (e t).unnumbered
    line := 0
    inString := s.inString.map OpenString.unnumbered
    held := s.held.map Token.unnumbered
    overtakenAt := s.overtakenAt.map fun place => (0, place.2)
    fault := s.fault.map ScanFault.unnumbered }

@[simp] theorem unnumbered_line (e : Token → Token) (s : Scanner) (n : Nat) :
    unnumbered e { s with line := n } = s.unnumbered e := rfl

@[simp] theorem unnumbered_midway (e : Token → Token) (s : Scanner) : (s.unnumbered e).midway = s.midway := by
  simp [midway, unnumbered]

@[simp] theorem unnumbered_skip (e : Token → Token) (s : Scanner) (t : List Char) :
    (s.skip t).unnumbered e = (s.unnumbered e).skip t := rfl

@[simp] theorem unnumbered_leaveAsync (e : Token → Token) (s : Scanner) (closed : Bool) :
    (s.leaveAsync closed).unnumbered e = (s.unnumbered e).leaveAsync closed := by
  have hasync : (s.unnumbered e).asyncBlock = s.asyncBlock := rfl
  have hcolumn : (s.unnumbered e).indentColumn = s.indentColumn := rfl
  unfold leaveAsync
  rw [hasync, hcolumn]
  split
  · split <;> rfl
  · rfl

theorem unnumbered_push_eq (e : Token → Token) (s : Scanner) (t : Token) :
    (s.push t).unnumbered e = (s.unnumbered e).push (e t).unnumbered := by
  cases hf : s.fault <;> simp [push, unnumbered, hf]

section
variable (he : ∀ t : Token, t.kind ≠ .indent → e t = t)
include he

theorem unnumbered_push {t : Token} (ht : t.kind ≠ .indent) :
    (s.push t).unnumbered e = (s.unnumbered e).push t.unnumbered := by
  rw [unnumbered_push_eq, he t ht]

theorem unnumbered_release {kind : Kind} (hk : kind ≠ .indent) :
    (s.release kind).unnumbered e = (s.unnumbered e).release kind := by
  unfold release
  cases hheld : s.held with
  | none => simp [unnumbered, hheld]
  | some w =>
    cases hover : s.overtakenAt with
    | none =>
      simp only [unnumbered_push he (t := { w with kind }) hk]
      simp [unnumbered, hheld, hover, Token.unnumbered]
    | some place =>
      cases hf : s.fault <;> simp [unnumbered, hheld, hover, hf, Token.unnumbered, ScanFault.unnumbered]

theorem unnumbered_releaseName : s.releaseName.unnumbered e = (s.unnumbered e).releaseName :=
  unnumbered_release he (by decide)

theorem unnumbered_emit {kind : Kind} (hk : kind ≠ .indent) (t : List Char) (column : Nat) :
    (s.emit kind t column).unnumbered e = (s.unnumbered e).emit kind t column := by
  rw [emit, unnumbered_push he hk]
  rfl

theorem unnumbered_overtake {t : Token} (ht : t.kind ≠ .indent) (endColumn : Nat) :
    (s.overtake t endColumn).unnumbered e = (s.unnumbered e).overtake t.unnumbered endColumn := by
  unfold overtake
  cases hheld : s.held with
  | none =>
    simp only [unnumbered_push he ht]
    simp [unnumbered, hheld]
  | some w =>
    dsimp only
    rw [unnumbered_push he (by exact ht)]
    simp [unnumbered, hheld, Token.unnumbered, Token.source]

theorem unnumbered_emitAtOnce {kind : Kind} (hk : kind ≠ .indent) (t : List Char) (column : Nat) :
    (s.emitAtOnce kind t column).unnumbered e = (s.unnumbered e).emitAtOnce kind t column :=
  unnumbered_overtake he hk _

theorem unnumbered_emitWord (t : List Char) (column : Nat) :
    (s.emitWord t column).unnumbered e = (s.unnumbered e).emitWord t column := by
  have hasync : (s.unnumbered e).asyncBlock = s.asyncBlock := rfl
  have hsome : (s.unnumbered e).held.isSome = s.held.isSome := by simp [unnumbered]
  have hnone : (s.unnumbered e).held.isNone = s.held.isNone := by simp [unnumbered]
  unfold emitWord
  dsimp only
  rw [hasync, hsome, hnone]
  split
  · exact unnumbered_emit he (by decide) t column
  split
  · exact unnumbered_emit he (by decide) t column
  split
  · rfl
  split
  · rw [unnumbered_emit he (by decide), ← unnumbered_release he (by decide)]
    rfl
  split
  · rw [unnumbered_emit he (by decide), unnumbered_release he (by decide)]
  · rw [unnumbered_emit he (by decide), unnumbered_releaseName he]

theorem unnumbered_take (column : Nat) (t : List Char) (piece : PieceKind) :
    (s.take column t piece).unnumbered e = (s.unnumbered e).take column t piece := by
  cases piece with
  | comment => simp only [take, unnumbered_skip, unnumbered_releaseName he]
  | continuation =>
    simp only [take, ← unnumbered_releaseName he]
    rfl
  | string => simp only [take, unnumbered_emit he (show Kind.string ≠ .indent by decide), unnumbered_releaseName he]
  | number => exact unnumbered_emitAtOnce he (by decide) t column
  | lineEnd =>
    have hdepth : (s.unnumbered e).depth = s.depth := rfl
    simp only [take, emitLineEnd, hdepth]
    split
    · rw [unnumbered_skip, unnumbered_releaseName he]
    · rw [unnumbered_emit he (by decide), unnumbered_releaseName he]
      rfl
  | operator =>
    simp only [take, emitOperator]
    rw [unnumbered_emit he (by decide), unnumbered_releaseName he]
    rfl
  | word => exact unnumbered_emitWord he t column
  | opened q triple => rfl
  | stray => exact unnumbered_emitAtOnce he (by decide) t column

theorem unnumbered_scanRest (column : Nat) (line : List Char) :
    (s.scanRest column line).unnumbered e = (s.unnumbered e).scanRest column line := by
  fun_induction Scanner.scanRest s column line with
  | case1 => rw [Scanner.scanRest]
  | case2 s column c cs next start ih =>
    rw [ih, unnumbered_take he, unnumbered_skip]
    conv => rhs; rw [Scanner.scanRest]

theorem unnumbered_dedent (column : Nat) (closed : List Nat) :
    (s.dedent column closed).unnumbered e = (s.unnumbered e).dedent column closed := by
  induction closed generalizing s with
  | nil => rfl
  | cons i closed ih =>
    have hemit := unnumbered_emit he (s := s) (show Kind.dedent ≠ .indent by decide) [] column
    simp only [dedent, List.foldl_cons] at ih ⊢
    rw [ih, hemit]

theorem unnumbered_closeAll : s.closeAll.unnumbered e = (s.unnumbered e).closeAll := by
  rw [closeAll, unnumbered_emit he (by decide), unnumbered_dedent he]
  rfl

/-- The layout of a line with the text `b` in front of a block that it opens. -/
theorem unnumbered_indentTo {column : Nat} {blanks b : List Char}
    (hopen : s.indentColumn < column → e ⟨.indent, s.gap, blanks, s.line, 0⟩ = ⟨.indent, b, blanks, s.line, 0⟩)
    (hclose : ¬s.indentColumn < column → b = s.gap) :
    (s.indentTo column blanks).unnumbered e = { s.unnumbered e with gap := b }.indentTo column blanks := by
  have hcolumn : indentColumn { s.unnumbered e with gap := b } = s.indentColumn := rfl
  unfold indentTo
  dsimp only
  rw [hcolumn]
  split
  · rename_i hlt
    rw [emit, unnumbered_push_eq, hopen hlt]
    rfl
  · rename_i hlt
    rw [hclose hlt]
    have hcontains : (skip { s.unnumbered e with gap := s.gap } blanks).indents = (s.skip blanks).indents := rfl
    rw [hcontains]
    split
    · rw [unnumbered_leaveAsync, unnumbered_dedent he]
      rfl
    · rfl

/-- A line that starts a statement, with the text `b` in front of a block that it opens. -/
theorem unnumbered_scanStatement {c : Char} {cs l b : List Char} (hd : l.dropWhile isSpacing = c :: cs)
    (hc : (c == '#' || c == '\r' || c == '\n') = false) (hheld : s.held = none)
    (hopen : s.indentColumn < columnAfter (l.takeWhile isSpacing) →
      e ⟨.indent, s.gap, l.takeWhile isSpacing, s.line, 0⟩ = ⟨.indent, b, l.takeWhile isSpacing, s.line, 0⟩)
    (hclose : ¬s.indentColumn < columnAfter (l.takeWhile isSpacing) → b = s.gap) :
    (s.scanStatement l).unnumbered e = { s.unnumbered e with gap := b }.scanStatement l := by
  have hheld' : ({ s.unnumbered e with gap := b } : Scanner).held = none := by simp [unnumbered, hheld]
  have hlay : (s.layOut (l.takeWhile isSpacing)).unnumbered e =
      { s.unnumbered e with gap := b }.layOut (l.takeWhile isSpacing) := by
    rw [layOut, unnumbered_leaveAsync, unnumbered_indentTo he hopen hclose]
    rfl
  have hfault : ({ s.unnumbered e with gap := b }.layOut (l.takeWhile isSpacing)).fault.isSome =
      (s.layOut (l.takeWhile isSpacing)).fault.isSome := by
    rw [← hlay]
    simp [unnumbered]
  rw [scanStatement_eq hd hc, scanStatement_eq hd hc, releaseName_of_held hheld, releaseName_of_held hheld', hfault]
  split
  · exact hlay
  · rw [unnumbered_scanRest he, hlay]

theorem unnumbered_scanContinued (l : List Char) :
    (s.scanContinued l).unnumbered e = (s.unnumbered e).scanContinued l :=
  unnumbered_scanRest he _ _

theorem unnumbered_scanString (o : OpenString) (l : List Char) :
    (s.scanString o l).unnumbered e = (s.unnumbered e).scanString o.unnumbered l := by
  have hclosing : o.unnumbered.closing? l = o.closing? l := rfl
  unfold scanString
  rw [hclosing]
  split
  · rename_i n _
    rw [unnumbered_scanRest he]
    have hover := unnumbered_overtake he (s := s) (t := ⟨.string, o.before, o.text ++ l.take n, o.line, o.column⟩)
      (by simp) n
    refine congrArg (Scanner.scanRest · _ _) ?_
    exact congrArg (fun s : Scanner => { s with inString := none }) hover
  · have htriple : o.unnumbered.triple = o.triple := rfl
    rw [htriple]
    split
    · rfl
    · have hover := unnumbered_overtake he (s := s) (t := ⟨.stray, o.before, o.text ++ l, o.line, o.column⟩)
        (by simp) l.length
      exact congrArg (fun s : Scanner => { s with inString := none }) hover

end

/-! ### Side by side -/

variable {s' : Scanner} {l : List Char} {L : List (List Char)}

/-- After a line with a part of a statement the gap is empty, unless the statement goes on. -/
theorem Lined.gap_eq (h : s.Lined L) (hl : IsLine l) (hbusy : s.midway = true ∨ ¬IsIdle l)
    (hf : (s.scanLine l).fault = none) : (s.scanLine l).midway = true ∨ (s.scanLine l).gap = [] := by
  cases hin : s.inString with
  | some o =>
    rw [scanLine_string h.fault hin, scanString] at hf ⊢
    cases hclose : o.closing? l with
    | some n =>
      simp only [hclose] at hf ⊢
      have hrest := isLine_drop hl (closing_fits (h.opened o hin).1 hl hclose)
      exact (scanRest_settles hrest rfl hf).imp id And.left
    | none =>
      simp only
      split
      · exact .inl (by simp [midway])
      · refine .inr ?_
        unfold overtake
        split <;> simp
  | none =>
    cases hm : s.midway with
    | true =>
      rw [scanLine_continued h.fault hin hm] at hf ⊢
      have hsettles := scanRest_settles (s := { s with line := s.line + 1, continued := false }) hl hin hf
      exact hsettles.imp id And.left
    | false =>
      rw [scanLine_statement h.fault hm] at hf ⊢
      rcases isLine_cases hl with hidle | ⟨c, cs, hd, hrest, hc⟩
      · exact absurd hidle (hbusy.resolve_left (by simp [hm]))
      · obtain ⟨s₂, heq, hlaid, -⟩ := scanStatement_laid (s := { s with line := s.line + 1 }) (h.settled hm).1 hin
          ⟨h.exact.text, h.exact.calm, h.exact.single⟩ h.fault hd hc hf
        rw [heq] at hf ⊢
        exact (scanRest_settles hrest (hlaid.inString.trans hin) hf).imp id And.left

/-- The second scanner has read the lines of the first one, retouched by `e`; between statements it waits with
the idle lines. -/
def Follows (e : Token → Token) (s s' : Scanner) : Prop :=
  s'.unnumbered id = if s.midway then s.unnumbered e else { s.unnumbered e with gap := [] }

theorem Follows.of_eq (h : s'.unnumbered id = s.unnumbered e) (hgap : s.midway = true ∨ s.gap = []) :
    Follows e s s' := by
  rw [Follows, h]
  rcases hgap with hm | hgap
  · rw [if_pos hm]
  · split
    · rfl
    · rw [← hgap]
      rfl

theorem foldl_idle {ls : List (List Char)} (hls : ∀ l ∈ ls, IsIdle l) (hf : s.fault = none) (hheld : s.held = none)
    (hm : s.midway = false) :
    ls.foldl scanLine s = { s with line := s.line + ls.length, gap := s.gap ++ ls.flatten } := by
  induction ls generalizing s with
  | nil => simp
  | cons l ls ih =>
    have hstep : s.scanLine l = { s with line := s.line + 1, gap := s.gap ++ l } := by
      rw [scanLine_statement hf hm, scanStatement_idle (hls l (by simp)),
        releaseName_of_held (s := { s with line := s.line + 1 }) hheld]
      rfl
    rw [List.foldl_cons, hstep, ih (s := { s with line := s.line + 1, gap := s.gap ++ l })
      (fun l' hl' => hls l' (by simp [hl'])) hf hheld hm]
    simp [Nat.add_assoc, Nat.add_comm 1]

theorem Follows.fault (h : Follows e s s') (hf : s.fault = none) : s'.fault = none := by
  have := congrArg Scanner.fault h
  cases hm : s.midway <;> simpa [hm, unnumbered, hf] using this

theorem Follows.midway (h : Follows e s s') : s'.midway = s.midway := by
  have := congrArg Scanner.midway h
  cases hm : s.midway <;> simp only [hm, unnumbered_midway, Bool.false_eq_true, ↓reduceIte] at this
  · exact this.trans (by simpa [Scanner.midway, unnumbered] using hm)
  · exact this

/-- A block that opens on a line has its token there. -/
theorem indent_mem {c : Char} {cs : List Char} (hd : l.dropWhile isSpacing = c :: cs)
    (hc : (c == '#' || c == '\r' || c == '\n') = false) (hf : s.fault = none) (hheld : s.held = none)
    (hlt : s.indentColumn < columnAfter (l.takeWhile isSpacing)) :
    ⟨.indent, s.gap, l.takeWhile isSpacing, s.line, 0⟩ ∈ (s.scanStatement l).tokens := by
  have hlay : ⟨.indent, s.gap, l.takeWhile isSpacing, s.line, 0⟩ ∈ (s.layOut (l.takeWhile isSpacing)).tokens := by
    rw [layOut, leaveAsync_tokens, indentTo, if_pos hlt]
    have htokens := emit_tokens (s := { s with indents := columnAfter (l.takeWhile isSpacing) :: s.indents }) hf
      .indent (l.takeWhile isSpacing) 0
    rw [htokens]
    exact List.mem_cons_self
  rw [scanStatement_eq hd hc, releaseName_of_held hheld]
  split
  · exact hlay
  · exact (Adds.scanRest _ _ _).suffix.subset hlay

section
variable (he : ∀ t : Token, t.kind ≠ .indent → e t = t) (hlined : s.Lined L) (hl : IsLine l)
  (hindent : ∀ t ∈ (s.scanLine l).tokens, t.kind = .indent → ∃ b, e t = { t with before := b } ∧ IdleLines b)
include he hlined

/-- A line inside a statement is read by both scanners. -/
theorem unnumbered_inside (h : s'.unnumbered id = s.unnumbered e) (hf' : s'.fault = none) (hm' : s'.midway = true)
    (hm : s.midway = true) : (s'.scanLine l).unnumbered id = (s.scanLine l).unnumbered e := by
  have hid : ∀ t : Token, t.kind ≠ .indent → id t = t := fun _ _ => rfl
  have hin' := congrArg Scanner.inString h
  cases hin : s.inString with
  | some o =>
    simp only [unnumbered, hin, Option.map_some, Option.map_eq_some_iff] at hin'
    obtain ⟨o', hin', ho⟩ := hin'
    rw [scanLine_string hf' hin', scanLine_string hlined.fault hin, unnumbered_scanString hid,
      unnumbered_scanString he, ho, unnumbered_line id s', unnumbered_line e s, h]
  | none =>
    simp only [unnumbered, hin, Option.map_none, Option.map_eq_none_iff] at hin'
    rw [scanLine_continued hf' hin' hm', scanLine_continued hlined.fault hin hm, unnumbered_scanContinued hid,
      unnumbered_scanContinued he, unnumbered_line id s', unnumbered_line e s, h]

include hl hindent in
/-- A line that starts a statement is read by both scanners, after the lines that wait. -/
theorem unnumbered_starts (h : s'.unnumbered id = { s.unnumbered e with gap := [] }) (hf' : s'.fault = none)
    (hm' : s'.midway = false) (hm : s.midway = false) (hbusy : ¬IsIdle l) :
    ∃ ls : List (List Char), (∀ l ∈ ls, IsLine l) ∧
      (ls.foldl Scanner.scanLine s').unnumbered id = (s.scanLine l).unnumbered e := by
  obtain ⟨c, cs, hd, -, hc⟩ := (isLine_cases hl).resolve_left hbusy
  obtain ⟨hheld, hgap⟩ := hlined.settled hm
  have hheld' : s'.held = none := by
    have := congrArg Scanner.held h
    simpa [unnumbered, hheld] using this
  have hgap' : s'.gap = [] := congrArg Scanner.gap h
  have hstep := scanLine_statement hlined.fault hm l
  set s₁ : Scanner := { s with line := s.line + 1 } with hs₁
  set blanks := l.takeWhile isSpacing with hblanks
  -- the text in front of the line in the second text
  obtain ⟨b, hopen, hclose, ls, rfl, hls⟩ : ∃ b,
      (s₁.indentColumn < columnAfter blanks →
        e ⟨.indent, s₁.gap, blanks, s₁.line, 0⟩ = ⟨.indent, b, blanks, s₁.line, 0⟩) ∧
      (¬s₁.indentColumn < columnAfter blanks → b = s₁.gap) ∧ IdleLines b := by
    by_cases hlt : s₁.indentColumn < columnAfter blanks
    · obtain ⟨b, hb, hidle⟩ := hindent _ (hstep ▸ indent_mem (s := s₁) hd hc hlined.fault hheld hlt) rfl
      exact ⟨b, fun _ => hb, fun hnot => absurd hlt hnot, hidle⟩
    · exact ⟨s.gap, fun hlt' => absurd hlt' hlt, fun _ => rfl, hgap⟩
  have hfold := foldl_idle hls hf' hheld' hm'
  rw [hgap', List.nil_append] at hfold
  set s₂ : Scanner := { s' with line := s'.line + ls.length, gap := ls.flatten } with hs₂
  have hs₂' : s₂.unnumbered id = { s.unnumbered e with gap := ls.flatten } := by
    have : s₂.unnumbered id = { s'.unnumbered id with gap := ls.flatten } := rfl
    rw [this, h]
  have hsecond := unnumbered_scanStatement (e := id) (fun _ _ => rfl) (s := { s₂ with line := s₂.line + 1 })
    (b := ls.flatten) hd hc hheld' (fun _ => rfl) fun _ => rfl
  refine ⟨ls ++ [l], fun l' hl' => ?_, ?_⟩
  · rcases List.mem_append.1 hl' with hl' | hl'
    · exact (hls l' hl').1
    · rwa [List.mem_singleton.1 hl']
  · rw [List.foldl_append, hfold, List.foldl_cons, List.foldl_nil, scanLine_statement (s := s₂) hf' hm', hsecond,
      unnumbered_line id s₂, hs₂', hstep, unnumbered_scanStatement he (s := s₁) hd hc hheld hopen hclose]
    rfl

include hl hindent in
theorem Follows.scanLine (h : Follows e s s') (hf : (s.scanLine l).fault = none) :
    ∃ ls : List (List Char), (∀ l ∈ ls, IsLine l) ∧ Follows e (s.scanLine l) (ls.foldl Scanner.scanLine s') := by
  have hf' := h.fault hlined.fault
  have hm' := h.midway
  cases hm : s.midway with
  | true =>
    rw [Follows, if_pos hm] at h
    refine ⟨[l], by simpa using hl, .of_eq ?_ (hlined.gap_eq hl (.inl hm) hf)⟩
    exact unnumbered_inside he hlined h hf' (hm'.trans hm) hm
  | false =>
    rw [Follows, if_neg (by simp [hm])] at h
    by_cases hidle : IsIdle l
    · refine ⟨[], by simp, ?_⟩
      rw [scanLine_statement hlined.fault hm, scanStatement_idle hidle,
        releaseName_of_held (s := { s with line := s.line + 1 }) (hlined.settled hm).1, Follows, if_neg]
      · exact h
      · simpa [Scanner.midway, skip] using hm
    · obtain ⟨ls, hls, heq⟩ := unnumbered_starts he hlined hl hindent h hf' (hm'.trans hm) hm hidle
      exact ⟨ls, hls, .of_eq heq (hlined.gap_eq hl (.inr hidle) hf)⟩

end

theorem exists_follows (he : ∀ t : Token, t.kind ≠ .indent → e t = t) (hL : ∀ l ∈ L, IsLine l)
    (hf : (run L).fault = none) (hstray : ∀ t ∈ (run L).tokens, t.kind ≠ .stray)
    (hindent : ∀ t ∈ (run L).tokens, t.kind = .indent → ∃ b, e t = { t with before := b } ∧ IdleLines b) :
    ∃ L', (∀ l ∈ L', IsLine l) ∧ Follows e (run L) (run L') := by
  induction L using List.reverseRecOn with
  | nil => exact ⟨[], by simp, by simp [Follows, run, unnumbered, midway]⟩
  | append_singleton L l ih =>
    rw [run_concat] at hf hstray hindent ⊢
    have hsubset := (Adds.scanLine (run L) l).suffix.subset
    have hL' : ∀ l' ∈ L, IsLine l' := fun l' hl' => hL l' (by simp [hl'])
    have hf' := fault_of_scanLine hf
    have hstray' : ∀ t ∈ (run L).tokens, t.kind ≠ .stray := fun t ht => hstray t (hsubset ht)
    obtain ⟨L', hlines, hfollows⟩ := ih hL' hf' hstray' fun t ht => hindent t (hsubset ht)
    obtain ⟨ls, hls, hnext⟩ := hfollows.scanLine he (lined_run hL' hf' hstray') (hL l (by simp)) hindent hf
    refine ⟨L' ++ ls, fun l' hl' => (List.mem_append.1 hl').elim (hlines l') (hls l'), ?_⟩
    rwa [run_append]

end Scanner

open Scanner

theorem Token.unnumbered_source (t : Token) : t.unnumbered.source = t.source := rfl

theorem flatMap_source_of_unnumbered {ts us : List Token}
    (h : ts.map Token.unnumbered = us.map Token.unnumbered) : ts.flatMap Token.source = us.flatMap Token.source := by
  have := congrArg (List.flatMap Token.source) h
  simpa [List.flatMap_map, Token.unnumbered_source] using this

theorem scan_settled {M : List (List Char)} (hM : ∀ l ∈ M, IsLine l) (hlined : (run M).Lined M)
    (hm : (run M).midway = false) : ∃ n, (scan M.flatten).tokens = (closeAll { run M with line := n }).tokens.reverse ∧
      (scan M.flatten).fault = none ∧ (scan M.flatten).tokens.flatMap Token.source = M.flatten := by
  obtain ⟨n, heq⟩ := hlined.finish_eq_closeAll hm
  have hexact : Exact { run M with line := n } M.flatten :=
    ⟨hlined.exact.text, hlined.exact.calm, hlined.exact.single⟩
  refine ⟨n, ?_⟩
  rw [scan_flatten hM, heq]
  exact ⟨rfl, (closeAll_tokens (s := { run M with line := n }) hlined.fault).1,
    hexact.closeAll hlined.fault (hlined.settled hm).1 (midway_eq_false hm).1⟩

/-- A text of complete lines with other idle lines in front of its blocks is cut into the same tokens, with
these lines in front of them. -/
theorem scan_retouched {e : Token → Token} {M : List (List Char)} (he : ∀ t : Token, t.kind ≠ .indent → e t = t)
    (hM : ∀ l ∈ M, IsLine l) (hlined : (run M).Lined M) (hm : (run M).midway = false)
    (hstray : ∀ t ∈ (run M).tokens, t.kind ≠ .stray)
    (hindent : ∀ t ∈ (run M).tokens, t.kind = .indent → ∃ b, e t = { t with before := b } ∧ IdleLines b) :
    (scan (((scan M.flatten).tokens.map e).flatMap Token.source)).fault = none ∧
      (scan (((scan M.flatten).tokens.map e).flatMap Token.source)).tokens.map Token.unnumbered =
        ((scan M.flatten).tokens.map e).map Token.unnumbered := by
  obtain ⟨L, hL, hfollows⟩ := exists_follows he hM hlined.fault hstray hindent
  obtain ⟨hheld, ls, hgap, hls⟩ := hlined.settled hm
  have hf' := hfollows.fault hlined.fault
  have hm' := hfollows.midway.trans hm
  rw [Follows, if_neg (by simp [hm])] at hfollows
  have hheld' : (run L).held = none := by
    have := congrArg Scanner.held hfollows
    simpa [unnumbered, hheld] using this
  -- the lines that still wait at the end
  have hrun : run (L ++ ls) = { run L with line := (run L).line + ls.length, gap := (run M).gap } := by
    have hgap' : (run L).gap = [] := congrArg Scanner.gap hfollows
    rw [run_append, foldl_idle hls hf' hheld' hm', hgap', hgap, List.nil_append]
  have hsame : (run (L ++ ls)).unnumbered id = (run M).unnumbered e := by
    have : (run (L ++ ls)).unnumbered id = { (run L).unnumbered id with gap := (run M).gap } := by rw [hrun]; rfl
    rw [this, hfollows]
    rfl
  have htokens := congrArg Scanner.tokens hsame
  have hlines : ∀ l ∈ L ++ ls, IsLine l := fun l hl =>
    (List.mem_append.1 hl).elim (hL l) fun hl => (hls l hl).1
  have hlined' : (run (L ++ ls)).Lined (L ++ ls) := by
    refine lined_run hlines (by rw [hrun]; exact hf') fun t ht hk => ?_
    have hmem := List.mem_map_of_mem (f := fun t => (id t).unnumbered) ht
    rw [show (run (L ++ ls)).tokens.map (fun t => (id t).unnumbered) =
      (run M).tokens.map fun t => (e t).unnumbered from htokens] at hmem
    obtain ⟨u, hu, heq⟩ := List.mem_map.1 hmem
    have hku : (e u).kind = u.kind := by
      by_cases hind : u.kind = .indent
      · obtain ⟨b, hb, -⟩ := hindent u hu hind
        rw [hb]
      · rw [he u hind]
    refine hstray u hu ?_
    rw [← hku, ← hk]
    exact show (e u).unnumbered.kind = (id t).unnumbered.kind from congrArg Token.kind heq
  obtain ⟨n, hscan, -, -⟩ := scan_settled hM hlined hm
  obtain ⟨n', hscan', hf'', htext'⟩ := scan_settled hlines hlined' (by rw [hrun]; exact hm')
  have hclosed : (closeAll { run (L ++ ls) with line := n' }).unnumbered id =
      (closeAll { run M with line := n }).unnumbered e := by
    rw [unnumbered_closeAll he, unnumbered_closeAll (e := id) fun _ _ => rfl]
    exact congrArg closeAll hsame
  have hmap : (scan (L ++ ls).flatten).tokens.map Token.unnumbered =
      ((scan M.flatten).tokens.map e).map Token.unnumbered := by
    have := congrArg Scanner.tokens hclosed
    rw [hscan, hscan', List.map_map, List.map_reverse, List.map_reverse]
    exact congrArg List.reverse this
  rw [← flatMap_source_of_unnumbered hmap, htext']
  exact ⟨hf'', hmap⟩

end TypeComments.Source
