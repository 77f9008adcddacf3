import TypeComments.Proofs.Reading

/-!
# The lines that strings start on

A string starts on the line that its token names: one more than the line feeds in front of it (`read_string`). The
scanner takes a piece off a line before the line feed of that line is read, so the number of the line is that of the
piece (`Scanner.Placed.scanRest`). A string that goes on over several lines keeps the number of its first one.
-/

namespace TypeComments.Source
variable {s text : List Char} {n : Nat} {L : List (List Char)} {l : List Char}

/-! ### How a string opens -/

/-- The text opens a string: with the letters in front of it and a quote. -/
def OpensString (text : List Char) : Prop :=
  ∃ mark q rest, text = mark ++ q :: rest ∧ isStringMark mark = true ∧ isQuote q = true

theorem OpensString.append (h : OpensString text) (more : List Char) : OpensString (text ++ more) := by
  obtain ⟨mark, q, rest, rfl, hmark, hq⟩ := h
  exact ⟨mark, q, rest ++ more, by simp, hmark, hq⟩

theorem opensString_take {k : Nat} {q : Char} (h : stringOpening? s = some (k, q)) (hn : k < n) :
    OpensString (s.take n) := by
  obtain ⟨rest, hd, hmark, hq⟩ := stringOpening_split h
  obtain ⟨d, rfl⟩ : ∃ d, n = k + (d + 1) := ⟨n - k - 1, by omega⟩
  exact ⟨s.take k, q, rest.take d, by rw [List.take_add, hd, List.take_succ_cons], hmark, hq⟩

theorem lexeme_opening {x : Lexeme} (h : lexeme? s = some (x, n))
    (hx : x = .string ∨ (∃ q, x = .openString q) ∨ ∃ q, x = .tripleQuote q) :
    ∃ k q, stringOpening? s = some (k, q) ∧ k < n := by
  cases lexeme_cases h with
  | tripleQuote hopen _ => exact ⟨_, _, hopen, by omega⟩
  | string hopen _ => exact ⟨_, _, hopen, by omega⟩
  | openString hopen _ => exact ⟨_, _, hopen, by omega⟩
  | _ => simp at hx

theorem pieceAt_opening {kind : PieceKind} (h : pieceAt? s = some (kind, n))
    (hkind : kind = .string ∨ kind.quote?.isSome = true) : OpensString (s.take n) := by
  -- a string that goes on takes the whole text, which is longer than the letters in front of the quote
  have hall {k : Nat} {q : Char} (hopen : stringOpening? s = some (k, q)) : OpensString (s.take s.length) := by
    obtain ⟨rest, hd, -⟩ := stringOpening_split hopen
    refine opensString_take hopen ?_
    by_contra hle
    rw [List.drop_eq_nil_of_le (by omega)] at hd
    cases hd
  cases pieceAt_cases h with
  | triple hx hm =>
    obtain ⟨k, q, hopen, hk⟩ := lexeme_opening hx (.inr (.inr ⟨_, rfl⟩))
    exact opensString_take hopen (by omega)
  | openTriple hx =>
    obtain ⟨k, q, hopen, -⟩ := lexeme_opening hx (.inr (.inr ⟨_, rfl⟩))
    exact hall hopen
  | string hx =>
    obtain ⟨k, q, hopen, hk⟩ := lexeme_opening hx (.inl rfl)
    exact opensString_take hopen hk
  | openString hx =>
    obtain ⟨k, q, hopen, -⟩ := lexeme_opening hx (.inr (.inl ⟨_, rfl⟩))
    exact hall hopen
  | _ => simp [PieceKind.quote?] at hkind

theorem cutPiece_opening (c : Char) (cs : List Char)
    (h : (cutPiece c cs).kind = .string ∨ (cutPiece c cs).kind.quote?.isSome = true) :
    OpensString (cutPiece c cs).text := by
  rcases cutPiece_cases c cs with ⟨-, heq⟩ | ⟨kind, n, hpiece, heq⟩
  · rw [heq] at h
    simp [PieceKind.quote?] at h
  · rw [heq] at h ⊢
    exact pieceAt_opening hpiece h

/-! ### Line feeds of complete lines -/

theorem isLine_count (h : IsLine l) : l.count '\n' = 1 := by
  obtain ⟨t, rfl, ht⟩ := h
  rw [List.count_append, List.count_eq_zero_of_not_mem ht]
  rfl

theorem count_flatten_lines (hL : ∀ l ∈ L, IsLine l) : L.flatten.count '\n' = L.length := by
  induction L with
  | nil => rfl
  | cons l L ih =>
    rw [List.flatten_cons, List.count_append, isLine_count (hL l (.head _)), ih fun m hm => hL m (.tail _ hm),
      List.length_cons]
    omega

theorem not_mem_of_isLine {front rest : List Char} (h : IsLine (front ++ rest)) (hrest : IsLine rest) :
    '\n' ∉ front := by
  have hcount := isLine_count h
  rw [List.count_append, isLine_count hrest] at hcount
  exact List.count_eq_zero.1 (by omega)

/-! ### The scanner -/

/-- A string starts on the line that its token names, when `front` stands in front of the token. -/
def Token.Placed (front : List Char) (t : Token) : Prop :=
  t.kind = .string → t.line = (front ++ t.before).count '\n' + 1 ∧ OpensString t.text

/-- The strings among the tokens, last first, start on the lines that their tokens name. -/
def TokensPlaced : List Token → Prop
  | [] => True
  | t :: ts => t.Placed (ts.reverse.flatMap Token.source) ∧ TokensPlaced ts

theorem TokensPlaced.append {ts added : List Token} (h : TokensPlaced ts) (hadded : ∀ t ∈ added, t.kind ≠ .string) :
    TokensPlaced (added ++ ts) := by
  induction added with
  | nil => exact h
  | cons t added ih =>
    exact ⟨fun hk => absurd hk (hadded t (.head _)), ih fun u hu => hadded u (.tail _ hu)⟩

theorem TokensPlaced.of_split {later earlier : List Token} {t : Token} (h : TokensPlaced (later ++ t :: earlier)) :
    t.Placed (earlier.reverse.flatMap Token.source) := by
  induction later with
  | nil => exact h.1
  | cons u later ih => exact ih h.2

namespace Scanner
variable {s s' : Scanner} {x : List Char}

/-- The strings found, and the string that is open, start on the lines that are noted for them. -/
structure Placed (s : Scanner) : Prop where
  tokens : TokensPlaced s.tokens
  opened : ∀ o ∈ s.inString, OpensString o.text ∧
    o.line = (s.tokens.reverse.flatMap Token.source ++ s.heldText ++ o.before).count '\n' + 1

theorem Placed.of_grows (h : s.Placed) (hgrows : Grows (· ≠ .string) s s') (hin : s'.inString = none) : s'.Placed := by
  obtain ⟨added, htokens, hkinds⟩ := hgrows.tokens
  refine ⟨?_, by simp [hin]⟩
  rw [htokens]
  exact h.tokens.append hkinds

theorem Grows.take_of_ne_string (s : Scanner) (column : Nat) (t : List Char) {piece : PieceKind}
    (hp : piece ≠ .string) : Grows (· ≠ .string) s (s.take column t piece) := by
  have hrelease : Grows (· ≠ .string) s s.releaseName := .release s (by simp)
  cases piece with
  | comment => exact hrelease.trans (same ⟨rfl, rfl, rfl, rfl, rfl⟩)
  | continuation => exact hrelease.trans (same ⟨rfl, rfl, rfl, rfl, rfl⟩)
  | string => exact absurd rfl hp
  | number => exact .overtake s (by simp) _
  | lineEnd =>
    simp only [Scanner.take, emitLineEnd]
    split
    · exact hrelease.trans (same ⟨rfl, rfl, rfl, rfl, rfl⟩)
    · exact of_same ((Grows.release _ (by simp)).trans (.emit _ (by simp) t column)) ⟨rfl, rfl, rfl, rfl, rfl⟩
  | operator =>
    simp only [Scanner.take, emitOperator]
    exact of_same ((Grows.release _ (by simp)).trans (.emit _ (by simp) t column)) ⟨rfl, rfl, rfl, rfl, rfl⟩
  | word => exact .emitWord (by simp) (by simp) (by simp) s t column
  | opened q triple => exact same ⟨rfl, rfl, rfl, rfl, rfl⟩
  | stray => exact .overtake s (by simp) _

/-- What stands in front of the next token, as long as no word is held back and no string is open. -/
theorem Exact.front_eq (h : s.Exact x) (hheld : s.held = none) (hin : s.inString = none) :
    s.tokens.reverse.flatMap Token.source ++ s.gap = x := by
  rw [← h.text]
  simp [Scanner.text, heldText, openText, hheld, hin]

theorem Placed.take (h : s.Placed) (hexact : s.Exact x) (hin : s.inString = none) (hline : s.line = x.count '\n' + 1)
    {column : Nat} {t : List Char} {piece : PieceKind}
    (hopens : piece = .string ∨ piece.quote?.isSome = true → OpensString t)
    (hf : (s.take column t piece).fault = none) : (s.take column t piece).Placed := by
  by_cases hstring : piece = .string
  · subst hstring
    have hr : s.releaseName.fault = none := fault_of_emit hf
    obtain ⟨hexact', hheld⟩ : s.releaseName.Exact x ∧ s.releaseName.held = none := hexact.release hr
    have hgrows : Grows (· ≠ .string) s s.releaseName := .release s (by simp)
    have hin' : s.releaseName.inString = none := by simpa [releaseName] using hin
    have hplaced := h.of_grows hgrows hin'
    refine ⟨?_, by simp [Scanner.take, Scanner.emit, hin']⟩
    show TokensPlaced (s.releaseName.emit .string t column).tokens
    rw [emit_tokens hr]
    refine ⟨fun _ => ⟨?_, hopens (.inl rfl)⟩, hplaced.tokens⟩
    dsimp only
    rw [hexact'.front_eq hheld hin', ← hline]
    exact hgrows.line
  · have hgrows := Grows.take_of_ne_string s column t hstring
    cases hq : piece.quote? with
    | none => exact h.of_grows hgrows (take_inString hin hq _ _)
    | some q =>
      -- the piece opens a string, which takes the gap
      cases piece with
      | opened q' triple =>
        refine ⟨h.tokens, fun o ho => ?_⟩
        obtain rfl := Option.some.inj ho
        refine ⟨hopens (.inr rfl), ?_⟩
        have hfront : s.tokens.reverse.flatMap Token.source ++ s.heldText ++ s.gap = x := by
          rw [← hexact.text]
          simp [Scanner.text, openText, hin]
        show s.line = (s.tokens.reverse.flatMap Token.source ++ s.heldText ++ s.gap).count '\n' + 1
        rw [hfront, hline]
      | _ => simp [PieceKind.quote?] at hq

theorem cutPiece_blanks (c : Char) (cs : List Char) : '\n' ∉ (cutPiece c cs).blanks := by
  rcases cutPiece_cases c cs with ⟨-, heq⟩ | ⟨kind, n, -, heq⟩
  · simp [heq]
  · rw [heq]
    intro hmem
    have := List.mem_takeWhile_imp hmem
    revert this
    decide

/-- Cutting the rest of a line, whose line feed is still to come. -/
theorem Placed.scanRest {column : Nat} {line : List Char} (h : s.Placed) (hexact : s.Exact x)
    (hin : s.inString = none ∨ line = []) (hl : line = [] ∨ IsLine line)
    (hline : line ≠ [] → s.line = x.count '\n' + 1) (hf : (s.scanRest column line).fault = none) :
    (s.scanRest column line).Placed := by
  fun_induction Scanner.scanRest s column line generalizing x with
  | case1 => exact h
  | case2 s column c cs next start =>
    rename_i ih
    have hl' : IsLine (c :: cs) := hl.resolve_left (by simp)
    have hin' : (s.skip next.blanks).inString = none := hin.resolve_right (by simp)
    have hf' := fault_of_scanRest hf
    have hskip : (s.skip next.blanks).Placed := ⟨h.tokens, by simp [hin']⟩
    have hexact' := hexact.skip next.blanks
    have hline' : (s.skip next.blanks).line = (x ++ next.blanks).count '\n' + 1 := by
      rw [List.count_append, List.count_eq_zero_of_not_mem (cutPiece_blanks c cs)]
      exact hline (by simp)
    have hcut : IsLine ((next.blanks ++ next.text) ++ next.rest) := by
      rwa [cutPiece_append c cs]
    refine ih (hskip.take hexact' hin' hline' (cutPiece_opening c cs) hf') (hexact'.take hin' hf') ?_ ?_ ?_ hf
    · cases hq : next.kind.quote? with
      | none => exact .inl (take_inString hin' hq _ _)
      | some q => exact .inr (cutPiece_quote c cs q hq).2
    · exact (cutPiece_rest hl').symm.imp_left And.left
    · intro hne
      have hrest : IsLine next.rest := (cutPiece_rest hl').resolve_right fun hnil => hne hnil.1
      have htext : '\n' ∉ next.text := fun hmem => not_mem_of_isLine hcut hrest (List.mem_append_right _ hmem)
      have hgrows : Grows (fun _ => True) (s.skip next.blanks) ((s.skip next.blanks).take start next.text next.kind) :=
        .take (fun _ _ => trivial) _ _ _ fun _ => trivial
      rw [hgrows.line, hline', List.count_append, List.count_append, List.count_append,
        List.count_eq_zero_of_not_mem htext, Nat.add_zero]

/-- Before its line feed is read, a line has the number that its text is counted to. -/
theorem Lined.nextLine (h : s.Lined L) (hL : ∀ l ∈ L, IsLine l) {front : List Char} (hfront : '\n' ∉ front) :
    s.line + 1 = (L.flatten ++ front).count '\n' + 1 := by
  rw [List.count_append, List.count_eq_zero_of_not_mem hfront, count_flatten_lines hL, h.line, Nat.add_zero]

theorem Placed.string (h : s.Placed) (hlined : s.Lined L) (hL : ∀ l ∈ L, IsLine l) (hl : IsLine l) {o : OpenString}
    (hin : s.inString = some o) (hf : ({ s with line := s.line + 1 }.scanString o l).fault = none) :
    Placed ({ s with line := s.line + 1 }.scanString o l) := by
  set s₁ : Scanner := { s with line := s.line + 1 } with hs₁
  have hexact : s₁.Exact L.flatten := ⟨hlined.exact.text, hlined.exact.calm, hlined.exact.single⟩
  obtain ⟨hquote, hgap⟩ := hlined.opened o hin
  obtain ⟨hopens, hstart⟩ := h.opened o hin
  have hover (kind : Kind) (more : List Char) (e : Nat) : Placed
      { s₁.overtake ⟨kind, o.before, o.text ++ more, o.line, o.column⟩ e with inString := none } := by
    refine ⟨?_, by simp⟩
    show TokensPlaced (s₁.overtake ⟨kind, o.before, o.text ++ more, o.line, o.column⟩ e).tokens
    rw [overtake_tokens (s := s₁) hlined.fault]
    refine ⟨fun _ => ⟨?_, hopens.append more⟩, h.tokens⟩
    rw [← List.append_assoc]
    exact hstart
  unfold scanString at hf ⊢
  cases hclose : o.closing? l with
  | some n =>
    simp only [hclose] at hf ⊢
    set t : Token := ⟨.string, o.before, o.text ++ l.take n, o.line, o.column⟩ with ht
    have hrest := isLine_drop hl (closing_fits hquote hl hclose)
    have hfeed : '\n' ∉ l.take n := not_mem_of_isLine (by rwa [List.take_append_drop]) hrest
    have hgrows := Grows.overtake (p := fun _ => True) s₁ (t := t) trivial n
    have hexact' := hexact.overtake (t := t) (u := l.take n) hlined.fault
      (by simp [ht, Token.source, openText, hs₁, hin, hgap]) n
    exact (hover .string _ n).scanRest hexact' (.inl rfl) (.inr hrest)
      (fun _ => hgrows.line.trans (hlined.nextLine hL hfeed)) hf
  | none =>
    simp only [hclose] at hf ⊢
    split
    · refine ⟨h.tokens, fun o' ho' => ?_⟩
      obtain rfl := Option.some.inj ho'
      exact ⟨hopens.append l, hstart⟩
    · exact hover .stray l l.length

theorem Placed.continued (h : s.Placed) (hlined : s.Lined L) (hL : ∀ l ∈ L, IsLine l) (hl : IsLine l)
    (hin : s.inString = none) (hf : ({ s with line := s.line + 1 }.scanContinued l).fault = none) :
    Placed ({ s with line := s.line + 1 }.scanContinued l) := by
  have hexact : Exact { s with line := s.line + 1, continued := false } (L.flatten ++ []) :=
    ⟨by rw [List.append_nil, ← hlined.exact.text]; rfl, hlined.exact.calm, hlined.exact.single⟩
  have hplaced : Placed { s with line := s.line + 1, continued := false } := ⟨h.tokens, h.opened⟩
  exact hplaced.scanRest hexact (.inl hin) (.inr hl) (fun _ => hlined.nextLine hL (by simp)) hf

theorem Placed.statement (h : s.Placed) (hlined : s.Lined L) (hL : ∀ l ∈ L, IsLine l) (hl : IsLine l)
    (hm : s.midway = false) (hf : ({ s with line := s.line + 1 }.scanStatement l).fault = none) :
    Placed ({ s with line := s.line + 1 }.scanStatement l) := by
  set s₁ : Scanner := { s with line := s.line + 1 } with hs₁
  have hexact : s₁.Exact L.flatten := ⟨hlined.exact.text, hlined.exact.calm, hlined.exact.single⟩
  have hheld := (hlined.settled hm).1
  have hin := (midway_eq_false hm).1
  have hrel : s₁.releaseName = s₁ := releaseName_of_held hheld
  rcases isLine_cases hl with hidle | ⟨c, cs, hd, hrest, hc⟩
  · rw [scanStatement_idle hidle, hrel]
    exact ⟨h.tokens, h.opened⟩
  · obtain ⟨s₂, heq, hlaid, hexact', htokens⟩ := scanStatement_laid (s := s₁) hheld hin hexact hlined.fault hd hc hf
    rw [heq] at hf ⊢
    have hlay : s₂.Placed := by
      refine ⟨?_, fun o ho => ?_⟩
      · rcases htokens with ht | ⟨added, ht, hk⟩
        · rw [ht]
          exact ⟨by simp [Token.Placed], h.tokens⟩
        · rw [ht]
          exact h.tokens.append fun t ht => by simp [hk t ht]
      · rw [hlaid.inString, hs₁, hin] at ho
        cases ho
    have hall : IsLine (l.takeWhile isSpacing ++ (c :: cs)) := by rwa [← hd, List.takeWhile_append_dropWhile]
    exact hlay.scanRest hexact' (.inl (hlaid.inString.trans hin)) (.inr hrest)
      (fun _ => hlaid.line.trans (hlined.nextLine hL (not_mem_of_isLine hall hrest))) hf

theorem Placed.scanLine (h : s.Placed) (hlined : s.Lined L) (hL : ∀ l ∈ L, IsLine l) (hl : IsLine l)
    (hf : (s.scanLine l).fault = none) : (s.scanLine l).Placed := by
  cases hin : s.inString with
  | some o =>
    rw [scanLine_string hlined.fault hin] at hf ⊢
    exact h.string hlined hL hl hin hf
  | none =>
    cases hm : s.midway with
    | true =>
      rw [scanLine_continued hlined.fault hin hm] at hf ⊢
      exact h.continued hlined hL hl hin hf
    | false =>
      rw [scanLine_statement hlined.fault hm] at hf ⊢
      exact h.statement hlined hL hl hm hf

theorem placed_run (hL : ∀ l ∈ L, IsLine l) (hf : (run L).fault = none)
    (hstray : ∀ t ∈ (run L).tokens, t.kind ≠ .stray) : (run L).Placed := by
  induction L using List.reverseRecOn with
  | nil => exact ⟨trivial, by simp [run]⟩
  | append_singleton L l ih =>
    rw [run_concat] at hf hstray ⊢
    have hL' : ∀ l ∈ L, IsLine l := fun l' hl' => hL l' (by simp [hl'])
    have hf' := fault_of_scanLine hf
    have hstray' : ∀ t ∈ (run L).tokens, t.kind ≠ .stray := fun t ht =>
      hstray t ((Adds.scanLine _ l).suffix.subset ht)
    exact (ih hL' hf' hstray').scanLine (lined_run hL' hf' hstray') hL' (hL l (by simp)) hf

end Scanner

/-- A string of a text that is read opens as a string does, and starts on the line that its token names. -/
theorem read_string {source : List Char} {tree : Tree} (h : read source = .ok tree) {front back : List Token}
    {t : Token} (hleaves : tree.leaves = front ++ t :: back) (hk : t.kind = .string) :
    t.line = (front.flatMap Token.source ++ t.before).count '\n' + 1 ∧ OpensString t.text := by
  obtain ⟨hscan, -, printWord, hderives⟩ := read_leaves h
  obtain ⟨M, others, last, more, hM⟩ := read_completes h
  rw [hscan, hM.tokens] at hleaves
  have hstray : ∀ u ∈ (Scanner.run M).tokens, u.kind ≠ .stray := by
    intro u hu
    rw [← List.mem_reverse, hM.front, List.mem_append] at hu
    rcases hu with hu | hu
    · exact hderives.not_stray u (by rw [hscan, hM.tokens]; exact List.mem_append_left _ hu)
    · simp [hM.more u hu]
  have hlast : t ∉ last := by
    obtain ⟨dedents, marker, heq, hmarker, hdedents⟩ := hM.last
    intro hmem
    rw [heq, List.mem_append, List.mem_singleton] at hmem
    rcases hmem with hmem | rfl
    · simp [hdedents t hmem] at hk
    · simp [hmarker] at hk
  obtain ⟨mid, hothers⟩ : ∃ mid, others = front ++ t :: mid := by
    rcases List.append_eq_append_iff.1 hleaves with ⟨mid, -, heq⟩ | ⟨mid, hothers, heq⟩
    · exact absurd (by simp [heq]) hlast
    · cases mid with
      | nil => exact absurd (by rw [← List.nil_append last, ← heq]; exact List.mem_cons_self) hlast
      | cons u mid =>
        obtain ⟨rfl, -⟩ := List.cons.inj heq
        exact ⟨mid, hothers⟩
  have hplaced := (Scanner.placed_run hM.lines hM.lined.fault hstray).tokens
  have htokens : (Scanner.run M).tokens = (mid ++ more).reverse ++ t :: front.reverse := by
    rw [← List.reverse_reverse (Scanner.run M).tokens, hM.front, hothers]
    simp
  rw [htokens] at hplaced
  simpa using hplaced.of_split hk

/-! ### Physical lines -/

theorem exists_physicalLine {x p y : List Char} (hp : '\n' ∉ p) (hne : p ≠ []) :
    ∃ l, (physicalLines (x ++ p ++ y))[x.count '\n']? = some l ∧ p <:+: l := by
  obtain ⟨ls, u, rfl, hls, hu⟩ := exists_lines x
  obtain ⟨ms, w, rfl, hms, hw⟩ := exists_lines y
  have hcount : (ls.flatten ++ u).count '\n' = ls.length := by
    rw [List.count_append, count_flatten_lines hls, List.count_eq_zero_of_not_mem hu, Nat.add_zero]
  have hup : '\n' ∉ u ++ p := by simp [hu, hp]
  cases ms with
  | nil =>
    have htext : ls.flatten ++ u ++ p ++ ([].flatten ++ w) = ls.flatten ++ (u ++ p ++ w) := by simp
    have hall : '\n' ∉ u ++ p ++ w := by simp [hu, hp, hw]
    refine ⟨u ++ p ++ w, ?_, u, w, rfl⟩
    rw [hcount, htext, physicalLines_lines hls hall, if_neg (by simp [hne])]
    simp
  | cons m ms =>
    obtain ⟨v, rfl, hv⟩ := hms m (.head _)
    have hline : IsLine (u ++ p ++ (v ++ ['\n'])) := ⟨u ++ p ++ v, by simp, by simp [hu, hp, hv]⟩
    have htext : ls.flatten ++ u ++ p ++ (((v ++ ['\n']) :: ms).flatten ++ w) =
        ls.flatten ++ (u ++ p ++ (v ++ ['\n']) ++ (ms.flatten ++ w)) := by simp
    refine ⟨_, ?_, u, v ++ ['\n'], rfl⟩
    rw [hcount, htext, physicalLines_flatten_append hls, hline.physicalLines_append]
    simp

/-- Completing a text changes no line but the last, which gets its line feed. -/
theorem physicalLine_of_completed {source p : List Char} {i : Nat} (hp : '\n' ∉ p) (hne : p ≠ [])
    (h : ∃ l, (physicalLines (completed source))[i]? = some l ∧ p <:+: l) :
    ∃ l, (physicalLines source)[i]? = some l ∧ p <:+: l := by
  obtain ⟨l, hl, hinfix⟩ := h
  obtain ⟨L, t, rfl, hL, ht⟩ := exists_lines source
  rw [completed_lines hL ht] at hl
  rw [physicalLines_lines hL ht]
  by_cases hblank : t.all isSpacing = true
  · rw [if_pos hblank, List.append_nil, physicalLines_flatten hL] at hl
    exact ⟨l, by rw [List.getElem?_append_left (List.getElem?_eq_some_iff.1 hl).1, hl], hinfix⟩
  · have htne : t ≠ [] := by
      rintro rfl
      exact hblank rfl
    have hlast := IsLine.physicalLines_append ⟨t, rfl, ht⟩ []
    rw [List.append_nil] at hlast
    rw [if_neg hblank, physicalLines_flatten_append hL, hlast] at hl
    rw [if_neg (by simpa using htne)]
    rcases Nat.lt_or_ge i L.length with hi | hi
    · rw [List.getElem?_append_left hi] at hl ⊢
      exact ⟨l, hl, hinfix⟩
    · rw [List.getElem?_append_right hi] at hl ⊢
      have hlt := (List.getElem?_eq_some_iff.1 hl).1
      have hzero : i - L.length = 0 := by simpa [physicalLines, physicalLinesFrom] using hlt
      rw [hzero] at hl ⊢
      obtain rfl := Option.some.inj hl
      refine ⟨t, rfl, (List.infix_concat_iff.1 hinfix).resolve_left fun hsuffix => ?_⟩
      rcases List.suffix_concat_iff.1 hsuffix with hnil | ⟨u, rfl, -⟩
      · exact hne hnil
      · exact hp (by simp)

end TypeComments.Source
