import TypeComments.Proofs.Lexemes
import TypeComments.Proofs.TextLines
import TypeComments.Source.Token.Scan

/-!
# The scanner keeps the text

What the scanner has read is what stands in its tokens, in the word it holds back, in the string that is
open and in the gap, one after the other: `Scanner.Exact`. Taking a piece of a line keeps this
(`Scanner.Exact.take`), so cutting a line does, and so does every run over lines. Cutting the rest of a line
adds no token of layout and leaves the open blocks as they are (`Scanner.Grows`).
-/

namespace TypeComments.Source
variable {c q : Char} {cs s : List Char} {k n : Nat}

/-! ### Pieces -/

theorem isLine_room (h : IsLine s) : room s + 1 = s.length := by
  obtain ⟨t, rfl, ht⟩ := h
  have hroom : room (t ++ ['\n']) = t.length := by
    induction t with
    | nil => rfl
    | cons d t ih =>
      rw [List.mem_cons, not_or] at ht
      rw [List.cons_append, room_cons (Ne.symm ht.1), ih ht.2, List.length_cons]
  simp [hroom]

theorem isLine_oneLine (h : IsLine s) : OneLine s := by
  obtain ⟨t, rfl, ht⟩ := h
  simpa [OneLine] using ht

theorem isLine_drop (h : IsLine s) (hk : k ≤ room s) : IsLine (s.drop k) := by
  have hlen := isLine_room h
  obtain ⟨t, rfl, ht⟩ := h
  rw [List.length_append, List.length_singleton] at hlen
  refine ⟨t.drop k, ?_, fun hmem => ht (List.mem_of_mem_drop hmem)⟩
  rw [List.drop_append_of_le_length (by omega)]

theorem drop_length_takeWhile (p : Char → Bool) (s : List Char) :
    s.drop (s.takeWhile p).length = s.dropWhile p := by
  induction s with
  | nil => rfl
  | cons c s ih => cases hc : p c <;> simp [hc, ih]

theorem isLine_dropWhile (h : IsLine s) : IsLine (s.dropWhile isSpacing) := by
  rw [← drop_length_takeWhile]
  refine isLine_drop h (length_le_room (List.takeWhile_prefix _) fun hmem => ?_)
  have hspacing := List.mem_takeWhile_imp hmem
  revert hspacing
  decide

/-- Kinds of pieces that a line can end with. -/
def PieceKind.ends : PieceKind → Bool
  | .lineEnd | .continuation | .opened _ _ => true
  | _ => false

/-- The quote that a piece opens. -/
def PieceKind.quote? : PieceKind → Option Char
  | .opened q _ => some q
  | _ => none

/-- What the scanner takes the piece at the start of a text for, with its length. -/
inductive IsPiece (s : List Char) : PieceKind → Nat → Prop
  | continuation {n : Nat} : lexeme? s = some (.continuation, n) → IsPiece s .continuation n
  | comment {n : Nat} : lexeme? s = some (.comment, n) → IsPiece s .comment n
  | triple {q : Char} {n m : Nat} : lexeme? s = some (.tripleQuote q, n) → closingTriple? q (s.drop n) = some m →
      IsPiece s .string (n + m)
  | openTriple {q : Char} {n : Nat} : lexeme? s = some (.tripleQuote q, n) → IsPiece s (.opened q true) s.length
  | number {n : Nat} : lexeme? s = some (.number, n) → IsPiece s .number n
  | lineEnd {n : Nat} : lexeme? s = some (.lineEnd, n) → IsPiece s .lineEnd n
  | string {n : Nat} : lexeme? s = some (.string, n) → IsPiece s .string n
  | openString {q : Char} {n : Nat} : lexeme? s = some (.openString q, n) → IsPiece s (.opened q false) s.length
  | word {n : Nat} : lexeme? s = some (.word, n) → IsPiece s .word n
  -- also a number without an ASCII digit in front and a word that opens no identifier
  | operator {x : Lexeme} {n : Nat} : lexeme? s = some (x, n) → x = .number ∨ x = .operator ∨ x = .word →
      IsPiece s .operator n

theorem pieceAt_cases {kind : PieceKind} (h : pieceAt? s = some (kind, n)) : IsPiece s kind n := by
  unfold pieceAt? at h
  split at h
  · cases h
  · cases h; exact .continuation ‹_›
  · cases h; exact .comment ‹_›
  · split at h
    · cases h; exact .openTriple ‹_›
    · cases h; exact .triple ‹_› ‹_›
  · split at h
    · cases h; exact .number ‹_›
    · cases h; exact .operator ‹_› (.inl rfl)
  · cases h; exact .lineEnd ‹_›
  · cases h; exact .operator ‹_› (.inr (.inl rfl))
  · cases h; exact .string ‹_›
  · cases h; exact .openString ‹_›
  · split at h
    · cases h; exact .word ‹_›
    · cases h; exact .operator ‹_› (.inr (.inr rfl))

/-- The pieces that end no line and open no string stand in front of the line feed. -/
theorem lexeme_le_room {x : Lexeme} (h : lexeme? s = some (x, n)) (hend : x ≠ .lineEnd) (hcont : x ≠ .continuation)
    (hopen : ∀ q, x ≠ .openString q) : n ≤ room s := by
  rcases (lexeme_fits h).2.1 with hle | ⟨-, heq | heq⟩ | ⟨q, heq⟩
  · exact hle
  · exact absurd heq hend
  · exact absurd heq hcont
  · exact absurd heq (hopen q)

theorem pieceAt_fits {kind : PieceKind} (h : pieceAt? s = some (kind, n)) :
    0 < n ∧ (OneLine s → n ≤ room s ∨ kind.ends = true) ∧
      ∀ q ∈ kind.quote?, isQuote q = true ∧ n = s.length := by
  have hpos : 0 < s.length := by
    refine List.length_pos_iff.2 ?_
    rintro rfl
    rw [show pieceAt? [] = none from rfl] at h
    simp at h
  -- a piece that ends no line and is no string that goes on
  have hinner {x : Lexeme} {kind : PieceKind} (hx : lexeme? s = some (x, n)) (hend : x ≠ .lineEnd)
      (hcont : x ≠ .continuation) (hopen : ∀ q, x ≠ .openString q) (hkind : kind.quote? = none) :
      0 < n ∧ (OneLine s → n ≤ room s ∨ kind.ends = true) ∧ ∀ q ∈ kind.quote?, isQuote q = true ∧ n = s.length :=
    ⟨(lexeme_fits hx).1, fun _ => .inl (lexeme_le_room hx hend hcont hopen), by simp [hkind]⟩
  cases pieceAt_cases h with
  | continuation hx => exact ⟨(lexeme_fits hx).1, fun _ => .inr rfl, by simp [PieceKind.quote?]⟩
  | lineEnd hx => exact ⟨(lexeme_fits hx).1, fun _ => .inr rfl, by simp [PieceKind.quote?]⟩
  | triple hx hm =>
    have hfits := lexeme_fits hx
    refine ⟨by omega, fun hs => .inl ?_, by simp [PieceKind.quote?]⟩
    exact add_le_room (hfits.2.1.resolve_right (by simp)) (closingTriple_le_room hfits.2.2 (hs.drop _) hm)
  | openTriple hx =>
    exact ⟨hpos, fun _ => .inr rfl, by simpa [PieceKind.quote?, Lexeme.quote?] using (lexeme_fits hx).2.2⟩
  | openString hx =>
    exact ⟨hpos, fun _ => .inr rfl, by simpa [PieceKind.quote?, Lexeme.quote?] using (lexeme_fits hx).2.2⟩
  | comment hx => exact hinner hx nofun nofun nofun rfl
  | number hx => exact hinner hx nofun nofun nofun rfl
  | string hx => exact hinner hx nofun nofun nofun rfl
  | word hx => exact hinner hx nofun nofun nofun rfl
  | operator hx hkind => rcases hkind with rfl | rfl | rfl <;> exact hinner hx nofun nofun nofun rfl

/-- How a piece is cut off: as the one character that starts no piece, or behind the blanks. -/
theorem cutPiece_cases (c : Char) (cs : List Char) :
    (pieceAt? ((c :: cs).dropWhile isSpacing) = none ∧ cutPiece c cs = ⟨.stray, [], [c], cs⟩) ∨
      ∃ kind n, pieceAt? ((c :: cs).dropWhile isSpacing) = some (kind, n) ∧
        cutPiece c cs = ⟨kind, (c :: cs).takeWhile isSpacing, ((c :: cs).dropWhile isSpacing).take n,
          ((c :: cs).dropWhile isSpacing).drop n⟩ := by
  cases h : pieceAt? ((c :: cs).dropWhile isSpacing) with
  | none => exact .inl ⟨rfl, by simp only [cutPiece, h]⟩
  | some piece =>
    obtain ⟨kind, n⟩ := piece
    have hpos := (pieceAt_fits h).1
    have hrest : cs.drop (((c :: cs).takeWhile isSpacing).length + n - 1) =
        ((c :: cs).dropWhile isSpacing).drop n := by
      rw [← drop_length_takeWhile, List.drop_drop, ← List.drop_succ_cons (a := c)]
      congr 1
      omega
    exact .inr ⟨kind, n, rfl, by simp only [cutPiece, h, hrest]⟩

/-- A piece with the blanks in front of it and what is left are the line. -/
theorem cutPiece_append (c : Char) (cs : List Char) :
    (cutPiece c cs).blanks ++ (cutPiece c cs).text ++ (cutPiece c cs).rest = c :: cs := by
  rcases cutPiece_cases c cs with ⟨-, h⟩ | ⟨kind, n, -, h⟩
  · rw [h]
    rfl
  · rw [h, List.append_assoc, List.take_append_drop, List.takeWhile_append_dropWhile]

/-- What is left of a complete line is one, until its line feed is taken. -/
theorem cutPiece_rest (hl : IsLine (c :: cs)) :
    IsLine (cutPiece c cs).rest ∨ ((cutPiece c cs).rest = [] ∧ (cutPiece c cs).kind.ends = true) := by
  rcases cutPiece_cases c cs with ⟨hnone, h⟩ | ⟨kind, n, hsome, h⟩
  · rw [h]
    obtain ⟨t, ht, hnot⟩ := hl
    cases t with
    | nil =>
      obtain ⟨rfl, rfl⟩ := List.cons.inj ht
      rw [show pieceAt? (['\n'].dropWhile isSpacing) = some (.lineEnd, 1) from rfl] at hnone
      simp at hnone
    | cons d t => exact .inl ⟨t, (List.cons.inj ht).2, fun hmem => hnot (List.mem_cons_of_mem d hmem)⟩
  · rw [h]
    have hbody := isLine_dropWhile hl
    by_cases hn : n ≤ room ((c :: cs).dropWhile isSpacing)
    · exact .inl (isLine_drop hbody hn)
    · have hlen := isLine_room hbody
      exact .inr ⟨List.drop_eq_nil_of_le (by omega),
        ((pieceAt_fits hsome).2.1 (isLine_oneLine hbody)).resolve_left hn⟩

theorem pieceAt_silent {kind : PieceKind} (h : pieceAt? s = some (kind, n)) :
    (kind = .lineEnd ∨ kind = .continuation → '\n' ∈ s) ∧
      (kind = .comment → s.head? = some '#' ∧ n = (s.takeWhile fun c => c != '\r' && c != '\n').length) := by
  cases pieceAt_cases h with
  | continuation hx => exact ⟨fun _ => (lexeme_silent hx).1 (.inr rfl), by simp⟩
  | lineEnd hx => exact ⟨fun _ => (lexeme_silent hx).1 (.inl rfl), by simp⟩
  | comment hx => exact ⟨by simp, fun _ => (lexeme_silent hx).2 rfl⟩
  | _ => simp

theorem cutPiece_lineEnd (h : (cutPiece c cs).kind = .lineEnd ∨ (cutPiece c cs).kind = .continuation) :
    '\n' ∈ c :: cs := by
  rcases cutPiece_cases c cs with ⟨-, heq⟩ | ⟨kind, n, hsome, heq⟩
  · simp [heq] at h
  · rw [heq] at h
    exact List.dropWhile_subset _ ((pieceAt_silent hsome).1 h)

theorem cutPiece_quote (c : Char) (cs : List Char) :
    ∀ q ∈ (cutPiece c cs).kind.quote?, isQuote q = true ∧ (cutPiece c cs).rest = [] := by
  rcases cutPiece_cases c cs with ⟨-, h⟩ | ⟨kind, n, hsome, h⟩
  · simp [h, PieceKind.quote?]
  · rw [h]
    intro q hq
    obtain ⟨hquote, rfl⟩ := (pieceAt_fits hsome).2.2 q hq
    exact ⟨hquote, List.drop_length⟩

/-! ### What cutting a line adds -/

/-- Does a token of this kind stand inside a line? -/
def Kind.isInline : Kind → Bool
  | .newline | .indent | .dedent | .endMarker => false
  | _ => true

namespace Scanner
variable {s s' s'' : Scanner} {x : List Char} {kind : Kind}

@[simp] theorem push_gap (s : Scanner) (t : Token) : (s.push t).gap = s.gap := by
  unfold push; split <;> rfl

@[simp] theorem push_line (s : Scanner) (t : Token) : (s.push t).line = s.line := by
  unfold push; split <;> rfl

@[simp] theorem push_depth (s : Scanner) (t : Token) : (s.push t).depth = s.depth := by
  unfold push; split <;> rfl

@[simp] theorem push_continued (s : Scanner) (t : Token) : (s.push t).continued = s.continued := by
  unfold push; split <;> rfl

@[simp] theorem push_inString (s : Scanner) (t : Token) : (s.push t).inString = s.inString := by
  unfold push; split <;> rfl

@[simp] theorem push_asyncBlock (s : Scanner) (t : Token) : (s.push t).asyncBlock = s.asyncBlock := by
  unfold push; split <;> rfl

@[simp] theorem push_held (s : Scanner) (t : Token) : (s.push t).held = s.held := by
  unfold push; split <;> rfl

@[simp] theorem push_overtakenAt (s : Scanner) (t : Token) : (s.push t).overtakenAt = s.overtakenAt := by
  unfold push; split <;> rfl

@[simp] theorem push_ended (s : Scanner) (t : Token) : (s.push t).ended = s.ended := by
  unfold push; split <;> rfl

@[simp] theorem push_fault (s : Scanner) (t : Token) : (s.push t).fault = s.fault := by
  unfold push; split <;> rfl

@[simp] theorem release_gap (s : Scanner) (kind : Kind) : (s.release kind).gap = s.gap := by
  unfold release; split <;> simp

@[simp] theorem release_depth (s : Scanner) (kind : Kind) : (s.release kind).depth = s.depth := by
  unfold release; split <;> simp

@[simp] theorem release_continued (s : Scanner) (kind : Kind) : (s.release kind).continued = s.continued := by
  unfold release; split <;> simp

@[simp] theorem release_inString (s : Scanner) (kind : Kind) : (s.release kind).inString = s.inString := by
  unfold release; split <;> simp

@[simp] theorem release_asyncBlock (s : Scanner) (kind : Kind) : (s.release kind).asyncBlock = s.asyncBlock := by
  unfold release; split <;> simp

theorem push_tokens (hf : s.fault = none) (t : Token) : (s.push t).tokens = t :: s.tokens := by
  rw [push, if_neg (by simp [hf])]

theorem emit_tokens (hf : s.fault = none) (kind : Kind) (t : List Char) (column : Nat) :
    (s.emit kind t column).tokens = ⟨kind, s.gap, t, s.line, column⟩ :: s.tokens :=
  push_tokens (s := { s with gap := [] }) hf _

/-- From `s` to `s'` only tokens of the kinds `p` are added; line and open blocks stay. -/
structure Grows (p : Kind → Prop) (s s' : Scanner) : Prop where
  line : s'.line = s.line
  indents : s'.indents = s.indents
  ended : s'.ended = s.ended
  tokens : ∃ added, s'.tokens = added ++ s.tokens ∧ ∀ t ∈ added, p t.kind
  fault : s'.fault = none → s.fault = none

namespace Grows
variable {p : Kind → Prop}

theorem refl (s : Scanner) : s.Grows p s :=
  ⟨rfl, rfl, rfl, ⟨[], rfl, by simp⟩, id⟩

theorem trans (h : Grows p s s') (h' : Grows p s' s'') : Grows p s s'' := by
  obtain ⟨added, ht, hk⟩ := h.tokens
  obtain ⟨added', ht', hk'⟩ := h'.tokens
  refine ⟨h'.line.trans h.line, h'.indents.trans h.indents, h'.ended.trans h.ended,
    ⟨added' ++ added, by rw [ht', ht, List.append_assoc], fun t hmem => ?_⟩, fun hf => h.fault (h'.fault hf)⟩
  exact (List.mem_append.1 hmem).elim (hk' t) (hk t)

theorem of_same (h : Grows p s' s'') (hs : s'.line = s.line ∧ s'.indents = s.indents ∧ s'.ended = s.ended ∧
    s'.tokens = s.tokens ∧ s'.fault = s.fault) : Grows p s s'' := by
  obtain ⟨hl, hi, he, ht, hf⟩ := hs
  exact Grows.trans ⟨hl, hi, he, ⟨[], ht, by simp⟩, fun h => hf ▸ h⟩ h

theorem same (hs : s'.line = s.line ∧ s'.indents = s.indents ∧ s'.ended = s.ended ∧
    s'.tokens = s.tokens ∧ s'.fault = s.fault) : Grows p s s' :=
  of_same (.refl s') hs

theorem push (s : Scanner) {t : Token} (ht : p t.kind) : Grows p s (s.push t) := by
  unfold Scanner.push
  split
  · exact .refl s
  · exact ⟨rfl, rfl, rfl, ⟨[t], rfl, by simpa using ht⟩, id⟩

theorem release (s : Scanner) (hk : p kind) : Grows p s (s.release kind) := by
  unfold Scanner.release
  split
  · exact .refl s
  · exact of_same (.push _ hk) ⟨rfl, rfl, rfl, rfl, rfl⟩
  · refine ⟨rfl, rfl, rfl, ⟨[], rfl, by simp⟩, fun hf => ?_⟩
    cases hs : s.fault with
    | none => rfl
    | some f => simp [hs] at hf

theorem emit (s : Scanner) (hk : p kind) (t : List Char) (column : Nat) : Grows p s (s.emit kind t column) :=
  of_same (s := s) (.push _ hk) ⟨rfl, rfl, rfl, rfl, rfl⟩

theorem overtake (s : Scanner) {t : Token} (ht : p t.kind) (endColumn : Nat) :
    Grows p s (s.overtake t endColumn) := by
  unfold Scanner.overtake
  split
  · exact of_same (.push _ ht) ⟨rfl, rfl, rfl, rfl, rfl⟩
  · exact of_same (.push _ ht) ⟨rfl, rfl, rfl, rfl, rfl⟩

theorem emitWord (hname : p .name) (hasync : p .async) (hawait : p .await) (s : Scanner) (t : List Char)
    (column : Nat) : Grows p s (s.emitWord t column) := by
  unfold Scanner.emitWord
  dsimp only
  split
  · exact .emit s hasync t column
  split
  · exact .emit s hawait t column
  split
  · exact same ⟨rfl, rfl, rfl, rfl, rfl⟩
  split
  · exact (Grows.release s hasync).trans (of_same (.emit _ hname t column) ⟨rfl, rfl, rfl, rfl, rfl⟩)
  split
  · exact (Grows.release s hasync).trans (.emit _ hname t column)
  · exact (Grows.release s hname).trans (.emit _ hname t column)

section
variable (hp : ∀ k : Kind, k.isInline = true → p k)
include hp

theorem take (s : Scanner) (column : Nat) (t : List Char) {piece : PieceKind}
    (hn : piece = .lineEnd → p .newline) : Grows p s (s.take column t piece) := by
  have hname : p .name := hp _ rfl
  cases piece with
  | comment => exact (Grows.release s hname).trans (same ⟨rfl, rfl, rfl, rfl, rfl⟩)
  | continuation => exact (Grows.release s hname).trans (same ⟨rfl, rfl, rfl, rfl, rfl⟩)
  | string => exact (Grows.release s hname).trans (.emit _ (hp _ rfl) t column)
  | number => exact .overtake s (hp _ rfl) _
  | lineEnd =>
    simp only [Scanner.take, emitLineEnd]
    split
    · exact (Grows.release s hname).trans (same ⟨rfl, rfl, rfl, rfl, rfl⟩)
    · exact of_same ((Grows.release _ hname).trans (.emit _ (hn rfl) t column)) ⟨rfl, rfl, rfl, rfl, rfl⟩
  | operator =>
    simp only [Scanner.take, emitOperator]
    exact of_same ((Grows.release _ hname).trans (.emit _ (hp _ rfl) t column)) ⟨rfl, rfl, rfl, rfl, rfl⟩
  | word => exact .emitWord hname (hp _ rfl) (hp _ rfl) s t column
  | opened q triple => exact same ⟨rfl, rfl, rfl, rfl, rfl⟩
  | stray => exact .overtake s (hp _ rfl) _

/-- The line feed of a line becomes a token, if any. -/
theorem scanRest (s : Scanner) (column : Nat) (line : List Char) (hn : '\n' ∈ line → p .newline) :
    Grows p s (s.scanRest column line) := by
  fun_induction Scanner.scanRest s column line with
  | case1 => exact .refl _
  | case2 s column c cs next start =>
    rename_i ih
    have happend : c :: cs = next.blanks ++ next.text ++ next.rest := (cutPiece_append c cs).symm
    have htake : Grows p (s.skip next.blanks) ((s.skip next.blanks).take start next.text next.kind) :=
      .take hp _ _ _ fun hk => hn (cutPiece_lineEnd (.inl hk))
    refine of_same (htake.trans (ih fun hmem => hn ?_)) ⟨rfl, rfl, rfl, rfl, rfl⟩
    rw [happend]
    exact List.mem_append_right _ hmem

end

end Grows

/-! A fault stays, whatever follows. -/

theorem fault_of_release (hf : (s.release kind).fault = none) : s.fault = none :=
  (Grows.release (p := fun _ => True) s trivial).fault hf

theorem fault_of_emit {t : List Char} {column : Nat} (hf : (s.emit kind t column).fault = none) : s.fault = none :=
  (Grows.emit (p := fun _ => True) s trivial t column).fault hf

theorem fault_of_emitWord {t : List Char} {column : Nat} (hf : (s.emitWord t column).fault = none) :
    s.fault = none :=
  (Grows.emitWord (p := fun _ => True) trivial trivial trivial s t column).fault hf

theorem fault_of_take {t : List Char} {column : Nat} {piece : PieceKind}
    (hf : (s.take column t piece).fault = none) : s.fault = none :=
  (Grows.take (p := fun _ => True) (fun _ _ => trivial) s column t fun _ => trivial).fault hf

theorem fault_of_scanRest {line : List Char} {column : Nat} (hf : (s.scanRest column line).fault = none) :
    s.fault = none :=
  (Grows.scanRest (p := fun _ => True) (fun _ _ => trivial) s column line fun _ => trivial).fault hf

/-! ### The text behind a scanner -/

/-- The text of the word held back, until a token overtakes it. -/
def heldText (s : Scanner) : List Char :=
  if s.overtakenAt.isNone then (s.held.map Token.source).getD [] else []

def openText (s : Scanner) : List Char :=
  (s.inString.map fun o => o.before ++ o.text).getD []

/-- All that the scanner has read, if nothing was lost. -/
def text (s : Scanner) : List Char :=
  s.tokens.reverse.flatMap Token.source ++ s.heldText ++ s.openText ++ s.gap

/-- The scanner has read just the text `x`. -/
structure Exact (s : Scanner) (x : List Char) : Prop where
  text : s.text = x
  /-- Only a word that is held back can be overtaken. -/
  calm : s.held = none → s.overtakenAt = none
  /-- Inside an `async def` no word is held back. -/
  single : s.asyncBlock.isSome = true → s.held = none

/-- The word held back becomes a token; if it was overtaken, that is a fault. -/
theorem release_cases (hf : (s.release kind).fault = none) :
    (s.held = none ∧ s.release kind = s) ∨ ∃ t, s.held = some t ∧ s.overtakenAt = none ∧
      s.release kind = { s with held := none, tokens := { t with kind } :: s.tokens } := by
  unfold Scanner.release at hf ⊢
  split
  · rename_i hheld
    exact .inl ⟨hheld, rfl⟩
  · rename_i t hheld hover
    have hs : s.fault = none := by simpa [hheld, hover] using hf
    refine .inr ⟨t, hheld, hover, ?_⟩
    rw [push, if_neg (by simp [hs])]
  · rename_i t e c hheld hover
    simp [hheld, hover] at hf

namespace Exact

theorem release (h : s.Exact x) (hf : (s.release kind).fault = none) :
    (s.release kind).Exact x ∧ (s.release kind).held = none := by
  rcases release_cases hf with ⟨hheld, heq⟩ | ⟨t, hheld, hover, heq⟩
  · rw [heq]
    exact ⟨h, hheld⟩
  · rw [heq]
    refine ⟨⟨?_, fun _ => hover, fun _ => rfl⟩, rfl⟩
    rw [← h.text]
    simp [Scanner.text, heldText, openText, hheld, hover, Token.source]

theorem skip (h : s.Exact x) (t : List Char) : (s.skip t).Exact (x ++ t) := by
  refine ⟨?_, h.calm, h.single⟩
  rw [← h.text]
  simp [Scanner.text, Scanner.skip, heldText, openText]

theorem emit (h : s.Exact x) (hf : s.fault = none) (hheld : s.held = none) (hin : s.inString = none)
    (kind : Kind) (t : List Char) (column : Nat) : (s.emit kind t column).Exact (x ++ t) := by
  refine ⟨?_, by simpa [Scanner.emit] using h.calm, by simpa [Scanner.emit] using h.single⟩
  rw [← h.text]
  simp [Scanner.emit, push_tokens, hf, Scanner.text, heldText, openText, hheld, hin, Token.source]

/-- A token with the text that is open or in the gap, and more. -/
theorem overtake (h : s.Exact x) (hf : s.fault = none) {t : Token} {u : List Char}
    (ht : t.source = s.openText ++ s.gap ++ u) (endColumn : Nat) :
    Exact { s.overtake t endColumn with inString := none } (x ++ u) := by
  cases hheld : s.held with
  | none =>
    refine ⟨?_, ?_, ?_⟩
    · rw [← h.text]
      simp [Scanner.overtake, hheld, push_tokens, hf, Scanner.text, heldText, openText, ht]
    · simpa [Scanner.overtake, hheld] using h.calm hheld
    · simp [Scanner.overtake, hheld]
  | some w =>
    refine ⟨?_, ?_, ?_⟩
    · rw [← h.text]
      rw [Token.source, openText] at ht
      cases hover : s.overtakenAt <;>
        simp [Scanner.overtake, hheld, hover, push_tokens, hf, Scanner.text, heldText, openText, Token.source, ht]
    · simp [Scanner.overtake, hheld]
    · simpa [Scanner.overtake, hheld] using h.single

theorem release_emit (h : s.Exact x) (hin : s.inString = none) {kind kind' : Kind} {t : List Char} {column : Nat}
    (hf : ((s.release kind).emit kind' t column).fault = none) :
    ((s.release kind).emit kind' t column).Exact (x ++ t) := by
  have hr := fault_of_emit hf
  exact (h.release hr).1.emit hr (h.release hr).2 (by simpa using hin) kind' t column

theorem emitAtOnce (h : s.Exact x) (hf : s.fault = none) (hin : s.inString = none) (kind : Kind) (t : List Char)
    (column : Nat) : (s.emitAtOnce kind t column).Exact (x ++ t) := by
  have hover := h.overtake hf (t := ⟨kind, s.gap, t, s.line, column⟩) (u := t)
    (by simp [Token.source, openText, hin]) (column + t.length)
  have heq : ∀ t e, { s.overtake t e with inString := none } = s.overtake t e := by
    intro t e
    have : (s.overtake t e).inString = none := by
      unfold Scanner.overtake
      split <;> simpa using hin
    cases hs : s.overtake t e
    simpa [hs] using this.symm
  rwa [heq] at hover

theorem emitWord (h : s.Exact x) (hin : s.inString = none) {t : List Char} {column : Nat}
    (hf : (s.emitWord t column).fault = none) : (s.emitWord t column).Exact (x ++ t) := by
  have hs := fault_of_emitWord hf
  unfold Scanner.emitWord at hf ⊢
  dsimp only at hf ⊢
  split at hf
  · rename_i hasync
    rw [if_pos hasync]
    rw [Bool.and_eq_true] at hasync
    exact h.emit hs (h.single hasync.1) hin _ _ _
  rename_i hasync
  rw [if_neg hasync]
  split at hf
  · rename_i hawait
    rw [if_pos hawait]
    rw [Bool.and_eq_true] at hawait
    exact h.emit hs (h.single hawait.1) hin _ _ _
  rename_i hawait
  rw [if_neg hawait]
  split at hf
  · rename_i hhold
    rw [if_pos hhold]
    simp only [Bool.and_eq_true, Option.isNone_iff_eq_none] at hhold hasync
    refine ⟨?_, by simp, fun hsome => absurd ⟨hsome, hhold.1⟩ hasync⟩
    rw [← h.text]
    simp [Scanner.text, heldText, openText, hin, hhold.2, h.calm hhold.2, Token.source]
  rename_i hhold
  rw [if_neg hhold]
  split at hf
  · rename_i hdef
    rw [if_pos hdef]
    have hr := fault_of_emit hf
    have hrel := h.release hr
    have h' : Exact { s.release .async with asyncBlock := some ⟨s.indentColumn, false⟩ } x :=
      ⟨hrel.1.text, hrel.1.calm, fun _ => hrel.2⟩
    exact h'.emit hr hrel.2 (by simpa using hin) _ _ _
  rename_i hdef
  rw [if_neg hdef]
  split at hf
  · rename_i hfor
    rw [if_pos hfor]
    exact h.release_emit hin hf
  · rename_i hfor
    rw [if_neg hfor]
    exact h.release_emit hin hf

/-- A piece on its own line: what is taken is its text. -/
theorem take (h : s.Exact x) (hin : s.inString = none) {column : Nat} {t : List Char} {piece : PieceKind}
    (hf : (s.take column t piece).fault = none) : (s.take column t piece).Exact (x ++ t) := by
  have hs := fault_of_take hf
  cases piece with
  | comment => exact (h.release hf).1.skip t
  | continuation =>
    have hskip := (h.release hf).1.skip t
    exact ⟨hskip.text, hskip.calm, hskip.single⟩
  | string => exact h.release_emit hin hf
  | number => exact h.emitAtOnce hs hin .number t column
  | lineEnd =>
    simp only [Scanner.take, emitLineEnd] at hf ⊢
    split at hf
    · rw [if_pos ‹_›]
      exact (h.release hf).1.skip t
    · rw [if_neg ‹_›]
      have h' : Exact { s with asyncBlock := s.asyncBlock.map fun b => { b with opened := true } } x :=
        ⟨h.text, h.calm, by simpa using h.single⟩
      exact h'.release_emit hin hf
  | operator =>
    have h' : Exact { s with depth := depthAfter s.depth t } x := ⟨h.text, h.calm, h.single⟩
    exact h'.release_emit hin hf
  | word => exact h.emitWord hin hf
  | opened q triple =>
    refine ⟨?_, h.calm, h.single⟩
    rw [← h.text]
    simp [Scanner.take, Scanner.text, heldText, openText, hin]
  | stray => exact h.emitAtOnce hs hin .stray t column

end Exact

/-- Only a string that goes on is open after a piece. -/
theorem take_inString (hin : s.inString = none) {piece : PieceKind} (hp : piece.quote? = none) (column : Nat)
    (t : List Char) : (s.take column t piece).inString = none := by
  have hover : ∀ t e, (s.overtake t e).inString = none := by
    intro t e
    unfold overtake
    split <;> simpa using hin
  cases piece with
  | comment => simpa [take, skip, releaseName] using hin
  | continuation => simpa [take, skip, releaseName] using hin
  | string => simpa [take, emit, releaseName] using hin
  | number => exact hover _ _
  | lineEnd =>
    simp only [take, emitLineEnd]
    split <;> simpa [emit, skip, releaseName] using hin
  | operator => simpa [take, emitOperator, emit, releaseName] using hin
  | word =>
    simp only [take, emitWord]
    repeat' split
    all_goals simpa [emit, releaseName] using hin
  | opened q triple => simp [PieceKind.quote?] at hp
  | stray => exact hover _ _

/-- Cutting the rest of a line takes all of it. -/
theorem Exact.scanRest {column : Nat} {line : List Char} (h : s.Exact x) (hin : s.inString = none ∨ line = [])
    (hf : (s.scanRest column line).fault = none) : (s.scanRest column line).Exact (x ++ line) := by
  fun_induction Scanner.scanRest s column line generalizing x with
  | case1 => rwa [List.append_nil]
  | case2 s column c cs next start =>
    rename_i ih
    have hin' : (s.skip next.blanks).inString = none := hin.resolve_right (by simp)
    have hf' := fault_of_scanRest hf
    have htake := (h.skip next.blanks).take hin' hf'
    have hline : x ++ c :: cs = x ++ next.blanks ++ next.text ++ next.rest := by
      rw [← cutPiece_append c cs]
      simp [next]
    rw [hline]
    refine ih htake ?_ hf
    cases hq : next.kind.quote? with
    | none => exact .inl (take_inString hin' hq _ _)
    | some q => exact .inr (cutPiece_quote c cs q hq).2

end Scanner

end TypeComments.Source
