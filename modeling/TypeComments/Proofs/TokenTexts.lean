import TypeComments.Proofs.LowerCase
import TypeComments.Proofs.Reading

/-!
# The texts of tokens

A comma is an operator and nothing else starts with one; a name is made of the characters of words, and what
stands in front of it is blank or holds another character (`Token.Apt`). Each piece that is cut off a line is of
this form (`cutPiece_apt`), so every step of the scanner keeps it for the tokens found, the word held back and the
string that is open (`Scanner.Apt`), and the tokens of a text that is read have it (`read_apt`). Only after a last
line without a line feed may the text that is kept for the next token be a word, and no name follows there.
-/

namespace TypeComments

namespace Source

/-- Text between tokens: without leading blanks it is empty or no word. -/
def IsGap (text : List Char) : Prop :=
  text.dropWhile isBlank = [] ∨ ∃ c ∈ text.dropWhile isBlank, isWord c = false

theorem isGap_nil : IsGap [] :=
  .inl rfl

theorem isGap_of_blank {text : List Char} (h : ∀ c ∈ text, isBlank c = true) : IsGap text :=
  .inl (List.dropWhile_eq_nil_iff.2 h)

theorem isGap_of_head {text : List Char} {c : Char} (hhead : text.head? = some c) (hblank : isBlank c = false)
    (hword : isWord c = false) : IsGap text := by
  obtain ⟨rest, rfl⟩ := List.head?_eq_some_iff.1 hhead
  refine .inr ⟨c, ?_, hword⟩
  rw [List.dropWhile_cons_of_neg (by simp [hblank])]
  exact .head _

theorem isGap_of_getLast {text : List Char} (h : text.getLast? = some '\n') : IsGap text := by
  by_cases hnil : text.dropWhile isBlank = []
  · exact .inl hnil
  · refine .inr ⟨'\n', ?_, by decide⟩
    obtain ⟨front, hfront⟩ := List.dropWhile_suffix (l := text) isBlank
    rw [← hfront, List.getLast?_append_of_ne_nil _ hnil] at h
    exact List.mem_of_getLast? h

theorem IsGap.append {text more : List Char} (h : IsGap text) (hmore : IsGap more) : IsGap (text ++ more) := by
  unfold IsGap
  rw [List.dropWhile_append]
  split
  · exact hmore
  · rename_i hne
    rw [List.isEmpty_iff] at hne
    obtain ⟨c, hc, hword⟩ := h.resolve_left hne
    exact .inr ⟨c, List.mem_append_left _ hc, hword⟩

theorem isBlank_of_isSpacing {c : Char} (h : isSpacing c = true) : isBlank c = true := by
  simp only [isSpacing, Bool.or_eq_true, beq_iff_eq] at h
  rcases h with (rfl | rfl) | rfl <;> decide

/-- The text of a token fits its kind, as far as commas and names go. -/
structure Token.Apt (t : Token) : Prop where
  comma : t.text.head? = some ',' → t.kind = .operator ∨ t.kind = .stray
  name : t.kind = .name → (t.text ≠ [] ∧ ∀ c ∈ t.text, isWord c = true) ∧ IsGap t.before

theorem Token.apt_of_text {t : Token} (hcomma : t.text.head? ≠ some ',') (hname : t.kind ≠ .name) : t.Apt :=
  ⟨fun h => absurd h hcomma, fun h => absurd h hname⟩

/-! ### Pieces -/

theorem stringOpening_comma (s : List Char) : stringOpening? (',' :: s) = none := by
  cases s with
  | nil => decide
  | cons c s =>
    have hmark (d : Char) : isStringMark [',', d] = false := by
      simp [isStringMark, show Char.toLower ',' = ',' by decide]
    have hone : isQuote ',' = false ∧ isStringMark [','] = false := by decide
    cases s with
    | nil => simp [stringOpening?, List.findSome?, hone]
    | cons d s => simp [stringOpening?, List.findSome?, hone, hmark]

theorem number_comma (s : List Char) : number? (',' :: s) = none := by
  have hgrouped : grouped isDigit (',' :: s) = 0 := by
    rw [grouped, if_neg (by decide)]
  simp [number?, imaginaryNumber?, floatNumber?, pointNumber?, scaledNumber?, wholeNumber?, hgrouped]

theorem lexeme_comma (s : List Char) : lexeme? (',' :: s) = some (.operator, 1) := by
  have hoperator : operators.find? (fun o => o.1.isPrefixOf (',' :: s)) = some ([','], 12) := by
    simp [operators, List.isPrefixOf]
  simp [lexeme?, stringOpening_comma, number_comma, hoperator]

theorem lexeme_word {s : List Char} {n : Nat} (h : lexeme? s = some (.word, n)) :
    n ≠ 0 ∧ n = (s.takeWhile isWord).length := by
  cases lexeme_cases h with
  | word hk => exact ⟨hk, rfl⟩

theorem lexeme_gap {s : List Char} {x : Lexeme} {n : Nat} (h : lexeme? s = some (x, n))
    (hx : x = .comment ∨ x = .continuation ∨ x = .lineEnd) : IsGap (s.take n) := by
  have hcomment : isBlank '#' = false ∧ isWord '#' = false := by decide
  have hslash : isBlank '\\' = false ∧ isWord '\\' = false := by decide
  cases lexeme_cases h with
  | continuation hfeed hs =>
    obtain ⟨rest, rfl⟩ := hs
    exact isGap_of_head rfl hslash.1 hslash.2
  | comment hs =>
    obtain ⟨rest, rfl⟩ := List.head?_eq_some_iff.1 hs
    exact isGap_of_head (by simp) hcomment.1 hcomment.2
  | lineEnd hfeed hs =>
    rw [← List.prefix_iff_eq_take.1 hs]
    rcases hfeed with rfl | rfl <;> exact isGap_of_blank (List.all_eq_true.1 (by decide))
  | _ => simp at hx

theorem pieceAt_word {s : List Char} {n : Nat} (h : pieceAt? s = some (.word, n)) :
    lexeme? s = some (.word, n) := by
  cases pieceAt_cases h with
  | word hx => exact hx

theorem pieceAt_gap {s : List Char} {kind : PieceKind} {n : Nat} (h : pieceAt? s = some (kind, n))
    (hkind : kind = .comment ∨ kind = .continuation ∨ kind = .lineEnd) : IsGap (s.take n) := by
  cases pieceAt_cases h with
  | continuation hx => exact lexeme_gap hx (.inr (.inl rfl))
  | comment hx => exact lexeme_gap hx (.inl rfl)
  | lineEnd hx => exact lexeme_gap hx (.inr (.inr rfl))
  | _ => simp at hkind

/-- A piece that starts with a comma is an operator, and a word is one throughout. -/
theorem pieceAt_apt {s : List Char} {kind : PieceKind} {n : Nat} (h : pieceAt? s = some (kind, n)) :
    ((s.take n).head? = some ',' → kind = .operator) ∧
      (kind = .word → s.take n ≠ [] ∧ ∀ c ∈ s.take n, isWord c = true) := by
  constructor
  · intro hhead
    cases s with
    | nil => simp at hhead
    | cons c s =>
      cases n with
      | zero => simp at hhead
      | succ n =>
        obtain rfl : c = ',' := by simpa using hhead
        rw [pieceAt?, lexeme_comma] at h
        exact (congrArg Prod.fst (Option.some.inj h)).symm
  · rintro rfl
    obtain ⟨hne, hn⟩ := lexeme_word (pieceAt_word h)
    have htake : s.take n = s.takeWhile isWord := by
      rw [hn]
      exact List.prefix_iff_eq_take.1 (List.takeWhile_prefix isWord) ▸ rfl
    rw [htake]
    refine ⟨fun hnil => hne ?_, fun c hc => List.mem_takeWhile_imp hc⟩
    rw [hn, hnil]
    rfl

theorem cutPiece_apt (c : Char) (cs : List Char) :
    ((cutPiece c cs).text.head? = some ',' → (cutPiece c cs).kind = .operator ∨ (cutPiece c cs).kind = .stray) ∧
      ((cutPiece c cs).kind = .word → (cutPiece c cs).text ≠ [] ∧ ∀ d ∈ (cutPiece c cs).text, isWord d = true) := by
  rcases cutPiece_cases c cs with ⟨-, heq⟩ | ⟨kind, n, hpiece, heq⟩
  · rw [heq]
    exact ⟨fun _ => .inr rfl, fun h => by cases h⟩
  · rw [heq]
    exact ⟨fun h => .inl ((pieceAt_apt hpiece).1 h), (pieceAt_apt hpiece).2⟩

theorem cutPiece_gap (c : Char) (cs : List Char) : IsGap (cutPiece c cs).blanks ∧
    ((cutPiece c cs).kind = .comment ∨ (cutPiece c cs).kind = .continuation ∨ (cutPiece c cs).kind = .lineEnd →
      IsGap (cutPiece c cs).text) := by
  rcases cutPiece_cases c cs with ⟨-, heq⟩ | ⟨kind, n, hpiece, heq⟩
  · rw [heq]
    exact ⟨isGap_nil, fun h => by simp at h⟩
  · rw [heq]
    exact ⟨isGap_of_blank fun d hd => isBlank_of_isSpacing (List.mem_takeWhile_imp hd), pieceAt_gap hpiece⟩

theorem cutPiece_ne_nil (c : Char) (cs : List Char) : (cutPiece c cs).text ≠ [] := by
  rcases cutPiece_cases c cs with ⟨-, heq⟩ | ⟨kind, n, hpiece, heq⟩
  · rw [heq]
    simp
  · have hpos := (pieceAt_fits hpiece).1
    have hbody : (c :: cs).dropWhile isSpacing ≠ [] := by
      intro hnil
      rw [hnil] at hpiece
      cases hpiece
    rw [heq]
    dsimp only
    rw [Ne, List.take_eq_nil_iff, not_or]
    exact ⟨by omega, hbody⟩

/-! ### The scanner -/

namespace Scanner
variable {s : Scanner} {kind : Kind} {text : List Char} {column : Nat}

/-- All texts of the scanner fit their kinds. What is kept for the next token does so under the condition `q`. -/
structure Apt (q : Prop) (s : Scanner) : Prop where
  tokens : ∀ t ∈ s.tokens, t.Apt
  gap : q → IsGap s.gap
  held : ∀ t ∈ s.held, t.text = "async".toList ∧ IsGap t.before
  inString : ∀ o ∈ s.inString, o.text ≠ [] ∧ o.text.head? ≠ some ','

theorem async_apt {t : Token} (h : t.text = "async".toList ∧ IsGap t.before) (kind : Kind) :
    Token.Apt { t with kind } := by
  refine ⟨fun hcomma => ?_, fun _ => ⟨?_, h.2⟩⟩
  · rw [h.1] at hcomma
    cases hcomma
  · rw [h.1]
    exact ⟨by decide, List.all_eq_true.1 (by decide +kernel)⟩

namespace Apt
variable {q : Prop}

theorem of_same {s' : Scanner} (h : s.Apt q) (htokens : s'.tokens = s.tokens) (hgap : q → IsGap s'.gap)
    (hheld : s'.held = s.held) (hin : s'.inString = s.inString) : s'.Apt q := by
  refine ⟨?_, hgap, ?_, ?_⟩
  · rw [htokens]; exact h.tokens
  · rw [hheld]; exact h.held
  · rw [hin]; exact h.inString

theorem weaken (h : s.Apt True) : s.Apt q :=
  ⟨h.tokens, fun _ => h.gap trivial, h.held, h.inString⟩

theorem skip (h : s.Apt q) (htext : q → IsGap text) : (s.skip text).Apt q :=
  h.of_same rfl (fun hq => (h.gap hq).append (htext hq)) rfl rfl

theorem push (h : s.Apt q) {t : Token} (ht : t.Apt) : (s.push t).Apt q := by
  unfold Scanner.push
  split
  · exact h
  · refine ⟨fun u hu => ?_, h.gap, h.held, h.inString⟩
    rcases List.mem_cons.1 hu with rfl | hu
    · exact ht
    · exact h.tokens u hu

theorem release (h : s.Apt q) (kind : Kind) : (s.release kind).Apt q := by
  unfold Scanner.release
  split
  · exact h
  · rename_i t hheld _
    refine push ?_ (async_apt (h.held t hheld) kind)
    exact ⟨h.tokens, h.gap, by simp, h.inString⟩
  · exact ⟨h.tokens, h.gap, by simp, h.inString⟩

theorem emit (h : s.Apt q) (ht : ∀ before line, (q → IsGap before) → Token.Apt ⟨kind, before, text, line, column⟩) :
    (s.emit kind text column).Apt q :=
  push (s := { s with gap := [] }) (h.of_same rfl (fun _ => isGap_nil) rfl rfl) (ht _ _ h.gap)

theorem overtake (h : s.Apt q) {t : Token} (ht : t.Apt) (hname : t.kind ≠ .name) (endColumn : Nat) :
    (s.overtake t endColumn).Apt q := by
  unfold Scanner.overtake
  split
  · refine push ?_ ht
    exact h.of_same rfl (fun _ => isGap_nil) rfl rfl
  · refine push ?_ ⟨ht.comma, fun h => absurd h hname⟩
    exact h.of_same rfl (fun _ => isGap_nil) rfl rfl

theorem emitWord (h : s.Apt True) (htext : text ≠ [] ∧ ∀ c ∈ text, isWord c = true) :
    (s.emitWord text column).Apt True := by
  have hcomma : text.head? ≠ some ',' := by
    intro hhead
    have := htext.2 ',' (List.mem_of_mem_head? hhead)
    revert this
    decide +kernel
  have hname (before : List Char) (line : Nat) (hbefore : True → IsGap before) :
      Token.Apt ⟨.name, before, text, line, column⟩ :=
    ⟨fun h => absurd h hcomma, fun _ => ⟨htext, hbefore trivial⟩⟩
  unfold Scanner.emitWord
  dsimp only
  split
  · exact h.emit fun _ _ _ => Token.apt_of_text hcomma (by simp)
  split
  · exact h.emit fun _ _ _ => Token.apt_of_text hcomma (by simp)
  split
  · rename_i hasync
    refine ⟨h.tokens, fun _ => isGap_nil, fun t ht => ?_, h.inString⟩
    cases ht
    rw [Bool.and_eq_true, beq_iff_eq] at hasync
    exact ⟨hasync.1, h.gap trivial⟩
  split
  · exact emit (s := { s.release .async with asyncBlock := some ⟨s.indentColumn, false⟩ })
      ((h.release .async).of_same rfl (h.release .async).gap rfl rfl) hname
  split
  · exact (h.release .async).emit hname
  · exact (h.release .name).emit hname

theorem take (h : s.Apt True) {piece : PieceKind} (hcomma : text.head? = some ',' → piece = .operator ∨ piece = .stray)
    (hne : text ≠ []) (hword : piece = .word → text ≠ [] ∧ ∀ c ∈ text, isWord c = true)
    (hgap : piece = .comment ∨ piece = .continuation ∨ piece = .lineEnd → IsGap text) :
    (s.take column text piece).Apt True := by
  have hplain (hp : ¬ (piece = .operator ∨ piece = .stray)) : text.head? ≠ some ',' := fun hhead => hp (hcomma hhead)
  have hskip (hp : piece = .comment ∨ piece = .continuation ∨ piece = .lineEnd) : 
      ((s.release .name).skip text).Apt True :=
    (h.release .name).skip fun _ => hgap hp
  cases piece with
  | comment => exact hskip (.inl rfl)
  | continuation => exact (hskip (.inr (.inl rfl))).of_same rfl (hskip (.inr (.inl rfl))).gap rfl rfl
  | string => exact (h.release .name).emit fun _ _ _ => Token.apt_of_text (hplain (by simp)) (by simp)
  | number => exact h.overtake (Token.apt_of_text (hplain (by simp)) (by simp)) (by simp) _
  | lineEnd =>
    simp only [Scanner.take, emitLineEnd]
    split
    · exact hskip (.inr (.inr rfl))
    · refine emit (release ?_ .name) fun _ _ _ => Token.apt_of_text (hplain (by simp)) (by simp)
      exact h.of_same rfl h.gap rfl rfl
  | operator =>
    refine emit (release ?_ .name) fun _ _ _ => ⟨fun _ => .inl rfl, by simp⟩
    exact h.of_same rfl h.gap rfl rfl
  | word => exact h.emitWord (hword rfl)
  | opened quote triple =>
    refine ⟨h.tokens, fun _ => isGap_nil, h.held, fun o ho => ?_⟩
    cases ho
    exact ⟨hne, hplain (by simp)⟩
  | stray => exact h.overtake ⟨fun _ => .inr rfl, by simp⟩ (by simp) _

theorem scanRest (h : s.Apt True) (column : Nat) (line : List Char) : (s.scanRest column line).Apt True := by
  fun_induction Scanner.scanRest s column line with
  | case1 => exact h
  | case2 s column c cs next start =>
    rename_i ih
    obtain ⟨hcomma, hword⟩ := cutPiece_apt c cs
    obtain ⟨hblanks, hgap⟩ := cutPiece_gap c cs
    exact ih ((h.skip fun _ => hblanks).take hcomma (cutPiece_ne_nil c cs) hword hgap)

theorem leaveAsync (h : s.Apt q) (closed : Bool) : (s.leaveAsync closed).Apt q := by
  unfold Scanner.leaveAsync
  split
  · split
    · exact h.of_same rfl h.gap rfl rfl
    · exact h
  · exact h

theorem dedent (h : s.Apt q) (column : Nat) (closed : List Nat) : (s.dedent column closed).Apt q := by
  unfold Scanner.dedent
  induction closed generalizing s with
  | nil => exact h
  | cons n closed ih => exact ih (h.emit fun _ _ _ => Token.apt_of_text (by simp) (by simp))

theorem layOut (h : s.Apt True) {blanks : List Char} (hblanks : ∀ c ∈ blanks, isSpacing c = true) :
    (s.layOut blanks).Apt True := by
  have hcomma : blanks.head? ≠ some ',' := by
    intro hhead
    have := hblanks ',' (List.mem_of_mem_head? hhead)
    revert this
    decide
  have hskip : (s.skip blanks).Apt True :=
    h.skip fun _ => isGap_of_blank fun c hc => isBlank_of_isSpacing (hblanks c hc)
  refine leaveAsync ?_ false
  unfold Scanner.indentTo
  dsimp only
  split
  · refine emit ?_ fun _ _ _ => Token.apt_of_text hcomma (by simp)
    exact h.of_same rfl h.gap rfl rfl
  split
  · refine leaveAsync (dedent ?_ _ _) _
    exact hskip.of_same rfl hskip.gap rfl rfl
  · exact hskip.of_same rfl hskip.gap rfl rfl

theorem scanStatement (h : s.Apt True) (line : List Char) :
    (s.scanStatement line).Apt (line.getLast? = some '\n') := by
  have hblanks : ∀ c ∈ line.takeWhile isSpacing, isSpacing c = true := fun c hc => List.mem_takeWhile_imp hc
  unfold Scanner.scanStatement
  dsimp only
  split
  · exact weaken (h.of_same rfl h.gap rfl rfl)
  split
  · exact (h.release .name).weaken.skip isGap_of_getLast
  split
  · exact weaken ((h.release .name).layOut hblanks)
  · exact weaken (((h.release .name).layOut hblanks).scanRest _ _)

theorem scanString (h : s.Apt True) {o : OpenString} (ho : o.text ≠ [] ∧ o.text.head? ≠ some ',') (line : List Char) :
    (s.scanString o line).Apt True := by
  have hhead (more : List Char) : (o.text ++ more).head? ≠ some ',' := by
    rw [List.head?_append_of_ne_nil _ ho.1]
    exact ho.2
  have hover {kind : Kind} (hname : kind ≠ .name) (more : List Char) (n : Nat) :
      Apt True { s.overtake ⟨kind, o.before, o.text ++ more, o.line, o.column⟩ n with inString := none } := by
    have hs := h.overtake (t := ⟨kind, o.before, o.text ++ more, o.line, o.column⟩)
      (Token.apt_of_text (hhead more) hname) hname n
    exact ⟨hs.tokens, hs.gap, hs.held, by simp⟩
  unfold Scanner.scanString
  split
  · exact (hover (by simp) _ _).scanRest _ _
  split
  · refine ⟨h.tokens, h.gap, h.held, fun o' ho' => ?_⟩
    cases ho'
    exact ⟨by simp [ho.1], hhead line⟩
  · exact hover (by simp) _ _

theorem scanLine (h : s.Apt True) (line : List Char) : (s.scanLine line).Apt (line.getLast? = some '\n') := by
  have hnext : Apt True { s with line := s.line + 1 } := h.of_same rfl h.gap rfl rfl
  unfold Scanner.scanLine
  dsimp only
  split
  · exact h.weaken
  split
  · rename_i o ho
    exact (hnext.scanString (h.inString o ho) line).weaken
  split
  · exact hnext.scanStatement line
  · refine weaken (scanRest ?_ 0 line)
    exact h.of_same rfl h.gap rfl rfl

theorem run {lines : List (List Char)} (hlines : ∀ l ∈ lines, l.getLast? = some '\n') : (Scanner.run lines).Apt True := by
  unfold Scanner.run
  have hstart : Apt True {} := ⟨by simp, fun _ => isGap_nil, by simp, by simp⟩
  generalize ({} : Scanner) = s at hstart
  induction lines generalizing s with
  | nil => exact hstart
  | cons line lines ih =>
    have hline := hstart.scanLine line
    refine ih (fun l hl => hlines l (.tail _ hl)) _ ⟨hline.tokens, fun _ => ?_, hline.held, hline.inString⟩
    exact hline.gap (hlines line (.head _))

/-- The lines of a text are complete but for the last one. -/
theorem run_text (text : List Char) : ∃ q, (Scanner.run (physicalLines text)).Apt q := by
  obtain ⟨ls, last, rfl, hls, hlast⟩ := exists_lines text
  have hcomplete : (Scanner.run ls).Apt True := by
    refine run fun l hl => ?_
    obtain ⟨t, rfl, -⟩ := hls l hl
    exact List.getLast?_concat
  rw [physicalLines_lines hls hlast, Scanner.run, List.foldl_append]
  split
  · exact ⟨True, hcomplete⟩
  · exact ⟨_, hcomplete.scanLine last⟩

theorem closeAll (h : s.Apt q) : s.closeAll.Apt q :=
  (h.dedent 0 _).emit fun _ _ _ => Token.apt_of_text (by simp) (by simp)

theorem finish (h : s.Apt q) (unended : Bool) : (s.finish unended).Apt q := by
  have hname := h.release .name
  have hfeed : IsGap ['\n'] := isGap_of_blank (List.all_eq_true.1 (by decide))
  unfold Scanner.finish
  dsimp only
  split
  · exact h
  split
  · exact h.of_same rfl h.gap rfl rfl
  split
  · exact h.of_same rfl h.gap rfl rfl
  split
  · exact hname.of_same rfl hname.gap rfl rfl
  · refine closeAll ?_
    split
    · exact hname.of_same rfl (fun hq => (hname.gap hq).append hfeed) rfl rfl
    · exact hname.of_same rfl hname.gap rfl rfl

end Apt
end Scanner

theorem scan_apt (source : List Char) : ∀ t ∈ (scan source).tokens, t.Apt := by
  intro t ht
  obtain ⟨q, hrun⟩ := Scanner.Apt.run_text source
  exact (hrun.finish _).tokens t (List.mem_reverse.1 ht)

/-- The tokens of a text that is read fit their kinds. -/
theorem read_apt {source : List Char} {tree : Tree} (h : read source = .ok tree) : ∀ t ∈ tree.leaves, t.Apt := by
  rw [(read_leaves h).1]
  exact scan_apt source

end Source
end TypeComments
