import Mathlib.Data.List.Basic
import TypeComments.Proofs.TextEnds
import TypeComments.Proofs.WordReplacement

/-!
# Alternatives of a type in words

A type in words lists alternatives with separators between them, the word `or` or a bar (`Lists`). The separators are
found wherever they stand and however much blank space belongs to them (`Lists.alternatives`), so the union says what
the alternatives are and nothing about how they were written. The tail `, optional` ends at the comma: blanks in front
of it stay with the last alternative, and show in the type.
-/

namespace TypeComments.Docstring
variable {s t a b sep text w : List Char} {atoms : List (List Char)} {c : Char}

/-! ### Texts that list alternatives -/

/-- One alternative: a word or a type expression, without blanks, bars and commas. -/
structure IsAlternative (s : List Char) : Prop where
  ne_nil : s ≠ []
  notBlank : ∀ c ∈ s, isBlank c = false
  noBar : '|' ∉ s
  noComma : ',' ∉ s

instance (s : List Char) : Decidable (IsAlternative s) :=
  decidable_of_iff (s ≠ [] ∧ s.all (fun c => !isBlank c) = true ∧ '|' ∉ s ∧ ',' ∉ s)
    ⟨fun ⟨hne, hall, hbar, hcomma⟩ => ⟨hne, fun c hc => by simpa using List.all_eq_true.1 hall c hc, hbar, hcomma⟩,
      fun h => ⟨h.ne_nil, List.all_eq_true.2 fun c hc => by simp [h.notBlank c hc], h.noBar, h.noComma⟩⟩

/-- What stands between two alternatives: `or` with blanks on both sides, or a bar with any blanks around it. -/
inductive Separates : List Char → Prop
  | word {a b : List Char} (ha : a ≠ []) (hb : b ≠ []) (hablank : ∀ c ∈ a, isBlank c = true)
    (hbblank : ∀ c ∈ b, isBlank c = true) : Separates (a ++ ("or".toList ++ b))
  | bar {a b : List Char} (hablank : ∀ c ∈ a, isBlank c = true) (hbblank : ∀ c ∈ b, isBlank c = true) :
    Separates (a ++ ("|".toList ++ b))

/-- The text lists the alternatives, with a separator between each two. -/
inductive Lists : List (List Char) → List Char → Prop
  | one {a : List Char} (ha : IsAlternative a) : Lists [a] a
  | more {a sep text : List Char} {atoms : List (List Char)} (ha : IsAlternative a) (hsep : Separates sep)
    (h : Lists atoms text) : Lists (a :: atoms) (a ++ (sep ++ text))

theorem IsAlternative.tight (h : IsAlternative s) : Tight s where
  first c hc := h.notBlank c (List.mem_of_head? hc)
  last c hc := h.notBlank c (List.mem_of_getLast? hc)

theorem Separates.ne_nil (h : Separates sep) : sep ≠ [] := by
  cases h <;> simp

theorem Separates.comma_not_mem (h : Separates sep) : ',' ∉ sep := by
  have hblank : ∀ {w : List Char}, (∀ c ∈ w, isBlank c = true) → ',' ∉ w := fun hw hc =>
    absurd (hw _ hc) (by decide)
  cases h with
  | word _ _ ha hb => simp [hblank ha, hblank hb]
  | bar ha hb => simp [hblank ha, hblank hb]

namespace Lists

theorem ne_nil (h : Lists atoms text) : atoms ≠ [] ∧ text ≠ [] := by
  cases h with
  | one ha => exact ⟨by simp, ha.ne_nil⟩
  | more ha _ _ => exact ⟨by simp, by simp [ha.ne_nil]⟩

theorem comma_not_mem (h : Lists atoms text) : ',' ∉ text := by
  induction h with
  | one ha => exact ha.noComma
  | more ha hsep _ ih => simp [ha.noComma, hsep.comma_not_mem, ih]

theorem tight (h : Lists atoms text) : Tight text := by
  induction h with
  | one ha => exact ha.tight
  | @more a sep text atoms ha _ h ih =>
    refine ⟨?_, ?_⟩
    · rw [List.head?_append_of_ne_nil _ ha.ne_nil]
      exact ha.tight.first
    · rw [List.getLast?_append_of_ne_nil _ (by simp [h.ne_nil.2]), List.getLast?_append_of_ne_nil _ h.ne_nil.2]
      exact ih.last

end Lists

/-! ### Line feeds as spaces -/

def spaced (s : List Char) : List Char :=
  s.map fun c => if c == '\n' then ' ' else c

theorem spaced_append (s t : List Char) : spaced (s ++ t) = spaced s ++ spaced t :=
  List.map_append

theorem blank_spaced (h : ∀ c ∈ w, isBlank c = true) : ∀ c ∈ spaced w, isBlank c = true := by
  intro c hc
  obtain ⟨d, hd, rfl⟩ := List.mem_map.1 hc
  by_cases hfeed : d = '\n'
  · rw [hfeed]
    decide
  · simpa [hfeed] using h d hd

theorem spaced_of_not_mem (h : '\n' ∉ s) : spaced s = s := by
  refine (List.map_congr_left fun c hc => ?_).trans s.map_id
  have hne : c ≠ '\n' := fun heq => h (heq ▸ hc)
  simp [hne]

theorem IsAlternative.spaced_eq (h : IsAlternative s) : spaced s = s :=
  spaced_of_not_mem fun hc => absurd (h.notBlank _ hc) (by decide)

theorem Separates.spaced (h : Separates sep) : Separates (spaced sep) := by
  cases h with
  | word ha hb hablank hbblank =>
    rw [spaced_append, spaced_append]
    exact .word (by simpa [Docstring.spaced] using ha) (by simpa [Docstring.spaced] using hb) (blank_spaced hablank)
      (blank_spaced hbblank)
  | bar hablank hbblank =>
    rw [spaced_append, spaced_append]
    exact .bar (blank_spaced hablank) (blank_spaced hbblank)

theorem Lists.spaced (h : Lists atoms text) : Lists atoms (spaced text) := by
  induction h with
  | one ha =>
    rw [ha.spaced_eq]
    exact .one ha
  | more ha hsep _ ih =>
    rw [spaced_append, spaced_append, ha.spaced_eq]
    exact .more ha hsep.spaced ih

/-! ### Finding the separators -/

theorem takeWhile_blank_append (hb : ∀ c ∈ b, isBlank c = true) (ht : ∀ c ∈ t.head?, isBlank c = false) :
    (b ++ t).takeWhile isBlank = b := by
  rw [List.takeWhile_append_of_pos hb]
  cases t with
  | nil => simp
  | cons c t => simp [ht c rfl]

/-- A separator is taken whole, with all its blanks. -/
theorem separatorLength_append (h : Separates sep) (ht : ∀ c ∈ t.head?, isBlank c = false) :
    separatorLength (sep ++ t) = some sep.length := by
  cases h with
  | @word a b ha hb hablank hbblank =>
    have hfront := takeWhile_blank_append (t := "or".toList ++ (b ++ t)) hablank (by simp; decide)
    have hafter := takeWhile_blank_append hbblank ht
    rw [List.append_assoc, List.append_assoc]
    simp only [separatorLength, hfront, List.drop_left]
    simp [hafter, ha, hb]
    omega
  | @bar a b hablank hbblank =>
    have hfront := takeWhile_blank_append (t := "|".toList ++ (b ++ t)) hablank (by simp; decide)
    have hafter := takeWhile_blank_append hbblank ht
    rw [List.append_assoc, List.append_assoc]
    simp only [separatorLength, hfront, List.drop_left]
    simp [hafter]
    omega

/-- No separator starts inside an alternative: `or` needs a blank in front of it. -/
theorem separatorLength_of_notBlank (hc : isBlank c = false) (hbar : c ≠ '|') (t : List Char) :
    separatorLength (c :: t) = none := by
  simp only [separatorLength, List.takeWhile_cons, hc, Bool.false_eq_true, ↓reduceIte, List.length_nil, List.drop_zero]
  split
  · simp
  · rename_i heq
    exact absurd (List.cons.inj heq).1 hbar
  · rfl

theorem separatorLength_of_blank (hb : ∀ c ∈ b, isBlank c = true) : separatorLength b = none := by
  have hfront : b.takeWhile isBlank = b := by simpa using takeWhile_blank_append (t := []) hb (by simp)
  simp [separatorLength, hfront]

theorem alternativesFrom_skip (s t : List Char) : alternativesFrom s.length (s ++ t) = alternatives t := by
  induction s with
  | nil => rfl
  | cons c s ih => rw [List.cons_append, List.length_cons, alternativesFrom, ih]

/-- A character that starts no separator belongs to the first alternative. -/
theorem alternatives_cons {pieces : List (List Char)} (hnone : separatorLength (c :: t) = none)
    (ht : alternatives t = s :: pieces) : alternatives (c :: t) = (c :: s) :: pieces := by
  rw [alternatives] at ht ⊢
  rw [alternativesFrom, hnone]
  simp only [ht]

theorem alternatives_separator (h : Separates sep) (ht : ∀ c ∈ t.head?, isBlank c = false) :
    alternatives (sep ++ t) = [] :: alternatives t := by
  have hlength := separatorLength_append h ht
  obtain ⟨c, sep, rfl⟩ := List.exists_cons_of_ne_nil h.ne_nil
  rw [List.cons_append] at hlength ⊢
  rw [alternatives, alternativesFrom, hlength]
  simp only [List.length_cons, Nat.add_sub_cancel, alternativesFrom_skip]

theorem alternatives_of_blank (hb : ∀ c ∈ b, isBlank c = true) : alternatives b = [b] := by
  induction b with
  | nil => rfl
  | cons c b ih => exact alternatives_cons (separatorLength_of_blank hb) (ih fun d hd => hb d (.tail _ hd))

theorem alternatives_append {pieces : List (List Char)} (ha : IsAlternative a) (ht : alternatives t = s :: pieces) :
    alternatives (a ++ t) = (a ++ s) :: pieces := by
  have hnone : ∀ c ∈ a, ∀ u, separatorLength (c :: u) = none := fun c hc =>
    separatorLength_of_notBlank (ha.notBlank c hc) fun heq => ha.noBar (heq ▸ hc)
  clear ha
  induction a with
  | nil => exact ht
  | cons c a ih => exact alternatives_cons (hnone c (.head _) _) (ih fun d hd => hnone d (.tail _ hd))

/-- The pieces, with `b` after the last one. -/
def padLast (b : List Char) : List (List Char) → List (List Char)
  | [] => []
  | [s] => [s ++ b]
  | s :: t :: rest => s :: padLast b (t :: rest)

theorem padLast_cons (b s : List Char) {pieces : List (List Char)} (h : pieces ≠ []) :
    padLast b (s :: pieces) = s :: padLast b pieces := by
  cases pieces with
  | nil => exact absurd rfl h
  | cons t rest => rfl

theorem padLast_ne_nil (b : List Char) {pieces : List (List Char)} (h : pieces ≠ []) : padLast b pieces ≠ [] := by
  cases pieces with
  | nil => exact absurd rfl h
  | cons s rest => cases rest <;> simp [padLast]

@[simp] theorem padLast_nil (pieces : List (List Char)) : padLast [] pieces = pieces := by
  fun_induction padLast with
  | case1 => rfl
  | case2 s => rw [List.append_nil]
  | case3 s t rest ih => rw [ih]

/-- The alternatives are those that the text lists, and blanks at its end go to the last one. -/
theorem Lists.alternatives (h : Lists atoms text) (hb : ∀ c ∈ b, isBlank c = true) :
    alternatives (text ++ b) = padLast b atoms := by
  induction h with
  | one ha => exact alternatives_append ha (alternatives_of_blank hb)
  | @more a sep text atoms ha hsep h ih =>
    have hstart : ∀ c ∈ (text ++ b).head?, isBlank c = false := by
      rw [List.head?_append_of_ne_nil _ h.ne_nil.2]
      exact h.tight.first
    rw [List.append_assoc, List.append_assoc, alternatives_append ha (alternatives_separator hsep hstart), ih,
      padLast_cons _ _ h.ne_nil.1, List.append_nil]

/-! ### The tail `, optional` -/

theorem beforeOptional?_of_not_mem (hs : ',' ∉ s) : beforeOptional? s = none := by
  induction s with
  | nil => rfl
  | cons c s ih =>
    rw [List.mem_cons, not_or] at hs
    rw [beforeOptional?, ih hs.2]
    have htail : isOptionalTail (c :: s) = false := by
      unfold isOptionalTail
      split
      · rename_i heq
        exact absurd (List.cons.inj heq).1.symm hs.1
      · rfl
    simp [htail]

/-- The tail is found whatever stands in front of its comma. -/
theorem beforeOptional?_append (hw : ∀ c ∈ w, isBlank c = true) (s : List Char) :
    beforeOptional? (s ++ (',' :: (w ++ "optional".toList))) = some s := by
  induction s with
  | nil =>
    have hcomma : ',' ∉ w ++ "optional".toList := by
      rw [List.mem_append, not_or]
      exact ⟨fun hc => absurd (hw _ hc) (by decide), by decide⟩
    have htail : isOptionalTail (',' :: (w ++ "optional".toList)) = true := by
      have hdrop : (w ++ "optional".toList).dropWhile isBlank = "optional".toList := by
        rw [List.dropWhile_append_of_pos hw]
        rfl
      rw [isOptionalTail, hdrop]
      decide
    rw [List.nil_append, beforeOptional?, beforeOptional?_of_not_mem hcomma]
    exact if_pos htail
  | cons c s ih => rw [List.cons_append, beforeOptional?, ih]

/-! ### The type expression -/

/-- The type that some alternatives make together. -/
def unionOf : List (List Char) → List Char
  | [s] => s
  | parts => "Union[".toList ++ List.intercalate ", ".toList parts ++ "]".toList

theorem unionType_eq {parts : List (List Char)} (h : parts ≠ []) : unionType parts = unionOf parts := by
  fun_cases unionType parts with
  | case1 => exact absurd rfl h
  | case2 s => rfl
  | case3 parts _ hmore =>
    rw [unionOf]
    exact fun s hs => hmore s hs

theorem intercalate_padLast (sep b : List Char) {parts : List (List Char)} (h : parts ≠ []) :
    List.intercalate sep (padLast b parts) = List.intercalate sep parts ++ b := by
  fun_induction padLast b parts with
  | case1 => exact absurd rfl h
  | case2 s => simp
  | case3 s t rest ih =>
    have hrest := ih (by simp)
    obtain ⟨u, rest', hpad⟩ := List.exists_cons_of_ne_nil (padLast_ne_nil b (List.cons_ne_nil t rest))
    rw [hpad] at hrest ⊢
    rw [List.intercalate_cons_cons, hrest, List.intercalate_cons_cons, List.append_assoc, List.append_assoc,
      List.append_assoc]

theorem length_unionOf_padLast (b : List Char) {parts : List (List Char)} (h : parts ≠ []) :
    (unionOf (padLast b parts)).length = (unionOf parts).length + b.length := by
  have hlong := congrArg List.length (intercalate_padLast ", ".toList b h)
  obtain ⟨s, rest, rfl⟩ := List.exists_cons_of_ne_nil h
  cases rest with
  | nil => simp [padLast, unionOf]
  | cons t rest =>
    obtain ⟨u, rest', hpad⟩ := List.exists_cons_of_ne_nil (padLast_ne_nil b (List.cons_ne_nil t rest))
    rw [padLast, hpad] at hlong ⊢
    simp only [unionOf, List.length_append] at hlong ⊢
    omega

/-- Blanks belong to no word. -/
theorem map_replaceWords_padLast (hb : ∀ c ∈ b, isBlank c = true) (atoms : List (List Char)) :
    (padLast b atoms).map replaceWords = padLast b (atoms.map (mapRuns typeOfWord)) := by
  have hword : ∀ c ∈ b, isWord c = false := by
    intro c hc
    refine Bool.eq_false_iff.2 fun hw => ?_
    have := hb c hc
    rw [isBlank_of_isWord hw] at this
    cases this
  fun_induction padLast b atoms with
  | case1 => rfl
  | case2 s => simp only [List.map_cons, List.map_nil, replaceWords_eq, mapRuns_append hword, padLast]
  | case3 s t rest ih => rw [List.map_cons, ih, replaceWords_eq]; rfl

theorem Lists.unionType_alternatives (h : Lists atoms text) (hb : ∀ c ∈ b, isBlank c = true) :
    unionType ((Docstring.alternatives (text ++ b)).map replaceWords) =
      unionOf (padLast b (atoms.map (mapRuns typeOfWord))) := by
  rw [h.alternatives hb, map_replaceWords_padLast hb, unionType_eq (padLast_ne_nil _ (by simp [h.ne_nil.1]))]

theorem oneLine_eq (ht : Tight s) (hne : s ≠ []) {w₀ w₁ : List Char} (h₀ : ∀ c ∈ w₀, isBlank c = true)
    (h₁ : ∀ c ∈ w₁, isBlank c = true) : oneLine (w₀ ++ (s ++ w₁)) = spaced s := by
  rw [oneLine, trim_append_of_blank h₀, ht.trim_append_blank hne h₁, spaced]

/-- A type in words is standardized to the union of what it lists, each word looked up, whichever separators stand
between the alternatives and whatever blanks stand around them all. A tail `, optional` makes that type optional, except
that blanks in front of its comma are kept, as spaces, after the last alternative. -/
theorem standardize_lists {w₀ w₁ w₂ w₃ : List Char} (h : Lists atoms text) (h₀ : ∀ c ∈ w₀, isBlank c = true)
    (h₁ : ∀ c ∈ w₁, isBlank c = true) (h₂ : ∀ c ∈ w₂, isBlank c = true) (h₃ : ∀ c ∈ w₃, isBlank c = true) :
    let types := atoms.map (mapRuns typeOfWord)
    let optional := standardize (some oneLine) false (w₀ ++ (text ++ w₁ ++ (',' :: (w₂ ++ "optional".toList)) ++ w₃))
    (∀ isResult, standardize (some oneLine) isResult (w₀ ++ (text ++ w₁)) = .ok (unionOf types)) ∧
      optional = .ok ("Optional[".toList ++ unionOf (padLast (spaced w₁) types) ++ "]".toList) ∧
      (optional = .ok ("Optional[".toList ++ unionOf types ++ "]".toList) ↔ w₁ = []) := by
  intro types optional
  have hlists := h.spaced
  have hblank := blank_spaced h₁
  have hoptional : optional = .ok ("Optional[".toList ++ unionOf (padLast (spaced w₁) types) ++ "]".toList) := by
    have htight : Tight (text ++ w₁ ++ (',' :: (w₂ ++ "optional".toList))) := by
      refine ⟨?_, ?_⟩
      · rw [List.append_assoc, List.head?_append_of_ne_nil _ h.ne_nil.2]
        exact h.tight.first
      · rw [List.getLast?_append_of_ne_nil _ (by simp), ← List.cons_append,
          List.getLast?_append_of_ne_nil _ (by decide)]
        intro c hc
        obtain rfl : 'l' = c := Option.some.inj hc
        decide
    have hline : oneLine (w₀ ++ (text ++ w₁ ++ (',' :: (w₂ ++ "optional".toList)) ++ w₃)) =
        spaced text ++ spaced w₁ ++ (',' :: (spaced w₂ ++ "optional".toList)) := by
      rw [oneLine_eq htight (by simp) h₀ h₃, spaced_append, spaced_append]
      congr 1
      rw [← List.singleton_append, spaced_append, spaced_append]
      rfl
    have hbefore := beforeOptional?_append (blank_spaced h₂) (spaced text ++ spaced w₁)
    simp only [optional, standardize, standardizeWith, hline, hbefore, Bool.false_eq_true, ↓reduceIte,
      Option.getD_some, Option.isSome_some, hlists.unionType_alternatives hblank]
    rfl
  refine ⟨fun isResult => ?_, hoptional, ?_⟩
  · have hbefore : (if isResult then none else beforeOptional? (spaced text)) = none := by
      rw [beforeOptional?_of_not_mem hlists.comma_not_mem, ite_self]
    have htype := hlists.unionType_alternatives (b := []) (by simp)
    rw [List.append_nil, padLast_nil] at htype
    simp only [standardize, standardizeWith, oneLine_eq h.tight h.ne_nil.2 h₀ h₁, hbefore, Option.getD_none, htype]
    rfl
  · rw [hoptional]
    constructor
    · intro heq
      have hlong := congrArg List.length (List.append_cancel_left (List.append_cancel_right (Except.ok.inj heq)))
      rw [length_unionOf_padLast _ (by simp [types, h.ne_nil.1]), spaced, List.length_map] at hlong
      exact List.eq_nil_of_length_eq_zero (by omega)
    · rintro rfl
      rw [spaced, List.map_nil, padLast_nil]

/-- Three alternatives with both separators between them, a line feed in the first. -/
theorem standardize_lists_integer :
    Lists ["integer".toList, "list[string]".toList, "x".toList] "integer\nor list[string]|x".toList ∧
      standardize (some oneLine) false " integer\nor list[string]|x, optional".toList =
        .ok "Optional[Union[int, List[str], x]]".toList := by
  have hlists : Lists ["integer".toList, "list[string]".toList, "x".toList] "integer\nor list[string]|x".toList :=
    .more (by decide) (.word (a := ['\n']) (b := [' ']) (by simp) (by simp) (by simp; decide) (blank_replicate 1))
      (.more (by decide) (.bar (a := []) (b := []) (by simp) (by simp)) (.one (by decide)))
  have hspace : ∀ c ∈ [' '], isBlank c = true := blank_replicate 1
  have hnone : ∀ c ∈ ([] : List Char), isBlank c = true := blank_replicate 0
  refine ⟨hlists, (standardize_lists hlists hspace hnone hspace hnone).2.1.trans ?_⟩
  simp only [List.map_cons, List.map_nil, ← replaceWords_eq]
  decide +kernel

/-- A blank in front of the comma is kept, one after it is not. -/
theorem blank_before_comma_stays :
    standardize (some oneLine) false "int , optional".toList = .ok "Optional[int ]".toList ∧
      standardize (some oneLine) false "int,  optional".toList = .ok "Optional[int]".toList := by
  decide +kernel

end TypeComments.Docstring
