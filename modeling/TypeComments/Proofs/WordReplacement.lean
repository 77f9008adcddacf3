import Mathlib.Data.List.TakeWhile
import TypeComments.Docstring.TypeText

/-!
# Words replaced one after the other

A text is a row of words with other characters between them, and `mapRuns f` applies `f` to each word of it. Replacing
one word is such a pass (`replaceWord_eq`), and two passes are one, as long as words stay words (`mapRuns_mapRuns`). So
the replacements of a table, made one after the other, are one look-up of each word (`foldl_replaceWord`), if no word
that a replacement leaves is replaced again.
-/

namespace TypeComments.Docstring
variable {f g : List Char → List Char} {s t w word type : List Char} {c : Char}

/-! ### Passes over words -/

/-- A word: characters of words and nothing else. -/
structure IsRun (w : List Char) : Prop where
  ne_nil : w ≠ []
  word : ∀ c ∈ w, isWord c = true

instance (w : List Char) : Decidable (IsRun w) :=
  decidable_of_iff (w ≠ [] ∧ w.all isWord = true)
    ⟨fun ⟨hne, hall⟩ => ⟨hne, List.all_eq_true.1 hall⟩, fun h => ⟨h.ne_nil, List.all_eq_true.2 h.word⟩⟩

/-- Apply `f` to each maximal run of word characters. -/
def mapRuns (f : List Char → List Char) (s : List Char) : List Char :=
  match s with
  | [] => []
  | c :: rest =>
    if isWord c then f (c :: rest.takeWhile isWord) ++ mapRuns f (rest.dropWhile isWord)
    else c :: mapRuns f rest
termination_by s.length
decreasing_by
  · exact Nat.lt_succ_of_le (List.dropWhile_suffix isWord).length_le
  · exact Nat.lt_succ_self _

@[simp] theorem mapRuns_nil (f : List Char → List Char) : mapRuns f [] = [] := by
  rw [mapRuns]

theorem mapRuns_cons (hc : isWord c = false) (s : List Char) : mapRuns f (c :: s) = c :: mapRuns f s := by
  rw [mapRuns, if_neg (by simp [hc])]

theorem mapRuns_run (hw : IsRun w) (ht : atBoundary t = true) : mapRuns f (w ++ t) = f w ++ mapRuns f t := by
  obtain ⟨c, w, rfl⟩ := List.exists_cons_of_ne_nil hw.ne_nil
  have hword : ∀ d ∈ w, isWord d = true := fun d hd => hw.word d (.tail _ hd)
  have hstop : t.takeWhile isWord = [] ∧ t.dropWhile isWord = t := by
    cases t with
    | nil => exact ⟨rfl, rfl⟩
    | cons d t =>
      have hd : isWord d = false := by simpa [atBoundary] using ht
      simp [hd]
  rw [List.cons_append, mapRuns, if_pos (hw.word c (.head _)), List.takeWhile_append_of_pos hword,
    List.dropWhile_append_of_pos hword, hstop.1, hstop.2, List.append_nil]

theorem run_cases (s : List Char) :
    s = [] ∨ (∃ c t, s = c :: t ∧ isWord c = false) ∨ ∃ w t, s = w ++ t ∧ IsRun w ∧ atBoundary t = true := by
  cases s with
  | nil => exact .inl rfl
  | cons c s =>
    refine .inr ?_
    cases hc : isWord c with
    | false => exact .inl ⟨c, s, rfl, hc⟩
    | true =>
      refine .inr ⟨c :: s.takeWhile isWord, s.dropWhile isWord, ?_, ⟨by simp, ?_⟩, ?_⟩
      · rw [List.cons_append, List.takeWhile_append_dropWhile]
      · rintro d (_ | ⟨_, hd⟩)
        exacts [hc, List.all_eq_true.1 List.all_takeWhile d hd]
      · cases hd : s.dropWhile isWord with
        | nil => rfl
        | cons d t =>
          have hfirst := List.head?_dropWhile_not isWord s
          rw [hd] at hfirst
          simpa [atBoundary] using hfirst

/-- What holds of the empty text, and goes over to a text with a word or with another character in front of it, holds
of every text. -/
theorem run_induction {P : List Char → Prop} (nil : P []) (other : ∀ c t, isWord c = false → P t → P (c :: t))
    (run : ∀ w t, IsRun w → atBoundary t = true → P t → P (w ++ t)) (s : List Char) : P s := by
  induction hn : s.length using Nat.strongRecOn generalizing s with
  | _ n ih =>
    obtain rfl | ⟨c, t, rfl, hc⟩ | ⟨w, t, rfl, hw, ht⟩ := run_cases s
    · exact nil
    · exact other c t hc (ih t.length (by rw [← hn]; exact Nat.lt_succ_self _) t rfl)
    · refine run w t hw ht (ih t.length ?_ t rfl)
      rw [← hn, List.length_append]
      exact Nat.lt_add_of_pos_left (List.length_pos_iff.2 hw.ne_nil)

theorem mapRuns_id (hf : ∀ w, IsRun w → f w = w) (s : List Char) : mapRuns f s = s := by
  induction s using run_induction with
  | nil => exact mapRuns_nil f
  | other c t hc ih => rw [mapRuns_cons hc, ih]
  | run w t hw ht ih => rw [mapRuns_run hw ht, hf w hw, ih]

theorem atBoundary_mapRuns (ht : atBoundary t = true) : atBoundary (mapRuns f t) = true := by
  cases t with
  | nil => rw [mapRuns_nil]; rfl
  | cons c t =>
    have hc : isWord c = false := by simpa [atBoundary] using ht
    rw [mapRuns_cons hc]
    exact ht

/-- Two passes are one, if the first one leaves words words. -/
theorem mapRuns_mapRuns (hf : ∀ w, IsRun w → IsRun (f w)) (s : List Char) :
    mapRuns g (mapRuns f s) = mapRuns (g ∘ f) s := by
  induction s using run_induction with
  | nil => simp only [mapRuns_nil]
  | other c t hc ih => rw [mapRuns_cons hc, mapRuns_cons hc, mapRuns_cons hc, ih]
  | run w t hw ht ih =>
    rw [mapRuns_run hw ht, mapRuns_run hw ht, mapRuns_run (hf w hw) (atBoundary_mapRuns ht), ih, Function.comp_apply]

theorem mapRuns_append (ht : ∀ c ∈ t, isWord c = false) (s : List Char) : mapRuns f (s ++ t) = mapRuns f s ++ t := by
  have hself : mapRuns f t = t := by
    induction t with
    | nil => exact mapRuns_nil f
    | cons c t ih => rw [mapRuns_cons (ht c (.head _)), ih fun d hd => ht d (.tail _ hd)]
  have hstart : atBoundary t = true := by
    cases t with
    | nil => rfl
    | cons c t => simp [atBoundary, ht c (.head _)]
  induction s using run_induction with
  | nil => rw [mapRuns_nil, List.nil_append, hself]
  | other c u hc ih => rw [List.cons_append, mapRuns_cons hc, mapRuns_cons hc, ih, List.cons_append]
  | run w u hw hu ih =>
    have hut : atBoundary (u ++ t) = true := by
      cases u with
      | nil => exact hstart
      | cons c u => exact hu
    rw [List.append_assoc, mapRuns_run hw hut, mapRuns_run hw hu, ih, List.append_assoc]

/-! ### Replacing one word -/

theorem replaceWordFrom_inWord (hw : ∀ c ∈ w, isWord c = true) (t : List Char) :
    replaceWordFrom word type 0 true (w ++ t) = w ++ replaceWordFrom word type 0 true t := by
  induction w with
  | nil => rfl
  | cons c w ih =>
    rw [List.cons_append, replaceWordFrom, if_neg (by simp), hw c (.head _), ih fun d hd => hw d (.tail _ hd),
      List.cons_append]

theorem replaceWordFrom_skip (w t : List Char) :
    replaceWordFrom word type w.length true (w ++ t) = replaceWordFrom word type 0 true t := by
  induction w with
  | nil => rfl
  | cons c w ih => rw [List.cons_append, List.length_cons, replaceWordFrom, ih]

/-- No word starts at a boundary, so it does not matter what stands in front of it. -/
theorem replaceWordFrom_boundary (hword : IsRun word) (ht : atBoundary t = true) (inWord : Bool) :
    replaceWordFrom word type 0 inWord t = replaceWordFrom word type 0 false t := by
  cases t with
  | nil => rfl
  | cons c t =>
    have hc : isWord c = false := by simpa [atBoundary] using ht
    obtain ⟨d, u, rfl⟩ := List.exists_cons_of_ne_nil hword.ne_nil
    have hne : d ≠ c := by
      rintro rfl
      rw [hword.word d (.head _)] at hc
      cases hc
    simp [replaceWordFrom, hne]

/-- A word of the text is replaced if it is the one looked for. -/
theorem replaceWordFrom_run (hword : IsRun word) (hw : IsRun w) (ht : atBoundary t = true) :
    replaceWordFrom word type 0 false (w ++ t) =
      (if w = word then type else w) ++ replaceWordFrom word type 0 false t := by
  obtain ⟨c, w, rfl⟩ := List.exists_cons_of_ne_nil hw.ne_nil
  have hmatch : (word.isPrefixOf (c :: w ++ t) && atBoundary ((c :: w ++ t).drop word.length)) = true ↔
      c :: w = word := by
    rw [Bool.and_eq_true, List.isPrefixOf_iff_prefix]
    constructor
    · rintro ⟨hpre, hend⟩
      obtain ⟨rest, hrest⟩ := hpre
      rcases List.append_eq_append_iff.1 hrest with ⟨u, hu, -⟩ | ⟨u, hu, hut⟩
      · -- more of the word follows what is looked for
        cases u with
        | nil => rw [hu, List.append_nil]
        | cons d u =>
          rw [hu, List.append_assoc, List.drop_left] at hend
          have hd := hw.word d (by rw [hu]; simp)
          simp [atBoundary, hd] at hend
      · -- what is looked for goes on after the word
        cases u with
        | nil => rw [hu, List.append_nil]
        | cons d u =>
          have hd := hword.word d (by rw [hu]; simp)
          rw [hut] at ht
          simp [atBoundary, hd] at ht
    · rintro rfl
      exact ⟨List.prefix_append _ _, by rw [List.drop_left]; exact ht⟩
  rw [List.cons_append, replaceWordFrom, ← List.cons_append]
  by_cases heq : c :: w = word
  · have hlength : word.length - 1 = w.length := by rw [← heq]; rfl
    rw [if_pos heq, if_pos (by simpa using hmatch.2 heq), hlength, replaceWordFrom_skip,
      replaceWordFrom_boundary hword ht]
  · rw [if_neg heq, if_neg (by simpa using mt hmatch.1 heq), hw.word c (.head _),
      replaceWordFrom_inWord fun d hd => hw.word d (.tail _ hd), replaceWordFrom_boundary hword ht, List.cons_append]

/-- Replacing a word is a pass over the words of the text. -/
theorem replaceWord_eq (hword : IsRun word) (type s : List Char) :
    replaceWord word type s = mapRuns (fun w => if w = word then type else w) s := by
  unfold replaceWord
  induction s using run_induction with
  | nil => rw [mapRuns_nil]; rfl
  | other c t hc ih =>
    have hstart : atBoundary (c :: t) = true := by simp [atBoundary, hc]
    rw [mapRuns_cons hc, ← ih, ← replaceWordFrom_boundary hword hstart true, replaceWordFrom, if_neg (by simp), hc]
  | run w t hw ht ih => rw [mapRuns_run hw ht, replaceWordFrom_run hword hw ht, ih]

/-! ### A table of words -/

/-- A table whose replacements are words, none of which is replaced again. -/
structure WordTable (table : List (List Char × List Char)) : Prop where
  words : ∀ q ∈ table, IsRun q.1
  types : ∀ q ∈ table, IsRun q.2
  settled : ∀ q ∈ table, ∀ r ∈ table, q.2 ≠ r.1

theorem WordTable.tail {q : List Char × List Char} {table : List (List Char × List Char)} (h : WordTable (q :: table)) :
    WordTable table where
  words r hr := h.words r (.tail _ hr)
  types r hr := h.types r (.tail _ hr)
  settled r hr p hp := h.settled r (.tail _ hr) p (.tail _ hp)

/-- The replacements of a table, one after the other, look up each word of the text. -/
theorem foldl_replaceWord {table : List (List Char × List Char)} (h : WordTable table) (s : List Char) :
    table.foldl (fun s q => replaceWord q.1 q.2 s) s = mapRuns (fun w => (table.lookup w).getD w) s := by
  induction table generalizing s with
  | nil => exact (mapRuns_id (fun _ _ => rfl) s).symm
  | cons q table ih =>
    have hleft : table.lookup q.2 = none := by
      rw [List.lookup_eq_none_iff]
      intro r hr
      simpa using h.settled q (.head _) r (.tail _ hr)
    have hrun : ∀ w, IsRun w → IsRun (if w = q.1 then q.2 else w) := by
      intro w hw
      split
      exacts [h.types q (.head _), hw]
    have hlook : (fun w => (table.lookup w).getD w) ∘ (fun w => if w = q.1 then q.2 else w) =
        fun w => ((q :: table).lookup w).getD w := by
      funext w
      rw [Function.comp_apply, List.lookup_cons]
      by_cases hw : w = q.1
      · rw [if_pos hw, hleft, hw, beq_self_eq_true]
        rfl
      · rw [if_neg hw, beq_eq_false_iff_ne.2 hw]
    rw [List.foldl_cons, ih h.tail, replaceWord_eq (h.words q (.head _)), mapRuns_mapRuns hrun, hlook]

/-- The type that a word stands for, and other words as they are. -/
def typeOfWord (w : List Char) : List Char :=
  (typeWords.lookup w).getD w

theorem wordTable_typeWords : WordTable typeWords where
  words := by decide +kernel
  types := by decide +kernel
  settled := by decide +kernel

/-- Each word of the text becomes the type that it stands for, and all else stays. -/
theorem replaceWords_eq (s : List Char) : replaceWords s = mapRuns typeOfWord s :=
  foldl_replaceWord wordTable_typeWords s

end TypeComments.Docstring
