import Mathlib.Data.List.SplitBy
import TypeComments.Proofs.WordReplacement

/-!
# The replacements of the table in any order

A text is cut into its maximal runs of word characters and of other characters (`wordRuns`), and a pass over the words
of the text acts on these runs one by one (`mapRuns_eq_flatMap`, `wordRuns_mapRuns`). No word is in the table twice, so
looking a word up does not depend on the order of the table (`lookup_perm`). The replacements, one after the other in
any order, are therefore one replacement of all runs at once, and leave no word of the table.
-/

namespace TypeComments.Docstring
variable {f : List Char → List Char} {s t w : List Char} {table table' : List (List Char × List Char)}

/-! ### Runs of a text -/

/-- The maximal runs of word characters and of other characters, from left to right. -/
def wordRuns (s : List Char) : List (List Char) :=
  s.splitBy fun c d => isWord c == isWord d

/-- A run of word characters, or one of other characters. -/
structure IsRunOf (word : Bool) (w : List Char) : Prop where
  ne_nil : w ≠ []
  kind : ∀ c ∈ w, isWord c = word

namespace IsRunOf
variable {b b' : Bool} {v : List Char}

theorem isChain (h : IsRunOf b w) : w.IsChain fun c d => (isWord c == isWord d) = true := by
  refine (List.pairwise_of_forall_mem_list fun c hc d hd => ?_).isChain
  rw [h.kind c hc, h.kind d hd, beq_self_eq_true]

theorem wordRuns_eq (h : IsRunOf b w) : wordRuns w = [w] :=
  List.splitBy_of_isChain h.ne_nil h.isChain

theorem apart_iff (hw : IsRunOf b w) (hv : IsRunOf b' v) :
    (∃ hne hne', (isWord (w.getLast hne) == isWord (v.head hne')) = false) ↔ b ≠ b' := by
  have hends : isWord (w.getLast hw.ne_nil) = b ∧ isWord (v.head hv.ne_nil) = b' :=
    ⟨hw.kind _ (List.getLast_mem _), hv.kind _ (List.head_mem _)⟩
  constructor
  · rintro ⟨hne, hne', hdiffer⟩
    rwa [hends.1, hends.2, beq_eq_false_iff_ne] at hdiffer
  · intro hdiffer
    refine ⟨hw.ne_nil, hv.ne_nil, ?_⟩
    rwa [hends.1, hends.2, beq_eq_false_iff_ne]

end IsRunOf

theorem IsRun.isRunOf (h : IsRun w) : IsRunOf true w :=
  ⟨h.ne_nil, h.word⟩

theorem IsRunOf.isRun (h : IsRunOf true w) : IsRun w :=
  ⟨h.ne_nil, h.kind⟩

theorem exists_isRunOf (h : w ∈ wordRuns s) : ∃ b, IsRunOf b w := by
  have hne := List.ne_nil_of_mem_splitBy h
  have hchain := List.isChain_of_mem_splitBy h
  obtain ⟨c, w, rfl⟩ := List.exists_cons_of_ne_nil hne
  have htrans : IsTrans Char fun c d => (isWord c == isWord d) = true := ⟨fun a b c hab hbc => by simp_all⟩
  refine ⟨isWord c, hne, ?_⟩
  rintro d (_ | ⟨_, hd⟩)
  · rfl
  · exact (beq_iff_eq.1 ((List.pairwise_cons.1 hchain.pairwise).1 d hd)).symm

theorem isChain_wordRuns (s : List Char) : (wordRuns s).IsChain fun w v =>
    ∃ hne hne', (isWord (w.getLast hne) == isWord (v.head hne')) = false :=
  List.isChain_getLast_head_splitBy (fun c d => isWord c == isWord d) s

theorem mem_wordRuns (hw : IsRun w) (hs : ∀ c ∈ s.getLast?, isWord c = false) (ht : atBoundary t = true) :
    w ∈ wordRuns (s ++ (w ++ t)) := by
  have hfirst : ∀ c ∈ (w ++ t).head?, isWord c = true := by
    intro c hc
    rw [List.head?_append_of_ne_nil _ hw.ne_nil] at hc
    exact hw.word c (List.mem_of_mem_head? hc)
  have hnext : ∀ c ∈ t.head?, isWord c = false := by
    intro c hc
    obtain ⟨u, rfl⟩ := List.head?_eq_some_iff.1 hc
    simpa [atBoundary] using ht
  have hcut : wordRuns (s ++ (w ++ t)) = wordRuns s ++ (wordRuns w ++ wordRuns t) := by
    rw [wordRuns, List.splitBy_append fun c hc d hd => by simp [hs c hc, hfirst d hd],
      List.splitBy_append fun c hc d hd => by simp [hw.word c (List.mem_of_mem_getLast? hc), hnext d hd]]
    rfl
  rw [hcut, hw.isRunOf.wordRuns_eq]
  simp

theorem mapRuns_other (hw : IsRunOf false w) (t : List Char) : mapRuns f (w ++ t) = w ++ mapRuns f t := by
  obtain ⟨-, hother⟩ := hw
  induction w with
  | nil => rfl
  | cons c w ih =>
    rw [List.cons_append, mapRuns_cons (hother c (.head _)), ih fun d hd => hother d (.tail _ hd), List.cons_append]

/-- A pass over the words acts on the runs one by one. -/
theorem mapRuns_eq_flatMap (hother : ∀ w, IsRunOf false w → f w = w) (s : List Char) :
    mapRuns f s = (wordRuns s).flatMap f := by
  have hkind : ∀ w ∈ wordRuns s, ∃ b, IsRunOf b w := fun w hw => exists_isRunOf hw
  have hapart := isChain_wordRuns s
  conv_lhs => rw [← List.flatten_splitBy (fun c d => isWord c == isWord d) s]
  rw [← wordRuns]
  generalize wordRuns s = runs at hapart hkind
  induction runs with
  | nil => exact mapRuns_nil f
  | cons w runs ih =>
    obtain ⟨hnext, hapart⟩ := List.isChain_cons.1 hapart
    rw [List.flatten_cons, List.flatMap_cons, ← ih hapart fun v hv => hkind v (.tail _ hv)]
    obtain ⟨b, hw⟩ := hkind w (.head _)
    cases b with
    | false => rw [mapRuns_other hw, hother w hw]
    | true =>
      -- the run after a word is of the other kind, so the word ends where the run ends
      refine mapRuns_run hw.isRun ?_
      cases runs with
      | nil => rfl
      | cons v runs =>
        obtain ⟨b, hv⟩ := hkind v (by simp)
        have hb : b = false := by simpa using (hw.apart_iff hv).1 (hnext v rfl)
        obtain ⟨c, v, rfl⟩ := List.exists_cons_of_ne_nil hv.ne_nil
        simp [atBoundary, hv.kind c (.head _), hb]

theorem wordRuns_mapRuns (hrun : ∀ w, IsRun w → IsRun (f w)) (hother : ∀ w, IsRunOf false w → f w = w)
    (s : List Char) : wordRuns (mapRuns f s) = (wordRuns s).map f := by
  have hkeeps : ∀ b w, IsRunOf b w → IsRunOf b (f w) := by
    intro b w hw
    cases b with
    | false => rwa [hother w hw]
    | true => exact (hrun w hw.isRun).isRunOf
  -- runs are known by these four facts, so it is enough that `f` keeps the kinds
  rw [mapRuns_eq_flatMap hother, List.flatMap_def]
  refine List.splitBy_eq_iff.2 ⟨rfl, ?_, ?_, ?_⟩
  · intro hnil
    obtain ⟨w, hw, hfw⟩ := List.mem_map.1 hnil
    obtain ⟨b, hb⟩ := exists_isRunOf hw
    exact (hkeeps b w hb).ne_nil hfw
  · intro v hv
    obtain ⟨w, hw, rfl⟩ := List.mem_map.1 hv
    obtain ⟨b, hb⟩ := exists_isRunOf hw
    exact (hkeeps b w hb).isChain
  · rw [List.isChain_map]
    refine (isChain_wordRuns s).imp_of_mem_imp fun w v hw hv hapart => ?_
    obtain ⟨b, hb⟩ := exists_isRunOf hw
    obtain ⟨b', hb'⟩ := exists_isRunOf hv
    rw [(hkeeps b w hb).apart_iff (hkeeps b' v hb')]
    exact (hb.apart_iff hb').1 hapart

/-! ### The table in any order -/

theorem lookup_perm (h : table.Perm table') (hkeys : (table.map Prod.fst).Nodup) (w : List Char) :
    table.lookup w = table'.lookup w := by
  induction h with
  | nil => rfl
  | cons q _ ih => rw [List.lookup_cons, List.lookup_cons, ih (List.nodup_cons.1 hkeys).2]
  | swap q r l =>
    have hne : r.1 ≠ q.1 := fun heq => (List.nodup_cons.1 hkeys).1 (by simp [heq])
    rw [List.lookup_cons, List.lookup_cons, List.lookup_cons, List.lookup_cons]
    by_cases hq : w = q.1
    · have hr : w ≠ r.1 := fun hr => hne (hr.symm.trans hq)
      rw [beq_eq_false_iff_ne.2 hr]
    · rw [beq_eq_false_iff_ne.2 hq]
  | trans h _ ih ih' => rw [ih hkeys, ih' ((h.map _).nodup_iff.1 hkeys)]

theorem WordTable.of_perm (ht : WordTable table') (h : table.Perm table') : WordTable table where
  words q hq := ht.words q (h.subset hq)
  types q hq := ht.types q (h.subset hq)
  settled q hq r hr := ht.settled q (h.subset hq) r (h.subset hr)

theorem nodup_typeWords : (typeWords.map Prod.fst).Nodup := by
  decide +kernel

/-- The replacements of the table, in any order, look up each word in the table. -/
theorem foldl_of_perm (h : table.Perm typeWords) (s : List Char) :
    table.foldl (fun s q => replaceWord q.1 q.2 s) s = mapRuns typeOfWord s := by
  have hlookup : (fun w => (table.lookup w).getD w) = typeOfWord := by
    funext w
    rw [typeOfWord, lookup_perm h ((h.map _).nodup_iff.2 nodup_typeWords)]
  rw [foldl_replaceWord (wordTable_typeWords.of_perm h), hlookup]

/-- A word is in the table and becomes its type, or it is not and stays. -/
theorem typeOfWord_cases (w : List Char) :
    (∃ q ∈ typeWords, w = q.1 ∧ typeOfWord w = q.2) ∨ (∀ q ∈ typeWords, w ≠ q.1) ∧ typeOfWord w = w := by
  cases hlookup : typeWords.lookup w with
  | none =>
    refine .inr ⟨fun q hq => ?_, by rw [typeOfWord, hlookup, Option.getD_none]⟩
    simpa using List.lookup_eq_none_iff.1 hlookup q hq
  | some type =>
    obtain ⟨front, back, htable, -⟩ := List.lookup_eq_some_iff.1 hlookup
    exact .inl ⟨(w, type), by rw [htable]; simp, rfl, by rw [typeOfWord, hlookup, Option.getD_some]⟩

/-- Types are not in the table, so no word becomes one that is. -/
theorem typeOfWord_ne {q : List Char × List Char} (hq : q ∈ typeWords) (w : List Char) : typeOfWord w ≠ q.1 := by
  obtain ⟨r, hr, -, htype⟩ | ⟨hne, hself⟩ := typeOfWord_cases w
  · rw [htype]
    exact wordTable_typeWords.settled r hr q hq
  · rw [hself]
    exact hne q hq

theorem typeOfWord_typeOfWord (w : List Char) : typeOfWord (typeOfWord w) = typeOfWord w := by
  obtain ⟨q, hq, hword, -⟩ | ⟨-, hself⟩ := typeOfWord_cases (typeOfWord w)
  · exact absurd hword (typeOfWord_ne hq w)
  · exact hself

theorem typeOfWord_other (hw : IsRunOf false w) : typeOfWord w = w := by
  obtain ⟨q, hq, rfl, -⟩ | ⟨-, hself⟩ := typeOfWord_cases w
  · have hword := wordTable_typeWords.words q hq
    have hfirst := List.head_mem hw.ne_nil
    exact absurd ((hword.word _ hfirst).symm.trans (hw.kind _ hfirst)) (by decide)
  · exact hself

theorem isRun_typeOfWord (hw : IsRun w) : IsRun (typeOfWord w) := by
  obtain ⟨q, hq, -, htype⟩ | ⟨-, hself⟩ := typeOfWord_cases w
  · rw [htype]
    exact wordTable_typeWords.types q hq
  · rwa [hself]

/-- The word stands in the text as a whole word. -/
def StandsIn (w s : List Char) : Prop :=
  ∃ front back, s = front ++ (w ++ back) ∧ (∀ c ∈ front.getLast?, isWord c = false) ∧ atBoundary back = true

/-- The replacements of the table, one after the other in any order, replace all runs of the text at once, each run that
is a word of the table by its type and no other. So the order makes no difference, a second pass in any order changes
nothing, and no word of the table is left. -/
theorem replacements_simultaneous (h : table.Perm typeWords) (h' : table'.Perm typeWords) (p : List Char) :
    let replaced := table.foldl (fun s q => replaceWord q.1 q.2 s) p
    replaced = (wordRuns p).flatMap typeOfWord ∧
      replaced = replaceWords p ∧
      table'.foldl (fun s q => replaceWord q.1 q.2 s) replaced = replaced ∧
      ∀ q ∈ typeWords, ¬ StandsIn q.1 replaced := by
  intro replaced
  have hpass : replaced = mapRuns typeOfWord p := foldl_of_perm h p
  refine ⟨?_, ?_, ?_, ?_⟩
  · rw [hpass, mapRuns_eq_flatMap fun w hw => typeOfWord_other hw]
  · rw [hpass, replaceWords_eq]
  · have htwice : typeOfWord ∘ typeOfWord = typeOfWord := funext typeOfWord_typeOfWord
    rw [foldl_of_perm h', hpass, mapRuns_mapRuns fun w hw => isRun_typeOfWord hw, htwice]
  · rintro q hq ⟨front, back, hstands, hfront, hback⟩
    have hmem := mem_wordRuns (wordTable_typeWords.words q hq) hfront hback
    rw [← hstands, hpass, wordRuns_mapRuns (fun w hw => isRun_typeOfWord hw) fun w hw => typeOfWord_other hw] at hmem
    obtain ⟨w, -, hw⟩ := List.mem_map.1 hmem
    exact typeOfWord_ne hq w hw

/-- The table backwards, on words that start with one another and on one that goes on after a word of the table. -/
theorem replacements_simultaneous_reversed :
    typeWords.reverse.Perm typeWords ∧
      typeWords.reverse.foldl (fun s q => replaceWord q.1 q.2 s) "dictionary(dict, dict_list) of string".toList =
        "Dict(Dict, dict_list) of str".toList := by
  refine ⟨typeWords.reverse_perm, ?_⟩
  rw [(replacements_simultaneous typeWords.reverse_perm (.refl _) _).1]
  decide +kernel

end TypeComments.Docstring
