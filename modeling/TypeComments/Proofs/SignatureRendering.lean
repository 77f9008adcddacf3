import TypeComments.Proofs.CastEntries
import TypeComments.Proofs.SignatureSections

/-!
# Documented signatures are read back

A docstring that renders a signature in numpy or google format, at any indentation, is taken for the format it is
in, and documents the parameters in order and the result type (`rendered_signature_documented`).
-/

namespace TypeComments

namespace Docstring
variable {w m text : List Char} {lines : List (List Char)} {params : List (List Char × List Char)}

/-! ### Guessing the format -/

/-- A marker of whole lines stands at the start of a line only if its first line is a line of the text. -/
theorem mem_lines_of_atLineStart (hw : '\n' ∉ w) {fresh : Bool} (h : atLineStart (w ++ '\n' :: m) fresh text = true) :
    w ∈ if fresh then List.splitOn '\n' text else (List.splitOn '\n' text).tail := by
  induction text generalizing fresh with
  | nil =>
    rw [atLineStart, Bool.and_eq_true] at h
    simp at h
  | cons c text ih =>
    rw [atLineStart, Bool.or_eq_true, Bool.and_eq_true] at h
    rcases h with ⟨rfl, hstart⟩ | hlater
    · obtain ⟨rest, hrest⟩ := List.isPrefixOf_iff_prefix.1 hstart
      rw [← hrest, List.append_assoc, List.cons_append, List.splitOn_append_cons_self_of_not_mem hw]
      exact .head _
    · -- a line that starts later is never the first one
      have htail : w ∈ (List.splitOn '\n' (c :: text)).tail := by
        have hmem := ih hlater
        rw [List.splitOn_cons_eq_if_modifyHead]
        split at hmem
        · rwa [if_pos ‹_›]
        · rwa [if_neg ‹_›, List.tail_modifyHead]
      cases fresh with
      | true => exact List.mem_of_mem_tail htail
      | false => exact htail

theorem atLineStart_append (hm : m ≠ []) (text : List Char) : atLineStart m true (m ++ text) = true := by
  obtain ⟨c, m, rfl⟩ := List.exists_cons_of_ne_nil hm
  rw [List.cons_append, atLineStart, ← List.cons_append, List.isPrefixOf_iff_prefix.2 (List.prefix_append _ _)]
  rfl

theorem not_matches_numpy (hne : lines ≠ []) (hfeed : ∀ l ∈ lines, '\n' ∉ l)
    (hnone : ∀ w ∈ ["Parameters".toList, "Returns".toList, "Yields".toList], w ∉ lines) :
    Format.numpy.matches (List.intercalate ['\n'] lines) = false := by
  have hstart (w m : List Char) (hw : '\n' ∉ w) (hin : w ∉ lines) :
      atLineStart (w ++ '\n' :: m) true (List.intercalate ['\n'] lines) = false := by
    refine Bool.eq_false_iff.2 fun h => hin ?_
    have hmem := mem_lines_of_atLineStart hw h
    rwa [List.splitOn_intercalate _ hfeed hne] at hmem
  have hparams := hstart "Parameters".toList "----------\n".toList (by decide) (hnone _ (by decide))
  have hreturns := hstart "Returns".toList "-------\n".toList (by decide) (hnone _ (by decide))
  have hyields := hstart "Yields".toList "------\n".toList (by decide) (hnone _ (by decide))
  rw [Format.matches, List.any_eq_false]
  intro marker hmarker
  rw [Bool.not_eq_true]
  rcases List.mem_cons.1 hmarker with rfl | hmarker
  · exact hparams
  rcases List.mem_cons.1 hmarker with rfl | hmarker
  · exact hreturns
  · obtain rfl := List.mem_singleton.1 hmarker
    exact hyields

theorem matches_of_isPrefix {format : Format} (hm : m ∈ format.markers) (hne : m ≠ []) (text : List Char) :
    format.matches (m ++ text) = true :=
  List.any_eq_true.2 ⟨m, hm, atLineStart_append hne text⟩

theorem guess_numpyLines {results : List (List Char)} (h : Flush (numpyLines params results)) (d : Nat) :
    guessFormat (indented d (numpyLines params results)) = some .numpy := by
  obtain ⟨x, rest, hx⟩ : ∃ x rest, numpyLines params results = "Parameters".toList :: "----------".toList :: x :: rest := by
    cases params <;> exact ⟨_, _, rfl⟩
  have hmatch : Format.numpy.matches (List.intercalate ['\n'] (numpyLines params results)) = true := by
    rw [hx]
    exact matches_of_isPrefix (m := "Parameters\n----------\n".toList) (.head _) (by decide)
      (List.intercalate ['\n'] (x :: rest))
  rw [guessFormat, h.unindent]
  exact List.find?_cons_of_pos hmatch

theorem googleLines_shape {r : List Char} : ∀ l ∈ googleLines params r, l = [] ∨ l.head? = some ' ' ∨ ':' ∈ l := by
  simp only [googleLines, List.forall_mem_append, List.forall_mem_cons, List.forall_mem_map]
  exact ⟨⟨by decide, fun q _ => .inr (.inl rfl), by decide⟩, by decide, .inr (.inl rfl), by decide⟩

theorem guess_googleLines {r : List Char} (h : Flush (googleLines params r)) (d : Nat) :
    guessFormat (indented d (googleLines params r)) = some .google := by
  obtain ⟨x, rest, hx⟩ : ∃ x rest, googleLines params r = "Args:".toList :: x :: rest := by
    cases params <;> exact ⟨_, _, rfl⟩
  have hheads : ∀ w ∈ ["Parameters".toList, "Returns".toList, "Yields".toList],
      ¬(w = [] ∨ w.head? = some ' ' ∨ ':' ∈ w) := by decide
  have hnot := not_matches_numpy (by simp [hx]) (fun l hl => (h.plain l hl).1)
    fun w hw hmem => hheads w hw (googleLines_shape w hmem)
  have hmatch : Format.google.matches (List.intercalate ['\n'] (googleLines params r)) = true := by
    rw [hx]
    exact matches_of_isPrefix (m := "Args:\n".toList) (.head _) (by decide) (List.intercalate ['\n'] (x :: rest))
  rw [guessFormat, h.unindent, Format.all, List.find?_cons_of_neg (by simp [hnot])]
  exact List.find?_cons_of_pos hmatch

/-! ### Reading the docstring -/

/-- A line without line breaks, tabs and backquotes. -/
def Plain (l : List Char) : Prop :=
  ∀ c ∈ l, isLineBreak c = false ∧ c ∉ ['\t', '\x60']

instance (l : List Char) : Decidable (Plain l) :=
  List.decidableBAll (fun c => isLineBreak c = false ∧ c ∉ ['\t', '\x60']) l

theorem Plain.append {s t : List Char} (hs : Plain s) (ht : Plain t) : Plain (s ++ t) := by
  intro c hc
  rcases List.mem_append.1 hc with hc | hc
  exacts [hs c hc, ht c hc]

theorem IsType.plain_text {t : List Char} (h : IsType t) : Plain t :=
  fun c hc => ⟨h.unbroken c hc, fun hmem => h.plain c hc (List.mem_append_left [':', '(', ')'] hmem)⟩

theorem IsName.plain_text {n : List Char} (h : IsName n) : Plain n := by
  intro c hc
  have hblank := h.notBlank c hc
  refine ⟨Bool.eq_false_iff.2 fun hbreak => ?_, fun hmem => ?_⟩
  · rw [isBlank_of_isLineBreak hbreak] at hblank
    cases hblank
  · rcases List.mem_cons.1 hmem with rfl | hmem
    · exact absurd hblank (by decide)
    · obtain rfl := List.mem_singleton.1 hmem
      exact h.plain _ hc (by decide)

theorem plain_numpyField {q : List Char × List Char} (hq : IsName q.1 ∧ IsType q.2) : Plain (numpyField q) :=
  (hq.1.plain_text.append (by decide)).append hq.2.plain_text

theorem plain_googleField {q : List Char × List Char} (hq : IsName q.1 ∧ IsType q.2) : Plain (googleField q) :=
  .append (by decide)
    (((hq.1.plain_text.append (by decide)).append hq.2.plain_text).append (by decide))

theorem plain_googleResult {r : List Char} (hr : IsType r) : Plain (googleResult r) :=
  .append (by decide) (hr.plain_text.append (by decide))

theorem plain_numpyLines {results : List (List Char)} (hparams : ∀ q ∈ params, IsName q.1 ∧ IsType q.2)
    (hresults : ∀ l ∈ results, Plain l) : ∀ l ∈ numpyLines params results, Plain l := by
  simp only [numpyLines, List.forall_mem_append, List.forall_mem_cons, List.forall_mem_map]
  exact ⟨⟨by decide, by decide, fun q hq => plain_numpyField (hparams q hq), by decide⟩, by decide, by decide, hresults⟩

theorem plain_googleLines {r : List Char} (hparams : ∀ q ∈ params, IsName q.1 ∧ IsType q.2) (hr : IsType r) :
    ∀ l ∈ googleLines params r, Plain l := by
  simp only [googleLines, List.forall_mem_append, List.forall_mem_cons, List.forall_mem_map]
  exact ⟨⟨by decide, fun q hq => plain_googleField (hparams q hq), by decide⟩, by decide, plain_googleResult hr,
    by decide⟩

theorem Plain.not_mem {l : List Char} (h : Plain l) : '\n' ∉ l ∧ '\t' ∉ l ∧ '\x60' ∉ l :=
  ⟨fun hm => absurd (h _ hm).1 (by decide), fun hm => (h _ hm).2 (by decide), fun hm => (h _ hm).2 (by decide)⟩

theorem flush_numpyLines {results : List (List Char)} (hplain : ∀ l ∈ numpyLines params results, Plain l)
    (hne : ∀ l ∈ results, l ≠ []) : Flush (numpyLines params results) where
  first := ⟨'P', "arameters".toList, _, rfl, by decide⟩
  last hlast := by
    rw [numpyLines, List.getLast?_append_of_ne_nil _ (List.cons_ne_nil _ _)] at hlast
    have hmem := List.mem_of_getLast? hlast
    rw [List.mem_cons, List.mem_cons] at hmem
    rcases hmem with hmem | hmem | hmem
    · exact absurd hmem (by decide)
    · exact absurd hmem (by decide)
    · exact hne _ hmem rfl
  plain l hl := ⟨(hplain l hl).not_mem.1, (hplain l hl).not_mem.2.1⟩

theorem flush_googleLines {r : List Char} (hplain : ∀ l ∈ googleLines params r, Plain l) :
    Flush (googleLines params r) where
  first := ⟨'A', "rgs:".toList, _, rfl, by decide⟩
  last hlast := by
    rw [googleLines, List.getLast?_append_of_ne_nil _ (List.cons_ne_nil _ _)] at hlast
    cases Option.some.inj hlast
  plain l hl := ⟨(hplain l hl).not_mem.1, (hplain l hl).not_mem.2.1⟩

def Style.format : Style → Format
  | .numpy => .numpy
  | .google => .google

theorem read_format (style : Style) (markup : List Char → Markup.Reading) (doc : List Char) (notices : List Notice) :
    (style.format.read markup doc).run.run notices = (.ok (style.report (numberedFrom 0 (splitLines doc))), notices) := by
  cases style <;> simp only [Style.format, Format.read, Style.parse_eq] <;> rfl

/-- Read without any format given, the docstring is taken for one of this format, gives no notice, and documents
these parameters and this result type. -/
def Documents (options : Options) (format : Format) (doc : List Char) (params : List (List Char × List Char))
    (result : List Char) : Prop :=
  guessFormat doc = some format ∧ ∀ notices, ∃ documented,
    (parseDocstring none none options doc).run.run notices = (.ok documented, notices) ∧
      Gives documented.params params ∧ documented.result.bind (·.type) = some result

theorem documents_of_reports {style : Style} {options : Options} {types : List (List Char)} {d : Nat}
    (hplain : ∀ l ∈ lines, Plain l) (hflush : Flush lines) (hreports : style.Reports lines params types)
    (hguess : guessFormat (indented d lines) = some style.format) (hdistinct : (params.map Prod.fst).Nodup)
    (htypes : types ≠ []) (hnamed : 2 ≤ types.length → options.allowNamedResults = true) :
    Documents options style.format (indented d lines) params (resultType types) := by
  obtain ⟨ps, es, hreport, hparams, hes⟩ := hreports
  obtain ⟨e, hcast, he⟩ := castReturns_eq htypes hes hnamed
  have hlines : splitLines (clean (indented d lines)) = lines := by
    rw [hflush.clean d fun l hl => (hplain l hl).not_mem.2.2]
    exact splitLines_intercalate (fun l hl c hc => (hplain l hl c hc).1) hflush.last
  have hput : castParams ps = ps := castParams_of_nodup (by
    rw [hparams.names]
    exact List.Pairwise.map _ (fun _ _ hne h => hne (Option.some.inj h)) hdistinct)
  refine ⟨hguess, fun notices => ⟨⟨ps, some e⟩, ?_, hparams, he⟩⟩
  have hread := read_format style options.markup (clean (indented d lines)) notices
  rw [hlines, hreport] at hread
  have hresult : castResult options es [] = pure (some e) := by
    rw [← hcast]
    cases es <;> rfl
  rw [parseDocstring, chooseFormat, hguess]
  simp only [Option.none_or, Option.getD_some, Format.parse]
  rw [run_bind_of_ok hread]
  simp only [Option.getD_some, Option.getD_none, hresult, hput]
  rfl

/-- A signature written in either format, at any indentation, documents its parameters in order and its result
type; several named results are a tuple. -/
theorem rendered_signature_documented (params : List (List Char × List Char)) (hne : params ≠ [])
    (hdistinct : (params.map Prod.fst).Nodup) (hparams : ∀ q ∈ params, IsName q.1 ∧ IsType q.2) (d : Nat)
    (options : Options) :
    (∀ r, IsType r →
      Documents options .numpy (indented d (numpyLines params [r])) params r ∧
        Documents options .google (indented d (googleLines params r)) params r) ∧
    ∀ results : List (List Char × List Char), 2 ≤ results.length → (∀ q ∈ results, IsName q.1 ∧ IsType q.2) →
      options.allowNamedResults = true →
      Documents options .numpy (indented d (numpyLines params (results.map numpyField))) params
        ("Tuple[".toList ++ List.intercalate ", ".toList (results.map Prod.snd) ++ "]".toList) := by
  refine ⟨fun r hr => ⟨?_, ?_⟩, fun results hlength hresults hnamed => ?_⟩
  · have hplain : ∀ l ∈ numpyLines params [r], Plain l := plain_numpyLines hparams (by simpa using hr.plain_text)
    have hflush := flush_numpyLines hplain (by simpa using hr.ne_nil)
    have hreports := reports_numpyLines hne hparams (fun k => flat_numpyResult k hr) (fun k => gives_numpyResult k hr)
      (by simpa using hr.ne_nil)
    exact documents_of_reports hplain hflush hreports (guess_numpyLines hflush d) hdistinct (by simp) (by simp)
  · have hplain := plain_googleLines hparams hr
    have hflush := flush_googleLines hplain
    have hreports := reports_googleLines hne hparams hr
    exact documents_of_reports hplain hflush hreports (guess_googleLines hflush d) hdistinct (by simp) (by simp)
  · have hplain : ∀ l ∈ numpyLines params (results.map numpyField), Plain l :=
      plain_numpyLines hparams (List.forall_mem_map.2 fun q hq => plain_numpyField (hresults q hq))
    have hflush := flush_numpyLines hplain (List.forall_mem_map.2 fun q _ => by simp [numpyField])
    have hresults_ne : results ≠ [] := List.ne_nil_of_length_pos (Nat.lt_of_lt_of_le Nat.zero_lt_two hlength)
    have hreports := reports_numpyLines hne hparams (fun k => flat_numpyFields k hresults_ne hresults rfl)
      (fun k => gives_numpyFields k hresults true) fun q hq => (hresults q hq).2.ne_nil
    have hdoc := documents_of_reports hplain hflush hreports (guess_numpyLines hflush d) hdistinct
      (by simpa using hresults_ne) fun _ => hnamed
    rwa [resultType_of_two_le (by simpa using hlength)] at hdoc

/-- A docstring of each kind, indented by four spaces. -/
theorem rendered_signature_documented_search :
    let params := [("query".toList, "List[str]".toList), ("limit".toList, "int".toList)]
    let results := [("found".toList, "bool".toList), ("rank".toList, "float or None".toList)]
    (params ≠ [] ∧ (params.map Prod.fst).Nodup ∧ ∀ q ∈ params, IsName q.1 ∧ IsType q.2) ∧
      IsType "Dict[str, int]".toList ∧ (2 ≤ results.length ∧ ∀ q ∈ results, IsName q.1 ∧ IsType q.2) ∧
      indented 4 (numpyLines params ["Dict[str, int]".toList]) =
        ("\n    Parameters\n    ----------\n    query : List[str]\n    limit : int\n    \n" ++
          "    Returns\n    -------\n    Dict[str, int]").toList ∧
      Documents {} .numpy (indented 4 (numpyLines params ["Dict[str, int]".toList])) params "Dict[str, int]".toList ∧
      indented 4 (googleLines params "Dict[str, int]".toList) =
        ("\n    Args:\n        query (List[str])\n        limit (int)\n    \n" ++
          "    Returns:\n        Dict[str, int]:").toList ∧
      Documents {} .google (indented 4 (googleLines params "Dict[str, int]".toList)) params "Dict[str, int]".toList ∧
      Documents {} .numpy (indented 4 (numpyLines params (results.map numpyField))) params
        "Tuple[bool, float or None]".toList := by
  intro params results
  have hparams : params ≠ [] ∧ (params.map Prod.fst).Nodup ∧ ∀ q ∈ params, IsName q.1 ∧ IsType q.2 := by decide
  have hr : IsType "Dict[str, int]".toList := by decide
  have hresults : 2 ≤ results.length ∧ ∀ q ∈ results, IsName q.1 ∧ IsType q.2 := by decide
  obtain ⟨hone, hmany⟩ := rendered_signature_documented params hparams.1 hparams.2.1 hparams.2.2 4 {}
  exact ⟨hparams, hr, hresults, by decide +kernel, (hone _ hr).1, by decide +kernel, (hone _ hr).2,
    hmany results hresults.1 hresults.2 rfl⟩

end Docstring
end TypeComments
