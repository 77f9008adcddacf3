import TypeComments.Proofs.FieldLines
import TypeComments.Proofs.FlatSections

/-!
# The sections of a documented signature

A signature is written in either format: a section of parameters, a blank line and a section of results
(`numpyLines`, `googleLines`). Read in its style, each reports the parameters in order and the result types
(`reports_numpyLines`, `reports_googleLines`).
-/

namespace TypeComments.Docstring
variable {style : Style} {directives : List (List Char)} {lines : List (List Char)} {l : Line} {s t : List Char}
  {params : List (List Char × List Char)}

def numpyLines (params : List (List Char × List Char)) (results : List (List Char)) : List (List Char) :=
  ("Parameters".toList :: "----------".toList :: (params.map numpyField ++ [[]])) ++
    "Returns".toList :: "-------".toList :: results

def googleLines (params : List (List Char × List Char)) (result : List Char) : List (List Char) :=
  ("Args:".toList :: (params.map googleField ++ [[]])) ++ ["Returns:".toList, googleResult result]

/-! ### Numbered lines -/

theorem map_numberedFrom {α β : Type} {g : α → List Char} {f : Line → β} {f' : α → β} {as : List α} (k : Nat)
    (h : ∀ a ∈ as, ∀ l : Line, l.text = trimRight (g a) → f l = f' a) :
    (numberedFrom k (as.map g)).map f = as.map f' := by
  induction as generalizing k with
  | nil => rfl
  | cons a as ih =>
    rw [List.map_cons, numberedFrom, List.map_cons, List.map_cons, h a (.head _) _ rfl,
      ih (k + 1) fun b hb => h b (.tail _ hb)]

/-! ### The fields of a section -/

/-- The fields give these names and types. -/
def Gives (ps : List Param) (qs : List (List Char × List Char)) : Prop :=
  ps.map (fun p => (p.name, p.entry.type)) = qs.map fun q => (some q.1, some q.2)

namespace Gives
variable {ps : List Param} {qs : List (List Char × List Char)} (h : Gives ps qs)
include h

theorem names : ps.map (·.name) = (qs.map Prod.fst).map some := by
  simpa [Gives, Function.comp_def] using congrArg (List.map Prod.fst) h

theorem types : (ps.map (·.entry)).map (·.type) = (qs.map Prod.snd).map some := by
  simpa [Gives, Function.comp_def] using congrArg (List.map Prod.snd) h

theorem filter_eq (hne : ∀ q ∈ qs, q.2 ≠ []) : ps.filter Read.isMeaningful = ps := by
  rw [List.filter_eq_self]
  intro p hp
  have hmem : (p.name, p.entry.type) ∈ qs.map fun q => (some q.1, some q.2) := h ▸ List.mem_map_of_mem hp
  obtain ⟨q, hq, heq⟩ := List.mem_map.1 hmem
  rw [Prod.mk.injEq] at heq
  simp [Read.isMeaningful, ← heq.2, hne q hq]

end Gives

/-! ### Lines of either format -/

section
variable {q : List Char × List Char} {r : List Char}

theorem trimRight_numpyField (hq : IsType q.2) : trimRight (numpyField q) = numpyField q := by
  refine Tight.trimRight_eq fun c hc => hq.last c ?_
  rwa [numpyField, List.getLast?_append_of_ne_nil _ hq.ne_nil] at hc

theorem trimRight_googleField (q : List Char × List Char) : trimRight (googleField q) = googleField q := by
  have hlast := trimRight_concat (c := ')') (by decide) ("    ".toList ++ (q.1 ++ " (".toList ++ q.2))
  rwa [List.append_assoc] at hlast

theorem trimRight_googleResult (r : List Char) : trimRight (googleResult r) = googleResult r := by
  have hlast := trimRight_concat (c := ':') (by decide) ("    ".toList ++ r)
  rwa [List.append_assoc] at hlast

theorem atIndent_numpyField (hn : IsName q.1) (hl : l.text = numpyField q) : l.AtIndent 0 := by
  obtain ⟨n, t⟩ := q
  obtain ⟨c, u, rfl⟩ := List.exists_cons_of_ne_nil hn.ne_nil
  exact ⟨c, u ++ " : ".toList ++ t, hl, hn.notBlank c (.head _)⟩

theorem atIndent_googleField (hn : IsName q.1) (hl : l.text = googleField q) : l.AtIndent 4 := by
  obtain ⟨n, t⟩ := q
  obtain ⟨c, u, rfl⟩ := List.exists_cons_of_ne_nil hn.ne_nil
  exact ⟨c, u ++ " (".toList ++ t ++ ")".toList, hl, hn.notBlank c (.head _)⟩

theorem atIndent_type (hr : IsType r) (hl : l.text = r) : l.AtIndent 0 := by
  obtain ⟨c, u, rfl⟩ := List.exists_cons_of_ne_nil hr.ne_nil
  exact ⟨c, u, hl, hr.first c rfl⟩

theorem atIndent_googleResult (hr : IsType r) (hl : l.text = googleResult r) : l.AtIndent 4 := by
  obtain ⟨c, u, rfl⟩ := List.exists_cons_of_ne_nil hr.ne_nil
  exact ⟨c, u ++ ":".toList, hl, hr.first c rfl⟩

theorem not_heading_numpyField {rest : List Line} (hn : IsName q.1) (hl : l.text = numpyField q) :
    headingAt .numpy directives (l :: rest) = false := by
  refine not_heading_of_colon ?_ ?_
  · rw [hl, numpyField]
    simp
  · obtain ⟨n, t⟩ := q
    have hpoint := hn.head_ne (d := '.') (by decide)
    obtain ⟨c, u, rfl⟩ := List.exists_cons_of_ne_nil hn.ne_nil
    rw [hl]
    exact hpoint

end

/-! ### The sections of a signature -/

section
variable {B : List Line} {r : List Char} (k : Nat)

/-- Lines that are all indented alike and are no headings make a flat section. -/
theorem flat_numberedFrom {α : Type} {g : α → List Char} {as : List α} {indent : Nat} (hne : as ≠ [])
    (hlines : ∀ a ∈ as, ∀ l : Line, l.text = trimRight (g a) → l.AtIndent indent ∧
      ∀ rest, headingAt style style.directives (l :: rest) = false)
    (hB : dropAhead (Scope.below ⟨style, style.directives, true, indent⟩ (indent + 1)) B = []) :
    Scope.Flat ⟨style, style.directives, true, indent⟩ indent (numberedFrom k (as.map g)) B := by
  have hnumbered : ∀ l ∈ numberedFrom k (as.map g), l.AtIndent indent ∧
      ∀ rest, headingAt style style.directives (l :: rest) = false := by
    intro l hl
    obtain ⟨text, htext, hl⟩ := exists_of_mem_numberedFrom hl
    obtain ⟨a, ha, rfl⟩ := List.mem_map.1 htext
    exact hlines a ha l hl
  refine ⟨?_, fun l hl => (hnumbered l hl).1, fun l hl rest _ => ?_, hB⟩
  · exact List.ne_nil_of_length_pos (by simpa [length_numberedFrom] using List.length_pos_of_ne_nil hne)
  · exact (hnumbered l hl).1.not_ends (Int.le_refl _) ((hnumbered l hl).2 rest)

theorem flat_numpyFields (hne : params ≠ []) (hparams : ∀ q ∈ params, IsName q.1 ∧ IsType q.2)
    (hB : dropAhead (Scope.below ⟨.numpy, Style.numpy.directives, true, (0 : Nat)⟩ ((0 : Nat) + 1)) B = []) :
    Scope.Flat ⟨.numpy, Style.numpy.directives, true, (0 : Nat)⟩ 0 (numberedFrom k (params.map numpyField)) B := by
  refine flat_numberedFrom k hne (fun q hq l hl => ?_) hB
  rw [trimRight_numpyField (hparams q hq).2] at hl
  exact ⟨atIndent_numpyField (hparams q hq).1 hl, fun rest => not_heading_numpyField (hparams q hq).1 hl⟩

theorem flat_googleFields (hne : params ≠ []) (hparams : ∀ q ∈ params, IsName q.1 ∧ IsType q.2)
    (hB : dropAhead (Scope.below ⟨.google, Style.google.directives, true, (4 : Nat)⟩ ((4 : Nat) + 1)) B = []) :
    Scope.Flat ⟨.google, Style.google.directives, true, (4 : Nat)⟩ 4 (numberedFrom k (params.map googleField)) B := by
  refine flat_numberedFrom k hne (fun q hq l hl => ?_) hB
  rw [trimRight_googleField] at hl
  have hindent := atIndent_googleField (hparams q hq).1 hl
  exact ⟨hindent, fun rest => hindent.not_heading (by decide)⟩

theorem flat_numpyResult (hr : IsType r) :
    Scope.Flat ⟨.numpy, Style.numpy.directives, true, (0 : Nat)⟩ 0 (numberedFrom k [r]) [] := by
  have htext : (Line.ofIndexed (k, r)).text = r := Tight.trimRight_eq hr.last
  have hindent := atIndent_type hr htext
  refine ⟨List.cons_ne_nil _ _, fun l hl => ?_, fun l hl rest hrest => ?_, rfl⟩
  · rwa [List.mem_singleton.1 hl]
  · obtain rfl := List.mem_singleton.1 hl
    have hlength := hrest.length_le
    obtain rfl : rest = [] := by simpa [numberedFrom] using hlength
    refine hindent.not_ends (Int.le_refl _) (not_heading_of_last ?_)
    rw [htext]
    exact hr.not_mem (by decide)

theorem gives_numpyFields (hparams : ∀ q ∈ params, IsName q.1 ∧ IsType q.2) (preferType : Bool) :
    Gives ((numberedFrom k (params.map numpyField)).map (Read.fieldOf .numpy true preferType)) params := by
  rw [Gives, List.map_map]
  refine map_numberedFrom k fun q hq l hl => ?_
  obtain ⟨hname, htype⟩ := hparams q hq
  have hflush : l.text = [] ++ numpyField (q.1, q.2) := hl.trans (trimRight_numpyField htype)
  rw [Function.comp_apply, fieldOf_numpy (by simp) hname htype.toTight htype.ne_nil hflush]

theorem gives_googleFields (hparams : ∀ q ∈ params, IsName q.1 ∧ IsType q.2) :
    Gives ((numberedFrom k (params.map googleField)).map (Read.fieldOf .google true false)) params := by
  rw [Gives, List.map_map]
  refine map_numberedFrom k fun q hq l hl => ?_
  rw [trimRight_googleField] at hl
  rw [Function.comp_apply, fieldOf_google (hparams q hq).1 (fun t ht => Option.some.inj ht ▸ (hparams q hq).2.enclosed)
    (hl ▸ before_googleField (hparams q hq).1 (hparams q hq).2)]

theorem gives_numpyResult (hr : IsType r) :
    Gives ((numberedFrom k [r]).map (Read.fieldOf .numpy true true)) [([], r)] := by
  have htext : (Line.ofIndexed (k, r)).text = r := Tight.trimRight_eq hr.last
  rw [Gives, numberedFrom, List.map_cons, fieldOf_numpy_type hr htext]
  rfl

end

theorem report_numpyParams (hne : params ≠ []) (hparams : ∀ q ∈ params, IsName q.1 ∧ IsType q.2) (k : Nat) :
    Style.numpy.report (numberedFrom k ("Parameters".toList :: "----------".toList :: (params.map numpyField ++ [[]]))) =
      ⟨some ((numberedFrom (k + 1 + 1) (params.map numpyField)).map (Read.fieldOf .numpy true false)), none, none⟩ := by
  have hkind : sectionKind? (lower (trimRight "Parameters".toList)) = some .params := by decide +kernel
  have hunder : isUnderline (trimRight "----------".toList) = true := by decide +kernel
  have hflat := flat_numpyFields (k + 1 + 1) hne hparams
    (Scope.dropAhead_blank (b := Line.ofIndexed (k + 1 + 1 + params.length, [])) rfl _)
  have hreport := report_numpy_params (H := Line.ofIndexed (k, "Parameters".toList))
    (U := Line.ofIndexed (k + 1, "----------".toList)) hkind hunder hflat
  rw [(gives_numpyFields _ hparams false).filter_eq fun q hq => (hparams q hq).2.ne_nil] at hreport
  rw [numberedFrom, numberedFrom, numberedFrom_append, List.length_map]
  exact hreport

theorem report_googleParams (hne : params ≠ []) (hparams : ∀ q ∈ params, IsName q.1 ∧ IsType q.2) (k : Nat) :
    Style.google.report (numberedFrom k ("Args:".toList :: (params.map googleField ++ [[]]))) =
      ⟨some ((numberedFrom (k + 1) (params.map googleField)).map (Read.fieldOf .google true false)), none, none⟩ := by
  have hcolon : isColonHeading (lower (trimRight "Args:".toList)) = true := by decide +kernel
  have hkind : sectionKind? (lower (trimBy (· == ':') (trimRight "Args:".toList))) = some .params := by decide +kernel
  have hindent : indentOf (trimRight "Args:".toList) < 4 := by decide +kernel
  have hflat := flat_googleFields (k + 1) hne hparams
    (Scope.dropAhead_blank (b := Line.ofIndexed (k + 1 + params.length, [])) rfl _)
  have hreport := report_google_params (H := Line.ofIndexed (k, "Args:".toList)) hcolon hkind hindent hflat
  rw [(gives_googleFields _ hparams).filter_eq fun q hq => (hparams q hq).2.ne_nil] at hreport
  rw [numberedFrom, numberedFrom_append, List.length_map]
  exact hreport

/-- Read in this style, the lines report these parameters and results of these types. -/
def Style.Reports (style : Style) (lines : List (List Char)) (params : List (List Char × List Char))
    (types : List (List Char)) : Prop :=
  ∃ ps es, style.report (numberedFrom 0 lines) = ⟨some ps, some es, none⟩ ∧ Gives ps params ∧
    es.map (·.type) = types.map some

theorem reports_numpyLines {results : List (List Char)} {qs : List (List Char × List Char)} (hne : params ≠ [])
    (hparams : ∀ q ∈ params, IsName q.1 ∧ IsType q.2)
    (hflat : ∀ k, Scope.Flat ⟨.numpy, Style.numpy.directives, true, (0 : Nat)⟩ 0 (numberedFrom k results) [])
    (hgives : ∀ k, Gives ((numberedFrom k results).map (Read.fieldOf .numpy true true)) qs)
    (hqs : ∀ q ∈ qs, q.2 ≠ []) : Style.numpy.Reports (numpyLines params results) params (qs.map Prod.snd) := by
  have hkind : sectionKind? (lower (trimRight "Returns".toList)) = some .returns := by decide +kernel
  have hunder : isUnderline (trimRight "-------".toList) = true := by decide +kernel
  have hreturns (k : Nat) : Style.numpy.report (numberedFrom k ("Returns".toList :: "-------".toList :: results)) =
      ⟨none, some (((numberedFrom (k + 1 + 1) results).map (Read.fieldOf .numpy true true)).map (·.entry)), none⟩ := by
    have hreport := report_numpy_returns (H := Line.ofIndexed (k, "Returns".toList))
      (U := Line.ofIndexed (k + 1, "-------".toList)) hkind hunder (hflat (k + 1 + 1))
    rwa [(hgives _).filter_eq hqs, List.append_nil] at hreport
  have hheading (k : Nat) : headingAt .numpy Style.numpy.directives
      (numberedFrom k ("Returns".toList :: "-------".toList :: results)) = true :=
    heading_numpy (H := Line.ofIndexed (k, "Returns".toList)) (U := Line.ofIndexed (k + 1, "-------".toList)) hkind hunder
  rw [Style.Reports, numpyLines, numberedFrom_append, Style.report_append (hheading _), hreturns,
    report_numpyParams hne hparams]
  exact ⟨_, _, rfl, gives_numpyFields _ hparams false, (hgives _).types⟩

theorem reports_googleLines {r : List Char} (hne : params ≠ []) (hparams : ∀ q ∈ params, IsName q.1 ∧ IsType q.2)
    (hr : IsType r) : Style.google.Reports (googleLines params r) params [r] := by
  have hcolon : isColonHeading (lower (trimRight "Returns:".toList)) = true := by decide +kernel
  have hkind : sectionKind? (lower (trimBy (· == ':') (trimRight "Returns:".toList))) = some .returns := by
    decide +kernel
  have hindent : indentOf (trimRight "Returns:".toList) < 4 := by decide +kernel
  have htext (k : Nat) : (Line.ofIndexed (k, googleResult r)).text = googleResult r := trimRight_googleResult r
  have hline (k : Nat) := atIndent_googleResult hr (htext k)
  have hreturns (k : Nat) : Style.google.report (numberedFrom k ["Returns:".toList, googleResult r]) =
      ⟨none, some [⟨some r, some (Line.ofIndexed (k + 1, googleResult r)).number⟩], none⟩ := by
    have hreport := report_google_returns (H := Line.ofIndexed (k, "Returns:".toList)) hcolon hkind hindent
      (hline (k + 1))
    rwa [resultOf_google hr (htext _)] at hreport
  have hheading (k : Nat) : headingAt .google Style.google.directives
      (numberedFrom k ["Returns:".toList, googleResult r]) = true :=
    heading_google (H := Line.ofIndexed (k, "Returns:".toList)) hcolon hkind
      (indentAhead_cons (hline (k + 1)) [] ▸ hindent)
  rw [Style.Reports, googleLines, numberedFrom_append, Style.report_append (hheading _), hreturns,
    report_googleParams hne hparams]
  exact ⟨_, _, rfl, gives_googleFields _ hparams, rfl⟩

end TypeComments.Docstring
