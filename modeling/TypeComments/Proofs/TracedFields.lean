import TypeComments.Proofs.DocumentedTypes
import TypeComments.Proofs.FieldLines
import TypeComments.Proofs.LineShape

/-!
# Entries stand on lines

Every list of a report is read off some of the lines, in their order and one entry from each (`ReadOff`). For the fields
of a section these are the lines on which fields start. A google result is read off the first line of its section after
the indentation of the whole section is cut off; that line is not blank, so only blanks are cut off it, and these make
no difference to where a field line is cut (`partitionField_drop`). Numbered lines have increasing numbers that say
where they stand (`numberedFrom_sorted`, `getElem?_of_mem_numberedFrom`), so entries do.
-/

namespace TypeComments.Docstring
variable {style : Style} {ls ls' : List Line} {l : Line} {s pad : List Char} {k : Nat}

/-! ### Leading blanks of a field line -/

theorem colonIndex?_pad (hpad : ∀ c ∈ pad, isBlank c = true) (s : List Char) :
    colonIndex? 0 (pad ++ s) = (colonIndex? 0 s).map (· + pad.length) := by
  induction pad with
  | nil => simp
  | cons c pad ih =>
    have hc : isBlank c = true := hpad c (.head _)
    have hcolon : c ≠ ':' := by
      rintro rfl
      exact absurd hc (by decide)
    have hquote : c ≠ '\x60' := by
      rintro rfl
      exact absurd hc (by decide)
    rw [List.cons_append, colonIndex?, referenceLength_of_ne hcolon hquote, ih fun d hd => hpad d (.tail _ hd)]
    simp [hcolon, Nat.add_assoc, Function.comp_def]

theorem partitionField_pad (hpad : ∀ c ∈ pad, isBlank c = true) (s : List Char) :
    partitionField (pad ++ s) = partitionField s := by
  have hindex := colonIndex?_pad hpad s
  cases hs : colonIndex? 0 s with
  | none =>
    rw [hs, Option.map_none] at hindex
    rw [partitionField_of_none hs, partitionField_of_none hindex, trim_append_of_blank hpad]
  | some i =>
    rw [hs, Option.map_some] at hindex
    have htake : (pad ++ s).take (i + pad.length) = pad ++ s.take i := by
      rw [Nat.add_comm, List.take_length_add_append]
    have hdrop : (pad ++ s).drop (i + pad.length + 1) = s.drop (i + 1) := by
      rw [show i + pad.length + 1 = pad.length + (i + 1) by omega, List.drop_length_add_append]
    rw [partitionField_of_some hs, partitionField_of_some hindex, htake, hdrop, trim_append_of_blank hpad]

theorem partitionField_drop (h : k ≤ indentOf s) : partitionField (s.drop k) = partitionField s := by
  have hpad : ∀ c ∈ s.take k, isBlank c = true := by
    intro c hc
    have hfront : s.take k <+: s.takeWhile isBlank :=
      List.prefix_of_prefix_length_le (List.take_prefix k s) (List.takeWhile_prefix _) ((List.length_take_le k s).trans h)
    exact List.mem_takeWhile_imp (hfront.subset hc)
  conv_rhs => rw [← List.take_append_drop k s, partitionField_pad hpad]

theorem minIndent_le {texts : List (List Char)} (hs : s ∈ texts) (hne : s ≠ []) : minIndent texts ≤ indentOf s := by
  have hmem : indentOf s ∈ (texts.filter fun t => !t.isEmpty).map indentOf :=
    List.mem_map.2 ⟨s, List.mem_filter.2 ⟨hs, by simpa using hne⟩, rfl⟩
  obtain ⟨m, hm⟩ := Option.isSome_iff_exists.1 (List.isSome_min?_of_mem hmem)
  rw [minIndent, hm]
  exact (List.min?_eq_some_iff.1 hm).2 _ hmem

/-! ### What one line documents -/

/-- The type that a line of a section of results documents. -/
def Style.resultType? (style : Style) (line : List Char) : Option (List Char) :=
  let parts := partitionField line
  match style with
  | .google =>
    if parts.colon then some (((typedArgument parts.before).map Prod.snd).getD parts.before) else none
  | .numpy => some (if parts.after.isEmpty then escapeStars parts.before else parts.after)

/-- The entry that a line of a section of results makes. -/
def Style.resultAt (style : Style) (l : Line) : Entry :=
  ⟨style.resultType? l.text, some l.number⟩

theorem fieldOf_entry (l : Line) : (Read.fieldOf .numpy true true l).entry = Style.numpy.resultAt l := by
  simp only [Read.fieldOf, Read.fieldParts, Style.resultAt, Style.resultType?, Bool.true_and, Option.getD_some]
  split_ifs <;> rfl

/-- A line that says anything gives a type. -/
theorem resultAt_typed (h : Read.isMeaningful (Read.fieldOf .numpy true true l) = true) :
    (Style.numpy.resultAt l).type.getD [] ≠ [] := by
  rw [← fieldOf_entry]
  simp only [Read.fieldOf, Read.fieldParts, Read.isMeaningful, Bool.true_and, Option.getD_some] at h ⊢
  split_ifs at h ⊢ with hafter <;> simp_all

/-! ### Lists read off the lines -/

/-- The list is read off some of the lines, in their order, one element from each. -/
def ReadOff {α : Type} (read : Line → α) (ls : List Line) (as : List α) : Prop :=
  ∃ heads : List Line, heads.Sublist ls ∧ as = heads.map read

theorem ReadOff.mono {α : Type} {read : Line → α} {as : List α} (h : ReadOff read ls as) (hls : ls.Sublist ls') :
    ReadOff read ls' as := by
  obtain ⟨heads, hsub, has⟩ := h
  exact ⟨heads, hsub.trans hls, has⟩

structure ResultsReadOff (style : Style) (ls : List Line) (es : List Entry) : Prop where
  readOff : ReadOff style.resultAt ls es
  typed : ∀ e ∈ es, e.type.getD [] ≠ []
  single : style = .google → es.length ≤ 1

theorem ResultsReadOff.mono {es : List Entry} (h : ResultsReadOff style ls es) (hls : ls.Sublist ls') :
    ResultsReadOff style ls' es :=
  ⟨h.readOff.mono hls, h.typed, h.single⟩

def Finding.IsReadOff (style : Style) (ls : List Line) : Finding → Prop
  | .params ps => ReadOff (Read.fieldOf style true false) ls ps
  | .returns es | .yields es => ResultsReadOff style ls es
  | .nothing => True

theorem Finding.IsReadOff.mono {f : Finding} (h : f.IsReadOff style ls) (hls : ls.Sublist ls') :
    f.IsReadOff style ls' := by
  cases f with
  | params ps => exact ReadOff.mono h hls
  | returns es | yields es => exact ResultsReadOff.mono h hls
  | nothing => trivial

structure Report.IsReadOff (style : Style) (ls : List Line) (r : Report) : Prop where
  params : ∀ ps ∈ r.params, ReadOff (Read.fieldOf style true false) ls ps
  returns : ∀ es ∈ r.returns, ResultsReadOff style ls es
  yields : ∀ es ∈ r.yields, ResultsReadOff style ls es

/-! ### Sections -/

namespace Scope
variable (sc : Scope)

theorem fields_sublist (ls : List Line) : (sc.fields ls).1.Sublist ls := by
  fun_induction Scope.fields sc ls with
  | case1 => exact List.nil_sublist _
  | case2 l rest h => exact List.nil_sublist _
  | case3 l rest h more ih => exact (ih.trans (dropAhead_suffix _ rest).sublist).cons_cons l

/-- A body is a part of the lines from their first filled one on. -/
theorem body_prefix (ls : List Line) : (sc.body ls).1 <+: ls.dropWhile Line.isEmpty := by
  refine ⟨(sc.body ls).2, ?_⟩
  rw [body, List.append_assoc, List.takeWhile_append_dropWhile, takeAhead_append_dropAhead]

theorem params_eq (preferType : Bool) (ls : List Line) : ∃ heads : List Line, heads.Sublist ls ∧
    (sc.params preferType ls).1 = heads.map (Read.fieldOf sc.style true preferType) ∧
    ∀ l ∈ heads, Read.isMeaningful (Read.fieldOf sc.style true preferType l) = true := by
  refine ⟨(sc.fields (ls.dropWhile Line.isEmpty)).1.filter
    (Read.isMeaningful ∘ Read.fieldOf sc.style true preferType), ?_, ?_, fun l hl => (List.mem_filter.1 hl).2⟩
  · exact List.filter_sublist.trans ((sc.fields_sublist _).trans (List.dropWhile_sublist _))
  · rw [params, List.filter_map]

theorem params_readOff (ls : List Line) : ReadOff (Read.fieldOf sc.style true false) ls (sc.params false ls).1 := by
  obtain ⟨heads, hsub, heq, -⟩ := sc.params_eq false ls
  exact ⟨heads, hsub, heq⟩

end Scope

theorem resultOf_eq (hl : l.isEmpty = false) (rest : List Line) :
    Read.resultOf (dedent false (l :: rest)) =
      if (Style.google.resultAt l).type.getD [] = [] then [] else [Style.google.resultAt l] := by
  have hne : l.text ≠ [] := by simpa [Line.isEmpty] using hl
  have hcut := partitionField_drop (minIndent_le (show l.text ∈ (l :: rest).map (·.text) by simp) hne)
  simp only [Read.resultOf, dedent, Bool.false_eq_true, if_false, List.map_cons, Style.resultAt, Style.resultType?]
  rw [List.map_cons] at hcut
  simp only [hcut]
  by_cases hcolon : (partitionField l.text).colon = true
  · obtain htyped | ⟨⟨name, type⟩, htyped⟩ := (typedArgument (partitionField l.text).before).eq_none_or_eq_some <;>
      simp [hcolon, htyped]
  · simp [hcolon]

theorem resultOf_readOff (hls : StartsFilled ls) : ResultsReadOff .google ls (Read.resultOf (dedent false ls)) := by
  cases ls with
  | nil => exact ⟨⟨[], .slnil, rfl⟩, by simp [Read.resultOf, dedent], by simp [Read.resultOf, dedent]⟩
  | cons l rest =>
    rw [resultOf_eq hls.head]
    split_ifs with htype
    · exact ⟨⟨[], List.nil_sublist _, rfl⟩, by simp, by simp⟩
    · exact ⟨⟨[l], List.singleton_sublist.2 (.head _), rfl⟩, by simpa using htype, by simp⟩

namespace Scope

theorem results_readOff (sc : Scope) (ls : List Line) : ResultsReadOff sc.style ls (sc.results ls).1 := by
  unfold results
  split
  · rename_i hstyle
    have hbody := sc.body_prefix ls
    have hfilled : StartsFilled (sc.body ls).1 := by
      have hstart := startsFilled_dropWhile ls
      obtain ⟨rest, hrest⟩ := hbody
      cases hb : (sc.body ls).1 with
      | nil => rfl
      | cons l more =>
        rw [← hrest, hb] at hstart
        exact hstart
    rw [hstyle]
    exact (resultOf_readOff hfilled).mono (hbody.sublist.trans (List.dropWhile_sublist _))
  · rename_i hstyle
    obtain ⟨heads, hsub, heq, hmeaning⟩ := sc.params_eq true ls
    rw [hstyle] at heq hmeaning ⊢
    have hentries : (sc.params true ls).1.map (·.entry) = heads.map Style.numpy.resultAt := by
      rw [heq, List.map_map]
      exact List.map_congr_left fun l _ => fieldOf_entry l
    refine ⟨⟨heads, hsub, hentries⟩, fun e he => ?_, by simp⟩
    rw [hentries] at he
    obtain ⟨l, hl, rfl⟩ := List.mem_map.1 he
    exact resultAt_typed (hmeaning l hl)

theorem found_readOff (sc : Scope) (heading : List Char) (ls : List Line) :
    (sc.found heading ls).1.IsReadOff sc.style ls := by
  unfold found
  split
  · trivial
  split
  exacts [sc.params_readOff ls, sc.results_readOff ls, sc.results_readOff ls, trivial, trivial]

end Scope

/-! ### The whole text -/

theorem findings_readOff (style : Style) (directives : List (List Char)) (ls : List Line) :
    ∀ f ∈ findings style directives ls, f.IsReadOff style ls := by
  fun_induction findings style directives ls with
  | case1 => exact List.forall_mem_nil _
  | case2 l rest ih =>
    rintro f (_ | ⟨_, hf⟩)
    · unfold turn
      split
      · exact (Scope.found_readOff _ _ _).mono ((style.cutHeading_suffix l rest).sublist.trans (List.sublist_cons_self l rest))
      · trivial
    · exact (ih f hf).mono ((turn_suffix style directives l rest).sublist.trans (List.sublist_cons_self l rest))

theorem Report.IsReadOff.addTo {r : Report} {f : Finding} (hr : r.IsReadOff style ls) (hf : f.IsReadOff style ls) :
    (f.addTo r).IsReadOff style ls := by
  cases f with
  | params ps => exact ⟨by rintro _ ⟨⟩; exact hf, hr.returns, hr.yields⟩
  | returns es => exact ⟨hr.params, by rintro _ ⟨⟩; exact hf, hr.yields⟩
  | yields es => exact ⟨hr.params, hr.returns, by rintro _ ⟨⟩; exact hf⟩
  | nothing => exact hr

theorem Style.report_readOff (style : Style) (ls : List Line) : (style.report ls).IsReadOff style ls := by
  have hfold (fs : List Finding) (hfs : ∀ f ∈ fs, f.IsReadOff style ls) (r : Report) (hr : r.IsReadOff style ls) :
      (fs.foldl Finding.addTo r).IsReadOff style ls := by
    induction fs generalizing r with
    | nil => exact hr
    | cons f fs ih => exact ih (fun g hg => hfs g (.tail _ hg)) _ (hr.addTo (hfs f (.head _)))
  refine hfold _ (fun f hf => ?_) _ ⟨by simp [Report.empty], by simp [Report.empty], by simp [Report.empty]⟩
  exact (findings_readOff style _ _ f hf).mono (List.dropWhile_sublist _)

/-! ### Line numbers -/

theorem getElem?_of_mem_numberedFrom {lines : List (List Char)} (h : l ∈ numberedFrom k lines) :
    k + 2 ≤ l.number ∧ ∃ text, lines[l.number - (k + 2)]? = some text ∧ l.text = trimRight text := by
  induction lines generalizing k with
  | nil => cases h
  | cons text lines ih =>
    rcases List.mem_cons.1 h with rfl | h
    · exact ⟨le_rfl, text, by simp [Line.ofIndexed], rfl⟩
    · obtain ⟨hle, u, hu, hl⟩ := ih h
      refine ⟨by omega, u, ?_, hl⟩
      rw [show l.number - (k + 2) = l.number - (k + 1 + 2) + 1 by omega, List.getElem?_cons_succ, hu]

theorem numberedFrom_sorted (k : Nat) (lines : List (List Char)) :
    (numberedFrom k lines).Pairwise (·.number < ·.number) := by
  induction lines generalizing k with
  | nil => exact .nil
  | cons text lines ih =>
    refine .cons (fun l hl => ?_) (ih (k + 1))
    have hle := (getElem?_of_mem_numberedFrom hl).1
    simp only [Line.ofIndexed]
    omega

/-- The entry says that it stands on the line `text`. Lines are numbered from two. -/
def Entry.StandsOn (e : Entry) (lines : List (List Char)) (text : List Char) : Prop :=
  ∃ n : Nat, e.line = some (n : Int) ∧ 2 ≤ n ∧ n ≤ lines.length + 1 ∧ lines[n - 2]? = some text

/-- The first entry stands on an earlier line than the second. -/
def Entry.Above (e e' : Entry) : Prop :=
  ∃ m n : Int, e.line = some m ∧ e'.line = some n ∧ m < n

theorem standsOn_of_mem {lines : List (List Char)} (h : l ∈ numberedFrom 0 lines) {e : Entry}
    (he : e.line = some (l.number : Int)) : ∃ text, e.StandsOn lines text ∧ l.text = trimRight text := by
  obtain ⟨hle, text, htext, hl⟩ := getElem?_of_mem_numberedFrom h
  rw [Nat.zero_add] at hle htext
  have hlt := (List.getElem?_eq_some_iff.1 htext).1
  exact ⟨text, ⟨l.number, he, hle, by omega, htext⟩, hl⟩

theorem ReadOff.above {lines : List (List Char)} {α : Type} {read : Line → α} {entry : α → Entry} {as : List α}
    (h : ReadOff read (numberedFrom 0 lines) as) (hline : ∀ l, (entry (read l)).line = some (l.number : Int)) :
    (as.map entry).Pairwise Entry.Above := by
  obtain ⟨heads, hsub, rfl⟩ := h
  rw [List.map_map]
  refine List.pairwise_map.2 (((numberedFrom_sorted 0 lines).sublist hsub).imp fun {l l'} hlt => ?_)
  exact ⟨l.number, l'.number, hline l, hline l', by omega⟩

theorem Entry.StandsOn.unique {e : Entry} {lines : List (List Char)} {text text' : List Char} (h : e.StandsOn lines text)
    (h' : e.StandsOn lines text') : text = text' := by
  obtain ⟨n, hn, -, -, htext⟩ := h
  obtain ⟨m, hm, -, -, htext'⟩ := h'
  have hmn : (m : Int) = n := Option.some.inj (hm.symm.trans hn)
  rw [Int.ofNat_inj.1 hmn, htext] at htext'
  exact Option.some.inj htext'

section
variable {lines : List (List Char)} {report : Report} (h : style.parse lines = .ok report)
include h

theorem report_readOff_of_parse : report.IsReadOff style (numberedFrom 0 lines) := by
  rw [Style.parse_eq] at h
  obtain rfl := Except.ok.inj h
  exact style.report_readOff _

/-- A parameter is what the style makes of the line that it names. -/
theorem param_stands_on_line {ps : List Param} {p : Param} (hps : report.params = some ps) (hp : p ∈ ps) :
    ∃ text, p.entry.StandsOn lines text ∧ p.name = some (Read.fieldParts style true (trimRight text)).1 ∧
      p.entry.type = (Read.fieldParts style true (trimRight text)).2 := by
  obtain ⟨heads, hsub, rfl⟩ := (report_readOff_of_parse h).params ps hps
  obtain ⟨l, hl, rfl⟩ := List.mem_map.1 hp
  have hline : (Read.fieldOf style true false l).entry.line = some (l.number : Int) := by simp [Read.fieldOf]
  obtain ⟨text, hstands, htext⟩ := standsOn_of_mem (hsub.subset hl) hline
  exact ⟨text, hstands, by simp [← htext, Read.fieldOf], by simp [← htext, Read.fieldOf]⟩

theorem results_readOff_of_parse {es : List Entry} (hes : report.returns = some es ∨ report.yields = some es) :
    ResultsReadOff style (numberedFrom 0 lines) es :=
  hes.elim ((report_readOff_of_parse h).returns es) ((report_readOff_of_parse h).yields es)

/-- A result is what the style makes of the line that it names. -/
theorem result_stands_on_line {es : List Entry} {e : Entry} (hes : report.returns = some es ∨ report.yields = some es)
    (he : e ∈ es) : ∃ text, e.StandsOn lines text ∧ e.type = style.resultType? (trimRight text) := by
  obtain ⟨heads, hsub, rfl⟩ := (results_readOff_of_parse h hes).readOff
  obtain ⟨l, hl, rfl⟩ := List.mem_map.1 he
  have hline : (style.resultAt l).line = some (l.number : Int) := rfl
  obtain ⟨text, hstands, htext⟩ := standsOn_of_mem (hsub.subset hl) hline
  exact ⟨text, hstands, by rw [← htext]; rfl⟩

end

/-- What is reported of a docstring stands on its lines, in their order, and each entry says which line it stands on and
is what the style makes of that line alone. Results have types; a google section has at most one. No type goes over a
line boundary. -/
theorem entries_stand_on_lines (style : Style) (lines : List (List Char)) :
    ∃ report, style.parse lines = .ok report ∧
      (∀ ps, report.params = some ps → (ps.map (·.entry)).Pairwise Entry.Above ∧
        ∀ p ∈ ps, ∃ text, p.entry.StandsOn lines text ∧
          p.name = some (Read.fieldParts style true (trimRight text)).1 ∧
          p.entry.type = (Read.fieldParts style true (trimRight text)).2) ∧
      (∀ es, report.returns = some es ∨ report.yields = some es → es.Pairwise Entry.Above ∧
        (style = .google → es.length ≤ 1) ∧
        ∀ e ∈ es, ∃ text, e.StandsOn lines text ∧ e.type = style.resultType? (trimRight text) ∧ e.type.getD [] ≠ []) ∧
      ∀ doc, lines = splitLines doc → report.Clear isLineBreak := by
  have hparse := style.parse_eq lines
  refine ⟨_, hparse, fun ps hps => ⟨?_, fun p hp => param_stands_on_line hparse hps hp⟩, fun es hes => ?_, ?_⟩
  · exact ((report_readOff_of_parse hparse).params ps hps).above fun l => by simp [Read.fieldOf]
  · have hread := results_readOff_of_parse hparse hes
    have habove : (es.map id).Pairwise Entry.Above := hread.readOff.above fun l => rfl
    rw [List.map_id] at habove
    refine ⟨habove, hread.single, fun e he => ?_⟩
    obtain ⟨text, hstands, htype⟩ := result_stands_on_line hparse hes he
    exact ⟨text, hstands, htype, hread.typed e he⟩
  · rintro doc rfl
    exact Style.parse_clear (fun _ h => h) hparse

end TypeComments.Docstring
