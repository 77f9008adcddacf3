import TypeComments.Proofs.FlatSections
import TypeComments.Proofs.LineShape

/-!
# Headings are found wherever they stand

A report has a part of some kind exactly if a heading of that kind opens a suffix of the lines (`Style.report_has_iff`).
No heading is invented: each finding comes from a turn, and a turn that finds something stands at a heading. None is
missed: what stands in front of a heading is read as if the text ended there (`findings_append`), so some turn starts at
the heading itself, whichever loop was taking lines before.
-/

namespace TypeComments.Docstring
variable {style : Style} {directives : List (List Char)} {kind : SectionKind} {l : Line} {ls rest : List Line}

/-! ### Kinds of findings -/

def Finding.sectionKind : Finding → SectionKind
  | .params _ => .params
  | .returns _ => .returns
  | .yields _ => .yields
  | .nothing => .skipped

/-- The report has the part that sections of this kind document. -/
def Report.Has (r : Report) : SectionKind → Prop
  | .params => r.params.isSome = true
  | .returns => r.returns.isSome = true
  | .yields => r.yields.isSome = true
  | .skipped => False

theorem has_addTo (hk : kind ≠ .skipped) (r : Report) (f : Finding) :
    (f.addTo r).Has kind ↔ f.sectionKind = kind ∨ r.Has kind := by
  cases kind with
  | skipped => exact absurd rfl hk
  | params | returns | yields => cases f <;> simp [Finding.addTo, Finding.sectionKind, Report.Has]

theorem has_foldl_addTo (hk : kind ≠ .skipped) (fs : List Finding) (r : Report) :
    (fs.foldl Finding.addTo r).Has kind ↔ (∃ f ∈ fs, f.sectionKind = kind) ∨ r.Has kind := by
  induction fs generalizing r with
  | nil => simp
  | cons f fs ih =>
    rw [List.foldl_cons, ih, has_addTo hk, List.exists_mem_cons_iff, ← or_assoc, or_comm (a := ∃ _, _)]

theorem not_has_empty (kind : SectionKind) : ¬Report.empty.Has kind := by
  cases kind <;> simp [Report.empty, Report.Has]

theorem found_kind (hk : kind ≠ .skipped) (sc : Scope) (heading : List Char) (ls : List Line) :
    (sc.found heading ls).1.sectionKind = kind ↔ sectionKind? (lower heading) = some kind := by
  cases hd : opensDirective heading with
  | true =>
    have hnone : sectionKind? (lower heading) ≠ some kind := fun h => by
      rw [not_opensDirective h] at hd
      cases hd
    simp [Scope.found, hd, Finding.sectionKind, hnone, hk.symm]
  | false =>
    rw [Scope.found, hd]
    cases hs : sectionKind? (lower heading) with
    | none => simpa [Finding.sectionKind] using hk.symm
    | some k => cases k <;> simp [Finding.sectionKind]

/-! ### Headings of a kind -/

/-- The lines open with a heading of this kind. -/
def Style.Opens (style : Style) (directives : List (List Char)) (kind : SectionKind) (l : Line) (rest : List Line) :
    Prop :=
  headingAt style directives (l :: rest) = true ∧ sectionKind? (lower (style.cutHeading l rest).1) = some kind

theorem turn_kind (hk : kind ≠ .skipped) :
    (turn style directives l rest).1.sectionKind = kind ↔ style.Opens directives kind l rest := by
  rw [turn, Style.Opens]
  split
  · rename_i hh
    simp [hh, found_kind hk]
  · rename_i hh
    simp [hh, Finding.sectionKind, hk.symm]

theorem exists_opens_of_finding (hk : kind ≠ .skipped) (h : ∃ f ∈ findings style directives ls, f.sectionKind = kind) :
    ∃ l rest, l :: rest <:+ ls ∧ style.Opens directives kind l rest := by
  fun_induction findings style directives ls with
  | case1 =>
    obtain ⟨f, hf, -⟩ := h
    cases hf
  | case2 l rest ih =>
    rcases (List.exists_mem_cons_iff _ _ _).1 h with hturn | hlater
    · exact ⟨l, rest, List.suffix_rfl, (turn_kind hk).1 hturn⟩
    · obtain ⟨l', rest', hsuffix, hopens⟩ := ih hlater
      exact ⟨l', rest', (hsuffix.trans (turn_suffix style directives l rest)).trans (List.suffix_cons l rest), hopens⟩

theorem exists_finding_of_opens (hk : kind ≠ .skipped) (hs : l :: rest <:+ ls)
    (h : style.Opens directives kind l rest) : ∃ f ∈ findings style directives ls, f.sectionKind = kind := by
  obtain ⟨front, rfl⟩ := hs
  rw [findings_append h.1, findings_cons]
  exact ⟨_, List.mem_append_right _ (.head _), (turn_kind hk).2 h⟩

/-- A report has a part exactly if a heading of its kind stands somewhere in the lines. -/
theorem Style.report_has_iff (hk : kind ≠ .skipped) (ls : List Line) :
    (style.report ls).Has kind ↔ ∃ l rest, l :: rest <:+ ls ∧ style.Opens style.directives kind l rest := by
  rw [Style.report, has_foldl_addTo hk, or_iff_left (not_has_empty kind)]
  constructor
  · intro h
    obtain ⟨l, rest, hs, hopens⟩ := exists_opens_of_finding hk h
    exact ⟨l, rest, hs.trans (List.dropWhile_suffix _), hopens⟩
  · rintro ⟨l, rest, ⟨front, rfl⟩, hopens⟩
    rw [dropWhile_isEmpty_append hopens.1]
    exact exists_finding_of_opens hk (List.suffix_append _ _) hopens

/-! ### Headings as they are written -/

def SectionKind.names : SectionKind → List (List Char)
  | .params => ["args".toList, "arguments".toList, "parameters".toList]
  | .returns => ["return".toList, "returns".toList]
  | .yields => ["yield".toList, "yields".toList]
  | .skipped => []

theorem sectionKind?_eq_some_iff (hk : kind ≠ .skipped) {name : List Char} :
    sectionKind? name = some kind ↔ name ∈ kind.names := by
  constructor
  · intro h
    obtain ⟨front, back, hnames, -⟩ := List.lookup_eq_some_iff.1 h
    have hmem : (name, kind) ∈ sectionNames := by simp [hnames]
    have htable : ∀ q ∈ sectionNames, q.2 ≠ .skipped → q.1 ∈ q.2.names := by decide +kernel
    exact htable _ hmem hk
  · have htable : ∀ kind ∈ [SectionKind.params, .returns, .yields], ∀ name ∈ kind.names,
        sectionKind? name = some kind := by decide +kernel
    refine htable kind ?_ name
    cases kind with
    | skipped => exact absurd rfl hk
    | params | returns | yields => simp

theorem opens_numpy : Style.numpy.Opens directives kind l rest ↔
    sectionKind? (lower l.text) = some kind ∧ ∃ u below, rest = u :: below ∧ isUnderline u.text = true := by
  constructor
  · rintro ⟨hh, hkind⟩
    rcases headingAt_numpy hh with ⟨-, u, below, hrest, hu⟩ | hd
    · exact ⟨hkind, u, below, hrest, hu⟩
    · have hkind' : sectionKind? (lower l.text) = some kind := hkind
      rw [not_opensDirective hkind'] at hd
      cases hd
  · rintro ⟨hkind, u, below, rfl, hu⟩
    exact ⟨heading_numpy hkind hu, hkind⟩

/-- Without its trailing blanks a line does not end in a blank in lower case either. -/
theorem not_blank_of_lower_trimRight {s t : List Char} {c : Char} (h : lower (trimRight s) = t ++ [c]) :
    isBlank c = false := by
  have hblank : s.all isBlank = false := by
    refine Bool.eq_false_iff.2 fun hs => ?_
    simp [trimRight_eq_nil.2 hs, lower, lowerFrom] at h
  obtain ⟨u, d, hd, hlast⟩ := exists_trimRight hblank
  obtain ⟨front, before, himage⟩ := lowerFrom_concat [] u d
  obtain ⟨init, e, he⟩ := (lowerImage before d []).eq_nil_or_concat.resolve_left (lowerImage_ne_nil before d [])
  rw [hd, lower, himage, he, List.concat_eq_append, ← List.append_assoc] at h
  obtain rfl : e = c := by simpa using (List.append_inj' h rfl).2
  have hmem : e ∈ lowerImage before d [] := by simp [he]
  cases hsign : isSign d with
  | true =>
    rw [lowerImage_of_sign hsign, List.mem_singleton] at hmem
    rw [hmem, hlast]
  | false =>
    have hclear := not_sign_of_mem_lowerImage hsign hmem
    simp only [isSign, Bool.or_eq_false_iff] at hclear
    exact hclear.1.1

theorem exists_of_colonHeading {s : List Char} (h : isColonHeading s = true) :
    ∃ name rest, s = name ++ ':' :: rest ∧ name ≠ [] ∧ ':' ∉ name ∧ rest.all isBlank = true := by
  have hsplit : s.takeWhile (fun c => isBlank c || isWord c) ++
      s.drop (s.takeWhile (fun c => isBlank c || isWord c)).length = s := by
    rw [← List.prefix_iff_eq_append]
    exact List.takeWhile_prefix _
  simp only [isColonHeading] at h
  split at h
  · rename_i rest hdrop
    rw [Bool.and_eq_true, Bool.not_eq_true', List.isEmpty_eq_false_iff] at h
    refine ⟨_, rest, by rw [← hdrop, hsplit], h.1, fun hmem => ?_, h.2⟩
    have hcolon : (isBlank ':' || isWord ':') = false := by decide +kernel
    rw [List.mem_takeWhile_imp hmem] at hcolon
    cases hcolon
  · cases h

theorem trimColons_concat {name : List Char} (hne : name ≠ []) (hcolon : ':' ∉ name) :
    trimBy (· == ':') (name ++ [':']) = name := by
  have hnot : ∀ c ∈ name, (c == ':') = false := by
    intro c hc
    rw [beq_eq_false_iff_ne]
    rintro rfl
    exact hcolon hc
  have hfront : (name ++ [':']).dropWhile (· == ':') = name ++ [':'] := by
    obtain ⟨c, t, rfl⟩ := List.exists_cons_of_ne_nil hne
    exact List.dropWhile_cons_of_neg (by simp [hnot c (.head _)])
  have hback : name.reverse.dropWhile (· == ':') = name.reverse := by
    refine List.dropWhile_eq_self_iff.2 fun hl => ?_
    exact Bool.eq_false_iff.1 (hnot _ (List.mem_reverse.1 (List.getElem_mem hl)))
  rw [trimBy, hfront, trimRightBy_concat, if_pos (by rfl), trimRightBy, hback, List.reverse_reverse]

theorem colonHeading_iff {s : List Char} (hlast : ∀ t c, s = t ++ [c] → isBlank c = false) :
    isColonHeading s = true ∧ sectionKind? (trimBy (· == ':') s) = some kind ↔
      ∃ name, sectionKind? name = some kind ∧ s = name ++ [':'] := by
  constructor
  · rintro ⟨hcolon, hkind⟩
    obtain ⟨name, rest, rfl, hne, hmem, hrest⟩ := exists_of_colonHeading hcolon
    rcases List.eq_nil_or_concat rest with rfl | ⟨u, c, rfl⟩
    · rw [trimColons_concat hne hmem] at hkind
      exact ⟨name, hkind, rfl⟩
    · have hc := hlast (name ++ ':' :: u) c (by simp)
      simp [hc] at hrest
  · rintro ⟨name, hkind, rfl⟩
    have hname : (isColonHeading (name ++ [':']) && trimBy (· == ':') (name ++ [':']) == name) = true :=
      sectionName_all (p := fun name => isColonHeading (name ++ [':']) && trimBy (· == ':') (name ++ [':']) == name)
        (by decide +kernel) (by simp [hkind])
    rw [Bool.and_eq_true, beq_iff_eq] at hname
    exact ⟨hname.1, by rw [hname.2, hkind]⟩

theorem opens_google {text : List Char} {i : Nat} : Style.google.Opens [] kind (Line.ofIndexed (i, text)) rest ↔
    (∃ name, sectionKind? name = some kind ∧ lower (trimRight text) = name ++ [':']) ∧ 0 < indentAhead rest := by
  have hspelled : isColonHeading (lower (trimRight text)) = true ∧
      sectionKind? (trimBy (· == ':') (lower (trimRight text))) = some kind ↔ _ :=
    colonHeading_iff fun _ _ => not_blank_of_lower_trimRight
  rw [lower_trimColons] at hspelled
  constructor
  · rintro ⟨hh, hkind⟩
    rcases headingAt_google hh with ⟨hcolon, hname, hindent⟩ | hd
    · simp only [Style.cutHeading, hname, ↓reduceIte] at hkind
      exact ⟨hspelled.1 ⟨hcolon, hkind⟩, Nat.lt_of_le_of_lt (Nat.zero_le _) hindent⟩
    · simp [isDirectiveHeading] at hd
  · rintro ⟨hname, hindent⟩
    obtain ⟨hcolon, hkind⟩ := hspelled.2 hname
    have hflush : indentOf (trimRight text) = 0 := by
      obtain ⟨name, hn, htext⟩ := hname
      obtain ⟨c, t, rfl, hc, -⟩ := sectionName_head (show (sectionKind? name).isSome = true by simp [hn])
      simp only [isSign, Bool.or_eq_false_iff] at hc
      rw [← indentOf_lowerFrom [], ← lower, htext]
      simp [indentOf, hc.1.1]
    refine ⟨heading_google hcolon hkind (hflush ▸ hindent), ?_⟩
    have hsome : (sectionKind? (lower (trimBy (· == ':') (trimRight text)))).isSome = true := by simp [hkind]
    simp only [Style.cutHeading, Line.ofIndexed, hsome, ↓reduceIte]
    exact hkind

/-! ### Headings in a text -/

/-- One of the lines is one of the names, and the next one is an underline. -/
def HasUnderlined (names lines : List (List Char)) : Prop :=
  ∃ above w u below, lines = above ++ w :: u :: below ∧ lower (trimRight w) ∈ names ∧ isUnderline (trimRight u) = true

/-- One of the lines is one of the names and a colon, and the next line that is not blank is indented. -/
def HasIndented (names lines : List (List Char)) : Prop :=
  ∃ above w below next, lines = above ++ w :: below ∧ (∃ name ∈ names, lower (trimRight w) = name ++ [':']) ∧
    below.find? (fun l => !l.all isBlank) = some next ∧ 0 < indentOf next

theorem Style.report_numbered_has_iff (hk : kind ≠ .skipped) (lines : List (List Char)) :
    (style.report (numberedFrom 0 lines)).Has kind ↔ ∃ above w below, lines = above ++ w :: below ∧
      style.Opens style.directives kind (Line.ofIndexed (above.length, w)) (numberedFrom (above.length + 1) below) := by
  rw [Style.report_has_iff hk]
  constructor
  · rintro ⟨l, rest, hs, hopens⟩
    obtain ⟨above, w, below, hlines, rfl, rfl⟩ := cons_suffix_numberedFrom.1 hs
    rw [Nat.zero_add] at hopens
    exact ⟨above, w, below, hlines, hopens⟩
  · rintro ⟨above, w, below, hlines, hopens⟩
    refine ⟨_, _, cons_suffix_numberedFrom.2 ⟨above, w, below, hlines, rfl, rfl⟩, ?_⟩
    rwa [Nat.zero_add]

theorem report_numpy_has (hk : kind ≠ .skipped) (lines : List (List Char)) :
    (Style.numpy.report (numberedFrom 0 lines)).Has kind ↔ HasUnderlined kind.names lines := by
  rw [Style.report_numbered_has_iff hk]
  constructor
  · rintro ⟨above, w, below, rfl, hopens⟩
    obtain ⟨hkind, u, rest, hrest, hu⟩ := opens_numpy.1 hopens
    cases below with
    | nil => cases hrest
    | cons v below =>
      obtain ⟨rfl, -⟩ := List.cons.inj hrest
      exact ⟨above, w, v, below, rfl, (sectionKind?_eq_some_iff hk).1 hkind, hu⟩
  · rintro ⟨above, w, u, below, rfl, hname, hu⟩
    exact ⟨above, w, u :: below, rfl, opens_numpy.2 ⟨(sectionKind?_eq_some_iff hk).2 hname, _, _, rfl, hu⟩⟩

theorem report_google_has (hk : kind ≠ .skipped) (lines : List (List Char)) :
    (Style.google.report (numberedFrom 0 lines)).Has kind ↔ HasIndented kind.names lines := by
  rw [Style.report_numbered_has_iff hk]
  constructor
  · rintro ⟨above, w, below, rfl, hopens⟩
    obtain ⟨⟨name, hkind, hw⟩, hindent⟩ := opens_google.1 hopens
    rw [indentAhead_numberedFrom] at hindent
    cases hnext : below.find? (fun l => !l.all isBlank) with
    | none => simp [hnext] at hindent
    | some next =>
      rw [hnext] at hindent
      exact ⟨above, w, below, next, rfl, ⟨name, (sectionKind?_eq_some_iff hk).1 hkind, hw⟩, hnext, hindent⟩
  · rintro ⟨above, w, below, next, rfl, ⟨name, hname, hw⟩, hnext, hindent⟩
    refine ⟨above, w, below, rfl, opens_google.2 ⟨⟨name, (sectionKind?_eq_some_iff hk).2 hname, hw⟩, ?_⟩⟩
    rw [indentAhead_numberedFrom, hnext]
    exact hindent

/-- No heading is missed and none is invented, in either style: a report has parameters, returned or yielded values
exactly if a heading of such a section stands somewhere in the text, be it inside another section, in the text of a
field or after a directive. -/
theorem parse_finds_headings (lines : List (List Char)) :
    (∃ report, Style.numpy.parse lines = .ok report ∧
      (report.params.isSome = true ↔ HasUnderlined SectionKind.params.names lines) ∧
      (report.returns.isSome = true ↔ HasUnderlined SectionKind.returns.names lines) ∧
      (report.yields.isSome = true ↔ HasUnderlined SectionKind.yields.names lines)) ∧
    ∃ report, Style.google.parse lines = .ok report ∧
      (report.params.isSome = true ↔ HasIndented SectionKind.params.names lines) ∧
      (report.returns.isSome = true ↔ HasIndented SectionKind.returns.names lines) ∧
      (report.yields.isSome = true ↔ HasIndented SectionKind.yields.names lines) := by
  have hparams : SectionKind.params ≠ .skipped := by decide
  have hreturns : SectionKind.returns ≠ .skipped := by decide
  have hyields : SectionKind.yields ≠ .skipped := by decide
  refine ⟨⟨_, Style.numpy.parse_eq lines, ?_⟩, _, Style.google.parse_eq lines, ?_⟩
  · exact ⟨report_numpy_has hparams lines, report_numpy_has hreturns lines, report_numpy_has hyields lines⟩
  · exact ⟨report_google_has hparams lines, report_google_has hreturns lines, report_google_has hyields lines⟩

end TypeComments.Docstring
