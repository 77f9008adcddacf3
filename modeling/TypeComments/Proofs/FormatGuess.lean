import TypeComments.Proofs.FlatSections
import TypeComments.Proofs.LineShape
import TypeComments.Proofs.TextPieces

/-!
# A guessed format is one that can be read

The guess looks for a marker at the start of a line of the docstring with its backquotes; the reader gets the lines
of the docstring without them. Deleting backquotes joins no lines, so the marker's lines are lines of both
(`lines_of_matches`). The reader stops at every heading wherever it stands (`Style.report_append`), so a marker that is
a heading leaves its trace in the report (`report_ne_empty`).
-/

namespace TypeComments.Docstring
variable {style : Style} {doc m text : List Char} {format : Format} {kind : SectionKind}

/-! ### Lines of a marker -/

theorem exists_of_atLineStart (hm : m ≠ []) {fresh : Bool} (h : atLineStart m fresh text = true) :
    ∃ above below, text = above ++ (m ++ below) ∧ (above = [] ∧ fresh = true ∨ ∃ u, above = u ++ ['\n']) := by
  induction text generalizing fresh with
  | nil =>
    rw [atLineStart, Bool.and_eq_true, List.isEmpty_iff] at h
    exact absurd h.2 hm
  | cons c text ih =>
    rw [atLineStart, Bool.or_eq_true, Bool.and_eq_true] at h
    rcases h with ⟨hfresh, hstart⟩ | hlater
    · obtain ⟨below, hbelow⟩ := List.isPrefixOf_iff_prefix.1 hstart
      exact ⟨[], below, hbelow.symm, .inl ⟨rfl, hfresh⟩⟩
    · obtain ⟨above, below, rfl, hline⟩ := ih hlater
      refine ⟨c :: above, below, rfl, .inr ?_⟩
      rcases hline with ⟨rfl, hc⟩ | ⟨u, rfl⟩
      · exact ⟨[], by rw [beq_iff_eq.1 hc]; rfl⟩
      · exact ⟨c :: u, rfl⟩

/-- A docstring that shows a format has the lines of one of its markers, also without backquotes. -/
theorem lines_of_matches (h : format.matches (unindent doc) = true)
    (hplain : ∀ m ∈ format.markers, m ≠ [] ∧ '\x60' ∉ m) :
    ∃ m ∈ format.markers, ∃ above below, splitLines (clean doc) = above ++ splitLines (m ++ below) := by
  obtain ⟨m, hm, hstart⟩ := List.any_eq_true.1 h
  obtain ⟨hne, hquote⟩ := hplain m hm
  obtain ⟨above, below, htext, hline⟩ := exists_of_atLineStart hne hstart
  have hkeep : m.filter (· != '\x60') = m := by
    refine List.filter_eq_self.2 fun c hc => ?_
    simpa using fun heq : c = '\x60' => hquote (heq ▸ hc)
  have hclean : clean doc = above.filter (· != '\x60') ++ (m ++ below.filter (· != '\x60')) := by
    rw [clean, htext, List.filter_append, List.filter_append, hkeep]
  rw [hclean]
  rcases hline with ⟨rfl, -⟩ | ⟨u, rfl⟩
  · exact ⟨m, hm, [], _, rfl⟩
  · refine ⟨m, hm, splitLines (u.filter (· != '\x60') ++ ['\n']), below.filter (· != '\x60'), ?_⟩
    have hfeed : (u ++ ['\n']).filter (· != '\x60') = u.filter (· != '\x60') ++ ['\n'] := by
      rw [List.filter_append]
      rfl
    rw [hfeed, List.append_assoc, List.singleton_append]
    exact splitLinesFrom_append_feed [] _ _

theorem numpy_markers : ∀ m ∈ Format.numpy.markers, m ≠ [] ∧ '\x60' ∉ m ∧ ∃ w u kind, m = w ++ '\n' :: (u ++ ['\n']) ∧
    Clear isLineBreak w ∧ Clear isLineBreak u ∧ sectionKind? (lower (trimRight w)) = some kind ∧ kind ≠ .skipped ∧
      isUnderline (trimRight u) = true := by
  simp only [Format.markers, List.forall_mem_cons]
  refine ⟨⟨by decide, by decide, "Parameters".toList, "----------".toList, .params, ?_⟩,
    ⟨by decide, by decide, "Returns".toList, "-------".toList, .returns, ?_⟩,
    ⟨by decide, by decide, "Yields".toList, "------".toList, .yields, ?_⟩, by simp⟩
  all_goals exact ⟨by decide, by decide, by decide, by decide +kernel, by decide, by decide +kernel⟩

/-- The lines under which a google docstring lists types. -/
def googleHeadings : List (List Char) :=
  ["Args:".toList, "Returns:".toList, "Yields:".toList]

theorem google_markers : ∀ m ∈ Format.google.markers, m ≠ [] ∧ '\x60' ∉ m ∧
    ∃ w ∈ googleHeadings, m = w ++ ['\n'] ∧ Clear isLineBreak w := by
  decide

theorem google_headings : ∀ w ∈ googleHeadings, trimRight w = w ∧ indentOf w = 0 ∧ isColonHeading (lower w) = true ∧
    ∃ kind, sectionKind? (lower (trimBy (· == ':') w)) = some kind ∧ kind ≠ .skipped := by
  simp only [googleHeadings, List.forall_mem_cons]
  refine ⟨⟨by decide, by decide, by decide +kernel, .params, ?_⟩, ⟨by decide, by decide, by decide +kernel, .returns, ?_⟩,
    ⟨by decide, by decide, by decide +kernel, .yields, ?_⟩, by simp⟩
  all_goals exact ⟨by decide +kernel, by decide⟩

/-! ### Reports with a trace -/

theorem addTo_ne_empty {r : Report} (hr : r ≠ .empty) (f : Finding) : f.addTo r ≠ .empty := by
  cases f with
  | nothing => exact hr
  | params ps | returns es | yields es => simp [Finding.addTo, Report.empty]

theorem foldl_addTo_ne_empty {r : Report} (hr : r ≠ .empty) (fs : List Finding) :
    fs.foldl Finding.addTo r ≠ .empty := by
  induction fs generalizing r with
  | nil => exact hr
  | cons f fs ih => exact ih (addTo_ne_empty hr f)

theorem override_ne_empty {earlier later : Report} (h : later ≠ .empty) : earlier.override later ≠ .empty := by
  intro heq
  simp only [Report.override, Report.empty, Report.mk.injEq, Option.or_eq_none_iff] at heq
  obtain ⟨⟨hp, -⟩, ⟨hr, -⟩, ⟨hy, -⟩⟩ := heq
  apply h
  cases later
  simp_all [Report.empty]

theorem found_ne_nothing {sc : Scope} {heading : List Char} (hkind : sectionKind? (lower heading) = some kind)
    (hk : kind ≠ .skipped) (ls : List Line) : (sc.found heading ls).1 ≠ .nothing := by
  rw [Scope.found, not_opensDirective hkind, hkind]
  cases kind with
  | skipped => exact absurd rfl hk
  | params | returns | yields => simp

/-- Text with a heading of a section of types, wherever it stands, documents something. -/
theorem report_ne_empty {xs rest : List Line} {H : Line} (hH : headingAt style style.directives (H :: rest) = true)
    (hturn : (turn style style.directives H rest).1 ≠ .nothing) : style.report (xs ++ H :: rest) ≠ .empty := by
  rw [Style.report_append hH]
  refine override_ne_empty ?_
  have hline := dropWhile_isEmpty_append hH []
  rw [List.nil_append, List.dropWhile_nil, List.nil_append] at hline
  rw [Style.report, hline, findings_cons, List.foldl_cons]
  refine foldl_addTo_ne_empty ?_ _
  cases hf : (turn style style.directives H rest).1 with
  | nothing => exact absurd hf hturn
  | params ps | returns es | yields es => simp [Finding.addTo, Report.empty]

theorem parse_ne_empty {above below : List (List Char)} {w : List Char}
    (hH : headingAt style style.directives (numberedFrom above.length (w :: below)) = true)
    (hturn : (turn style style.directives (Line.ofIndexed (above.length, w)) (numberedFrom (above.length + 1) below)).1 ≠
      .nothing) : ∃ report, style.parse (above ++ w :: below) = .ok report ∧ report ≠ .empty := by
  refine ⟨_, style.parse_eq _, ?_⟩
  rw [numberedFrom_append, Nat.zero_add]
  exact report_ne_empty hH hturn

/-! ### The indentation below a heading -/

theorem indentAhead_pos {next : List Char} {below : List (List Char)} (k : Nat)
    (h : below.find? (fun l => !l.all isBlank) = some next) (hindent : 0 < indentOf next) :
    0 < indentAhead (numberedFrom k below) := by
  rw [indentAhead_numberedFrom, h]
  exact hindent

/-! ### Guess and reader -/

theorem matches_of_guess (h : guessFormat doc = some format) : format.matches (unindent doc) = true :=
  List.find?_some (p := fun format : Format => format.matches (unindent doc)) h

/-- A docstring that is taken for numpy format documents something in it. One that is taken for google format has a
line that lists types, and documents something in it if the text below such a line is indented. -/
theorem guess_is_readable (doc : List Char) :
    (guessFormat doc = some .numpy →
      ∃ report, Style.numpy.parse (splitLines (clean doc)) = .ok report ∧ report ≠ .empty) ∧
    (guessFormat doc = some .google →
      (∃ l ∈ splitLines (clean doc), l ∈ googleHeadings) ∧
      ∀ above l below next, splitLines (clean doc) = above ++ l :: below → l ∈ googleHeadings →
        below.find? (fun l => !l.all isBlank) = some next → 0 < indentOf next →
          ∃ report, Style.google.parse (splitLines (clean doc)) = .ok report ∧ report ≠ .empty) := by
  refine ⟨fun hguess => ?_, fun hguess => ⟨?_, ?_⟩⟩
  · obtain ⟨m, hm, above, below, hlines⟩ := lines_of_matches (matches_of_guess hguess) fun m hm =>
      have h := numpy_markers m hm
      ⟨h.1, h.2.1⟩
    obtain ⟨-, -, w, u, kind, rfl, hw, hu, hkind, hk, hunder⟩ := numpy_markers m hm
    rw [List.append_assoc, List.cons_append, splitLines_line hw, List.append_assoc, List.singleton_append,
      splitLines_line hu] at hlines
    rw [hlines]
    refine parse_ne_empty (heading_numpy hkind hunder) ?_
    rw [numberedFrom, turn_numpy hkind hunder]
    exact found_ne_nothing hkind hk _
  · obtain ⟨m, hm, above, below, hlines⟩ := lines_of_matches (matches_of_guess hguess) fun m hm =>
      have h := google_markers m hm
      ⟨h.1, h.2.1⟩
    obtain ⟨-, -, w, hw, rfl, hclear⟩ := google_markers m hm
    rw [List.append_assoc, List.singleton_append, splitLines_line hclear] at hlines
    exact ⟨w, by simp [hlines], hw⟩
  · intro above l below next hlines hl hnext hindent
    obtain ⟨htrim, hflush, hcolon, kind, hkind, hk⟩ := google_headings l hl
    have htext (k : Nat) : (Line.ofIndexed (k, l)).text = l := htrim
    have hdeeper : indentOf (Line.ofIndexed (above.length, l)).text <
        indentAhead (numberedFrom (above.length + 1) below) := by
      rw [htext, hflush]
      exact indentAhead_pos _ hnext hindent
    have hcolon' : isColonHeading (lower (Line.ofIndexed (above.length, l)).text) = true := by rwa [htext]
    have hkind' : sectionKind? (lower (trimBy (· == ':') (Line.ofIndexed (above.length, l)).text)) = some kind := by
      rwa [htext]
    rw [hlines]
    refine parse_ne_empty (heading_google hcolon' hkind' hdeeper) ?_
    rw [turn_google hcolon' hkind' hdeeper]
    exact found_ne_nothing hkind' hk _

/-- A numpy docstring with backquotes above and below its heading. -/
def quotedNumpy : List Char :=
  "Count \x60n\x60.\n\n  Parameters\n  ----------\n  \x60n\x60 : int\n".toList

/-- A google docstring whose first line is a backquote. -/
def quotedGoogle : List Char :=
  "\x60\n  Args:\n\n    \x60n\x60 (int)\n".toList

theorem guess_is_readable_quoted :
    (guessFormat quotedNumpy = some .numpy ∧
      ∃ report, Style.numpy.parse (splitLines (clean quotedNumpy)) = .ok report ∧ report ≠ .empty) ∧
    guessFormat quotedGoogle = some .google ∧ (∃ l ∈ splitLines (clean quotedGoogle), l ∈ googleHeadings) ∧
      splitLines (clean quotedGoogle) = [[]] ++ "Args:".toList :: [[], "  n (int)".toList] ∧
      ∃ report, Style.google.parse (splitLines (clean quotedGoogle)) = .ok report ∧ report ≠ .empty := by
  have hnumpy : guessFormat quotedNumpy = some .numpy := by decide +kernel
  have hgoogle : guessFormat quotedGoogle = some .google := by decide +kernel
  have hlines : splitLines (clean quotedGoogle) = [[]] ++ "Args:".toList :: [[], "  n (int)".toList] := by
    decide +kernel
  obtain ⟨hheading, hreads⟩ := (guess_is_readable quotedGoogle).2 hgoogle
  exact ⟨⟨hnumpy, (guess_is_readable quotedNumpy).1 hnumpy⟩, hgoogle, hheading, hlines,
    hreads [[]] "Args:".toList [[], "  n (int)".toList] "  n (int)".toList hlines (by decide) (by decide) (by decide)⟩

end TypeComments.Docstring
