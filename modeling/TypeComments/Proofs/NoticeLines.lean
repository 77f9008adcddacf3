import TypeComments.Proofs.ConversionFaults
import TypeComments.Proofs.DocstringLines
import TypeComments.Proofs.SignatureRendering
import TypeComments.Proofs.TracedFields

/-!
# The line that a notice names

A notice about a docstring names the line on which the docstring starts and, added to it, the number of a line of the
cleaned docstring, counted from two. The lines that cleaning drops are not counted. So the notice that values are both
returned and yielded names a line two below the one of the first returned value, less the lines that are dropped: it is
the right line just where two lines are dropped, if no line ends in another way than by a line feed.
-/

namespace TypeComments.Source
variable {f : Function} {b : Block} {t : Token} {tree : Tree} {printWord : Bool}

/-! ### The string that documents a function -/

theorem Tree.leaves_subset_leavesAll {ts : List Tree} (h : tree ∈ ts) : tree.leaves ⊆ Tree.leavesAll ts := by
  induction ts with
  | nil => cases h
  | cons u ts ih =>
    rw [Tree.leavesAll]
    rcases List.mem_cons.1 h with rfl | h
    · exact List.subset_append_left _ _
    · exact List.subset_append_of_subset_right _ (ih h)

theorem Tree.child_leaves_subset {child : Tree} (h : child ∈ tree.children) : child.leaves ⊆ tree.leaves := by
  cases tree with
  | leaf t => cases h
  | node rule parts => exact Tree.leaves_subset_leavesAll h

theorem Tree.leadingString?_mem (h : tree.leadingString? = some t) : t.kind = .string ∧ t ∈ tree.leaves := by
  unfold Tree.leadingString? at h
  split at h
  · rename_i u rest hchildren
    split at h
    · rename_i hkind
      obtain rfl := Option.some.inj h
      have hchild : Tree.leaf u ∈ tree.children := by simp [hchildren]
      exact ⟨hkind, Tree.child_leaves_subset hchild (by simp [Tree.leaves])⟩
    · cases h
  · cases h

theorem Tree.docToken_mem (hb : tree.block? = some b) (ht : b.docToken = some t) :
    t.kind = .string ∧ t ∈ tree.leaves := by
  unfold Tree.block? at hb
  split at hb
  · rename_i indent first rest hchildren
    split at hb
    · obtain rfl := Option.some.inj hb
      obtain ⟨hkind, hmem⟩ := Tree.leadingString?_mem ht
      exact ⟨hkind, Tree.child_leaves_subset (by simp [hchildren]) hmem⟩
    · cases hb
  · cases hb

theorem Function.Stands.body_leaves {tokens : List Token} (h : f.Stands printWord tokens) : f.body.leaves ⊆ tokens := by
  obtain ⟨ps, ts, enclosing, depth, hrow, hts, hf, hleaves⟩ := h
  unfold Function.ofParts? at hf
  split at hf
  · rename_i hbody
    obtain rfl := Option.some.inj hf
    exact List.Subset.trans (Tree.leaves_subset_leavesAll (List.mem_of_getLast? hbody)) hleaves
  · cases hf

theorem read_docToken {source : List Char} (h : read source = .ok tree) (hf : f ∈ tree.allFunctions)
    (hb : f.body.block? = some b) (ht : b.docToken = some t) :
    ∃ before, before ++ t.text <+: completed source ∧ t.line = before.count '\n' + 1 ∧ OpensString t.text := by
  obtain ⟨printWord, hstands⟩ := read_functionStands h
  obtain ⟨hkind, hmem⟩ := Tree.docToken_mem hb ht
  obtain ⟨front, back, hleaves⟩ := List.append_of_mem ((hstands f hf).body_leaves hmem)
  obtain ⟨hline, hopens⟩ := read_string h hleaves hkind
  refine ⟨front.flatMap Token.source ++ t.before, ⟨back.flatMap Token.source, ?_⟩, hline, hopens⟩
  rw [← read_source h, Tree.source, hleaves]
  simp [Token.source]

end TypeComments.Source

namespace TypeComments.Docstring
variable {style : Style} {options : Options} {doc : List Char} {report : Report} {e y : Entry} {es ys : List Entry}
  {n : Int}

/-! ### Values that are both returned and yielded -/

/-- A docstring with returned and yielded values gives one notice, for the first returned one. -/
theorem parse_both (hnamed : options.allowNamedResults = true) (hallowed : options.allowYields = true)
    (hreport : style.parse (splitLines (clean doc)) = .ok report)
    (hreturns : report.returns = some (e :: es)) (hyields : report.yields = some (y :: ys)) (hline : e.line = some n) :
    ∃ documented, (style.format.parse options doc).run.run [] = (.ok documented, [⟨.warning, n, bothText⟩]) := by
  rw [Style.parse_eq] at hreport
  obtain rfl := Except.ok.inj hreport
  obtain ⟨result, hresult⟩ := castYields_of_allowed hnamed hallowed (y :: ys)
  have hcast : (castResult options (e :: es) (y :: ys)).run.run [] = (.ok result, [⟨.warning, n, bothText⟩]) := by
    have hnotify : (Parse.notify .warning bothText e.line).run.run [] = (.ok (), [⟨.warning, n, bothText⟩]) := by
      rw [hline]
      rfl
    unfold castResult
    rw [run_bind_of_ok hnotify, hresult]
    rfl
  unfold Format.parse
  rw [run_bind_of_ok (read_format style options.markup (clean doc) []), hreturns, hyields, Option.getD_some,
    Option.getD_some, run_bind_of_ok hcast]
  exact ⟨_, rfl⟩

end TypeComments.Docstring

namespace TypeComments.Signature
open Source Docstring
variable {defaults : Defaults} {file source v : List Char} {tree : Tree} {f : Function} {b : Block} {t : Token}

/-! ### Messages of a conversion -/

/-- What a function says, whatever is written in front of other blocks, is said by a conversion of the text. -/
theorem mem_messages_of_convert (hread : read source = .ok tree) (hf : f ∈ tree.allFunctions) {m : Message}
    (hm : ∀ e, Retouch e → (∀ t ∈ f.opening?, e t = t) → ∀ s,
      m ∈ ((convertFunction defaults file (f.mapTokens e)).run.run s).2.messages) {c : Converted} {ms ms' : List Message}
    (h : (convert defaults file source).run.run ms = (.ok c, ms')) : m ∈ ms' := by
  have htree : (convertTree defaults file tree).run.run ms = (.ok c, ms') := by
    rw [convert, hread] at h
    exact h
  obtain ⟨i, hi, rfl⟩ := List.getElem_of_mem hf
  have hplace := List.getElem?_eq_getElem hi
  obtain ⟨s', hrun, -, rfl⟩ := exists_visits htree
  obtain ⟨others, s, s₁, hnew, hs, hvisit, hkeeps⟩ := (visitInOrder_perm_ok hread (visitOrder_perm tree) rfl hrun).2 i hi
  rw [visitAt_run (editPlaces_function hplace hs) rfl] at hvisit
  obtain rfl := (Prod.mk.inj hvisit).2
  exact hkeeps.subset (hm _ (retouch_editPlaces defaults tree others) (editPlaces_opening defaults hread hplace hnew) s)

/-! ### The line of the warning -/

/-- The warning that values are both returned and yielded, for a line of a file. -/
def bothWarning (file : List Char) (number : Nat) : Message :=
  ⟨.warning, file ++ ": line ".toList ++ (toString number).toList ++ ": ".toList ++ bothText⟩

section
variable {style : Style} {report : Report} {e y : Entry} {es ys : List Entry} {n : Nat}
  (hformat : chooseFormat defaults.format v = style.format) (hreport : style.parse (splitLines (clean v)) = .ok report)
  (hreturns : report.returns = some (e :: es)) (hyields : report.yields = some (y :: ys))
  (hline : e.line = some (n : Int))
include hformat hreport hreturns hyields hline

theorem readTypes_both (hne : v ≠ []) (start : Nat) (s : Progress) : ∃ types,
    (readTypes defaults file ⟨.text v, start⟩).run.run s =
      (.ok types, { s with messages := s.messages ++ [bothWarning file (start + n)] }) := by
  obtain ⟨documented, hdoc⟩ : ∃ documented, (parseDocstring none defaults.format defaults.options v).run.run [] =
      (.ok documented, [⟨.warning, n, bothText⟩]) := by
    rw [parseDocstring, hformat]
    exact parse_both rfl rfl hreport hreturns hyields hline
  obtain ⟨c, rest, rfl⟩ := List.exists_cons_of_ne_nil hne
  refine ⟨.ofDocumented documented, ?_⟩
  unfold readTypes
  simp only [hdoc]
  rfl

theorem convertFunction_both (hclass : f.enclosing ≠ .oneLine) (hb : f.body.block? = some b) (ht : b.docToken = some t)
    (hopt : isOptOut b.indent.before = false) (hvalue : literalValue t.text = .ok (.text v)) (hne : v ≠ [])
    (s : Progress) : ∃ outcome, (convertFunction defaults file f).run.run s =
      (outcome, { s with messages := s.messages ++ [bothWarning file (t.line + n)] }) := by
  have hown : (docstringOf b).run.run s = (.ok (some ⟨.text v, t.line⟩), s) := by
    simp only [docstringOf, Block.docstring, ht, hvalue]
    rfl
  obtain ⟨types, htypes⟩ : ∃ types, (readTypes defaults file ⟨.text v, t.line⟩).run.run s = _ :=
    readTypes_both hformat hreport hreturns hyields hline hne t.line s
  have hdoc : (documentation f (some ⟨.text v, t.line⟩)).run.run s = (.ok (some ⟨.text v, t.line⟩), s) := rfl
  unfold convertFunction
  simp only [run_bind_of_ok (standsInClass_run hclass s), hb, run_bind_of_ok hown, hopt, Bool.false_eq_true, if_false,
    run_bind_of_ok hdoc, run_bind_of_ok htypes]
  split
  · exact ⟨_, rfl⟩
  · unfold commentFor
    split
    · exact ⟨_, rfl⟩
    · exact ⟨_, rfl⟩

/-- What is written in front of other blocks does not change the warning. -/
theorem convertFunction_both_mapTokens {e : Token → Token} (he : Retouch e) (hown : ∀ t ∈ f.opening?, e t = t)
    (hclass : f.enclosing ≠ .oneLine) (hb : f.body.block? = some b) (ht : b.docToken = some t)
    (hopt : isOptOut b.indent.before = false) (hvalue : literalValue t.text = .ok (.text v)) (hne : v ≠ [])
    (s : Progress) : ∃ outcome, (convertFunction defaults file (f.mapTokens e)).run.run s =
      (outcome, { s with messages := s.messages ++ [bothWarning file (t.line + n)] }) := by
  have hblock : (f.mapTokens e).body.block? = some ⟨e b.indent, some (e t)⟩ := by
    show (f.body.mapTokens e).block? = _
    rw [he.recast.block?, hb, Option.map_some, ht, Option.map_some]
  have hindent : e b.indent = b.indent := hown _ (Function.opening?_of_block hb)
  rw [← he.line_eq t]
  exact convertFunction_both hformat hreport hreturns hyields hline (Enclosing.mapTokens_ne_oneLine e hclass) hblock rfl
    (by rw [hindent, hopt]) (by rw [he.recast.text_eq, hvalue]) hne s

end

/-- The warning that values are both returned and yielded is given once. It names a line two below the one on which the
first returned value stands, less the empty lines dropped at the start of the docstring, and more for line ends that are
no line feeds. So it is the right line just where these make up for each other. -/
theorem both_warning_line (hread : read source = .ok tree) (hf : f ∈ tree.allFunctions) (hb : f.body.block? = some b)
    (ht : b.docToken = some t) (hopt : isOptOut b.indent.before = false) (hverbatim : IsVerbatim t.text)
    (hvalue : literalValue t.text = .ok (.text v)) {style : Style}
    (hformat : chooseFormat defaults.format v = style.format) {report : Report}
    (hreport : style.parse (splitLines (clean v)) = .ok report) {e y : Entry} {es ys : List Entry}
    (hreturns : report.returns = some (e :: es)) (hyields : report.yields = some (y :: ys)) :
    ∃ before head raw x line physical row number,
      before ++ t.text <+: completed source ∧ Written t.text v head raw x line ∧
      e.StandsOn (splitLines (clean v)) line ∧ e.type = style.resultType? (trimRight line) ∧
      row = (before ++ head).count '\n' ∧ (physicalLines source)[row]? = some physical ∧ raw <:+: physical ∧
      (∀ s, ∃ outcome, (convertFunction defaults file f).run.run s =
        (outcome, { s with messages := s.messages ++ [bothWarning file number] })) ∧
      (∀ c ms, (convert defaults file source).run.run [] = (.ok c, ms) → bothWarning file number ∈ ms) ∧
      number + droppedLines v = row + 1 + 2 + loneReturns head + otherBreaks x ∧
      (number = row + 1 ↔ droppedLines v = 2 + loneReturns head + otherBreaks x) := by
  obtain ⟨line, hstands, htype⟩ := result_stands_on_line hreport (.inl hreturns) (.head _)
  have htyped := (results_readOff_of_parse hreport (.inl hreturns)).typed e (.head _)
  have hne : line ≠ [] := by
    rintro rfl
    rw [htype] at htyped
    cases style <;> exact htyped rfl
  obtain ⟨n, hn, hle, hlt, htext⟩ := hstands
  have hv : v ≠ [] := by
    rintro rfl
    cases htext
  obtain ⟨before, htoken, hstart, hopens⟩ := read_docToken hread hf hb ht
  obtain ⟨head, raw, x, hwritten, hk⟩ := written_of_clean hopens hverbatim hvalue htext hne
  obtain ⟨physical, hphysical, hinfix⟩ := hwritten.physicalLine hne htoken
  have hclass := read_enclosing hread hf
  have hlines := hwritten.lines
  refine ⟨before, head, raw, x, line, physical, (before ++ head).count '\n', t.line + n, htoken, hwritten,
    ⟨n, hn, hle, hlt, htext⟩, htype, rfl, hphysical, hinfix,
    convertFunction_both hformat hreport hreturns hyields hn hclass hb ht hopt hvalue hv, fun c ms hconvert => ?_, ?_, ?_⟩
  · refine mem_messages_of_convert hread hf (fun e he hown s => ?_) hconvert
    obtain ⟨outcome, hrun⟩ : ∃ outcome, (convertFunction defaults file (f.mapTokens e)).run.run s = _ :=
      convertFunction_both_mapTokens hformat hreport hreturns hyields hn he hown hclass hb ht hopt hvalue hv s
    rw [hrun]
    simp
  · rw [List.count_append]
    omega
  · rw [List.count_append]
    omega

/-- A docstring whose first two lines are dropped. -/
def twoDropped : List Char :=
  "\n\n  Returns:\n    int: a\n\n  Yields:\n    str: b\n  ".toList

def twoDroppedSource : List Char :=
  "def f():\n  \"\"\"".toList ++ twoDropped ++ "\"\"\"\n".toList

theorem both_warning_line_two_dropped : ∃ tree f raw physical row, read twoDroppedSource = .ok tree ∧
    f ∈ tree.allFunctions ∧ "  int: a".toList <:+: (expandTabs raw).filter (· != '\x60') ∧
    (physicalLines twoDroppedSource)[row]? = some physical ∧ raw <:+: physical ∧
    ∀ s, ∃ outcome, (convertFunction {} [] f).run.run s =
      (outcome, { s with messages := s.messages ++ [bothWarning [] (row + 1)] }) := by
  have hcheck : (read twoDroppedSource).toOption.any (fun tree => tree.allFunctions.any fun f =>
      f.body.block?.any fun b => !isOptOut b.indent.before &&
        b.docToken.any (·.text == "\"\"\"".toList ++ twoDropped ++ "\"\"\"".toList)) = true := by
    decide +kernel
  obtain ⟨tree, htree, hcheck⟩ := (Option.any_eq_true _ _).1 hcheck
  obtain ⟨f, hf, hcheck⟩ := List.any_eq_true.1 hcheck
  obtain ⟨b, hb, hcheck⟩ := (Option.any_eq_true _ _).1 hcheck
  rw [Bool.and_eq_true, Bool.not_eq_true', Option.any_eq_true] at hcheck
  obtain ⟨hopt, t, ht, htext⟩ := hcheck
  rw [beq_iff_eq] at htext
  have hread := eq_ok_of_toOption htree
  have hlines : splitLines (clean twoDropped) =
      ["Returns:".toList, "  int: a".toList, [], "Yields:".toList, "  str: b".toList] := by decide +kernel
  have hreport : Style.google.parse (splitLines (clean twoDropped)) =
      .ok ⟨none, some [⟨some "int".toList, some 3⟩], some [⟨some "str".toList, some 6⟩]⟩ := by
    rw [hlines]
    exact eq_ok_of_toOption (by decide +kernel)
  have hverbatim : IsVerbatim t.text := by
    rw [htext]
    exact ⟨.inr (by decide), by decide⟩
  have hvalue : literalValue t.text = .ok (.text twoDropped) := by
    rw [htext]
    exact eq_ok_of_toOption (by decide +kernel)
  have hformat : chooseFormat ({} : Defaults).format twoDropped = Style.google.format := by decide +kernel
  obtain ⟨before, head, raw, x, line, physical, row, number, -, hwritten, hstands, -, -, hphysical, hinfix, hruns, -, -,
    hright⟩ := both_warning_line hread hf hb ht hopt hverbatim hvalue hformat hreport rfl rfl
  have hline : line = "  int: a".toList := by
    obtain ⟨n, hn, -, -, hget⟩ := hstands
    obtain rfl := Int.ofNat.inj (Option.some.inj hn)
    rw [hlines] at hget
    exact (Option.some.inj hget).symm
  have hreturns : loneReturns head = 0 := by
    refine loneReturns_of_not_mem fun hmem => ?_
    have hmem' : '\r' ∈ t.text := hwritten.literal.subset (List.mem_append_left _ hmem)
    rw [htext] at hmem'
    exact absurd hmem' (by decide)
  have hbreaks : otherBreaks x = 0 := by
    have hall : (clean twoDropped).all (fun c => !isLineBreak c || c == '\n') = true := by decide +kernel
    refine otherBreaks_of_all (List.all_eq_true.2 fun c hc => ?_)
    exact List.all_eq_true.1 hall c (hwritten.cleaned.subset (List.mem_append_left _ hc))
  have hdropped : droppedLines twoDropped = 2 := by decide +kernel
  obtain rfl := hright.2 (by rw [hdropped, hreturns, hbreaks])
  exact ⟨tree, f, raw, physical, row, hread, hf, hline ▸ hwritten.part, hphysical, hinfix, hruns⟩

def oneDroppedSource : List Char :=
  "def f():\n  \"\"\"\n  Returns:\n    int: a\n\n  Yields:\n    str: b\n  \"\"\"\n".toList

/-- The warning names the line below the one of the returned value. -/
theorem both_warning_below :
    ((convert {} "<test.py>".toList oneDroppedSource).run.run []).2 = [bothWarning "<test.py>".toList 5] ∧
      (physicalLines oneDroppedSource)[3]? = some "    int: a\n".toList := by
  decide +kernel

end TypeComments.Signature
