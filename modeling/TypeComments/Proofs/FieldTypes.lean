import TypeComments.Proofs.CollectedFields
import TypeComments.Proofs.RepeatedConversion
import TypeComments.Proofs.TextEnds

/-!
# Types in fields, and the lines they take

A type in the first paragraph of a field is put on one line, whatever the paragraph holds. The items of a list in a
field `returns` are taken as they stand. So all types are on one line exactly if those items are (`collect_types`), and
then the type comments are lines of their own and the converted text has the tokens of the source. An item that goes on
over a second line puts that line into the text as code.
-/

namespace TypeComments.Docstring
open Markup
variable {s : List Char} {fields : List Field} {f : Field} {report : Report}

/-! ### Types on one line -/

/-- A text on one line, without blanks at its ends. -/
structure IsOneLine (s : List Char) : Prop extends Tight s where
  unbroken : '\n' ∉ s

/-- A character that is no line feed stays as it is, and so does a text that has none at its ends. -/
theorem isOneLine_oneLine (s : List Char) : IsOneLine (oneLine s) := by
  have htrim := tight_trim s
  have hend : ∀ {c d : Char}, isBlank d = false → (if d == '\n' then ' ' else d) = c → isBlank c = false := by
    rintro c d hd rfl
    have hne : d ≠ '\n' := by
      rintro rfl
      exact absurd hd (by decide)
    simpa [hne] using hd
  refine ⟨⟨fun c hc => ?_, fun c hc => ?_⟩, fun hc => ?_⟩
  · rw [oneLine, List.head?_map, Option.mem_def, Option.map_eq_some_iff] at hc
    obtain ⟨d, hd, hcd⟩ := hc
    exact hend (htrim.first d hd) hcd
  · rw [oneLine, List.getLast?_map, Option.mem_def, Option.map_eq_some_iff] at hc
    obtain ⟨d, hd, hcd⟩ := hc
    exact hend (htrim.last d hd) hcd
  · obtain ⟨d, -, hd⟩ := List.mem_map.1 hc
    by_cases hfeed : d = '\n'
    · simp [hfeed] at hd
    · simp [hfeed] at hd

/-! ### The types of a report -/

/-- The type of the entry, if it has one, is as `P` says. -/
def Entry.All (P : List Char → Prop) (e : Entry) : Prop :=
  ∀ type ∈ e.type, P type

section
variable {P : List Char → Prop} (hP : ∀ text, P (oneLine text))
include hP

theorem Field.entry?_all {e : Entry} (h : f.entry? = some e) : e.All P := by
  obtain ⟨⟨text, line⟩, -, rfl⟩ := Option.map_eq_some_iff.1 h
  rintro _ ⟨⟩
  exact hP text

theorem Field.param?_all {p : Param} (h : f.param? = some p) : p.entry.All P := by
  unfold Field.param? at h
  split at h
  · split at h
    · obtain rfl := Option.some.inj h
      rintro _ ⟨⟩
      exact hP _
    · cases h
  · cases h

theorem Field.yielded?_all {es : List Entry} (h : f.yielded? = some es) : ∀ e ∈ es, e.All P := by
  unfold Field.yielded? at h
  split at h
  · obtain ⟨e, he, rfl⟩ := Option.map_eq_some_iff.1 h
    intro e' he'
    obtain rfl := List.mem_singleton.1 he'
    exact Field.entry?_all hP he
  · cases h

/-- What a field says is returned depends on its items, if it is called `returns`. -/
theorem Field.returned?_all_iff {es : List Entry} (h : f.returned? = some es) :
    (∀ e ∈ es, e.All P) ↔ (f.isCalled "returns" = true → ∀ item ∈ f.items, P item) := by
  unfold Field.returned? at h
  split at h
  · rename_i hcalled
    split at h
    · cases h
    · obtain rfl := Option.some.inj h
      constructor
      · intro hall _ item hitem
        exact hall _ (List.mem_map_of_mem hitem) item rfl
      · intro hitems e he
        obtain ⟨item, hitem, rfl⟩ := List.mem_map.1 he
        rintro _ ⟨⟩
        exact hitems hcalled item hitem
  · rename_i hcalled
    split at h
    · obtain ⟨e, he, rfl⟩ := Option.map_eq_some_iff.1 h
      refine iff_of_true (fun e' he' => ?_) fun hcalled' => absurd hcalled' hcalled
      obtain rfl := List.mem_singleton.1 he'
      exact Field.entry?_all hP he
    · cases h

omit hP in
theorem mem_getD_head? {α : Type} {ls : List (List α)} (h : ¬1 < ls.length) {a : α} :
    a ∈ ls.head?.getD [] ↔ ∃ l ∈ ls, a ∈ l := by
  rcases ls with - | ⟨l, - | ⟨m, ls⟩⟩
  · simp
  · simp
  · simp at h

/-- Types of parameters and of yielded values stand on one line, and those of returned values do if the items of
`returns` fields do. -/
theorem collect_types (h : collect fields = .ok report) :
    (∀ p ∈ report.params.getD [], p.entry.All P) ∧ (∀ e ∈ report.yields.getD [], e.All P) ∧
      ((∀ e ∈ report.returns.getD [], e.All P) ↔
        ∀ f ∈ fields, f.isCalled "returns" = true → ∀ item ∈ f.items, P item) := by
  rw [collect_eq, gather] at h
  split at h
  · cases h
  · rename_i hone
    obtain ⟨hreturned, hyielded⟩ := not_or.1 hone
    obtain rfl := Except.ok.inj h
    refine ⟨fun p hp => ?_, fun e he => ?_, fun hall f hf hcalled item hitem => ?_, fun hitems e he => ?_⟩
    · obtain ⟨f, -, hfp⟩ := List.mem_filterMap.1 hp
      exact Field.param?_all hP hfp
    · obtain ⟨es, hes, he⟩ := (mem_getD_head? hyielded).1 he
      obtain ⟨f, -, hfes⟩ := List.mem_filterMap.1 hes
      exact Field.yielded?_all hP hfes e he
    · have hes := Field.returned?_returns hcalled (List.ne_nil_of_mem hitem)
      refine (Field.returned?_all_iff hP hes).1 (fun e he => hall e ?_) hcalled item hitem
      exact (mem_getD_head? hreturned).2 ⟨_, List.mem_filterMap.2 ⟨f, hf, hes⟩, he⟩
    · obtain ⟨es, hes, he⟩ := (mem_getD_head? hreturned).1 he
      obtain ⟨f, hf, hfes⟩ := List.mem_filterMap.1 hes
      exact (Field.returned?_all_iff hP hfes).2 (hitems f hf) e he

end

/-! ### Docstrings with fields -/

/-- Is every item of a `returns` field of the docstring on one line? -/
def plainItems (markup : List Char → Reading) (doc : List Char) : Bool :=
  (markup (clean doc)).document.all fun d => (Field.ofDocument d).all fun f =>
    !f.isCalled "returns" || f.items.all fun item => !item.contains '\n'

theorem clear_iff {s : List Char} : Clear (· == '\n') s ↔ '\n' ∉ s := by
  constructor
  · intro h hc
    simpa using h _ hc
  · intro h c hc
    simpa using fun heq : c = '\n' => h (heq ▸ hc)

theorem readRest_of_read {markup : List Char → Reading} {doc : List Char} {ns ns' : List Notice}
    (h : (Format.rest.read markup doc).run.run ns = (.ok report, ns')) : (readRest markup doc).1 = .ok report := by
  unfold Format.read at h
  generalize readRest markup doc = reading at h ⊢
  obtain ⟨outcome, notices⟩ := reading
  obtain ⟨-, ns₁, -, h⟩ := run_bind_eq_ok h
  cases outcome with
  | ok r =>
    cases h
    rfl
  | error fault => cases fault <;> cases h

/-- The types of a docstring with fields hold no line feed, if the items of its lists hold none. -/
theorem parse_rest_clear {options : Options} {doc : List Char} {d : Documented} {ns ns' : List Notice}
    (hitems : plainItems options.markup doc = true) (h : (Format.rest.parse options doc).run.run ns = (.ok d, ns')) :
    d.Clear (· == '\n') := by
  refine parse_clear_of_read (by simp [isLineBreak]) (fun report ns ns' hread => ?_) h
  have hreport := readRest_of_read hread
  unfold readRest at hreport
  simp only at hreport
  split at hreport
  · cases hreport
  split at hreport
  · cases hreport
    exact ⟨by simp, by simp, by simp⟩
  · rename_i document hdocument
    rw [plainItems, hdocument, Option.all_some, List.all_eq_true] at hitems
    obtain ⟨hparams, hyields, hreturns⟩ :=
      collect_types (P := Clear (· == '\n')) (fun text => clear_iff.2 (isOneLine_oneLine text).unbroken) hreport
    refine ⟨hparams, hreturns.2 fun f hf hcalled item hitem => clear_iff.2 ?_, hyields⟩
    have hall := hitems f hf
    rw [hcalled, Bool.not_true, Bool.false_or, List.all_eq_true] at hall
    simpa using hall item hitem

end TypeComments.Docstring

namespace TypeComments.Signature
open Source Docstring
variable {defaults : Defaults} {file source : List Char} {tree : Tree} {c : Converted} {ms ms' : List Message}

/-- The types that a definition documents hold no line feed, if no item of a list in its docstring holds one. -/
theorem Definition.oneLine_of_plainItems {d : Definition} (h : ∀ text ∈ d.docText?,
    chooseFormat defaults.format text = .rest → plainItems defaults.markup text = true) : d.OneLine defaults := by
  intro types htypes
  refine Definition.types?_clear_of_parse (fun text htext documented hok => ?_) htypes
  have hparse : ((chooseFormat defaults.format text).parse defaults.options text).run.run [] = (.ok documented, _) :=
    Prod.ext hok rfl
  by_cases hrest : chooseFormat defaults.format text = .rest
  · rw [hrest] at hparse
    exact parse_rest_clear (h text htext hrest) hparse
  · exact parse_clear (by simp [isLineBreak]) hrest hparse

/-- In a report of fields, the types of parameters, of yielded values and of `rtype` fields are on one line; the types
of `returns` fields are if their items are. A conversion of a source in whose docstrings the items hold no line feed
writes each type comment on a line of its own, and leaves the tokens as they are. -/
theorem field_types_one_line (defaults : Defaults) (file source : List Char) (fields : List Field) :
    (∀ report, collect fields = .ok report →
      (∀ p ∈ report.params.getD [], p.entry.All IsOneLine) ∧ (∀ e ∈ report.yields.getD [], e.All IsOneLine) ∧
      ((∀ e ∈ report.returns.getD [], e.All IsOneLine) ↔
        ∀ f ∈ fields, f.isCalled "returns" = true → ∀ item ∈ f.items, IsOneLine item)) ∧
    ∀ tree c ms ms', read source = .ok tree → (convert defaults file source).run.run ms = (.ok c, ms') →
      defaults.Clear (· == '\n') →
      (∀ d, some d ∈ definitions tree → ∀ text ∈ d.docText?,
        chooseFormat defaults.format text = .rest → plainItems defaults.markup text = true) →
      (∀ d, some d ∈ definitions tree → ∀ before ∈ d.newBefore defaults, ∃ signature,
        before = d.blanks ++ "# type: ".toList ++ signature ++ ['\n'] ++
          (if isTypeComment d.before then [] else d.before) ∧ '\n' ∉ signature) ∧
      (scan c.text).fault = none ∧
      (scan c.text).tokens.map (fun t => (t.kind, t.text)) =
        (scan (completed source)).tokens.map fun t => (t.kind, t.text) := by
  refine ⟨fun report h => collect_types isOneLine_oneLine h, ?_⟩
  intro tree c ms ms' hread hrun hdefaults hitems
  obtain ⟨htext, hconverts⟩ := convert_ok hread hrun
  have honeLine : ∀ d, some d ∈ definitions tree → d.OneLine defaults := fun d hd =>
    Definition.oneLine_of_plainItems (hitems d hd)
  have he := retouch_editAll defaults tree
  have hscanned := read_retouched hread he fun t => editAll_idle hread hconverts honeLine hdefaults
  refine ⟨fun d hd before hbefore => ?_, ?_, ?_⟩
  · obtain ⟨types, htypes, signature, hline, hclear⟩ := Definition.newBefore_signature hbefore
    exact ⟨signature, hline, clear_iff.1 (hclear _ (by simp [isLineBreak]) hdefaults (honeLine d hd types htypes))⟩
  · rw [htext]
    exact hscanned.1
  · rw [htext]
    exact same_of_scanned he hscanned.2

def pairSource : List Char :=
  "def f():\n  \"\"\"\n  :returns:\n    * int\n    * str\n  \"\"\"\n".toList

theorem field_types_one_line_pair : ∃ document report tree c ms,
    (Markup.readDocument ":returns:\n  * int\n  * str".toList).document = some document ∧
    collect (Field.ofDocument document) = .ok report ∧ (∀ e ∈ report.returns.getD [], e.All IsOneLine) ∧
    read pairSource = .ok tree ∧ (convert {} [] pairSource).run.run [] = (.ok c, ms) ∧
    c.text = ("def f():\n  # type: () -> Tuple[int, str]\n" ++
      "  \"\"\"\n  :returns:\n    * int\n    * str\n  \"\"\"\n").toList ∧
    (scan c.text).tokens.map (fun t => (t.kind, t.text)) =
      (scan (completed pairSource)).tokens.map fun t => (t.kind, t.text) := by
  have hdocument : (Markup.readDocument ":returns:\n  * int\n  * str".toList).document.any (fun d =>
      (collect (Field.ofDocument d)).toOption.isSome && (Field.ofDocument d).all fun f =>
        !f.isCalled "returns" || f.items.all fun item => oneLine item == item) = true := by decide +kernel
  have htree : (read pairSource).toOption.map (fun tree => (definitions tree).all fun found => found.all fun d =>
      d.docText?.all fun text => chooseFormat none text == .rest && plainItems ({} : Defaults).markup text) =
        some true := by decide +kernel
  have htext : ((convert {} [] pairSource).run.run []).1.toOption.map Converted.text = some
      ("def f():\n  # type: () -> Tuple[int, str]\n" ++
        "  \"\"\"\n  :returns:\n    * int\n    * str\n  \"\"\"\n").toList := by decide +kernel
  have hdefaults : ({} : Defaults).Clear (· == '\n') := ⟨fun q hq => absurd hq List.not_mem_nil, by decide⟩
  obtain ⟨document, hdocument, hcheck⟩ := (Option.any_eq_true _ _).1 hdocument
  rw [Bool.and_eq_true, Option.isSome_iff_exists] at hcheck
  obtain ⟨⟨report, hreport⟩, hitems⟩ := hcheck
  have hcollect := eq_ok_of_toOption hreport
  obtain ⟨hfields, hconversion⟩ := field_types_one_line {} [] pairSource (Field.ofDocument document)
  have hreturns : ∀ e ∈ report.returns.getD [], e.All IsOneLine := by
    refine (hfields report hcollect).2.2.2 fun f hf hcalled item hitem => ?_
    have hall := List.all_eq_true.1 hitems f hf
    rw [hcalled, Bool.not_true, Bool.false_or, List.all_eq_true] at hall
    exact (beq_iff_eq.1 (hall item hitem)) ▸ isOneLine_oneLine item
  obtain ⟨tree, htree, hplain⟩ := Option.map_eq_some_iff.1 htree
  obtain ⟨c, hc, htext⟩ := Option.map_eq_some_iff.1 htext
  have hread := eq_ok_of_toOption htree
  obtain ⟨ms, hrun⟩ := run_eq_ok_of_toOption hc
  refine ⟨document, report, tree, c, ms, hdocument, hcollect, hreturns, hread, hrun, htext,
    (hconversion tree c [] ms hread hrun hdefaults fun d hd text hdoc _ => ?_).2.2⟩
  have hall := List.all_eq_true.1 hplain (some d) hd
  rw [Option.all_some, hdoc, Option.all_some, Bool.and_eq_true] at hall
  exact hall.2

/-- An item that goes on over a second line. -/
def brokenSource : List Char :=
  "def f():\n  \"\"\"\n  :returns:\n    * int\n      x = 1\n  \"\"\"\n".toList

/-- The second line of an item stands in the converted text as code. -/
theorem broken_item_becomes_code :
    ((convert {} [] brokenSource).run.run []).1.toOption.map (·.text) =
      some ("def f():\n  # type: () -> int\nx = 1\n" ++
        "  \"\"\"\n  :returns:\n    * int\n      x = 1\n  \"\"\"\n").toList := by
  decide +kernel

end TypeComments.Signature
