import TypeComments.Proofs.FunctionBodies
import TypeComments.Proofs.SignatureEntries
import TypeComments.Proofs.VisitOrder

/-!
# When a function cannot be converted

The conversion of a function takes its docstring, or that of its class, reads the types in it and lists the parameters,
and each step can fail. With docstrings that can be read two faults are left: a body on the line of its header, and a
parameter that is no name in a function with documented types (`convertFunction_run`). A visit changes the tree in place
and does so last, so a visit that fails leaves the tree as it is.
-/

namespace TypeComments.Signature
open Source Docstring

variable {defaults : Defaults} {file : List Char} {f : Function} {b : Block}

/-! ### The docstring of a function -/

/-- The text of a literal that is no byte string. -/
def text? : Literal → Option (List Char)
  | .text text => some text
  | .bytes _ => none

/-- Is the string that the block starts with a text, if there is one? -/
def readsText (b : Block) : Bool :=
  b.docToken.all fun t => (literalValue t.text).toOption.any fun value => (text? value).isSome

/-- The text of the docstring of a block. -/
def blockDoc? (b : Block) : Option (List Char) :=
  (docLiteral? b).bind text?

/-- Is the function a constructor by its name? Only a name with nothing but blanks in front of it is. -/
def isConstructor (f : Function) : Bool :=
  f.nameToken.text == "__init__".toList && f.nameToken.before.all isBlank

/-- The block whose docstring documents a function: its body or, if that has none and it is a constructor, the body of
its class. -/
def docBlock? (f : Function) : Option Block :=
  f.body.block?.bind fun b =>
    if b.docToken.isSome then some b else if isConstructor f then classBlock? f.enclosing else none

def usedDoc? (f : Function) : Option (List Char) :=
  (docBlock? f).bind blockDoc?

def hasType (d : Documented) : Bool :=
  d.params.any (fun p => p.entry.type.any (!·.isEmpty)) || d.result.any fun e => e.type.any (!·.isEmpty)

def documented? (defaults : Defaults) (doc : List Char) : Option Documented :=
  ((parseDocstring none defaults.format defaults.options doc).run.run []).1.toOption

def documentsType (defaults : Defaults) (doc : List Char) : Bool :=
  !doc.isEmpty && (documented? defaults doc).any hasType

/-- The docstring that documents the function is a text that can be read. -/
structure Readable (defaults : Defaults) (f : Function) : Prop where
  text : ∀ b ∈ docBlock? f, readsText b = true
  parsed : ∀ doc ∈ usedDoc? f, doc ≠ [] → (documented? defaults doc).isSome = true

instance (defaults : Defaults) (f : Function) : Decidable (Readable defaults f) :=
  decidable_of_iff ((docBlock? f).all readsText = true ∧
      (usedDoc? f).all (fun doc => doc.isEmpty || (documented? defaults doc).isSome) = true) <| by
    rw [Option.all_eq_true, Option.all_eq_true]
    simp only [Bool.or_eq_true, List.isEmpty_iff, or_iff_not_imp_left]
    exact ⟨fun h => ⟨h.1, h.2⟩, fun h => ⟨h.text, h.parsed⟩⟩

theorem exists_text (h : readsText b = true) {t : Token} (ht : b.docToken = some t) :
    ∃ text, literalValue t.text = .ok (.text text) := by
  rw [readsText, ht, Option.all_some, Option.any_eq_true] at h
  obtain ⟨value, hvalue, htext⟩ := h
  cases hlit : literalValue t.text with
  | error fault =>
    rw [hlit] at hvalue
    cases hvalue
  | ok value' =>
    rw [hlit] at hvalue
    cases hvalue
    cases value with
    | text text => exact ⟨text, rfl⟩
    | bytes bs => cases htext

theorem docstring_of_readsText (h : readsText b = true) :
    ∃ doc : Option DocText, b.docstring = .ok doc ∧ doc.isSome = b.docToken.isSome ∧
      doc.map (·.value) = (blockDoc? b).map .text := by
  cases ht : b.docToken with
  | none => exact ⟨none, by simp [Block.docstring, ht], rfl, by simp [blockDoc?, docLiteral?, Block.docstring, ht]⟩
  | some t =>
    obtain ⟨text, htext⟩ := exists_text h ht
    exact ⟨some ⟨.text text, t.line⟩, by simp [Block.docstring, ht, htext, Except.map], rfl,
      by simp [blockDoc?, docLiteral?, Block.docstring, ht, htext, Except.map, text?]⟩

theorem isEmpty_ofDocumented (d : Documented) : (Types.ofDocumented d).isEmpty = !hasType d := by
  have hparams : (Types.ofDocumented d).params.isEmpty = !d.params.any fun p => p.entry.type.any (!·.isEmpty) := by
    rw [Bool.eq_iff_iff, List.isEmpty_iff]
    simp only [Types.ofDocumented, List.filterMap_eq_nil_iff, Bool.not_eq_true', List.any_eq_false]
    refine forall₂_congr fun p _ => ?_
    cases p.entry.type with
    | none => simp
    | some type => cases type <;> simp
  have hresult : (Types.ofDocumented d).result.all List.isEmpty = !d.result.any fun e => e.type.any (!·.isEmpty) := by
    simp only [Types.ofDocumented]
    cases d.result with
    | none => rfl
    | some e => cases htype : e.type <;> simp [htype]
  rw [Types.isEmpty, hparams, hresult, hasType, Bool.not_or]

/-- A docstring documents a type just if the conversion finds types in it. -/
theorem isEmpty_literalTypes (doc : List Char) :
    (literalTypes defaults (.text doc)).isEmpty = !documentsType defaults doc := by
  cases doc with
  | nil => rfl
  | cons c doc =>
    simp only [literalTypes, documentsType, documented?]
    cases ((parseDocstring none defaults.format defaults.options (c :: doc)).run.run []).1 with
    | error fault => rfl
    | ok d => exact isEmpty_ofDocumented d

/-! ### A run of the conversion -/

theorem docstringOf_run (h : readsText b = true) (s : Progress) : ∃ doc : Option DocText,
    (docstringOf b).run.run s = (.ok doc, s) ∧ doc.isSome = b.docToken.isSome ∧
      doc.map (·.value) = (blockDoc? b).map .text := by
  obtain ⟨doc, hdoc, hsome, hvalue⟩ := docstring_of_readsText h
  exact ⟨doc, by rw [docstringOf, hdoc]; rfl, hsome, hvalue⟩

theorem documentation_run (h : Readable defaults f) (hname : (f.name == "__init__".toList) = isConstructor f)
    (hb : f.body.block? = some b) {own : Option DocText} (hsome : own.isSome = b.docToken.isSome)
    (hown : own.map (·.value) = (blockDoc? b).map .text) (s : Progress) : ∃ doc : Option DocText,
      (documentation f own).run.run s = (.ok doc, s) ∧ doc.map (·.value) = (usedDoc? f).map .text := by
  have hblock : docBlock? f = if b.docToken.isSome then some b
      else if isConstructor f then classBlock? f.enclosing else none := by
    rw [docBlock?, hb, Option.bind_some]
  cases own with
  | some own =>
    refine ⟨some own, rfl, ?_⟩
    have htoken : b.docToken.isSome = true := hsome.symm
    rw [usedDoc?, hblock, if_pos htoken]
    exact hown
  | none =>
    have hnone : ¬ b.docToken.isSome = true := by simp [← hsome]
    rw [if_neg hnone] at hblock
    have hnothing (hblock : docBlock? f = none) : Option.map (·.value) (none : Option DocText) = (usedDoc? f).map .text := by
      rw [usedDoc?, hblock]
      rfl
    unfold documentation
    cases henc : f.enclosing with
    | nothing | oneLine =>
      refine ⟨none, rfl, hnothing ?_⟩
      rw [hblock, henc]
      exact ite_self _
    | body suite =>
      rw [henc] at hblock
      simp only [hname]
      cases hinit : isConstructor f with
      | false =>
        rw [hinit] at hblock
        exact ⟨none, rfl, hnothing hblock⟩
      | true =>
        rw [hinit, if_pos rfl] at hblock
        cases hsuite : suite.block? with
        | none => exact ⟨none, by simp only [if_true]; rfl, hnothing (hblock.trans hsuite)⟩
        | some block =>
          have hused : docBlock? f = some block := hblock.trans hsuite
          obtain ⟨doc, hrun, -, hvalue⟩ := docstringOf_run (h.text block hused) s
          exact ⟨doc, by simpa using hrun, by rw [usedDoc?, hused]; exact hvalue⟩

theorem readTypes_run {doc : DocText} {text : List Char} (hvalue : doc.value = .text text)
    (hparsed : text ≠ [] → (documented? defaults text).isSome = true) (s : Progress) :
    ∃ s', (readTypes defaults file doc).run.run s = (.ok (literalTypes defaults (.text text)), s') := by
  unfold readTypes
  rw [hvalue]
  cases text with
  | nil => exact ⟨s, rfl⟩
  | cons c text =>
    have hsome := hparsed (by simp)
    simp only [documented?, literalTypes] at hsome ⊢
    revert hsome
    generalize (parseDocstring none defaults.format defaults.options (c :: text)).run.run [] = parsed
    obtain ⟨outcome, notices⟩ := parsed
    intro hsome
    cases outcome with
    | error fault => cases hsome
    | ok d => exact ⟨_, rfl⟩

theorem standsInClass_run (h : f.enclosing ≠ .oneLine) (s : Progress) :
    (standsInClass f.enclosing).run.run s = (.ok f.enclosing.isClass, s) := by
  cases henc : f.enclosing with
  | nothing | body suite => rfl
  | oneLine => exact absurd henc h

theorem convertFunction_inline (hclass : f.enclosing ≠ .oneLine) (hb : f.body.block? = none) (s : Progress) :
    (convertFunction defaults file f).run.run s = (.error .inlineBody, s) := by
  unfold convertFunction
  rw [run_bind_of_ok (standsInClass_run hclass s), hb]
  rfl

/-- The docstring of a function documents a type, and the function is not left alone. -/
def wantsComment (defaults : Defaults) (f : Function) (b : Block) : Bool :=
  !isOptOut b.indent.before && (usedDoc? f).any (documentsType defaults)

/-- With a docstring that can be read the conversion of a function with a block of its own fails just if a comment is
wanted and the parameters are no list of names. -/
theorem convertFunction_run (hclass : f.enclosing ≠ .oneLine)
    (hname : (f.name == "__init__".toList) = isConstructor f) (h : Readable defaults f) (hb : f.body.block? = some b)
    (s : Progress) : ∃ s', (convertFunction defaults file f).run.run s =
      (if wantsComment defaults f b && (parameterNames? f.parameters).isNone then
        .error (.parameters ((f.parameters.map Tree.source).getD [])) else .ok (edit? defaults f), s') := by
  -- what a run that ends well gives is known, so it is enough to see how it ends
  suffices hends : ∃ s', (convertFunction defaults file f).run.run s =
        (.error (.parameters ((f.parameters.map Tree.source).getD [])), s') ∧
        (wantsComment defaults f b && (parameterNames? f.parameters).isNone) = true ∨
      (∃ e, (convertFunction defaults file f).run.run s = (.ok e, s')) ∧
        (wantsComment defaults f b && (parameterNames? f.parameters).isNone) = false by
    obtain ⟨s', ⟨hrun, hcond⟩ | ⟨⟨e, hrun⟩, hcond⟩⟩ := hends
    · exact ⟨s', by rw [hrun, if_pos hcond]⟩
    · exact ⟨s', by rw [hrun, convertFunction_edit hrun, hcond]; rfl⟩
  have hreads : readsText b = true := by
    cases ht : b.docToken with
    | none => rw [readsText, ht, Option.all_none]
    | some t => exact h.text b (by rw [docBlock?, hb, Option.bind_some, ht]; rfl)
  obtain ⟨own, hown, hsome, hvalue⟩ := docstringOf_run hreads s
  unfold convertFunction
  simp only [run_bind_of_ok (standsInClass_run hclass s), hb, run_bind_of_ok hown, wantsComment]
  cases hopt : isOptOut b.indent.before with
  | true => exact ⟨s, .inr ⟨⟨none, rfl⟩, rfl⟩⟩
  | false =>
    obtain ⟨doc, hdoc, hused⟩ := documentation_run h hname hb hsome hvalue s
    simp only [Bool.false_eq_true, if_false, run_bind_of_ok hdoc]
    cases doc with
    | none =>
      have hnone : usedDoc? f = none := by simpa using hused.symm
      exact ⟨s, .inr ⟨⟨none, rfl⟩, by rw [hnone]; rfl⟩⟩
    | some doc =>
      obtain ⟨text, htext, hvalue⟩ := Option.map_eq_some_iff.1 hused.symm
      obtain ⟨s₁, htypes⟩ : ∃ s₁, (readTypes defaults file doc).run.run s =
          (.ok (literalTypes defaults (.text text)), s₁) := readTypes_run hvalue.symm (h.parsed text htext) s
      simp only [run_bind_of_ok htypes, isEmpty_literalTypes, htext, Option.any_some]
      cases documentsType defaults text with
      | false => exact ⟨s₁, .inr ⟨⟨none, rfl⟩, rfl⟩⟩
      | true =>
        cases hnames : parameterNames? f.parameters with
        | none =>
          have hcomment : (commentFor defaults (literalTypes defaults (.text text)) f.enclosing.isClass f).run.run s₁ =
              (.error (.parameters ((f.parameters.map Tree.source).getD [])), s₁) := by
            unfold commentFor
            rw [hnames]
            rfl
          exact ⟨s₁, .inl ⟨run_bind_of_error hcomment, rfl⟩⟩
        | some names =>
          obtain ⟨comment, hcomment⟩ : ∃ comment, (commentFor defaults (literalTypes defaults (.text text))
              f.enclosing.isClass f).run.run s₁ = (.ok comment, s₁) := by
            unfold commentFor
            rw [hnames]
            exact ⟨_, rfl⟩
          exact ⟨s₁, .inr ⟨⟨_, run_bind_of_ok hcomment⟩, rfl⟩⟩

/-! ### Visits -/

section
variable {s s₁ : Progress} {place : Nat} (hf : s.tree.allFunctions[place]? = some f)
include hf

/-- A visit that finds no edit for its function writes messages at most. -/
theorem visitAt_error {fault : Fault} (h : (convertFunction defaults file f).run.run s = (.error fault, s₁)) :
    ∃ said, (visitAt defaults file place).run.run s = (.error fault, { s with messages := s.messages ++ said }) := by
  obtain ⟨said, rfl⟩ := (convertFunction_onlySays defaults file f).run h
  exact ⟨said, (visitAt_run hf h).trans (Prod.ext rfl (Progress.edited_none _))⟩

theorem visitAt_edit {edit : Option Edit} (h : (convertFunction defaults file f).run.run s = (.ok edit, s₁)) :
    ∃ said, (visitAt defaults file place).run.run s =
      (.ok (), ⟨s.tree.mapTokens (editToken edit.toList), s.changed || edit.isSome, s.messages ++ said⟩) := by
  obtain ⟨said, rfl⟩ := (convertFunction_onlySays defaults file f).run h
  exact ⟨said, visitAt_run hf h⟩

end

theorem wantsComment_iff (hb : f.body.block? = some b) : wantsComment defaults f b = true ↔
    (∃ opening, f.opening? = some opening ∧ trim opening.before ≠ "# notype".toList) ∧
      ∃ doc, usedDoc? f = some doc ∧ documentsType defaults doc = true := by
  rw [wantsComment, Bool.and_eq_true, Option.any_eq_true, Function.opening?_of_block hb]
  simp [isOptOut]

/-- When a visit of a function of a text fails, given a docstring that can be read: if the body stands on the line of
the header, or if a type is documented, the function is not left alone and its parameters are one that is no name. It
fails in no other way, and what fails changes nothing. A visit that does not fail makes the edit of the function. -/
theorem visit_fails_iff {source : List Char} {tree : Tree} {place : Nat} (hread : read source = .ok tree)
    (hf : tree.allFunctions[place]? = some f) (h : Readable defaults f) (changed : Bool) (ms : List Message) :
    ∃ outcome tree' changed' said,
      (visitAt defaults file place).run.run ⟨tree, changed, ms⟩ = (outcome, ⟨tree', changed', ms ++ said⟩) ∧
      (f.standsBelow = true ↔ ∃ opening, f.opening? = some opening) ∧
      (outcome = .error .inlineBody ↔ f.standsBelow = false) ∧
      (∀ text, outcome = .error (.parameters text) ↔
        (∃ opening, f.opening? = some opening ∧ trim opening.before ≠ "# notype".toList) ∧
        (∃ doc, usedDoc? f = some doc ∧ documentsType defaults doc = true) ∧
        f.hasLoneParameter = true ∧ f.parameters.map Tree.source = some text) ∧
      (∀ fault, outcome = .error fault →
        (fault = .inlineBody ∨ ∃ text, fault = .parameters text) ∧ tree' = tree ∧ changed' = changed) ∧
      (outcome = .ok () → tree' = tree.mapTokens (editToken (edit? defaults f).toList)) := by
  have hmem := List.mem_of_getElem? hf
  obtain ⟨printWord, hstands⟩ := read_functionStands hread
  have hclass := read_enclosing hread hmem
  obtain ⟨hkind, hname, -⟩ := (hstands f hmem).header
  have hbelow := (hstands f hmem).block?_isSome
  have hlone := (hstands f hmem).parameterNames?_eq_none
  cases hb : f.body.block? with
  | none =>
    have hopening : f.opening? = none := by rw [Function.opening?, Tree.opening?, hb, Option.map_none]
    rw [hb, Option.isSome_none] at hbelow
    have hinline : (convertFunction defaults file f).run.run ⟨tree, changed, ms⟩ = _ := convertFunction_inline hclass hb _
    obtain ⟨said, hvisit⟩ := visitAt_error hf hinline
    refine ⟨_, tree, changed, said, hvisit, by simp [← hbelow, hopening], by simp [← hbelow],
      fun text => by simp [hopening], fun fault hfault => ⟨?_, rfl, rfl⟩, fun hok => by cases hok⟩
    cases hfault
    exact .inl rfl
  | some b =>
    have hopening := Function.opening?_of_block hb
    rw [hb, Option.isSome_some] at hbelow
    obtain ⟨s, hrun⟩ : ∃ s, (convertFunction defaults file f).run.run ⟨tree, changed, ms⟩ = _ :=
      convertFunction_run hclass (name_beq_init (read_apt hread _ hname) hkind) h hb ⟨tree, changed, ms⟩
    cases hfails : wantsComment defaults f b && (parameterNames? f.parameters).isNone with
    | true =>
      rw [hfails, if_pos rfl] at hrun
      obtain ⟨said, hvisit⟩ := visitAt_error hf hrun
      rw [Bool.and_eq_true, Option.isNone_iff_eq_none] at hfails
      obtain ⟨inside, hinside⟩ : ∃ inside, f.parameters = some inside := by
        cases hp : f.parameters with
        | none => simp [hp, parameterNames?] at hfails
        | some inside => exact ⟨inside, rfl⟩
      refine ⟨_, tree, changed, said, hvisit, by simp [← hbelow, hopening], by simp [← hbelow],
        fun text => ?_, fun fault hfault => ⟨?_, rfl, rfl⟩, fun hok => by cases hok⟩
      · rw [← and_assoc, ← wantsComment_iff hb, ← hlone]
        simp only [hfails, true_and]
        simp [hinside]
      · cases hfault
        exact .inr ⟨_, rfl⟩
    | false =>
      rw [hfails, if_neg Bool.false_ne_true] at hrun
      obtain ⟨said, hvisit⟩ := visitAt_edit hf hrun
      refine ⟨_, _, _, said, hvisit, by simp [← hbelow, hopening], by simp [← hbelow],
        fun text => ?_, fun fault hfault => (by cases hfault), fun _ => rfl⟩
      rw [← and_assoc, ← wantsComment_iff hb, ← hlone]
      constructor
      · intro hfault
        cases hfault
      · rintro ⟨hwants, hnames, -⟩
        rw [hwants, hnames] at hfails
        cases hfails

/-- A constructor with one annotated parameter, documented by its class. -/
def annotatedConstructor : List Char :=
  "class A:\n  \"\"\"\n  Args:\n    x (int)\n  \"\"\"\n  def __init__(x: int):\n    pass\n".toList

theorem visit_fails_iff_annotated : ∃ tree f ms, read annotatedConstructor = .ok tree ∧
    tree.allFunctions[0]? = some f ∧ Readable {} f ∧
    (visitAt {} [] 0).run.run ⟨tree, false, []⟩ = (.error (.parameters "x: int".toList), ⟨tree, false, ms⟩) := by
  have hcheck : (read annotatedConstructor).toOption.any (fun tree => tree.allFunctions[0]?.any fun f =>
      decide (Readable {} f) && f.opening?.any (fun t => trim t.before != "# notype".toList) &&
        (usedDoc? f).any (documentsType {}) && f.hasLoneParameter &&
        f.parameters.map Tree.source == some "x: int".toList) = true := by decide +kernel
  obtain ⟨tree, htree, hcheck⟩ := (Option.any_eq_true _ _).1 hcheck
  obtain ⟨f, hf, hcheck⟩ := (Option.any_eq_true _ _).1 hcheck
  simp only [Bool.and_eq_true, decide_eq_true_eq, beq_iff_eq, bne_iff_ne, Option.any_eq_true] at hcheck
  obtain ⟨⟨⟨⟨hreadable, hopening⟩, hdoc⟩, hlone⟩, hsource⟩ := hcheck
  have hread : read annotatedConstructor = .ok tree := eq_ok_of_toOption htree
  obtain ⟨outcome, tree', changed', said, hvisit, -, -, hparameters, hfault, -⟩ :=
    visit_fails_iff hread hf hreadable false []
  have houtcome := (hparameters _).2 ⟨hopening, hdoc, hlone, hsource⟩
  obtain ⟨-, rfl, rfl⟩ := hfault _ houtcome
  exact ⟨tree', f, said, hread, hf, hreadable, by rw [hvisit, houtcome, List.nil_append]⟩

/-- A constructor with a line continuation in front of its name is not taken for one, so the docstring of its class is
not used and its annotated parameter passes. -/
theorem continued_constructor_passes :
    (read ("class A:\n  \"\"\"\n  Args:\n    x (int)\n  \"\"\"\n  def \\\n  __init__(x: int):\n    pass\n".toList)).toOption.map
      (fun tree => tree.allFunctions.map fun f => (f.nameToken.text, f.hasLoneParameter,
        ((classBlock? f.enclosing).bind blockDoc?).any (documentsType {}), (usedDoc? f).isNone,
        ((visitAt {} [] 0).run.run ⟨tree, false, []⟩).1.toOption.isSome)) =
      some [("__init__".toList, true, true, true, true)] := by
  decide +kernel

end TypeComments.Signature
