import TypeComments.Docstring.Rest
import Mathlib.Data.List.Basic

/-!
# What the fields of a docstring come to

A field bears a parameter, what is returned, what is yielded, or nothing, and its name and its content say which
(`Field.param?`, `Field.returned?`, `Field.yielded?`). Collecting goes over the fields once and stops at the second one
that bears a result of the same kind. So collecting is `gather` of all that the fields bear, taken one kind at a time
(`collect_eq`).
-/

namespace TypeComments.Docstring

open Markup

/-! ### What one field bears -/

namespace Field

/-- The field's name is the word `w` and nothing else. -/
def isCalled (f : Field) (w : String) : Bool :=
  blankSeparated f.name == [w.toList]

def bearsReturn (f : Field) : Bool :=
  (f.isCalled "rtype" && !f.paragraphs.isEmpty) || (f.isCalled "returns" && !f.items.isEmpty)

def bearsYield (f : Field) : Bool :=
  f.isCalled "Yields" && !f.paragraphs.isEmpty

/-- The parameter that the field documents. -/
def param? (f : Field) : Option Param :=
  match blankSeparated f.name, f.paragraphs with
  | [word, name], (text, line) :: _ =>
    if word = "type".toList then some ⟨some name, ⟨some (oneLine text), entryLine line⟩⟩ else none
  | _, _ => none

/-- What the field says is returned: one value for each item of a list, or the type in its first paragraph. -/
def returned? (f : Field) : Option (List Entry) :=
  if f.isCalled "returns" then
    if f.items.isEmpty then none else some (f.items.map fun text => ⟨some text, entryLine f.line⟩)
  else if f.isCalled "rtype" then f.entry?.map ([·])
  else none

/-- What the field says is yielded. -/
def yielded? (f : Field) : Option (List Entry) :=
  if f.isCalled "Yields" then f.entry?.map ([·]) else none

variable {f : Field} {w v : String} {text : List Char} {line : Option Nat} {rest : List (List Char × Option Nat)}

theorem isCalled_ne (h : f.isCalled w = true) (hne : w.toList ≠ v.toList) : f.isCalled v = false := by
  rw [isCalled, beq_iff_eq] at h
  simpa [isCalled, h] using hne

theorem entry?_isSome (f : Field) : f.entry?.isSome = !f.paragraphs.isEmpty := by
  cases h : f.paragraphs <;> simp [h, entry?]

theorem returned?_isSome (f : Field) : f.returned?.isSome = f.bearsReturn := by
  cases hreturns : f.isCalled "returns" with
  | true =>
    have hrtype := isCalled_ne (v := "rtype") hreturns (by decide)
    cases hitems : f.items.isEmpty <;> simp [returned?, bearsReturn, hreturns, hrtype, hitems]
  | false =>
    cases hrtype : f.isCalled "rtype" <;> simp [returned?, bearsReturn, hreturns, hrtype, entry?_isSome]

theorem yielded?_isSome (f : Field) : f.yielded?.isSome = f.bearsYield := by
  cases h : f.isCalled "Yields" <;> simp [yielded?, bearsYield, h, entry?_isSome]

theorem returned?_rtype (h : f.isCalled "rtype" = true) (hp : f.paragraphs = (text, line) :: rest) :
    f.returned? = some [⟨some (oneLine text), entryLine line⟩] := by
  simp [returned?, isCalled_ne (v := "returns") h (by decide), h, entry?, hp]

theorem returned?_returns (h : f.isCalled "returns" = true) (hitems : f.items ≠ []) :
    f.returned? = some (f.items.map fun text => ⟨some text, entryLine f.line⟩) := by
  simp [returned?, h, hitems]

theorem yielded?_yields (h : f.isCalled "Yields" = true) (hp : f.paragraphs = (text, line) :: rest) :
    f.yielded? = some [⟨some (oneLine text), entryLine line⟩] := by
  simp [yielded?, h, entry?, hp]

end Field

/-! ### Facts -/

namespace FieldFact

/-- The parameter of a fact about one. -/
@[simp] def param? : FieldFact → Option Param
  | .param name entry => some ⟨some name, entry⟩
  | .returns _ | .yields _ => none

/-- The entries of a fact about what is returned. -/
@[simp] def returned? : FieldFact → Option (List Entry)
  | .returns entries => some entries
  | .param _ _ | .yields _ => none

/-- The entries of a fact about what is yielded. -/
@[simp] def yielded? : FieldFact → Option (List Entry)
  | .yields entry => some [entry]
  | .param _ _ | .returns _ => none

end FieldFact

namespace Field

theorem fact?_param? (f : Field) : f.fact?.bind FieldFact.param? = f.param? := by
  rcases hw : blankSeparated f.name with - | ⟨word, - | ⟨name, - | ⟨third, more⟩⟩⟩
  · simp [fact?, param?, hw]
  · simp only [fact?, param?, hw]
    split_ifs <;> simp
  · cases hp : f.paragraphs with
    | nil => simp [fact?, param?, entry?, hw, hp]
    | cons p ps =>
      simp only [fact?, param?, entry?, hw, hp, beq_iff_eq]
      split_ifs <;> rfl
  · simp [fact?, param?, hw]

theorem fact?_returned? (f : Field) : f.fact?.bind FieldFact.returned? = f.returned? := by
  rcases hw : blankSeparated f.name with - | ⟨word, - | ⟨name, - | ⟨third, more⟩⟩⟩
  · simp [fact?, returned?, isCalled, hw]
  · simp only [fact?, returned?, isCalled, hw, beq_iff_eq, List.cons.injEq, and_true]
    split_ifs <;> cases f.entry? <;> rfl
  · simp only [fact?, returned?, isCalled, hw]
    split_ifs <;> cases f.entry? <;> simp_all
  · simp [fact?, returned?, isCalled, hw]

theorem fact?_yielded? (f : Field) : f.fact?.bind FieldFact.yielded? = f.yielded? := by
  rcases hw : blankSeparated f.name with - | ⟨word, - | ⟨name, - | ⟨third, more⟩⟩⟩
  · simp [fact?, yielded?, isCalled, hw]
  · simp only [fact?, yielded?, isCalled, hw, beq_iff_eq, List.cons.injEq, and_true]
    split_ifs <;> cases f.entry? <;> simp_all
  · simp only [fact?, yielded?, isCalled, hw]
    split_ifs <;> cases f.entry? <;> simp_all
  · simp [fact?, yielded?, isCalled, hw]

end Field

/-! ### The run -/

/-- The report of all that is said of parameters and of results, unless a result is said twice. -/
def gather (params : List Param) (returned yielded : List (List Entry)) : Except RestFault Report :=
  if 1 < returned.length ∨ 1 < yielded.length then .error .repeatedResult
  else .ok ⟨some params, returned.head?, yielded.head?⟩

theorem foldlM_add_eq (facts : List FieldFact) (ps : List Param) (rs ys : Option (List Entry)) :
    facts.foldlM Report.add ⟨some ps, rs, ys⟩ =
      gather (ps ++ facts.filterMap FieldFact.param?) (rs.toList ++ facts.filterMap FieldFact.returned?)
        (ys.toList ++ facts.filterMap FieldFact.yielded?) := by
  induction facts generalizing ps rs ys with
  | nil => cases rs <;> cases ys <;> simp [gather, pure, Except.pure]
  | cons fact facts ih =>
    rw [List.foldlM_cons]
    cases fact with
    | param name entry =>
      refine (ih (ps ++ [⟨some name, entry⟩]) rs ys).trans ?_
      simp [List.filterMap_cons]
    | returns entries =>
      cases rs with
      | none =>
        refine (ih ps (some entries) ys).trans ?_
        simp [List.filterMap_cons]
      | some held => simp [gather, Report.add, bind, Except.bind, List.filterMap_cons]
    | yields entry =>
      cases ys with
      | none =>
        refine (ih ps rs (some [entry])).trans ?_
        simp [List.filterMap_cons]
      | some held => simp [gather, Report.add, bind, Except.bind, List.filterMap_cons]

theorem collect_eq (fields : List Field) :
    collect fields = gather (fields.filterMap Field.param?) (fields.filterMap Field.returned?)
      (fields.filterMap Field.yielded?) := by
  rw [collect, foldlM_add_eq]
  simp only [List.filterMap_filterMap, Field.fact?_param?, Field.fact?_returned?, Field.fact?_yielded?, List.nil_append,
    Option.toList_none]

/-! ### Results -/

theorem length_filterMap_returned? (fields : List Field) :
    (fields.filterMap Field.returned?).length = fields.countP Field.bearsReturn := by
  rw [List.length_filterMap_eq_countP]
  exact List.countP_congr fun f _ => by rw [f.returned?_isSome]

theorem length_filterMap_yielded? (fields : List Field) :
    (fields.filterMap Field.yielded?).length = fields.countP Field.bearsYield := by
  rw [List.length_filterMap_eq_countP]
  exact List.countP_congr fun f _ => by rw [f.yielded?_isSome]

theorem collect_error_iff (fields : List Field) :
    collect fields = .error .repeatedResult ↔
      1 < fields.countP Field.bearsReturn ∨ 1 < fields.countP Field.bearsYield := by
  rw [collect_eq, gather, length_filterMap_returned?, length_filterMap_yielded?]
  split_ifs with h <;> simp [h]

/-- What one of a list says is said by all of it, if no other of the list says anything. -/
theorem head?_filterMap_of_le {bears : Field → Option (List Entry)} {fields : List Field}
    (hone : (fields.filterMap bears).length ≤ 1) {f : Field} {entries : List Entry} (hf : f ∈ fields)
    (h : bears f = some entries) : (fields.filterMap bears).head? = some entries := by
  have hmem : entries ∈ fields.filterMap bears := List.mem_filterMap.2 ⟨f, hf, h⟩
  obtain ⟨es, hes⟩ := List.length_eq_one_iff.1 (Nat.le_antisymm hone (List.length_pos_of_mem hmem))
  rw [hes, List.mem_singleton] at hmem
  rw [hes, hmem, List.head?_cons]

theorem head?_filterMap_eq_none {bears : Field → Option (List Entry)} {test : Field → Bool}
    (htest : ∀ f, (bears f).isSome = test f) {fields : List Field} :
    (fields.filterMap bears).head? = none ↔ ∀ f ∈ fields, test f = false := by
  simp [← htest]

/-- Fields come to an error exactly if two of them bear what is returned or two of them what is yielded. Otherwise they
come to all their parameters in order and to the result of the one field that bears it. A text with a severe problem
comes to nothing. -/
theorem fields_collected (fields : List Field) :
    (collect fields = .error .repeatedResult ↔
      1 < fields.countP Field.bearsReturn ∨ 1 < fields.countP Field.bearsYield) ∧
    (collect fields ≠ .error .repeatedResult → ∃ returns yields,
      collect fields = .ok ⟨some (fields.filterMap Field.param?), returns, yields⟩ ∧
      (returns = none ↔ ∀ f ∈ fields, f.bearsReturn = false) ∧
      (∀ f ∈ fields, ∀ text line more, f.isCalled "rtype" = true → f.paragraphs = (text, line) :: more →
        returns = some [⟨some (oneLine text), entryLine line⟩]) ∧
      (∀ f ∈ fields, f.isCalled "returns" = true → f.items ≠ [] →
        returns = some (f.items.map fun text => ⟨some text, entryLine f.line⟩)) ∧
      (yields = none ↔ ∀ f ∈ fields, f.bearsYield = false) ∧
      (∀ f ∈ fields, ∀ text line more, f.isCalled "Yields" = true → f.paragraphs = (text, line) :: more →
        yields = some [⟨some (oneLine text), entryLine line⟩])) ∧
    ∀ (markup : List Char → Reading) (doc : List Char), (noticesOf (markup doc).problems).2 = true →
      ((markup doc).document = none → (readRest markup doc).1 = .ok ⟨some [], none, none⟩) ∧
      ∀ d, (markup doc).document = some d → (readRest markup doc).1 = collect (Field.ofDocument d) := by
  refine ⟨collect_error_iff fields, fun hok => ?_, fun markup doc hplaced => ⟨fun hnone => ?_, fun d hd => ?_⟩⟩
  · obtain ⟨hr, hy⟩ := not_or.1 (mt (collect_error_iff fields).2 hok)
    rw [← length_filterMap_returned?, Nat.not_lt] at hr
    rw [← length_filterMap_yielded?, Nat.not_lt] at hy
    refine ⟨(fields.filterMap Field.returned?).head?, (fields.filterMap Field.yielded?).head?, ?_,
      head?_filterMap_eq_none Field.returned?_isSome, ?_, ?_, head?_filterMap_eq_none Field.yielded?_isSome, ?_⟩
    · rw [collect_eq, gather, if_neg (by omega)]
    · exact fun f hf text line more hcalled hp => head?_filterMap_of_le hr hf (Field.returned?_rtype hcalled hp)
    · exact fun f hf hcalled hitems => head?_filterMap_of_le hr hf (Field.returned?_returns hcalled hitems)
    · exact fun f hf text line more hcalled hp => head?_filterMap_of_le hy hf (Field.yielded?_yields hcalled hp)
  · simp [readRest, hplaced, hnone]
  · simp [readRest, hplaced, hd]

end TypeComments.Docstring
