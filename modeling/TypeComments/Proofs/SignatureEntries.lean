import TypeComments.Proofs.FieldLines
import TypeComments.Proofs.FunctionComments
import TypeComments.Proofs.ParameterLists

/-!
# The entries of a type comment

A type comment has one entry for each named parameter, in their order (`entries`): its stars and its type, which
is the documented one, else the default for its name, else `Any`. Only the first entry may be left out, that of an
untyped `self` or `cls` in a class (`argumentTypes_eq`). The comment that a conversion writes is the signature
of the parameters that are spelled in the header.
-/

namespace TypeComments.Source
variable {t : Token}

/-- With the blanks around it cut off, a name with the text in front of it is a word just if that text is blank. -/
theorem Token.Apt.trim_source_eq_iff (h : t.Apt) (hkind : t.kind = .name) {word : List Char}
    (hword : ∀ c ∈ word, isWord c = true) :
    trim t.source = word ↔ t.text = word ∧ t.before.all isBlank = true := by
  obtain ⟨⟨hne, hchars⟩, hgap⟩ := h.name hkind
  have htight : Tight t.text := by
    constructor
    · exact fun c hc => isBlank_of_isWord (hchars c (List.mem_of_mem_head? hc))
    · exact fun c hc => isBlank_of_isWord (hchars c (List.mem_of_getLast? hc))
  by_cases hblank : t.before.all isBlank = true
  · have htrim : trim t.source = t.text := by
      rw [Token.source, trim, trimBy, List.dropWhile_append_of_pos (List.all_eq_true.1 hblank)]
      exact htight.trim_eq
    rw [htrim]
    exact ⟨fun h => ⟨h, hblank⟩, And.left⟩
  · have hkept : t.before.dropWhile isBlank ≠ [] := by
      rw [Ne, List.dropWhile_eq_nil_iff, ← List.all_eq_true]
      exact hblank
    -- what is left of the text in front has a character that is in no word
    obtain ⟨c, hc, hnot⟩ := hgap.resolve_left hkept
    have htrim : trim t.source = t.before.dropWhile isBlank ++ t.text := by
      rw [Token.source, trim, trimBy, List.dropWhile_append, if_neg (by simpa using hkept)]
      refine Tight.trimRight_eq fun d hd => htight.last d ?_
      rwa [List.getLast?_append_of_ne_nil _ hne] at hd
    refine ⟨fun heq => ?_, fun h => absurd h.2 hblank⟩
    have hcword := hword c (by rw [← heq, htrim]; exact List.mem_append_left _ hc)
    rw [hnot] at hcword
    cases hcword

def Enclosing.isClass : Enclosing → Bool
  | .nothing => false
  | .oneLine | .body _ => true

end TypeComments.Source

namespace TypeComments.Signature
open Source

/-! ### Entries -/

/-- The type of a parameter: the documented one, else the default for its name, else `Any`. -/
def entryType (defaults : Defaults) (types : Types) (name : List Char) : List Char :=
  match types.params.lookup (some name), defaults.argTypes.lookup name with
  | some type, _ => type
  | none, some type => type
  | none, none => "Any".toList

/-- The entry of a parameter: its stars and its type without stars around it. -/
def entry (defaults : Defaults) (types : Types) (parameter : List Char × Stars) : List Char :=
  parameter.2.text ++ trimBy (· == '*') (entryType defaults types parameter.1)

/-- Is the first parameter called `self` or `cls`, with no type documented and no default? -/
def opensUntyped (defaults : Defaults) (types : Types) (parameters : List (List Char × Stars)) : Bool :=
  parameters.head?.any fun p => (p.1 == "self".toList || p.1 == "cls".toList) &&
    (types.params.lookup (some p.1)).isNone && (defaults.argTypes.lookup p.1).isNone

/-- The entries of the parameters of a function, which is in a class or not. -/
def entries (defaults : Defaults) (types : Types) (inClass : Bool) (parameters : List (List Char × Stars)) :
    List (List Char) :=
  (parameters.map (entry defaults types)).drop (if inClass && opensUntyped defaults types parameters then 1 else 0)

variable {defaults : Defaults} {types : Types}

theorem entry_of_undocumented {name : List Char} (h : types.params.lookup (some name) = none) (stars : Stars) :
    entry defaults types (name, stars) =
      stars.text ++ trimBy (· == '*') ((defaults.argTypes.lookup name).getD "Any".toList) := by
  rw [entry, entryType, h]
  cases defaults.argTypes.lookup name <;> rfl

theorem typeOr_argumentType? (name : List Char) :
    typeOr "Any".toList (argumentType? defaults types name) = entryType defaults types name := by
  unfold typeOr argumentType? entryType
  cases types.params.lookup (some name) with
  | some type => rfl
  | none => cases defaults.argTypes.lookup name <;> rfl

theorem isNone_argumentType? (name : List Char) : (argumentType? defaults types name).isNone =
    ((types.params.lookup (some name)).isNone && (defaults.argTypes.lookup name).isNone) := by
  unfold argumentType?
  cases types.params.lookup (some name) with
  | some type => rfl
  | none => rfl

/-- The entry of the parameter at a place, if it has one. -/
def entryAt? (defaults : Defaults) (types : Types) (isMethod : Bool) (p : (List Char × Stars) × Nat) :
    Option (List Char) :=
  if !isMethod || keepsArgument p.2 p.1.1 (argumentType? defaults types p.1.1) then
    some (p.1.2.text ++ trimBy (· == '*') (typeOr "Any".toList (argumentType? defaults types p.1.1)))
  else none

/-- From the second parameter on none is left out. -/
theorem entryAt?_succ (isMethod : Bool) (p : List Char × Stars) (n : Nat) :
    entryAt? defaults types isMethod (p, n + 1) = some (entry defaults types p) := by
  have hindex : (((n + 1 : Nat) : Int) == 0) = false := by
    rw [beq_eq_false_iff_ne]
    omega
  have hkeeps : keepsArgument ((n + 1 : Nat) : Int) p.1 (argumentType? defaults types p.1) = true := by
    rw [keepsArgument, hindex]
    rfl
  rw [entryAt?, hkeeps, Bool.or_true, if_pos rfl, typeOr_argumentType?]
  rfl

theorem filterMap_entryAt? (isMethod : Bool) (parameters : List (List Char × Stars)) (n : Nat) :
    (parameters.zipIdx (n + 1)).filterMap (entryAt? defaults types isMethod) = parameters.map (entry defaults types) := by
  induction parameters generalizing n with
  | nil => rfl
  | cons p parameters ih => rw [List.zipIdx_cons, List.filterMap_cons_some (entryAt?_succ isMethod p n), ih, List.map_cons]

theorem argumentTypes_eq (isMethod : Bool) (parameters : List (List Char × Stars)) :
    argumentTypes defaults types isMethod parameters = entries defaults types isMethod parameters := by
  have hplaces : argumentTypes defaults types isMethod parameters =
      parameters.zipIdx.filterMap (entryAt? defaults types isMethod) := rfl
  rw [hplaces, entries]
  cases parameters with
  | nil => simp
  | cons p parameters =>
    have hkeeps : keepsArgument ((0 : Nat) : Int) p.1 (argumentType? defaults types p.1) =
        !opensUntyped defaults types (p :: parameters) := by
      rw [keepsArgument, isNone_argumentType?, ← Bool.and_assoc]
      rfl
    rw [List.zipIdx_cons, List.filterMap_cons, filterMap_entryAt?, entryAt?, hkeeps, typeOr_argumentType?,
      ← Bool.not_and]
    cases isMethod && opensUntyped defaults types (p :: parameters) <;> rfl

/-! ### Signatures -/

/-- The type of the result: the documented one, else `None` for a constructor, else the default. Only a name with
nothing but blanks in front of it is taken for that of a constructor. -/
def resultType (defaults : Defaults) (types : Types) (f : Function) : List Char :=
  types.result.getD (if f.enclosing.isClass && f.nameToken.text == "__init__".toList && f.nameToken.before.all isBlank
    then "None".toList else defaults.returnType)

/-- The type comment of a function with these parameters. -/
def signature (defaults : Defaults) (types : Types) (f : Function) (parameters : List (List Char × Stars)) : List Char :=
  "# type: (".toList ++ List.intercalate ", ".toList (entries defaults types f.enclosing.isClass parameters) ++
    ") -> ".toList ++ resultType defaults types f ++ "\n".toList

section
variable {file : List Char} {f : Function} {s s' : Progress}

/-- Only a name with nothing but blanks in front of it is that of a constructor. -/
theorem name_beq_init (hapt : f.nameToken.Apt) (hkind : f.nameToken.kind = .name) : (f.name == "__init__".toList) =
    (f.nameToken.text == "__init__".toList && f.nameToken.before.all isBlank) := by
  have hword : ∀ c ∈ "__init__".toList, isWord c = true := List.all_eq_true.1 (by decide +kernel)
  rw [Bool.eq_iff_iff, Bool.and_eq_true, beq_iff_eq, beq_iff_eq]
  exact hapt.trim_source_eq_iff hkind hword

theorem resultType_eq (hapt : f.nameToken.Apt) (hkind : f.nameToken.kind = .name) :
    typeOr (defaultResult defaults f.enclosing.isClass f.name) types.result = resultType defaults types f := by
  rw [typeOr, defaultResult, name_beq_init hapt hkind, resultType, Bool.and_assoc]

theorem definition_isMethod (h : f.enclosing ≠ .oneLine) (b : Block) :
    (definition f b).isMethod = f.enclosing.isClass := by
  rw [definition]
  cases henc : f.enclosing with
  | nothing | body suite => rfl
  | oneLine => exact absurd henc h

/-- A function that gets a comment has a list of parameters, and a class around it has a body of its own. -/
theorem convertFunction_some {edit : Edit} (h : (convertFunction defaults file f).run.run s = (.ok (some edit), s')) :
    (∃ names, parameterNames? f.parameters = some names) ∧
      ∀ b, (definition f b).isMethod = f.enclosing.isClass := by
  obtain ⟨hclass, b, -, -, hnames⟩ := convertFunction_ok h
  exact ⟨hnames (by simp), definition_isMethod hclass⟩

/-- The comment written for a function without annotations and tuples in its header is the signature of the
parameters that are spelled there. -/
theorem comment_is_signature {source : List Char} {tree : Tree} {edit : Edit} (hread : read source = .ok tree)
    (hf : f ∈ tree.allFunctions) (hplain : f.Unannotated)
    (h : (convertFunction defaults file f).run.run s = (.ok (some edit), s')) :
    (∃ ps, Spells f.parameterParts ps) ∧
      ∃ d types, definition? f = some d ∧ d.types? defaults = some types ∧
        ∀ ps, Spells f.parameterParts ps →
          edit.before = d.blanks ++ signature defaults types f (ps.filterMap Parameter.named?) ++
            (if isTypeComment d.before then [] else d.before) := by
  obtain ⟨printWord, hstands⟩ := read_functionStands hread
  have hapt := read_apt hread
  obtain ⟨hkind, hname, -⟩ := (hstands f hf).header
  refine ⟨(hstands f hf).exists_spells hapt hplain, ?_⟩
  obtain ⟨b, hb⟩ := convertFunction_block h
  obtain ⟨⟨names, hnames⟩, hclass⟩ := convertFunction_some h
  have hedit := convertFunction_edit h
  rw [edit?, hb, Option.bind_some] at hedit
  obtain ⟨before, hnew, rfl⟩ := Option.map_eq_some_iff.1 hedit.symm
  obtain ⟨types, htypes, hwith⟩ := Definition.exists_types hnew
  refine ⟨definition f b, types, by rw [definition?, hb]; rfl, htypes, fun ps hps => ?_⟩
  -- the names are read off the parts one after the other, and the parts spell the parameters
  have hparameters : (definition f b).parameters = ps.filterMap Parameter.named? := by
    show (parameterNames? f.parameters).getD [] = _
    rw [hnames, Option.getD_some, parameterNames?_eq hnames, hps.namesInList]
  have hcomment : (definition f b).comment defaults types =
      signature defaults types f (ps.filterMap Parameter.named?) := by
    rw [Definition.comment, hparameters, hclass b, argumentTypes_eq]
    show typeComment _ (typeOr (defaultResult defaults f.enclosing.isClass f.name) types.result) = _
    rw [resultType_eq (hapt _ hname) hkind]
    rfl
  show before = _
  rw [withComment_eq hwith, hcomment]

end

/-- A constructor with a default, a bare star and starred keywords. -/
def starredConstructor : List Char :=
  "class A:\n def __init__(self, x=y, *, z, **k):\n  \"\"\"\n  Args:\n   k (int)\n  \"\"\"\n".toList

theorem comment_is_signature_constructor : ∃ tree f edit s, read starredConstructor = .ok tree ∧
    f ∈ tree.allFunctions ∧ f.Unannotated ∧ (convertFunction {} [] f).run.run ⟨tree, false, []⟩ = (.ok (some edit), s) ∧
    edit.before = "  # type: (Any, Any, **int) -> None\n".toList ∧
    (∃ ps, Spells f.parameterParts ps) ∧
      ∃ d types, definition? f = some d ∧ d.types? {} = some types ∧
        ∀ ps, Spells f.parameterParts ps →
          edit.before = d.blanks ++ signature {} types f (ps.filterMap Parameter.named?) ++
            (if isTypeComment d.before then [] else d.before) := by
  have hcheck : (read starredConstructor).toOption.map (fun tree => tree.allFunctions.map fun f =>
      (decide f.Unannotated, ((convertFunction {} [] f).run.run ⟨tree, false, []⟩).1.toOption.map (·.map Edit.before))) =
        some [(true, some (some "  # type: (Any, Any, **int) -> None\n".toList))] := by decide +kernel
  obtain ⟨tree, htree, hfunctions⟩ := Option.map_eq_some_iff.1 hcheck
  have hread := eq_ok_of_toOption htree
  obtain ⟨f, hf, hvalues⟩ := List.map_eq_singleton_iff.1 hfunctions
  obtain ⟨hplain, hedit⟩ := Prod.mk.inj hvalues
  have hmem : f ∈ tree.allFunctions := by rw [hf]; exact .head _
  obtain ⟨found, hfound, hsome⟩ := Option.map_eq_some_iff.1 hedit
  obtain ⟨edit, rfl, hbefore⟩ := Option.map_eq_some_iff.1 hsome
  obtain ⟨s, hrun⟩ := run_eq_ok_of_toOption hfound
  have happly := comment_is_signature hread hmem (of_decide_eq_true hplain) hrun
  exact ⟨tree, f, edit, s, hread, hmem, of_decide_eq_true hplain, hrun, hbefore, happly⟩

/-- A constructor with a line continuation in front of its name gets the default result. -/
theorem continued_constructor_result :
    (read "class A:\n def \\\n __init__(self, x):\n  \"\"\"\n  Args:\n   x (int)\n  \"\"\"\n".toList).toOption.map
      (fun tree => tree.allFunctions.map fun f => (f.nameToken.text, f.enclosing.isClass,
        ((convertFunction {} [] f).run.run ⟨tree, false, []⟩).1.toOption.map (·.map Edit.before))) =
      some [("__init__".toList, true, some (some "  # type: (int) -> Any\n".toList))] := by
  decide +kernel

end TypeComments.Signature
