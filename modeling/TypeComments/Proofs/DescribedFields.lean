import TypeComments.Proofs.FieldBlocks
import TypeComments.Proofs.FieldLines

/-!
# Described fields are read back

A section of parameters is written field by field: the line of the field, and below it any text that is indented
deeper. Read in its style, it documents these fields in order, each with its name, its type and the number of its line
(`numpy_fields_documented`, `google_fields_documented`), whatever their descriptions look like. The line of a field is
cut at the colon after its name or type, since no cross-reference starts in front of a blank.
-/

namespace TypeComments.Docstring
variable {k : Nat}

/-- The parts of a field at indentation `k` that are the same in both styles: the blanks in front of it, its name, and
the lines of its description, blank or indented deeper. -/
structure FieldText (k : Nat) where
  pad : List Char
  name : List Char
  body : List (List Char)
  pad_blank : pad.all isBlank = true
  pad_length : pad.length = k
  isName : IsName name
  deeper : ∀ l ∈ body, l.all isBlank = true ∨ k < indentOf l

namespace FieldText

theorem isBlank_pad (f : FieldText k) : ∀ c ∈ f.pad, isBlank c = true :=
  List.all_eq_true.1 f.pad_blank

theorem filled (f : FieldText k) (t : List Char) : (f.pad ++ (f.name ++ t)).all isBlank = false := by
  obtain ⟨c, u, hname⟩ := List.exists_cons_of_ne_nil f.isName.ne_nil
  have hc : isBlank c = false := f.isName.notBlank c (by simp [hname])
  simp [hname, hc]

theorem indentOf_eq (f : FieldText k) (t : List Char) : indentOf (f.pad ++ (f.name ++ t)) = k := by
  obtain ⟨c, u, hname⟩ := List.exists_cons_of_ne_nil f.isName.ne_nil
  have hc : isBlank c = false := f.isName.notBlank c (by simp [hname])
  rw [indentOf, List.takeWhile_append_of_pos f.isBlank_pad, List.length_append, f.pad_length, hname, List.cons_append,
    List.takeWhile_cons_of_neg (by simp [hc])]
  rfl

theorem head_ne_point (f : FieldText k) (t : List Char) : (f.pad ++ (f.name ++ t)).head? ≠ some '.' := by
  intro hhead
  cases hpad : f.pad with
  | nil =>
    have hname := f.isName.head_ne (d := '.') (by decide)
    obtain ⟨c, u, hcons⟩ := List.exists_cons_of_ne_nil f.isName.ne_nil
    rw [hpad, hcons] at hhead
    exact hname (hcons ▸ hhead)
  | cons c u =>
    rw [hpad] at hhead
    obtain rfl : c = '.' := Option.some.inj hhead
    exact absurd (f.isBlank_pad '.' (by simp [hpad])) (by decide)

end FieldText

/-! ### Reports of blocks -/

/-- If the first line of each block says its name and type, then the parameters are these, block by block. -/
theorem filter_blockHeads {α : Type} {style : Style} {block : α → FieldBlock} {name : α → List Char}
    {type : α → Option (List Char)} (hname : ∀ a, name a ≠ [])
    (hfield : ∀ a n, Read.fieldOf style true false (Line.ofIndexed (n, (block a).head)) =
      ⟨some (name a), ⟨type a, some ((n + 2 : Nat) : Int)⟩⟩) (n : Nat) (as : List α) :
    ((blockHeads n (as.map block)).map (Read.fieldOf style true false)).filter Read.isMeaningful =
      as.mapIdx fun i a => ⟨some (name a), ⟨type a,
        some ((n + ((as.take i).flatMap fun a => (block a).lines).length + 2 : Nat) : Int)⟩⟩ := by
  induction as generalizing n with
  | nil => rfl
  | cons a as ih =>
    have hkept : Read.isMeaningful ⟨some (name a), ⟨type a, some ((n + 2 : Nat) : Int)⟩⟩ = true := by
      simp [Read.isMeaningful, hname a]
    rw [List.map_cons, blockHeads_cons, List.map_cons, hfield, List.filter_cons_of_pos hkept, ih, List.mapIdx_cons]
    simp [Nat.add_assoc]

theorem report_numpy_blocks {H U : List Char} {bs : List FieldBlock}
    (hkind : sectionKind? (lower (trimRight H)) = some .params) (hU : isUnderline (trimRight U) = true)
    (h : ∀ b ∈ bs, Scope.Owns ⟨.numpy, Style.numpy.directives, true, k⟩ k b) :
    Style.numpy.report (numberedFrom 0 (H :: U :: bs.flatMap FieldBlock.lines)) =
      ⟨some (((blockHeads 2 bs).map (Read.fieldOf .numpy true false)).filter Read.isMeaningful), none, none⟩ := by
  have hkind' : sectionKind? (lower (Line.ofIndexed (0, H)).text) = some .params := hkind
  have hU' : isUnderline (Line.ofIndexed (0 + 1, U)).text = true := hU
  refine report_section (.params _) (isEmpty_of_kind hkind') ?_
  rw [numberedFrom, turn_numpy hkind' hU', Scope.found_params hkind']
  cases bs with
  | nil =>
    rw [List.flatMap_nil, numberedFrom, Scope.params, List.dropWhile_nil, Scope.fields_nil]
    rfl
  | cons b bs => rw [Scope.indentAhead_blocks h (by simp), Scope.params_blocks h]

theorem report_google_blocks {H : List Char} {bs : List FieldBlock}
    (hcolon : isColonHeading (lower (trimRight H)) = true)
    (hkind : sectionKind? (lower (trimBy (· == ':') (trimRight H))) = some .params) (hH : indentOf (trimRight H) < k)
    (hne : bs ≠ []) (h : ∀ b ∈ bs, Scope.Owns ⟨.google, Style.google.directives, true, k⟩ k b) :
    Style.google.report (numberedFrom 0 (H :: bs.flatMap FieldBlock.lines)) =
      ⟨some (((blockHeads 1 bs).map (Read.fieldOf .google true false)).filter Read.isMeaningful), none, none⟩ := by
  have hcolon' : isColonHeading (lower (Line.ofIndexed (0, H)).text) = true := hcolon
  have hkind' : sectionKind? (lower (trimBy (· == ':') (Line.ofIndexed (0, H)).text)) = some .params := hkind
  have hindent := Scope.indentAhead_blocks h hne (0 + 1)
  have hdeeper : indentOf (Line.ofIndexed (0, H)).text <
      indentAhead (numberedFrom (0 + 1) (bs.flatMap FieldBlock.lines)) := hindent.symm ▸ hH
  refine report_section (.params _) (isEmpty_of_colon hcolon') ?_
  rw [turn_google hcolon' hkind' hdeeper, Scope.found_params hkind', hindent, Scope.params_blocks h]

/-! ### Numpy fields -/

/-- A numpy field. Its type is any text without blanks around it, and no two blank lines stand in a row below it. -/
structure NumpyFieldText (k : Nat) extends FieldText k where
  type : List Char
  tight : Tight type
  type_ne_nil : type ≠ []
  spaced : body.IsChain fun l m => ¬(l.all isBlank = true ∧ m.all isBlank = true)

namespace NumpyFieldText
variable (f : NumpyFieldText k)

def block : FieldBlock :=
  ⟨f.pad ++ numpyField (f.name, f.type), f.body⟩

def lines : List (List Char) :=
  f.block.lines

theorem head_eq : f.block.head = f.pad ++ (f.name ++ (" : ".toList ++ f.type)) := by
  rw [block, numpyField, List.append_assoc]

theorem text_eq (n : Nat) : (Line.ofIndexed (n, f.block.head)).text = f.block.head := by
  refine Tight.trimRight_eq fun c hc => f.tight.last c ?_
  rwa [head_eq, ← List.append_assoc, ← List.append_assoc, List.getLast?_append_of_ne_nil _ f.type_ne_nil] at hc

theorem owns (directives : List (List Char)) : Scope.Owns ⟨.numpy, directives, true, k⟩ k f.block := by
  refine Scope.owns_of_spaced rfl ?_ ?_ (fun n rest => ?_) f.deeper f.spaced
  · rw [head_eq]
    exact f.filled _
  · rw [head_eq]
    exact f.indentOf_eq _
  · -- the colon keeps a flush field line from being a heading
    refine not_heading_of_colon ?_ ?_
    · rw [text_eq, head_eq]
      simp
    · rw [text_eq, head_eq]
      exact f.head_ne_point _

theorem fieldOf_eq (n : Nat) : Read.fieldOf .numpy true false (Line.ofIndexed (n, f.block.head)) =
    ⟨some f.name, ⟨some f.type, some ((n + 2 : Nat) : Int)⟩⟩ :=
  fieldOf_numpy f.isBlank_pad f.isName f.tight f.type_ne_nil (f.text_eq n) false

end NumpyFieldText

/-- A numpy section of parameters documents its fields in order, with their names, their types and the numbers of their
lines; what stands in their descriptions does not matter. -/
theorem numpy_fields_documented (fields : List (NumpyFieldText k)) :
    Style.numpy.parse ("Parameters".toList :: "----------".toList :: fields.flatMap NumpyFieldText.lines) =
      .ok ⟨some (fields.mapIdx fun i f => ⟨some f.name, ⟨some f.type,
        some ((2 + ((fields.take i).flatMap NumpyFieldText.lines).length + 2 : Nat) : Int)⟩⟩), none, none⟩ := by
  have hkind : sectionKind? (lower (trimRight "Parameters".toList)) = some .params := by decide +kernel
  have hunder : isUnderline (trimRight "----------".toList) = true := by decide +kernel
  have howns : ∀ b ∈ fields.map NumpyFieldText.block, Scope.Owns ⟨.numpy, Style.numpy.directives, true, k⟩ k b := by
    intro b hb
    obtain ⟨f, -, rfl⟩ := List.mem_map.1 hb
    exact f.owns _
  have hparams := filter_blockHeads (fun f : NumpyFieldText k => f.isName.ne_nil) NumpyFieldText.fieldOf_eq 2 fields
  have hreport := report_numpy_blocks hkind hunder howns
  rw [hparams, List.flatMap_map] at hreport
  rw [Style.parse_eq]
  exact congrArg Except.ok hreport

/-- Two fields: the description of the first looks like a section, a directive and another field, and the type of the
second has a colon in it. -/
def lookalikeFields : List (NumpyFieldText 2) :=
  [{ pad := "  ".toList
     name := "x".toList
     body := ["   Returns".toList, "   -------".toList, [], "    .. index::".toList, "   y : str".toList]
     pad_blank := by decide
     pad_length := rfl
     isName := by decide
     deeper := by decide
     type := "int".toList
     tight := by decide
     type_ne_nil := by decide
     spaced := by decide },
   { pad := "\t ".toList
     name := "z".toList
     body := [" ".toList]
     pad_blank := by decide
     pad_length := rfl
     isName := by decide
     deeper := by decide
     type := "dict (a : b)".toList
     tight := by decide
     type_ne_nil := by decide
     spaced := by decide }]

theorem numpy_fields_documented_lookalikes :
    Style.numpy.parse ["Parameters".toList, "----------".toList, "  x : int".toList, "   Returns".toList,
      "   -------".toList, [], "    .. index::".toList, "   y : str".toList, "\t z : dict (a : b)".toList, " ".toList] =
      .ok ⟨some [⟨some "x".toList, ⟨some "int".toList, some 4⟩⟩,
        ⟨some "z".toList, ⟨some "dict (a : b)".toList, some 10⟩⟩], none, none⟩ :=
  numpy_fields_documented lookalikeFields

/-! ### Google fields -/

theorem head?_trimRight_space (s : List Char) : ∀ c ∈ (trimRight (' ' :: s)).head?, isBlank c = true := by
  intro c hc
  obtain ⟨u, hu⟩ := trimRightBy_isPrefix isBlank (' ' :: s)
  obtain ⟨t, ht⟩ := List.head?_eq_some_iff.1 hc
  rw [show trimRightBy isBlank (' ' :: s) = c :: t from ht] at hu
  obtain ⟨rfl, -⟩ := List.cons.inj hu
  decide

/-- A google field. Its type, if it has one, can be put in parentheses, and any text may follow its colon. -/
structure GoogleFieldText (k : Nat) extends FieldText k where
  type : Option (List Char)
  desc : List Char
  enclosed : ∀ t ∈ type, IsEnclosed t

namespace GoogleFieldText
variable (f : GoogleFieldText k)

def block : FieldBlock :=
  ⟨f.pad ++ (f.name ++ typeSuffix f.type ++ ": ".toList ++ f.desc), f.body⟩

def lines : List (List Char) :=
  f.block.lines

theorem head_eq : f.block.head = f.pad ++ (f.name ++ (typeSuffix f.type ++ (": ".toList ++ f.desc))) := by
  simp [block]

theorem owns (hk : 0 < k) (directives : List (List Char)) : Scope.Owns ⟨.google, directives, true, k⟩ k f.block := by
  refine Scope.owns_google rfl rfl hk ?_ ?_ f.deeper
  · rw [head_eq]
    exact f.filled _
  · rw [head_eq]
    exact f.indentOf_eq _

theorem before_eq (n : Nat) : (partitionField (Line.ofIndexed (n, f.block.head)).text).before =
    f.name ++ typeSuffix f.type := by
  have htext : (Line.ofIndexed (n, f.block.head)).text =
      (f.pad ++ (f.name ++ typeSuffix f.type)) ++ ':' :: trimRight (' ' :: f.desc) := by
    rw [← trimRight_append_cons (by decide), Line.ofIndexed, head_eq]
    simp
  rw [htext]
  exact before_googleHead f.isBlank_pad f.isName.key f.enclosed (head?_trimRight_space f.desc)

theorem fieldOf_eq (n : Nat) : Read.fieldOf .google true false (Line.ofIndexed (n, f.block.head)) =
    ⟨some f.name, ⟨f.type, some ((n + 2 : Nat) : Int)⟩⟩ :=
  fieldOf_google f.isName f.enclosed (f.before_eq n)

end GoogleFieldText

/-- A google section of parameters documents its fields in order, with their names, their types and the numbers of
their lines; what stands in their descriptions does not matter. -/
theorem google_fields_documented (hk : 0 < k) (fields : List (GoogleFieldText k)) (hne : fields ≠ []) :
    Style.google.parse ("Args:".toList :: fields.flatMap GoogleFieldText.lines) =
      .ok ⟨some (fields.mapIdx fun i f => ⟨some f.name, ⟨f.type,
        some ((1 + ((fields.take i).flatMap GoogleFieldText.lines).length + 2 : Nat) : Int)⟩⟩), none, none⟩ := by
  have hcolon : isColonHeading (lower (trimRight "Args:".toList)) = true := by decide +kernel
  have hkind : sectionKind? (lower (trimBy (· == ':') (trimRight "Args:".toList))) = some .params := by decide +kernel
  have hflush : indentOf (trimRight "Args:".toList) = 0 := by decide +kernel
  have howns : ∀ b ∈ fields.map GoogleFieldText.block, Scope.Owns ⟨.google, Style.google.directives, true, k⟩ k b := by
    intro b hb
    obtain ⟨f, -, rfl⟩ := List.mem_map.1 hb
    exact f.owns hk _
  have hparams := filter_blockHeads (fun f : GoogleFieldText k => f.isName.ne_nil) GoogleFieldText.fieldOf_eq 1 fields
  have hreport := report_google_blocks hcolon hkind (hflush ▸ hk) (by simpa using hne) howns
  rw [hparams, List.flatMap_map] at hreport
  rw [Style.parse_eq]
  exact congrArg Except.ok hreport

/-- Two fields: a type and a cross-reference after its colon, with a heading and blank lines below, and a name
alone. -/
def referringFields : List (GoogleFieldText 1) :=
  [{ pad := " ".toList
     name := "x".toList
     body := ["  Returns:".toList, [], " ".toList, "   y (str): z".toList]
     pad_blank := by decide
     pad_length := rfl
     isName := by decide
     deeper := by decide
     type := some "*int, optional".toList
     desc := ":py:\x60a:b\x60".toList
     enclosed := by
       rintro t ⟨⟩
       decide },
   { pad := "\t".toList
     name := "z".toList
     body := []
     pad_blank := by decide
     pad_length := rfl
     isName := by decide
     deeper := by decide
     type := none
     desc := []
     enclosed := by simp }]

theorem google_fields_documented_referring : 0 < 1 ∧ referringFields ≠ [] ∧
    Style.google.parse ["Args:".toList, " x (*int, optional): :py:\x60a:b\x60".toList, "  Returns:".toList, [],
      " ".toList, "   y (str): z".toList, "\tz: ".toList] =
      .ok ⟨some [⟨some "x".toList, ⟨some "*int, optional".toList, some 3⟩⟩, ⟨some "z".toList, ⟨none, some 8⟩⟩],
        none, none⟩ := by
  have hne : referringFields ≠ [] := by simp [referringFields]
  exact ⟨by decide, hne, google_fields_documented (by decide) referringFields hne⟩

end TypeComments.Docstring
