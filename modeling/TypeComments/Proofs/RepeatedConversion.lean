import TypeComments.Proofs.Rereading
import TypeComments.Proofs.TokenTexts

/-!
# Converting again and again

`Definition.after` is what a conversion makes of a definition. A comment that it has written is a type comment, so
the next conversion replaces it, along with all that stands below it; from then on nothing changes
(`Definition.after_after_after`). A tree that can be converted and is read again from its text (`Repeatable`) is
followed by another such tree, whose definitions are those of the first one after a conversion
(`Repeatable.next`). So the text is settled after two conversions, and after one where only type comments, or
nothing, stood in front of the bodies.
-/

namespace TypeComments.Signature
open Source Docstring
variable {defaults : Defaults} {file : List Char} {d : Definition} {types : Types}

/-! ### One definition -/

theorem trimLeft_comment {blanks : List Char} (hblanks : blanks.all isSpacing = true) (rest : List Char) :
    trimLeft (blanks ++ '#' :: rest) = '#' :: rest := by
  have hall : ∀ c ∈ blanks, isBlank c = true := fun c hc => isBlank_of_isSpacing (List.all_eq_true.1 hblanks c hc)
  rw [trimLeft, List.dropWhile_append_of_pos hall]
  rfl

theorem Definition.exists_trimLeft (defaults : Defaults) (hblanks : d.blanks.all isSpacing = true) (types : Types)
    (rest : List Char) :
    ∃ tail, trimLeft (d.blanks ++ d.comment defaults types ++ rest) = '#' :: ' ' :: ("type:".toList ++ tail) := by
  obtain ⟨signature, hcomment, -⟩ := Definition.comment_eq defaults d types
  have hopen : "# type: ".toList = '#' :: ' ' :: ("type:".toList ++ [' ']) := by decide
  have htext : d.blanks ++ d.comment defaults types ++ rest =
      d.blanks ++ '#' :: ' ' :: ("type:".toList ++ (' ' :: signature ++ ['\n'] ++ rest)) := by
    rw [hcomment, hopen]
    simp only [List.append_assoc, List.cons_append, List.nil_append]
  exact ⟨_, htext ▸ trimLeft_comment hblanks _⟩

theorem Definition.isTypeComment_comment (defaults : Defaults) (hblanks : d.blanks.all isSpacing = true)
    (types : Types) (rest : List Char) :
    isTypeComment (d.blanks ++ d.comment defaults types ++ rest) = true := by
  obtain ⟨tail, htrim⟩ := Definition.exists_trimLeft defaults hblanks types rest
  have hword : trimLeft (' ' :: ("type:".toList ++ tail)) = "type:".toList ++ tail := rfl
  rw [isTypeComment, htrim]
  simp only [hword, List.isPrefixOf_iff_prefix]
  exact List.prefix_append _ _

theorem Definition.isOptOut_comment (hblanks : d.blanks.all isSpacing = true) (types : Types) (rest : List Char) :
    isOptOut (d.blanks ++ d.comment defaults types ++ rest) = false := by
  obtain ⟨tail, htrim⟩ := Definition.exists_trimLeft defaults hblanks types rest
  have hprefix := trimRightBy_isPrefix isBlank (trimLeft (d.blanks ++ d.comment defaults types ++ rest))
  rw [htrim] at hprefix
  by_contra hopt
  have heq : trim (d.blanks ++ d.comment defaults types ++ rest) = "# notype".toList := by
    simpa [isOptOut] using hopt
  have heq' : trimRightBy isBlank ('#' :: ' ' :: ("type:".toList ++ tail)) = "# notype".toList := by
    rw [← htrim]
    exact heq
  rw [heq'] at hprefix
  obtain ⟨rest', hrest⟩ := hprefix
  -- the words differ after the mark and a blank, in the third character
  have hthird := congrArg (·[2]?) hrest
  exact absurd (Option.some.inj hthird) (by decide)

def Definition.after (defaults : Defaults) (d : Definition) : Definition :=
  { d with before := (d.newBefore defaults).getD d.before }

theorem Definition.after_of_none (h : d.newBefore defaults = none) : d.after defaults = d := by
  rw [Definition.after, h]
  rfl

/-- The text in front of a definition that is rewritten starts with its comment. -/
theorem Definition.after_of_ne_none (h : d.newBefore defaults ≠ none) : ∃ types ∈ d.types? defaults,
    types.isEmpty = false ∧ isOptOut d.before = false ∧ d.after defaults =
      { d with before := d.blanks ++ d.comment defaults types ++ if isTypeComment d.before then [] else d.before } := by
  obtain ⟨before, hnew⟩ := Option.ne_none_iff_exists'.1 h
  obtain ⟨types, htypes, hwith⟩ := Definition.exists_types hnew
  have hopt : isOptOut d.before = false := by
    by_contra hopt
    rw [Definition.types?, if_pos (by simpa using hopt)] at htypes
    cases htypes
  have hempty : types.isEmpty = false := by
    by_contra hempty
    rw [Definition.newBefore_eq, Option.mem_def.1 htypes, Option.bind_some, if_pos (by simpa using hempty)] at hnew
    cases hnew
  refine ⟨types, htypes, hempty, hopt, ?_⟩
  rw [Definition.after, hnew, Option.getD_some, withComment_eq hwith]

theorem Definition.types?_of_isOptOut {before : List Char} (h : isOptOut before = isOptOut d.before) :
    ({ d with before } : Definition).types? defaults = d.types? defaults := by
  rw [Definition.types?, Definition.types?, h]

section
variable (hblanks : d.blanks.all isSpacing = true)
include hblanks

theorem Definition.isOptOut_after : isOptOut (d.after defaults).before = isOptOut d.before := by
  by_cases hnew : d.newBefore defaults = none
  · rw [Definition.after_of_none hnew]
  · obtain ⟨types, -, -, hopt, heq⟩ := Definition.after_of_ne_none hnew
    rw [heq, hopt]
    exact Definition.isOptOut_comment hblanks types _

theorem Definition.types?_after : (d.after defaults).types? defaults = d.types? defaults :=
  Definition.types?_of_isOptOut (Definition.isOptOut_after hblanks)

/-- A definition whose text starts with its comment has nothing else in front of its body after a conversion. -/
theorem Definition.after_comment (htypes : types ∈ d.types? defaults) (hempty : types.isEmpty = false)
    (hopt : isOptOut d.before = false) (rest : List Char) :
    ({ d with before := d.blanks ++ d.comment defaults types ++ rest } : Definition).after defaults =
      { d with before := d.blanks ++ d.comment defaults types } := by
  set d' : Definition := { d with before := d.blanks ++ d.comment defaults types ++ rest } with hd'
  have htypes' : types ∈ d'.types? defaults := by
    rw [Definition.types?_of_isOptOut (by rw [hopt]; exact Definition.isOptOut_comment hblanks types rest)]
    exact htypes
  have hcomment : d'.comment defaults types = d.comment defaults types := rfl
  have hnew : d'.newBefore defaults = withComment d.blanks d'.before (d.comment defaults types) := by
    rw [Definition.newBefore_eq, Option.mem_def.1 htypes', Option.bind_some, if_neg (by simp [hempty]), hcomment]
  rw [Definition.after, hnew]
  by_cases hsame : d'.before = d.comment defaults types
  · -- the text is the comment itself, so nothing stands on either side of it
    have hlength : (d.blanks ++ d.comment defaults types ++ rest).length = (d.comment defaults types).length :=
      congrArg List.length hsame
    simp only [List.length_append] at hlength
    have hblanks' : d.blanks = [] := List.length_eq_zero_iff.1 (by omega)
    rw [withComment, if_pos (by simp [hsame]), Option.getD_none, hsame, hblanks', List.nil_append]
  · rw [withComment, if_neg (by simpa using hsame), if_pos (Definition.isTypeComment_comment defaults hblanks types rest)]
    rfl

/-- After two conversions a definition is settled. -/
theorem Definition.after_after_after :
    ((d.after defaults).after defaults).after defaults = (d.after defaults).after defaults := by
  by_cases hnew : d.newBefore defaults = none
  · simp only [Definition.after_of_none hnew]
  · obtain ⟨types, htypes, hempty, hopt, heq⟩ := Definition.after_of_ne_none hnew
    have hnil := Definition.after_comment hblanks htypes hempty hopt []
    rw [List.append_nil] at hnil
    rw [heq, Definition.after_comment hblanks htypes hempty hopt, hnil]

/-- What stands in front of a body needs one conversion only. -/
def Definition.Settles (defaults : Defaults) (d : Definition) : Prop :=
  d.before = [] ∨ isTypeComment d.before = true ∨ d.after defaults = d

theorem Definition.Settles.after_after (h : d.Settles defaults) :
    (d.after defaults).after defaults = d.after defaults := by
  by_cases hnew : d.newBefore defaults = none
  · simp only [Definition.after_of_none hnew]
  · obtain ⟨types, htypes, hempty, hopt, heq⟩ := Definition.after_of_ne_none hnew
    have hrest : (if isTypeComment d.before then [] else d.before) = [] ∨ d.after defaults = d := by
      rcases h with hnil | hcomment | hstays
      · exact .inl (by simp [hnil])
      · exact .inl (by simp [hcomment])
      · exact .inr hstays
    rcases hrest with hrest | hstays
    · rw [hrest, List.append_nil] at heq
      have hnil := Definition.after_comment hblanks htypes hempty hopt []
      rw [List.append_nil] at hnil
      rw [heq, hnil]
    · rw [hstays, hstays]

end

/-! ### Functions of a changed tree -/

variable {f g : Function} {e : Token → Token} {tree : Tree}

theorem definition?_mapTokens (he : Recast e) (hname : f.nameToken.kind = .name) :
    definition? (f.mapTokens e) =
      f.body.block?.map fun b => { definition f b with before := (e b.indent).before } := by
  have hmap : (f.mapTokens e).body = f.body.mapTokens e := rfl
  rw [definition?, hmap, he.block?]
  cases f.body.block? with
  | none => rfl
  | some b => exact congrArg some (definition_mapTokens he hname b)

theorem definition?_unnumbered (hname : f.nameToken.kind = .name) :
    definition? (f.mapTokens Token.unnumbered) = definition? f := by
  rw [definition?_mapTokens recast_unnumbered hname]
  rfl

/-! ### One conversion after the other -/

def definitions (tree : Tree) : List (Option Definition) :=
  tree.allFunctions.map definition?

theorem exists_before {tree' : Tree} (h : definitions tree' = (definitions tree).map (Option.map (·.after defaults)))
    (hd : some d ∈ definitions tree') : ∃ d₀, some d₀ ∈ definitions tree ∧ d = d₀.after defaults := by
  rw [h] at hd
  obtain ⟨found, hfound, hafter⟩ := List.mem_map.1 hd
  obtain ⟨d₀, rfl, rfl⟩ := Option.map_eq_some_iff.1 hafter
  exact ⟨d₀, hfound, rfl⟩

/-- What a conversion makes of the tokens of a tree. -/
def editAll (defaults : Defaults) (tree : Tree) : Token → Token :=
  editToken (tree.allFunctions.filterMap (edit? defaults))

theorem retouch_editAll (defaults : Defaults) (tree : Tree) : Retouch (editAll defaults tree) :=
  retouch_editToken _

theorem convert_ok {source : List Char} {c : Converted} {ms ms' : List Message} (hread : read source = .ok tree)
    (hrun : (convert defaults file source).run.run ms = (.ok c, ms')) :
    c.text = (tree.mapTokens (editAll defaults tree)).source ∧ ∀ f ∈ tree.allFunctions, Converts defaults file f := by
  have htree : (convertTree defaults file tree).run.run ms = (.ok c, ms') := by
    rw [← hrun, convert, hread]
  exact convertTree_ok hread htree

/-- Convert a text, then the text that this gives, and so on: `n` times in all. -/
def convertTimes (defaults : Defaults) (file : List Char) : Nat → List Char → Convert (List Char)
  | 0, source => pure source
  | n + 1, source => do
    let c ← convert defaults file source
    convertTimes defaults file n c.text

theorem convertTimes_succ {source : List Char} {c : Converted} {ms ms' : List Message}
    (h : (convert defaults file source).run.run ms = (.ok c, ms')) (n : Nat) :
    (convertTimes defaults file (n + 1) source).run.run ms = (convertTimes defaults file n c.text).run.run ms' :=
  run_bind_of_ok h

theorem same_of_unnumbered (hf : f.nameToken.kind = .name) (hg : g.nameToken.kind = .name)
    (h : g.mapTokens Token.unnumbered = f.mapTokens Token.unnumbered) :
    definition? g = definition? f ∧ (Converts defaults file g ↔ Converts defaults file f) := by
  constructor
  · rw [← definition?_unnumbered hg, h, definition?_unnumbered hf]
  · rw [← converts_mapTokens_iff recast_unnumbered hg fun _ _ => rfl, h,
      converts_mapTokens_iff recast_unnumbered hf fun _ _ => rfl]

/-- The types found for a function stand on one line. -/
def Definition.OneLine (defaults : Defaults) (d : Definition) : Prop :=
  ∀ types ∈ d.types? defaults, types.Clear (· == '\n')

section
variable {source : List Char} {t : Token} (hread : read source = .ok tree)
  (hconverts : ∀ f ∈ tree.allFunctions, Converts defaults file f)
include hread hconverts

theorem editAll_token (ht : t ∈ tree.leaves) : editAll defaults tree t = t ∨
    ∃ d, some d ∈ definitions tree ∧ d.blanks = t.text ∧ d.before = t.before ∧
      editAll defaults tree t = { t with before := (d.after defaults).before } := by
  by_cases hopen : ∃ f ∈ tree.allFunctions, f.opening? = some t
  · obtain ⟨f, hf, hft⟩ := hopen
    obtain ⟨d, t, hd, ht, hblanks, hbefore, hedit⟩ := editToken_opening hread hf (hconverts f hf)
    obtain rfl := Option.some.inj (ht.symm.trans hft)
    refine .inr ⟨d, List.mem_map.2 ⟨f, hf, hd⟩, hblanks, hbefore, ?_⟩
    rw [editAll, hedit, Definition.after, hbefore]
  · exact .inl (editToken_of_not_opening hread ht fun f hf hft => hopen ⟨f, hf, hft⟩)

/-- Whole idle lines stand in front of a block that is edited, if the types are on one line. -/
theorem editAll_idle (honeLine : ∀ d, some d ∈ definitions tree → d.OneLine defaults)
    (hd : defaults.Clear (· == '\n')) (ht : t ∈ tree.leaves) (hk : t.kind = .indent) :
    IdleLines (editAll defaults tree t).before := by
  obtain ⟨hspacing, hidle⟩ := (read_blocks hread).1 t ht hk
  rcases editAll_token hread hconverts ht with hsame | ⟨d, hmem, hblanks, hbefore, hedit⟩
  · rwa [hsame]
  · rw [hedit]
    show IdleLines ((d.newBefore defaults).getD d.before)
    cases hnew : d.newBefore defaults with
    | none => exact hbefore ▸ hidle
    | some before =>
      exact Definition.newBefore_idleLines hd (honeLine d hmem) (hblanks ▸ hspacing) (hbefore ▸ hidle) hnew

end

/-- A tree that is read from its text, whose functions convert, with types on one line. -/
structure Repeatable (defaults : Defaults) (file : List Char) (tree : Tree) : Prop where
  printed : tree.Printed
  converts : ∀ f ∈ tree.allFunctions, Converts defaults file f
  oneLine : ∀ d, some d ∈ definitions tree → d.OneLine defaults

namespace Repeatable
variable (h : Repeatable defaults file tree)
include h

theorem opening (hf : f ∈ tree.allFunctions) : ∃ b, f.body.block? = some b ∧
    b.indent.text.all isSpacing = true ∧
    editAll defaults tree b.indent = { b.indent with before := ((definition f b).after defaults).before } := by
  obtain ⟨d, t, hd, ht, -, -, hedit⟩ := editToken_opening h.printed hf (h.converts f hf)
  obtain ⟨b, hb, rfl⟩ := Option.map_eq_some_iff.1 hd
  obtain rfl := Option.some.inj ((Function.opening?_of_block hb).symm.trans ht)
  exact ⟨b, hb, ((read_blocks h.printed).1 _ (mem_leaves_of_opening hf ht) (Tree.opening?_kind ht)).1, hedit⟩

theorem blanks (hd : some d ∈ definitions tree) : d.blanks.all isSpacing = true := by
  obtain ⟨f, hf, hfd⟩ := List.mem_map.1 hd
  obtain ⟨b, hb, hspacing, -⟩ := h.opening hf
  rw [definition?, hb] at hfd
  cases hfd
  exact hspacing

theorem function (hf : f ∈ tree.allFunctions) :
    definition? (f.mapTokens (editAll defaults tree)) = (definition? f).map (·.after defaults) ∧
      Converts defaults file (f.mapTokens (editAll defaults tree)) := by
  have he := (retouch_editAll defaults tree).recast
  have hname := read_functionNames h.printed f hf
  obtain ⟨b, hb, hspacing, hedit⟩ := h.opening hf
  constructor
  · rw [definition?_mapTokens he hname, definition?, hb, Option.map_some, Option.map_some, Option.map_some, hedit]
    rfl
  · rw [converts_mapTokens_iff he hname fun t ht => ?_]
    · exact h.converts f hf
    · obtain rfl := Option.some.inj ((Function.opening?_of_block hb).symm.trans ht)
      rw [hedit]
      exact Definition.isOptOut_after (d := definition f b) hspacing

theorem convert {source : List Char} (hread : read source = .ok tree) (ns : List Message) : ∃ c ns',
    (convert defaults file source).run.run ns = (.ok c, ns') ∧
      c.text = (tree.mapTokens (editAll defaults tree)).source := by
  obtain ⟨c, ns', hrun⟩ := convertTree_of_converts hread h.converts ns
  refine ⟨c, ns', ?_, (convertTree_ok hread hrun).1⟩
  rw [Signature.convert, hread, ← hrun]

/-- A conversion succeeds, and leaves a text that can be converted in its turn. -/
theorem next (hd : defaults.Clear (· == '\n')) : ∃ tree', Repeatable defaults file tree' ∧
    definitions tree' = (definitions tree).map (Option.map (·.after defaults)) ∧
    tree'.source = (tree.mapTokens (editAll defaults tree)).source ∧
    ∀ source, read source = .ok tree → ∀ n ns, ∃ ns', (convertTimes defaults file (n + 1) source).run.run ns =
      (convertTimes defaults file n tree'.source).run.run ns' := by
  obtain ⟨tree', hprinted, hsource, hmap⟩ :=
    read_mapTokens h.printed (retouch_editAll defaults tree) fun t =>
      editAll_idle h.printed h.converts h.oneLine hd
  -- the tree read again has the edited functions up to the numbers of lines, and these decide nothing
  have hfunctions : tree'.allFunctions.map (Function.mapTokens Token.unnumbered) =
      tree.allFunctions.map fun f => (f.mapTokens (editAll defaults tree)).mapTokens Token.unnumbered := by
    rw [← Tree.allFunctions_mapTokens, hmap, Tree.allFunctions_mapTokens, Tree.allFunctions_mapTokens, List.map_map]
    rfl
  have hname {f : Function} (hf : f ∈ tree.allFunctions) :
      (f.mapTokens (editAll defaults tree)).nameToken.kind = .name :=
    ((retouch_editAll defaults tree).kind_eq _).trans (read_functionNames h.printed f hf)
  have hname' := read_functionNames hprinted
  have hdefinitions : definitions tree' = (definitions tree).map (Option.map (·.after defaults)) := by
    calc definitions tree'
        = (tree'.allFunctions.map (Function.mapTokens Token.unnumbered)).map definition? := by
          rw [List.map_map]
          exact List.map_congr_left fun g hg => (definition?_unnumbered (hname' g hg)).symm
      _ = (definitions tree).map (Option.map (·.after defaults)) := by
          rw [hfunctions, definitions, List.map_map, List.map_map]
          exact List.map_congr_left fun f hf => (definition?_unnumbered (hname hf)).trans (h.function hf).1
  refine ⟨tree', ⟨hprinted, fun g hg => ?_, fun d' hd' types htypes => ?_⟩, hdefinitions, hsource,
    fun source hread n ns => ?_⟩
  · obtain ⟨f, hf, hfg⟩ := List.mem_map.1 (hfunctions ▸ List.mem_map_of_mem hg)
    exact (same_of_unnumbered (hname hf) (hname' g hg) hfg.symm).2.2 (h.function hf).2
  · obtain ⟨d, hd, rfl⟩ := exists_before hdefinitions hd'
    rw [Definition.types?_after (h.blanks hd)] at htypes
    exact h.oneLine d hd types htypes
  · obtain ⟨c, ns', hrun, htext⟩ := h.convert hread ns
    exact ⟨ns', by rw [convertTimes_succ hrun, htext, hsource]⟩

theorem source_of_stays (hstays : ∀ d, some d ∈ definitions tree → d.after defaults = d) :
    (tree.mapTokens (editAll defaults tree)).source = tree.source := by
  have hsame : ∀ t ∈ tree.leaves, editAll defaults tree t = t := by
    intro t ht
    rcases editAll_token h.printed h.converts ht with hsame | ⟨d, hmem, -, hbefore, hedit⟩
    · exact hsame
    · rw [hedit, hstays d hmem, hbefore]
  rw [Tree.source, Tree.leaves_mapTokens, List.map_congr_left hsame, List.map_id']
  rfl

end Repeatable

/-- A text whose definitions stay is settled. -/
theorem Repeatable.convertTimes (h : Repeatable defaults file tree)
    (hstays : ∀ d, some d ∈ definitions tree → d.after defaults = d) (n : Nat) (ns : List Message) :
    ∃ ns', (convertTimes defaults file n tree.source).run.run ns = (.ok tree.source, ns') := by
  induction n generalizing ns with
  | zero => exact ⟨ns, rfl⟩
  | succ n ih =>
    obtain ⟨c, ns₁, hrun, htext⟩ := h.convert h.printed ns
    rw [h.source_of_stays hstays] at htext
    obtain ⟨ns₂, hruns⟩ := ih ns₁
    exact ⟨ns₂, by rw [convertTimes_succ hrun, htext, hruns]⟩

/-- A source that is converted is settled after two conversions. A function with nothing or a type comment in front
of its body, or one that the first conversion leaves alone, is settled after one. The types have to stand on one
line, and the tree of the source has to be what its text is read as. -/
theorem conversion_settles {source : List Char} {c : Converted} {ms ms' : List Message}
    (hread : read source = .ok tree) (hprinted : tree.Printed)
    (hrun : (convert defaults file source).run.run ms = (.ok c, ms')) (hdefaults : defaults.Clear (· == '\n'))
    (htypes : ∀ d, some d ∈ definitions tree → d.OneLine defaults) :
    ∃ tree₁ tree₂, read c.text = .ok tree₁ ∧ read tree₂.source = .ok tree₂ ∧
      (∀ n ns, ∃ ns', (convertTimes defaults file (n + 2) source).run.run ns = (.ok tree₂.source, ns')) ∧
      (∀ (i : Nat) (d : Definition), (definitions tree)[i]? = some (some d) → d.Settles defaults →
        (definitions tree₁)[i]? = some (some (d.after defaults)) ∧
        (definitions tree₂)[i]? = some (some (d.after defaults))) ∧
      ((∀ d, some d ∈ definitions tree → d.Settles defaults) → tree₂.source = c.text) := by
  obtain ⟨htext, hall⟩ := convert_ok hread hrun
  have h : Repeatable defaults file tree := ⟨hprinted, hall, htypes⟩
  -- two conversions by `next`; the definitions of the second tree stay, and so does its text
  obtain ⟨tree₁, h₁, hdefs₁, hsource₁, hruns₁⟩ := h.next hdefaults
  obtain ⟨tree₂, h₂, hdefs₂, hsource₂, hruns₂⟩ := h₁.next hdefaults
  have htext₁ : c.text = tree₁.source := htext.trans hsource₁.symm
  have hstays : ∀ d, some d ∈ definitions tree₂ → d.after defaults = d := by
    intro d hd
    obtain ⟨d₁, hd₁, rfl⟩ := exists_before hdefs₂ hd
    obtain ⟨d₀, hd₀, rfl⟩ := exists_before hdefs₁ hd₁
    exact Definition.after_after_after (h.blanks hd₀)
  refine ⟨tree₁, tree₂, by rw [htext₁]; exact h₁.printed, h₂.printed, fun n ns => ?_, fun i d hi hsettles => ?_, ?_⟩
  · obtain ⟨ns₁, hfirst⟩ := hruns₁ source hread (n + 1) ns
    obtain ⟨ns₂, hsecond⟩ := hruns₂ _ h₁.printed n ns₁
    obtain ⟨ns₃, hrest⟩ := h₂.convertTimes hstays n ns₂
    exact ⟨ns₃, by rw [hfirst, hsecond, hrest]⟩
  · have hmem := List.mem_of_getElem? hi
    rw [hdefs₂, hdefs₁]
    simp only [List.getElem?_map, hi, Option.map_some, hsettles.after_after (h.blanks hmem), and_self]
  · intro hall
    rw [hsource₂, htext₁]
    refine h₁.source_of_stays fun d hd => ?_
    obtain ⟨d₀, hd₀, rfl⟩ := exists_before hdefs₁ hd
    exact (hall d₀ hd₀).after_after (h.blanks hd₀)

/-- A function with a comment in front of its body. -/
def commentedSource : List Char :=
  "def f(x):\n  # a\n  \"\"\"\n  Args:\n   x (int)\n  \"\"\"\n".toList

/-- What the first conversion makes of it: the comment goes below the type comment. -/
theorem convert_commentedSource : ∃ tree c ms, read commentedSource = .ok tree ∧ tree.Printed ∧
    (convert {} [] commentedSource).run.run [] = (.ok c, ms) ∧
    (∀ d, some d ∈ definitions tree → d.OneLine {}) ∧
    c.text = "def f(x):\n  # type: (int) -> Any\n  # a\n  \"\"\"\n  Args:\n   x (int)\n  \"\"\"\n".toList := by
  have htree : (read commentedSource).toOption.map (fun tree => (definitions tree).all fun found => found.all fun d =>
      d.docText?.all fun text => chooseFormat none text != .rest) = some true := by decide +kernel
  have htext : ((convert {} [] commentedSource).run.run []).1.toOption.map Converted.text = some
      "def f(x):\n  # type: (int) -> Any\n  # a\n  \"\"\"\n  Args:\n   x (int)\n  \"\"\"\n".toList := by decide +kernel
  obtain ⟨tree, htree, hformats⟩ := Option.map_eq_some_iff.1 htree
  obtain ⟨c, hc, htext⟩ := Option.map_eq_some_iff.1 htext
  have hread := eq_ok_of_toOption htree
  obtain ⟨ms, hrun⟩ := run_eq_ok_of_toOption hc
  refine ⟨tree, c, ms, hread, printed_of_read hread (by decide +kernel), hrun, fun d hd types => ?_, htext⟩
  refine Definition.types?_clear (by simp [isLineBreak]) fun text hdoc => ?_
  have hall := List.all_eq_true.1 hformats (some d) hd
  rw [Option.all_some, hdoc, Option.all_some] at hall
  simpa using hall

theorem conversion_settles_commented : ∃ tree c ms, read commentedSource = .ok tree ∧ tree.Printed ∧
    (convert {} [] commentedSource).run.run [] = (.ok c, ms) ∧
    (∀ d, some d ∈ definitions tree → d.OneLine {}) ∧
    ∃ tree₁ tree₂, read c.text = .ok tree₁ ∧ read tree₂.source = .ok tree₂ ∧
      (∀ n ns, ∃ ns', (convertTimes {} [] (n + 2) commentedSource).run.run ns = (.ok tree₂.source, ns')) ∧
      (∀ (i : Nat) (d : Definition), (definitions tree)[i]? = some (some d) → d.Settles {} →
        (definitions tree₁)[i]? = some (some (d.after {})) ∧ (definitions tree₂)[i]? = some (some (d.after {}))) ∧
      ((∀ d, some d ∈ definitions tree → d.Settles {}) → tree₂.source = c.text) := by
  obtain ⟨tree, c, ms, hread, hprinted, hrun, htypes, -⟩ := convert_commentedSource
  exact ⟨tree, c, ms, hread, hprinted, hrun, htypes, conversion_settles hread hprinted hrun
    ⟨fun q hq => (nomatch hq), by decide⟩ htypes⟩

end TypeComments.Signature
