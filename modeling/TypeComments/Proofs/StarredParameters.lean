import TypeComments.Proofs.ConfiguredTypes
import TypeComments.Proofs.ConversionFaults
import TypeComments.Proofs.SignatureRendering
import TypeComments.Proofs.TracedFields

/-!
# Starred parameters and the names that document them

A docstring can document a parameter `*v` under its bare name or with its stars. The reader escapes the stars in front
of a name, and a parameter is looked up by its bare name, so only the bare name gives it the documented type
(`starred_parameter_entry`). Under the starred spelling it has the default for its name, else `Any`.
-/

namespace TypeComments.Source
variable {f : Function} {stars : Stars} {name : List Char} {place : Nat}

/-! ### Starred parameters -/

def Tree.isStars (stars : Stars) : Tree → Bool
  | .leaf t => stars ≠ .none && t.kind = .operator && t.text == stars.text
  | .node _ _ => false

/-- Does a parameter of this name, with these stars, stand at this place of the list? -/
def Function.hasStarred (f : Function) (place : Nat) (stars : Stars) (name : List Char) : Bool :=
  f.parameterParts[place]?.any (Tree.isStars stars) && f.parameterParts[place + 1]?.any (Tree.isNamed name) &&
    (f.parameterParts.take place).getLast?.all Tree.isComma

theorem Tree.spelled_of_isStars {t : Tree} (h : t.isStars stars = true) : stars ≠ .none ∧ stars.Spelled [t] := by
  cases t with
  | leaf token =>
    rw [isStars, Bool.and_eq_true, Bool.and_eq_true, decide_eq_true_eq, decide_eq_true_eq, beq_iff_eq] at h
    obtain ⟨⟨hne, hkind⟩, htext⟩ := h
    cases stars with
    | none => exact absurd rfl hne
    | one => exact ⟨hne, .one ⟨hkind, htext⟩⟩
    | two => exact ⟨hne, .two ⟨hkind, htext⟩⟩
  | node rule parts => cases h

theorem Function.exists_of_hasStarred (h : f.hasStarred place stars name = true) : stars ≠ .none ∧
    ∃ ss token after, f.parameterParts = f.parameterParts.take place ++ (ss ++ .leaf token :: after) ∧
      stars.Spelled ss ∧ token.kind = .name ∧ token.text = name := by
  obtain ⟨⟨hstars, hname⟩, -⟩ := (Bool.and_eq_true_iff.1 h).imp_left Bool.and_eq_true_iff.1
  obtain ⟨star, hstar, hstars⟩ := (Option.any_eq_true _ _).1 hstars
  obtain ⟨part, hpart, hname⟩ := (Option.any_eq_true _ _).1 hname
  obtain ⟨token, rfl, hkind, htext⟩ := Tree.exists_of_isNamed hname
  obtain ⟨hne, hspelled⟩ := Tree.spelled_of_isStars hstars
  obtain ⟨hlt, hget⟩ := List.getElem?_eq_some_iff.1 hstar
  obtain ⟨hlt', hget'⟩ := List.getElem?_eq_some_iff.1 hpart
  refine ⟨hne, [star], token, f.parameterParts.drop (place + 1 + 1), ?_, hspelled, hkind, htext⟩
  rw [← hget, ← hget', List.singleton_append, ← List.drop_eq_getElem_cons hlt', ← List.drop_eq_getElem_cons hlt,
    List.take_append_drop]

theorem parameterNames?_of_hasStarred (h : f.hasStarred place stars name = true) : ∃ rest, parameterNames? f.parameters =
    some (namesInList true .none (f.parameterParts.take place) ++ (name, stars) :: rest) := by
  obtain ⟨-, ss, token, after, hparts, hs, hkind, rfl⟩ := Function.exists_of_hasStarred h
  exact parameterNames?_split hparts (Bool.and_eq_true_iff.1 h).2 hs hkind

theorem isWord_of_hasStarred {source : List Char} {tree : Tree} (hread : read source = .ok tree)
    (hf : f ∈ tree.allFunctions) (h : f.hasStarred place stars name = true) :
    name ≠ [] ∧ ∀ c ∈ name, isWord c = true := by
  obtain ⟨-, ss, token, after, hparts, -, hkind, rfl⟩ := Function.exists_of_hasStarred h
  obtain ⟨printWord, hstands⟩ := read_functionStands hread
  have hmem : token ∈ Tree.leavesAll f.parameterParts := by
    rw [hparts, Tree.leavesAll_append, Tree.leavesAll_append]
    simp [Tree.leavesAll, Tree.leaves]
  rcases (hstands f hf).parameterRow with hnone | ⟨row, -, -, hleaves⟩
  · rw [hnone] at hmem
    cases hmem
  · exact ((read_apt hread token (hleaves hmem)).name hkind).1

end TypeComments.Source

namespace TypeComments.Docstring
open Source Settings

/-! ### Spellings of a name -/

variable {style : Style} {key v t line : List Char} {stars : Stars}

/-- A field line that gives the type `type` to the spelling `key` of a name. -/
inductive Style.FieldSpelled (key type : List Char) : Style → List Char → Prop
  | numpy {pad : List Char} (hpad : ∀ c ∈ pad, isBlank c = true) :
    FieldSpelled key type .numpy (pad ++ numpyField (key, type))
  | google {pad desc : List Char} (hpad : ∀ c ∈ pad, isBlank c = true) (hdesc : ∀ c ∈ desc.head?, isBlank c = true) :
    FieldSpelled key type .google ((pad ++ (key ++ typeSuffix (some type))) ++ ':' :: desc)

theorem Style.FieldSpelled.fieldParts (h : style.FieldSpelled key t line) (hkey : IsKey key) (ht : IsEnclosed t) :
    Read.fieldParts style true line = (escapeStars key, some t) := by
  cases h with
  | numpy hpad => simp [Read.fieldParts, partitionField_numpyField hpad hkey ht.toTight]
  | google hpad hdesc =>
    have htype : ∀ t' ∈ some t, IsEnclosed t' := fun t' ht' => Option.some.inj ht' ▸ ht
    exact fieldParts_google hkey htype (before_googleHead hpad hkey htype hdesc)

theorem eq_star_of_mem {c : Char} (h : c ∈ stars.text) : c = '*' := by
  cases stars with
  | none => cases h
  | one => exact List.mem_singleton.1 h
  | two => simpa [Stars.text] using h

theorem isKey_starred (hne : v ≠ []) (hword : ∀ c ∈ v, isWord c = true) (stars : Stars) : IsKey (stars.text ++ v) where
  ne_nil h := hne (List.append_eq_nil_iff.1 h).2
  notBlank c hc := by
    rcases List.mem_append.1 hc with hc | hc
    · rw [eq_star_of_mem hc]
      decide
    · exact isBlank_of_isWord (hword c hc)
  plain c hc hsign := by
    rcases List.mem_append.1 hc with hc | hc
    · rw [eq_star_of_mem hc] at hsign
      exact absurd hsign (by decide)
    · -- none of the signs is in a word
      have hother : isWord c = false := by
        simp only [List.mem_cons, List.not_mem_nil, or_false] at hsign
        rcases hsign with rfl | rfl | rfl <;> decide
      exact ne_of_isWord (hword c hc) hother rfl

theorem head?_escapeStars (s : List Char) : (escapeStars ('*' :: s)).head? = some '\\' := by
  unfold escapeStars
  split <;> simp_all

theorem escapeStars_ne (hword : ∀ c ∈ v, isWord c = true) (hstars : stars ≠ .none) :
    escapeStars (stars.text ++ v) ≠ v := by
  intro heq
  -- what the reader makes of a starred name opens with a backslash, and a word does not
  have hhead : (escapeStars (stars.text ++ v)).head? = some '\\' := by
    cases stars with
    | none => exact absurd rfl hstars
    | one | two => exact head?_escapeStars _
  rw [heq] at hhead
  exact absurd (hword _ (List.mem_of_mem_head? hhead)) (by decide)

theorem escapeStars_word (hword : ∀ c ∈ v, isWord c = true) : escapeStars v = v :=
  escapeStars_eq fun hhead => absurd (hword _ (List.mem_of_mem_head? hhead)) (by decide)

/-! ### What is documented -/

/-- The parameters that the docstring documents, in this style, hold one field for the name `v`, spelled with stars or
without; it is spelled `key` there and has the type `type`. -/
def Style.DocumentsAs (style : Style) (doc v key type : List Char) : Prop :=
  ∃ report ps p text, style.parse (splitLines (clean doc)) = .ok report ∧ report.params = some ps ∧ p ∈ ps ∧
    p.entry.StandsOn (splitLines (clean doc)) text ∧ style.FieldSpelled key type (trimRight text) ∧
    ∀ q ∈ ps, (∃ stars : Stars, q.name = some (escapeStars (stars.text ++ v))) → q = p

end TypeComments.Docstring

namespace TypeComments.Signature
open Source Docstring Settings

variable {defaults : Defaults} {file : List Char} {f : Function} {b : Block} {doc v key t : List Char} {style : Style}
  {stars : Stars}

theorem mem_ofDocumented {d : Documented} {n : Option (List Char)} : (n, t) ∈ (Types.ofDocumented d).params ↔
    ∃ p ∈ d.params, p.name = n ∧ p.entry.type = some t ∧ t ≠ [] := by
  rw [Types.ofDocumented, List.mem_filterMap]
  refine exists_congr fun p => and_congr_right fun _ => ?_
  cases p.entry.type with
  | none => simp
  | some type =>
    cases type with
    | nil => simp [eq_comm]
    | cons c type =>
      constructor
      · rintro ⟨⟩
        exact ⟨rfl, rfl, List.cons_ne_nil _ _⟩
      · rintro ⟨rfl, ⟨⟩, -⟩
        rfl

theorem documented?_eq {report : Report} (hformat : chooseFormat defaults.format doc = style.format)
    (hparse : style.parse (splitLines (clean doc)) = .ok report) :
    ∃ result, documented? defaults doc = some ⟨castParams (report.params.getD []), result⟩ := by
  have hlines : ∀ e ∈ report.returns.getD [], e.line.isSome = true := by
    intro e he
    cases hreturns : report.returns with
    | none =>
      rw [hreturns] at he
      cases he
    | some es =>
      rw [hreturns] at he
      obtain ⟨text, ⟨n, hn, -⟩, -⟩ := result_stands_on_line hparse (.inl hreturns) he
      rw [hn]
      rfl
  have hread := read_format style defaults.options.markup (clean doc) []
  rw [Style.parse_eq] at hparse
  rw [Except.ok.inj hparse] at hread
  obtain ⟨result, notices, hresult⟩ : ∃ result notices, (castResult defaults.options (report.returns.getD [])
      (report.yields.getD [])).run.run [] = (.ok result, notices) := castResult_of_allowed rfl rfl hlines _ _
  refine ⟨result, ?_⟩
  rw [documented?, parseDocstring, hformat]
  simp only [Format.parse]
  rw [run_bind_of_ok hread, run_bind_of_ok hresult]
  rfl

theorem literalTypes_of_documented? {d : Documented} (hne : doc ≠ []) (h : documented? defaults doc = some d) :
    literalTypes defaults (.text doc) = .ofDocumented d := by
  obtain ⟨c, text, rfl⟩ := List.exists_cons_of_ne_nil hne
  simp only [documented?, literalTypes] at h ⊢
  cases hparsed : ((parseDocstring none defaults.format defaults.options (c :: text)).run.run []).1 with
  | error fault =>
    rw [hparsed] at h
    cases h
  | ok d' =>
    rw [hparsed] at h
    cases h
    rfl

/-- What a spelling of a name documents: it is the type of that name just if it is the bare name. -/
theorem lookup_of_documentsAs (hformat : chooseFormat defaults.format doc = style.format) (hne : v ≠ [])
    (hword : ∀ c ∈ v, isWord c = true) (hkey : key = v ∨ key = stars.text ++ v) (hstars : stars ≠ .none)
    (ht : IsEnclosed t) (h : style.DocumentsAs doc v key t) :
    (documented? defaults doc).isSome = true ∧ (literalTypes defaults (.text doc)).isEmpty = false ∧
      (literalTypes defaults (.text doc)).params.lookup (some v) = if key = v then some t else none := by
  obtain ⟨report, ps, p, text, hparse, hps, hp, hstands, hspelled, hsole⟩ := h
  obtain ⟨result, hdocumented⟩ := documented?_eq hformat hparse
  rw [hps, Option.getD_some] at hdocumented
  have hfilled : doc ≠ [] := by
    rintro rfl
    obtain ⟨n, -, -, -, hline⟩ := hstands
    have hnothing : splitLines (clean []) = [] := by decide
    rw [hnothing] at hline
    cases hline
  have hspelling : ∃ s : Stars, key = s.text ++ v := hkey.elim (fun h => ⟨.none, h⟩) fun h => ⟨stars, h⟩
  obtain ⟨hname, htype⟩ : p.name = some (escapeStars key) ∧ p.entry.type = some t := by
    obtain ⟨text', hstands', hname, htype⟩ := param_stands_on_line hparse hps hp
    obtain ⟨s, rfl⟩ := hspelling
    rw [hstands'.unique hstands, hspelled.fieldParts (isKey_starred hne hword s) ht] at hname htype
    exact ⟨hname, htype⟩
  have hcast : p ∈ castParams ps := by
    refine mem_castParams hp fun q hq hqname => hsole q hq ?_
    obtain ⟨s, rfl⟩ := hspelling
    exact ⟨s, hqname.trans hname⟩
  have hbare : ∀ q ∈ castParams ps, q.name = some v → q = p := fun q hq hqname =>
    hsole q (castParams_subset ps hq) ⟨.none, by rw [hqname, Stars.text, List.nil_append, escapeStars_word hword]⟩
  rw [literalTypes_of_documented? hfilled hdocumented]
  have hmem : (some (escapeStars key), t) ∈ (Types.ofDocumented ⟨castParams ps, result⟩).params :=
    mem_ofDocumented.2 ⟨p, hcast, hname, htype, ht.ne_nil⟩
  refine ⟨by rw [hdocumented]; rfl, ?_, ?_⟩
  · have hsome := List.isEmpty_eq_false_iff.2 (List.ne_nil_of_mem hmem)
    rw [Types.isEmpty, hsome, Bool.false_and]
  · split
    · rename_i hplain
      rw [hplain, escapeStars_word hword] at hmem
      refine lookup_eq_some ⟨_, hmem, rfl⟩ fun entry hentry hentryname => ?_
      obtain ⟨q, hq, hqname, hqtype, -⟩ := mem_ofDocumented.1 hentry
      rw [hbare q hq (hqname.trans hentryname), htype] at hqtype
      exact (Option.some.inj hqtype).symm
    · rename_i hother
      refine List.lookup_eq_none_iff.2 fun entry hentry => ?_
      rw [bne_iff_ne]
      intro hentryname
      obtain ⟨q, hq, hqname, -⟩ := mem_ofDocumented.1 hentry
      have hqv : q.name = some v := hqname.trans hentryname.symm
      rw [hbare q hq hqv, hname, hkey.resolve_left hother] at hqv
      exact escapeStars_ne hword hstars (Option.some.inj hqv)

/-! ### The comment -/

theorem docLiteral?_of_blockDoc? (h : blockDoc? b = some doc) : docLiteral? b = some (.text doc) := by
  obtain ⟨value, hvalue, htext⟩ := Option.bind_eq_some_iff.1 h
  cases value with
  | text text =>
    obtain rfl := Option.some.inj htext
    exact hvalue
  | bytes bs => cases htext

theorem readsText_of_blockDoc? (h : blockDoc? b = some doc) : readsText b = true := by
  have hliteral := docLiteral?_of_blockDoc? h
  rw [docLiteral?, Block.docstring] at hliteral
  cases ht : b.docToken with
  | none => rw [readsText, ht, Option.all_none]
  | some token =>
    rw [ht] at hliteral
    cases hvalue : literalValue token.text with
    | error fault => simp [hvalue, Except.map] at hliteral
    | ok value =>
      obtain rfl : value = .text doc := by simpa [hvalue, Except.map] using hliteral
      simp [readsText, ht, hvalue, Except.toOption, text?]

theorem readable_of_usedDoc? (h : usedDoc? f = some doc) (hd : (documented? defaults doc).isSome = true) :
    Readable defaults f where
  text b hb := by
    obtain ⟨b', hb', hdoc⟩ := Option.bind_eq_some_iff.1 h
    obtain rfl := Option.some.inj (hb'.symm.trans hb)
    exact readsText_of_blockDoc? hdoc
  parsed doc' hdoc' _ := by
    obtain rfl := Option.some.inj (h.symm.trans hdoc')
    exact hd

theorem definition_doc (hname : (f.name == "__init__".toList) = isConstructor f) (hb : f.body.block? = some b)
    (h : usedDoc? f = some doc) : (definition f b).doc = some (.text doc) := by
  obtain ⟨b', hblock, hdoc⟩ := Option.bind_eq_some_iff.1 h
  have hliteral := docLiteral?_of_blockDoc? hdoc
  rw [docBlock?, hb, Option.bind_some] at hblock
  show (docLiteral? b <|> if f.name == "__init__".toList then (classBlock? f.enclosing).bind docLiteral? else none) = _
  split at hblock
  · obtain rfl := Option.some.inj hblock
    rw [hliteral]
    rfl
  · rename_i hown
    split at hblock
    · rename_i hinit
      have hnone : docLiteral? b = none := by
        rw [docLiteral?, Block.docstring, Option.not_isSome_iff_eq_none.1 hown]
        rfl
      rw [hname, if_pos hinit, hblock, Option.bind_some, hliteral, hnone]
      rfl
    · cases hblock

/-- The comment that a function gets whose docstring documents a type. -/
theorem convertFunction_documented (hclass : f.enclosing ≠ .oneLine)
    (hname : (f.name == "__init__".toList) = isConstructor f) (hb : f.body.block? = some b)
    (hopt : isOptOut b.indent.before = false) (hdoc : usedDoc? f = some doc)
    (hd : (documented? defaults doc).isSome = true) (htypes : (literalTypes defaults (.text doc)).isEmpty = false)
    {names : List (List Char × Stars)} (hnames : parameterNames? f.parameters = some names) (s : Progress) :
    ∃ result s', (convertFunction defaults file f).run.run s =
      (.ok ((withComment b.indent.text b.indent.before (typeComment
        (entries defaults (literalTypes defaults (.text doc)) f.enclosing.isClass names) result)).map
          (⟨b.indent.line, ·⟩)), s') := by
  obtain ⟨s', hrun⟩ : ∃ s', (convertFunction defaults file f).run.run s = _ :=
    convertFunction_run hclass hname (readable_of_usedDoc? hdoc hd) hb s
  rw [hnames, Option.isNone_some, Bool.and_false, if_neg Bool.false_ne_true] at hrun
  have hparameters : (definition f b).parameters = names := by
    rw [definition, hnames, Option.getD_some]
  have hfound : (definition f b).types? defaults = some (literalTypes defaults (.text doc)) := by
    have hbefore : isOptOut (definition f b).before = false := hopt
    rw [Definition.types?, hbefore, definition_doc hname hb hdoc]
    rfl
  refine ⟨typeOr (defaultResult defaults f.enclosing.isClass f.name) (literalTypes defaults (.text doc)).result, s', ?_⟩
  rw [hrun, edit?, hb, Option.bind_some, Definition.newBefore_eq, hfound, Option.bind_some,
    if_neg (by simp [htypes]), Definition.comment, definition_isMethod hclass, hparameters, argumentTypes_eq]
  rfl

/-- How many entries are left out at the start of a comment. -/
def omitted (defaults : Defaults) (types : Types) (f : Function) (names : List (List Char × Stars)) : Nat :=
  if f.enclosing.isClass && opensUntyped defaults types names then 1 else 0

section
variable {types : Types} {front rest : List (List Char × Stars)}

/-- A parameter with a documented type is not left out. -/
theorem entries_of_documented (h : types.params.lookup (some v) = some t) (hstar : '*' ∉ t) :
    entries defaults types f.enclosing.isClass (front ++ (v, stars) :: rest) =
      (front.map (entry defaults types)).drop (omitted defaults types f (front ++ (v, stars) :: rest)) ++
        (stars.text ++ t) :: rest.map (entry defaults types) := by
  have hentry : entry defaults types (v, stars) = stars.text ++ t := by
    rw [entry, entryType, h, trimBy_of_not_mem hstar]
  rw [entries, omitted, List.map_append, List.map_cons, hentry]
  cases front with
  | nil =>
    have hopens : opensUntyped defaults types ([] ++ (v, stars) :: rest) = false := by simp [opensUntyped, h]
    rw [hopens, Bool.and_false]
    rfl
  | cons p front => exact List.drop_append_of_le_length (by split <;> simp)

/-- A parameter without a documented type has the default for its name, unless it is left out. -/
theorem entries_of_undocumented (h : types.params.lookup (some v) = none) :
    entries defaults types f.enclosing.isClass (front ++ (v, stars) :: rest) =
      (front.map (entry defaults types) ++ (stars.text ++ trimBy (· == '*')
        ((defaults.argTypes.lookup v).getD "Any".toList)) :: rest.map (entry defaults types)).drop
          (omitted defaults types f (front ++ (v, stars) :: rest)) := by
  rw [entries, omitted, List.map_append, List.map_cons, entry_of_undocumented h]

end

/-- The comment of a function with a starred parameter that its docstring documents once. Under its bare name the
parameter has the documented type, after its stars. Under its starred spelling it has the default for its name, else
`Any`, as if it were not documented. -/
theorem starred_parameter_entry {source : List Char} {tree : Tree} {place : Nat} {opening : Token}
    (hread : read source = .ok tree) (hf : f ∈ tree.allFunctions) (hstarred : f.hasStarred place stars v = true)
    (hopening : f.opening? = some opening) (hopt : trim opening.before ≠ "# notype".toList)
    (hdoc : usedDoc? f = some doc) (hformat : chooseFormat defaults.format doc = style.format)
    (hkey : key = v ∨ key = stars.text ++ v) (ht : IsEnclosed t) (hstar : '*' ∉ t)
    (h : style.DocumentsAs doc v key t) (s : Progress) :
    ∃ types front rest arguments result s', types = literalTypes defaults (.text doc) ∧
      front = namesInList true .none (f.parameterParts.take place) ∧
      parameterNames? f.parameters = some (front ++ (v, stars) :: rest) ∧
      (convertFunction defaults file f).run.run s = (.ok ((withComment opening.text opening.before
        (typeComment arguments result)).map (⟨opening.line, ·⟩)), s') ∧
      (key = v → arguments =
        (front.map (entry defaults types)).drop (omitted defaults types f (front ++ (v, stars) :: rest)) ++
          (stars.text ++ t) :: rest.map (entry defaults types)) ∧
      (key = stars.text ++ v → arguments =
        (front.map (entry defaults types) ++ (stars.text ++ trimBy (· == '*')
          ((defaults.argTypes.lookup v).getD "Any".toList)) :: rest.map (entry defaults types)).drop
            (omitted defaults types f (front ++ (v, stars) :: rest))) := by
  obtain ⟨printWord, hstands⟩ := read_functionStands hread
  obtain ⟨hkind, hname, -⟩ := (hstands f hf).header
  obtain ⟨hne, hword⟩ := isWord_of_hasStarred hread hf hstarred
  have hstars := (Function.exists_of_hasStarred hstarred).1
  obtain ⟨hd, htypes, hlookup⟩ := lookup_of_documentsAs hformat hne hword hkey hstars ht h
  obtain ⟨rest, hnames⟩ := parameterNames?_of_hasStarred hstarred
  obtain ⟨b, hb, rfl⟩ := Option.map_eq_some_iff.1 hopening
  obtain ⟨result, s', hrun⟩ : ∃ result s', (convertFunction defaults file f).run.run s = (.ok _, s') :=
    convertFunction_documented (read_enclosing hread hf) (name_beq_init (read_apt hread _ hname) hkind) hb
      (by simpa [isOptOut] using hopt) hdoc hd htypes hnames s
  refine ⟨_, _, rest, _, result, s', rfl, rfl, hnames, hrun, fun hplain => ?_, fun hspelled => ?_⟩
  · rw [if_pos hplain] at hlookup
    exact entries_of_documented hlookup hstar
  · have hother : key ≠ v := by
      intro hplain
      have hnothing : stars.text = [] := List.append_left_eq_self.1 (hspelled.symm.trans hplain)
      cases stars with
      | none => exact hstars rfl
      | one | two => cases hnothing
    rw [if_neg hother] at hlookup
    exact entries_of_undocumented hlookup

/-- A function that documents one starred parameter with its stars and another one without. -/
def starredSource : List Char :=
  "def f(*v, **w):\n  \"\"\"\n  Args:\n   *v (int): n\n   w (str): m\n  \"\"\"\n".toList

def starredDoc : List Char :=
  "\n  Args:\n   *v (int): n\n   w (str): m\n  ".toList

theorem splitLines_starredDoc : splitLines (clean starredDoc) =
    ["Args:".toList, " *v (int): n".toList, " w (str): m".toList] := by
  decide +kernel

theorem parse_starredDoc : Style.google.parse (splitLines (clean starredDoc)) =
    .ok ⟨some [⟨some "\\*v".toList, ⟨some "int".toList, some 3⟩⟩, ⟨some "w".toList, ⟨some "str".toList, some 4⟩⟩],
      none, none⟩ := by
  rw [splitLines_starredDoc]
  exact eq_ok_of_toOption (by decide +kernel)

theorem documentsAs_starredDoc : Style.google.DocumentsAs starredDoc "v".toList "*v".toList "int".toList ∧
    Style.google.DocumentsAs starredDoc "w".toList "w".toList "str".toList := by
  have hpad : ∀ c ∈ " ".toList, isBlank c = true := List.all_eq_true.1 (by decide +kernel)
  have hdesc (c : Char) : ∀ d ∈ [' ', c].head?, isBlank d = true := by
    rintro d ⟨⟩
    decide
  refine ⟨⟨_, _, _, " *v (int): n".toList, parse_starredDoc, rfl, .head _, ?_, .google hpad (hdesc 'n'), ?_⟩,
    ⟨_, _, _, " w (str): m".toList, parse_starredDoc, rfl, .tail _ (.head _), ?_, .google hpad (hdesc 'm'), ?_⟩⟩
  · exact ⟨3, rfl, by decide, by rw [splitLines_starredDoc]; decide, by rw [splitLines_starredDoc]; rfl⟩
  · rintro q hq ⟨stars, hname⟩
    rcases List.mem_cons.1 hq with rfl | hq
    · rfl
    · obtain rfl := List.mem_singleton.1 hq
      cases stars <;> exact absurd hname (by decide)
  · exact ⟨4, rfl, by decide, by rw [splitLines_starredDoc]; decide, by rw [splitLines_starredDoc]; rfl⟩
  · rintro q hq ⟨stars, hname⟩
    rcases List.mem_cons.1 hq with rfl | hq
    · cases stars <;> exact absurd hname (by decide)
    · exact List.mem_singleton.1 hq

theorem starred_parameter_entry_mixed : ∃ tree f opening, read starredSource = .ok tree ∧ f ∈ tree.allFunctions ∧
    f.hasStarred 0 .one "v".toList = true ∧ f.hasStarred 3 .two "w".toList = true ∧ f.opening? = some opening ∧
    usedDoc? f = some starredDoc ∧
    (∃ rest result s', (convertFunction {} [] f).run.run ⟨tree, false, []⟩ =
      (.ok ((withComment opening.text opening.before
        (typeComment ("*Any".toList :: rest) result)).map (⟨opening.line, ·⟩)), s')) ∧
    ∃ front rest result s', (convertFunction {} [] f).run.run ⟨tree, false, []⟩ =
      (.ok ((withComment opening.text opening.before
        (typeComment (front ++ "**str".toList :: rest) result)).map (⟨opening.line, ·⟩)), s') := by
  have hcheck : (read starredSource).toOption.any (fun tree => tree.allFunctions.any fun f =>
      f.hasStarred 0 .one "v".toList && f.hasStarred 3 .two "w".toList && !f.enclosing.isClass &&
        usedDoc? f == some starredDoc && f.opening?.any fun t => trim t.before != "# notype".toList) = true := by
    decide +kernel
  obtain ⟨tree, htree, hcheck⟩ := (Option.any_eq_true _ _).1 hcheck
  obtain ⟨f, hf, hcheck⟩ := List.any_eq_true.1 hcheck
  simp only [Bool.and_eq_true, Bool.not_eq_true', beq_iff_eq, bne_iff_ne, Option.any_eq_true] at hcheck
  obtain ⟨⟨⟨⟨hv, hw⟩, houtside⟩, hdoc⟩, opening, hopening, hopt⟩ := hcheck
  have hread := eq_ok_of_toOption htree
  have hformat : chooseFormat ({} : Defaults).format starredDoc = Style.google.format := by decide +kernel
  have hkept (types : Types) (names : List (List Char × Stars)) : omitted {} types f names = 0 := by
    rw [omitted, houtside]
    rfl
  obtain ⟨types, front, rest, arguments, result, s', -, hfront, -, hrun, -, harguments⟩ :=
    starred_parameter_entry hread hf hv hopening hopt hdoc hformat (.inr rfl) (by decide) (by decide)
      documentsAs_starredDoc.1 ⟨tree, false, []⟩
  obtain ⟨types', front', rest', arguments', result', s'', -, -, -, hrun', harguments', -⟩ :=
    starred_parameter_entry hread hf hw hopening hopt hdoc hformat (.inl rfl) (by decide) (by decide)
      documentsAs_starredDoc.2 ⟨tree, false, []⟩
  refine ⟨tree, f, opening, hread, hf, hv, hw, hopening, hdoc, ⟨rest.map (entry {} types), result, s', ?_⟩,
    ⟨front'.map (entry {} types'), rest'.map (entry {} types'), result', s'', ?_⟩⟩
  · rw [hrun, harguments rfl, hkept, hfront]
    rfl
  · rw [hrun', harguments' rfl, hkept]
    rfl

/-- A parameter that is documented with its star has no type, where its bare name gives it the documented one. -/
theorem starred_spelling_untyped :
    ["*v".toList, "v".toList].map (fun key => (read ("def f(*v):\n  \"\"\"\n  Args:\n   ".toList ++ key ++
      " (int): n\n  \"\"\"\n".toList)).toOption.map fun tree => tree.allFunctions.map fun f =>
        ((convertFunction {} [] f).run.run ⟨tree, false, []⟩).1.toOption.map (·.map Edit.before)) =
      [some [some (some "  # type: (*Any) -> Any\n".toList)], some [some (some "  # type: (*int) -> Any\n".toList)]] := by
  decide +kernel

end TypeComments.Signature
