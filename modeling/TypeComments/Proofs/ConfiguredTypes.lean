import TypeComments.Proofs.RepeatedConversion
import TypeComments.Proofs.SettingsFile
import TypeComments.Proofs.SettingsPrecedence
import TypeComments.Proofs.SignatureEntries

/-!
# Types of arguments from a settings file

A settings file can give types to arguments by their names. The file is read with its keys in lower case, and a
parameter is looked up as it is spelled, so a type applies to the parameter that it names just if that name is in
lower case (`argTypes_lookup`); any other parameter without a documented type stays `Any`.
-/

namespace TypeComments.Source
variable {f : Function} {comma : Token} {name : List Char} {place : Nat}

theorem namesInList_append_comma (h : comma.IsOperator ",") (wanted : Bool) (stars : Stars) (before rest : List Tree) :
    namesInList wanted stars (before ++ .leaf comma :: rest) =
      namesInList wanted stars before ++ namesInList true .none rest := by
  induction before generalizing wanted stars with
  | nil => exact namesInList_comma h
  | cons part before ih =>
    rw [List.cons_append, namesInList.eq_def, namesInList.eq_def wanted stars (part :: before)]
    dsimp only
    split
    · cases part with
      | leaf t => exact congrArg ((t.text, stars) :: ·) (ih false stars)
      | node rule parts => exact ih false stars
    split
    · exact ih wanted .one
    split
    · exact ih wanted .two
    split
    · exact ih true .none
    · exact ih wanted stars

def Tree.isNamed (name : List Char) : Tree → Bool
  | .leaf t => t.kind = .name && t.text == name
  | .node _ _ => false

def Tree.isComma : Tree → Bool
  | .leaf t => t.kind = .operator && t.text == [',']
  | .node _ _ => false

/-- Does a parameter of this name, without stars, stand at this place of the list? -/
def Function.hasPlain (f : Function) (place : Nat) (name : List Char) : Bool :=
  f.parameterParts[place]?.any (Tree.isNamed name) && (f.parameterParts.take place).getLast?.all Tree.isComma

theorem Tree.exists_of_isNamed {t : Tree} (h : t.isNamed name = true) :
    ∃ token : Token, t = .leaf token ∧ token.kind = .name ∧ token.text = name := by
  cases t with
  | leaf token =>
    rw [isNamed, Bool.and_eq_true, decide_eq_true_eq, beq_iff_eq] at h
    exact ⟨token, rfl, h.1, h.2⟩
  | node rule parts => cases h

theorem Tree.exists_of_isComma {t : Tree} (h : t.isComma = true) : ∃ comma : Token, t = .leaf comma ∧ comma.IsOperator "," := by
  cases t with
  | leaf comma =>
    rw [isComma, Bool.and_eq_true, decide_eq_true_eq, beq_iff_eq] at h
    exact ⟨comma, rfl, h⟩
  | node rule parts => cases h

theorem eq_nil_or_comma {parts : List Tree} (h : parts.getLast?.all Tree.isComma = true) :
    parts = [] ∨ ∃ front comma, parts = front ++ [.leaf comma] ∧ comma.IsOperator "," := by
  cases hlast : parts.getLast? with
  | none => exact .inl (List.getLast?_eq_none_iff.1 hlast)
  | some last =>
    rw [hlast] at h
    obtain ⟨comma, rfl, hoperator⟩ := Tree.exists_of_isComma h
    obtain ⟨front, hfront⟩ := List.getLast?_eq_some_iff.1 hlast
    exact .inr ⟨front, comma, hfront, hoperator⟩

theorem Function.exists_of_hasPlain (h : f.hasPlain place name = true) : ∃ token after,
    f.parameterParts = f.parameterParts.take place ++ .leaf token :: after ∧ token.kind = .name ∧ token.text = name := by
  obtain ⟨hname, -⟩ := Bool.and_eq_true_iff.1 h
  obtain ⟨part, hpart, hname⟩ := (Option.any_eq_true _ _).1 hname
  obtain ⟨token, rfl, hkind, htext⟩ := Tree.exists_of_isNamed hname
  obtain ⟨hlt, hget⟩ := List.getElem?_eq_some_iff.1 hpart
  refine ⟨token, f.parameterParts.drop (place + 1), ?_, hkind, htext⟩
  rw [← hget, ← List.drop_eq_getElem_cons hlt, List.take_append_drop]

theorem exists_parameterNames? {token : Token} (h : Tree.leaf token ∈ f.parameterParts) (hkind : token.kind = .name) :
    ∃ names, parameterNames? f.parameters = some names := by
  unfold Function.parameterParts at h
  cases hp : f.parameters with
  | none => exact ⟨[], rfl⟩
  | some t =>
    rw [hp] at h
    cases t with
    | leaf t =>
      cases List.mem_singleton.1 h
      exact ⟨_, if_pos hkind⟩
    | node rule parts =>
      dsimp only at h
      split at h
      · exact ⟨_, if_pos ‹_›⟩
      · cases List.mem_singleton.1 h

/-- The names of the parameters, those in front of one that opens the list or follows a comma first. -/
theorem parameterNames?_split {before ss after : List Tree} {stars : Stars} {token : Token}
    (hparts : f.parameterParts = before ++ (ss ++ .leaf token :: after))
    (hbefore : before.getLast?.all Tree.isComma = true) (hs : stars.Spelled ss) (hkind : token.kind = .name) :
    ∃ rest, parameterNames? f.parameters = some (namesInList true .none before ++ (token.text, stars) :: rest) := by
  obtain ⟨names, hnames⟩ := exists_parameterNames? (by rw [hparts]; simp) hkind
  have htoken : namesInList true .none (ss ++ .leaf token :: after) = (token.text, stars) :: namesInList false stars after := by
    rw [hs.namesInList, namesInList, Tree.isLeaf, hkind]
    rfl
  refine ⟨namesInList false stars after, ?_⟩
  rw [hnames, parameterNames?_eq hnames, hparts]
  rcases eq_nil_or_comma hbefore with rfl | ⟨front, comma, rfl, hcomma⟩
  · rw [List.nil_append, htoken]
    rfl
  · rw [List.append_assoc, List.singleton_append, namesInList_append_comma hcomma, namesInList_append_comma hcomma, htoken]
    simp [namesInList]

theorem parameterNames?_of_hasPlain (h : f.hasPlain place name = true) : ∃ rest, parameterNames? f.parameters =
    some (namesInList true .none (f.parameterParts.take place) ++ (name, .none) :: rest) := by
  obtain ⟨token, after, hparts, hkind, rfl⟩ := Function.exists_of_hasPlain h
  exact parameterNames?_split hparts (Bool.and_eq_true_iff.1 h).2 .none hkind

end TypeComments.Source

namespace TypeComments.Command
open Settings Signature Source

variable {inv : Invocation} {given : Assigned} {p : Plan} {text n t : List Char}

theorem configure_argTypes (hplan : configure inv given = .ok p)
    (hfile : inv.store.read (joinPath (settingText given "config") configName) = .ok text) :
    ∃ ini, readIni text = .ok ini ∧ ini.allEntries argTypesSection = .ok p.argTypes := by
  obtain ⟨c, hc, rfl⟩ := configure_eq_ok_iff.1 hplan
  rw [hfile] at hc
  obtain ⟨ini, hini, -, htypes⟩ := applyConfig_eq_ok_iff.1 hc
  exact ⟨ini, hini, htypes⟩

/-- A type is found for the name that the file gives it to, if that name is in lower case, and else for no such
name. -/
theorem argTypes_lookup (hplan : configure inv given = .ok p)
    (hfile : inv.store.read (joinPath (settingText given "config") configName) = .ok text)
    (hentry : SoleEntry argTypesSection n t (fileLines text))
    (hn : n ≠ []) (hword : ∀ c ∈ n, isWord c = true) (ht : Tight t) (hpercent : '%' ∉ t) :
    p.argTypes.lookup n = if lower n = n then some t else none := by
  obtain ⟨ini, hini, htypes⟩ := configure_argTypes hplan hfile
  split
  · rename_i hlower
    have hown := readIni_lookup (by decide) (by decide) hn hword ht hentry hini
    rw [hlower] at hown
    exact Ini.allEntries_lookup htypes hown hpercent
  · rename_i hlower
    cases hlookup : p.argTypes.lookup n with
    | none => rfl
    | some type =>
      have hmem := mem_of_lookup_eq_some hlookup
      exact absurd (Ini.allEntries_lowered htypes (readIni_lowered hini) _ hmem) hlower

theorem convertText_ok {name source : List Char} {c : Converted} {w w' : Work}
    (h : (convertText p name source).run.run w = (.ok (some c), w')) :
    ∃ tree ms, read source = .ok tree ∧ (convertTree p.defaults name tree).run.run [] = (.ok c, ms) := by
  unfold convertText at h
  split at h
  · cases h
  · obtain ⟨_, w₁, -, h⟩ := run_bind_eq_ok h
    cases h
  · rename_i tree hread
    obtain ⟨_, w₁, -, h⟩ := run_bind_eq_ok h
    cases hrun : (convertTree p.defaults name tree).run.run [] with
    | mk outcome ms =>
      rw [hrun] at h
      obtain ⟨_, w₂, -, h⟩ := run_bind_eq_ok h
      cases outcome with
      | error fault => cases h
      | ok converted =>
        cases h
        exact ⟨tree, ms, hread, hrun⟩

theorem argumentTypes_append {defaults : Defaults} {types : Types} (names rest : List (List Char × Stars))
    (hundocumented : types.params.lookup (some n) = none) :
    argumentTypes defaults types false (names ++ (n, .none) :: rest) =
      names.map (entry defaults types) ++
        trimBy (· == '*') ((defaults.argTypes.lookup n).getD "Any".toList) :: rest.map (entry defaults types) := by
  rw [argumentTypes_eq, entries, Bool.false_and, if_neg Bool.false_ne_true, List.drop_zero, List.map_append,
    List.map_cons, entry_of_undocumented hundocumented]
  rfl

/-- What a run writes for a function outside classes whose docstring documents some type: a comment in which a plain
parameter without a documented type has the type that the file gives to its name, if that name is in lower case, and
else `Any`. -/
theorem configured_type_of_lower_case {name source : List Char} {c : Converted} {w w' : Work}
    (hplan : configure inv given = .ok p)
    (hfile : inv.store.read (joinPath (settingText given "config") configName) = .ok text)
    (hentry : SoleEntry argTypesSection n t (fileLines text)) (hn : n ≠ []) (hword : ∀ c ∈ n, isWord c = true)
    (ht : Tight t) (hpercent : '%' ∉ t)
    (hrun : (convertText p name source).run.run w = (.ok (some c), w')) :
    ∃ tree e, read source = .ok tree ∧ Retouch e ∧ c.text = (tree.mapTokens e).source ∧
      ∀ f ∈ tree.allFunctions, f.enclosing = .nothing → ∀ d ∈ definition? f, ∀ types ∈ d.types? p.defaults,
        types.isEmpty = false → types.params.lookup (some n) = none → ∀ place, f.hasPlain place n = true →
          ∃ opening rest result comment, f.opening? = some opening ∧
            comment = typeComment ((namesInList true .none (f.parameterParts.take place)).map (entry p.defaults types) ++
              (if lower n = n then trimBy (· == '*') t else "Any".toList) :: rest) result ∧
            (e opening).before = if d.before = comment then comment
              else d.blanks ++ comment ++ if isTypeComment d.before then [] else d.before := by
  have hlookup := argTypes_lookup hplan hfile hentry hn hword ht hpercent
  obtain ⟨tree, ms, hread, htree⟩ := convertText_ok hrun
  obtain ⟨htext, hall⟩ := convertTree_ok hread htree
  refine ⟨tree, editAll p.defaults tree, hread, retouch_editAll _ _, htext, ?_⟩
  intro f hf houtside d hd types htypes hne hundocumented place hplain
  obtain ⟨d', opening, hd', hopening, -, hbefore, hedit⟩ := editToken_opening hread hf (hall f hf)
  cases Option.some.inj (hd'.symm.trans hd)
  obtain ⟨rest, hnames⟩ := parameterNames?_of_hasPlain hplain
  obtain ⟨b, hb, rfl⟩ := Option.map_eq_some_iff.1 hd
  have hmethod : (definition f b).isMethod = false := by
    rw [definition, houtside]
  have hparameters : (definition f b).parameters =
      namesInList true .none (f.parameterParts.take place) ++ (n, .none) :: rest := by
    rw [definition, hnames, Option.getD_some]
  have hargument : trimBy (· == '*') ((p.defaults.argTypes.lookup n).getD "Any".toList) =
      if lower n = n then trimBy (· == '*') t else "Any".toList := by
    show trimBy (· == '*') ((p.argTypes.lookup n).getD "Any".toList) = _
    rw [hlookup]
    split <;> rfl
  refine ⟨opening, rest.map (entry p.defaults types), typeOr (defaultResult p.defaults false f.name) types.result,
    (definition f b).comment p.defaults types, hopening, ?_, ?_⟩
  · rw [Definition.comment, hmethod, hparameters, argumentTypes_append _ _ hundocumented, hargument]
    rfl
  · have hnew : (definition f b).newBefore p.defaults =
        withComment (definition f b).blanks (definition f b).before ((definition f b).comment p.defaults types) := by
      rw [Definition.newBefore_eq, htypes, Option.bind_some, if_neg (by simp [hne])]
    rw [editAll, hedit, hnew]
    show (withComment _ _ _).getD opening.before = _
    rw [← hbefore]
    -- a comment that is there already, at the margin, is not written again
    split
    · rename_i hsame
      rw [withComment, if_pos (beq_iff_eq.2 hsame)]
      exact hsame
    · rename_i hother
      rw [withComment, if_neg (by simpa using hother)]
      split
      · rw [Option.getD_some, List.append_nil]
      · rw [Option.getD_some]

def callWith (settings : List Char) : Invocation where
  arguments := ["m.py".toList]
  store := { files := [([configName], settings)] }

def typedSettings : List Char :=
  "[doc484]\nverbose = no\n[doc484:default_arg_types]\n; by name\nn = *int\n\n[x]\n".toList

/-- A function with a documented parameter and another one, which has a default. -/
def typedSource : List Char :=
  "def f(x, n=0):\n  \"\"\"\n  Args:\n   x (str)\n  \"\"\"\n".toList

theorem soleEntry_typedSettings : SoleEntry argTypesSection "n".toList "*int".toList (fileLines typedSettings) := by
  refine ⟨["[doc484]\n".toList, "verbose = no\n".toList], "[doc484:default_arg_types]\n".toList, ["; by name\n".toList],
    "n = *int\n".toList, ["\n".toList], ["[x]\n".toList], ?_⟩
  decide +kernel

theorem configured_type_of_lower_case_starred : ∃ p c w' tree e f opening rest result,
    configure (callWith typedSettings) [] = .ok p ∧
    (convertText p [] typedSource).run.run { store := {} } = (.ok (some c), w') ∧ read typedSource = .ok tree ∧
    Retouch e ∧ c.text = (tree.mapTokens e).source ∧ f ∈ tree.allFunctions ∧ f.opening? = some opening ∧
    (e opening).before = "  ".toList ++ typeComment ("str".toList :: "int".toList :: rest) result := by
  have hcheck : (configure (callWith typedSettings) []).toOption.any (fun p =>
      ((convertText p [] typedSource).run.run { store := {} }).1.toOption.any Option.isSome &&
      (read typedSource).toOption.any fun tree => tree.allFunctions.any fun f => !f.enclosing.isClass &&
        f.hasPlain 2 "n".toList && (definition? f).any fun d => d.before == [] && d.blanks == "  ".toList &&
          (d.types? p.defaults).any fun types => !types.isEmpty && (types.params.lookup (some "n".toList)).isNone &&
            (namesInList true .none (f.parameterParts.take 2)).map (entry p.defaults types) == ["str".toList]) = true := by
    decide +kernel
  obtain ⟨p, hp, hcheck⟩ := (Option.any_eq_true _ _).1 hcheck
  obtain ⟨hconverted, hcheck⟩ := Bool.and_eq_true_iff.1 hcheck
  obtain ⟨tree, htree, hcheck⟩ := (Option.any_eq_true _ _).1 hcheck
  obtain ⟨f, hf, hcheck⟩ := List.any_eq_true.1 hcheck
  obtain ⟨⟨houtside, hplain⟩, hcheck⟩ := (Bool.and_eq_true_iff.1 hcheck).imp_left Bool.and_eq_true_iff.1
  obtain ⟨d, hd, hcheck⟩ := (Option.any_eq_true _ _).1 hcheck
  obtain ⟨⟨hbefore, hblanks⟩, hcheck⟩ := (Bool.and_eq_true_iff.1 hcheck).imp_left Bool.and_eq_true_iff.1
  obtain ⟨types, htypes, hcheck⟩ := (Option.any_eq_true _ _).1 hcheck
  obtain ⟨⟨hne, hundocumented⟩, hfirst⟩ := (Bool.and_eq_true_iff.1 hcheck).imp_left Bool.and_eq_true_iff.1
  have henclosing : f.enclosing = .nothing := by
    cases henc : f.enclosing with
    | nothing => rfl
    | oneLine | body suite =>
      rw [henc] at houtside
      cases houtside
  have htight : Tight "*int".toList := by
    constructor
    · rintro c hc
      cases hc
      decide
    · rintro c hc
      cases hc
      decide
  have hplan := eq_ok_of_toOption hp
  have hfile : (callWith typedSettings).store.read (joinPath (settingText [] "config") configName) = .ok typedSettings := by
    rfl
  obtain ⟨found, hfound, hsome⟩ := (Option.any_eq_true _ _).1 hconverted
  obtain ⟨c, rfl⟩ := Option.isSome_iff_exists.1 hsome
  obtain ⟨w', hrun⟩ := run_eq_ok_of_toOption hfound
  obtain ⟨tree', e, hread, he, htext, hall⟩ := configured_type_of_lower_case hplan hfile
    soleEntry_typedSettings (by decide) (List.all_eq_true.1 (by decide +kernel)) htight (by decide) hrun
  cases (eq_ok_of_toOption htree).symm.trans hread
  obtain ⟨opening, rest, result, comment, hopening, rfl, hcomment⟩ := hall f hf henclosing d hd types htypes
    (by simpa using hne) (Option.isNone_iff_eq_none.1 hundocumented) 2 hplain
  refine ⟨p, c, w', tree, e, f, opening, rest, result, hplan, hrun, hread, he, htext, hf, hopening, ?_⟩
  rw [hcomment, beq_iff_eq.1 hbefore, beq_iff_eq.1 hblanks, beq_iff_eq.1 hfirst]
  have hlower : lower "n".toList = "n".toList := by decide +kernel
  have hother : [] ≠ typeComment (["str".toList] ++ trimBy (· == '*') "*int".toList :: rest) result :=
    Ne.symm (List.append_ne_nil_of_right_ne_nil _ (List.cons_ne_nil _ _))
  rw [if_pos hlower, if_neg hother, ite_self, List.append_nil]
  rfl

/-- A type for a name with a capital letter is taken for another name. -/
theorem capital_name_untyped : (configure (callWith "[doc484:default_arg_types]\nN = int\n".toList) []).toOption.map (fun p =>
      (p.argTypes, (read "def f(x, N):\n  \"\"\"\n  Args:\n   x (str)\n  \"\"\"\n".toList).toOption.map fun tree =>
        tree.allFunctions.map fun f =>
          ((convertFunction p.defaults [] f).run.run ⟨tree, false, []⟩).1.toOption.map (·.map Edit.before))) =
    some ([("n".toList, "int".toList)], some [some (some "  # type: (str, Any) -> Any\n".toList)]) := by
  decide +kernel

end TypeComments.Command
