import Mathlib.Data.List.Perm.Subperm
import TypeComments.Proofs.Reading
import TypeComments.Source.Function

/-!
# The functions of a changed tree

A change of tokens that only replaces the text in front of tokens that open blocks (`Retouch`), or only what
functions do not depend on (`Recast`), leaves the functions of a tree as they are, apart from the text in front of
their bodies (`functions_mapTokens`, `Recast.block?`). The tokens that open the bodies of the functions are leaves of
the tree, each used once (`openings_subperm`), so in a tree that was read no two functions open on one line
(`read_openings`). The parts of a function that was read are derived by the grammar (`read_functionStands`).
-/

namespace TypeComments.Source

/-! ### Changing tokens -/

def Enclosing.mapTokens (e : Token → Token) : Enclosing → Enclosing
  | .nothing => .nothing
  | .oneLine => .oneLine
  | .body suite => .body (suite.mapTokens e)

def Function.mapTokens (e : Token → Token) (f : Function) : Function where
  nameToken := e f.nameToken
  parameters := f.parameters.map (Tree.mapTokens e)
  body := f.body.mapTokens e
  enclosing := f.enclosing.mapTokens e
  depth := f.depth

section
variable (e : Token → Token)

theorem mapTokensAll_eq (ts : List Tree) : Tree.mapTokensAll e ts = ts.map (Tree.mapTokens e) := by
  induction ts with
  | nil => rfl
  | cons t rest ih => simp [Tree.mapTokensAll, ih]

mutual

theorem Tree.leaves_mapTokens : (t : Tree) → (t.mapTokens e).leaves = t.leaves.map e
  | .leaf t => by simp [Tree.mapTokens, Tree.leaves]
  | .node rule parts => by simp [Tree.mapTokens, Tree.leaves, leavesAll_mapTokens parts]

theorem leavesAll_mapTokens : (ts : List Tree) → Tree.leavesAll (Tree.mapTokensAll e ts) = (Tree.leavesAll ts).map e
  | [] => rfl
  | t :: rest => by
    simp [Tree.mapTokensAll, Tree.leavesAll, t.leaves_mapTokens, leavesAll_mapTokens rest]

end

mutual

theorem Tree.mapTokens_mapTokens (e' : Token → Token) : (t : Tree) →
    (t.mapTokens e).mapTokens e' = t.mapTokens (e' ∘ e)
  | .leaf t => rfl
  | .node rule parts => by simp only [Tree.mapTokens, mapTokensAll_mapTokensAll e' parts]

theorem mapTokensAll_mapTokensAll (e' : Token → Token) : (ts : List Tree) →
    Tree.mapTokensAll e' (Tree.mapTokensAll e ts) = Tree.mapTokensAll (e' ∘ e) ts
  | [] => rfl
  | t :: rest => by
    simp only [Tree.mapTokensAll, t.mapTokens_mapTokens e', mapTokensAll_mapTokensAll e' rest]

end

mutual

theorem Tree.mapTokens_of_id (h : ∀ t, e t = t) : (t : Tree) → t.mapTokens e = t
  | .leaf t => by rw [Tree.mapTokens, h]
  | .node rule parts => by rw [Tree.mapTokens, mapTokensAll_of_id h parts]

theorem mapTokensAll_of_id (h : ∀ t, e t = t) : (ts : List Tree) → Tree.mapTokensAll e ts = ts
  | [] => rfl
  | t :: rest => by rw [Tree.mapTokensAll, t.mapTokens_of_id h, mapTokensAll_of_id h rest]

end

@[simp] theorem Tree.isNode_mapTokens (rule : Rule) (t : Tree) : (t.mapTokens e).isNode rule = t.isNode rule := by
  cases t <;> rfl

@[simp] theorem Tree.children_mapTokens (t : Tree) :
    (t.mapTokens e).children = t.children.map (Tree.mapTokens e) := by
  cases t with
  | leaf t => rfl
  | node rule parts => exact mapTokensAll_eq e parts

theorem Enclosing.mapTokens_ne_oneLine {enclosing : Enclosing} (h : enclosing ≠ .oneLine) :
    enclosing.mapTokens e ≠ .oneLine := by
  cases enclosing with
  | oneLine => exact absurd rfl h
  | nothing | body suite => simp [Enclosing.mapTokens]

theorem Enclosing.ofParts_mapTokens (parts : List Tree) :
    Enclosing.ofParts (parts.map (Tree.mapTokens e)) = (Enclosing.ofParts parts).mapTokens e := by
  have hcomp : (Tree.isNode .suite ∘ Tree.mapTokens e) = Tree.isNode .suite :=
    funext fun t => t.isNode_mapTokens e .suite
  simp only [Enclosing.ofParts, List.find?_map, hcomp]
  cases parts.find? (Tree.isNode .suite) <;> rfl

theorem insideParentheses_mapTokens (t : Tree) :
    insideParentheses (t.mapTokens e) = (insideParentheses t).map (Tree.mapTokens e) := by
  simp only [insideParentheses, Tree.children_mapTokens]
  rcases t.children with _ | ⟨a, _ | ⟨b, _ | ⟨c, _ | ⟨d, rest⟩⟩⟩⟩ <;> rfl

theorem Function.ofParts?_mapTokens (enclosing : Enclosing) (depth : Nat) (parts : List Tree) :
    Function.ofParts? (enclosing.mapTokens e) depth (parts.map (Tree.mapTokens e)) =
      (Function.ofParts? enclosing depth parts).map (Function.mapTokens e) := by
  unfold Function.ofParts?
  rw [List.getLast?_map]
  rcases parts with _ | ⟨a, _ | ⟨b | b, _ | ⟨c, rest⟩⟩⟩ <;> try rfl
  rw [List.getLast?_eq_some_getLast (by simp)]
  simp only [List.map_cons, Tree.mapTokens, Option.map_some, Function.mapTokens, insideParentheses_mapTokens]

mutual

theorem Tree.functions_mapTokens (enclosing : Enclosing) (depth : Nat) : (t : Tree) →
    (t.mapTokens e).functions (enclosing.mapTokens e) depth =
      (t.functions enclosing depth).map (Function.mapTokens e)
  | .leaf t => rfl
  | .node rule parts => by
    simp only [Tree.mapTokens, Tree.functions, List.map_append]
    congr 1
    · split
      · rw [mapTokensAll_eq, Function.ofParts?_mapTokens]
        cases Function.ofParts? enclosing depth parts <;> rfl
      · rfl
    · split
      · rw [← functionsAll_mapTokens _ _ parts, mapTokensAll_eq, Enclosing.ofParts_mapTokens]
      · exact functionsAll_mapTokens enclosing _ parts

theorem functionsAll_mapTokens (enclosing : Enclosing) (depth : Nat) : (ts : List Tree) →
    functionsAll (enclosing.mapTokens e) depth (Tree.mapTokensAll e ts) =
      (functionsAll enclosing depth ts).map (Function.mapTokens e)
  | [] => rfl
  | t :: rest => by
    simp only [Tree.mapTokensAll, functionsAll, List.map_append, t.functions_mapTokens enclosing depth,
      functionsAll_mapTokens enclosing depth rest]

end

theorem Tree.allFunctions_mapTokens (t : Tree) :
    (t.mapTokens e).allFunctions = t.allFunctions.map (Function.mapTokens e) :=
  t.functions_mapTokens e .nothing 0

end

/-! ### Changing what a function does not depend on -/

/-- A change of tokens that keeps their kinds and texts, and what stands in front of those that open no block. -/
structure Recast (e : Token → Token) : Prop where
  kind_eq : ∀ t, (e t).kind = t.kind
  text_eq : ∀ t, (e t).text = t.text
  before_eq : ∀ t : Token, t.kind ≠ .indent → (e t).before = t.before

namespace Recast
variable {e : Token → Token} (h : Recast e)
include h

theorem source_eq {t : Token} (ht : t.kind ≠ .indent) : (e t).source = t.source := by
  rw [Token.source, Token.source, h.before_eq t ht, h.text_eq]

theorem leadingString? (t : Tree) : (t.mapTokens e).leadingString? = t.leadingString?.map e := by
  simp only [Tree.leadingString?, Tree.children_mapTokens]
  rcases t.children with _ | ⟨u | u, rest⟩
  · rfl
  · simp only [List.map_cons, Tree.mapTokens, h.kind_eq]
    split <;> rfl
  · rfl

theorem block? (t : Tree) :
    (t.mapTokens e).block? = t.block?.map fun b => ⟨e b.indent, b.docToken.map e⟩ := by
  simp only [Tree.block?, Tree.children_mapTokens]
  rcases t.children with _ | ⟨a, _ | ⟨u | u, _ | ⟨first, rest⟩⟩⟩ <;> try rfl
  simp only [List.map_cons, Tree.mapTokens, h.kind_eq, h.leadingString?]
  split <;> rfl

theorem isLeaf (kind : Kind) (t : Tree) : (t.mapTokens e).isLeaf kind = t.isLeaf kind := by
  cases t with
  | leaf t => simp [Tree.mapTokens, Tree.isLeaf, h.kind_eq]
  | node rule parts => rfl

theorem isWord (text : String) (t : Tree) : (t.mapTokens e).isWord text = t.isWord text := by
  cases t with
  | leaf t => simp [Tree.mapTokens, Tree.isWord, h.text_eq]
  | node rule parts => rfl

theorem namesInList (wanted : Bool) (stars : Stars) (parts : List Tree) :
    namesInList wanted stars (parts.map (Tree.mapTokens e)) = namesInList wanted stars parts := by
  induction parts generalizing wanted stars with
  | nil => rfl
  | cons part rest ih =>
    simp only [List.map_cons, Source.namesInList, h.isLeaf, h.isWord, ih]
    cases part with
    | leaf t => simp only [Tree.mapTokens, h.text_eq]
    | node rule parts => rfl

theorem parameterNames? (parameters : Option Tree) :
    parameterNames? (parameters.map (Tree.mapTokens e)) = parameterNames? parameters := by
  rcases parameters with _ | t | ⟨rule, parts⟩
  · rfl
  · simp only [Option.map_some, Tree.mapTokens, Source.parameterNames?, h.kind_eq, h.text_eq]
  · simp only [Option.map_some, Tree.mapTokens, Source.parameterNames?, mapTokensAll_eq, h.namesInList]

theorem name_eq {f : Function} (hname : f.nameToken.kind = .name) : (f.mapTokens e).name = f.name := by
  show trim (e f.nameToken).source = trim f.nameToken.source
  rw [h.source_eq (by simp [hname])]

end Recast

/-- A change of the text in front of tokens that open blocks, and of nothing else. -/
structure Retouch (e : Token → Token) : Prop where
  others : ∀ t : Token, t.kind ≠ .indent → e t = t
  indents : ∀ t : Token, t.kind = .indent → ∃ before, e t = { t with before }

namespace Retouch
variable {e : Token → Token} (h : Retouch e)
include h

theorem exists_before (t : Token) : ∃ before, e t = { t with before } := by
  by_cases hk : t.kind = .indent
  · exact h.indents t hk
  · exact ⟨t.before, h.others t hk⟩

theorem kind_eq (t : Token) : (e t).kind = t.kind := by
  obtain ⟨before, ht⟩ := h.exists_before t
  rw [ht]

theorem text_eq (t : Token) : (e t).text = t.text := by
  obtain ⟨before, ht⟩ := h.exists_before t
  rw [ht]

theorem line_eq (t : Token) : (e t).line = t.line := by
  obtain ⟨before, ht⟩ := h.exists_before t
  rw [ht]

theorem recast : Recast e :=
  ⟨h.kind_eq, h.text_eq, fun t ht => by rw [h.others t ht]⟩

end Retouch

/-! ### Rows of functions -/

variable {printWord : Bool}

/-- The function comes from a row of the grammar whose tokens are among these. -/
def Function.Stands (printWord : Bool) (tokens : List Token) (f : Function) : Prop :=
  ∃ ps ts enclosing depth, Rule.functionDef.body.Matches ps ∧ DerivesAll printWord ps ts ∧
    Function.ofParts? enclosing depth ts = some f ∧ Tree.leavesAll ts ⊆ tokens

theorem Function.Stands.mono {tokens tokens' : List Token} {f : Function} (h : f.Stands printWord tokens)
    (hsub : tokens ⊆ tokens') : f.Stands printWord tokens' := by
  obtain ⟨ps, ts, enclosing, depth, hrow, hts, hf, hleaves⟩ := h
  exact ⟨ps, ts, enclosing, depth, hrow, hts, hf, List.Subset.trans hleaves hsub⟩

mutual

/-- Each function of a tree of the grammar comes from a row for functions. -/
theorem Derives.functionStands : {p : Part} → {t : Tree} → Derives printWord p t →
    ∀ enclosing depth, ∀ f ∈ t.functions enclosing depth, f.Stands printWord t.leaves
  | _, _, .leaf _ => fun _ _ f hf => nomatch hf
  | _, _, .node hrow h => by
    intro enclosing depth f hf
    have hall := h.functionStands
    rw [Tree.leaves_ofChildren]
    unfold Tree.ofChildren at hf
    split at hf
    · exact hall enclosing depth f (by simpa [functionsAll] using hf)
    · simp only [Tree.functions, List.mem_append] at hf
      rcases hf with hf | hf
      · split at hf
        · rename_i hr
          subst hr
          exact ⟨_, _, _, _, hrow, h, Option.mem_toList.1 hf, fun _ => id⟩
        · cases hf
      · exact hall _ _ f hf

@[inherit_doc Derives.functionStands]
theorem DerivesAll.functionStands : {ps : List Part} → {ts : List Tree} → DerivesAll printWord ps ts →
    ∀ enclosing depth, ∀ f ∈ functionsAll enclosing depth ts, f.Stands printWord (Tree.leavesAll ts)
  | _, _, .nil => fun _ _ f hf => nomatch hf
  | _, _, .cons h hs => by
    intro enclosing depth f hf
    rcases List.mem_append.1 hf with hf | hf
    · exact (h.functionStands enclosing depth f hf).mono (List.subset_append_left _ _)
    · exact (hs.functionStands enclosing depth f hf).mono (List.subset_append_right _ _)

end

theorem read_functionStands {source : List Char} {tree : Tree} (h : read source = .ok tree) :
    ∃ printWord, ∀ f ∈ tree.allFunctions, f.Stands printWord tree.leaves := by
  obtain ⟨-, -, printWord, hderives⟩ := read_leaves h
  exact ⟨printWord, hderives.functionStands .nothing 0⟩

/-- After the word that opens a function come its name and its parameters. -/
theorem name_follows_def : ∀ pq ∈ Rule.functionDef.body.pairs,
    (pq.1 ∈ Rule.functionDef.body.firsts → pq.2 = .terminal (.kind .name)) ∧
      (pq.1 = .terminal (.kind .name) → pq.2 = .rule .parameters) := by
  decide +kernel

/-- The name of a function is a word, and its parameters come from their rule. -/
theorem Function.Stands.header {tokens : List Token} {f : Function} (h : f.Stands printWord tokens) :
    f.nameToken.kind = .name ∧ f.nameToken ∈ tokens ∧ ∃ parameters, f.parameters = insideParentheses parameters ∧
      Derives printWord (.rule .parameters) parameters ∧ parameters.leaves ⊆ tokens := by
  obtain ⟨ps, ts, enclosing, depth, hrow, hts, hf, hleaves⟩ := h
  unfold Function.ofParts? at hf
  split at hf
  · rename_i first name parameters rest body _
    obtain rfl := Option.some.inj hf
    cases hts with
    | @cons p _ ps _ _ hts =>
      cases hts with
      | @cons q _ ps _ hname hts =>
        cases hts with
        | @cons r _ ps _ hparameters hts =>
          have hchain := hrow.chain
          simp only [List.isChain_cons_cons] at hchain
          obtain rfl : q = .terminal (.kind .name) :=
            (name_follows_def _ hchain.1).1 (hrow.head p (by simp))
          obtain rfl : r = .rule .parameters := (name_follows_def _ hchain.2.1).2 rfl
          simp only [Tree.leavesAll, Tree.leaves] at hleaves
          refine ⟨?_, hleaves (by simp), parameters, rfl, hparameters, fun t ht => hleaves (by simp [ht])⟩
          cases hname with
          | leaf h => exact Token.kind_of_terminal h
  · cases hf

theorem read_functionNames {source : List Char} {tree : Tree} (h : read source = .ok tree) :
    ∀ f ∈ tree.allFunctions, f.nameToken.kind = .name := by
  obtain ⟨printWord, hstands⟩ := read_functionStands h
  exact fun f hf => (hstands f hf).header.1

/-! ### Where bodies open -/

/-- The token that opens a body on lines of its own. -/
def Tree.opening? (body : Tree) : Option Token :=
  body.block?.map (·.indent)

def Function.opening? (f : Function) : Option Token :=
  f.body.opening?

theorem Function.opening?_of_block {f : Function} {b : Block} (h : f.body.block? = some b) :
    f.opening? = some b.indent := by
  rw [Function.opening?, Tree.opening?, h]
  rfl

def openings (fs : List Function) : List Token :=
  fs.filterMap Function.opening?

theorem openings_append (fs gs : List Function) : openings (fs ++ gs) = openings fs ++ openings gs :=
  List.filterMap_append

theorem Tree.opening?_kind {body : Tree} {t : Token} (h : body.opening? = some t) : t.kind = .indent := by
  obtain ⟨b, hb, rfl⟩ := Option.map_eq_some_iff.1 h
  unfold Tree.block? at hb
  split at hb
  · split at hb
    · obtain rfl := Option.some.inj hb
      assumption
    · cases hb
  · cases hb

/-- The token that opens the last of the trees. -/
def lastOpening (ts : List Tree) : List Token :=
  (ts.getLast?.bind Tree.opening?).toList

/-- The token that opens a function opens its last part. -/
theorem openings_ofParts (enclosing : Enclosing) (depth : Nat) (parts : List Tree) :
    (openings (Function.ofParts? enclosing depth parts).toList).Sublist (lastOpening parts) := by
  unfold Function.ofParts?
  split
  · rename_i body hbody
    simp only [lastOpening, hbody, Option.bind_some, openings, Option.toList_some]
    cases hopening : body.opening? with
    | none => simp [Function.opening?, hopening]
    | some t => simp [Function.opening?, hopening]
  · exact List.nil_sublist _

theorem Tree.opening?_node {rule : Rule} {parts : List Tree} {t : Token}
    (h : (Tree.node rule parts).opening? = some t) :
    ∃ a first rest, parts = a :: .leaf t :: first :: rest := by
  obtain ⟨b, hb, rfl⟩ := Option.map_eq_some_iff.1 h
  unfold Tree.block? at hb
  split at hb
  · rename_i a indent first rest hparts
    split at hb
    · obtain rfl := Option.some.inj hb
      exact ⟨a, first, rest, hparts⟩
    · cases hb
  · cases hb

mutual

/-- The tokens that open the functions of a tree, and the one that opens the tree, are different leaves. -/
theorem Tree.openings_subperm (enclosing : Enclosing) (depth : Nat) : (t : Tree) →
    (t.opening?.toList ++ openings (t.functions enclosing depth)).Subperm t.leaves
  | .leaf t => List.nil_subperm
  | .node rule parts => by
    have hown : (openings (if rule = .functionDef then (Function.ofParts? enclosing depth parts).toList
        else [])).Sublist (lastOpening parts) := by
      split
      · exact openings_ofParts enclosing depth parts
      · exact List.nil_sublist _
    simp only [Tree.functions, openings_append]
    revert hown
    generalize openings (if rule = .functionDef then _ else _) = own
    generalize (if rule = .classDef then _ else enclosing) = inner
    intro hown
    cases hopening : (Tree.node rule parts).opening? with
    | none => exact (hown.append_right _).subperm.trans (openingsAll_subperm inner (depth + 1) parts)
    | some t =>
      obtain ⟨a, first, rest, rfl⟩ := Tree.opening?_node hopening
      have ha := (List.sublist_append_right _ _).subperm.trans (a.openings_subperm inner (depth + 1))
      have hlast : lastOpening (a :: .leaf t :: first :: rest) = lastOpening (first :: rest) := by
        simp [lastOpening, List.getLast?_cons_cons]
      rw [hlast] at hown
      have hrest := (hown.append_right _).subperm.trans (openingsAll_subperm inner (depth + 1) (first :: rest))
      have hperm (A R : List Token) : (t :: (own ++ (A ++ R))).Perm (A ++ t :: (own ++ R)) := by
        refine .trans (.cons t ?_) List.perm_middle.symm
        rw [← List.append_assoc, ← List.append_assoc]
        exact List.perm_append_comm.append_right R
      have hsplit : openings (functionsAll inner (depth + 1) (a :: .leaf t :: first :: rest)) =
          openings (a.functions inner (depth + 1)) ++
            openings (functionsAll inner (depth + 1) (first :: rest)) := by
        rw [functionsAll, functionsAll, openings_append]
        rfl
      rw [hsplit]
      exact (hperm _ _).subperm.trans (ha.append ((List.subperm_cons t).2 hrest))

@[inherit_doc Tree.openings_subperm]
theorem openingsAll_subperm (enclosing : Enclosing) (depth : Nat) : (ts : List Tree) →
    (lastOpening ts ++ openings (functionsAll enclosing depth ts)).Subperm (Tree.leavesAll ts)
  | [] => List.nil_subperm
  | [t] => by
    have h := t.openings_subperm enclosing depth
    simpa [lastOpening, functionsAll, Tree.leavesAll] using h
  | t :: u :: rest => by
    have ht := (List.sublist_append_right _ _).subperm.trans (t.openings_subperm enclosing depth)
    have hrest := openingsAll_subperm enclosing depth (u :: rest)
    have hlast : lastOpening (t :: u :: rest) = lastOpening (u :: rest) := by
      simp [lastOpening, List.getLast?_cons_cons]
    rw [hlast, functionsAll, openings_append, Tree.leavesAll]
    refine List.Perm.subperm ?_ |>.trans (ht.append hrest)
    rw [← List.append_assoc, ← List.append_assoc]
    exact List.perm_append_comm.append_right _

end

theorem read_indents {source : List Char} {tree : Tree} (h : read source = .ok tree) :
    tree.leaves.Pairwise fun t u => t.kind = .indent → u.kind = .indent → t.line ≠ u.line :=
  (read_blocks h).2.imp fun hlt hk hk' => Nat.ne_of_lt (hlt hk hk')

/-- No two functions of a text open on one line. -/
theorem read_openings {source : List Char} {tree : Tree} (h : read source = .ok tree) :
    (openings tree.allFunctions).Pairwise fun t u => t.line ≠ u.line := by
  obtain ⟨ts, hperm, hsub⟩ := (List.sublist_append_right _ _).subperm.trans (tree.openings_subperm .nothing 0)
  refine (hperm.pairwise_iff (R := fun t u => t.line ≠ u.line) fun hne => hne.symm).1 ?_
  refine ((read_indents h).sublist hsub).imp_of_mem fun ht hu hne => ?_
  have hkind {t : Token} (ht : t ∈ ts) : t.kind = .indent := by
    obtain ⟨f, _, hf⟩ := List.mem_filterMap.1 (hperm.mem_iff.1 ht)
    exact Tree.opening?_kind hf
  exact hne (hkind ht) (hkind hu)

theorem mem_leaves_of_opening {tree : Tree} {f : Function} {t : Token} (hf : f ∈ tree.allFunctions)
    (ht : f.opening? = some t) : t ∈ tree.leaves :=
  (tree.openings_subperm .nothing 0).subset
    (List.mem_append_right _ (List.mem_filterMap.2 ⟨f, hf, ht⟩))

end TypeComments.Source
