import Mathlib.Data.List.Nodup
import TypeComments.Proofs.FunctionComments

/-!
# The order in which functions are visited

A visit writes messages while it works out an edit (`convertFunction_onlySays`), and changes the tree last
(`visitAt_run`).

The functions of a text open on different lines, so their edits concern different tokens (`edits_apart`) and the
order of the edits does not matter (`editToken_perm`). Hence a visit finds its function as it was at first, but for
edits in front of other blocks, and in whatever order the functions are visited, the visits end with the same tree
(`visitInOrder_of_perm`).
-/

namespace TypeComments.Signature
open Source Docstring

variable {defaults : Defaults} {file source : List Char} {tree : Tree} {f g : Function} {t u : Token}
  {edits edits' : List Edit} {x : Edit}

/-! ### Edits -/

/-- A token after all of these edits. -/
def editToken (edits : List Edit) (t : Token) : Token :=
  if t.kind = .indent then
    match edits.find? (·.line == t.line) with
    | some edit => { t with before := edit.before }
    | none => t
  else t

theorem retouch_editToken (edits : List Edit) : Retouch (editToken edits) where
  others t ht := if_neg ht
  indents t ht := by
    rw [editToken, if_pos ht]
    split
    · exact ⟨_, rfl⟩
    · exact ⟨t.before, rfl⟩

theorem editToken_of_forall (h : ∀ x ∈ edits, x.line ≠ t.line) : editToken edits t = t := by
  have hnone : edits.find? (·.line == t.line) = none := by simpa using h
  rw [editToken, hnone]
  exact ite_self t

theorem applyTo_eq (x : Edit) : x.applyTo = editToken [x] := by
  funext t
  by_cases hk : t.kind = .indent
  · by_cases hx : x.line = t.line
    · simp [Edit.applyTo, editToken, hk, hx]
    · simp [Edit.applyTo, editToken, hk, hx, Ne.symm hx]
  · simp [Edit.applyTo, editToken, hk]

/-- Of edits on different lines, the one on a token's line replaces the text in front of the token. -/
theorem editToken_of_mem (hapart : edits.Pairwise fun x y => x.line ≠ y.line) (hx : x ∈ edits)
    (hk : t.kind = .indent) (hline : x.line = t.line) : editToken edits t = { t with before := x.before } := by
  have hsome : edits.find? (·.line == t.line) = some x := by
    induction edits with
    | nil => cases hx
    | cons y edits ih =>
      obtain ⟨hy, hapart⟩ := List.pairwise_cons.1 hapart
      rcases List.mem_cons.1 hx with rfl | hx
      · simp [hline]
      · have hne : y.line ≠ t.line := fun h => hy x hx (h.trans hline.symm)
        simpa [hne] using ih hapart hx
  rw [editToken, if_pos hk, hsome]

theorem editToken_perm (h : edits.Perm edits') (hapart : edits.Pairwise fun x y => x.line ≠ y.line) :
    editToken edits = editToken edits' := by
  have hapart' := (h.pairwise_iff fun hne => hne.symm).1 hapart
  funext t
  by_cases hk : t.kind = .indent
  · by_cases hx : ∃ x ∈ edits, x.line = t.line
    · obtain ⟨x, hx, hline⟩ := hx
      rw [editToken_of_mem hapart hx hk hline, editToken_of_mem hapart' (h.mem_iff.1 hx) hk hline]
    · have hnone : ∀ x ∈ edits, x.line ≠ t.line := fun x hx' hline => hx ⟨x, hx', hline⟩
      rw [editToken_of_forall hnone, editToken_of_forall fun x hx => hnone x (h.mem_iff.2 hx)]
  · rw [(retouch_editToken edits).others t hk, (retouch_editToken edits').others t hk]

/-- One more edit, on a line of its own, may be made afterwards. -/
theorem editToken_append {edit : Option Edit} (h : ∀ x ∈ edit, ∀ y ∈ edits, y.line ≠ x.line) :
    editToken edit.toList ∘ editToken edits = editToken (edits ++ edit.toList) := by
  funext t
  rw [Function.comp_apply]
  cases edit with
  | none =>
    rw [Option.toList_none, List.append_nil]
    exact editToken_of_forall (by simp)
  | some x =>
    have hline := (retouch_editToken edits).line_eq t
    by_cases hk : t.kind = .indent
    · by_cases hx : x.line = t.line
      · have hnone : ∀ y ∈ edits, y.line ≠ t.line := fun y hy => hx ▸ h x rfl y hy
        have hfind : (edits ++ [x]).find? (·.line == t.line) = some x := by
          have hedits : edits.find? (·.line == t.line) = none := by simpa using hnone
          simp [List.find?_append, hedits, hx]
        rw [editToken_of_forall hnone, Option.toList_some, editToken, editToken, if_pos hk, if_pos hk, hfind]
        simp [hx]
      · rw [Option.toList_some, editToken_of_forall (by simpa [hline] using hx), editToken, editToken]
        simp [List.find?_append, hx]
    · simp [(retouch_editToken _).others t hk]

theorem edit?_line (h : edit? defaults f = some x) : ∃ t, f.opening? = some t ∧ x.line = t.line := by
  obtain ⟨b, hb, hx⟩ := Option.bind_eq_some_iff.1 h
  obtain ⟨before, -, rfl⟩ := Option.map_eq_some_iff.1 hx
  exact ⟨b.indent, Function.opening?_of_block hb, rfl⟩

theorem functions_apart (h : read source = .ok tree) : tree.allFunctions.Pairwise fun f g =>
    ∀ t, f.opening? = some t → ∀ u, g.opening? = some u → t.line ≠ u.line :=
  List.pairwise_filterMap.1 (read_openings h)

theorem edits_apart (h : read source = .ok tree) :
    (tree.allFunctions.filterMap (edit? defaults)).Pairwise fun x y => x.line ≠ y.line := by
  refine List.pairwise_filterMap.2 ((functions_apart h).imp fun hne x hx y hy => ?_)
  obtain ⟨t, ht, hxt⟩ := edit?_line hx
  obtain ⟨u, hu, hyu⟩ := edit?_line hy
  rw [hxt, hyu]
  exact hne t ht u hu

theorem line_ne_of_place_ne (h : read source = .ok tree) {i j : Nat} (hij : i ≠ j)
    (hf : tree.allFunctions[i]? = some f) (hg : tree.allFunctions[j]? = some g) (ht : f.opening? = some t)
    (hu : g.opening? = some u) : t.line ≠ u.line := by
  have hall := List.pairwise_iff_getElem.1 (functions_apart h)
  obtain ⟨hi, rfl⟩ := List.getElem?_eq_some_iff.1 hf
  obtain ⟨hj, rfl⟩ := List.getElem?_eq_some_iff.1 hg
  rcases Nat.lt_or_gt_of_ne hij with hlt | hlt
  · exact hall i j hi hj hlt t ht u hu
  · exact (hall j i hj hi hlt u hu t ht).symm

/-! ### Steps of a visit -/

/-- A step that writes messages and leaves the tree as it is. -/
def OnlySays {α : Type} (x : Visit α) : Prop :=
  ∀ s, ∃ said, (x.run.run s).2 = { s with messages := s.messages ++ said }

namespace OnlySays
variable {α β : Type}

theorem run {x : Visit α} (h : OnlySays x) {s s' : Progress} {outcome : Except Fault α}
    (hrun : x.run.run s = (outcome, s')) : ∃ said, s' = { s with messages := s.messages ++ said } := by
  obtain ⟨said, hsaid⟩ := h s
  rw [hrun] at hsaid
  exact ⟨said, hsaid⟩

theorem silent {x : Visit α} (h : ∀ s, (x.run.run s).2 = s) : OnlySays x :=
  fun s => ⟨[], by rw [h, List.append_nil]⟩

theorem pure (a : α) : OnlySays (Pure.pure a) :=
  silent fun _ => rfl

theorem throw (fault : Fault) : OnlySays (MonadExcept.throw fault : Visit α) :=
  silent fun _ => rfl

theorem bind {x : Visit α} {g : α → Visit β} (hx : OnlySays x) (hg : ∀ a, OnlySays (g a)) : OnlySays (x >>= g) := by
  intro s
  cases hrun : x.run.run s with
  | mk outcome s₁ =>
    obtain ⟨said, rfl⟩ := hx.run hrun
    cases outcome with
    | error fault => exact ⟨said, by rw [run_bind_of_error hrun]⟩
    | ok a =>
      obtain ⟨more, hmore⟩ := hg a { s with messages := s.messages ++ said }
      exact ⟨said ++ more, by rw [run_bind_of_ok hrun, hmore, List.append_assoc]⟩

end OnlySays

theorem docstringOf_onlySays (b : Block) : OnlySays (docstringOf b) := by
  unfold docstringOf
  split
  · exact .pure _
  · exact .throw _

theorem documentation_onlySays (f : Function) (own : Option DocText) : OnlySays (documentation f own) := by
  unfold documentation
  split
  · split
    · split
      · exact docstringOf_onlySays _
      · exact .pure _
    · exact .pure _
  · exact .pure _

theorem readTypes_onlySays (doc : DocText) : OnlySays (readTypes defaults file doc) := by
  unfold readTypes
  split
  · exact .pure _
  · exact .throw _
  · exact .pure _
  · refine .bind (fun s => ⟨_, rfl⟩) fun _ => ?_
    split
    · exact .throw _
    · exact .pure _

theorem commentFor_onlySays (types : Types) (isMethod : Bool) (f : Function) :
    OnlySays (commentFor defaults types isMethod f) := by
  unfold commentFor
  split
  · exact .throw _
  · exact .pure _

theorem convertFunction_onlySays (defaults : Defaults) (file : List Char) (f : Function) :
    OnlySays (convertFunction defaults file f) := by
  unfold convertFunction
  refine .bind ?_ fun isMethod => ?_
  · unfold standsInClass
    split
    · exact .pure _
    · exact .throw _
    · exact .pure _
  split
  · exact .throw _
  · refine .bind (docstringOf_onlySays _) fun own => ?_
    split
    · exact .pure _
    · refine .bind (documentation_onlySays f own) fun doc => ?_
      split
      · exact .pure _
      · refine .bind (readTypes_onlySays _) fun types => ?_
        split
        · exact .pure _
        · exact .bind (commentFor_onlySays types isMethod f) fun _ => .pure _

/-- The tree with one more edit, if there is one. -/
def Progress.edited (s : Progress) (edit : Option Edit) : Progress :=
  { s with tree := s.tree.mapTokens (editToken edit.toList), changed := s.changed || edit.isSome }

theorem Progress.edited_none (s : Progress) : s.edited none = s := by
  rw [Progress.edited, Tree.mapTokens_of_id _ (fun t => editToken_of_forall (by simp)), Option.isSome_none, Bool.or_false]

theorem write_run (x : Edit) (s : Progress) : (Visit.write x).run.run s = (.ok (), s.edited (some x)) := by
  rw [Progress.edited, Option.toList_some, ← applyTo_eq, Option.isSome_some, Bool.or_true]
  rfl

theorem visitAt_none {s : Progress} {place : Nat} (hf : s.tree.allFunctions[place]? = none) :
    (visitAt defaults file place).run.run s = (.ok (), s) := by
  have hget : (get : Visit Progress).run.run s = (.ok s, s) := rfl
  unfold visitAt
  rw [run_bind_of_ok hget]
  simp only [hf]
  rfl

/-- A visit ends as the search for its edit does, and the edit is all that it writes. -/
theorem visitAt_run {s : Progress} {place : Nat} (hf : s.tree.allFunctions[place]? = some f)
    {outcome : Except Fault (Option Edit)} {s₁ : Progress}
    (h : (convertFunction defaults file f).run.run s = (outcome, s₁)) :
    (visitAt defaults file place).run.run s = (outcome.map fun _ => (), s₁.edited outcome.toOption.join) := by
  have hget : (get : Visit Progress).run.run s = (.ok s, s) := rfl
  unfold visitAt
  rw [run_bind_of_ok hget]
  simp only [hf]
  cases outcome with
  | error fault =>
    rw [run_bind_of_error h]
    exact Prod.ext rfl s₁.edited_none.symm
  | ok edit =>
    rw [run_bind_of_ok h]
    cases edit with
    | none => exact Prod.ext rfl s₁.edited_none.symm
    | some x => exact write_run x s₁

theorem visitAt_messages (defaults : Defaults) (file : List Char) (place : Nat) (s : Progress) :
    s.messages <+: ((visitAt defaults file place).run.run s).2.messages := by
  cases hf : s.tree.allFunctions[place]? with
  | none => exact ⟨[], by rw [visitAt_none hf, List.append_nil]⟩
  | some f =>
    obtain ⟨said, hsaid⟩ := convertFunction_onlySays defaults file f s
    rw [visitAt_run hf rfl]
    exact ⟨said, (congrArg Progress.messages hsaid).symm⟩

theorem visitInOrder_cons (i : Nat) (order : List Nat) : visitInOrder defaults file (i :: order) =
    visitAt defaults file i >>= fun _ => visitInOrder defaults file order := rfl

/-- Messages stay. -/
theorem visitInOrder_messages (defaults : Defaults) (file : List Char) (order : List Nat) (s : Progress) :
    s.messages <+: ((visitInOrder defaults file order).run.run s).2.messages := by
  induction order generalizing s with
  | nil => exact List.prefix_refl _
  | cons i order ih =>
    have hfirst := visitAt_messages defaults file i s
    rw [visitInOrder_cons]
    cases hrun : (visitAt defaults file i).run.run s with
    | mk outcome s₁ =>
      rw [hrun] at hfirst
      cases outcome with
      | error fault =>
        rw [run_bind_of_error hrun]
        exact hfirst
      | ok u =>
        rw [run_bind_of_ok hrun]
        exact hfirst.trans (ih s₁)

/-! ### All edits of a conversion -/

/-- The edits of the functions at these places. -/
def editsAt (defaults : Defaults) (fs : List Function) (places : List Nat) : List Edit :=
  places.filterMap fun i => fs[i]?.bind (edit? defaults)

theorem editsAt_line {fs : List Function} {places : List Nat} (hx : x ∈ editsAt defaults fs places) :
    ∃ j ∈ places, ∃ f t, fs[j]? = some f ∧ f.opening? = some t ∧ x.line = t.line := by
  obtain ⟨j, hj, hx⟩ := List.mem_filterMap.1 hx
  obtain ⟨f, hf, hx⟩ := Option.bind_eq_some_iff.1 hx
  obtain ⟨t, ht, hline⟩ := edit?_line hx
  exact ⟨j, hj, f, t, hf, ht, hline⟩

theorem editsAt_concat {fs : List Function} {visited : List Nat} {i : Nat} (hf : fs[i]? = some f) :
    editsAt defaults fs (visited ++ [i]) = editsAt defaults fs visited ++ (edit? defaults f).toList := by
  simp only [editsAt, List.filterMap_append, List.filterMap_cons, hf, Option.bind_some, List.filterMap_nil]
  cases edit? defaults f <;> rfl

theorem editsAt_range (fs : List Function) :
    editsAt defaults fs (List.range fs.length) = fs.filterMap (edit? defaults) := by
  have hplaces : (List.range fs.length).map (fun i => fs[i]?) = fs.map some := by
    apply List.ext_getElem <;> simp
  calc editsAt defaults fs (List.range fs.length)
      = ((List.range fs.length).map (fun i => fs[i]?)).filterMap (·.bind (edit? defaults)) := by
        rw [List.filterMap_map]
        rfl
    _ = fs.filterMap (edit? defaults) := by
        rw [hplaces, List.filterMap_map]
        rfl

def Converts (defaults : Defaults) (file : List Char) (f : Function) : Prop :=
  ∃ s s', (convertFunction defaults file f).run.run s = (.ok (edit? defaults f), s')

theorem Converts.of_run {edit : Option Edit} {s s' : Progress}
    (h : (convertFunction defaults file f).run.run s = (.ok edit, s')) : Converts defaults file f :=
  ⟨s, s', by rw [h, convertFunction_edit h]⟩

/-- A change that does not opt a function in or out decides nothing about its conversion. -/
theorem converts_mapTokens_iff {e : Token → Token} (he : Recast e) (hname : f.nameToken.kind = .name)
    (hopt : ∀ t ∈ f.opening?, isOptOut (e t).before = isOptOut t.before) :
    Converts defaults file (f.mapTokens e) ↔ Converts defaults file f := by
  have halike := convertFunction_alike defaults file he hname hopt
  constructor
  · rintro ⟨s, s', hrun⟩
    obtain ⟨edit, s₁, hrun', -⟩ := halike.exists_ok_left hrun s
    exact .of_run hrun'
  · rintro ⟨s, s', hrun⟩
    obtain ⟨edit, s₁, hrun', -⟩ := halike.exists_ok hrun s
    exact .of_run hrun'

/-- What the visits of these places make of the tokens. -/
def editPlaces (defaults : Defaults) (tree : Tree) (visited : List Nat) : Token → Token :=
  editToken (editsAt defaults tree.allFunctions visited)

theorem editPlaces_nil (tree : Tree) : tree.mapTokens (editPlaces defaults tree []) = tree :=
  Tree.mapTokens_of_id _ (fun t => editToken_of_forall (by simp [editsAt])) tree

theorem retouch_editPlaces (defaults : Defaults) (tree : Tree) (visited : List Nat) :
    Retouch (editPlaces defaults tree visited) :=
  retouch_editToken _

theorem editPlaces_function {visited : List Nat} {i : Nat} {s : Progress} (hf : tree.allFunctions[i]? = some f)
    (hs : s.tree = tree.mapTokens (editPlaces defaults tree visited)) :
    s.tree.allFunctions[i]? = some (f.mapTokens (editPlaces defaults tree visited)) := by
  rw [hs, Tree.allFunctions_mapTokens, List.getElem?_map, hf]
  rfl

/-- A run that ends in this state has visited a place, in a tree with edits for other places, and what was said there
stays. -/
def HasVisited (defaults : Defaults) (file : List Char) (tree : Tree) (s' : Progress) (place : Nat) : Prop :=
  ∃ others s s₁, place ∉ others ∧ s.tree = tree.mapTokens (editPlaces defaults tree others) ∧
    (visitAt defaults file place).run.run s = (.ok (), s₁) ∧ s₁.messages <+: s'.messages

section
variable (h : read source = .ok tree)
include h

section
variable {visited : List Nat} {i : Nat} (hf : tree.allFunctions[i]? = some f) (hnew : i ∉ visited)
include hf hnew

/-- A function opens on a line that no edit of other places concerns. -/
theorem editsAt_line_ne (ht : f.opening? = some t) : ∀ x ∈ editsAt defaults tree.allFunctions visited, x.line ≠ t.line := by
  intro x hx
  obtain ⟨j, hj, g, u, hg, hu, hline⟩ := editsAt_line hx
  rw [hline]
  exact line_ne_of_place_ne h (fun hji : j = i => hnew (hji ▸ hj)) hg hf hu ht

variable (defaults) in
theorem editPlaces_opening : ∀ t ∈ f.opening?, editPlaces defaults tree visited t = t :=
  fun _ ht => editToken_of_forall (editsAt_line_ne h hf hnew ht)

theorem editPlaces_concat :
    (tree.mapTokens (editPlaces defaults tree visited)).mapTokens (editToken (edit? defaults f).toList) =
      tree.mapTokens (editPlaces defaults tree (visited ++ [i])) := by
  have hne : ∀ x ∈ edit? defaults f, ∀ y ∈ editsAt defaults tree.allFunctions visited, y.line ≠ x.line := by
    intro x hx y hy
    obtain ⟨t, ht, hline⟩ := edit?_line hx
    exact hline ▸ editsAt_line_ne h hf hnew ht y hy
  rw [Tree.mapTokens_mapTokens, editPlaces, editToken_append hne, ← editsAt_concat hf]
  rfl

variable {s s' : Progress} (hs : s.tree = tree.mapTokens (editPlaces defaults tree visited))
include hs

/-- One visit: a function that was not visited before is converted as in the first tree. -/
theorem visitAt_ok (hrun : (visitAt defaults file i).run.run s = (.ok (), s')) :
    Converts defaults file f ∧ s'.tree = tree.mapTokens (editPlaces defaults tree (visited ++ [i])) := by
  have he := (retouch_editPlaces defaults tree visited).recast
  have hname := read_functionNames h f (List.mem_of_getElem? hf)
  have hown := editPlaces_opening defaults h hf hnew
  cases hconvert : (convertFunction defaults file (f.mapTokens (editPlaces defaults tree visited))).run.run s with
  | mk outcome s₁ =>
    rw [visitAt_run (editPlaces_function hf hs) hconvert] at hrun
    cases outcome with
    | error fault => cases hrun
    | ok edit =>
      refine ⟨(converts_mapTokens_iff he hname fun t ht => by rw [hown t ht]).1 (.of_run hconvert), ?_⟩
      -- the search leaves the tree as it is, so the edit goes into the tree of the visits before
      obtain ⟨said, rfl⟩ := (convertFunction_onlySays defaults file _).run hconvert
      obtain rfl := convertFunction_edit hconvert
      obtain rfl := (Prod.mk.inj hrun).2
      show s.tree.mapTokens (editToken (edit? defaults (f.mapTokens _)).toList) = _
      rw [hs, edit?_mapTokens he hname hown]
      exact editPlaces_concat h hf hnew

theorem visitAt_of_converts (hconverts : Converts defaults file f) :
    ∃ s', (visitAt defaults file i).run.run s = (.ok (), s') := by
  have hown := editPlaces_opening defaults h hf hnew
  obtain ⟨_, _, hrun⟩ := hconverts
  obtain ⟨edit, s₁, hconvert, -⟩ := (convertFunction_alike defaults file (retouch_editPlaces defaults tree visited).recast
    (read_functionNames h f (List.mem_of_getElem? hf)) fun t ht => by rw [hown t ht]).exists_ok hrun s
  exact ⟨_, visitAt_run (editPlaces_function hf hs) hconvert⟩

end

/-- Visits in a row, none of a place that was visited before. -/
theorem visitInOrder_ok {visited order : List Nat} {s s' : Progress}
    (hs : s.tree = tree.mapTokens (editPlaces defaults tree visited))
    (hplaces : ∀ i ∈ order, i < tree.allFunctions.length) (hnodup : (visited ++ order).Nodup)
    (hrun : (visitInOrder defaults file order).run.run s = (.ok (), s')) :
    s'.tree = tree.mapTokens (editPlaces defaults tree (visited ++ order)) ∧
      ∀ i ∈ order, HasVisited defaults file tree s' i := by
  induction order generalizing visited s with
  | nil =>
    cases hrun
    exact ⟨by rw [hs, List.append_nil], by simp⟩
  | cons i order ih =>
    have hnew : i ∉ visited := fun hi => List.disjoint_of_nodup_append hnodup hi (.head _)
    have hf := List.getElem?_eq_getElem (hplaces i (.head _))
    rw [visitInOrder_cons] at hrun
    obtain ⟨⟨⟩, s₁, hfirst, hrest⟩ := run_bind_eq_ok hrun
    have hkeeps := visitInOrder_messages defaults file order s₁
    rw [hrest] at hkeeps
    rw [List.append_cons] at hnodup ⊢
    obtain ⟨htree, hall⟩ := ih (visitAt_ok h hf hnew hs hfirst).2 (fun j hj => hplaces j (.tail _ hj)) hnodup hrest
    exact ⟨htree, List.forall_mem_cons.2 ⟨⟨visited, s, s₁, hnew, hs, hfirst, hkeeps⟩, hall⟩⟩

theorem visitInOrder_of_converts (hall : ∀ f ∈ tree.allFunctions, Converts defaults file f) {visited order : List Nat}
    {s : Progress} (hs : s.tree = tree.mapTokens (editPlaces defaults tree visited))
    (hplaces : ∀ i ∈ order, i < tree.allFunctions.length) (hnodup : (visited ++ order).Nodup) :
    ∃ s', (visitInOrder defaults file order).run.run s = (.ok (), s') := by
  induction order generalizing visited s with
  | nil => exact ⟨s, rfl⟩
  | cons i order ih =>
    have hnew : i ∉ visited := fun hi => List.disjoint_of_nodup_append hnodup hi (.head _)
    have hf := List.getElem?_eq_getElem (hplaces i (.head _))
    obtain ⟨s₁, hfirst⟩ := visitAt_of_converts h hf hnew hs (hall _ (List.mem_of_getElem? hf))
    rw [List.append_cons] at hnodup
    obtain ⟨s₂, hrest⟩ := ih (visitAt_ok h hf hnew hs hfirst).2 (fun j hj => hplaces j (.tail _ hj)) hnodup
    exact ⟨s₂, by rw [visitInOrder_cons, run_bind_of_ok hfirst, hrest]⟩

section
variable {order : List Nat} {s s' : Progress} (horder : order.Perm (List.range tree.allFunctions.length))
  (hs : s.tree = tree)
include horder hs

theorem visitInOrder_perm_ok (hrun : (visitInOrder defaults file order).run.run s = (.ok (), s')) :
    s'.tree = tree.mapTokens (editToken (tree.allFunctions.filterMap (edit? defaults))) ∧
      ∀ i < tree.allFunctions.length, HasVisited defaults file tree s' i := by
  have hperm : (editsAt defaults tree.allFunctions order).Perm (tree.allFunctions.filterMap (edit? defaults)) := by
    rw [← editsAt_range]
    exact horder.filterMap _
  obtain ⟨htree, hall⟩ := visitInOrder_ok h (hs.trans (editPlaces_nil tree).symm)
    (fun i hi => List.mem_range.1 (horder.mem_iff.1 hi)) (horder.nodup_iff.2 List.nodup_range) hrun
  refine ⟨?_, fun i hi => hall i (horder.mem_iff.2 (List.mem_range.2 hi))⟩
  rw [htree, List.nil_append, editPlaces, ← editToken_perm hperm.symm (edits_apart h)]

/-- Whatever order the functions are visited in, the visits end with the tree of all edits. -/
theorem visitInOrder_of_perm (hall : ∀ f ∈ tree.allFunctions, Converts defaults file f) :
    ∃ s', (visitInOrder defaults file order).run.run s = (.ok (), s') ∧
      s'.tree = tree.mapTokens (editToken (tree.allFunctions.filterMap (edit? defaults))) := by
  obtain ⟨s', hrun⟩ := visitInOrder_of_converts h hall (hs.trans (editPlaces_nil tree).symm)
    (fun i hi => List.mem_range.1 (horder.mem_iff.1 hi)) (horder.nodup_iff.2 List.nodup_range)
  exact ⟨s', hrun, (visitInOrder_perm_ok h horder hs hrun).1⟩

end

end

/-! ### The conversion of a tree -/

theorem visitOrder_perm (t : Tree) : (visitOrder t).Perm (List.range t.allFunctions.length) := by
  have hplaces : t.allFunctions.zipIdx.map Prod.snd = List.range t.allFunctions.length := by
    rw [List.zipIdx_map_snd, List.range_eq_range']
  rw [← hplaces]
  exact (List.mergeSort_perm _ _).map Prod.snd

theorem convertTree_run {ms : List Message} {outcome : Except Fault Unit} {s : Progress}
    (h : (visitInOrder defaults file (visitOrder tree)).run.run ⟨tree, false, ms⟩ = (outcome, s)) :
    (convertTree defaults file tree).run.run ms = (outcome.map fun _ => ⟨s.tree.source, s.changed⟩, s.messages) := by
  have hrun : (convertTree defaults file tree).run.run ms =
      (fun r : Except Fault Unit × Progress => (r.1.map fun _ => Converted.mk r.2.tree.source r.2.changed, r.2.messages))
        ((visitInOrder defaults file (visitOrder tree)).run.run ⟨tree, false, ms⟩) := rfl
  rw [hrun, h]

theorem exists_visits {c : Converted} {ms ms' : List Message}
    (hc : (convertTree defaults file tree).run.run ms = (.ok c, ms')) : ∃ s,
      (visitInOrder defaults file (visitOrder tree)).run.run ⟨tree, false, ms⟩ = (.ok (), s) ∧
        c = ⟨s.tree.source, s.changed⟩ ∧ ms' = s.messages := by
  cases hrun : (visitInOrder defaults file (visitOrder tree)).run.run ⟨tree, false, ms⟩ with
  | mk outcome s =>
    rw [convertTree_run hrun] at hc
    cases outcome with
    | error fault => cases hc
    | ok u =>
      cases hc
      exact ⟨s, rfl, rfl, rfl⟩

/-- A conversion of a tree makes the edits of its functions, and converts each of them. -/
theorem convertTree_ok (h : read source = .ok tree) {c : Converted} {ms ms' : List Message}
    (hc : (convertTree defaults file tree).run.run ms = (.ok c, ms')) :
    c.text = (tree.mapTokens (editToken (tree.allFunctions.filterMap (edit? defaults)))).source ∧
      ∀ f ∈ tree.allFunctions, Converts defaults file f := by
  obtain ⟨s, hrun, rfl, -⟩ := exists_visits hc
  obtain ⟨htree, hall⟩ := visitInOrder_perm_ok h (visitOrder_perm tree) rfl hrun
  refine ⟨congrArg Tree.source htree, fun f hf => ?_⟩
  obtain ⟨i, hi, rfl⟩ := List.getElem_of_mem hf
  obtain ⟨others, s₀, s₁, hnew, hs, hvisit, -⟩ := hall i hi
  exact (visitAt_ok h (List.getElem?_eq_getElem hi) hnew hs hvisit).1

theorem convertTree_of_converts (h : read source = .ok tree) (hall : ∀ f ∈ tree.allFunctions, Converts defaults file f)
    (ms : List Message) : ∃ c ms', (convertTree defaults file tree).run.run ms = (.ok c, ms') := by
  obtain ⟨s, hrun, -⟩ := visitInOrder_of_perm h (visitOrder_perm tree) (s := ⟨tree, false, ms⟩) rfl hall
  exact ⟨_, _, convertTree_run hrun⟩

end TypeComments.Signature
