import TypeComments.Proofs.CommentsOnly

/-!
# Reading a printed tree again

The builder looks at kinds and texts of tokens only, so it builds the same tree over tokens that differ in
what stands in front of them and in their places (`buildTree_map`). The search for imports from the future also
looks at what stands in front of a token, but never at one that opens a block, since such a token comes after the
end of a line (`futureNames_map`). Hence, if a tree is what its own text is read as, then the same holds with other
idle lines in front of its blocks, up to the numbers of lines (`read_mapTokens`).
-/

namespace TypeComments.Source
variable {e : Token → Token} {printWord : Bool}

/-! ### Building -/

theorem Tree.ofChildren_mapTokens (e : Token → Token) (rule : Rule) (ts : List Tree) :
    (Tree.ofChildren rule ts).mapTokens e = Tree.ofChildren rule (ts.map (Tree.mapTokens e)) := by
  rcases ts with _ | ⟨t, _ | ⟨u, ts⟩⟩
  · rfl
  · rfl
  · exact congrArg (Tree.node rule) (mapTokensAll_eq e (t :: u :: ts))

namespace Frame

def mapTokens (e : Token → Token) (f : Frame) : Frame :=
  { f with trees := f.trees.map (Tree.mapTokens e) }

theorem mapTokens_add (e : Token → Token) (f : Frame) (t : Tree) :
    (f.add t).mapTokens e = (f.mapTokens e).add (t.mapTokens e) := rfl

theorem mapTokens_close (e : Token → Token) (f : Frame) : (f.mapTokens e).close = f.close.mapTokens e := by
  rw [close, close, Tree.ofChildren_mapTokens, List.map_reverse]
  rfl

end Frame

def mapFrames (e : Token → Token) : Frame × List Frame → Frame × List Frame :=
  Prod.map (Frame.mapTokens e) (List.map (Frame.mapTokens e))

theorem closeFor_mapTokens (u : Terminal) (f : Frame) (below : List Frame) :
    closeFor u (f.mapTokens e) (below.map (Frame.mapTokens e)) = (closeFor u f below).map (mapFrames e) := by
  induction below generalizing f with
  | nil =>
    have hnext : (f.mapTokens e).next? u = f.next? u := rfl
    simp only [List.map_nil, closeFor, hnext]
    split <;> rfl
  | cons g below ih =>
    have hnext : (f.mapTokens e).next? u = f.next? u := rfl
    have hend : (f.mapTokens e).mayEnd = f.mayEnd := rfl
    simp only [List.map_cons, closeFor, hnext, hend]
    split
    · rfl
    split
    · rw [Frame.mapTokens_close, ← Frame.mapTokens_add, ih]
    · rfl

theorem openFor_mapTokens (u : Terminal) (leaf : Tree) (fuel : Nat) (f : Frame) (below : List Frame) :
    openFor u (leaf.mapTokens e) fuel (f.mapTokens e) (below.map (Frame.mapTokens e)) =
      (openFor u leaf fuel f below).map (mapFrames e) := by
  induction fuel generalizing f below with
  | zero => rfl
  | succ fuel ih =>
    have hnext : (f.mapTokens e).next? u = f.next? u := rfl
    simp only [openFor, hnext]
    split
    · rfl
    · rfl
    · rename_i r _
      exact ih (.start r) (f.pass (.rule r) :: below)

theorem closeEnded_mapTokens (f : Frame) (below : List Frame) :
    closeEnded (f.mapTokens e) (below.map (Frame.mapTokens e)) =
      (closeEnded f below).map (Tree.mapTokens e) (mapFrames e) := by
  induction below generalizing f with
  | nil =>
    have hend : (f.mapTokens e).mustEnd = f.mustEnd := rfl
    simp only [List.map_nil, closeEnded, hend]
    split
    · rw [Frame.mapTokens_close]
      rfl
    · rfl
  | cons g below ih =>
    have hend : (f.mapTokens e).mustEnd = f.mustEnd := rfl
    simp only [List.map_cons, closeEnded, hend]
    split
    · rw [Frame.mapTokens_close, ← Frame.mapTokens_add, ih]
    · rfl

/-- Two steps of which the second ones make the same of what the first ones give. -/
theorem toOption_bind_map {ε α β γ δ : Type} {x : Except ε α} {y : Except ε β} {g : α → β} {k : α → Except ε γ}
    {l : β → Except ε δ} {h : γ → δ} (hxy : y.toOption = x.toOption.map g)
    (hkl : ∀ a, (l (g a)).toOption = (k a).toOption.map h) : (y >>= l).toOption = (x >>= k).toOption.map h := by
  cases x with
  | error err =>
    cases y with
    | error err' => rfl
    | ok b => cases hxy
  | ok a =>
    cases y with
    | error err' => cases hxy
    | ok b =>
      obtain rfl : b = g a := Option.some.inj hxy
      exact hkl a

section
variable (he : Recast e)
include he

theorem terminal_map (t : Token) : ((e t).terminal printWord).toOption = (t.terminal printWord).toOption := by
  unfold Token.terminal
  rw [he.kind_eq, he.text_eq]
  cases t.kind with
  | operator => split <;> rfl
  | name => split <;> rfl
  | _ => rfl

theorem readToken_map (f : Frame) (below : List Frame) (t : Token) :
    (readToken printWord (f.mapTokens e) (below.map (Frame.mapTokens e)) (e t)).toOption =
      (readToken printWord f below t).toOption.map (Sum.map (Tree.mapTokens e) (mapFrames e)) := by
  refine toOption_bind_map (g := id) (by rw [terminal_map he, Option.map_id]; rfl) fun u => ?_
  simp only [id, closeFor_mapTokens]
  cases closeFor u f below with
  | none => rfl
  | some frames =>
    have hopen := openFor_mapTokens (e := e) u (.leaf t) ruleDepth frames.1 frames.2
    rw [Tree.mapTokens] at hopen
    simp only [Option.map_some, Option.bind_some, mapFrames, Prod.map, hopen]
    cases openFor u (.leaf t) ruleDepth frames.1 frames.2 with
    | none => rfl
    | some next => exact congrArg some (closeEnded_mapTokens next.1 next.2)

theorem readTokens_map (f : Frame) (below : List Frame) (ts : List Token) :
    (readTokens printWord (f.mapTokens e) (below.map (Frame.mapTokens e)) (ts.map e)).toOption =
      (readTokens printWord f below ts).toOption.map (Option.map (Tree.mapTokens e)) := by
  induction ts generalizing f below with
  | nil => rfl
  | cons t ts ih =>
    rw [List.map_cons, readTokens, readTokens]
    refine toOption_bind_map (readToken_map he f below t) fun next => ?_
    cases next with
    | inl tree => rfl
    | inr frames => exact ih frames.1 frames.2

theorem buildTree_map (printWord : Bool) (ts : List Token) : (buildTree printWord (ts.map e)).toOption =
    (buildTree printWord ts).toOption.map (Option.map (Tree.mapTokens e)) :=
  readTokens_map he (.start .fileInput) [] ts

end

/-! ### Imports from the future -/

def FutureState.isBetween : FutureState → Bool
  | .between _ => true
  | _ => false

/-- Each token that opens a block comes after the end of a line. -/
def OpensAfterLines (ts : List Token) : Prop :=
  ts.IsChain fun v w => w.kind = .indent → v.kind = .newline

/-- The search does not depend on what stands in front of blocks. -/
theorem futureNames_map (he : Recast e) {ts : List Token} (hts : OpensAfterLines ts) {state : FutureState}
    (hstate : state.isBetween = true ∨ ∀ t ∈ ts.head?, t.kind ≠ .indent) :
    futureNames state (ts.map e) = futureNames state ts := by
  induction ts generalizing state with
  | nil => rfl
  | cons t ts ih =>
    have hbetween (docstring : Bool) : futureNames (.between docstring) (ts.map e) = futureNames (.between docstring) ts :=
      ih hts.tail (.inl rfl)
    by_cases hline : t.kind = .newline
    · -- after the end of a line the search is between statements again
      have hadjoins : (e t).adjoins = t.adjoins := by
        rw [Token.adjoins, Token.adjoins, he.before_eq t (by simp [hline])]
      cases state <;> simp [futureNames, he.kind_eq, he.text_eq, hadjoins, hline, hbetween]
    · have hany (state : FutureState) : futureNames state (ts.map e) = futureNames state ts := by
        refine ih hts.tail (.inr fun u hu hk => hline ?_)
        cases ts with
        | nil => cases hu
        | cons v ts =>
          obtain rfl : v = u := Option.some.inj hu
          exact (List.isChain_cons_cons.1 hts).1 hk
      by_cases hopen : t.kind = .indent
      · cases state with
        | between docstring => simp [futureNames, he.kind_eq, hopen]
        | _ => exact absurd hopen (hstate.resolve_left (by simp [FutureState.isBetween]) t rfl)
      · have hadjoins : (e t).adjoins = t.adjoins := by
          rw [Token.adjoins, Token.adjoins, he.before_eq t hopen]
        cases state <;> simp only [List.map_cons, futureNames, he.kind_eq, he.text_eq, hadjoins, hany]

/-! ### Reading -/

theorem recast_unnumbered : Recast Token.unnumbered :=
  ⟨fun _ => rfl, fun _ => rfl, fun _ _ => rfl⟩

theorem Recast.comp {e' : Token → Token} (he : Recast e) (he' : Recast e') : Recast (e' ∘ e) where
  kind_eq t := (he'.kind_eq _).trans (he.kind_eq t)
  text_eq t := (he'.text_eq _).trans (he.text_eq t)
  before_eq t ht := (he'.before_eq _ (by rwa [he.kind_eq])).trans (he.before_eq t ht)

theorem OpensAfterLines.map (he : Recast e) {ts : List Token} : OpensAfterLines (ts.map e) ↔ OpensAfterLines ts := by
  simp only [OpensAfterLines, List.isChain_map, he.kind_eq]

theorem read_eq {source : List Char} (hfault : (scan source).fault = none) : read source =
    (scan source).tree (!(futureNames (.between false) (scan source).tokens).1.contains "print_function".toList) := by
  unfold read
  simp only [hfault]
  rfl

/-- Over tokens that differ from changed ones in the numbers of lines only, the changed tree is built. -/
theorem buildTree_retouched (he : Recast e) {ts us : List Token} {tree : Tree}
    (hts : ts.map Token.unnumbered = us.map (Token.unnumbered ∘ e)) (h : buildTree printWord us = .ok (some tree)) :
    ∃ tree', buildTree printWord ts = .ok (some tree') ∧
      tree'.mapTokens Token.unnumbered = (tree.mapTokens e).mapTokens Token.unnumbered := by
  have hbuild := buildTree_map (he.comp recast_unnumbered) printWord us
  rw [← hts, buildTree_map recast_unnumbered, h] at hbuild
  cases hresult : buildTree printWord ts with
  | error refusal =>
    rw [hresult] at hbuild
    cases hbuild
  | ok found =>
    rw [hresult] at hbuild
    cases found with
    | none => cases Option.some.inj hbuild
    | some tree' =>
      refine ⟨tree', rfl, ?_⟩
      rw [Tree.mapTokens_mapTokens]
      exact Option.some.inj (Option.some.inj hbuild)

/-- A tree whose text is read as the tree itself. -/
def Tree.Printed (tree : Tree) : Prop :=
  read tree.source = .ok tree

theorem printed_of_read {source : List Char} {tree : Tree} (h : read source = .ok tree)
    (hfeed : source.getLast? = some '\n') : tree.Printed := by
  obtain ⟨ls, t, rfl, hls, ht⟩ := exists_lines source
  have hnil : t = [] := by
    by_contra hne
    rw [List.getLast?_append_of_ne_nil _ hne] at hfeed
    exact ht (List.mem_of_getLast? hfeed)
  have htext := read_source h
  rw [completed_lines hls ht, hnil] at htext
  rw [Tree.Printed, htext]
  simpa [hnil] using h

/-- New idle lines in front of the blocks of a printed tree: the new text is read as the same tree with these
lines, up to the numbers of lines. -/
theorem read_mapTokens {tree : Tree} (h : tree.Printed) (he : Retouch e)
    (hidle : ∀ t ∈ tree.leaves, t.kind = .indent → IdleLines (e t).before) :
    ∃ tree' : Tree, tree'.Printed ∧ tree'.source = (tree.mapTokens e).source ∧
      tree'.mapTokens Token.unnumbered = (tree.mapTokens e).mapTokens Token.unnumbered := by
  obtain ⟨hleaves, hfault, printWord, hderives⟩ := read_leaves h
  obtain ⟨hfault', htokens⟩ := read_retouched h he hidle
  rw [← read_source h, ← hleaves] at htokens
  set ts := (scan (tree.mapTokens e).source).tokens with hts
  have hchain : OpensAfterLines tree.leaves := hderives.opens
  have hchange := he.recast.comp recast_unnumbered
  rw [List.map_map] at htokens
  have hchain' : OpensAfterLines ts :=
    (OpensAfterLines.map recast_unnumbered).1 (htokens ▸ (OpensAfterLines.map hchange).2 hchain)
  have hnames : futureNames (.between false) ts = futureNames (.between false) tree.leaves := by
    rw [← futureNames_map recast_unnumbered hchain' (.inl rfl), htokens, futureNames_map hchange hchain (.inl rfl)]
  -- the builder makes the same tree of both rows of tokens
  have hread := h
  rw [Tree.Printed, read_eq hfault, ← hleaves] at hread
  have hbuild := Scan.buildTree_of_tree hread
  rw [← hleaves] at hbuild
  obtain ⟨tree', hresult, hmap⟩ := buildTree_retouched he.recast htokens hbuild
  have hsource : tree'.source = (tree.mapTokens e).source := by
    refine flatMap_source_of_unnumbered ?_
    rw [← Tree.leaves_mapTokens, hmap, Tree.leaves_mapTokens]
  refine ⟨tree', ?_, hsource, hmap⟩
  rw [Tree.Printed, hsource, read_eq hfault', ← hts, hnames, Scan.tree, ← hts, hresult]

end TypeComments.Source
