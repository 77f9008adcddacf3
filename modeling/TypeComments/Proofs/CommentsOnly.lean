import TypeComments.Proofs.Rescan
import TypeComments.Proofs.VisitOrder

/-!
# A conversion touches comments only

The text of a converted source is that of the source, with other idle lines in front of some function bodies:
each is one type comment more, or one in place of another (`convert_touches_comments_only`). It is cut into the
same tokens. What is written for a function is settled by its definition alone, so it does not matter in which
order the functions are visited.
-/

namespace TypeComments

namespace Source
open Scanner
variable {source : List Char} {tree : Tree} {e : Token → Token}

theorem scan_settled_tokens {M : List (List Char)} (hM : ∀ l ∈ M, IsLine l) (hlined : (run M).Lined M)
    (hm : (run M).midway = false) :
    ∃ closing, (scan M.flatten).tokens = (run M).tokens.reverse ++ closing ∧ ∀ u ∈ closing, u.kind ≠ .indent := by
  obtain ⟨n, hscan, -, -⟩ := scan_settled hM hlined hm
  obtain ⟨-, last, dedents, htokens, hlast, hdedents⟩ := closeAll_tokens (s := { run M with line := n }) hlined.fault
  refine ⟨dedents.reverse ++ [last], ?_, fun u hu => ?_⟩
  · rw [hscan, htokens]
    simp
  · rw [List.mem_append, List.mem_reverse, List.mem_singleton] at hu
    rcases hu with hu | rfl
    · simp [hdedents u hu]
    · simp [hlast]

/-- New idle lines in front of the blocks of a text leave its tokens as they are. -/
theorem read_retouched (h : read source = .ok tree) (he : Retouch e)
    (hidle : ∀ t ∈ tree.leaves, t.kind = .indent → IdleLines (e t).before) :
    (scan (tree.mapTokens e).source).fault = none ∧
      (scan (tree.mapTokens e).source).tokens.map Token.unnumbered =
        ((scan (completed source)).tokens.map e).map Token.unnumbered := by
  obtain ⟨M, front, last, more, hM⟩ := read_completes h
  obtain ⟨hleaves, -, printWord, hderives⟩ := read_leaves h
  obtain ⟨closing, hscan, hclosing⟩ := scan_settled_tokens hM.lines hM.lined hM.settled
  obtain ⟨n, -, -, htext⟩ := scan_settled hM.lines hM.lined hM.settled
  have htail : ∀ u ∈ more ++ closing, u.kind ≠ .indent := fun u hu =>
    (List.mem_append.1 hu).elim (fun hu => by simp [hM.more u hu]) (hclosing u)
  rw [hM.front, List.append_assoc] at hscan
  have hsame {us : List Token} (hus : ∀ u ∈ us, u.kind ≠ .indent) : us.map e = us :=
    (List.map_congr_left fun u hu => he.others u (hus u hu)).trans (List.map_id' us)
  -- the texts have the same end
  have hend : last.flatMap Token.source = (more ++ closing).flatMap Token.source := by
    have := hM.source.trans htext.symm
    rw [hM.tokens, hscan, List.flatMap_append, List.flatMap_append] at this
    exact List.append_cancel_left this
  have hsource : (tree.mapTokens e).source = ((scan M.flatten).tokens.map e).flatMap Token.source := by
    rw [Tree.source, Tree.leaves_mapTokens, hleaves, hM.tokens, hscan, List.map_append, List.map_append,
      hsame hM.last_ne_indent, hsame htail, List.flatMap_append, List.flatMap_append, hend]
  have hmem : ∀ t ∈ (run M).tokens, t ∈ tree.leaves ∨ t.kind = .newline := by
    intro t ht
    rw [← List.mem_reverse, hM.front] at ht
    rw [hleaves, hM.tokens]
    exact (List.mem_append.1 ht).imp (List.mem_append_left _) (hM.more t)
  rw [hsource, hM.text]
  refine scan_retouched he.others hM.lines hM.lined hM.settled (fun t ht => ?_) fun t ht hk => ?_
  · rcases hmem t ht with ht | hk
    · exact hderives.not_stray t ht
    · simp [hk]
  · rcases hmem t ht with ht | hk'
    · obtain ⟨b, hb⟩ := he.indents t hk
      have := hidle t ht hk
      rw [hb] at this
      exact ⟨b, hb, this⟩
    · simp [hk] at hk'

end Source

namespace Signature
open Source Docstring
variable {defaults : Defaults} {file source : List Char} {tree : Tree} {c : Converted} {ms ms' : List Message}

/-- The text differs from a source in comments only; `e` says what becomes of each token of the source. -/
structure CommentsOnly (defaults : Defaults) (source : List Char) (tree : Tree) (e : Token → Token)
    (text : List Char) : Prop where
  /-- The tree holds the source up to its end, where a last comment gets its line feed and a last line of
  blanks goes. -/
  source_eq : tree.source = completed source
  text_eq : text = (tree.mapTokens e).source
  /-- Nothing changes but what stands in front of blocks, -/
  retouch : Retouch e
  /-- and of these only the blocks of functions. -/
  others : ∀ t ∈ tree.leaves, (∀ f ∈ tree.allFunctions, f.opening? ≠ some t) → e t = t
  /-- What stands in front of the body of a function is settled by its definition: whole idle lines. -/
  functions : ∀ f ∈ tree.allFunctions, ∃ d t, definition? f = some d ∧ f.opening? = some t ∧
    e t = { t with before := (d.newBefore defaults).getD t.before } ∧ IdleLines (e t).before
  /-- The first new line is a type comment, and the old lines stay, but for an old type comment. -/
  lines : ∀ f ∈ tree.allFunctions, ∀ d ∈ definition? f, ∀ before ∈ d.newBefore defaults, ∃ signature,
    before = d.blanks ++ "# type: ".toList ++ signature ++ ['\n'] ++
      (if isTypeComment d.before then [] else d.before) ∧
    '\n' ∉ signature ∧ (defaults.Clear isLineBreak → Clear isLineBreak signature)
  /-- The text is cut into the tokens of the source, with the new lines in front of them. -/
  scanned : (scan text).fault = none ∧ (scan text).tokens.map Token.unnumbered =
    ((scan (completed source)).tokens.map e).map Token.unnumbered
  same : (scan text).tokens.map (fun t => (t.kind, t.text)) =
    (scan (completed source)).tokens.map fun t => (t.kind, t.text)

theorem same_of_scanned {e : Token → Token} (he : Retouch e) {ts us : List Token}
    (h : ts.map Token.unnumbered = (us.map e).map Token.unnumbered) :
    ts.map (fun t => (t.kind, t.text)) = us.map fun t => (t.kind, t.text) := by
  have := congrArg (List.map fun t : Token => (t.kind, t.text)) h
  simpa [List.map_map, Function.comp_def, Token.unnumbered, he.kind_eq, he.text_eq] using this

/-- The edits leave a token alone that opens no function. -/
theorem editToken_of_not_opening (h : read source = .ok tree) {t : Token} (ht : t ∈ tree.leaves)
    (hno : ∀ f ∈ tree.allFunctions, f.opening? ≠ some t) :
    editToken (tree.allFunctions.filterMap (edit? defaults)) t = t := by
  by_cases hk : t.kind = .indent
  · refine editToken_of_forall fun x hx => ?_
    obtain ⟨f, hf, hx⟩ := List.mem_filterMap.1 hx
    obtain ⟨u, hu, hline⟩ := edit?_line hx
    have hne : u ≠ t := fun hut => hno f hf (hut ▸ hu)
    have : Std.Symm fun t u : Token => t.kind = .indent → u.kind = .indent → t.line ≠ u.line :=
      ⟨fun _ _ hne hk hk' => (hne hk' hk).symm⟩
    rw [hline]
    exact (read_indents h).forall (mem_leaves_of_opening hf hu) ht hne (Tree.opening?_kind hu) hk
  · exact (retouch_editToken _).others t hk

/-- What the edits make of the token that opens a function. -/
theorem editToken_opening (h : read source = .ok tree) {f : Function} (hf : f ∈ tree.allFunctions)
    (hconv : Converts defaults file f) : ∃ d t, definition? f = some d ∧ f.opening? = some t ∧
      d.blanks = t.text ∧ d.before = t.before ∧
      editToken (tree.allFunctions.filterMap (edit? defaults)) t =
        { t with before := (d.newBefore defaults).getD t.before } := by
  obtain ⟨ms, ms', hrun⟩ := hconv
  obtain ⟨b, hb⟩ := convertFunction_block hrun
  have ht := Function.opening?_of_block hb
  refine ⟨definition f b, b.indent, by rw [definition?, hb]; rfl, ht, rfl, rfl, ?_⟩
  have hedit : edit? defaults f = ((definition f b).newBefore defaults).map (⟨b.indent.line, ·⟩) := by
    rw [edit?, hb]
    rfl
  cases hnew : (definition f b).newBefore defaults with
  | some before =>
    rw [hnew] at hedit
    exact editToken_of_mem (edits_apart h) (List.mem_filterMap.2 ⟨f, hf, hedit⟩) (Tree.opening?_kind ht) rfl
  | none =>
    rw [hnew] at hedit
    refine editToken_of_forall fun x hx => ?_
    obtain ⟨g, hg, hx⟩ := List.mem_filterMap.1 hx
    obtain ⟨u, hu, hline⟩ := edit?_line hx
    obtain ⟨i, hi⟩ := List.mem_iff_getElem?.1 hf
    obtain ⟨j, hj⟩ := List.mem_iff_getElem?.1 hg
    have hji : j ≠ i := by
      rintro rfl
      rw [Option.some.inj (hi.symm.trans hj), hx] at hedit
      cases hedit
    rw [hline]
    exact line_ne_of_place_ne h hji hj hi hu ht

/-- A conversion of a source whose docstrings are read by the line readers, with default types on one line,
changes nothing but what stands in front of function bodies, where it writes type comments; and it writes the
same whatever order the functions are visited in. -/
theorem convert_touches_comments_only (hread : read source = .ok tree)
    (hrun : (convert defaults file source).run.run ms = (.ok c, ms'))
    (hdefaults : defaults.Clear (· == '\n'))
    (hformat : ∀ f ∈ tree.allFunctions, ∀ d ∈ definition? f, ∀ text ∈ d.docText?,
      chooseFormat defaults.format text ≠ .rest) :
    (∃ e, CommentsOnly defaults source tree e c.text) ∧
      ∀ order : List Nat, order.Perm (List.range tree.allFunctions.length) → ∀ changed ns, ∃ s,
        (visitInOrder defaults file order).run.run ⟨tree, changed, ns⟩ = (.ok (), s) ∧ s.tree.source = c.text := by
  have htree : (convertTree defaults file tree).run.run ms = (.ok c, ms') := by
    rw [← hrun, convert, hread]
  obtain ⟨htext, hall⟩ := convertTree_ok hread htree
  have he := retouch_editToken (tree.allFunctions.filterMap (edit? defaults))
  have hblocks := (read_blocks hread).1
  have hothers : ∀ t ∈ tree.leaves, (∀ f ∈ tree.allFunctions, f.opening? ≠ some t) →
      editToken (tree.allFunctions.filterMap (edit? defaults)) t = t :=
    fun t ht hno => editToken_of_not_opening hread ht hno
  have hfunctions : ∀ f ∈ tree.allFunctions, ∃ d t, definition? f = some d ∧ f.opening? = some t ∧
      editToken (tree.allFunctions.filterMap (edit? defaults)) t =
        { t with before := (d.newBefore defaults).getD t.before } ∧
      IdleLines (editToken (tree.allFunctions.filterMap (edit? defaults)) t).before := by
    intro f hf
    obtain ⟨d, t, hd, ht, hblanks, hbefore, hedit⟩ := editToken_opening hread hf (hall f hf)
    obtain ⟨hspacing, hidle⟩ := hblocks t (mem_leaves_of_opening hf ht) (Tree.opening?_kind ht)
    refine ⟨d, t, hd, ht, hedit, ?_⟩
    rw [hedit]
    cases hnew : d.newBefore defaults with
    | none => exact hidle
    | some before =>
      exact Definition.newBefore_idle hdefaults (hformat f hf d hd) (hblanks ▸ hspacing) (hbefore ▸ hidle) hnew
  have hidle : ∀ t ∈ tree.leaves, t.kind = .indent →
      IdleLines (editToken (tree.allFunctions.filterMap (edit? defaults)) t).before := by
    intro t ht hk
    by_cases hopen : ∃ f ∈ tree.allFunctions, f.opening? = some t
    · obtain ⟨f, hf, hft⟩ := hopen
      obtain ⟨d, u, -, hu, -, hidle⟩ := hfunctions f hf
      exact Option.some.inj (hu.symm.trans hft) ▸ hidle
    · rw [hothers t ht fun f hf hft => hopen ⟨f, hf, hft⟩]
      exact (hblocks t ht hk).2
  have hscanned := read_retouched hread he hidle
  refine ⟨⟨_, read_source hread, htext, he, hothers, hfunctions, ?_, ?_, ?_⟩, fun order horder changed ns => ?_⟩
  · intro f hf d hd before hbefore
    obtain ⟨signature, heq, hclear⟩ := Definition.newBefore_line (hformat f hf d hd) hbefore
    refine ⟨signature, heq, fun hmem => ?_, hclear isLineBreak fun _ h => h⟩
    simpa using hclear (· == '\n') (by simp [isLineBreak]) hdefaults _ hmem
  · rw [htext]
    exact hscanned
  · rw [htext]
    exact same_of_scanned he hscanned.2
  · obtain ⟨s, hvisits, hs⟩ := visitInOrder_of_perm hread horder (s := ⟨tree, changed, ns⟩) rfl hall
    exact ⟨s, hvisits, by rw [hs, htext]⟩

/-- A constructor without a docstring in a class with one, and a comment in front of its body. -/
def constructorSource : List Char :=
  "class A:\n \"\"\"\n Args:\n  x (int)\n \"\"\"\n def __init__(self, x):\n  # a\n  f(x)\n".toList

theorem convert_touches_comments_only_constructor : ∃ tree c ms, read constructorSource = .ok tree ∧
    (convert {} [] constructorSource).run.run [] = (.ok c, ms) ∧
    c.text = ("class A:\n \"\"\"\n Args:\n  x (int)\n \"\"\"\n def __init__(self, x):\n" ++
      "  # type: (int) -> None\n  # a\n  f(x)\n").toList ∧
    (∃ e, CommentsOnly {} constructorSource tree e c.text) ∧
      ∀ order : List Nat, order.Perm (List.range tree.allFunctions.length) → ∀ changed ns, ∃ s,
        (visitInOrder {} [] order).run.run ⟨tree, changed, ns⟩ = (.ok (), s) ∧ s.tree.source = c.text := by
  have htree : (read constructorSource).toOption.map (fun tree => tree.allFunctions.all fun f =>
      (definition? f).all fun d => d.docText?.all fun text => chooseFormat none text != .rest) = some true := by
    decide +kernel
  have htext : ((convert {} [] constructorSource).run.run []).1.toOption.map Converted.text = some
      ("class A:\n \"\"\"\n Args:\n  x (int)\n \"\"\"\n def __init__(self, x):\n" ++
        "  # type: (int) -> None\n  # a\n  f(x)\n").toList := by
    decide +kernel
  obtain ⟨tree, htree, hformats⟩ := Option.map_eq_some_iff.1 htree
  obtain ⟨c, hc, htext⟩ := Option.map_eq_some_iff.1 htext
  have hread := eq_ok_of_toOption htree
  obtain ⟨ms, hrun⟩ := run_eq_ok_of_toOption hc
  refine ⟨tree, c, ms, hread, hrun, htext, convert_touches_comments_only hread hrun ?_ ?_⟩
  · exact ⟨fun q hq => absurd hq List.not_mem_nil, by decide⟩
  · intro f hf d hd text hdoc
    have hall := List.all_eq_true.1 hformats f hf
    rw [hd, Option.all_some, hdoc, Option.all_some] at hall
    simpa using hall

/-- A last comment without a line feed gets one, though there is no function. -/
theorem convert_completes_last_comment :
    (read "# c".toList).toOption.map (·.allFunctions.length) = some 0 ∧
      ((convert {} [] "# c".toList).run.run []).1.toOption.map (·.text) = some "# c\n".toList ∧
      "# c\n".toList ≠ "# c".toList := by
  decide +kernel

end Signature
end TypeComments
