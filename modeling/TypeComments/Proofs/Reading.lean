import TypeComments.Proofs.Adjacency
import TypeComments.Source.Module

/-!
# What reading keeps

The tree of a text is made of all its tokens (`read_leaves`), so it has the text of its source, with the last
line completed (`read_source`). The tokens that open its blocks take whole idle lines in front of them, and no
two of them stand on one line (`read_blocks`).
-/

namespace TypeComments.Source
variable {source : List Char} {tree : Tree}

theorem Scan.buildTree_of_tree {printWord : Bool} {s : Scan} (h : s.tree printWord = .ok tree) :
    buildTree printWord s.tokens = .ok (some tree) := by
  unfold Scan.tree at h
  split at h
  · simp at h
  · rename_i heq
    cases h
    exact heq
  · simp at h
  · simp at h

theorem buildTree_of_read (h : read source = .ok tree) :
    ∃ printWord, buildTree printWord (scan source).tokens = .ok (some tree) := by
  unfold read at h
  dsimp only at h
  split at h
  · simp at h
  · exact ⟨_, Scan.buildTree_of_tree h⟩

/-- A text that is read is scanned to its end, and all tokens are leaves. -/
theorem read_leaves (h : read source = .ok tree) : tree.leaves = (scan source).tokens ∧
    (scan source).fault = none ∧ ∃ printWord, Derives printWord (.rule .fileInput) tree := by
  obtain ⟨printWord, hbuild⟩ := buildTree_of_read h
  obtain ⟨hderives, rest, htokens⟩ := buildTree_sound hbuild
  obtain ⟨front, marker, hleaves, hmarker⟩ := hderives.endMarker
  have hmem : ∃ t ∈ (scan source).tokens, t.kind = .endMarker := by
    refine ⟨marker, ?_, hmarker⟩
    rw [htokens, hleaves]
    simp
  have hf := scan_fault hmem
  obtain ⟨others, last, hscan, hothers⟩ := scan_unended hf
  -- what follows the tree would come after the token that ends the text
  have hrest : rest = [] := by
    by_contra hne
    rw [hscan, ← List.dropLast_append_getLast hne, ← List.append_assoc] at htokens
    refine hothers marker ?_ hmarker
    rw [(List.append_inj' htokens rfl).1, hleaves]
    simp
  exact ⟨by rw [htokens, hrest, List.append_nil], hf, printWord, hderives⟩

/-- The tokens at the end of a text open no block. -/
theorem Completes.last_ne_indent {M : List (List Char)} {front last more : List Token}
    (h : Completes source M front last more) : ∀ u ∈ last, u.kind ≠ .indent := by
  obtain ⟨dedents, marker, hlast, hmarker, hdedents⟩ := h.last
  intro u hu
  rw [hlast, List.mem_append, List.mem_singleton] at hu
  rcases hu with hu | rfl
  · simp [hdedents u hu]
  · simp [hmarker]

theorem read_completes (h : read source = .ok tree) : ∃ M front last more, Completes source M front last more := by
  obtain ⟨hleaves, hf, printWord, hderives⟩ := read_leaves h
  exact scan_completed hf (hleaves ▸ hderives.not_stray) (hleaves ▸ hderives.rests)

theorem read_source (h : read source = .ok tree) : tree.source = completed source := by
  obtain ⟨M, front, last, more, hM⟩ := read_completes h
  rw [Tree.source, (read_leaves h).1, hM.source, hM.text]

/-- The tokens that open blocks: their text is blank, whole idle lines stand in front of them, and no two
of them stand on one line. -/
theorem read_blocks (h : read source = .ok tree) :
    (∀ t ∈ tree.leaves, t.kind = .indent → t.text.all isSpacing = true ∧ IdleLines t.before) ∧
      tree.leaves.Pairwise fun t u => t.kind = .indent → u.kind = .indent → t.line < u.line := by
  obtain ⟨M, front, last, more, hM⟩ := read_completes h
  have hlast := hM.last_ne_indent
  have hfront : ∀ t ∈ front, t ∈ (Scanner.run M).tokens := by
    intro t ht
    rw [← List.mem_reverse, hM.front]
    exact List.mem_append_left _ ht
  rw [(read_leaves h).1, hM.tokens]
  refine ⟨fun t ht hk => ?_, List.pairwise_append.2 ⟨?_, ?_, fun t _ u hu _ hk => absurd hk (hlast u hu)⟩⟩
  · rcases List.mem_append.1 ht with ht | ht
    · have hshape := hM.lined.blocks.shape t (hfront t ht) hk
      exact ⟨hshape.1, hshape.2.1⟩
    · exact absurd hk (hlast t ht)
  · have hapart := List.pairwise_reverse.2 (hM.lined.blocks.apart.imp fun h hk hk' => h hk' hk)
    rw [hM.front] at hapart
    exact (List.pairwise_append.1 hapart).1
  · exact List.pairwise_of_forall_mem_list fun t ht _ _ hk => absurd hk (hlast t ht)

end TypeComments.Source
