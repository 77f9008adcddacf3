import TypeComments.Source.Tree.Build

/-!
# The trees of the grammar

`Derives` says which trees a part of the grammar describes: a rule describes the trees over the rows that
match its right side, and a rule with a single child leaves that child in its place. The builder keeps, for
each rule on its stack, the row of parts read so far and what may follow (`Frame.Reads`); closing and
opening rules keeps this, so the tree that it returns is one of the grammar, and its leaves are the tokens
read (`buildTree_sound`).
-/

namespace TypeComments.Source

/-! ### Rows of parts -/

namespace Rx

/-- The rows of parts that an expression describes. -/
inductive Matches : Rx → List Part → Prop
  | empty : Matches .empty []
  | part (p : Part) : Matches (.part p) [p]
  | seq {a b : Rx} {ps qs : List Part} (ha : Matches a ps) (hb : Matches b qs) : Matches (.seq a b) (ps ++ qs)
  | left {a b : Rx} {ps : List Part} (ha : Matches a ps) : Matches (.alt a b) ps
  | right {a b : Rx} {ps : List Part} (hb : Matches b ps) : Matches (.alt a b) ps
  | done {a : Rx} : Matches (.many a) []
  | more {a : Rx} {ps qs : List Part} (ha : Matches a ps) (hm : Matches (.many a) qs) : Matches (.many a) (ps ++ qs)

variable {x y a b : Rx} {p : Part} {ps : List Part}

theorem matches_nil (h : x.nullable = true) : x.Matches [] := by
  induction x with
  | empty => exact .empty
  | part p => simp [nullable] at h
  | seq a b iha ihb =>
    rw [nullable, Bool.and_eq_true] at h
    exact (iha h.1).seq (ihb h.2)
  | alt a b iha ihb =>
    rw [nullable, Bool.or_eq_true] at h
    exact h.elim (fun h => .left (iha h)) fun h => .right (ihb h)
  | many a _ => exact .done

theorem andThen_matches (h : (a.andThen b).Matches ps) : ∃ qs rs, ps = qs ++ rs ∧ a.Matches qs ∧ b.Matches rs := by
  unfold andThen at h
  split at h
  · exact ⟨[], ps, rfl, .empty, h⟩
  · exact ⟨ps, [], by simp, h, .empty⟩
  · cases h with
    | seq ha hb => exact ⟨_, _, rfl, ha, hb⟩

/-- What is left after a part completes it to a row. -/
theorem matches_cons (hy : y ∈ x.after p) (h : y.Matches ps) : x.Matches (p :: ps) := by
  induction x generalizing y ps with
  | empty => simp [after] at hy
  | part q =>
    rw [after] at hy
    split at hy
    · rename_i hpq
      rw [List.mem_singleton.1 hy] at h
      cases h
      rw [hpq]
      exact .part q
    · simp at hy
  | seq a b iha ihb =>
    rcases List.mem_append.1 hy with hy | hy
    · obtain ⟨y', hy', rfl⟩ := List.mem_map.1 hy
      obtain ⟨qs, rs, rfl, hq, hr⟩ := andThen_matches h
      exact (iha hy' hq).seq hr
    · split at hy
      · rename_i hnull
        exact (matches_nil hnull).seq (ihb hy h)
      · simp at hy
  | alt a b iha ihb =>
    exact (List.mem_append.1 hy).elim (fun hy => .left (iha hy h)) fun hy => .right (ihb hy h)
  | many a ih =>
    obtain ⟨y', hy', rfl⟩ := List.mem_map.1 hy
    obtain ⟨qs, rs, rfl, hq, hr⟩ := andThen_matches h
    exact (ih hy' hq).more hr

end Rx

/-! ### Derived trees -/

mutual

/-- The trees that a part of the grammar describes. -/
inductive Derives (printWord : Bool) : Part → Tree → Prop
  | leaf {t : Token} {u : Terminal} (h : t.terminal printWord = .ok u) : Derives printWord (.terminal u) (.leaf t)
  | node {r : Rule} {ps : List Part} {ts : List Tree} (hrow : r.body.Matches ps) (h : DerivesAll printWord ps ts) :
      Derives printWord (.rule r) (.ofChildren r ts)

@[inherit_doc Derives]
inductive DerivesAll (printWord : Bool) : List Part → List Tree → Prop
  | nil : DerivesAll printWord [] []
  | cons {p : Part} {t : Tree} {ps : List Part} {ts : List Tree} (h : Derives printWord p t)
      (hs : DerivesAll printWord ps ts) : DerivesAll printWord (p :: ps) (t :: ts)

end

variable {printWord : Bool} {p : Part} {ps qs : List Part} {t : Tree} {ts us : List Tree}

theorem DerivesAll.append (h : DerivesAll printWord ps ts) (h' : DerivesAll printWord qs us) :
    DerivesAll printWord (ps ++ qs) (ts ++ us) := by
  induction ps generalizing ts with
  | nil =>
    cases h
    exact h'
  | cons p ps ih =>
    cases h with
    | cons hp hs => exact .cons hp (ih hs)

theorem Tree.leavesAll_append (ts us : List Tree) :
    Tree.leavesAll (ts ++ us) = Tree.leavesAll ts ++ Tree.leavesAll us := by
  induction ts with
  | nil => rfl
  | cons t ts ih => simp [Tree.leavesAll, ih]

theorem Tree.leaves_ofChildren (r : Rule) (ts : List Tree) : (Tree.ofChildren r ts).leaves = Tree.leavesAll ts := by
  unfold Tree.ofChildren
  split
  · simp [Tree.leavesAll]
  · rfl

/-! ### The builder -/

namespace Frame
variable {f g : Frame} {pending : List Part}

/-- The trees of a rule come from a row of parts that, after the parts `pending`, what may follow completes. -/
def Reads (printWord : Bool) (pending : List Part) (f : Frame) : Prop :=
  ∃ ps, DerivesAll printWord ps f.trees.reverse ∧
    ∀ y ∈ f.rest, ∀ qs, y.Matches qs → f.rule.body.Matches (ps ++ pending ++ qs)

theorem start_reads (printWord : Bool) (r : Rule) : (start r).Reads printWord [] :=
  ⟨[], .nil, fun y hy qs h => by rwa [List.mem_singleton.1 hy] at h⟩

theorem Reads.pass (h : f.Reads printWord []) (p : Part) : (f.pass p).Reads printWord [p] := by
  obtain ⟨ps, hps, hrest⟩ := h
  refine ⟨ps, hps, fun y hy qs hqs => ?_⟩
  obtain ⟨x, hx, hy⟩ := List.mem_flatMap.1 (List.mem_eraseDups.1 hy)
  have hrow := hrest x hx (p :: qs) (Rx.matches_cons hy hqs)
  rwa [List.append_nil, List.append_cons] at hrow

theorem Reads.add (h : f.Reads printWord [p]) (ht : Derives printWord p t) : (f.add t).Reads printWord [] := by
  obtain ⟨ps, hps, hrest⟩ := h
  refine ⟨ps ++ [p], ?_, fun y hy qs hqs => by rw [List.append_nil]; exact hrest y hy qs hqs⟩
  have : (f.add t).trees.reverse = f.trees.reverse ++ [t] := by simp [Frame.add]
  rw [this]
  exact hps.append (.cons ht .nil)

theorem Reads.close (h : f.Reads printWord []) (hend : f.mayEnd = true) :
    Derives printWord (.rule f.rule) f.close := by
  obtain ⟨ps, hps, hrest⟩ := h
  obtain ⟨y, hy, hnull⟩ := List.any_eq_true.1 hend
  have hrow := hrest y hy [] (Rx.matches_nil hnull)
  simp only [List.append_nil] at hrow
  exact .node hrow hps

end Frame

/-- The rules around a rule `r`, innermost first: each waits for the one before it, and the outermost
is a whole text. -/
def Around (printWord : Bool) : Rule → List Frame → Prop
  | r, [] => r = .fileInput
  | r, f :: rest => f.Reads printWord [.rule r] ∧ Around printWord f.rule rest

/-- A stack of rules: the innermost is being read. -/
structure Stacked (printWord : Bool) (f : Frame) (below : List Frame) : Prop where
  reads : f.Reads printWord []
  around : Around printWord f.rule below

/-- The tokens in the trees of a stack. -/
def stackLeaves (f : Frame) (below : List Frame) : List Token :=
  below.reverse.flatMap (fun g => Tree.leavesAll g.trees.reverse) ++ Tree.leavesAll f.trees.reverse

theorem stackLeaves_add (f : Frame) (below : List Frame) (t : Tree) :
    stackLeaves (f.add t) below = stackLeaves f below ++ t.leaves := by
  simp [stackLeaves, Frame.add, Tree.leavesAll_append, Tree.leavesAll]

variable {f f' g : Frame} {below below' rest : List Frame} {u : Terminal} {tok : Token}

/-- The innermost rule ends, and its tree goes into the rule around it. -/
theorem Stacked.close (h : Stacked printWord f (g :: rest)) (hend : f.mayEnd = true) :
    Stacked printWord (g.add f.close) rest ∧ stackLeaves (g.add f.close) rest = stackLeaves f (g :: rest) := by
  refine ⟨⟨h.around.1.add (h.reads.close hend), h.around.2⟩, ?_⟩
  rw [stackLeaves_add, Frame.close, Tree.leaves_ofChildren]
  simp [stackLeaves]

theorem Stacked.closeFor (h : Stacked printWord f below) (heq : closeFor u f below = some (f', below')) :
    Stacked printWord f' below' ∧ stackLeaves f' below' = stackLeaves f below := by
  induction below generalizing f with
  | nil =>
    rw [Source.closeFor] at heq
    split at heq <;> cases heq
    exact ⟨h, rfl⟩
  | cons g rest ih =>
    rw [Source.closeFor] at heq
    split at heq
    · cases heq
      exact ⟨h, rfl⟩
    split at heq
    · rename_i hend
      obtain ⟨hclosed, hleaves⟩ := h.close hend
      obtain ⟨hstack, hleaves'⟩ := ih hclosed heq
      exact ⟨hstack, hleaves'.trans hleaves⟩
    · simp at heq

theorem Stacked.openFor {fuel : Nat} (htok : tok.terminal printWord = .ok u) (h : Stacked printWord f below)
    (heq : openFor u (.leaf tok) fuel f below = some (f', below')) :
    Stacked printWord f' below' ∧ stackLeaves f' below' = stackLeaves f below ++ [tok] := by
  induction fuel generalizing f below with
  | zero => simp [Source.openFor] at heq
  | succ fuel ih =>
    rw [Source.openFor] at heq
    split at heq
    · simp at heq
    · rename_i v hnext
      cases heq
      have huv : u = v := by simpa [Part.startsWith] using List.find?_some hnext
      refine ⟨⟨(h.reads.pass _).add (.leaf (huv ▸ htok)), h.around⟩, ?_⟩
      rw [stackLeaves_add]
      rfl
    · rename_i r hnext
      have hstart : Stacked printWord (.start r) (f.pass (.rule r) :: below) :=
        ⟨Frame.start_reads printWord r, And.intro (h.reads.pass (.rule r)) h.around⟩
      obtain ⟨hstack, hleaves⟩ := ih hstart heq
      refine ⟨hstack, hleaves.trans ?_⟩
      simp [stackLeaves, Frame.start, Frame.pass, Tree.leavesAll]

/-- Rules in which nothing may follow end; if the outermost one does, it is the whole tree. -/
theorem Stacked.closeEnded (h : Stacked printWord f below) :
    (∃ tree, closeEnded f below = .inl tree ∧ Derives printWord (.rule .fileInput) tree ∧
      tree.leaves = stackLeaves f below) ∨
    ∃ f' below', closeEnded f below = .inr (f', below') ∧ Stacked printWord f' below' ∧
      stackLeaves f' below' = stackLeaves f below := by
  induction below generalizing f with
  | nil =>
    rw [Source.closeEnded]
    split
    · rename_i hend
      rw [Frame.mustEnd, Bool.and_eq_true] at hend
      have hrule : f.rule = .fileInput := h.around
      refine .inl ⟨_, rfl, hrule ▸ h.reads.close hend.1, ?_⟩
      rw [Frame.close, Tree.leaves_ofChildren]
      simp [stackLeaves]
    · exact .inr ⟨f, [], rfl, h, rfl⟩
  | cons g rest ih =>
    rw [Source.closeEnded]
    split
    · rename_i hend
      rw [Frame.mustEnd, Bool.and_eq_true] at hend
      obtain ⟨hclosed, hleaves⟩ := h.close hend.1
      rw [← hleaves]
      exact ih hclosed
    · exact .inr ⟨f, g :: rest, rfl, h, rfl⟩

theorem Stacked.readToken (h : Stacked printWord f below) {r : Tree ⊕ (Frame × List Frame)}
    (heq : readToken printWord f below tok = .ok r) :
    (∃ tree, r = .inl tree ∧ Derives printWord (.rule .fileInput) tree ∧ tree.leaves = stackLeaves f below ++ [tok]) ∨
    ∃ f' below', r = .inr (f', below') ∧ Stacked printWord f' below' ∧
      stackLeaves f' below' = stackLeaves f below ++ [tok] := by
  unfold Source.readToken at heq
  cases hterm : tok.terminal printWord with
  | error e =>
    rw [hterm] at heq
    simp [bind, Except.bind] at heq
  | ok u =>
    rw [hterm] at heq
    cases hclose : Source.closeFor u f below with
    | none =>
      simp [bind, Except.bind, hclose, throw, throwThe, MonadExceptOf.throw] at heq
    | some stack =>
      obtain ⟨f₁, below₁⟩ := stack
      obtain ⟨h₁, hleaves₁⟩ := h.closeFor hclose
      cases hopen : Source.openFor u (.leaf tok) ruleDepth f₁ below₁ with
      | none => simp [bind, Except.bind, hclose, hopen, throw, throwThe, MonadExceptOf.throw] at heq
      | some stack =>
        obtain ⟨f₂, below₂⟩ := stack
        obtain ⟨h₂, hleaves₂⟩ := h₁.openFor hterm hopen
        have hr : r = Source.closeEnded f₂ below₂ := by
          simpa [bind, Except.bind, hclose, hopen, pure, Except.pure, eq_comm] using heq
        rw [hr, ← hleaves₁, ← hleaves₂]
        exact h₂.closeEnded

theorem Stacked.readTokens {tokens : List Token} {tree : Tree} (h : Stacked printWord f below)
    (heq : readTokens printWord f below tokens = .ok (some tree)) :
    Derives printWord (.rule .fileInput) tree ∧ ∃ rest, stackLeaves f below ++ tokens = tree.leaves ++ rest := by
  induction tokens generalizing f below with
  | nil => simp [Source.readTokens] at heq
  | cons tok tokens ih =>
    rw [Source.readTokens] at heq
    cases hread : Source.readToken printWord f below tok with
    | error e =>
      rw [hread] at heq
      simp [bind, Except.bind] at heq
    | ok r =>
      rw [hread] at heq
      rcases h.readToken hread with ⟨tree', rfl, hderives, hleaves⟩ | ⟨f', below', rfl, hstack, hleaves⟩
      · have : tree' = tree := by simpa [bind, Except.bind, pure, Except.pure] using heq
        subst this
        exact ⟨hderives, tokens, by rw [hleaves, List.append_assoc]; rfl⟩
      · obtain ⟨hderives, rest, hrest⟩ := ih hstack heq
        refine ⟨hderives, rest, ?_⟩
        rw [← hrest, hleaves, List.append_assoc]
        rfl

/-- The tree that the builder returns is one of the grammar, and its leaves are the tokens read. -/
theorem buildTree_sound {tokens : List Token} {tree : Tree} (heq : buildTree printWord tokens = .ok (some tree)) :
    Derives printWord (.rule .fileInput) tree ∧ ∃ rest, tokens = tree.leaves ++ rest := by
  have hstart : Stacked printWord (.start .fileInput) [] := ⟨Frame.start_reads printWord .fileInput, by rw [Around]; rfl⟩
  exact hstart.readTokens heq

end TypeComments.Source
