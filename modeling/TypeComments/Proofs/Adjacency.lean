import TypeComments.Proofs.Derivations
import TypeComments.Proofs.ScanRun

/-!
# Neighbouring tokens

Which parts can stand side by side in a row is read off the right sides of the rules (`Rx.pairs`). A law of
`Neighbours` says which tokens come right after which; if all rules keep it (`Neighbours.Sound`), then so do the
leaves of each tree (`Derives.tidy`). There are two such laws: a token that closes a block comes after the end of
a line or of another block (`Derives.rests`), and one that opens a block comes after the end of a line
(`Derives.opens`).
-/

namespace TypeComments.Source

/-! ### Rows -/

namespace Rx
variable {x : Rx} {ps : List Part}

/-- The parts that may come last. -/
def lasts : Rx → List Part
  | .empty => []
  | .part p => [p]
  | .seq a b => b.lasts ++ if b.nullable then a.lasts else []
  | .alt a b => a.lasts ++ b.lasts
  | .many a => a.lasts

/-- The parts that may stand side by side. -/
def pairs : Rx → List (Part × Part)
  | .empty | .part _ => []
  | .seq a b => a.pairs ++ b.pairs ++ a.lasts.flatMap fun p => b.firsts.map (p, ·)
  | .alt a b => a.pairs ++ b.pairs
  | .many a => a.pairs ++ a.lasts.flatMap fun p => a.firsts.map (p, ·)

theorem Matches.nullable (h : x.Matches []) : x.nullable = true := by
  generalize hps : [] = ps at h
  induction h with
  | empty => rfl
  | part p => simp at hps
  | seq _ _ iha ihb =>
    rw [eq_comm, List.append_eq_nil_iff] at hps
    simp [Rx.nullable, iha hps.1.symm, ihb hps.2.symm]
  | left _ ih => simp [Rx.nullable, ih hps]
  | right _ ih => simp [Rx.nullable, ih hps]
  | done => rfl
  | more _ _ _ _ => rfl

theorem Matches.head (h : x.Matches ps) : ∀ p ∈ ps.head?, p ∈ x.firsts := by
  induction h with
  | empty => simp
  | part p => simp [firsts]
  | @seq a b ps qs ha hb iha ihb =>
    intro p hp
    rw [firsts, List.mem_append]
    cases ps with
    | nil => exact .inr (by simpa [ha.nullable] using ihb p hp)
    | cons q ps => exact .inl (iha p hp)
  | left _ ih => exact fun p hp => List.mem_append_left _ (ih p hp)
  | right _ ih => exact fun p hp => List.mem_append_right _ (ih p hp)
  | done => simp
  | @more a ps qs _ _ iha ihm =>
    intro p hp
    cases ps with
    | nil => exact ihm p hp
    | cons q ps => exact iha p hp

theorem Matches.last (h : x.Matches ps) : ∀ p ∈ ps.getLast?, p ∈ x.lasts := by
  induction h with
  | empty => simp
  | part p => simp [lasts]
  | @seq a b ps qs ha hb iha ihb =>
    intro p hp
    rw [lasts, List.mem_append]
    cases qs with
    | nil => exact .inr (by simpa [hb.nullable] using iha p (by simpa using hp))
    | cons q qs => exact .inl (ihb p (by rwa [List.getLast?_append_of_ne_nil _ (by simp)] at hp))
  | left _ ih => exact fun p hp => List.mem_append_left _ (ih p hp)
  | right _ ih => exact fun p hp => List.mem_append_right _ (ih p hp)
  | done => simp
  | @more a ps qs _ _ iha ihm =>
    intro p hp
    cases qs with
    | nil => exact iha p (by simpa using hp)
    | cons q qs => exact ihm p (by rwa [List.getLast?_append_of_ne_nil _ (by simp)] at hp)

theorem Matches.chain (h : x.Matches ps) : ps.IsChain fun p q => (p, q) ∈ x.pairs := by
  induction h with
  | empty => exact .nil
  | part p => exact .singleton p
  | @seq a b ps qs ha hb iha ihb =>
    refine List.isChain_append.2 ⟨iha.imp fun _ _ h => ?_, ihb.imp fun _ _ h => ?_, fun p hp q hq => ?_⟩
    · simp [pairs, h]
    · simp [pairs, h]
    · simp [pairs, ha.last p hp, hb.head q hq]
  | left _ ih => exact ih.imp fun _ _ h => List.mem_append_left _ h
  | right _ ih => exact ih.imp fun _ _ h => List.mem_append_right _ h
  | done => exact .nil
  | @more a ps qs ha hm iha ihm =>
    refine List.isChain_append.2 ⟨iha.imp fun _ _ h => ?_, ihm, fun p hp q hq => ?_⟩
    · simp [pairs, h]
    · have hfirst : q ∈ a.firsts := hm.head q hq
      simp [pairs, ha.last p hp, hfirst]

end Rx

/-! ### Laws about neighbours -/

/-- A law: a token of a kind in `late` stands right after one of a kind in `early`. The parts that may open with
the former are among `opens`, and those among `ends` end with the latter. -/
structure Neighbours where
  late : Kind → Bool
  early : Kind → Bool
  opens : Part → Bool
  ends : Part → Bool

/-- Does the right side of a rule keep the law? -/
def Neighbours.keptBy (n : Neighbours) (r : Rule) : Bool :=
  !r.body.nullable && r.body.firsts.all (fun p => !n.opens p || n.opens (.rule r)) &&
    r.body.lasts.all (fun p => !n.ends (.rule r) || n.ends p) &&
    r.body.pairs.all fun (p, q) => !n.opens q || n.ends p

/-- All rules and all single tokens keep the law. -/
structure Neighbours.Sound (n : Neighbours) : Prop where
  rules : ∀ r, n.keptBy r = true
  opens : ∀ k, n.late k = true → k ≠ .name ∧ k ≠ .operator ∧ n.opens (.terminal (.kind k)) = true
  ends : ∀ u, n.ends (.terminal u) = true → ∃ k, u = .kind k ∧ n.early k = true

/-- Does a tree of this rule end where a statement ends? -/
def Rule.endsStatement : Rule → Bool
  | .statement | .simpleStatement | .compoundStatement | .suite | .functionDef | .asyncFunctionDef | .classDef
  | .decorated | .asyncStatement | .ifStatement | .whileStatement | .forStatement | .tryStatement
  | .withStatement => true
  | _ => false

@[inherit_doc Rule.endsStatement]
def Part.endsStatement : Part → Bool
  | .terminal u => u = .kind .newline || u = .kind .dedent
  | .rule r => r.endsStatement

/-- Blocks, and the text, end after statements. -/
def Neighbours.blockEnds : Neighbours where
  late k := k = .dedent || k = .endMarker
  early k := k = .newline || k = .dedent
  opens p := p = .terminal (.kind .dedent) || p = .terminal (.kind .endMarker) || p = .rule .fileInput
  ends := Part.endsStatement

/-- Blocks on lines of their own start after the end of a line. -/
def Neighbours.blockStarts : Neighbours where
  late k := k = .indent
  early k := k = .newline
  opens p := p = .terminal (.kind .indent)
  ends p := p = .terminal (.kind .newline)

theorem Neighbours.blockEnds_sound : blockEnds.Sound where
  rules r := by cases r <;> decide +kernel
  opens k := by cases k <;> decide
  ends u hu := by
    simp only [blockEnds, Part.endsStatement, Bool.or_eq_true, decide_eq_true_eq] at hu
    rcases hu with rfl | rfl
    · exact ⟨.newline, rfl, rfl⟩
    · exact ⟨.dedent, rfl, rfl⟩

theorem Neighbours.blockStarts_sound : blockStarts.Sound where
  rules r := by cases r <;> decide +kernel
  opens k := by cases k <;> decide
  ends u hu := by
    simp only [blockStarts, Part.terminal.injEq, decide_eq_true_eq] at hu
    exact ⟨.newline, hu, rfl⟩

/-! ### Leaves -/

variable {printWord : Bool} {p : Part} {ps qs : List Part} {t : Tree} {ts : List Tree}

/-- The class of a token is its kind or, for an operator or a keyword, its text. Stray text has none. -/
theorem Token.terminal_cases {t : Token} {u : Terminal} (h : t.terminal printWord = .ok u) :
    t.kind ≠ .stray ∧ (u = .kind t.kind ∨
      u = .word t.text ∧ (t.kind = .operator ∨ t.kind = .name ∧ keywords.contains t.text = true)) := by
  unfold Token.terminal at h
  split at h
  · cases h
  · rename_i hkind
    split at h
    · cases h
      exact ⟨by simp [hkind], .inr ⟨rfl, .inl hkind⟩⟩
    · cases h
  · rename_i hkind
    split at h
    · rename_i hword
      rw [Bool.and_eq_true] at hword
      cases h
      exact ⟨by simp [hkind], .inr ⟨rfl, .inr ⟨hkind, hword.1⟩⟩⟩
    · cases h
      exact ⟨by simp [hkind], .inl (by rw [hkind])⟩
  · rename_i hstray _ _
    cases h
    exact ⟨hstray, .inl rfl⟩

theorem Token.kind_of_terminal {t : Token} {k : Kind} (h : t.terminal printWord = .ok (.kind k)) : t.kind = k := by
  rcases (Token.terminal_cases h).2 with heq | ⟨heq, -⟩
  · injection heq with heq
    exact heq.symm
  · cases heq

theorem Token.kind_ne_stray {t : Token} {u : Terminal} (h : t.terminal printWord = .ok u) : t.kind ≠ .stray :=
  (Token.terminal_cases h).1

/-- The tokens of a part keep the law, and open and end as the part says. -/
structure Tidy (n : Neighbours) (p : Part) (ts : List Token) : Prop where
  chain : ts.IsChain fun t u => n.late u.kind = true → n.early t.kind = true
  first : ∃ t ∈ ts.head?, n.late t.kind = true → n.opens p = true
  last : n.ends p = true → ∀ t ∈ ts.getLast?, n.early t.kind = true

section
variable {n : Neighbours}

theorem tidy_leaf (hn : n.Sound) {t : Token} {u : Terminal} (h : t.terminal printWord = .ok u) :
    Tidy n (.terminal u) [t] where
  chain := .singleton t
  first := by
    refine ⟨t, rfl, fun hk => ?_⟩
    obtain ⟨hname, hoperator, hopens⟩ := hn.opens t.kind hk
    rcases (Token.terminal_cases h).2 with rfl | ⟨-, hkind | ⟨hkind, -⟩⟩
    · exact hopens
    · exact absurd hkind hoperator
    · exact absurd hkind hname
  last hends v hv := by
    obtain rfl : t = v := by simpa using hv
    obtain ⟨k, rfl, hk⟩ := hn.ends u hends
    rwa [Token.kind_of_terminal h]

theorem tidy_row (hchain : ps.IsChain fun p q => n.opens q = true → n.ends p = true)
    (h : List.Forall₂ (fun p t => Tidy n p (Tree.leaves t)) ps ts) :
    ((Tree.leavesAll ts).IsChain fun t u => n.late u.kind = true → n.early t.kind = true) ∧
      (∀ p ∈ ps.head?, ∃ t ∈ (Tree.leavesAll ts).head?, n.late t.kind = true → n.opens p = true) ∧
      ∀ p ∈ ps.getLast?, n.ends p = true → ∀ t ∈ (Tree.leavesAll ts).getLast?, n.early t.kind = true := by
  induction h with
  | nil => exact ⟨.nil, by simp, by simp⟩
  | @cons p t ps ts hp hs ih =>
    obtain ⟨first, hfirst, hopens⟩ := hp.first
    obtain ⟨ihchain, ihfirst, ihlast⟩ := ih hchain.tail
    have hne : t.leaves ≠ [] := by
      rintro heq
      simp [heq] at hfirst
    refine ⟨List.isChain_append.2 ⟨hp.chain, ihchain, fun v hv w hw hk => ?_⟩, fun q hq => ?_, ?_⟩
    · cases ps with
      | nil =>
        cases hs
        simp [Tree.leavesAll] at hw
      | cons q ps =>
        obtain ⟨first', hfirst', hopens'⟩ := ihfirst q rfl
        obtain rfl : first' = w := Option.mem_unique hfirst' hw
        exact hp.last ((List.isChain_cons_cons.1 hchain).1 (hopens' hk)) v hv
    · obtain rfl : p = q := by simpa using hq
      exact ⟨first, by rw [Tree.leavesAll, List.head?_append_of_ne_nil _ hne]; exact hfirst, hopens⟩
    · intro q hq hends v hv
      cases ps with
      | nil =>
        cases hs
        obtain rfl : p = q := by simpa using hq
        exact hp.last hends v (by simpa [Tree.leavesAll] using hv)
      | cons r ps =>
        obtain ⟨first', hfirst', -⟩ := ihfirst r rfl
        have hne' : Tree.leavesAll ts ≠ [] := by
          rintro heq
          simp [heq] at hfirst'
        refine ihlast q (by simpa using hq) hends v ?_
        rwa [Tree.leavesAll, List.getLast?_append_of_ne_nil _ hne'] at hv

theorem tidy_node (hn : n.Sound) {r : Rule} (hrow : r.body.Matches ps)
    (h : List.Forall₂ (fun p t => Tidy n p (Tree.leaves t)) ps ts) :
    Tidy n (.rule r) (Tree.ofChildren r ts).leaves := by
  have hsound := hn.rules r
  simp only [Neighbours.keptBy, Bool.and_eq_true, List.all_eq_true, Bool.or_eq_true, Bool.not_eq_true'] at hsound
  obtain ⟨⟨⟨hnull, hfirsts⟩, hlasts⟩, hpairs⟩ := hsound
  rw [Tree.leaves_ofChildren]
  obtain ⟨hchain, hfirst, hlast⟩ := tidy_row (hrow.chain.imp fun p q hpq hq =>
    (hpairs (p, q) hpq).resolve_left (by simp [hq])) h
  cases ps with
  | nil => simp [hrow.nullable] at hnull
  | cons p ps =>
    obtain ⟨first, hmem, hopens⟩ := hfirst p rfl
    refine ⟨hchain, ⟨first, hmem, fun hk => ?_⟩, fun hends => ?_⟩
    · exact (hfirsts p (hrow.head p rfl)).resolve_left (by simp [hopens hk])
    · obtain ⟨q, hq⟩ : ∃ q, q ∈ (p :: ps).getLast? := ⟨_, List.getLast?_eq_some_getLast (by simp)⟩
      exact hlast q hq ((hlasts q (hrow.last q hq)).resolve_left (by simp [hends]))

mutual

theorem Derives.tidy (hn : n.Sound) : {p : Part} → {t : Tree} → Derives printWord p t → Tidy n p t.leaves
  | _, _, .leaf h => by
    rw [Tree.leaves]
    exact tidy_leaf hn h
  | _, _, .node hrow h => tidy_node hn hrow (h.tidy hn)

theorem DerivesAll.tidy (hn : n.Sound) : {ps : List Part} → {ts : List Tree} → DerivesAll printWord ps ts →
    List.Forall₂ (fun p t => Tidy n p (Tree.leaves t)) ps ts
  | _, _, .nil => .nil
  | _, _, .cons h hs => .cons (h.tidy hn) (hs.tidy hn)

end

end

/-- Each block of a tree ends after the end of a statement. -/
theorem Derives.rests (h : Derives printWord p t) : Rests t.leaves := by
  refine (h.tidy Neighbours.blockEnds_sound).chain.imp fun v w hvw => ?_
  simpa [Neighbours.blockEnds] using hvw

/-- Each block of a tree opens after the end of a line. -/
theorem Derives.opens (h : Derives printWord p t) :
    t.leaves.IsChain fun v w => w.kind = .indent → v.kind = .newline := by
  refine (h.tidy Neighbours.blockStarts_sound).chain.imp fun v w hvw => ?_
  simpa [Neighbours.blockStarts] using hvw

mutual

theorem Derives.not_stray : {p : Part} → {t : Tree} → Derives printWord p t → ∀ u ∈ t.leaves, u.kind ≠ .stray
  | _, _, .leaf h => by
    intro u hu
    rw [Tree.leaves, List.mem_singleton] at hu
    exact hu ▸ Token.kind_ne_stray h
  | _, _, .node hrow h => by
    rw [Tree.leaves_ofChildren]
    exact h.not_stray

theorem DerivesAll.not_stray : {ps : List Part} → {ts : List Tree} → DerivesAll printWord ps ts →
    ∀ u ∈ Tree.leavesAll ts, u.kind ≠ .stray
  | _, _, .nil => by simp [Tree.leavesAll]
  | _, _, .cons h hs => by
    intro u hu
    rw [Tree.leavesAll, List.mem_append] at hu
    exact hu.elim (h.not_stray u) (hs.not_stray u)

end

theorem DerivesAll.append_inv (h : DerivesAll printWord (ps ++ qs) ts) :
    ∃ us vs, ts = us ++ vs ∧ DerivesAll printWord ps us ∧ DerivesAll printWord qs vs := by
  induction ps generalizing ts with
  | nil => exact ⟨[], ts, rfl, .nil, h⟩
  | cons p ps ih =>
    cases h with
    | cons hp hs =>
      obtain ⟨us, vs, rfl, hus, hvs⟩ := ih hs
      exact ⟨_ :: us, vs, rfl, .cons hp hus, hvs⟩

/-- The leaves of a whole text end with the token for its end. -/
theorem Derives.endMarker (h : Derives printWord (.rule .fileInput) t) :
    ∃ front marker, t.leaves = front ++ [marker] ∧ marker.kind = .endMarker := by
  cases h with
  | @node r ps ts hrow hts =>
    cases hrow with
    | seq _ hmarker =>
      cases hmarker
      obtain ⟨us, vs, rfl, -, hvs⟩ := hts.append_inv
      cases hvs with
      | cons hv hnil =>
        cases hnil
        cases hv with
        | leaf hterm =>
          refine ⟨Tree.leavesAll us, _, ?_, Token.kind_of_terminal hterm⟩
          rw [Tree.leaves_ofChildren, Tree.leavesAll_append]
          simp [Tree.leavesAll, Tree.leaves]

end TypeComments.Source
