import TypeComments.Proofs.ParameterLists

/-!
# Where functions stand, and where their bodies do

Only some rules can hold a function (`Rule.holdsFunctions`), and a statement on one line is none of them. So a class
with its body on the line of its header holds no function (`read_enclosing`). The body of a function stands on lines of
its own just if its first token ends the line of the header (`Derives.block?_isSome`), and what stands between the
parentheses is no list of names just if it is one annotated parameter, one tuple or a bare star
(`Function.Stands.parameterNames?_eq_none`).
-/

namespace TypeComments.Source

/-! ### Parts of a row -/

namespace Rx
variable {x : Rx} {ps : List Part}

def parts : Rx → List Part
  | .empty => []
  | .part p => [p]
  | .seq a b | .alt a b => a.parts ++ b.parts
  | .many a => a.parts

theorem Matches.mem_parts (h : x.Matches ps) : ∀ p ∈ ps, p ∈ x.parts := by
  induction h with
  | empty | done => simp
  | part p => simp [parts]
  | seq _ _ iha ihb =>
    intro p hp
    rw [parts, List.mem_append]
    exact (List.mem_append.1 hp).imp (iha p) (ihb p)
  | left _ ih => exact fun p hp => List.mem_append_left _ (ih p hp)
  | right _ ih => exact fun p hp => List.mem_append_right _ (ih p hp)
  | more _ _ iha ihm => exact fun p hp => (List.mem_append.1 hp).elim (iha p) (ihm p)

end Rx

/-! ### Parts that hold functions -/

/-- May a function stand in a tree of this rule? -/
def Rule.holdsFunctions : Rule → Bool
  | .fileInput | .statement | .compoundStatement | .suite | .functionDef | .asyncFunctionDef | .classDef | .decorated
  | .asyncStatement | .ifStatement | .whileStatement | .forStatement | .tryStatement | .withStatement => true
  | _ => false

@[inherit_doc Rule.holdsFunctions]
def Part.holdsFunctions : Part → Bool
  | .terminal _ => false
  | .rule r => r.holdsFunctions

theorem holdsFunctions_parts (r : Rule) (h : r.holdsFunctions = false) :
    ∀ p ∈ r.body.parts, p.holdsFunctions = false := by
  have hclosed : (r.holdsFunctions || r.body.parts.all fun p => !p.holdsFunctions) = true := by
    cases r <;> decide +kernel
  simpa [h] using hclosed

variable {printWord : Bool} {p : Part} {ps : List Part} {t : Tree} {ts : List Tree}

mutual

theorem Derives.functions_eq_nil (enclosing : Enclosing) (depth : Nat) : {p : Part} → {t : Tree} → Derives printWord p t →
    p.holdsFunctions = false → t.functions enclosing depth = []
  | _, _, .leaf _, _ => rfl
  | _, _, .node (r := r) hrow h, hr => by
    have hall (enclosing : Enclosing) (depth : Nat) := h.functionsAll_eq_nil enclosing depth
      fun p hp => holdsFunctions_parts r hr p (hrow.mem_parts p hp)
    unfold Tree.ofChildren
    split
    · simpa [functionsAll] using hall enclosing depth
    · have hrule : r ≠ .functionDef := by
        rintro rfl
        cases hr
      simp [Tree.functions, hrule, hall]

theorem DerivesAll.functionsAll_eq_nil (enclosing : Enclosing) (depth : Nat) : {ps : List Part} → {ts : List Tree} →
    DerivesAll printWord ps ts → (∀ p ∈ ps, p.holdsFunctions = false) → functionsAll enclosing depth ts = []
  | _, _, .nil, _ => rfl
  | _, _, .cons h hs, hps => by
    rw [functionsAll, h.functions_eq_nil enclosing depth (hps _ (.head _)),
      hs.functionsAll_eq_nil enclosing depth fun p hp => hps p (.tail _ hp)]
    rfl

end

/-! ### Classes around functions -/

/-- A body is a block on lines of its own or a statement on the line of the header. -/
theorem Derives.suite (h : Derives printWord (.rule .suite) t) :
    (∃ newline indent first rest, t = .node .suite (.leaf newline :: .leaf indent :: first :: rest) ∧
      newline.kind = .newline ∧ indent.kind = .indent) ∨ Derives printWord (.rule .simpleStatement) t := by
  cases h with
  | @node _ ps ts hrow hts =>
    cases hrow with
    | left hline =>
      cases hline
      cases hts with
      | cons hline hnil =>
        cases hnil
        exact .inr hline
    | right hblock =>
      cases hblock with
      | seq hnewline hblock =>
        cases hnewline
        cases hblock with
        | seq hindent hblock =>
          cases hindent
          cases hblock with
          | seq hfirst hrest =>
            cases hfirst
            cases hts with
            | cons hnewline hts =>
              cases hts with
              | cons hindent hts =>
                cases hts with
                | cons hfirst hts =>
                  cases hnewline with
                  | leaf hnewline =>
                    cases hindent with
                    | leaf hindent =>
                      exact .inl ⟨_, _, _, _, rfl, Token.kind_of_terminal hnewline, Token.kind_of_terminal hindent⟩

/-- A class without a block of its own holds no function. -/
theorem functionsAll_of_oneLine (hps : ∀ p ∈ ps, p = .rule .suite ∨ p.holdsFunctions = false)
    (h : DerivesAll printWord ps ts) (hts : ∀ t ∈ ts, t.isNode .suite = false) (enclosing : Enclosing) (depth : Nat) :
    functionsAll enclosing depth ts = [] := by
  induction ps generalizing ts with
  | nil =>
    cases h
    rfl
  | cons p ps ih =>
    cases h with
    | @cons _ t _ ts hp h =>
      have ht : t.functions enclosing depth = [] := by
        rcases hps p (.head _) with rfl | hflat
        · rcases hp.suite with ⟨newline, indent, first, rest, rfl, -⟩ | hline
          · cases hts _ (.head _)
          · exact hline.functions_eq_nil enclosing depth rfl
        · exact hp.functions_eq_nil enclosing depth hflat
      rw [functionsAll, ht, ih (fun q hq => hps q (.tail _ hq)) h fun u hu => hts u (.tail _ hu)]
      rfl

theorem classDef_parts : ∀ p ∈ Rule.classDef.body.parts, p = .rule .suite ∨ p.holdsFunctions = false := by
  decide +kernel

theorem Function.enclosing_of_ofParts? {enclosing : Enclosing} {depth : Nat} {f : Function}
    (h : Function.ofParts? enclosing depth ts = some f) : f.enclosing = enclosing := by
  unfold Function.ofParts? at h
  split at h
  · obtain rfl := Option.some.inj h
    rfl
  · cases h

/-- A class that a function stands in has a block of its own. -/
theorem Enclosing.ofParts_ne (hrow : Rule.classDef.body.Matches ps) (h : DerivesAll printWord ps ts) {enclosing : Enclosing}
    {depth : Nat} {f : Function} (hf : f ∈ functionsAll enclosing depth ts) : Enclosing.ofParts ts ≠ .oneLine := by
  unfold Enclosing.ofParts
  split
  · simp
  · rename_i hnone
    have hempty := functionsAll_of_oneLine (fun p hp => classDef_parts p (hrow.mem_parts p hp)) h
      (fun t ht => Bool.eq_false_iff.2 (List.find?_eq_none.1 hnone t ht)) enclosing depth
    rw [hempty] at hf
    cases hf

mutual

theorem Derives.enclosing_ne : {p : Part} → {t : Tree} → Derives printWord p t → ∀ enclosing depth,
    enclosing ≠ .oneLine → ∀ f ∈ t.functions enclosing depth, f.enclosing ≠ .oneLine
  | _, _, .leaf _, _, _, _, _, hf => by cases hf
  | _, _, .node (r := r) hrow h, enclosing, depth, henc, f, hf => by
    have hall := h.enclosing_ne
    unfold Tree.ofChildren at hf
    split at hf
    · exact hall enclosing depth henc f (by simpa [functionsAll] using hf)
    · rw [Tree.functions, List.mem_append] at hf
      rcases hf with hf | hf
      · split at hf
        · have hown := Function.enclosing_of_ofParts? (Option.mem_toList.1 hf)
          rwa [hown]
        · cases hf
      · split at hf
        · rename_i hr
          subst hr
          exact hall _ _ (Enclosing.ofParts_ne hrow h hf) f hf
        · exact hall _ _ henc f hf

theorem DerivesAll.enclosing_ne : {ps : List Part} → {ts : List Tree} → DerivesAll printWord ps ts →
    ∀ enclosing depth, enclosing ≠ .oneLine → ∀ f ∈ functionsAll enclosing depth ts, f.enclosing ≠ .oneLine
  | _, _, .nil, _, _, _, _, hf => by cases hf
  | _, _, .cons h hs, enclosing, depth, henc, f, hf =>
    (List.mem_append.1 hf).elim (h.enclosing_ne enclosing depth henc f) (hs.enclosing_ne enclosing depth henc f)

end

theorem read_enclosing {source : List Char} {tree : Tree} {f : Function} (h : read source = .ok tree)
    (hf : f ∈ tree.allFunctions) : f.enclosing ≠ .oneLine := by
  obtain ⟨-, -, printWord, hderives⟩ := read_leaves h
  exact hderives.enclosing_ne .nothing 0 (by simp) f hf

/-! ### Bodies -/

/-- May a tree of this part start with the end of a line? -/
def Part.opensLine : Part → Bool
  | .terminal u => u = .kind .newline
  | .rule r => r = .suite || r = .fileInput

theorem opensLine_first (r : Rule) (hp : p ∈ r.body.firsts) (h : p.opensLine = true) :
    (Part.rule r).opensLine = true := by
  have hclosed : ((Part.rule r).opensLine || r.body.firsts.all fun p => !p.opensLine) = true := by
    cases r <;> decide +kernel
  rcases Bool.or_eq_true_iff.1 hclosed with hr | hall
  · exact hr
  · have hnot := List.all_eq_true.1 hall p hp
    rw [h] at hnot
    cases hnot

theorem Derives.leaves_ne_nil (h : Derives printWord p t) : t.leaves ≠ [] := by
  obtain ⟨first, hfirst, -⟩ := (h.tidy Neighbours.blockEnds_sound).first
  rintro heq
  simp [heq] at hfirst

theorem Derives.opensLine : {p : Part} → {t : Tree} → Derives printWord p t →
    ∀ tok ∈ t.leaves.head?, tok.kind = .newline → p.opensLine = true
  | _, _, .leaf (u := u) h, tok, htok, hkind => by
    cases htok
    cases u with
    | kind k => simp [Part.opensLine, ← hkind, Token.kind_of_terminal h]
    | word text =>
      rcases (Token.terminal_cases h).2 with heq | ⟨-, hother | ⟨hother, -⟩⟩
      · cases heq
      · rw [hkind] at hother
        cases hother
      · rw [hkind] at hother
        cases hother
  | _, _, .node (r := r) hrow .nil, tok, htok, _ => by cases htok
  | _, _, .node (r := r) hrow (.cons h hs), tok, htok, hkind => by
    rw [Tree.leaves_ofChildren, Tree.leavesAll, List.head?_append_of_ne_nil _ h.leaves_ne_nil] at htok
    exact opensLine_first r (hrow.head _ rfl) (h.opensLine tok htok hkind)

/-- A statement on one line: what comes after its first part is a semicolon or the end of the line. -/
theorem Derives.simpleStatement (h : Derives printWord (.rule .simpleStatement) t) :
    t.block? = none ∧ ∀ tok ∈ t.leaves.head?, tok.kind ≠ .newline := by
  have hfirsts : ∀ p ∈ Rule.simpleStatement.body.firsts, p = .rule .smallStatement := by decide +kernel
  have hlasts : ∀ p ∈ Rule.simpleStatement.body.lasts, p ≠ .rule .smallStatement := by decide +kernel
  have hpairs : ∀ pq ∈ Rule.simpleStatement.body.pairs, pq.1 = .rule .smallStatement →
      pq.2 = .word ";" ∨ pq.2 = .terminal (.kind .newline) := by decide +kernel
  refine ⟨?_, fun tok htok hkind => absurd (h.opensLine tok htok hkind) (by decide)⟩
  cases h with
  | @node _ ps ts hrow hts =>
    cases hts with
    | nil => rfl
    | @cons p first ps ts hp hts =>
      obtain rfl := hfirsts p (hrow.head p rfl)
      cases hts with
      | nil => exact absurd rfl (hlasts _ (hrow.last _ rfl))
      | @cons q second ps ts hq hts =>
        have hsecond : ∃ tok, second = .leaf tok ∧ tok.kind ≠ .indent := by
          rcases hpairs _ (List.isChain_cons_cons.1 hrow.chain).1 rfl with hq' | hq'
          · obtain rfl : q = .word ";" := hq'
            obtain ⟨tok, rfl, htok⟩ := hq.operator (by decide)
            exact ⟨tok, rfl, by simp [htok.1]⟩
          · obtain rfl : q = .terminal (.kind .newline) := hq'
            cases hq with
            | leaf hterm => exact ⟨_, rfl, by simp [Token.kind_of_terminal hterm]⟩
        obtain ⟨tok, rfl, hkind⟩ := hsecond
        cases ts with
        | nil => rfl
        | cons third ts => exact if_neg hkind

theorem Derives.block?_isSome (h : Derives printWord (.rule .suite) t) :
    t.block?.isSome = t.leaves.head?.any (·.kind = .newline) := by
  rcases h.suite with ⟨newline, indent, first, rest, rfl, hnewline, hindent⟩ | hline
  · simp [Tree.block?, Tree.children, hindent, Tree.leaves, Tree.leavesAll, hnewline]
  · obtain ⟨hblock, hhead⟩ := hline.simpleStatement
    rw [hblock, eq_comm, Option.isSome_none, Option.any_eq_false]
    simpa using hhead

theorem DerivesAll.getLast? (h : DerivesAll printWord ps ts) (ht : ts.getLast? = some t) :
    ∃ p, ps.getLast? = some p ∧ Derives printWord p t := by
  obtain ⟨front, rfl⟩ := List.getLast?_eq_some_iff.1 ht
  induction front generalizing ps with
  | nil =>
    cases h with
    | @cons p _ _ _ hp hs =>
      cases hs
      exact ⟨p, rfl, hp⟩
  | cons u front ih =>
    cases h with
    | @cons p _ qs _ hp hs =>
      obtain ⟨q, hq, hder⟩ := ih hs (by simp)
      refine ⟨q, ?_, hder⟩
      rw [List.getLast?_cons, hq]
      rfl

theorem Function.Stands.body {tokens : List Token} {f : Function} (h : f.Stands printWord tokens) :
    Derives printWord (.rule .suite) f.body := by
  have hlasts : ∀ p ∈ Rule.functionDef.body.lasts, p = .rule .suite := by decide +kernel
  obtain ⟨ps, ts, enclosing, depth, hrow, hts, hf, -⟩ := h
  unfold Function.ofParts? at hf
  split at hf
  · rename_i hbody
    obtain rfl := Option.some.inj hf
    obtain ⟨p, hp, hder⟩ := hts.getLast? hbody
    exact hlasts p (hrow.last p hp) ▸ hder
  · cases hf

/-- Does the body of a function stand below the line of its header? -/
def Function.standsBelow (f : Function) : Bool :=
  f.body.leaves.head?.any (·.kind = .newline)

/-- A function whose body stands below its header has a token that opens the body, and no other function has. -/
theorem Function.Stands.block?_isSome {tokens : List Token} {f : Function} (h : f.Stands printWord tokens) :
    f.body.block?.isSome = f.standsBelow :=
  h.body.block?_isSome

/-! ### Parameters that are no names -/

theorem Tree.exists_of_isNode {r : Rule} (h : t.isNode r = true) : ∃ parts, t = .node r parts := by
  cases t with
  | leaf tok => cases h
  | node r' parts => exact ⟨parts, by rw [of_decide_eq_true h]⟩

/-- Is there a single parameter that is no name: one with an annotation, a tuple or a bare star? -/
def Function.hasLoneParameter (f : Function) : Bool :=
  f.parameters.any fun t => t.isNode .typedName || t.isNode .parameter || t.isLeaf .operator && t.isWord "*"

theorem Function.Stands.parameterNames?_eq_none {tokens : List Token} {f : Function} (h : f.Stands printWord tokens) :
    parameterNames? f.parameters = none ↔ f.hasLoneParameter = true := by
  have honly : ∀ p ∈ Rule.parameterList.body.firsts, p ∈ Rule.parameterList.body.lasts →
      p = .rule .parameter ∨ p = .word "*" := by decide +kernel
  obtain ⟨-, -, parameters, hf, hparameters, -⟩ := h.header
  rw [Function.hasLoneParameter, hf]
  rcases hparameters.insideParentheses with hnone | ⟨inside, hinside, hlist, -⟩
  · simp [hnone, parameterNames?]
  rw [hinside]
  rcases hlist.node_or_only with hnode | ⟨p, hp, hp', hder⟩
  · obtain ⟨parts, rfl⟩ := Tree.exists_of_isNode hnode
    simp [parameterNames?, Tree.isNode, Tree.isLeaf]
  rcases honly p hp hp' with rfl | rfl
  · rcases hder.parameter with hnode | hnode | ⟨tok, rfl, hkind⟩
    · obtain ⟨parts, rfl⟩ := Tree.exists_of_isNode hnode
      simp [parameterNames?, Tree.isNode]
    · obtain ⟨parts, rfl⟩ := Tree.exists_of_isNode hnode
      simp [parameterNames?, Tree.isNode]
    · simp [parameterNames?, Tree.isNode, Tree.isLeaf, hkind]
  · obtain ⟨tok, rfl, hkind, htext⟩ := hder.operator (by decide)
    simp [parameterNames?, Tree.isLeaf, Tree.isWord, hkind, htext]

end TypeComments.Source
