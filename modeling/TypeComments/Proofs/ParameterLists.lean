import TypeComments.Proofs.FunctionTokens
import TypeComments.Proofs.TokenTexts

/-!
# Parameter lists

A parameter is a name, with stars in front of it or none and perhaps a default after it, or a mark: a bare star
or a slash. `Spells` says how a list of them is written, with commas between them and perhaps after the last.
The conversion reads the names with their stars off such a list (`Spells.namesInList`), and by the grammar every
parameter list without annotations and tuples is one (`Function.Stands.exists_spells`).
-/

namespace TypeComments.Source

inductive Parameter where
  | named (stars : Stars) (name : List Char) (default : Option Tree)
  /-- A star or a slash by itself. -/
  | mark

def Parameter.named? : Parameter → Option (List Char × Stars)
  | .named stars name _ => some (name, stars)
  | .mark => none

def Token.IsOperator (text : String) (t : Token) : Prop :=
  t.kind = .operator ∧ t.text = text.toList

inductive Stars.Spelled : Stars → List Tree → Prop
  | none : Spelled .none []
  | one {t : Token} (h : t.IsOperator "*") : Spelled .one [.leaf t]
  | two {t : Token} (h : t.IsOperator "**") : Spelled .two [.leaf t]

/-- How the default after a name is written. A default is an expression, so it is no comma. -/
inductive DefaultSpelled : Option Tree → List Tree → Prop
  | none : DefaultSpelled none []
  | some {t : Token} {d : Tree} (h : t.IsOperator "=") (hd : d.isWord "," = false) :
    DefaultSpelled (some d) [.leaf t, d]

inductive Parameter.Spelled : Parameter → List Tree → Prop
  | named {stars : Stars} {default : Option Tree} {ss ds : List Tree} {t : Token} (hs : stars.Spelled ss)
    (ht : t.kind = .name) (hd : DefaultSpelled default ds) : Spelled (.named stars t.text default) (ss ++ .leaf t :: ds)
  | star {t : Token} (h : t.IsOperator "*") : Spelled .mark [.leaf t]
  | slash {t : Token} (h : t.IsOperator "/") : Spelled .mark [.leaf t]

/-- How a list of parameters is written. -/
inductive Spells : List Tree → List Parameter → Prop
  | nil : Spells [] []
  | last {item : List Tree} {p : Parameter} (h : p.Spelled item) : Spells item [p]
  | cons {item rest : List Tree} {p : Parameter} {ps : List Parameter} {comma : Token} (h : p.Spelled item)
    (hcomma : comma.IsOperator ",") (hrest : Spells rest ps) : Spells (item ++ .leaf comma :: rest) (p :: ps)

/-! ### Reading the names -/

section
variable {t : Token} {wanted : Bool} {stars : Stars} {rest : List Tree}

theorem Token.IsOperator.isLeaf {text : String} (h : t.IsOperator text) : (Tree.leaf t).isLeaf .name = false := by
  simp [Tree.isLeaf, h.1]

theorem Token.IsOperator.isWord {text : String} (h : t.IsOperator text) (other : String) :
    (Tree.leaf t).isWord other = (text.toList == other.toList) := by
  rw [Tree.isWord, h.2]

theorem namesInList_comma (h : t.IsOperator ",") :
    namesInList wanted stars (.leaf t :: rest) = namesInList true .none rest := by
  rw [namesInList, h.isLeaf, h.isWord, h.isWord, h.isWord, Bool.and_false]
  cases wanted <;> rfl

/-- After a name nothing is wanted until the next comma. -/
theorem namesInList_skip {part : Tree} (h : part.isWord "," = false) :
    namesInList false stars (part :: rest) = namesInList false stars rest := by
  cases part with
  | leaf t =>
    rw [namesInList, h]
    rfl
  | node rule children => rfl

theorem Stars.Spelled.namesInList {ss : List Tree} (h : stars.Spelled ss) :
    Source.namesInList true .none (ss ++ rest) = Source.namesInList true stars rest := by
  cases h with
  | none => rfl
  | one h | two h =>
    rw [List.singleton_append, Source.namesInList, h.isLeaf, h.isWord, h.isWord]
    rfl

theorem DefaultSpelled.namesInList {default : Option Tree} {ds : List Tree} (h : DefaultSpelled default ds) :
    Source.namesInList false stars (ds ++ rest) = Source.namesInList false stars rest := by
  cases h with
  | none => rfl
  | some h hd => rw [List.cons_append, namesInList_skip (h.isWord ","), List.singleton_append, namesInList_skip hd]

/-- A parameter gives its name, and leaves what follows as it is after a comma or at the end. -/
theorem Parameter.Spelled.namesInList {p : Parameter} {item : List Tree} (h : p.Spelled item)
    (hrest : rest = [] ∨ ∃ comma tail, rest = .leaf comma :: tail ∧ comma.IsOperator ",") :
    Source.namesInList true .none (item ++ rest) = p.named?.toList ++ Source.namesInList true .none rest := by
  have hnext (wanted : Bool) (stars : Stars) : Source.namesInList wanted stars rest = Source.namesInList true .none rest := by
    rcases hrest with rfl | ⟨comma, tail, rfl, hcomma⟩
    · rfl
    · rw [namesInList_comma hcomma, namesInList_comma hcomma]
  cases h with
  | @named stars default ss ds t hs ht hd =>
    have hname : (Tree.leaf t).isLeaf .name = true := by simp [Tree.isLeaf, ht]
    rw [List.append_assoc, hs.namesInList, List.cons_append, Source.namesInList, hname, hd.namesInList, hnext]
    rfl
  | star h =>
    rw [List.singleton_append, Source.namesInList, h.isLeaf, h.isWord, ← hnext true .one]
    rfl
  | slash h =>
    rw [List.singleton_append, Source.namesInList, h.isLeaf, h.isWord, h.isWord, h.isWord]
    rfl

/-- The names of a parameter list are those of its parameters, in their order. -/
theorem Spells.namesInList {ts : List Tree} {ps : List Parameter} (h : Spells ts ps) :
    Source.namesInList true .none ts = ps.filterMap Parameter.named? := by
  induction h with
  | nil => rfl
  | @last item p h =>
    have hitem := h.namesInList (.inl rfl)
    rw [List.append_nil] at hitem
    rw [hitem]
    cases p <;> rfl
  | @cons item rest p ps comma h hcomma _ ih =>
    rw [h.namesInList (.inr ⟨comma, rest, rfl, hcomma⟩), namesInList_comma hcomma, ih]
    cases p <;> rfl

end

/-! ### The grammar of parameters -/

variable {printWord : Bool} {t : Tree}

def Part.word (text : String) : Part :=
  .terminal (.word text.toList)

theorem Derives.operator {text : String} (h : Derives printWord (.word text) t)
    (hkeyword : keywords.contains text.toList = false) : ∃ tok, t = .leaf tok ∧ tok.IsOperator text := by
  cases h with
  | @leaf tok u h =>
    refine ⟨tok, rfl, ?_⟩
    rcases (Token.terminal_cases h).2 with heq | ⟨heq, hkind⟩
    · cases heq
    · injection heq with htext
      rcases hkind with hkind | ⟨-, hword⟩
      · exact ⟨hkind, htext.symm⟩
      · rw [← htext, hkeyword] at hword
        cases hword

/-- A tree that is one token is what its part opens with, or what a rule below it opens with. -/
theorem Derives.leaf_first : {p : Part} → {t : Tree} → Derives printWord p t → ∀ tok, t = .leaf tok →
    ∃ u, tok.terminal printWord = .ok u ∧ (p = .terminal u ∨ ∃ r : Rule, .terminal u ∈ r.body.firsts)
  | _, _, .leaf h, tok, heq => by
    cases heq
    exact ⟨_, h, .inl rfl⟩
  | _, _, .node _ .nil, _, heq => by cases heq
  | _, _, .node _ (.cons _ (.cons _ _)), _, heq => by cases heq
  | _, _, .node (r := r) hrow (.cons h .nil), tok, heq => by
    obtain ⟨u, hu, rfl | hr⟩ := h.leaf_first tok heq
    · exact ⟨u, hu, .inr ⟨r, hrow.head _ (by simp)⟩⟩
    · exact ⟨u, hu, .inr hr⟩

theorem comma_not_first (r : Rule) : Part.word "," ∉ r.body.firsts := by
  cases r <;> decide +kernel

theorem Derives.not_comma {r : Rule} (h : Derives printWord (.rule r) t) (hapt : ∀ tok ∈ t.leaves, tok.Apt) :
    t.isWord "," = false := by
  cases t with
  | node rule children => rfl
  | leaf tok =>
    refine Bool.eq_false_iff.2 fun hcomma => ?_
    have htext : tok.text = [','] := beq_iff_eq.1 hcomma
    obtain ⟨u, hu, hp | ⟨r', hr'⟩⟩ := h.leaf_first tok rfl
    · cases hp
    · rcases (hapt tok (.head _)).comma (by rw [htext]; rfl) with hkind | hkind
      · have hword : tok.terminal printWord = .ok (.word [',']) := by
          simp [Token.terminal, hkind, htext, operatorCode?, operators]
        rw [hword] at hu
        cases hu
        exact comma_not_first r' hr'
      · exact absurd hkind (Token.kind_ne_stray hu)

/-- The tree of a rule is a node of the rule, or the tree of its only part. -/
theorem Derives.node_or_only {r : Rule} (h : Derives printWord (.rule r) t) :
    t.isNode r = true ∨ ∃ p ∈ r.body.firsts, p ∈ r.body.lasts ∧ Derives printWord p t := by
  cases h with
  | @node _ ps ts hrow h =>
    cases h with
    | nil => exact .inl (by simp [Tree.ofChildren, Tree.isNode])
    | @cons p t' ps ts h hs =>
      cases hs with
      | nil => exact .inr ⟨p, hrow.head p (by simp), hrow.last p (by simp), h⟩
      | cons _ _ => exact .inl (by simp [Tree.ofChildren, Tree.isNode])

/-- Is the tree neither a parameter with an annotation nor a tuple of parameters? -/
def Tree.IsPlain (t : Tree) : Prop :=
  t.isNode .typedName = false ∧ t.isNode .parameter = false

instance (t : Tree) : Decidable t.IsPlain :=
  inferInstanceAs (Decidable (_ ∧ _))

theorem Derives.typedName (h : Derives printWord (.rule .typedName) t) :
    t.isNode .typedName = true ∨ ∃ tok, t = .leaf tok ∧ tok.kind = .name := by
  refine h.node_or_only.imp_right fun ⟨p, hp, _, hname⟩ => ?_
  obtain rfl : p = .terminal (.kind .name) := List.mem_singleton.1 hp
  cases hname with
  | leaf hterm => exact ⟨_, rfl, Token.kind_of_terminal hterm⟩

theorem Derives.parameter (h : Derives printWord (.rule .parameter) t) :
    t.isNode .parameter = true ∨ t.isNode .typedName = true ∨ ∃ tok, t = .leaf tok ∧ tok.kind = .name := by
  have honly : ∀ p ∈ Rule.parameter.body.firsts, p ∈ Rule.parameter.body.lasts → p = .rule .typedName := by
    decide +kernel
  refine h.node_or_only.imp_right fun ⟨p, hp, hp', h⟩ => ?_
  obtain rfl := honly p hp hp'
  exact h.typedName

theorem Derives.name_of_isPlain {x : Part} (hx : x = .rule .parameter ∨ x = .rule .typedName) (h : Derives printWord x t)
    (hplain : t.IsPlain) : ∃ tok, t = .leaf tok ∧ tok.kind = .name := by
  rcases hx with rfl | rfl
  · rcases h.parameter with hnode | hnode | hname
    · rw [hplain.2] at hnode
      cases hnode
    · rw [hplain.1] at hnode
      cases hnode
    · exact hname
  · refine h.typedName.resolve_left ?_
    rw [hplain.1]
    exact Bool.false_ne_true

/-! ### Rows of parameters -/

/-- The parts that a parameter may start with. -/
def parameterOpenings : List Part :=
  [.rule .parameter, .rule .typedName, .word "*", .word "**", .word "/"]

/-- The parts that may come right after a part of a parameter list. -/
def parameterFollowers (p : Part) : List Part :=
  if p = .rule .parameter ∨ p = .rule .typedName then [.word "=", .word ","]
  else if p = .word "=" then [.rule .test]
  else if p = .word "," then parameterOpenings
  else if p = .word "*" then [.rule .typedName, .word ","]
  else if p = .word "**" then [.rule .typedName]
  else [.word ","]

/-- The end of a row of parameters. -/
structure RowEnd (row : List Part) : Prop where
  chain : row.IsChain fun p q => q ∈ parameterFollowers p
  last : ∀ p ∈ row.getLast?, p ≠ .word "=" ∧ p ≠ .word "**"

theorem rowEnd_of_matches {row : List Part} (h : Rule.parameterList.body.Matches row) :
    RowEnd row ∧ ∀ p ∈ row.head?, p ∈ parameterOpenings := by
  have hpairs : ∀ pq ∈ Rule.parameterList.body.pairs, pq.2 ∈ parameterFollowers pq.1 := by decide +kernel
  have hlasts : ∀ p ∈ Rule.parameterList.body.lasts, p ≠ .word "=" ∧ p ≠ .word "**" := by decide +kernel
  have hfirsts : ∀ p ∈ Rule.parameterList.body.firsts, p ∈ parameterOpenings := by decide +kernel
  exact ⟨⟨h.chain.imp fun p q hpq => hpairs (p, q) hpq, fun p hp => hlasts p (h.last p hp)⟩,
    fun p hp => hfirsts p (h.head p hp)⟩

theorem RowEnd.tail {p : Part} {row : List Part} (h : RowEnd (p :: row)) :
    RowEnd row ∧ ∀ q ∈ row.head?, q ∈ parameterFollowers p := by
  cases row with
  | nil => exact ⟨⟨.nil, fun q hq => by cases hq⟩, fun q hq => by cases hq⟩
  | cons q row =>
    have hchain := List.isChain_cons_cons.1 h.chain
    refine ⟨⟨hchain.2, fun r hr => h.last r (by rwa [List.getLast?_cons_cons])⟩, fun r hr => ?_⟩
    cases hr
    exact hchain.1

/-- What follows a parameter: nothing, or a comma and more parameters. -/
def Continues (us : List Tree) : Prop :=
  us = [] ∨ ∃ comma tail ps, us = .leaf comma :: tail ∧ comma.IsOperator "," ∧ Spells tail ps

theorem Parameter.Spelled.continue {p : Parameter} {item us : List Tree} (h : p.Spelled item) (hus : Continues us) :
    ∃ ps, Spells (item ++ us) ps := by
  rcases hus with rfl | ⟨comma, tail, ps, rfl, hcomma, htail⟩
  · exact ⟨[p], by rw [List.append_nil]; exact .last h⟩
  · exact ⟨p :: ps, .cons h hcomma htail⟩

/-- Plain trees whose tokens fit their kinds. -/
structure PlainTrees (ts : List Tree) : Prop where
  plain : ∀ t ∈ ts, t.IsPlain
  apt : ∀ tok ∈ Tree.leavesAll ts, tok.Apt

theorem PlainTrees.tail {ts : List Tree} (h : PlainTrees (t :: ts)) : PlainTrees ts :=
  ⟨fun u hu => h.plain u (.tail _ hu), fun tok htok => h.apt tok (List.mem_append_right _ htok)⟩

theorem PlainTrees.head {ts : List Tree} (h : PlainTrees (t :: ts)) : t.IsPlain ∧ ∀ tok ∈ t.leaves, tok.Apt :=
  ⟨h.plain t (.head _), fun tok htok => h.apt tok (List.mem_append_left _ htok)⟩

section
variable {n : Nat}
  -- rows of up to `n` parts are spelled, by induction
  (ih : ∀ {row : List Part} {ts : List Tree}, row.length ≤ n → RowEnd row → (∀ p ∈ row.head?, p ∈ parameterOpenings) →
    DerivesAll printWord row ts → PlainTrees ts → ∃ ps, Spells ts ps)
include ih

theorem continues_of_row {rest : List Part} {us : List Tree} (hn : rest.length ≤ n + 1) (hrow : RowEnd rest)
    (hhead : ∀ p ∈ rest.head?, p ∈ [Part.word ","]) (h : DerivesAll printWord rest us) (hus : PlainTrees us) :
    Continues us := by
  cases h with
  | nil => exact .inl rfl
  | @cons p t rest us hp h =>
    obtain rfl := List.mem_singleton.1 (hhead p rfl)
    obtain ⟨comma, rfl, hcomma⟩ := hp.operator (by decide)
    obtain ⟨ps, hps⟩ := ih (by simpa using hn) hrow.tail.1 hrow.tail.2 h hus.tail
    exact .inr ⟨comma, us, ps, rfl, hcomma, hps⟩

/-- A name after its stars, with the default after it. -/
theorem spells_of_named {stars : Stars} {ss : List Tree} (hs : stars.Spelled ss) {x : Part} {row : List Part}
    {us : List Tree} (hx : x = .rule .parameter ∨ x = .rule .typedName) (hn : row.length ≤ n + 1)
    (hrow : RowEnd (x :: row)) (hxt : Derives printWord x t) (h : DerivesAll printWord row us)
    (hus : PlainTrees (t :: us)) : ∃ ps, Spells (ss ++ t :: us) ps := by
  obtain ⟨tok, rfl, htok⟩ := hxt.name_of_isPlain hx hus.head.1
  have hnodefault (hcont : Continues us) : ∃ ps, Spells (ss ++ .leaf tok :: us) ps := by
    have hitem := (Parameter.Spelled.named hs htok .none).continue hcont
    rwa [List.append_assoc] at hitem
  have hfollow : ∀ q ∈ row.head?, q ∈ [Part.word "=", Part.word ","] := by
    have := hrow.tail.2
    rwa [parameterFollowers, if_pos hx] at this
  cases h with
  | nil => exact hnodefault (.inl rfl)
  | @cons q u row us hq h =>
    rcases List.mem_cons.1 (hfollow q rfl) with rfl | hcomma
    · obtain ⟨eq, rfl, heq⟩ := hq.operator (by decide)
      cases h with
      | nil => exact absurd rfl (hrow.tail.1.last _ rfl).1
      | @cons r d row us hr h =>
        obtain rfl := List.mem_singleton.1 (hrow.tail.1.tail.2 r rfl)
        have hrest := hrow.tail.1.tail.1
        have hd := hr.not_comma hus.tail.tail.head.2
        have hcont := continues_of_row ih (by simp only [List.length_cons] at hn; omega) hrest.tail.1 hrest.tail.2 h
          hus.tail.tail.tail
        have hitem := (Parameter.Spelled.named hs htok (.some heq hd)).continue hcont
        rwa [List.append_assoc] at hitem
    · refine hnodefault (continues_of_row ih hn hrow.tail.1 (fun p hp => ?_) (.cons hq h) hus.tail)
      cases hp
      exact hcomma

end

/-- A row of parameters without annotations and tuples spells parameters. The induction is on the length of the row:
after a parameter and a comma a shorter row is left. -/
theorem exists_spells_of_row {n : Nat} : ∀ {row : List Part} {ts : List Tree}, row.length ≤ n → RowEnd row →
    (∀ p ∈ row.head?, p ∈ parameterOpenings) → DerivesAll printWord row ts → PlainTrees ts → ∃ ps, Spells ts ps := by
  induction n with
  | zero =>
    intro row ts hn _ _ h _
    obtain rfl := List.eq_nil_of_length_eq_zero (Nat.le_zero.1 hn)
    cases h
    exact ⟨[], .nil⟩
  | succ n ih =>
    intro row ts hn hrow hhead h hts
    cases h with
    | nil => exact ⟨[], .nil⟩
    | @cons p t row us hp h =>
      have hn' : row.length ≤ n := by simpa using hn
      have hopen := hhead p rfl
      simp only [parameterOpenings, List.mem_cons, List.not_mem_nil, or_false] at hopen
      rcases hopen with hx | hx | rfl | rfl | rfl
      · exact spells_of_named ih .none (.inl hx) (Nat.le_succ_of_le hn') hrow hp h hts
      · exact spells_of_named ih .none (.inr hx) (Nat.le_succ_of_le hn') hrow hp h hts
      · obtain ⟨star, rfl, hstar⟩ := hp.operator (by decide)
        cases h with
        | nil => exact ⟨_, .last (.star hstar)⟩
        | @cons q u row us hq h =>
          rcases List.mem_cons.1 (hrow.tail.2 q rfl) with rfl | hcomma
          · exact spells_of_named ih (.one hstar) (.inr rfl) (by simp only [List.length_cons] at hn'; omega) hrow.tail.1
              hq h hts.tail
          · refine Parameter.Spelled.continue (.star hstar) (continues_of_row ih (Nat.le_succ_of_le hn') hrow.tail.1
              (fun p hp => ?_) (.cons hq h) hts.tail)
            cases hp
            exact hcomma
      · obtain ⟨stars, rfl, hstars⟩ := hp.operator (by decide)
        cases h with
        | nil => exact absurd rfl (hrow.last _ rfl).2
        | @cons q u row us hq h =>
          obtain rfl := List.mem_singleton.1 (hrow.tail.2 q rfl)
          exact spells_of_named ih (.two hstars) (.inr rfl) (by simp only [List.length_cons] at hn'; omega) hrow.tail.1
            hq h hts.tail
      · obtain ⟨slash, rfl, hslash⟩ := hp.operator (by decide)
        exact Parameter.Spelled.continue (.slash hslash)
          (continues_of_row ih (Nat.le_succ_of_le hn') hrow.tail.1 hrow.tail.2 h hts.tail)

/-! ### The parameters of a function -/

/-- The parts of a parameter list; a list of one part is that part. -/
def Function.parameterParts (f : Function) : List Tree :=
  match f.parameters with
  | none => []
  | some (.leaf t) => [.leaf t]
  | some (.node rule parts) => if rule = .parameterList then parts else [.node rule parts]

/-- No parameter has an annotation, and none is a tuple. -/
def Function.Unannotated (f : Function) : Prop :=
  ∀ t ∈ f.parameterParts, t.IsPlain

instance (f : Function) : Decidable f.Unannotated :=
  inferInstanceAs (Decidable (∀ t ∈ f.parameterParts, t.IsPlain))

theorem parameterNames?_eq {f : Function} {names : List (List Char × Stars)}
    (h : parameterNames? f.parameters = some names) : names = namesInList true .none f.parameterParts := by
  unfold Function.parameterParts
  cases hp : f.parameters with
  | none =>
    rw [hp] at h
    cases h
    rfl
  | some t =>
    rw [hp] at h
    cases t with
    | leaf t =>
      rw [parameterNames?] at h
      split at h
      · rename_i hkind
        cases h
        simp [namesInList, Tree.isLeaf, hkind]
      · cases h
    | node rule parts =>
      rw [parameterNames?] at h
      dsimp only
      split at h
      · rename_i hrule
        cases h
        rw [if_pos hrule]
      · cases h

theorem Derives.insideParentheses (h : Derives printWord (.rule .parameters) t) : insideParentheses t = none ∨
    ∃ inside, insideParentheses t = some inside ∧ Derives printWord (.rule .parameterList) inside ∧
      inside.leaves ⊆ t.leaves := by
  have hfirsts : ∀ p ∈ Rule.parameters.body.firsts, p = .word "(" := by decide +kernel
  have hpairs : ∀ pq ∈ Rule.parameters.body.pairs, pq.2 = .rule .parameterList ∨ pq.2 = .word ")" := by decide +kernel
  have hlast : ∀ pq ∈ Rule.parameters.body.pairs, pq.1 ≠ .word ")" := by decide +kernel
  cases h with
  | @node _ ps ts hrow h =>
    cases h with
    | nil => exact .inl rfl
    | @cons p a ps ts hp h =>
      obtain rfl := hfirsts p (hrow.head p rfl)
      obtain ⟨opening, rfl, -⟩ := hp.operator (by decide)
      cases h with
      | nil => exact .inl rfl
      | @cons q inside ps ts hq h =>
        cases h with
        | nil => exact .inl rfl
        | @cons r b ps ts hr h =>
          cases h with
          | cons _ _ => exact .inl rfl
          | nil =>
            have hchain := List.isChain_cons_cons.1 hrow.chain
            rcases hpairs _ hchain.1 with hq' | hq'
            · obtain rfl : q = .rule .parameterList := hq'
              refine .inr ⟨inside, rfl, hq, fun tok htok => ?_⟩
              exact List.mem_append_right _ (List.mem_append_left _ htok)
            · exact absurd hq' (hlast _ (List.isChain_cons_cons.1 hchain.2).1)

/-- A parameter list that is one part is no list again. -/
theorem Derives.parameterParts {f : Function} (h : Derives printWord (.rule .parameterList) t)
    (hf : f.parameters = some t) :
    ∃ row, Rule.parameterList.body.Matches row ∧ DerivesAll printWord row f.parameterParts ∧
      Tree.leavesAll f.parameterParts = t.leaves := by
  have honly : ∀ p ∈ Rule.parameterList.body.firsts, p ∈ Rule.parameterList.body.lasts →
      p = .rule .parameter ∨ p = .word "*" := by decide +kernel
  have hlong {ts : List Tree} (ht : t = .node .parameterList ts) : f.parameterParts = ts := by
    rw [Function.parameterParts, hf, ht]
    exact if_pos rfl
  have hone (ht : t.isNode .parameterList = false) : f.parameterParts = [t] := by
    rw [Function.parameterParts, hf]
    cases t with
    | leaf t => rfl
    | node rule parts => exact if_neg (of_decide_eq_false ht)
  cases h with
  | @node _ ps ts hrow h =>
    refine ⟨ps, hrow, ?_⟩
    cases h with
    | nil =>
      rw [hlong rfl]
      exact ⟨.nil, rfl⟩
    | @cons p t ps ts hp hps =>
      cases hps with
      | cons hq h =>
        rw [hlong rfl]
        exact ⟨.cons hp (.cons hq h), rfl⟩
      | nil =>
        have ht : t.isNode .parameterList = false := by
          rcases honly p (hrow.head p rfl) (hrow.last p rfl) with rfl | rfl
          · cases t with
            | leaf tok => rfl
            | node rule parts =>
              rcases hp.parameter with hnode | hnode | ⟨tok, htok, -⟩
              · rw [of_decide_eq_true hnode]
                rfl
              · rw [of_decide_eq_true hnode]
                rfl
              · cases htok
          · obtain ⟨tok, rfl, -⟩ := hp.operator (by decide)
            rfl
        rw [show f.parameterParts = [t] from hone ht]
        exact ⟨.cons hp .nil, List.append_nil _⟩

theorem Function.Stands.parameterRow {f : Function} {tokens : List Token} (h : f.Stands printWord tokens) :
    f.parameterParts = [] ∨ ∃ row, Rule.parameterList.body.Matches row ∧ DerivesAll printWord row f.parameterParts ∧
      Tree.leavesAll f.parameterParts ⊆ tokens := by
  obtain ⟨-, -, parameters, hf, hparameters, hleaves⟩ := h.header
  rcases hparameters.insideParentheses with hnone | ⟨inside, hinside, hlist, hsub⟩
  · exact .inl (by rw [Function.parameterParts, hf, hnone])
  · obtain ⟨row, hrow, hparts, hsame⟩ := hlist.parameterParts (hf.trans hinside)
    exact .inr ⟨row, hrow, hparts, hsame ▸ List.Subset.trans hsub hleaves⟩

/-- The parameters of a function that stands in a source, when none has an annotation and none is a tuple. -/
theorem Function.Stands.exists_spells {f : Function} {tokens : List Token} (h : f.Stands printWord tokens)
    (hapt : ∀ tok ∈ tokens, tok.Apt) (hplain : f.Unannotated) : ∃ ps, Spells f.parameterParts ps := by
  rcases h.parameterRow with hnone | ⟨row, hrow, hparts, hleaves⟩
  · rw [hnone]
    exact ⟨[], .nil⟩
  · obtain ⟨hend, hhead⟩ := rowEnd_of_matches hrow
    exact exists_spells_of_row le_rfl hend hhead hparts ⟨hplain, fun tok htok => hapt tok (hleaves htok)⟩

end TypeComments.Source
