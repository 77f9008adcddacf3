import TypeComments.Proofs.DocumentedTypes
import TypeComments.Proofs.FunctionTokens
import TypeComments.Signature.Convert

/-!
# What the comment of a function depends on

`Definition` holds what the conversion reads of a function, and `Definition.newBefore` is the text that it then
puts in front of the body. Where a conversion succeeds, its edit is this text (`convertFunction_ok`). The new
text consists of whole idle lines (`Definition.newBefore_idle`). A function whose class or whose inner functions
got comments of their own is converted as before (`convertFunction_alike`, `edit?_mapTokens`).
-/

namespace TypeComments.Signature
open Source Docstring

/-! ### Definitions -/

/-- What the conversion reads of a function. -/
structure Definition where
  name : List Char
  /-- The names of the parameters with their stars. -/
  parameters : List (List Char × Stars)
  /-- Does it stand in a class? -/
  isMethod : Bool
  /-- The blanks that open its body. -/
  blanks : List Char
  /-- What stands in front of them. -/
  before : List Char
  /-- Its docstring or, for a constructor without one, that of its class. -/
  doc : Option Literal

/-- The docstring of a block, if it can be read. -/
def docLiteral? (b : Block) : Option Literal :=
  match b.docstring with
  | .ok doc => doc.map (·.value)
  | .error _ => none

def classBlock? : Enclosing → Option Block
  | .body suite => suite.block?
  | .nothing | .oneLine => none

/-- The definition of a function whose body is the block `b`. -/
def definition (f : Function) (b : Block) : Definition where
  name := f.name
  parameters := (parameterNames? f.parameters).getD []
  isMethod := match f.enclosing with
    | .body _ => true
    | .nothing | .oneLine => false
  blanks := b.indent.text
  before := b.indent.before
  doc := docLiteral? b <|>
    if f.name == "__init__".toList then (classBlock? f.enclosing).bind docLiteral? else none

/-- The definition of a function whose body stands on lines of its own. -/
def definition? (f : Function) : Option Definition :=
  f.body.block?.map (definition f)

def literalTypes (defaults : Defaults) : Literal → Types
  | .text (c :: text) =>
    match ((parseDocstring none defaults.format defaults.options (c :: text)).run.run []).1 with
    | .ok documented => .ofDocumented documented
    | .error _ => {}
  | .text [] | .bytes _ => {}

namespace Definition

/-- The text of the docstring, if the docstring is parsed. -/
def docText? (d : Definition) : Option (List Char) :=
  if isOptOut d.before then none
  else match d.doc with
    | some (.text (c :: text)) => some (c :: text)
    | some (.text []) | some (.bytes _) | none => none

/-- The types that the conversion finds for the function. -/
def types? (defaults : Defaults) (d : Definition) : Option Types :=
  if isOptOut d.before then none else d.doc.map (literalTypes defaults)

/-- The comment that documents the types. -/
def comment (defaults : Defaults) (d : Definition) (types : Types) : List Char :=
  typeComment (argumentTypes defaults types d.isMethod d.parameters)
    (typeOr (defaultResult defaults d.isMethod d.name) types.result)

/-- The new text in front of the body; `none` if nothing changes. -/
def newBefore (defaults : Defaults) (d : Definition) : Option (List Char) :=
  if isOptOut d.before then none
  else d.doc.bind fun doc =>
    if (literalTypes defaults doc).isEmpty then none
    else withComment d.blanks d.before (d.comment defaults (literalTypes defaults doc))

end Definition

def edit? (defaults : Defaults) (f : Function) : Option Edit :=
  f.body.block?.bind fun b => ((definition f b).newBefore defaults).map (⟨b.indent.line, ·⟩)

/-! ### Converting a function -/

section
variable {defaults : Defaults} {file : List Char} {f : Function} {s s' : Progress}

theorem readTypes_ok {doc : DocText} {types : Types}
    (h : (readTypes defaults file doc).run.run s = (.ok types, s')) : types = literalTypes defaults doc.value := by
  unfold readTypes at h
  unfold literalTypes
  split at h
  · rename_i hvalue
    cases h
    rw [hvalue]
  · cases h
  · rename_i hvalue
    cases h
    rw [hvalue]
  · rename_i text hne hvalue
    rw [hvalue]
    cases text with
    | nil => exact absurd rfl hne
    | cons c text =>
      simp only
      revert h
      generalize (parseDocstring none defaults.format defaults.options (c :: text)).run.run [] = parsed
      obtain ⟨outcome, notices⟩ := parsed
      intro h
      obtain ⟨_, s₁, _, h⟩ := run_bind_eq_ok h
      cases outcome <;> cases h
      rfl

theorem docstringOf_ok {b : Block} {doc : Option DocText}
    (h : (docstringOf b).run.run s = (.ok doc, s')) : docLiteral? b = doc.map (·.value) := by
  unfold docstringOf at h
  unfold docLiteral?
  cases hdoc : b.docstring with
  | ok own =>
    rw [hdoc] at h
    cases h
    rfl
  | error fault =>
    rw [hdoc] at h
    cases h

theorem documentation_ok {b : Block} {own doc : Option DocText} (hown : docLiteral? b = own.map (·.value))
    (h : (documentation f own).run.run s = (.ok doc, s')) : (definition f b).doc = doc.map (·.value) := by
  have hdoc : (definition f b).doc = (own.map (·.value) <|>
      if f.name == "__init__".toList then (classBlock? f.enclosing).bind docLiteral? else none) := by
    rw [← hown]
    rfl
  rw [hdoc]
  unfold documentation at h
  cases own with
  | some own =>
    cases h
    rfl
  | none =>
    cases henc : f.enclosing with
    | nothing | oneLine =>
      rw [henc] at h
      cases h
      simp only [classBlock?, Option.bind_none, ite_self]
      rfl
    | body suite =>
      rw [henc] at h
      simp only [classBlock?]
      revert h
      generalize (f.name == "__init__".toList) = isInit
      intro h
      cases isInit with
      | false =>
        cases h
        rfl
      | true =>
        simp only [↓reduceIte] at h
        split at h
        · rename_i block hblock
          simp [hblock, docstringOf_ok h]
        · rename_i hblock
          cases h
          simp [hblock]

theorem standsInClass_ok {isMethod : Bool} (h : (standsInClass f.enclosing).run.run s = (.ok isMethod, s')) :
    f.enclosing ≠ .oneLine ∧ ∀ b, (definition f b).isMethod = isMethod := by
  unfold definition
  cases henc : f.enclosing with
  | nothing | body suite =>
    rw [henc] at h
    cases h
    exact ⟨by simp, fun _ => rfl⟩
  | oneLine =>
    rw [henc] at h
    cases h

theorem commentFor_ok {b : Block} {types : Types} {isMethod : Bool} {comment : List Char}
    (hmethod : (definition f b).isMethod = isMethod)
    (h : (commentFor defaults types isMethod f).run.run s = (.ok comment, s')) :
    (∃ names, parameterNames? f.parameters = some names) ∧ (definition f b).comment defaults types = comment := by
  unfold commentFor at h
  split at h
  · cases h
  · rename_i names hnames
    have hparams : (definition f b).parameters = names := by
      show (parameterNames? f.parameters).getD [] = names
      rw [hnames]
      rfl
    cases h
    refine ⟨⟨names, hnames⟩, ?_⟩
    rw [Definition.comment, hparams, hmethod]
    rfl

/-- What a conversion that ends well has met, step by step. -/
theorem convertFunction_ok {edit : Option Edit} (h : (convertFunction defaults file f).run.run s = (.ok edit, s')) :
    f.enclosing ≠ .oneLine ∧ ∃ b, f.body.block? = some b ∧
      edit = ((definition f b).newBefore defaults).map (⟨b.indent.line, ·⟩) ∧
      (edit ≠ none → ∃ names, parameterNames? f.parameters = some names) := by
  obtain ⟨isMethod, s₁, hclass, h⟩ := run_bind_eq_ok h
  obtain ⟨hclass, hmethod⟩ := standsInClass_ok hclass
  refine ⟨hclass, ?_⟩
  cases hb : f.body.block? with
  | none =>
    rw [hb] at h
    cases h
  | some b =>
    rw [hb] at h
    refine ⟨b, rfl, ?_⟩
    obtain ⟨own, s₂, hown, h⟩ := run_bind_eq_ok h
    have hbefore : (definition f b).before = b.indent.before := rfl
    rw [Definition.newBefore, hbefore]
    cases hopt : isOptOut b.indent.before with
    | true =>
      rw [hopt] at h
      cases h
      exact ⟨rfl, fun hsome => absurd rfl hsome⟩
    | false =>
      rw [hopt] at h
      obtain ⟨doc, s₃, hdoc, h⟩ := run_bind_eq_ok h
      rw [documentation_ok (docstringOf_ok hown) hdoc]
      cases doc with
      | none =>
        cases h
        exact ⟨rfl, fun hsome => absurd rfl hsome⟩
      | some doc =>
        obtain ⟨types, s₄, htypes, h⟩ := run_bind_eq_ok h
        obtain rfl := readTypes_ok htypes
        simp only [Option.map_some, Option.bind_some, Bool.false_eq_true, ↓reduceIte]
        split at h
        · rename_i hempty
          cases h
          rw [if_pos hempty]
          exact ⟨rfl, fun hsome => absurd rfl hsome⟩
        · rename_i hempty
          rw [if_neg hempty]
          obtain ⟨comment, s₅, hcomment, h⟩ := run_bind_eq_ok h
          obtain ⟨hnames, rfl⟩ := commentFor_ok (hmethod b) hcomment
          cases h
          exact ⟨rfl, fun _ => hnames⟩

theorem convertFunction_block {edit : Option Edit}
    (h : (convertFunction defaults file f).run.run s = (.ok edit, s')) : ∃ b, f.body.block? = some b := by
  obtain ⟨-, b, hb, -⟩ := convertFunction_ok h
  exact ⟨b, hb⟩

theorem convertFunction_edit {edit : Option Edit}
    (h : (convertFunction defaults file f).run.run s = (.ok edit, s')) : edit = edit? defaults f := by
  obtain ⟨-, b, hb, hedit, -⟩ := convertFunction_ok h
  rw [hedit, edit?, hb, Option.bind_some]

end

/-! ### The new text -/

structure Defaults.Clear (p : Char → Bool) (defaults : Defaults) : Prop where
  arguments : ∀ q ∈ defaults.argTypes, TypeComments.Clear p q.2
  result : TypeComments.Clear p defaults.returnType

structure Types.Clear (p : Char → Bool) (types : Types) : Prop where
  params : ∀ q ∈ types.params, TypeComments.Clear p q.2
  result : ∀ type ∈ types.result, TypeComments.Clear p type

section
variable {p : Char → Bool} {defaults : Defaults} {types : Types} {d : Definition}
  (hp : ∀ c, p c = true → isLineBreak c = true)

theorem mem_of_lookup {α β : Type} [BEq α] {a : α} {b : β} {l : List (α × β)} (h : l.lookup a = some b) :
    ∃ q ∈ l, q.2 = b := by
  induction l with
  | nil => cases h
  | cons q l ih =>
    rw [List.lookup_cons] at h
    split at h
    · exact ⟨q, .head _, Option.some.inj h⟩
    · obtain ⟨r, hr, hb⟩ := ih h
      exact ⟨r, .tail _ hr, hb⟩

theorem argumentType?_clear (hd : defaults.Clear p) (ht : types.Clear p) {name type : List Char}
    (h : argumentType? defaults types name = some type) : Clear p type := by
  unfold argumentType? at h
  cases hparam : types.params.lookup (some name) with
  | some type' =>
    rw [hparam] at h
    cases h
    obtain ⟨q, hq, rfl⟩ := mem_of_lookup hparam
    exact ht.params q hq
  | none =>
    rw [hparam] at h
    obtain ⟨q, hq, rfl⟩ := mem_of_lookup (show defaults.argTypes.lookup name = some type from h)
    exact hd.arguments q hq

include hp

theorem argumentTypes_clear (hd : defaults.Clear p) (ht : types.Clear p) (isMethod : Bool)
    (names : List (List Char × Stars)) : ∀ s ∈ argumentTypes defaults types isMethod names, Clear p s := by
  have hconst {text : List Char} (h : Clear isLineBreak text) : Clear p text := h.mono hp
  intro s hs
  obtain ⟨⟨⟨name, stars⟩, i⟩, _, hs⟩ := List.mem_filterMap.1 hs
  dsimp only at hs
  split at hs
  · obtain rfl := Option.some.inj hs
    refine Clear.append ?_ (Clear.of_subset ?_ (trimBy_subset _ _))
    · cases stars <;> exact hconst (by decide)
    · cases htype : argumentType? defaults types name with
      | none => exact hconst (by decide)
      | some type => exact argumentType?_clear hd ht htype
  · cases hs

theorem result_clear (hd : defaults.Clear p) (ht : types.Clear p) (isMethod : Bool) (name : List Char) :
    Clear p (typeOr (defaultResult defaults isMethod name) types.result) := by
  cases htype : types.result with
  | none =>
    simp only [typeOr, Option.getD_none, defaultResult]
    split
    · exact Clear.mono (q := isLineBreak) (by decide) hp
    · exact hd.result
  | some type => exact ht.result type htype

omit hp in
theorem literalTypes_clear_of_parse {doc : Literal} (hdoc : ∀ text, doc = .text text → text ≠ [] →
      ∀ documented, ((parseDocstring none defaults.format defaults.options text).run.run []).1 = .ok documented →
        documented.Clear p) :
    (literalTypes defaults doc).Clear p := by
  have hempty : ({} : Types).Clear p := ⟨fun _ h => (nomatch h), fun _ h => (nomatch h)⟩
  unfold literalTypes
  split
  · rename_i c text
    split
    · rename_i documented hok
      have hclear := hdoc (c :: text) rfl (by simp) documented hok
      refine ⟨fun q hq => ?_, fun type htype => ?_⟩
      · obtain ⟨r, hr, hq⟩ := List.mem_filterMap.1 hq
        cases htype : r.entry.type with
        | none => simp [htype] at hq
        | some type =>
          rw [htype] at hq
          dsimp only at hq
          split at hq
          · cases hq
          · cases hq
            exact hclear.params r hr type htype
      · obtain ⟨entry, hentry, htype⟩ := Option.bind_eq_some_iff.1 htype
        exact hclear.result entry hentry type htype
    · exact hempty
  · exact hempty
  · exact hempty

end

section
variable {defaults : Defaults} {d : Definition} {before : List Char}

theorem typeComment_eq (arguments : List (List Char)) (result : List Char) : typeComment arguments result =
    "# type: ".toList ++ ("(".toList ++ List.intercalate ", ".toList arguments ++ ") -> ".toList ++ result) ++ ['\n'] := by
  have hopen : "# type: (".toList = "# type: ".toList ++ "(".toList := by decide
  have hassoc (a b c d e f : List Char) : a ++ b ++ c ++ d ++ e ++ f = a ++ (b ++ c ++ d ++ e) ++ f := by
    simp only [List.append_assoc]
  unfold typeComment
  rw [hopen]
  exact hassoc _ _ _ _ _ _

/-- The comment of a function is a line of its own, if the types are. -/
theorem Definition.comment_eq (defaults : Defaults) (d : Definition) (types : Types) : ∃ signature,
    d.comment defaults types = "# type: ".toList ++ signature ++ ['\n'] ∧
      ∀ p : Char → Bool, (∀ c, p c = true → isLineBreak c = true) → defaults.Clear p → types.Clear p →
        Clear p signature := by
  refine ⟨_, typeComment_eq _ _, fun p hp hd ht => ?_⟩
  have hconst {text : List Char} (h : Clear isLineBreak text) : Clear p text := h.mono hp
  exact (((hconst (by decide)).append ((hconst (by decide)).intercalate
    (argumentTypes_clear hp hd ht _ _))).append (hconst (by decide))).append (result_clear hp hd ht _ _)

theorem withComment_eq {blanks before comment new : List Char} (h : withComment blanks before comment = some new) :
    new = blanks ++ comment ++ if isTypeComment before then [] else before := by
  unfold withComment at h
  split at h
  · cases h
  split at h
  · rename_i hcomment
    rw [← Option.some.inj h, if_pos hcomment, List.append_nil]
  · rename_i hcomment
    rw [← Option.some.inj h, if_neg hcomment]

/-- A new text comes from types that were found. -/
theorem Definition.newBefore_eq (defaults : Defaults) (d : Definition) : d.newBefore defaults =
    (d.types? defaults).bind fun types =>
      if types.isEmpty then none else withComment d.blanks d.before (d.comment defaults types) := by
  unfold Definition.newBefore Definition.types?
  split
  · rfl
  · cases d.doc <;> rfl

theorem Definition.exists_types (h : d.newBefore defaults = some before) : ∃ types ∈ d.types? defaults,
    withComment d.blanks d.before (d.comment defaults types) = some before := by
  rw [Definition.newBefore_eq] at h
  obtain ⟨types, htypes, h⟩ := Option.bind_eq_some_iff.1 h
  split at h
  · cases h
  · exact ⟨types, htypes, h⟩

theorem Definition.types?_clear_of_parse {p : Char → Bool} (hdoc : ∀ text ∈ d.docText?, ∀ documented,
      ((parseDocstring none defaults.format defaults.options text).run.run []).1 = .ok documented → documented.Clear p)
    {types : Types} (h : types ∈ d.types? defaults) : types.Clear p := by
  unfold Definition.types? at h
  split at h
  · cases h
  rename_i hopt
  obtain ⟨doc, hdoc', rfl⟩ := Option.map_eq_some_iff.1 h
  refine literalTypes_clear_of_parse fun text htext hne => hdoc text ?_
  obtain ⟨c, text, rfl⟩ := List.exists_cons_of_ne_nil hne
  rw [Definition.docText?, if_neg hopt, hdoc', htext]
  rfl

theorem Definition.types?_clear {p : Char → Bool} (hp : ∀ c, p c = true → isLineBreak c = true)
    (hdoc : ∀ text ∈ d.docText?, chooseFormat defaults.format text ≠ .rest) {types : Types}
    (h : types ∈ d.types? defaults) : types.Clear p :=
  Definition.types?_clear_of_parse (fun text htext _ hok => parse_clear hp (hdoc text htext) (Prod.ext hok rfl)) h

/-- A new text is a comment line in front of what stays of the old text, and the types that were found are all that
can break that line. -/
theorem Definition.newBefore_signature (h : d.newBefore defaults = some before) : ∃ types ∈ d.types? defaults,
    ∃ signature, before = d.blanks ++ "# type: ".toList ++ signature ++ ['\n'] ++
        (if isTypeComment d.before then [] else d.before) ∧
      ∀ p : Char → Bool, (∀ c, p c = true → isLineBreak c = true) → defaults.Clear p → types.Clear p →
        Clear p signature := by
  obtain ⟨types, htypes, hnew⟩ := Definition.exists_types h
  obtain ⟨signature, hcomment, hclear⟩ := Definition.comment_eq defaults d types
  refine ⟨types, htypes, signature, ?_, hclear⟩
  rw [withComment_eq hnew, hcomment]
  simp only [List.append_assoc]

/-- A new text is a comment line of its own in front of what stays of the old text. Its signature holds no
line boundary that the default types do not hold. -/
theorem Definition.newBefore_line (hdoc : ∀ text ∈ d.docText?, chooseFormat defaults.format text ≠ .rest)
    (h : d.newBefore defaults = some before) : ∃ signature,
      before = d.blanks ++ "# type: ".toList ++ signature ++ ['\n'] ++
        (if isTypeComment d.before then [] else d.before) ∧
      ∀ p : Char → Bool, (∀ c, p c = true → isLineBreak c = true) → defaults.Clear p → Clear p signature := by
  obtain ⟨types, htypes, signature, hline, hclear⟩ := Definition.newBefore_signature h
  exact ⟨signature, hline, fun p hp hd => hclear p hp hd (Definition.types?_clear hp hdoc htypes)⟩

theorem isIdle_comment {blanks text : List Char} (hblanks : blanks.all isSpacing = true) (htext : '\n' ∉ text) :
    IsIdle (blanks ++ '#' :: text ++ ['\n']) := by
  have hspacing : ∀ c ∈ blanks, isSpacing c = true := by simpa using hblanks
  refine ⟨⟨_, rfl, ?_⟩, ?_⟩
  · rw [List.mem_append, List.mem_cons]
    rintro (h | h | h)
    · exact absurd (hspacing _ h) (by decide)
    · exact absurd h (by decide)
    · exact htext h
  · have hdrop : (blanks ++ '#' :: text ++ ['\n']).dropWhile isSpacing = '#' :: text ++ ['\n'] := by
      rw [List.append_assoc, List.dropWhile_append_of_pos hspacing]
      rfl
    rw [opensIdle, hdrop]
    rfl

/-- The comment of a function is an idle line, if the types are on one line. -/
theorem Definition.isIdle_comment_line {types : Types} (hd : defaults.Clear (· == '\n')) (ht : types.Clear (· == '\n'))
    (hblanks : d.blanks.all isSpacing = true) : IsIdle (d.blanks ++ d.comment defaults types) := by
  obtain ⟨signature, hcomment, hclear⟩ := Definition.comment_eq defaults d types
  have hfeed : '\n' ∉ " type: ".toList ++ signature := by
    intro hmem
    have := Clear.append (by decide) (hclear (· == '\n') (by simp [isLineBreak]) hd ht) _ hmem
    simp at this
  rw [hcomment, ← List.append_assoc]
  exact isIdle_comment hblanks hfeed

theorem Definition.newBefore_idleLines (hd : defaults.Clear (· == '\n'))
    (ht : ∀ types ∈ d.types? defaults, types.Clear (· == '\n')) (hblanks : d.blanks.all isSpacing = true)
    (hbefore : IdleLines d.before) (h : d.newBefore defaults = some before) : IdleLines before := by
  obtain ⟨types, htypes, hnew⟩ := Definition.exists_types h
  rw [withComment_eq hnew]
  refine .append (IsIdle.idleLines (Definition.isIdle_comment_line hd (ht types htypes) hblanks)) ?_
  split
  exacts [.nil, hbefore]

theorem Definition.newBefore_idle (hd : defaults.Clear (· == '\n'))
    (hdoc : ∀ text ∈ d.docText?, chooseFormat defaults.format text ≠ .rest)
    (hblanks : d.blanks.all isSpacing = true) (hbefore : IdleLines d.before)
    (h : d.newBefore defaults = some before) : IdleLines before :=
  Definition.newBefore_idleLines hd (fun _ => Definition.types?_clear (by simp [isLineBreak]) hdoc) hblanks hbefore h

end

/-! ### Converting a changed function -/

/-- Both fail, or both succeed with values that are related by `R`. -/
inductive SameOutcome {α β : Type} (R : α → β → Prop) : Except Fault α → Except Fault β → Prop
  | ok {a : α} {b : β} (h : R a b) : SameOutcome R (.ok a) (.ok b)
  | error (fault fault' : Fault) : SameOutcome R (.error fault) (.error fault')

/-- The outcomes are the same up to `R`, whatever was done before. -/
def Alike {α β : Type} (R : α → β → Prop) (x : Visit α) (y : Visit β) : Prop :=
  ∀ s s', SameOutcome R (x.run.run s).1 (y.run.run s').1

namespace Alike
variable {α β γ δ : Type} {R : α → β → Prop} {S : γ → δ → Prop} {x : Visit α} {y : Visit β}

theorem pure {a : α} {b : β} (h : R a b) : Alike R (Pure.pure a) (Pure.pure b) :=
  fun _ _ => .ok h

theorem throw (fault fault' : Fault) : Alike R (MonadExcept.throw fault) (MonadExcept.throw fault') :=
  fun _ _ => .error fault fault'

theorem bind {k : α → Visit γ} {l : β → Visit δ} (h : Alike R x y) (hk : ∀ a b, R a b → Alike S (k a) (l b)) :
    Alike S (x >>= k) (y >>= l) := by
  intro s s'
  have hxy := h s s'
  cases hx : x.run.run s with
  | mk rx s₁ =>
    cases hy : y.run.run s' with
    | mk ry s₁' =>
      rw [hx, hy] at hxy
      cases hxy with
      | ok hab =>
        rw [run_bind_of_ok hx, run_bind_of_ok hy]
        exact hk _ _ hab s₁ s₁'
      | error fault fault' =>
        rw [run_bind_of_error hx, run_bind_of_error hy]
        exact .error fault fault'

theorem exists_ok (h : Alike R x y) {s s₁ : Progress} {a : α} (hx : x.run.run s = (.ok a, s₁)) (s' : Progress) :
    ∃ b s₁', y.run.run s' = (.ok b, s₁') ∧ R a b := by
  have hxy := h s s'
  rw [hx] at hxy
  cases hy : y.run.run s' with
  | mk ry s₁' =>
    rw [hy] at hxy
    cases hxy with
    | ok hab => exact ⟨_, s₁', rfl, hab⟩

theorem exists_ok_left (h : Alike R x y) {s' s₁' : Progress} {b : β} (hy : y.run.run s' = (.ok b, s₁')) (s : Progress) :
    ∃ a s₁, x.run.run s = (.ok a, s₁) ∧ R a b := by
  have hxy := h s s'
  rw [hy] at hxy
  cases hx : x.run.run s with
  | mk rx s₁ =>
    rw [hx] at hxy
    cases hxy with
    | ok hab => exact ⟨_, s₁, rfl, hab⟩

end Alike

/-- Docstrings with the same value, wherever they stand. -/
def SameValue (doc doc' : Option DocText) : Prop :=
  doc.map (·.value) = doc'.map (·.value)

section
variable {defaults : Defaults} {file : List Char} {f : Function} {e : Token → Token}

theorem readTypes_alike {doc doc' : DocText} (h : doc.value = doc'.value) :
    Alike Eq (readTypes defaults file doc) (readTypes defaults file doc') := by
  unfold readTypes
  rw [← h]
  split
  · exact .pure rfl
  · exact .throw _ _
  · exact .pure rfl
  · refine .bind (R := fun _ _ => True) (fun _ _ => .ok trivial) fun _ _ _ => ?_
    split
    · exact .throw _ _
    · exact .pure rfl

variable (he : Recast e)
include he

theorem docstringOf_alike (b : Block) :
    Alike SameValue (docstringOf b) (docstringOf ⟨e b.indent, b.docToken.map e⟩) := by
  unfold docstringOf Block.docstring
  cases b.docToken with
  | none => exact .pure rfl
  | some t =>
    simp only [Option.map_some, he.text_eq]
    cases literalValue t.text with
    | ok value => exact .pure rfl
    | error fault => exact .throw _ _

theorem docLiteral?_mapTokens (b : Block) : docLiteral? ⟨e b.indent, b.docToken.map e⟩ = docLiteral? b := by
  unfold docLiteral? Block.docstring
  cases b.docToken with
  | none => rfl
  | some t =>
    simp only [Option.map_some, he.text_eq]
    cases literalValue t.text <;> rfl

theorem documentation_alike (hname : f.nameToken.kind = .name) {own own' : Option DocText} (h : SameValue own own') :
    Alike SameValue (documentation f own) (documentation (f.mapTokens e) own') := by
  unfold documentation
  rw [he.name_eq hname]
  have henc : (f.mapTokens e).enclosing = f.enclosing.mapTokens e := rfl
  rw [henc]
  cases own with
  | some own =>
    cases own' with
    | some own' => exact .pure h
    | none => cases h
  | none =>
    cases own' with
    | some own' => cases h
    | none =>
      cases f.enclosing with
      | nothing | oneLine => exact .pure rfl
      | body suite =>
        simp only [Enclosing.mapTokens, he.block?]
        generalize (f.name == "__init__".toList) = isInit
        cases isInit with
        | false => exact .pure rfl
        | true =>
          cases suite.block? with
          | none => exact .pure rfl
          | some b => exact docstringOf_alike he b

theorem commentFor_alike (hname : f.nameToken.kind = .name) (types : Types) (isMethod : Bool) :
    Alike Eq (commentFor defaults types isMethod f) (commentFor defaults types isMethod (f.mapTokens e)) := by
  have hparams : parameterNames? (f.mapTokens e).parameters = parameterNames? f.parameters :=
    he.parameterNames? f.parameters
  unfold commentFor
  rw [hparams, he.name_eq hname]
  split
  · exact .throw _ _
  · exact .pure rfl

variable (defaults file) in
/-- The conversion of a function does not fail because of other texts in front of blocks or of other line
numbers, unless the function is opted out by them. -/
theorem convertFunction_alike (hname : f.nameToken.kind = .name)
    (hopt : ∀ t ∈ f.opening?, isOptOut (e t).before = isOptOut t.before) :
    Alike (fun _ _ => True) (convertFunction defaults file f) (convertFunction defaults file (f.mapTokens e)) := by
  have hclass : Alike Eq (standsInClass f.enclosing) (standsInClass (f.mapTokens e).enclosing) := by
    have henc : (f.mapTokens e).enclosing = f.enclosing.mapTokens e := rfl
    rw [henc]
    cases f.enclosing with
    | nothing => exact .pure rfl
    | oneLine => exact .throw _ _
    | body suite => exact .pure rfl
  refine .bind hclass fun isMethod _ heq => ?_
  subst heq
  have hmap : (f.mapTokens e).body = f.body.mapTokens e := rfl
  rw [hmap, he.block?]
  cases hb : f.body.block? with
  | none => exact .throw _ _
  | some b =>
    have hb' : isOptOut (e b.indent).before = isOptOut b.indent.before :=
      hopt _ (Function.opening?_of_block hb)
    simp only [Option.map_some, hb']
    refine .bind (docstringOf_alike he b) fun own own' hown => ?_
    split
    · exact .pure trivial
    · refine .bind (documentation_alike he hname hown) fun doc doc' hdoc => ?_
      cases doc with
      | none =>
        cases doc' with
        | none => exact .pure trivial
        | some doc' => cases hdoc
      | some doc =>
        cases doc' with
        | none => cases hdoc
        | some doc' =>
          refine .bind (readTypes_alike (Option.some.inj hdoc)) fun types _ heq => ?_
          subst heq
          split
          · exact .pure trivial
          · exact .bind (commentFor_alike he hname types isMethod) fun _ _ _ => .pure trivial

theorem definition_mapTokens (hname : f.nameToken.kind = .name) (b : Block) :
    definition (f.mapTokens e) ⟨e b.indent, b.docToken.map e⟩ =
      { definition f b with before := (e b.indent).before } := by
  have hclass : (classBlock? (f.mapTokens e).enclosing).bind docLiteral? = (classBlock? f.enclosing).bind docLiteral? := by
    have henc : (f.mapTokens e).enclosing = f.enclosing.mapTokens e := rfl
    rw [henc]
    cases f.enclosing with
    | nothing | oneLine => rfl
    | body suite =>
      simp only [Enclosing.mapTokens, classBlock?, he.block?]
      cases suite.block? with
      | none => rfl
      | some b => exact docLiteral?_mapTokens he b
  have hmethod : (definition (f.mapTokens e) ⟨e b.indent, b.docToken.map e⟩).isMethod = (definition f b).isMethod := by
    show (match f.enclosing.mapTokens e with | .body _ => true | .nothing | .oneLine => false) = _
    simp only [definition]
    cases f.enclosing <;> rfl
  have hparams : parameterNames? (f.mapTokens e).parameters = parameterNames? f.parameters :=
    he.parameterNames? f.parameters
  have hdoc : (definition (f.mapTokens e) ⟨e b.indent, b.docToken.map e⟩).doc = (definition f b).doc := by
    simp only [definition, docLiteral?_mapTokens he, hclass, he.name_eq hname]
  rw [Definition.mk.injEq]
  exact ⟨he.name_eq hname, congrArg (Option.getD · []) hparams, hmethod, he.text_eq b.indent, rfl, hdoc⟩

/-- Changes in front of other blocks leave the edit of a function as it is. -/
theorem edit?_mapTokens (hname : f.nameToken.kind = .name) (hown : ∀ t ∈ f.opening?, e t = t) :
    edit? defaults (f.mapTokens e) = edit? defaults f := by
  have hblock : (f.mapTokens e).body.block? = f.body.block?.map fun b => ⟨e b.indent, b.docToken.map e⟩ := he.block? f.body
  rw [edit?, edit?, hblock]
  cases hb : f.body.block? with
  | none => rfl
  | some b =>
    have hindent : e b.indent = b.indent := hown _ (Function.opening?_of_block hb)
    rw [Option.map_some, Option.bind_some, Option.bind_some, definition_mapTokens he hname, hindent]
    rfl

end

end TypeComments.Signature
