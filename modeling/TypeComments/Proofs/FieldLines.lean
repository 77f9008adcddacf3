import TypeComments.Proofs.FieldPieces
import TypeComments.Proofs.IndentedText

/-!
# Cutting well-formed field lines

A name holds no blanks and no punctuation, and a colon in front of a blank starts no cross-reference. So `name : type`
and `name (type):` are cut at the places where they were put together, whatever the numpy type is and whatever follows
the google colon (`fieldOf_numpy`, `fieldOf_google`). A line that is a type alone, or a type and a colon, gives that
type.
-/

namespace TypeComments
variable {s t : List Char} {c : Char}

namespace Docstring

/-! ### Cutting at a colon -/

/-- A cross-reference starts with a colon or a backquote. -/
theorem referenceLength_of_ne (hcolon : c ≠ ':') (hquote : c ≠ '\x60') (s : List Char) :
    referenceLength (c :: s) = none := by
  unfold referenceLength
  split
  · rename_i heq
    exact absurd (List.cons.inj heq).1 hcolon
  · rename_i heq
    exact absurd (List.cons.inj heq).1 hquote
  · rfl

/-- A colon in front of a blank starts no cross-reference, whatever follows. -/
theorem referenceLength_of_blank (ht : ∀ c ∈ t.head?, isBlank c = true) : referenceLength (':' :: t) = none := by
  cases t with
  | nil => rfl
  | cons c t =>
    have hc : isBlank c = true := ht c rfl
    have hword : isWord c = false := by
      refine Bool.eq_false_iff.2 fun hw => ?_
      rw [isBlank_of_isWord hw] at hc
      cases hc
    have hcolon : c ≠ ':' := by
      rintro rfl
      exact absurd hc (by decide)
    have hrole : roleLength (c :: t) = none := by
      unfold roleLength
      rw [if_pos hc]
    simp only [referenceLength, List.takeWhile_cons, hword, Bool.false_eq_true, ↓reduceIte, List.length_nil,
      List.drop_zero, hrole, Option.map_none]
    split
    · rename_i heq
      split at heq
      · rename_i hcons
        exact absurd (List.cons.inj hcons).1 hcolon
      · cases heq
    · rfl

theorem colonIndex?_append (hs : ':' ∉ s) (hq : '\x60' ∉ s) (ht : ∀ c ∈ t.head?, isBlank c = true) :
    colonIndex? 0 (s ++ ':' :: t) = some s.length := by
  induction s with
  | nil =>
    rw [List.nil_append, colonIndex?, referenceLength_of_blank ht]
    rfl
  | cons c s ih =>
    rw [List.mem_cons, not_or] at hs hq
    rw [List.cons_append, colonIndex?, referenceLength_of_ne (Ne.symm hs.1) (Ne.symm hq.1),
      if_neg (by simpa using Ne.symm hs.1), ih hs.2 hq.2]
    rfl

theorem colonIndex?_of_not_mem (hs : ':' ∉ s) (hq : '\x60' ∉ s) : colonIndex? 0 s = none := by
  induction s with
  | nil => rfl
  | cons c s ih =>
    rw [List.mem_cons, not_or] at hs hq
    rw [colonIndex?, referenceLength_of_ne (Ne.symm hs.1) (Ne.symm hq.1), if_neg (by simpa using Ne.symm hs.1),
      ih hs.2 hq.2]
    rfl

theorem partitionField_append (hs : ':' ∉ s) (hq : '\x60' ∉ s) (ht : ∀ c ∈ t.head?, isBlank c = true) :
    partitionField (s ++ ':' :: t) = ⟨trim s, true, trim t⟩ := by
  rw [partitionField_of_some (colonIndex?_append hs hq ht)]
  simp

theorem partitionField_of_not_mem (hs : ':' ∉ s) (hq : '\x60' ∉ s) : partitionField s = ⟨trim s, false, []⟩ := by
  exact partitionField_of_none (colonIndex?_of_not_mem hs hq)

/-! ### A type in parentheses -/

/-- The blanks in front of a text that does not end in one end inside it. -/
theorem exists_dropWhile_append (hne : t ≠ []) (hlast : ∀ c ∈ t.getLast?, isBlank c = false) (s : List Char) :
    ∃ e u, (t ++ s).dropWhile isBlank = e :: u ∧ e ∈ t := by
  cases hd : t.dropWhile isBlank with
  | nil =>
    have hblank := List.dropWhile_eq_nil_iff.1 hd _ (List.getLast_mem hne)
    rw [hlast _ (List.getLast?_eq_some_getLast hne)] at hblank
    cases hblank
  | cons e u =>
    refine ⟨e, u ++ s, ?_, (List.dropWhile_suffix isBlank).subset (hd ▸ .head _)⟩
    rw [List.dropWhile_append, hd]
    rfl

/-- The text up to the first closing parenthesis, without the blanks in front of that. -/
theorem shortestBefore_append {b : List Char} (hne : t ≠ []) (hlast : ∀ c ∈ t.getLast?, isBlank c = false) (hfeed : '\n' ∉ t)
    (hclose : ')' ∉ t) (hb : ∀ c ∈ b, isBlank c = true) (s : List Char) :
    shortestBefore ')' (t ++ (b ++ ')' :: s)) = some (t, s) := by
  induction t with
  | nil => exact absurd rfl hne
  | cons c t ih =>
    rw [List.mem_cons, not_or] at hfeed hclose
    rw [List.cons_append, shortestBefore, if_neg (by simpa using Ne.symm hfeed.1)]
    cases t with
    | nil =>
      have hdrop : ([] ++ (b ++ ')' :: s)).dropWhile isBlank = ')' :: s := by
        rw [List.nil_append, List.dropWhile_append_of_pos hb]
        rfl
      rw [hdrop]
      rfl
    | cons d t =>
      have hrest := ih (by simp) (by simpa using hlast) hfeed.2 hclose.2
      obtain ⟨e, u, hdrop, he⟩ := exists_dropWhile_append (t := d :: t) (by simp) (by simpa using hlast) (b ++ ')' :: s)
      rw [hdrop]
      have hne : e ≠ ')' := fun h => hclose.2 (h ▸ he)
      simp only [beq_iff_eq, hne, ↓reduceIte, hrest, Option.map_some]

theorem nameAndType_of_not_mem (h : '(' ∉ s) : nameAndType s = none := by
  fun_induction nameAndType s with
  | case1 => rfl
  | case2 => rfl
  | case3 c s _ here t =>
    rename_i hhere
    simp only [here] at hhere
    split at hhere
    · rename_i tail htail
      have hmem : '(' ∈ s.dropWhile isBlank := htail ▸ .head _
      exact absurd (.tail _ ((List.dropWhile_suffix isBlank).subset hmem)) h
    · cases hhere
  | case4 c s _ here _ =>
    rename_i ih
    rw [ih fun hm => h (.tail _ hm)]
    rfl

theorem typedArgument_of_not_mem (h : '(' ∉ s) : typedArgument s = none := by
  induction s with
  | nil => rfl
  | cons c s ih =>
    have hs : '(' ∉ s := fun hm => h (.tail _ hm)
    rw [typedArgument, ih hs, nameAndType_of_not_mem h]
    split <;> rfl

/-! ### Names and types -/

/-- A name without blanks and punctuation, as every identifier is. -/
structure IsName (n : List Char) : Prop where
  ne_nil : n ≠ []
  notBlank : ∀ c ∈ n, isBlank c = false
  plain : ∀ c ∈ n, c ∉ [':', '(', ')', '*', '.', '\x60']

/-- What stands in front of the type on a field line, such as a name with stars: no blanks, and none of the signs that
divide the line. -/
structure IsKey (n : List Char) : Prop where
  ne_nil : n ≠ []
  notBlank : ∀ c ∈ n, isBlank c = false
  plain : ∀ c ∈ n, c ∉ [':', '(', '\x60']

/-- A type on one line: no blank at either end, no star in front, and none of the signs that divide a field
line. -/
structure IsType (t : List Char) : Prop extends Tight t where
  ne_nil : t ≠ []
  star : t.head? ≠ some '*'
  unbroken : ∀ c ∈ t, isLineBreak c = false
  plain : ∀ c ∈ t, c ∉ ['\t', '\x60', ':', '(', ')']

/-- A type that can be put in parentheses: no blank at either end, no line feed, and none of the signs that divide a
field line. -/
structure IsEnclosed (t : List Char) : Prop extends Tight t where
  ne_nil : t ≠ []
  plain : ∀ c ∈ t, c ∉ [':', '\x60', '(', ')', '\n']

instance (n : List Char) : Decidable (IsName n) :=
  decidable_of_iff (n ≠ [] ∧ n.all (!isBlank ·) = true ∧ n.all (!List.contains [':', '(', ')', '*', '.', '\x60'] ·) = true)
    ⟨fun ⟨hne, hblank, hplain⟩ => ⟨hne, by simpa using hblank, by simpa using hplain⟩,
      fun h => ⟨h.ne_nil, by simpa using h.notBlank, by simpa using h.plain⟩⟩

instance (t : List Char) : Decidable (IsType t) :=
  decidable_of_iff ((t.head?.toList.all (!isBlank ·) = true ∧ t.getLast?.toList.all (!isBlank ·) = true) ∧ t ≠ [] ∧
      t.head? ≠ some '*' ∧ t.all (!isLineBreak ·) = true ∧ t.all (!List.contains ['\t', '\x60', ':', '(', ')'] ·) = true)
    ⟨fun ⟨⟨hfirst, hlast⟩, hne, hstar, hbreak, hplain⟩ => ⟨⟨by simpa using hfirst, by simpa using hlast⟩, hne, hstar,
      by simpa using hbreak, by simpa using hplain⟩, fun h => ⟨⟨by simpa using h.first, by simpa using h.last⟩, h.ne_nil,
      h.star, by simpa using h.unbroken, by simpa using h.plain⟩⟩

instance (s : List Char) : Decidable (Tight s) :=
  decidable_of_iff (s.head?.toList.all (!isBlank ·) = true ∧ s.getLast?.toList.all (!isBlank ·) = true)
    ⟨fun ⟨hfirst, hlast⟩ => ⟨by simpa using hfirst, by simpa using hlast⟩,
      fun h => ⟨by simpa using h.first, by simpa using h.last⟩⟩

instance (t : List Char) : Decidable (IsEnclosed t) :=
  decidable_of_iff (Tight t ∧ t ≠ [] ∧ t.all (!List.contains [':', '\x60', '(', ')', '\n'] ·) = true)
    ⟨fun ⟨htight, hne, hplain⟩ => ⟨htight, hne, by simpa using hplain⟩,
      fun h => ⟨h.toTight, h.ne_nil, by simpa using h.plain⟩⟩

theorem IsKey.tight {n : List Char} (h : IsKey n) : Tight n :=
  ⟨fun c hc => h.notBlank c (List.mem_of_mem_head? hc), fun c hc => h.notBlank c (List.mem_of_getLast? hc)⟩

theorem IsKey.not_mem {n : List Char} (h : IsKey n) (hc : c ∈ [':', '(', '\x60']) : c ∉ n :=
  fun hm => h.plain c hm hc

theorem IsName.key {n : List Char} (h : IsName n) : IsKey n where
  ne_nil := h.ne_nil
  notBlank := h.notBlank
  plain c hc hmem := by
    refine h.plain c hc ?_
    simp only [List.mem_cons, List.not_mem_nil, or_false] at hmem ⊢
    tauto

theorem IsName.not_mem {n : List Char} (h : IsName n) (hc : c ∈ [':', '(', ')', '*', '.', '\x60']) : c ∉ n :=
  fun hm => h.plain c hm hc

theorem IsType.not_mem (h : IsType t) (hc : c ∈ ['\t', '\x60', ':', '(', ')']) : c ∉ t :=
  fun hm => h.plain c hm hc

theorem IsType.enclosed (h : IsType t) : IsEnclosed t where
  toTight := h.toTight
  ne_nil := h.ne_nil
  plain c hc hmem := by
    by_cases hfeed : c = '\n'
    · subst hfeed
      exact absurd (h.unbroken _ hc) (by decide)
    · refine h.plain c hc ?_
      simp only [List.mem_cons, hfeed, List.not_mem_nil, or_false] at hmem ⊢
      tauto

theorem IsEnclosed.not_mem (h : IsEnclosed t) (hc : c ∈ [':', '\x60', '(', ')', '\n']) : c ∉ t :=
  fun hm => h.plain c hm hc

theorem escapeStars_eq (h : s.head? ≠ some '*') : escapeStars s = s := by
  unfold escapeStars
  split <;> simp_all

theorem IsName.head_ne {n : List Char} (h : IsName n) {d : Char} (hd : d ∈ [':', '(', ')', '*', '.', '\x60']) :
    n.head? ≠ some d :=
  fun hh => h.not_mem hd (List.mem_of_mem_head? hh)

theorem parenthesized_append {b : List Char} (ht : Tight t) (hne : t ≠ []) (hfeed : '\n' ∉ t) (hclose : ')' ∉ t)
    (hb : ∀ c ∈ b, isBlank c = true) (s : List Char) : parenthesized (t ++ (b ++ ')' :: s)) = some t := by
  have hshort := shortestBefore_append hne ht.last hfeed hclose hb s
  obtain ⟨c, u, rfl⟩ := List.exists_cons_of_ne_nil hne
  have hc : isBlank c = false := ht.first c rfl
  rw [List.cons_append] at hshort ⊢
  unfold parenthesized
  rw [hc, hshort]
  rfl

theorem IsEnclosed.parenthesized_eq (ht : IsEnclosed t) : parenthesized (t ++ ")".toList) = some t :=
  parenthesized_append ht.toTight ht.ne_nil (ht.not_mem (by decide)) (ht.not_mem (by decide)) (blank_replicate 0) []

theorem nameAndType_append {n : List Char} (hne : n ≠ []) (hblank : ∀ c ∈ n, isBlank c = false) (hopen : '(' ∉ n)
    (htype : parenthesized s = some t) : nameAndType (n ++ (" (".toList ++ s)) = some (n, t) := by
  induction n with
  | nil => exact absurd rfl hne
  | cons c n ih =>
    rw [List.mem_cons, not_or] at hopen
    have hc : (c == '\n') = false := by
      rw [beq_eq_false_iff_ne]
      rintro rfl
      exact absurd (hblank _ (.head _)) (by decide)
    rw [List.cons_append]
    unfold nameAndType
    rw [hc]
    cases n with
    | nil =>
      have hdrop : ([] ++ (" (".toList ++ s)).dropWhile isBlank = '(' :: s := rfl
      simp only [hdrop, htype]
      rfl
    | cons d n =>
      have hrest := ih (by simp) (fun e he => hblank e (.tail _ he)) hopen.2
      have hdrop : (d :: n ++ (" (".toList ++ s)).dropWhile isBlank = d :: (n ++ (" (".toList ++ s)) :=
        List.dropWhile_cons_of_neg (by simp [hblank d (.tail _ (.head _))])
      have hd : d ≠ '(' := fun h => hopen.2 (h ▸ .head _)
      simp only [hdrop, hrest, Bool.false_eq_true, ↓reduceIte]
      split
      · rename_i heq
        split at heq
        · rename_i hcons
          exact absurd (List.cons.inj hcons).1 hd
        · cases heq
      · rfl

theorem typedArgument_append {n : List Char} (hn : IsKey n) (htype : parenthesized s = some t) :
    typedArgument (n ++ (" (".toList ++ s)) = some (n, t) := by
  have hname := nameAndType_append hn.ne_nil hn.notBlank (hn.not_mem (by decide)) htype
  obtain ⟨c, u, rfl⟩ := List.exists_cons_of_ne_nil hn.ne_nil
  have hc : isBlank c = false := hn.notBlank c (.head _)
  rw [List.cons_append] at hname ⊢
  unfold typedArgument
  rw [hc]
  exact hname

section
variable {n : List Char} {l : Line}

def numpyField (q : List Char × List Char) : List Char :=
  q.1 ++ " : ".toList ++ q.2

def googleField (q : List Char × List Char) : List Char :=
  "    ".toList ++ (q.1 ++ " (".toList ++ q.2 ++ ")".toList)

def googleResult (r : List Char) : List Char :=
  "    ".toList ++ (r ++ ":".toList)

theorem not_mem_padded {pad : List Char} (hpad : ∀ c ∈ pad, isBlank c = true) (hc : isBlank c = false) (hn : c ∉ n)
    (hs : c ∉ s) : c ∉ pad ++ (n ++ s) := by
  have hpad' : c ∉ pad := by
    intro hmem
    rw [hpad c hmem] at hc
    cases hc
  simp [hpad', hn, hs]

theorem partitionField_numpyField {pad : List Char} (hpad : ∀ c ∈ pad, isBlank c = true) (hn : IsKey n) (ht : Tight t) :
    partitionField (pad ++ numpyField (n, t)) = ⟨n, true, t⟩ := by
  have hsplit : pad ++ numpyField (n, t) = (pad ++ (n ++ [' '])) ++ ':' :: ([' '] ++ t) := by
    rw [numpyField]
    simp
  have hcolon : ':' ∉ pad ++ (n ++ [' ']) := not_mem_padded hpad (by decide) (hn.not_mem (by decide)) (by decide)
  have hquote : '\x60' ∉ pad ++ (n ++ [' ']) := not_mem_padded hpad (by decide) (hn.not_mem (by decide)) (by decide)
  have hspace : ∀ c ∈ ([' '] ++ t).head?, isBlank c = true := by
    intro c hc
    obtain rfl := Option.some.inj hc
    decide
  rw [hsplit, partitionField_append hcolon hquote hspace, trim_append_of_blank hpad,
    hn.tight.trim_append_blank (t := [' ']) hn.ne_nil (blank_replicate 1)]
  exact congrArg (FieldParts.mk n true) (ht.trim_replicate_append 1)

theorem fieldOf_numpy {pad : List Char} (hpad : ∀ c ∈ pad, isBlank c = true) (hn : IsName n) (ht : Tight t)
    (hne : t ≠ []) (hl : l.text = pad ++ numpyField (n, t)) (preferType : Bool) :
    Read.fieldOf .numpy true preferType l = ⟨some n, ⟨some t, some l.number⟩⟩ := by
  have hparts : partitionField l.text = ⟨n, true, t⟩ := by rw [hl, partitionField_numpyField hpad hn.key ht]
  have hempty : t.isEmpty = false := by simpa using hne
  simp [Read.fieldOf, Read.fieldParts, hparts, escapeStars_eq (hn.head_ne (d := '*') (by decide)), hempty]

/-- A type alone on a line of a numpy section. -/
theorem fieldOf_numpy_type (ht : IsType t) (hl : l.text = t) :
    Read.fieldOf .numpy true true l = ⟨some [], ⟨some t, some l.number⟩⟩ := by
  have hparts : partitionField l.text = ⟨t, false, []⟩ := by
    rw [hl, partitionField_of_not_mem (ht.not_mem (by decide)) (ht.not_mem (by decide)), ht.toTight.trim_eq]
  simp [Read.fieldOf, Read.fieldParts, hparts, escapeStars_eq ht.star]

/-- What follows the name of a google field: its type in parentheses, if there is one. -/
def typeSuffix : Option (List Char) → List Char
  | some t => " (".toList ++ t ++ ")".toList
  | none => []

theorem fieldParts_parenthesized {line : List Char} (hn : IsKey n) (htype : parenthesized s = some t)
    (hbefore : (partitionField line).before = n ++ (" (".toList ++ s)) :
    Read.fieldParts .google true line = (escapeStars n, some t) := by
  simp only [Read.fieldParts, hbefore, ↓reduceIte, typedArgument_append hn htype]

theorem fieldParts_google {line : List Char} {type : Option (List Char)} (hn : IsKey n) (ht : ∀ t ∈ type, IsEnclosed t)
    (hbefore : (partitionField line).before = n ++ typeSuffix type) :
    Read.fieldParts .google true line = (escapeStars n, type) := by
  cases type with
  | none =>
    rw [typeSuffix, List.append_nil] at hbefore
    simp only [Read.fieldParts, hbefore, ↓reduceIte, typedArgument_of_not_mem (hn.not_mem (c := '(') (by decide))]
  | some t =>
    rw [typeSuffix, List.append_assoc] at hbefore
    exact fieldParts_parenthesized hn (ht t rfl).parenthesized_eq hbefore

/-- A google field is its name and type, whatever stands after its colon. -/
theorem fieldOf_google {type : Option (List Char)} (hn : IsName n) (ht : ∀ t ∈ type, IsEnclosed t)
    (hbefore : (partitionField l.text).before = n ++ typeSuffix type) :
    Read.fieldOf .google true false l = ⟨some n, ⟨type, some l.number⟩⟩ := by
  rw [Read.fieldOf, fieldParts_google hn.key ht hbefore, escapeStars_eq (hn.head_ne (d := '*') (by decide))]
  rfl

theorem tight_googleHead {type : Option (List Char)} (hn : IsKey n) : Tight (n ++ typeSuffix type) := by
  cases type with
  | none =>
    rw [typeSuffix, List.append_nil]
    exact hn.tight
  | some t =>
    refine ⟨fun c hc => hn.tight.first c ?_, fun c hc => ?_⟩
    · obtain ⟨d, u, rfl⟩ := List.exists_cons_of_ne_nil hn.ne_nil
      exact hc
    · rw [typeSuffix, ← List.append_assoc, ← List.append_assoc, show ")".toList = [')'] from rfl,
        List.getLast?_concat] at hc
      obtain rfl := Option.some.inj hc
      decide

theorem not_mem_typeSuffix {type : Option (List Char)} (ht : ∀ t ∈ type, IsEnclosed t) (hc : c = ':' ∨ c = '\x60') :
    c ∉ typeSuffix type := by
  cases type with
  | none => exact List.not_mem_nil
  | some t =>
    have ht' : c ∉ t := (ht t rfl).not_mem (by rcases hc with rfl | rfl <;> decide)
    simp only [typeSuffix, List.mem_append, ht', or_false]
    rcases hc with rfl | rfl <;> decide

/-- Neither a colon nor a backquote stands in front of the colon of a google field. -/
theorem not_mem_googleHead {pad : List Char} {type : Option (List Char)} (hpad : ∀ c ∈ pad, isBlank c = true)
    (hn : IsKey n) (ht : ∀ t ∈ type, IsEnclosed t) (hc : c = ':' ∨ c = '\x60') :
    c ∉ pad ++ (n ++ typeSuffix type) := by
  refine not_mem_padded hpad ?_ (hn.not_mem ?_) (not_mem_typeSuffix ht hc)
  · rcases hc with rfl | rfl <;> decide
  · rcases hc with rfl | rfl <;> decide

theorem before_head {pad desc : List Char} (hpad : ∀ c ∈ pad, isBlank c = true) (hs : Tight s) (hcolon : ':' ∉ pad ++ s)
    (hquote : '\x60' ∉ pad ++ s) (hdesc : ∀ c ∈ desc.head?, isBlank c = true) :
    (partitionField ((pad ++ s) ++ ':' :: desc)).before = s := by
  rw [partitionField_append hcolon hquote hdesc, trim_append_of_blank hpad]
  exact hs.trim_eq

theorem before_googleHead {pad desc : List Char} {type : Option (List Char)} (hpad : ∀ c ∈ pad, isBlank c = true)
    (hn : IsKey n) (ht : ∀ t ∈ type, IsEnclosed t) (hdesc : ∀ c ∈ desc.head?, isBlank c = true) :
    (partitionField ((pad ++ (n ++ typeSuffix type)) ++ ':' :: desc)).before = n ++ typeSuffix type :=
  before_head hpad (tight_googleHead hn) (not_mem_googleHead hpad hn ht (.inl rfl))
    (not_mem_googleHead hpad hn ht (.inr rfl)) hdesc

theorem before_googleField (hn : IsName n) (ht : IsType t) :
    (partitionField (googleField (n, t))).before = n ++ typeSuffix (some t) := by
  have hpad := blank_replicate 4
  have htype : ∀ t' ∈ some t, IsEnclosed t' := fun t' ht' => Option.some.inj ht' ▸ ht.enclosed
  have hfield : googleField (n, t) = List.replicate 4 ' ' ++ (n ++ typeSuffix (some t)) := by
    simp [googleField, typeSuffix, List.replicate]
  rw [hfield, partitionField_of_not_mem (not_mem_googleHead hpad hn.key htype (.inl rfl))
    (not_mem_googleHead hpad hn.key htype (.inr rfl))]
  exact (tight_googleHead hn.key).trim_replicate_append 4

theorem resultOf_google (ht : IsType t) (hl : l.text = googleResult t) :
    Read.resultOf (dedent false [l]) = [⟨some t, some l.number⟩] := by
  have hindent : minIndent [l.text] = 4 := by
    obtain ⟨c, u, rfl⟩ := List.exists_cons_of_ne_nil ht.ne_nil
    have hc : isBlank c = false := ht.first c rfl
    have hspace : isBlank ' ' = true := by decide
    simp [hl, googleResult, minIndent, indentOf, hc, hspace]
  have hdrop : l.text.drop 4 = t ++ ':' :: [] := by
    rw [hl]
    rfl
  have hparts : partitionField (l.text.drop 4) = ⟨t, true, []⟩ := by
    rw [hdrop, partitionField_append (ht.not_mem (by decide)) (ht.not_mem (by decide)) (by simp), ht.toTight.trim_eq]
    rfl
  have hempty : t.isEmpty = false := by simpa using ht.ne_nil
  simp [Read.resultOf, dedent, hindent, hparts, typedArgument_of_not_mem (ht.not_mem (c := '(') (by decide)), hempty]

end

end Docstring
end TypeComments
