import Mathlib.Data.List.Infix
import TypeComments.Proofs.DescribedFields

/-!
# Types in parentheses that hold parentheses

The type of a google field is what stands between the first two parentheses on its line that fit, so it ends at the
first closing one, whether that is its own or not. Of a type whose parentheses are balanced the reader takes the part in
front of that sign (`parenthesized_nested`), which is the whole type if and only if the type holds none. A numpy type
reaches to the end of its line and is always whole.
-/

namespace TypeComments.Docstring
variable {n s t pad : List Char}

/-! ### Balanced parentheses -/

/-- A type whose parentheses are balanced: no blank at either end, no line feed, colon or backquote, as many closing
parentheses as opening ones, and no more of them in any start of the type. -/
structure IsNested (t : List Char) : Prop extends Tight t where
  ne_nil : t ≠ []
  plain : ∀ c ∈ t, c ∉ [':', '\x60', '\n']
  closed : t.count '(' = t.count ')'
  opened : ∀ p ∈ t.inits, p.count ')' ≤ p.count '('

instance (t : List Char) : Decidable (IsNested t) :=
  decidable_of_iff (Tight t ∧ t ≠ [] ∧ t.all (!List.contains [':', '\x60', '\n'] ·) = true ∧ t.count '(' = t.count ')' ∧
      t.inits.all (fun p => p.count ')' ≤ p.count '(') = true)
    ⟨fun ⟨htight, hne, hplain, hclosed, hopened⟩ => ⟨htight, hne, by simpa using hplain, hclosed,
      fun p hp => of_decide_eq_true (List.all_eq_true.1 hopened p hp)⟩,
      fun h => ⟨h.toTight, h.ne_nil, by simpa using h.plain, h.closed,
        List.all_eq_true.2 fun p hp => decide_eq_true (h.opened p hp)⟩⟩

namespace IsNested

theorem not_mem (h : IsNested t) {c : Char} (hc : c ∈ [':', '\x60', '\n']) : c ∉ t :=
  fun hm => h.plain c hm hc

theorem open_mem {v : List Char} (h : IsNested t) (ht : t = s ++ ')' :: v) : '(' ∈ s := by
  have hstart : s ++ [')'] ∈ t.inits := by
    rw [List.mem_inits, ht]
    exact ⟨v, by simp⟩
  have hcount := h.opened _ hstart
  simp only [List.count_append, List.count_singleton] at hcount
  refine List.count_pos_iff.1 (Nat.lt_of_lt_of_le (Nat.succ_pos (s.count ')')) ?_)
  simpa using hcount

theorem open_mem_iff (h : IsNested t) : '(' ∈ t ↔ ')' ∈ t := by
  rw [← List.count_pos_iff, ← List.count_pos_iff, h.closed]

end IsNested

/-! ### The part in front of the first closing parenthesis -/

/-- A text up to its first closing parenthesis, without the blanks in front of that. -/
def untilClosed (t : List Char) : List Char :=
  trimRight (t.takeWhile (· != ')'))

theorem exists_untilClosed (t : List Char) :
    ∃ b v, t ++ ")".toList = untilClosed t ++ (b ++ ')' :: v) ∧ ∀ c ∈ b, isBlank c = true := by
  obtain ⟨b, hb, hblank⟩ := exists_trimRight_append (t.takeWhile (· != ')'))
  have hsplit := List.takeWhile_append_dropWhile (p := (· != ')')) (l := t)
  cases hd : t.dropWhile (· != ')') with
  | nil =>
    rw [hd, List.append_nil] at hsplit
    refine ⟨b, [], ?_, hblank⟩
    rw [← List.append_assoc, untilClosed, ← hb, hsplit]
    rfl
  | cons d v =>
    have hfirst := List.head?_dropWhile_not (· != ')') t
    rw [hd] at hfirst
    obtain rfl : d = ')' := by simpa using hfirst
    refine ⟨b, v ++ ")".toList, ?_, hblank⟩
    rw [← List.append_assoc, untilClosed, ← hb, ← List.cons_append, ← List.append_assoc, ← hd, hsplit]

theorem close_not_mem_untilClosed (t : List Char) : ')' ∉ untilClosed t := by
  intro hc
  have hmem := (trimRightBy_isPrefix isBlank _).subset hc
  simpa using List.all_eq_true.1 List.all_takeWhile _ hmem

theorem untilClosed_isPrefix (t : List Char) : untilClosed t <+: t :=
  (trimRightBy_isPrefix isBlank _).trans (List.takeWhile_prefix _)

namespace IsNested

/-- A type with balanced parentheses does not start with a closing one, so something stands in front of the first. -/
theorem untilClosed_cons (h : IsNested t) : ∃ c s, untilClosed t = c :: s ∧ isBlank c = false := by
  obtain ⟨c, u, rfl⟩ := List.exists_cons_of_ne_nil h.ne_nil
  have hc : isBlank c = false := h.first c rfl
  have hclose : c ≠ ')' := by
    rintro rfl
    exact absurd (h.open_mem (s := []) rfl) List.not_mem_nil
  refine ⟨c, untilClosed u, ?_, hc⟩
  rw [untilClosed, List.takeWhile_cons, if_pos (by simpa using hclose)]
  exact trimRight_append_cons hc [] _

/-- The reader takes a type up to its first closing parenthesis. -/
theorem parenthesized_nested (h : IsNested t) : parenthesized (t ++ ")".toList) = some (untilClosed t) := by
  obtain ⟨c, s, hs, hc⟩ := h.untilClosed_cons
  obtain ⟨b, v, hsplit, hb⟩ := exists_untilClosed t
  have htight : Tight (untilClosed t) := by
    refine ⟨fun d hd => ?_, Tight.last_trimRight _⟩
    rw [hs] at hd
    exact Option.some.inj hd ▸ hc
  have hfeed : '\n' ∉ untilClosed t := fun hn => h.not_mem (by decide) ((untilClosed_isPrefix t).subset hn)
  rw [hsplit]
  exact parenthesized_append htight (by simp [hs]) hfeed (close_not_mem_untilClosed t) hb v

/-- That is the whole type if there is no parenthesis in it, and only then. -/
theorem untilClosed_eq_iff (h : IsNested t) : untilClosed t = t ↔ '(' ∉ t ∧ ')' ∉ t := by
  rw [h.open_mem_iff, and_self]
  constructor
  · intro heq
    exact heq ▸ close_not_mem_untilClosed t
  · intro hclose
    have hall : t.takeWhile (· != ')') = t := by
      rw [List.takeWhile_eq_self_iff]
      intro c hc
      have hne : c ≠ ')' := fun heq => hclose (heq ▸ hc)
      simpa using hne
    rw [untilClosed, hall]
    exact Tight.trimRight_eq h.last

end IsNested

/-! ### Taking a field -/

/-- A field that documents a type, on one line. -/
def typedLine (style : Style) (name type desc : List Char) : List Char :=
  match style with
  | .google => (name ++ typeSuffix (some type)) ++ ": ".toList ++ desc
  | .numpy => numpyField (name, type)

/-- What a reader of this style takes of the type. -/
def takenType : Style → List Char → List Char
  | .google, type => untilClosed type
  | .numpy, type => type

theorem fieldOf_typedLine (hpad : ∀ c ∈ pad, isBlank c = true) (hn : IsName n) (ht : IsNested t) (style : Style)
    (desc : List Char) (k : Nat) :
    Read.fieldOf style true false (Line.ofIndexed (k, pad ++ typedLine style n t desc)) =
      ⟨some n, ⟨some (takenType style t), some ((k + 2 : Nat) : Int)⟩⟩ := by
  cases style with
  | numpy =>
    refine fieldOf_numpy hpad hn ht.toTight ht.ne_nil (Tight.trimRight_eq ?_) false
    rw [typedLine, numpyField, ← List.append_assoc, List.getLast?_append_of_ne_nil _ ht.ne_nil]
    exact ht.last
  | google =>
    have htext : trimRight (pad ++ typedLine .google n t desc) =
        (pad ++ (n ++ typeSuffix (some t))) ++ ':' :: trimRight (' ' :: desc) := by
      rw [← trimRight_append_cons (by decide), typedLine]
      simp
    have hsign : ∀ {c}, c = ':' ∨ c = '\x60' → c ∉ pad ++ (n ++ typeSuffix (some t)) := by
      rintro c hc
      have htype : c ∉ t := ht.not_mem (by rcases hc with rfl | rfl <;> decide)
      refine not_mem_padded hpad ?_ (hn.not_mem ?_) ?_
      · rcases hc with rfl | rfl <;> decide
      · rcases hc with rfl | rfl <;> decide
      · rcases hc with rfl | rfl <;> simp [typeSuffix, htype]
    have hbefore := before_head hpad (tight_googleHead hn.key) (hsign (.inl rfl)) (hsign (.inr rfl))
      (head?_trimRight_space desc)
    rw [← htext, typeSuffix, List.append_assoc] at hbefore
    rw [Read.fieldOf, Line.ofIndexed, fieldParts_parenthesized hn.key ht.parenthesized_nested hbefore,
      escapeStars_eq (hn.head_ne (d := '*') (by decide))]
    rfl

/-- A reader in front of a field with a name and a type whose parentheses are balanced takes the name and, in google
style, the type up to its first closing parenthesis, in numpy style the whole type. So a google type is taken whole if
and only if there is no parenthesis in it. -/
theorem takeField_typedLine {r : Reader} {rest : List Line} {k : Nat} (hr : r.Ready)
    (hpad : ∀ c ∈ pad, isBlank c = true) (hn : IsName n) (ht : IsNested t) (desc : List Char)
    (hahead : r.ahead = Line.ofIndexed (k, pad ++ typedLine r.style n t desc) :: rest) :
    (∃ r', (Read.takeField true false).run r =
        (.ok ⟨some n, ⟨some (takenType r.style t), some ((k + 2 : Nat) : Int)⟩⟩, r')) ∧
      (takenType r.style t = t ↔ r.style = .numpy ∨ '(' ∉ t ∧ ')' ∉ t) := by
  constructor
  · obtain ⟨r', ls, hruns, -⟩ := takeField_runs hr hahead false
    rw [fieldOf_typedLine hpad hn ht] at hruns
    exact ⟨r', hruns.run⟩
  · cases r.style with
    | google => simpa [takenType] using ht.untilClosed_eq_iff
    | numpy => simp [takenType]

/-- The empty tuple in both styles. -/
theorem takeField_empty_tuple :
    IsNested "Tuple[()]".toList ∧
      (∃ r', (Read.takeField true false).run (Reader.ofLines .google ["  x (Tuple[()]): d".toList]) =
        (.ok ⟨some "x".toList, ⟨some "Tuple[(".toList, some 2⟩⟩, r')) ∧
      ∃ r', (Read.takeField true false).run (Reader.ofLines .numpy ["x : Tuple[()]".toList]) =
        (.ok ⟨some "x".toList, ⟨some "Tuple[()]".toList, some 2⟩⟩, r') := by
  have hname : IsName "x".toList := by decide
  have htype : IsNested "Tuple[()]".toList := by decide
  obtain ⟨hgoogle, hahead⟩ := Reader.ready_ofLines .google ["  x (Tuple[()]): d".toList]
  obtain ⟨hnumpy, hahead'⟩ := Reader.ready_ofLines .numpy ["x : Tuple[()]".toList]
  exact ⟨htype, (takeField_typedLine (k := 0) hgoogle (blank_replicate 2) hname htype "d".toList hahead).1,
    (takeField_typedLine (k := 0) hnumpy (blank_replicate 0) hname htype [] hahead').1⟩

/-- A section that documents the empty tuple gives a type that is cut short. -/
theorem empty_tuple_cut_short :
    Style.google.parse ["Args:".toList, "  x (Tuple[()]): d".toList] =
      .ok ⟨some [⟨some "x".toList, ⟨some "Tuple[(".toList, some 3⟩⟩], none, none⟩ := by
  decide +kernel

end TypeComments.Docstring
