import TypeComments.Proofs.Concatenation
import TypeComments.Proofs.IndentedText
import TypeComments.Proofs.LineShape

/-!
# Sections whose fields stand on one line each

In a section whose lines all have the same indentation and are no headings, each line is a field of its own
(`Scope.Flat.fields_eq`), up to a blank line after the last one. So the report of a heading over such lines lists
what each of them says (`report_numpy_params` and the theorems after it).
-/

namespace TypeComments.Docstring
variable {style : Style} {directives : List (List Char)} {sc : Scope} {l b H U : Line} {F rest : List Line} {k : Nat}

/-! ### Lines that go on with a section -/

namespace Scope

/-- A line that is indented enough and is no heading does not end its section. -/
theorem not_ends_of_indented (sc : Scope) (hl : l.isEmpty = false) (hindent : isIndented sc.indent l.text = true)
    (hh : headingAt sc.style sc.directives (l :: rest) = false) : sc.ends (l :: rest) = false := by
  have hl' : l.text.isEmpty = false := hl
  simp [ends, breakAt, hh, hl', hindent, Break.ends]

theorem not_ends_blank (sc : Scope) (hb : b.isEmpty = true) (hrest : StartsFilled rest) :
    sc.ends (b :: rest) = false := by
  have hb' : b.text.isEmpty = true := hb
  have hnext : (rest.head?.map (·.text.isEmpty)).getD false = false := by
    cases rest with
    | nil => rfl
    | cons l rest => exact hrest.head
  rw [ends, breakAt, not_heading_of_indent (.inl hb), hb', hnext, Bool.and_false]
  cases sc.style <;> cases sc.inSection <;> rfl

end Scope

/-! ### Indented lines -/

/-- The line is indented by `k` spaces. -/
def Line.AtIndent (k : Nat) (l : Line) : Prop :=
  ∃ c s, l.text = List.replicate k ' ' ++ c :: s ∧ isBlank c = false

namespace Line.AtIndent
variable (h : l.AtIndent k)
include h

theorem isEmpty_eq : l.isEmpty = false := by
  obtain ⟨c, s, hl, -⟩ := h
  simp [Line.isEmpty, hl]

theorem indentOf_eq : indentOf l.text = k := by
  obtain ⟨c, s, hl, hc⟩ := h
  rw [hl, indentOf_replicate]
  simp [indentOf, hc]

theorem isIndented_eq (n : Int) : isIndented n l.text = decide (n ≤ k) := by
  have hindent := h.indentOf_eq
  obtain ⟨c, s, hl, hc⟩ := h
  rw [Docstring.isIndented_eq (by simp [hl, hc]), hindent]

theorem not_heading (hk : 0 < k) : headingAt style directives (l :: rest) = false :=
  not_heading_of_indent (.inr (h.indentOf_eq ▸ hk))

theorem not_ends (hk : sc.indent ≤ k) (hh : headingAt sc.style sc.directives (l :: rest) = false) :
    sc.ends (l :: rest) = false :=
  sc.not_ends_of_indented h.isEmpty_eq (by rw [h.isIndented_eq, decide_eq_true hk]) hh

end Line.AtIndent

theorem indentAhead_cons (h : l.AtIndent k) (rest : List Line) : indentAhead (l :: rest) = k := by
  have hempty : l.text.isEmpty = false := h.isEmpty_eq
  simp [indentAhead, hempty, h.indentOf_eq]

theorem not_opensDirective {kind : SectionKind} {heading : List Char}
    (hkind : sectionKind? (lower heading) = some kind) : opensDirective heading = false := by
  rw [← opensDirective_lower]
  exact not_opensDirective_of_sectionName (by simp [hkind])

namespace Scope

/-- The lines `F` have the same indentation, none of them ends the section, and what follows belongs to the
last of them. -/
structure Flat (sc : Scope) (k : Nat) (F B : List Line) : Prop where
  ne_nil : F ≠ []
  atIndent : ∀ l ∈ F, l.AtIndent k
  goesOn : ∀ l ∈ F, ∀ rest, l :: rest <:+ F ++ B → sc.ends (l :: rest) = false
  after : dropAhead (sc.below (k + 1)) B = []

theorem Flat.tail {m : Line} {B : List Line} (h : sc.Flat k (l :: m :: F) B) : sc.Flat k (m :: F) B where
  ne_nil := by simp
  atIndent x hx := h.atIndent x (.tail _ hx)
  goesOn x hx rest hrest := h.goesOn x (.tail _ hx) rest (hrest.trans (List.suffix_cons l _))
  after := h.after

theorem Flat.fields_eq {B : List Line} (h : sc.Flat k F B) : sc.fields (F ++ B) = (F, []) := by
  induction F with
  | nil => exact absurd rfl h.ne_nil
  | cons l F ih =>
    have hends : sc.ends (l :: (F ++ B)) = false := h.goesOn l (.head _) _ List.suffix_rfl
    rw [List.cons_append, fields_cons, hends, (h.atIndent l (.head _)).indentOf_eq]
    cases F with
    | nil => simp [h.after, fields_nil]
    | cons m F =>
      have hm := h.atIndent m (.tail _ (.head _))
      have hstop : dropAhead (sc.below (k + 1)) (m :: F ++ B) = m :: F ++ B := by
        have hdeep : isIndented (k + 1) m.text = false := by
          rw [hm.isIndented_eq, decide_eq_false_iff_not]
          omega
        have hbelow : sc.below (k + 1) (m :: (F ++ B)) = false := by
          simp [below, hm.isEmpty_eq, hdeep]
        rw [List.cons_append, dropAhead, hbelow]
        rfl
      rw [hstop, ih h.tail]
      rfl

theorem dropAhead_blank (hb : b.isEmpty = true) (indent : Int) : dropAhead (sc.below indent) [b] = [] := by
  have hends := sc.not_ends_blank hb (show StartsFilled [] from rfl)
  have hbelow : sc.below indent [b] = true := by simp [below, hends, hb]
  rw [dropAhead, hbelow]
  rfl

theorem Flat.dropWhile_eq {B : List Line} (h : sc.Flat k F B) : (F ++ B).dropWhile Line.isEmpty = F ++ B := by
  cases F with
  | nil => exact absurd rfl h.ne_nil
  | cons l F => exact List.dropWhile_cons_of_neg (by simp [(h.atIndent l (.head _)).isEmpty_eq])

theorem Flat.params_eq {B : List Line} (h : sc.Flat k F B) (preferType : Bool) : sc.params preferType (F ++ B) =
    ((F.map (Read.fieldOf sc.style true preferType)).filter Read.isMeaningful, []) := by
  simp only [params, h.dropWhile_eq, h.fields_eq]

theorem Flat.indentAhead_eq {B : List Line} (h : sc.Flat k F B) : indentAhead (F ++ B) = k := by
  cases F with
  | nil => exact absurd rfl h.ne_nil
  | cons l F => exact indentAhead_cons (h.atIndent l (.head _)) (F ++ B)

theorem found_params {heading : List Char} (hkind : sectionKind? (lower heading) = some .params) (ls : List Line) :
    sc.found heading ls = (.params (sc.params false ls).1, (sc.params false ls).2) := by
  rw [found, not_opensDirective hkind, hkind]
  rfl

theorem found_returns {heading : List Char} (hkind : sectionKind? (lower heading) = some .returns) (ls : List Line) :
    sc.found heading ls = (.returns (sc.results ls).1, (sc.results ls).2) := by
  rw [found, not_opensDirective hkind, hkind]
  rfl

end Scope

/-! ### Headings over flat sections -/

theorem report_section (finding : Finding) (hH : H.isEmpty = false)
    (hturn : turn style style.directives H rest = (finding, [])) : style.report (H :: rest) = finding.addTo .empty := by
  rw [Style.report, List.dropWhile_cons_of_neg (by simp [hH]), findings_cons, hturn, findings_nil]
  rfl

theorem heading_numpy {kind : SectionKind} (hkind : sectionKind? (lower H.text) = some kind)
    (hU : isUnderline U.text = true) : headingAt .numpy directives (H :: U :: rest) = true := by
  simp [headingAt, hkind, hU]

theorem turn_numpy {kind : SectionKind} (hkind : sectionKind? (lower H.text) = some kind)
    (hU : isUnderline U.text = true) : turn .numpy directives H (U :: rest) =
      Scope.found ⟨.numpy, directives, true, indentAhead rest⟩ H.text rest := by
  simp [turn, heading_numpy hkind hU, Style.cutHeading, not_opensDirective hkind]

theorem heading_google {kind : SectionKind} (hcolon : isColonHeading (lower H.text) = true)
    (hkind : sectionKind? (lower (trimBy (· == ':') H.text)) = some kind)
    (hindent : indentOf H.text < indentAhead rest) : headingAt .google directives (H :: rest) = true := by
  have hsome : (sectionKind? (trimBy (· == ':') (lower H.text))).isSome = true := by
    simp [lower_trimColons, hkind]
  have hindent' : indentOf (lower H.text) < indentAhead rest := by
    rwa [lower, indentOf_lowerFrom]
  simp [headingAt, hcolon, hsome, hindent']

theorem turn_google {kind : SectionKind} (hcolon : isColonHeading (lower H.text) = true)
    (hkind : sectionKind? (lower (trimBy (· == ':') H.text)) = some kind)
    (hindent : indentOf H.text < indentAhead rest) : turn .google directives H rest =
      Scope.found ⟨.google, directives, true, indentAhead rest⟩ (trimBy (· == ':') H.text) rest := by
  simp [turn, heading_google hcolon hkind hindent, Style.cutHeading, hkind]

theorem isEmpty_of_kind {kind : SectionKind} (hkind : sectionKind? (lower H.text) = some kind) :
    H.isEmpty = false := by
  obtain ⟨c, t, ht, -⟩ := head_of_sectionName (s := H.text) (by simp [hkind])
  simp [Line.isEmpty, ht]

theorem isEmpty_of_colon (hcolon : isColonHeading (lower H.text) = true) : H.isEmpty = false := by
  obtain ⟨c, t, ht, -⟩ := head_of_colonHeading hcolon
  rw [Line.isEmpty, ← isEmpty_lower, ht]
  rfl

section
variable {B : List Line}

theorem report_numpy_params (hkind : sectionKind? (lower H.text) = some .params) (hU : isUnderline U.text = true)
    (h : Scope.Flat ⟨.numpy, Style.numpy.directives, true, (0 : Nat)⟩ 0 F B) : Style.numpy.report (H :: U :: (F ++ B)) =
      ⟨some ((F.map (Read.fieldOf .numpy true false)).filter Read.isMeaningful), none, none⟩ := by
  refine report_section (.params _) (isEmpty_of_kind hkind) ?_
  rw [turn_numpy hkind hU, h.indentAhead_eq, Scope.found_params hkind, h.params_eq]

theorem report_numpy_returns (hkind : sectionKind? (lower H.text) = some .returns) (hU : isUnderline U.text = true)
    (h : Scope.Flat ⟨.numpy, Style.numpy.directives, true, (0 : Nat)⟩ 0 F B) : Style.numpy.report (H :: U :: (F ++ B)) =
      ⟨none, some (((F.map (Read.fieldOf .numpy true true)).filter Read.isMeaningful).map (·.entry)), none⟩ := by
  refine report_section (.returns _) (isEmpty_of_kind hkind) ?_
  rw [turn_numpy hkind hU, h.indentAhead_eq, Scope.found_returns hkind, Scope.results, h.params_eq]

theorem report_google_params (hcolon : isColonHeading (lower H.text) = true)
    (hkind : sectionKind? (lower (trimBy (· == ':') H.text)) = some .params) (hH : indentOf H.text < k)
    (h : Scope.Flat ⟨.google, Style.google.directives, true, k⟩ k F B) : Style.google.report (H :: (F ++ B)) =
      ⟨some ((F.map (Read.fieldOf .google true false)).filter Read.isMeaningful), none, none⟩ := by
  refine report_section (.params _) (isEmpty_of_colon hcolon) ?_
  rw [turn_google hcolon hkind (h.indentAhead_eq ▸ hH), h.indentAhead_eq, Scope.found_params hkind, h.params_eq]

/-- The lines of a google result section are read as a whole. -/
theorem report_google_returns (hcolon : isColonHeading (lower H.text) = true)
    (hkind : sectionKind? (lower (trimBy (· == ':') H.text)) = some .returns) (hH : indentOf H.text < k)
    (hl : l.AtIndent k) : Style.google.report [H, l] = ⟨none, some (Read.resultOf (dedent false [l])), none⟩ := by
  have hindent := indentAhead_cons hl []
  have hk : 0 < k := Nat.lt_of_le_of_lt (Nat.zero_le _) hH
  have hends : Scope.ends ⟨.google, Style.google.directives, true, k⟩ [l] = false :=
    hl.not_ends (Int.le_refl _) (hl.not_heading hk)
  have hbody : Scope.body ⟨.google, Style.google.directives, true, k⟩ [l] = ([l], []) := by
    simp [Scope.body, hl.isEmpty_eq, takeAhead, dropAhead, hends]
  refine report_section (.returns _) (isEmpty_of_colon hcolon) ?_
  rw [turn_google hcolon hkind (hindent ▸ hH), hindent, Scope.found_returns hkind, Scope.results, hbody]

end

end TypeComments.Docstring
