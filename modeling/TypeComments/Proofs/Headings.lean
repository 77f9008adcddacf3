import TypeComments.Docstring.Reader
import TypeComments.Proofs.LowerCase

/-!
# Headings

A heading is recognised by `headingAt` in lower case and taken apart as it was written. What it is looked
up by names a section or opens a directive in either case (`headingAt_google`, `headingAt_numpy`). A
heading is flush: it is not blank, not indented, and no underline (`headingAt_flush`).
-/

namespace TypeComments.Docstring
variable {style : Style} {directives : List (List Char)} {l : Line} {rest : List Line}

/-! ### Section names -/

/-- What holds of every section name in the table holds of every text that names a section. -/
theorem sectionName_all {p : List Char → Bool} (hp : sectionNames.all (fun q => p q.1) = true)
    {name : List Char} (h : (sectionKind? name).isSome = true) : p name = true := by
  obtain ⟨kind, hkind⟩ := Option.isSome_iff_exists.1 h
  obtain ⟨front, back, hnames, -⟩ := List.lookup_eq_some_iff.1 hkind
  exact List.all_eq_true.1 hp (name, kind) (by simp [hnames])

/-- The characters of an underline. -/
def isMark (c : Char) : Bool :=
  "=-\x60:'\"~^_*+#<>".toList.contains c

/-- A section name starts with a character that is neither a sign nor a mark. -/
theorem sectionName_head {name : List Char} (h : (sectionKind? name).isSome = true) :
    ∃ c t, name = c :: t ∧ isSign c = false ∧ isMark c = false := by
  have hall : name.head?.any (fun c => !isSign c && !isMark c) = true :=
    sectionName_all (p := fun s => s.head?.any (fun c => !isSign c && !isMark c)) (by decide +kernel) h
  cases name with
  | nil => simp at hall
  | cons c t =>
    simp only [List.head?_cons, Option.any_some, Bool.and_eq_true, Bool.not_eq_true'] at hall
    exact ⟨c, t, rfl, hall⟩

theorem not_opensDirective_of_sectionName {name : List Char} (h : (sectionKind? name).isSome = true) :
    opensDirective name = false := by
  obtain ⟨c, t, rfl, hc, -⟩ := sectionName_head h
  refine Bool.eq_false_iff.2 fun hd => ?_
  obtain ⟨rest, hr, -⟩ := opensDirective_iff.1 hd
  rw [(List.cons.inj hr).1] at hc
  exact absurd hc (by decide)

/-! ### What a heading is looked up by -/

theorem opensDirective_of_heading {s : List Char} (h : isDirectiveHeading directives (lower s) = true) :
    opensDirective s = true := by
  rw [isDirectiveHeading, Bool.and_eq_true, opensDirective_lower] at h
  exact h.1

/-- A google heading: a section name and a colon, or a directive. -/
theorem headingAt_google (h : headingAt .google directives (l :: rest) = true) :
    (isColonHeading (lower l.text) = true ∧
        (sectionKind? (lower (trimBy (· == ':') l.text))).isSome = true ∧
        indentOf l.text < indentAhead rest) ∨ isDirectiveHeading directives (lower l.text) = true := by
  simp only [headingAt] at h
  split at h
  · rename_i hs
    rw [Bool.and_eq_true, lower_trimColons] at hs
    rw [decide_eq_true_eq, lower, indentOf_lowerFrom] at h
    exact .inl ⟨hs.1, hs.2, h⟩
  · exact .inr h

/-- A numpy heading: a section name over an underline, or a directive. -/
theorem headingAt_numpy (h : headingAt .numpy directives (l :: rest) = true) :
    ((sectionKind? (lower l.text)).isSome = true ∧ ∃ u rest', rest = u :: rest' ∧ isUnderline u.text = true) ∨
      opensDirective l.text = true := by
  simp only [headingAt] at h
  split at h
  · rename_i hs
    exact .inl ⟨hs, _, _, rfl, h⟩
  · exact .inr (opensDirective_of_heading h)

/-! ### Headings are flush -/

/-- What lower case starts with, if that is no sign, is the image of a character that is none. -/
theorem head_of_lower {s t : List Char} {d : Char} (h : lower s = d :: t) (hd : isSign d = false) :
    ∃ c rest, s = c :: rest ∧ isSign c = false ∧ (c.toNat < 128 → d = c.toLower) := by
  cases s with
  | nil => simp [lower, lowerFrom] at h
  | cons c rest =>
    refine ⟨c, rest, rfl, Bool.eq_false_iff.2 fun hc => ?_, fun hc => ?_⟩
    · rw [lower, lowerFrom_cons, lowerImage_of_sign hc, List.singleton_append, List.cons.injEq] at h
      rw [h.1, hd] at hc
      simp at hc
    · have h1 : c ≠ '\u0130' := by rintro rfl; revert hc; decide
      have h2 : c ≠ '\u03a3' := by rintro rfl; revert hc; decide
      have himage : lowerImage [] c rest = [c.toLower] := by
        rw [lowerImage, if_neg (by simpa using h1), if_neg (by simpa using h2), if_pos hc]
      rw [lower, lowerFrom_cons, himage, List.singleton_append, List.cons.injEq] at h
      exact h.1.symm

theorem isMark_ascii : "=-\x60:'\"~^_*+#<>".toList.all
    (fun c => decide (c.toNat < 128) && c.toLower == c) = true := by
  decide

theorem isUnderline_eq (s : List Char) : isUnderline s =
    (decide (2 ≤ (s.takeWhile isMark).length) && (s.drop (s.takeWhile isMark).length).all isBlank) := rfl

theorem isUnderline_head {c : Char} {s : List Char} (h : isUnderline (c :: s) = true) : isMark c = true := by
  cases hc : isMark c with
  | true => rfl
  | false => simp [isUnderline_eq, hc] at h

/-- A text whose lower case names a section starts with a character that is neither a sign nor a mark. -/
theorem head_of_sectionName {s : List Char} (h : (sectionKind? (lower s)).isSome = true) :
    ∃ c rest, s = c :: rest ∧ isSign c = false ∧ isMark c = false := by
  obtain ⟨d, t, hd, hsign, hmark⟩ := sectionName_head h
  obtain ⟨c, rest, hs, hc, hlow⟩ := head_of_lower hd hsign
  refine ⟨c, rest, hs, hc, Bool.eq_false_iff.2 fun hm => ?_⟩
  have hascii := List.all_eq_true.1 isMark_ascii c (List.contains_iff_mem.1 hm)
  rw [Bool.and_eq_true, decide_eq_true_eq, beq_iff_eq] at hascii
  rw [hlow hascii.1, hascii.2, hm] at hmark
  simp at hmark

theorem head_of_colonHeading {s : List Char} (h : isColonHeading s = true) :
    ∃ c t, s = c :: t ∧ c ≠ ':' := by
  cases s with
  | nil => simp [isColonHeading] at h
  | cons c t =>
    refine ⟨c, t, rfl, ?_⟩
    rintro rfl
    have h1 : isBlank ':' = false := by decide
    have h2 : isWord ':' = false := by decide +kernel
    simp [isColonHeading, h1, h2] at h

/-- A heading starts with a character that is not blank, and is no underline. -/
theorem headingAt_flush (h : headingAt style directives (l :: rest) = true) :
    ∃ c t, l.text = c :: t ∧ isBlank c = false ∧ isUnderline l.text = false := by
  have hdir : opensDirective l.text = true →
      ∃ c t, l.text = c :: t ∧ isBlank c = false ∧ isUnderline l.text = false := by
    intro hd
    obtain ⟨t, ht, -⟩ := opensDirective_iff.1 hd
    rw [ht]
    exact ⟨'.', _, rfl, by decide, Bool.eq_false_iff.2 fun hu => absurd (isUnderline_head hu) (by decide)⟩
  have hname : ∀ c t, l.text = c :: t → isSign c = false → isMark c = false →
      ∃ c t, l.text = c :: t ∧ isBlank c = false ∧ isUnderline l.text = false := by
    intro c t hl hc hm
    simp only [isSign, Bool.or_eq_false_iff] at hc
    refine ⟨c, t, hl, hc.1.1, Bool.eq_false_iff.2 fun hu => ?_⟩
    rw [hl] at hu
    rw [isUnderline_head hu] at hm
    simp at hm
  cases style with
  | google =>
    rcases headingAt_google h with ⟨hcolon, hs, -⟩ | hd
    · -- the first character is no colon, so it is the first one of the name
      have hfirst : l.text.dropWhile (· == ':') = l.text := by
        obtain ⟨d, t, hd, hne⟩ := head_of_colonHeading hcolon
        cases hl : l.text with
        | nil => rfl
        | cons e t' =>
          refine List.dropWhile_cons_of_neg fun he => hne ?_
          rw [hl, lower, beq_iff_eq.1 he, lowerFrom_cons, lowerImage_of_sign (by decide)] at hd
          exact (List.cons.inj hd).1.symm
      obtain ⟨c, t, hc, hsign, hmark⟩ := head_of_sectionName hs
      obtain ⟨back, hback⟩ := trimRightBy_isPrefix (· == ':') l.text
      rw [trimBy, hfirst] at hc
      exact hname c (t ++ back) (by rw [← hback, hc, List.cons_append]) hsign hmark
    · exact hdir (opensDirective_of_heading hd)
  | numpy =>
    rcases headingAt_numpy h with ⟨hs, -⟩ | hd
    · obtain ⟨c, t, hl, hc, hm⟩ := head_of_sectionName hs
      exact hname c t hl hc hm
    · exact hdir hd

/-! ### Lines that are no headings -/

/-- A line that is blank or indented is no heading. -/
theorem not_heading_of_indent (h : l.text.isEmpty = true ∨ 0 < indentOf l.text) :
    headingAt style directives (l :: rest) = false := by
  refine Bool.eq_false_iff.2 fun hh => ?_
  obtain ⟨c, t, hl, hc, -⟩ := headingAt_flush hh
  rcases h with hempty | hindent
  · simp [hl] at hempty
  · simp [hl, indentOf, hc] at hindent

theorem mem_lower {s : List Char} {c : Char} (hc : isSign c = true) (h : c ∈ s) : c ∈ lower s := by
  have hfrom (before : List Char) : c ∈ lowerFrom before s := by
    induction s generalizing before with
    | nil => cases h
    | cons d s ih =>
      rw [lowerFrom_cons, List.mem_append]
      rcases List.mem_cons.1 h with rfl | h
      · rw [lowerImage_of_sign hc]
        exact .inl (.head _)
      · exact .inr (ih h _)
  exact hfrom []

theorem colon_of_hasDoubleColon {s : List Char} (h : hasDoubleColon s = true) : ':' ∈ s := by
  induction s with
  | nil => cases h
  | cons c s ih =>
    rw [hasDoubleColon_cons, Bool.and_eq_true, Bool.or_eq_true] at h
    rcases h.2 with hopen | hlater
    · obtain ⟨rest, rfl⟩ := opensColons_iff.1 hopen
      exact .tail _ (.head _)
    · exact .tail _ (ih hlater)

theorem colon_of_opensDirective {s : List Char} (h : opensDirective s = true) : ':' ∈ s ∧ s.head? = some '.' := by
  obtain ⟨rest, rfl, hrest⟩ := opensDirective_iff.1 h
  exact ⟨.tail _ (.tail _ (.tail _ (colon_of_hasDoubleColon hrest))), rfl⟩

theorem not_heading_of_colon (hcolon : ':' ∈ l.text) (hpoint : l.text.head? ≠ some '.') :
    headingAt .numpy directives (l :: rest) = false := by
  refine Bool.eq_false_iff.2 fun hh => ?_
  rcases headingAt_numpy hh with ⟨hname, -⟩ | hd
  · have hclear := sectionName_all (p := fun name => !name.contains ':') (by decide +kernel) hname
    simp [mem_lower (by decide) hcolon] at hclear
  · exact hpoint (colon_of_opensDirective hd).2

theorem not_heading_of_last (hcolon : ':' ∉ l.text) : headingAt .numpy directives [l] = false := by
  refine Bool.eq_false_iff.2 fun hh => ?_
  rcases headingAt_numpy hh with ⟨-, u, rest, hrest, -⟩ | hd
  · cases hrest
  · exact hcolon (colon_of_opensDirective hd).1

end TypeComments.Docstring
