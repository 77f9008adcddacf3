import Mathlib.Data.List.Basic
import TypeComments.Docstring.Section
import TypeComments.Proofs.TextEnds
import TypeComments.Text.Case

/-!
# Lower case and the shape of a heading

Headings are recognised in lower case and then cut as they were written, so the two have to agree about
blanks, points and colons. Lower case maps each of these to itself and no other character to one of
them (`lowerImage_of_sign`, `not_sign_of_mem_lowerImage`). Colons do not count for the form of a sigma either,
so cutting them off the ends commutes with lower case (`lower_trimColons`). What lower case makes of a letter is no
letter of the table, so lower case twice is lower case (`lower_lower`).
-/

namespace TypeComments

/-- The characters that the shape of a heading depends on: blanks, points and colons. -/
def isSign (c : Char) : Bool :=
  isBlank c || c == '.' || c == ':'

/-- Are the code points from `lo` to `hi` no signs? -/
def clearOfSigns (lo hi : Nat) : Bool :=
  blankRanges.all (fun p => decide (hi < p.1) || decide (p.2 < lo)) && decide (58 < lo)

theorem not_sign_of_clear {lo hi : Nat} {c : Char} (h : clearOfSigns lo hi = true) (hlo : lo ≤ c.toNat)
    (hhi : c.toNat ≤ hi) : isSign c = false := by
  simp only [clearOfSigns, Bool.and_eq_true, List.all_eq_true, Bool.or_eq_true, decide_eq_true_eq] at h
  obtain ⟨hblank, hcolon⟩ := h
  have h1 : isBlank c = false := by
    refine Bool.eq_false_iff.2 fun hb => ?_
    obtain ⟨p, hp, h1, h2⟩ := exists_of_inRanges hb
    rcases hblank p hp with h | h <;> omega
  have h2 : c ≠ '.' := by
    rintro rfl
    have : ('.' : Char).toNat = 46 := rfl
    omega
  have h3 : c ≠ ':' := by
    rintro rfl
    have : (':' : Char).toNat = 58 := rfl
    omega
  simp [isSign, h1, h2, h3]

theorem toNat_ofNat {n : Nat} (h : n.isValidChar) : (Char.ofNat n).toNat = n := by
  rw [Char.ofNat, dif_pos h]
  rfl

/-- A code point keeps its place or is moved by one run of the table. -/
theorem caseImage_cases (runs : List CaseRun) (n : Nat) :
    caseImage runs n = n ∨ ∃ r ∈ runs, r.first ≤ n ∧ n ≤ r.last ∧ (n - r.first) % r.step = 0 ∧
      caseImage runs n = (n + r.offset).toNat := by
  induction runs with
  | nil => exact .inl rfl
  | cons r rest ih =>
    simp only [caseImage]
    split
    · exact .inl rfl
    split
    · rename_i h
      simp only [Bool.and_eq_true, decide_eq_true_eq, beq_iff_eq] at h
      exact .inr ⟨r, by simp, by omega, h.1, h.2, rfl⟩
    · rcases ih with h | ⟨q, hq, h⟩
      · exact .inl h
      · exact .inr ⟨q, by simp [hq], h⟩

/-- No letter of the table is a sign, and none becomes one. -/
theorem lowerRuns_clear : lowerRuns.all (fun r => clearOfSigns r.first r.last &&
    clearOfSigns (r.first + r.offset).toNat (r.last + r.offset).toNat) = true := by
  decide +kernel

/-! ### One character -/

/-- The lower case of `c`, with its neighbours on either side. -/
def lowerImage (before : List Char) (c : Char) (rest : List Char) : List Char :=
  if c == '\u0130' then ['i', '\u0307']
  else if c == '\u03a3' then
    [if casedFirst before && !casedFirst rest then '\u03c2' else '\u03c3']
  else if c.toNat < 128 then [c.toLower]
  else [Char.ofNat (caseImage lowerRuns c.toNat)]

theorem lowerFrom_cons (before : List Char) (c : Char) (rest : List Char) :
    lowerFrom before (c :: rest) = lowerImage before c rest ++ lowerFrom (c :: before) rest := rfl

theorem lowerImage_ne_nil (before : List Char) (c : Char) (rest : List Char) :
    lowerImage before c rest ≠ [] := by
  unfold lowerImage
  repeat' split
  all_goals simp

theorem ascii_caseImage : ∀ n < 128, (Char.ofNat n).toLower = Char.ofNat (caseImage lowerRuns n) := by
  decide +kernel

theorem lowerImage_eq {c : Char} (hdotted : c ≠ '\u0130') (hsigma : c ≠ '\u03a3') (before rest : List Char) :
    lowerImage before c rest = [Char.ofNat (caseImage lowerRuns c.toNat)] := by
  unfold lowerImage
  rw [if_neg (by simpa using hdotted), if_neg (by simpa using hsigma)]
  split
  · rename_i h
    have hc := ascii_caseImage c.toNat h
    rw [Char.ofNat_toNat] at hc
    rw [hc]
  · rfl

theorem lowerImage_of_sign {c : Char} (hc : isSign c = true) (before rest : List Char) :
    lowerImage before c rest = [c] := by
  have hdotted : c ≠ '\u0130' := by rintro rfl; revert hc; decide
  have hsigma : c ≠ '\u03a3' := by rintro rfl; revert hc; decide
  rw [lowerImage_eq hdotted hsigma]
  rcases caseImage_cases lowerRuns c.toNat with h | ⟨r, hr, hlo, hhi, -, -⟩
  · rw [h, Char.ofNat_toNat]
  · have hclear := List.all_eq_true.1 lowerRuns_clear r hr
    rw [Bool.and_eq_true] at hclear
    rw [not_sign_of_clear hclear.1 hlo hhi] at hc
    cases hc

/-- Lower case makes no sign of another character. -/
theorem not_sign_of_mem_lowerImage {c d : Char} (hc : isSign c = false) {before rest : List Char}
    (hd : d ∈ lowerImage before c rest) : isSign d = false := by
  by_cases hdotted : c = '\u0130'
  · subst hdotted
    rcases List.mem_pair.1 hd with rfl | rfl <;> decide
  by_cases hsigma : c = '\u03a3'
  · subst hsigma
    rw [List.mem_singleton.1 hd]
    split <;> decide
  rw [lowerImage_eq hdotted hsigma] at hd
  rw [List.mem_singleton.1 hd]
  rcases caseImage_cases lowerRuns c.toNat with h | ⟨r, hr, hlo, hhi, -, h⟩
  · rw [h, Char.ofNat_toNat, hc]
  · have hclear := List.all_eq_true.1 lowerRuns_clear r hr
    rw [Bool.and_eq_true] at hclear
    by_cases hv : (caseImage lowerRuns c.toNat).isValidChar
    · have htn := toNat_ofNat hv
      exact not_sign_of_clear hclear.2 (by rw [htn, h]; omega) (by rw [htn, h]; omega)
    · rw [Char.ofNat, dif_neg hv]
      decide

/-! ### Lower case twice -/

/-- The places of a run whose first one is `start`. -/
def CaseRun.places (r : CaseRun) (start : Nat) : List Nat :=
  (List.range ((r.last - r.first) / r.step + 1)).map (start + · * r.step)

theorem CaseRun.mem_places {r : CaseRun} {n : Nat} (hlo : r.first ≤ n) (hhi : n ≤ r.last)
    (hstep : (n - r.first) % r.step = 0) (start : Nat) : start + (n - r.first) ∈ r.places start := by
  refine List.mem_map.2 ⟨(n - r.first) / r.step, List.mem_range.2 (Nat.lt_succ_of_le ?_), ?_⟩
  · exact Nat.div_le_div_right (by omega)
  · rw [Nat.div_mul_cancel (Nat.dvd_of_mod_eq_zero hstep)]

/-- The letters of the table, and the dotted capital, which has a longer image. -/
def capitals : List Nat :=
  0x130 :: lowerRuns.flatMap fun r => r.places r.first

/-- What the letters of the table become. -/
def smalls : List Nat :=
  lowerRuns.flatMap fun r => r.places (r.first + r.offset).toNat

/-- A set of numbers as the bits of one. -/
def bits (ns : List Nat) : Nat :=
  ns.foldl (fun m n => m ||| 1 <<< n) 0

theorem testBit_bits {ns : List Nat} {n : Nat} (h : n ∈ ns) : (bits ns).testBit n = true := by
  have hfold (m : Nat) (hn : m.testBit n = true ∨ n ∈ ns) :
      (ns.foldl (fun m n => m ||| 1 <<< n) m).testBit n = true := by
    clear h
    induction ns generalizing m with
    | nil => exact hn.resolve_right List.not_mem_nil
    | cons k ns ih =>
      refine ih (m ||| 1 <<< k) ?_
      rw [Nat.testBit_or]
      rcases hn with hn | hn
      · exact .inl (by rw [hn, Bool.true_or])
      rcases List.mem_cons.1 hn with rfl | hn
      · refine .inl ?_
        rw [Nat.shiftLeft_eq, Nat.one_mul, Nat.testBit_two_pow_self, Bool.or_true]
      · exact .inr hn
  exact hfold 0 (.inr h)

theorem capitals_apart : bits capitals &&& bits smalls = 0 := by
  decide +kernel

theorem not_capital_of_small {n : Nat} (h : n ∈ smalls) : n ∉ capitals := by
  intro hn
  have hboth : (bits capitals &&& bits smalls).testBit n = true := by
    rw [Nat.testBit_and, testBit_bits hn, testBit_bits h, Bool.true_and]
  rw [capitals_apart, Nat.zero_testBit] at hboth
  cases hboth

theorem caseImage_mem_smalls {n : Nat} (h : caseImage lowerRuns n ≠ n) :
    n ∈ capitals ∧ caseImage lowerRuns n ∈ smalls := by
  rcases caseImage_cases lowerRuns n with heq | ⟨r, hr, hlo, hhi, hstep, heq⟩
  · exact absurd heq h
  constructor
  · have hmem := CaseRun.mem_places hlo hhi hstep r.first
    rw [Nat.add_sub_cancel' hlo] at hmem
    exact .tail _ (List.mem_flatMap.2 ⟨r, hr, hmem⟩)
  · have hmem := CaseRun.mem_places hlo hhi hstep (r.first + r.offset).toNat
    have himage : (n + r.offset).toNat = (r.first + r.offset).toNat + (n - r.first) := by
      -- the images are no signs, so none of them is cut off at zero
      have hclear := List.all_eq_true.1 lowerRuns_clear r hr
      simp only [clearOfSigns, Bool.and_eq_true, decide_eq_true_eq] at hclear
      omega
    rw [heq, himage]
    exact List.mem_flatMap.2 ⟨r, hr, hmem⟩

def isLower (c : Char) : Bool :=
  c != '\u0130' && caseImage lowerRuns c.toNat == c.toNat

theorem lowerImage_of_isLower {c : Char} (hc : isLower c = true) (before rest : List Char) :
    lowerImage before c rest = [c] := by
  rw [isLower, Bool.and_eq_true, bne_iff_ne, beq_iff_eq] at hc
  have hsigma : c ≠ '\u03a3' := by
    rintro rfl
    revert hc
    decide
  rw [lowerImage_eq hc.1 hsigma, hc.2, Char.ofNat_toNat]

/-- A letter that has been moved is moved no more. -/
theorem isLower_caseImage {c : Char} (hdotted : c ≠ '\u0130') :
    isLower (Char.ofNat (caseImage lowerRuns c.toNat)) = true := by
  by_cases h : caseImage lowerRuns c.toNat = c.toNat
  · rw [h, Char.ofNat_toNat, isLower, h, beq_self_eq_true, Bool.and_true]
    exact bne_iff_ne.2 hdotted
  have hnot := not_capital_of_small (caseImage_mem_smalls h).2
  by_cases hv : (caseImage lowerRuns c.toNat).isValidChar
  · have htn := toNat_ofNat hv
    rw [isLower, htn, Bool.and_eq_true, bne_iff_ne, beq_iff_eq]
    constructor
    · intro hdot
      have hpoint : caseImage lowerRuns c.toNat = 0x130 := by
        rw [← htn, hdot]
        rfl
      exact hnot (hpoint ▸ .head _)
    · by_contra hmoved
      exact hnot (caseImage_mem_smalls hmoved).1
  · rw [Char.ofNat, dif_neg hv]
    decide

theorem isLower_of_mem_lowerImage {c d : Char} {before rest : List Char} (hd : d ∈ lowerImage before c rest) :
    isLower d = true := by
  by_cases hdotted : c = '\u0130'
  · subst hdotted
    rcases List.mem_pair.1 hd with rfl | rfl
    · decide
    · decide
  by_cases hsigma : c = '\u03a3'
  · subst hsigma
    rw [List.mem_singleton.1 hd]
    split
    · decide
    · decide
  rw [lowerImage_eq hdotted hsigma] at hd
  rw [List.mem_singleton.1 hd]
  exact isLower_caseImage hdotted

theorem isLower_of_mem_lowerFrom {s before : List Char} : ∀ c ∈ lowerFrom before s, isLower c = true := by
  induction s generalizing before with
  | nil => simp [lowerFrom]
  | cons c rest ih =>
    intro d hd
    rw [lowerFrom_cons] at hd
    rcases List.mem_append.1 hd with hd | hd
    · exact isLower_of_mem_lowerImage hd
    · exact ih d hd

theorem lowerFrom_of_isLower {s before : List Char} (h : ∀ c ∈ s, isLower c = true) : lowerFrom before s = s := by
  induction s generalizing before with
  | nil => rfl
  | cons c rest ih =>
    obtain ⟨hc, hrest⟩ := List.forall_mem_cons.1 h
    rw [lowerFrom_cons, lowerImage_of_isLower hc, ih hrest]
    rfl

theorem lower_lower (s : List Char) : lower (lower s) = lower s :=
  lowerFrom_of_isLower isLower_of_mem_lowerFrom

/-! ### Signs in a text -/

/-- A text that starts with the sign `d` does so in lower case, and only such a text. -/
theorem head?_lowerFrom {d : Char} (hd : isSign d = true) (before s : List Char) :
    (lowerFrom before s).head? = some d ↔ s.head? = some d := by
  cases s with
  | nil => simp [lowerFrom]
  | cons c rest =>
    rw [lowerFrom_cons, List.head?_append_of_ne_nil _ (lowerImage_ne_nil before c rest), List.head?_cons]
    cases hc : isSign c with
    | true => rw [lowerImage_of_sign hc, List.head?_cons]
    | false =>
      refine ⟨fun h => ?_, fun h => ?_⟩
      · rw [not_sign_of_mem_lowerImage hc (List.mem_of_head? h)] at hd
        simp at hd
      · rw [Option.some.inj h, hd] at hc
        simp at hc

theorem isEmpty_lower (s : List Char) : (lower s).isEmpty = s.isEmpty := by
  cases s with
  | nil => rfl
  | cons c rest =>
    have h := lowerImage_ne_nil [] c rest
    simp [lower, lowerFrom_cons, h]

theorem indentOf_lowerFrom (before s : List Char) : indentOf (lowerFrom before s) = indentOf s := by
  induction s generalizing before with
  | nil => rfl
  | cons c rest ih =>
    cases hc : isBlank c with
    | true =>
      rw [lowerFrom_cons, lowerImage_of_sign (by simp [isSign, hc])]
      simpa [indentOf, hc] using ih (c :: before)
    | false =>
      have hfirst : ∀ d, (lowerFrom before (c :: rest)).head? = some d → isBlank d = false := by
        intro d hd
        refine Bool.eq_false_iff.2 fun hb => ?_
        rw [head?_lowerFrom (by simp [isSign, hb]), List.head?_cons, Option.some.injEq] at hd
        rw [hd, hb] at hc
        simp at hc
      cases hl : lowerFrom before (c :: rest) with
      | nil => simp [indentOf, hc]
      | cons d rest' => simp [indentOf, hc, hfirst d (by simp [hl])]

/-- Where lower case starts with a sign, the text does too, and the rest is the rest in lower case. -/
theorem lowerFrom_eq_cons {d : Char} (hd : isSign d = true) {before s t : List Char} :
    lowerFrom before s = d :: t ↔ ∃ rest, s = d :: rest ∧ t = lowerFrom (d :: before) rest := by
  constructor
  · intro h
    obtain ⟨rest, rfl⟩ := List.head?_eq_some_iff.1 ((head?_lowerFrom hd before s).1 (by simp [h]))
    rw [lowerFrom_cons, lowerImage_of_sign hd, List.singleton_append, List.cons.injEq] at h
    exact ⟨rest, rfl, h.2.symm⟩
  · rintro ⟨rest, rfl, rfl⟩
    rw [lowerFrom_cons, lowerImage_of_sign hd, List.singleton_append]

/-! ### Colons at the ends -/

theorem casedFirst_cons (c : Char) (s : List Char) : casedFirst (c :: s) =
    if inRanges caseIgnorableRanges c.toNat then casedFirst s else inRanges casedRanges c.toNat := by
  by_cases h : inRanges caseIgnorableRanges c.toNat = true <;> simp [casedFirst, h]

theorem casedFirst_colon (s : List Char) : casedFirst (':' :: s) = casedFirst s := by
  rw [casedFirst_cons, if_pos (by decide)]

theorem casedFirst_append_colon (s : List Char) : casedFirst (s ++ [':']) = casedFirst s := by
  induction s with
  | nil => exact casedFirst_colon []
  | cons c rest ih => rw [List.cons_append, casedFirst_cons, casedFirst_cons, ih]

/-- Of what stands before, lower case only asks whether a cased letter comes first. -/
theorem lowerFrom_congr {b b' : List Char} (h : casedFirst b = casedFirst b') (s : List Char) :
    lowerFrom b s = lowerFrom b' s := by
  induction s generalizing b b' with
  | nil => rfl
  | cons c rest ih =>
    have himage : lowerImage b c rest = lowerImage b' c rest := by simp only [lowerImage, h]
    have hcons : casedFirst (c :: b) = casedFirst (c :: b') := by
      rw [casedFirst_cons, casedFirst_cons, h]
    rw [lowerFrom_cons, lowerFrom_cons, himage, ih hcons]

theorem lowerFrom_append_colon (before s : List Char) :
    lowerFrom before (s ++ [':']) = lowerFrom before s ++ [':'] := by
  induction s generalizing before with
  | nil =>
    rw [List.nil_append, lowerFrom_cons, lowerImage_of_sign (by decide)]
    rfl
  | cons c rest ih =>
    have himage : lowerImage before c (rest ++ [':']) = lowerImage before c rest := by
      simp only [lowerImage, casedFirst_append_colon]
    rw [List.cons_append, lowerFrom_cons, lowerFrom_cons, himage, ih, List.append_assoc]

theorem lowerFrom_concat (before s : List Char) (c : Char) :
    ∃ front before', lowerFrom before (s ++ [c]) = front ++ lowerImage before' c [] := by
  induction s generalizing before with
  | nil => exact ⟨[], before, by simp [lowerFrom_cons, lowerFrom]⟩
  | cons d rest ih =>
    obtain ⟨front, before', h⟩ := ih (d :: before)
    exact ⟨lowerImage before d (rest ++ [c]) ++ front, before', by
      rw [List.cons_append, lowerFrom_cons, h, List.append_assoc]⟩

theorem ne_colon_of_mem_lowerImage {c d : Char} (hc : c ≠ ':') {before rest : List Char}
    (hd : d ∈ lowerImage before c rest) : d ≠ ':' := by
  rintro rfl
  cases hs : isSign c with
  | true =>
    rw [lowerImage_of_sign hs, List.mem_singleton] at hd
    exact hc hd.symm
  | false => exact absurd (not_sign_of_mem_lowerImage hs hd) (by decide)

theorem lowerFrom_dropColons (before s : List Char) :
    (lowerFrom before s).dropWhile (· == ':') = lowerFrom before (s.dropWhile (· == ':')) := by
  induction s generalizing before with
  | nil => rfl
  | cons c rest ih =>
    by_cases hc : c = ':'
    · subst hc
      rw [lowerFrom_cons, lowerImage_of_sign (by decide), lowerFrom_congr (casedFirst_colon before)]
      simpa using ih before
    · rw [List.dropWhile_cons_of_neg (by simpa using hc)]
      cases hl : lowerFrom before (c :: rest) with
      | nil => rfl
      | cons d t =>
        refine List.dropWhile_cons_of_neg ?_
        have hd : d ∈ lowerImage before c rest := by
          have := lowerImage_ne_nil before c rest
          rw [lowerFrom_cons] at hl
          exact List.mem_of_head? (by rw [← List.head?_append_of_ne_nil _ this, hl]; rfl)
        simpa using ne_colon_of_mem_lowerImage hc hd

theorem trimColons_lowerFrom (before s : List Char) :
    trimRightBy (· == ':') (lowerFrom before s) = lowerFrom before (trimRightBy (· == ':') s) := by
  induction s using List.reverseRecOn generalizing before with
  | nil => rfl
  | append_singleton s c ih =>
    rw [trimRightBy_concat]
    by_cases hc : c = ':'
    · subst hc
      rw [lowerFrom_append_colon, trimRightBy_concat, if_pos (by rfl), if_pos (by rfl), ih]
    · rw [if_neg (by simpa using hc)]
      obtain ⟨front, before', h⟩ := lowerFrom_concat before s c
      obtain ⟨init, d, hinit⟩ := (lowerImage before' c []).eq_nil_or_concat.resolve_left
        (lowerImage_ne_nil before' c [])
      have hmem : d ∈ lowerImage before' c [] := by simp [hinit]
      have hd : d ≠ ':' := ne_colon_of_mem_lowerImage hc hmem
      rw [h, hinit, List.concat_eq_append, ← List.append_assoc, trimRightBy_concat,
        if_neg (by simpa using hd)]

/-- Colons are cut off the ends before or after the change to lower case. -/
theorem lower_trimColons (s : List Char) :
    trimBy (· == ':') (lower s) = lower (trimBy (· == ':') s) := by
  rw [trimBy, lower, lowerFrom_dropColons, trimColons_lowerFrom]
  rfl

/-! ### Directives -/

namespace Docstring

def opensColons (s : List Char) : Bool :=
  [':', ':'].isPrefixOf s

theorem opensColons_iff {s : List Char} : opensColons s = true ↔ ∃ rest, s = ':' :: ':' :: rest := by
  rw [opensColons, List.isPrefixOf_iff_prefix]
  exact ⟨fun ⟨rest, h⟩ => ⟨rest, h.symm⟩, fun ⟨rest, h⟩ => ⟨rest, h.symm⟩⟩

theorem hasDoubleColon_cons (c : Char) (s : List Char) :
    hasDoubleColon (c :: s) = (!isBlank c && (opensColons s || hasDoubleColon s)) := by
  conv_lhs => unfold hasDoubleColon
  congr 1
  split
  · rw [opensColons_iff.2 ⟨_, rfl⟩, Bool.true_or]
  · rename_i h
    have hs : opensColons s = false := Bool.eq_false_iff.2 fun hs =>
      let ⟨rest, hr⟩ := opensColons_iff.1 hs; h rest hr
    rw [hs, Bool.false_or]

theorem opensColons_lowerFrom (before s : List Char) : opensColons (lowerFrom before s) = opensColons s := by
  have hcolon : isSign ':' = true := by decide
  rw [Bool.eq_iff_iff, opensColons_iff, opensColons_iff]
  constructor
  · rintro ⟨t, h⟩
    obtain ⟨rest, rfl, h₁⟩ := (lowerFrom_eq_cons hcolon).1 h
    obtain ⟨rest', rfl, -⟩ := (lowerFrom_eq_cons hcolon).1 h₁.symm
    exact ⟨rest', rfl⟩
  · rintro ⟨rest, rfl⟩
    exact ⟨_, (lowerFrom_eq_cons hcolon).2 ⟨_, rfl, ((lowerFrom_eq_cons hcolon).2 ⟨_, rfl, rfl⟩).symm⟩⟩

/-- Characters that are neither blanks nor colons carry the search for a double colon on. -/
theorem hasDoubleColon_append {xs : List Char} (hne : xs ≠ []) (hx : ∀ x ∈ xs, isSign x = false)
    (s : List Char) : hasDoubleColon (xs ++ s) = (opensColons s || hasDoubleColon s) := by
  have hblank : ∀ x ∈ xs, isBlank x = false := fun x h => by
    have := hx x h
    simp only [isSign, Bool.or_eq_false_iff] at this
    exact this.1.1
  induction xs with
  | nil => exact absurd rfl hne
  | cons x rest ih =>
    rw [List.cons_append, hasDoubleColon_cons, hblank x (by simp), Bool.not_false, Bool.true_and]
    cases rest with
    | nil => rfl
    | cons y rest' =>
      have hy : opensColons (y :: rest' ++ s) = false := by
        refine Bool.eq_false_iff.2 fun h => ?_
        obtain ⟨t, ht⟩ := opensColons_iff.1 h
        rw [List.cons_append, List.cons.injEq] at ht
        exact absurd (hx y (by simp)) (by rw [ht.1]; decide)
      rw [hy, Bool.false_or]
      exact ih (by simp) (fun z hz => hx z (by simp [hz])) fun z hz => hblank z (by simp [hz])

theorem hasDoubleColon_lowerFrom (before s : List Char) :
    hasDoubleColon (lowerFrom before s) = hasDoubleColon s := by
  induction s generalizing before with
  | nil => rfl
  | cons c rest ih =>
    cases hc : isSign c with
    | true =>
      rw [lowerFrom_cons, lowerImage_of_sign hc, List.singleton_append, hasDoubleColon_cons,
        hasDoubleColon_cons, opensColons_lowerFrom, ih]
    | false =>
      rw [lowerFrom_cons, hasDoubleColon_append (lowerImage_ne_nil _ _ _)
        fun d hd => not_sign_of_mem_lowerImage hc hd, opensColons_lowerFrom, ih]
      exact (hasDoubleColon_append (List.cons_ne_nil c []) (by simpa using hc) rest).symm

theorem opensDirective_iff {s : List Char} :
    opensDirective s = true ↔ ∃ rest, s = '.' :: '.' :: ' ' :: rest ∧ hasDoubleColon rest = true := by
  unfold opensDirective
  split
  · simp
  · rename_i h
    simpa using fun rest hr => absurd hr (h rest)

/-- A directive stays one in lower case, and nothing else becomes one. -/
theorem opensDirective_lower (s : List Char) : opensDirective (lower s) = opensDirective s := by
  have hpoint : isSign '.' = true := by decide
  have hblank : isSign ' ' = true := by decide
  rw [Bool.eq_iff_iff, opensDirective_iff, opensDirective_iff]
  constructor
  · rintro ⟨t, h, ht⟩
    obtain ⟨s₁, rfl, h₁⟩ := (lowerFrom_eq_cons hpoint).1 h
    obtain ⟨s₂, rfl, h₂⟩ := (lowerFrom_eq_cons hpoint).1 h₁.symm
    obtain ⟨s₃, rfl, rfl⟩ := (lowerFrom_eq_cons hblank).1 h₂.symm
    exact ⟨s₃, rfl, by rwa [hasDoubleColon_lowerFrom] at ht⟩
  · rintro ⟨rest, rfl, hr⟩
    refine ⟨lowerFrom [' ', '.', '.'] rest, ?_, by rwa [hasDoubleColon_lowerFrom]⟩
    rw [lower, (lowerFrom_eq_cons hpoint).2 ⟨_, rfl, rfl⟩, (lowerFrom_eq_cons hpoint).2 ⟨_, rfl, rfl⟩,
      (lowerFrom_eq_cons hblank).2 ⟨_, rfl, rfl⟩]

end Docstring

end TypeComments
