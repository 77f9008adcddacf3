import Mathlib.Data.List.Forall2
import TypeComments.Proofs.Outline

/-!
# Where the lines stand does not matter

The reader decides by the texts of the lines, and copies the numbers of some of them into its report. Take two lists
of lines with the same texts, whose numbers are connected by a relation `R`: every loop then stops at corresponding
places, and the two reports say the same at numbers that `R` connects (`Style.report_alike`).
-/

namespace TypeComments.Docstring
variable {R : Nat → Nat → Prop} {l l' : Line} {ls ls' : List Line}

/-! ### Alike in all but the numbers -/

/-- The same text, with connected numbers. -/
structure Line.Alike (R : Nat → Nat → Prop) (l l' : Line) : Prop where
  text : l.text = l'.text
  number : R l.number l'.number

/-- The same type, taken from lines with connected numbers. -/
structure Entry.Alike (R : Nat → Nat → Prop) (e e' : Entry) : Prop where
  type : e.type = e'.type
  line : ∃ n n' : Nat, e.line = some (n : Int) ∧ e'.line = some (n' : Int) ∧ R n n'

structure Param.Alike (R : Nat → Nat → Prop) (p p' : Param) : Prop where
  name : p.name = p'.name
  entry : p.entry.Alike R p'.entry

/-- The same parts, with entries that are alike one by one. -/
structure Report.Alike (R : Nat → Nat → Prop) (r r' : Report) : Prop where
  params : Option.Rel (List.Forall₂ (Param.Alike R)) r.params r'.params
  returns : Option.Rel (List.Forall₂ (Entry.Alike R)) r.returns r'.returns
  yields : Option.Rel (List.Forall₂ (Entry.Alike R)) r.yields r'.yields

inductive Finding.Alike (R : Nat → Nat → Prop) : Finding → Finding → Prop
  | params {ps ps' : List Param} (h : List.Forall₂ (Param.Alike R) ps ps') : Alike R (.params ps) (.params ps')
  | returns {es es' : List Entry} (h : List.Forall₂ (Entry.Alike R) es es') : Alike R (.returns es) (.returns es')
  | yields {es es' : List Entry} (h : List.Forall₂ (Entry.Alike R) es es') : Alike R (.yields es) (.yields es')
  | nothing : Alike R .nothing .nothing

/-! ### Loops -/

section
variable {α : Type} {S : α → α → Prop} {p : List α → Bool} {as bs : List α}

theorem takeAhead_alike (hp : ∀ as bs, List.Forall₂ S as bs → p as = p bs) (h : List.Forall₂ S as bs) :
    List.Forall₂ S (takeAhead p as) (takeAhead p bs) := by
  induction h with
  | nil => exact .nil
  | cons ha htail ih =>
    rw [takeAhead, takeAhead, hp _ _ (.cons ha htail)]
    split
    · exact .cons ha ih
    · exact .nil

theorem dropAhead_alike (hp : ∀ as bs, List.Forall₂ S as bs → p as = p bs) (h : List.Forall₂ S as bs) :
    List.Forall₂ S (dropAhead p as) (dropAhead p bs) := by
  induction h with
  | nil => exact .nil
  | cons ha htail ih =>
    rw [dropAhead, dropAhead, hp _ _ (.cons ha htail)]
    split
    · exact ih
    · exact .cons ha htail

end

theorem head_isEmpty_alike (h : List.Forall₂ (Line.Alike R) ls ls') :
    ls.head?.any Line.isEmpty = ls'.head?.any Line.isEmpty := by
  cases h with
  | nil => rfl
  | cons hl _ => simp [Line.isEmpty, hl.text]

theorem dropWhile_alike (h : List.Forall₂ (Line.Alike R) ls ls') :
    List.Forall₂ (Line.Alike R) (ls.dropWhile Line.isEmpty) (ls'.dropWhile Line.isEmpty) := by
  rw [← (takeAhead_head Line.isEmpty ls).2, ← (takeAhead_head Line.isEmpty ls').2]
  exact dropAhead_alike (fun _ _ => head_isEmpty_alike) h

theorem takeWhile_alike (h : List.Forall₂ (Line.Alike R) ls ls') :
    List.Forall₂ (Line.Alike R) (ls.takeWhile Line.isEmpty) (ls'.takeWhile Line.isEmpty) := by
  rw [← (takeAhead_head Line.isEmpty ls).1, ← (takeAhead_head Line.isEmpty ls').1]
  exact takeAhead_alike (fun _ _ => head_isEmpty_alike) h

/-! ### Tests -/

theorem indentAhead_alike (h : List.Forall₂ (Line.Alike R) ls ls') : indentAhead ls = indentAhead ls' := by
  have hdrop := dropWhile_alike h
  simp only [indentAhead]
  rw [show List.dropWhile (fun l : Line => l.text.isEmpty) = List.dropWhile Line.isEmpty from rfl]
  generalize ls.dropWhile Line.isEmpty = ds, ls'.dropWhile Line.isEmpty = ds' at hdrop ⊢
  cases hdrop with
  | nil => rfl
  | cons hl _ => exact congrArg indentOf hl.text

theorem headingAt_alike (style : Style) (directives : List (List Char)) (h : List.Forall₂ (Line.Alike R) ls ls') :
    headingAt style directives ls = headingAt style directives ls' := by
  cases h with
  | nil => rfl
  | @cons l l' rest rest' hl hrest =>
    cases style with
    | google => simp only [headingAt, hl.text, indentAhead_alike hrest]
    | numpy =>
      cases hrest with
      | nil => simp only [headingAt, hl.text]
      | cons hu _ =>
        simp only [headingAt, hl.text]
        cases (sectionKind? (lower l'.text)).isSome with
        | true => exact congrArg isUnderline hu.text
        | false => rfl

namespace Scope
variable (sc : Scope)

theorem ends_alike (h : List.Forall₂ (Line.Alike R) ls ls') : sc.ends ls = sc.ends ls' := by
  have hh := headingAt_alike sc.style sc.directives h
  cases h with
  | nil => rfl
  | cons hl hrest =>
    rw [ends, ends, breakAt, breakAt, hh, hl.text]
    cases hrest with
    | nil => rfl
    | cons hu _ => rw [List.head?_cons, List.head?_cons, Option.map_some, Option.map_some, hu.text]

theorem below_alike (indent : Int) (h : List.Forall₂ (Line.Alike R) ls ls') :
    sc.below indent ls = sc.below indent ls' := by
  rw [below, below, sc.ends_alike h]
  cases h with
  | nil => rfl
  | cons hl _ => simp [Line.isEmpty, hl.text]

/-! ### Sections -/

theorem fields_alike (h : List.Forall₂ (Line.Alike R) ls ls') :
    List.Forall₂ (Line.Alike R) (sc.fields ls).1 (sc.fields ls').1 ∧
      List.Forall₂ (Line.Alike R) (sc.fields ls).2 (sc.fields ls').2 := by
  fun_induction fields sc ls generalizing ls' with
  | case1 =>
    cases h
    rw [fields_nil]
    exact ⟨.nil, .nil⟩
  | case2 l rest hends =>
    have hends' := sc.ends_alike h
    cases h with
    | cons hl hrest =>
      rw [fields_cons, if_pos (hends' ▸ hends)]
      exact ⟨.nil, .cons hl hrest⟩
  | case3 l rest hends more =>
    rename_i ih
    have hends' := sc.ends_alike h
    cases h with
    | cons hl hrest =>
      rw [fields_cons, if_neg (hends' ▸ hends), ← hl.text]
      obtain ⟨hheads, hleft⟩ := ih (dropAhead_alike (fun _ _ => sc.below_alike _) hrest)
      exact ⟨.cons hl hheads, hleft⟩

theorem body_alike (h : List.Forall₂ (Line.Alike R) ls ls') :
    List.Forall₂ (Line.Alike R) (sc.body ls).1 (sc.body ls').1 ∧
      List.Forall₂ (Line.Alike R) (sc.body ls).2 (sc.body ls').2 := by
  have hp (as bs : List Line) (h : List.Forall₂ (Line.Alike R) as bs) : (!sc.ends as) = !sc.ends bs := by
    rw [sc.ends_alike h]
  have hstart := dropWhile_alike h
  have hleft := dropAhead_alike hp hstart
  exact ⟨List.rel_append (takeAhead_alike hp hstart) (takeWhile_alike hleft), dropWhile_alike hleft⟩

theorem fieldOf_alike (style : Style) (parseType preferType : Bool) (h : l.Alike R l') :
    (Read.fieldOf style parseType preferType l).Alike R (Read.fieldOf style parseType preferType l') := by
  simp only [Read.fieldOf, ← h.text]
  split
  · exact ⟨rfl, rfl, l.number, l'.number, rfl, rfl, h.number⟩
  · exact ⟨rfl, rfl, l.number, l'.number, rfl, rfl, h.number⟩

theorem params_alike (preferType : Bool) (h : List.Forall₂ (Line.Alike R) ls ls') :
    List.Forall₂ (Param.Alike R) (sc.params preferType ls).1 (sc.params preferType ls').1 ∧
      List.Forall₂ (Line.Alike R) (sc.params preferType ls).2 (sc.params preferType ls').2 := by
  obtain ⟨hheads, hleft⟩ := sc.fields_alike (dropWhile_alike h)
  have hfields := List.rel_map (R := Line.Alike R) (P := Param.Alike R)
    (fun _ _ => fieldOf_alike sc.style true preferType) hheads
  have hkept : ∀ p p', Param.Alike R p p' → (Read.isMeaningful p ↔ Read.isMeaningful p') := by
    intro p p' hp
    rw [Read.isMeaningful, Read.isMeaningful, hp.name, hp.entry.type]
  exact ⟨List.rel_filter hkept hfields, hleft⟩

theorem dedent_alike (full : Bool) (h : List.Forall₂ (Line.Alike R) ls ls') :
    List.Forall₂ (Line.Alike R) (dedent full ls) (dedent full ls') := by
  have htexts : ls.map (·.text) = ls'.map (·.text) := by
    have hmap := List.rel_map (R := Line.Alike R) (P := Eq) (fun _ _ => Line.Alike.text) h
    rwa [List.forall₂_eq_eq_eq] at hmap
  rw [dedent, dedent, htexts]
  exact List.rel_map (fun l l' hl => ⟨by rw [hl.text], hl.number⟩) h

theorem resultOf_alike (h : List.Forall₂ (Line.Alike R) ls ls') :
    List.Forall₂ (Entry.Alike R) (Read.resultOf ls) (Read.resultOf ls') := by
  cases h with
  | nil => exact .nil
  | @cons l l' rest rest' hl hrest =>
    have hentry (type : List Char) : List.Forall₂ (Entry.Alike R)
        (if type.isEmpty then [] else [⟨some type, some l.number⟩])
        (if type.isEmpty then [] else [⟨some type, some l'.number⟩]) := by
      split
      · exact .nil
      · exact .cons ⟨rfl, l.number, l'.number, rfl, rfl, hl.number⟩ .nil
    simp only [Read.resultOf, hl.text]
    split
    · exact hentry _
    · exact .nil

theorem results_alike (h : List.Forall₂ (Line.Alike R) ls ls') :
    List.Forall₂ (Entry.Alike R) (sc.results ls).1 (sc.results ls').1 ∧
      List.Forall₂ (Line.Alike R) (sc.results ls).2 (sc.results ls').2 := by
  unfold results
  cases sc.style with
  | google =>
    obtain ⟨hbody, hleft⟩ := sc.body_alike h
    exact ⟨resultOf_alike (dedent_alike false hbody), hleft⟩
  | numpy =>
    obtain ⟨hparams, hleft⟩ := sc.params_alike true h
    exact ⟨List.rel_map (fun _ _ hp => hp.entry) hparams, hleft⟩

theorem found_alike (heading : List Char) (h : List.Forall₂ (Line.Alike R) ls ls') :
    (sc.found heading ls).1.Alike R (sc.found heading ls').1 ∧
      List.Forall₂ (Line.Alike R) (sc.found heading ls).2 (sc.found heading ls').2 := by
  have hskip := (sc.body_alike h).2
  unfold found
  split
  · exact ⟨.nothing, hskip⟩
  obtain ⟨hparams, hafter⟩ := sc.params_alike false h
  obtain ⟨hresults, hleft⟩ := sc.results_alike h
  split
  exacts [⟨.params hparams, hafter⟩, ⟨.returns hresults, hleft⟩, ⟨.yields hresults, hleft⟩, ⟨.nothing, hskip⟩,
    ⟨.nothing, hskip⟩]

end Scope

/-! ### Turns -/

theorem cutHeading_alike (style : Style) (hl : l.Alike R l') (h : List.Forall₂ (Line.Alike R) ls ls') :
    (style.cutHeading l ls).1 = (style.cutHeading l' ls').1 ∧
      List.Forall₂ (Line.Alike R) (style.cutHeading l ls).2 (style.cutHeading l' ls').2 := by
  cases style with
  | google => exact ⟨by simp only [Style.cutHeading, hl.text], h⟩
  | numpy =>
    refine ⟨hl.text, ?_⟩
    simp only [Style.cutHeading, hl.text]
    split
    · exact h
    · cases h with
      | nil => exact .nil
      | cons _ hrest => exact hrest

theorem turn_alike (style : Style) (directives : List (List Char)) (hl : l.Alike R l')
    (h : List.Forall₂ (Line.Alike R) ls ls') :
    (turn style directives l ls).1.Alike R (turn style directives l' ls').1 ∧
      List.Forall₂ (Line.Alike R) (turn style directives l ls).2 (turn style directives l' ls').2 := by
  rw [turn, turn, headingAt_alike style directives (.cons hl h)]
  split
  · obtain ⟨hname, hbelow⟩ := cutHeading_alike style hl h
    simp only [hname, indentAhead_alike hbelow]
    exact Scope.found_alike _ _ hbelow
  · exact ⟨.nothing, (Scope.body_alike _ (.cons hl h)).2⟩

theorem findings_alike (style : Style) (directives : List (List Char)) (h : List.Forall₂ (Line.Alike R) ls ls') :
    List.Forall₂ (Finding.Alike R) (findings style directives ls) (findings style directives ls') := by
  fun_induction findings style directives ls generalizing ls' with
  | case1 =>
    cases h
    rw [findings_nil]
    exact .nil
  | case2 l rest ih =>
    cases h with
    | cons hl hrest =>
      obtain ⟨hfound, hleft⟩ := turn_alike style directives hl hrest
      rw [findings_cons]
      exact .cons hfound (ih hleft)

theorem addTo_alike {r r' : Report} {f f' : Finding} (hr : r.Alike R r') (hf : f.Alike R f') :
    (f.addTo r).Alike R (f'.addTo r') := by
  cases hf with
  | params h => exact ⟨.some h, hr.returns, hr.yields⟩
  | returns h => exact ⟨hr.params, .some h, hr.yields⟩
  | yields h => exact ⟨hr.params, hr.returns, .some h⟩
  | nothing => exact hr

/-- Lines that are alike document the same. -/
theorem Style.report_alike (style : Style) (h : List.Forall₂ (Line.Alike R) ls ls') :
    (style.report ls).Alike R (style.report ls') := by
  have hfindings := findings_alike style style.directives (dropWhile_alike h)
  have hstep (r r' : Report) (hr : r.Alike R r') (f f' : Finding) (hf : f.Alike R f') :
      (f.addTo r).Alike R (f'.addTo r') := addTo_alike hr hf
  exact List.rel_foldl hstep ⟨.none, .none, .none⟩ hfindings

end TypeComments.Docstring
