import TypeComments.Proofs.CastEntries
import TypeComments.Proofs.FieldPieces
import TypeComments.Proofs.OutlineRun
import TypeComments.Proofs.TextPieces

/-!
# Documented types stay on one line

The line readers cut a docstring at every line boundary and take each type from a single line, so no type
that they document holds a line boundary (`parse_clear`). This is said for any class of characters among the
line boundaries.
-/

namespace TypeComments
variable {p q : Char → Bool} {s t : List Char}

namespace Docstring

/-! ### The parts of a field line -/

theorem partitionField_subset (line : List Char) :
    (partitionField line).before ⊆ line ∧ (partitionField line).after ⊆ line := by
  cases hindex : colonIndex? 0 line with
  | some i =>
    rw [partitionField_of_some hindex]
    exact ⟨List.Subset.trans (trimBy_subset _ _) (List.take_subset i line),
      List.Subset.trans (trimBy_subset _ _) (List.drop_subset (i + 1) line)⟩
  | none =>
    rw [partitionField_of_none hindex]
    exact ⟨trimBy_subset _ _, List.nil_subset _⟩

theorem shortestBefore_subset {close : Char} {u : List Char} (h : shortestBefore close s = some (t, u)) :
    t ⊆ s := by
  fun_induction shortestBefore close s generalizing t u with
  | case1 => cases h
  | case2 => cases h
  | case3 c rest _ d tail _ _ =>
    obtain ⟨rfl, -⟩ := Prod.mk.inj (Option.some.inj h)
    simp
  | case4 c rest _ d tail _ _ ih =>
    obtain ⟨⟨t', u'⟩, hr, heq⟩ := Option.map_eq_some_iff.1 h
    obtain ⟨rfl, -⟩ := Prod.mk.inj heq
    exact List.cons_subset_cons c (ih hr)
  | case5 => cases h

theorem parenthesized_subset (h : parenthesized s = some t) : t ⊆ s := by
  have hshort {s t : List Char} (h : (shortestBefore ')' s).map Prod.fst = some t) : t ⊆ s := by
    obtain ⟨⟨t', u⟩, hr, rfl⟩ := Option.map_eq_some_iff.1 h
    exact shortestBefore_subset hr
  fun_induction parenthesized s generalizing t with
  | case1 => cases h
  | case2 c rest _ t' hr ih =>
    obtain rfl := Option.some.inj h
    exact List.subset_cons_of_subset c (ih hr)
  | case3 c rest _ _ _ => exact hshort h
  | case4 c rest _ => exact hshort h

theorem nameAndType_subset {n : List Char} (h : nameAndType s = some (n, t)) : n ⊆ s ∧ t ⊆ s := by
  fun_induction nameAndType s generalizing n t with
  | case1 => cases h
  | case2 => cases h
  | case3 c rest _ here t' =>
    rename_i hhere
    obtain ⟨rfl, rfl⟩ := Prod.mk.inj (Option.some.inj h)
    refine ⟨by simp, ?_⟩
    simp only [here] at hhere
    split at hhere
    · rename_i tail htail
      have hsub : tail ⊆ rest := fun d hd =>
        (List.dropWhile_suffix isBlank).subset (htail ▸ List.mem_cons_of_mem _ hd)
      exact List.subset_cons_of_subset c (List.Subset.trans (parenthesized_subset hhere) hsub)
    · cases hhere
  | case4 c rest _ here _ =>
    rename_i ih
    obtain ⟨⟨n', t'⟩, hr, heq⟩ := Option.map_eq_some_iff.1 h
    obtain ⟨rfl, rfl⟩ := Prod.mk.inj heq
    exact ⟨List.cons_subset_cons c (ih hr).1, List.subset_cons_of_subset c (ih hr).2⟩

theorem typedArgument_subset {n : List Char} (h : typedArgument s = some (n, t)) : n ⊆ s ∧ t ⊆ s := by
  fun_induction typedArgument s generalizing n t with
  | case1 => cases h
  | case2 c rest _ r hr ih =>
    obtain rfl := Option.some.inj h
    exact ⟨List.subset_cons_of_subset c (ih hr).1, List.subset_cons_of_subset c (ih hr).2⟩
  | case3 c rest _ _ _ => exact nameAndType_subset h
  | case4 c rest _ => exact nameAndType_subset h

theorem escapeStars_clear (hp : ∀ c, p c = true → isLineBreak c = true) (h : Clear p s) :
    Clear p (escapeStars s) := by
  have hmark : Clear p ['\\', '*'] := Clear.mono (q := isLineBreak) (by decide) hp
  unfold escapeStars
  split
  · exact (hmark.append hmark).append (h.of_subset fun c hc => .tail _ (.tail _ hc))
  · exact hmark.append (h.of_subset fun c hc => .tail _ hc)
  · exact h

/-! ### What the sections document -/

def Entry.Clear (p : Char → Bool) (e : Entry) : Prop :=
  ∀ type ∈ e.type, TypeComments.Clear p type

def Finding.Clear (p : Char → Bool) : Finding → Prop
  | .params ps => ∀ q ∈ ps, q.entry.Clear p
  | .returns es | .yields es => ∀ e ∈ es, e.Clear p
  | .nothing => True

structure Report.Clear (p : Char → Bool) (r : Report) : Prop where
  params : ∀ q ∈ r.params.getD [], q.entry.Clear p
  returns : ∀ e ∈ r.returns.getD [], e.Clear p
  yields : ∀ e ∈ r.yields.getD [], e.Clear p

def ClearLines (p : Char → Bool) (ls : List Line) : Prop :=
  ∀ l ∈ ls, Clear p l.text

section
variable {ls : List Line} (hp : ∀ c, p c = true → isLineBreak c = true)
include hp

theorem fieldOf_clear {l : Line} (hl : Clear p l.text) (style : Style) (parseType preferType : Bool) :
    (Read.fieldOf style parseType preferType l).entry.Clear p := by
  have hparts := partitionField_subset l.text
  have hbefore := hl.of_subset hparts.1
  have hfield : Clear p (Read.fieldParts style parseType l.text).1 ∧
      ∀ type ∈ (Read.fieldParts style parseType l.text).2, Clear p type := by
    unfold Read.fieldParts
    cases style with
    | google =>
      simp only
      split
      · rename_i name type h
        split at h
        · have hsub := typedArgument_subset h
          refine ⟨escapeStars_clear hp (hbefore.of_subset hsub.1), ?_⟩
          rintro _ ⟨⟩
          exact hbefore.of_subset hsub.2
        · cases h
      · exact ⟨escapeStars_clear hp hbefore, fun _ h => nomatch h⟩
    | numpy =>
      refine ⟨escapeStars_clear hp hbefore, ?_⟩
      rintro _ ⟨⟩
      exact hl.of_subset hparts.2
  simp only [Read.fieldOf]
  split
  · rintro _ ⟨⟩
    exact hfield.1
  · exact hfield.2

end

theorem dedent_clear {ls : List Line} (hls : ClearLines p ls) : ClearLines p (dedent false ls) := by
  intro l hl
  obtain ⟨m, hm, rfl⟩ := List.mem_map.1 hl
  exact (hls m hm).of_subset (List.drop_subset _ _)

theorem resultOf_clear {ls : List Line} (hls : ClearLines p ls) : ∀ e ∈ Read.resultOf ls, e.Clear p := by
  unfold Read.resultOf
  split
  · exact List.forall_mem_nil _
  · rename_i l rest
    have hbefore : Clear p (partitionField l.text).before := (hls l (.head _)).of_subset (partitionField_subset _).1
    have hentry {type : List Char} (htype : Clear p type) {line : Option Int} :
        ∀ e ∈ (if type.isEmpty then [] else [⟨some type, line⟩] : List Entry), e.Clear p := by
      intro e he
      split at he
      · cases he
      · obtain rfl := List.mem_singleton.1 he
        rintro _ ⟨⟩
        exact htype
    simp only
    split
    · split
      · rename_i h
        exact hentry (hbefore.of_subset (typedArgument_subset h).2)
      · exact hentry hbefore
    · exact List.forall_mem_nil _

theorem Scope.fields_subset (sc : Scope) (ls : List Line) : (sc.fields ls).1 ⊆ ls := by
  fun_induction Scope.fields sc ls with
  | case1 => exact List.nil_subset _
  | case2 l rest h => exact List.nil_subset _
  | case3 l rest h more =>
    rename_i ih
    exact List.cons_subset_cons l (List.Subset.trans ih (dropAhead_suffix _ rest).subset)

theorem Scope.body_subset (sc : Scope) (ls : List Line) : (sc.body ls).1 ⊆ ls := by
  have hstart : ls.dropWhile Line.isEmpty ⊆ ls := (List.dropWhile_suffix _).subset
  have hsplit := takeAhead_append_dropAhead (fun ls => !sc.ends ls) (ls.dropWhile Line.isEmpty)
  intro l hl
  refine hstart (hsplit ▸ ?_)
  rcases List.mem_append.1 hl with hl | hl
  · exact List.mem_append_left _ hl
  · exact List.mem_append_right _ ((List.takeWhile_prefix _).subset hl)

section
variable {ls : List Line} (hp : ∀ c, p c = true → isLineBreak c = true) (hls : ClearLines p ls)
include hp hls

theorem Scope.params_clear (sc : Scope) (preferType : Bool) :
    ∀ q ∈ (sc.params preferType ls).1, q.entry.Clear p := by
  intro q hq
  obtain ⟨l, hl, rfl⟩ := List.mem_map.1 (List.mem_of_mem_filter hq)
  exact fieldOf_clear hp (hls l ((List.dropWhile_suffix _).subset (sc.fields_subset _ hl))) _ _ _

theorem Scope.results_clear (sc : Scope) : ∀ e ∈ (sc.results ls).1, e.Clear p := by
  unfold Scope.results
  split
  · exact resultOf_clear (dedent_clear fun l hl => hls l (sc.body_subset ls hl))
  · intro e he
    obtain ⟨q, hq, rfl⟩ := List.mem_map.1 he
    exact sc.params_clear hp hls true q hq

theorem Scope.found_clear (sc : Scope) (heading : List Char) : (sc.found heading ls).1.Clear p := by
  unfold Scope.found
  split
  · trivial
  split
  exacts [sc.params_clear hp hls false, sc.results_clear hp hls, sc.results_clear hp hls, trivial, trivial]

theorem findings_clear (style : Style) (directives : List (List Char)) :
    ∀ f ∈ findings style directives ls, f.Clear p := by
  fun_induction findings style directives ls with
  | case1 => exact fun f hf => nomatch hf
  | case2 l rest ih =>
    have hrest : ClearLines p rest := fun m hm => hls m (.tail _ hm)
    rintro f (_ | ⟨_, hf⟩)
    · unfold turn
      split
      · exact Scope.found_clear hp (fun m hm => hrest m ((style.cutHeading_suffix l rest).subset hm)) _ _
      · trivial
    · exact ih (fun m hm => hrest m ((turn_suffix style directives l rest).subset hm)) f hf

theorem Style.report_clear (style : Style) : (style.report ls).Clear p := by
  have hadd (fs : List Finding) (hfs : ∀ f ∈ fs, f.Clear p) (r : Report) (hr : r.Clear p) :
      (fs.foldl Finding.addTo r).Clear p := by
    induction fs generalizing r with
    | nil => exact hr
    | cons f fs ih =>
      refine ih (fun g hg => hfs g (.tail _ hg)) _ ?_
      have hf := hfs f (.head _)
      cases f with
      | params ps => exact ⟨hf, hr.returns, hr.yields⟩
      | returns es => exact ⟨hr.params, hf, hr.yields⟩
      | yields es => exact ⟨hr.params, hr.returns, hf⟩
      | nothing => exact hr
  have hstart : ClearLines p (ls.dropWhile Line.isEmpty) := fun l hl =>
    hls l ((List.dropWhile_suffix _).subset hl)
  refine hadd _ (findings_clear hp hstart style _) _ ⟨?_, ?_, ?_⟩ <;> exact fun _ h => nomatch h

end

/-- The reports of the line readers hold no line boundary. -/
theorem Style.parse_clear (hp : ∀ c, p c = true → isLineBreak c = true) {style : Style} {doc : List Char}
    {report : Report} (h : style.parse (splitLines doc) = .ok report) : report.Clear p := by
  rw [Style.parse_eq] at h
  obtain rfl := Except.ok.inj h
  refine style.report_clear hp fun l hl => ?_
  rw [numberedFrom_eq_map] at hl
  obtain ⟨⟨i, text⟩, ht, rfl⟩ := List.mem_map.1 hl
  have htext := (splitLines_clear doc text (List.of_mem_zip ht).2).mono hp
  exact htext.of_subset (trimRightBy_isPrefix _ _).subset

/-! ### What the docstring documents -/

/-- Every type that is documented is free of the class. -/
structure Documented.Clear (p : Char → Bool) (d : Documented) : Prop where
  params : ∀ q ∈ d.params, q.entry.Clear p
  result : ∀ e ∈ d.result, e.Clear p

section
variable {options : Options} {es ys : List Entry} {e : Option Entry} {ns ns' : List Notice}
  (hp : ∀ c, p c = true → isLineBreak c = true) (hes : ∀ e ∈ es, e.Clear p)
include hp hes

theorem castReturns_clear (h : (castReturns options es).run.run ns = (.ok e, ns')) : ∀ x ∈ e, x.Clear p := by
  have hconst {text : List Char} (h : Clear isLineBreak text) : Clear p text := h.mono hp
  unfold castReturns at h
  split at h
  · cases h
    exact fun x hx => nomatch hx
  · cases h
    rintro x ⟨⟩
    exact hes _ (.head _)
  · split at h
    · cases h
      rintro x ⟨⟩ _ ⟨⟩
      refine ((hconst (by decide)).append ((hconst (by decide)).intercalate ?_)).append (hconst (by decide))
      intro type htype
      obtain ⟨y, hy, hey⟩ := List.mem_filterMap.1 htype
      exact hes y hy type hey
    · obtain ⟨_, _, _, h⟩ := run_bind_eq_ok h
      cases h
      exact fun x hx => nomatch hx

theorem castYields_clear (h : (castYields options es).run.run ns = (.ok e, ns')) : ∀ x ∈ e, x.Clear p := by
  have hconst {text : List Char} (h : Clear isLineBreak text) : Clear p text := h.mono hp
  unfold castYields at h
  split at h
  · cases h
    exact fun x hx => nomatch hx
  · split at h
    · obtain ⟨r, ns₁, hr, h⟩ := run_bind_eq_ok h
      have hclear := castReturns_clear hp hes hr
      cases r with
      | none =>
        cases h
        exact fun x hx => nomatch hx
      | some result =>
        cases h
        rintro x ⟨⟩ _ ⟨⟩
        refine ((hconst (by decide)).append ?_).append (hconst (by decide))
        cases htype : result.type with
        | none => exact hconst (by decide)
        | some type => exact hclear result rfl type htype
    · obtain ⟨_, _, _, h⟩ := run_bind_eq_ok h
      cases h
      exact fun x hx => nomatch hx

theorem castResult_clear (hys : ∀ e ∈ ys, e.Clear p)
    (h : (castResult options es ys).run.run ns = (.ok e, ns')) : ∀ x ∈ e, x.Clear p := by
  have hcast {ns : List Notice} (h : (if !ys.isEmpty then castYields options ys
      else castReturns options es).run.run ns = (.ok e, ns')) : ∀ x ∈ e, x.Clear p := by
    split at h
    · exact castYields_clear hp hys h
    · exact castReturns_clear hp hes h
  cases es with
  | nil => exact hcast h
  | cons first _ =>
    cases ys with
    | nil => exact hcast h
    | cons _ _ =>
      obtain ⟨_, _, _, h⟩ := run_bind_eq_ok (x := Parse.notify .warning bothText first.line) h
      exact hcast h

end

section
variable {format : Format} {options : Options} {doc : List Char} {d : Documented} {ns ns' : List Notice}

theorem parse_clear_of_read (hp : ∀ c, p c = true → isLineBreak c = true)
    (hread : ∀ report ns ns', (format.read options.markup (clean doc)).run.run ns = (.ok report, ns') → report.Clear p)
    (h : (format.parse options doc).run.run ns = (.ok d, ns')) : d.Clear p := by
  obtain ⟨report, ns₁, hreport, h⟩ := run_bind_eq_ok h
  obtain ⟨result, ns₂, hcast, h⟩ := run_bind_eq_ok h
  have hclear := hread report ns ns₁ hreport
  cases h
  exact ⟨fun q hq => hclear.params q (castParams_subset _ hq),
    castResult_clear hp hclear.returns hclear.yields hcast⟩

/-- A docstring that a line reader reads documents no type with a line boundary. -/
theorem parse_clear (hp : ∀ c, p c = true → isLineBreak c = true) (hformat : format ≠ .rest)
    (h : (format.parse options doc).run.run ns = (.ok d, ns')) : d.Clear p := by
  refine parse_clear_of_read hp (fun report ns ns' hread => ?_) h
  unfold Format.read at hread
  cases format with
  | rest => exact absurd rfl hformat
  | google | numpy =>
    simp only at hread
    split at hread
    · rename_i r hr
      cases hread
      exact Style.parse_clear hp hr
    · cases hread

end

end Docstring
end TypeComments
