import TypeComments.Proofs.OutlineRun
import TypeComments.Proofs.Renumbering

/-!
# Sections are independent

A heading ends whatever stands in front of it just as the end of the text does: it is flush, so no test
that looks ahead can tell the two apart (`Scope.ends_append`, `headingAt_append`). Hence the lines in
front of a heading are read as if they stood alone, and those from the heading on as if they stood
alone too, but for their numbers: `findings_append` and `Style.report_shift`. `parse_append` puts the two
reports together.
-/

namespace TypeComments.Docstring

/-! ### In front of a heading -/

section
variable {style : Style} {directives : List (List Char)} {ys : List Line}

/-- A heading is neither blank nor indented nor an underline. -/
theorem heading_head (hy : headingAt style directives ys = true) :
    ∃ l rest, ys = l :: rest ∧ l.isEmpty = false ∧ indentOf l.text = 0 ∧ isUnderline l.text = false := by
  cases ys with
  | nil => simp [headingAt] at hy
  | cons l rest =>
    obtain ⟨c, t, hl, hc, hu⟩ := headingAt_flush hy
    exact ⟨l, rest, rfl, by simp [Line.isEmpty, hl], by simp [hl, indentOf, hc], hu⟩

theorem dropWhile_isEmpty_append (hy : headingAt style directives ys = true) (s : List Line) :
    (s ++ ys).dropWhile Line.isEmpty = s.dropWhile Line.isEmpty ++ ys := by
  obtain ⟨l, rest, rfl, hl, -⟩ := heading_head hy
  induction s with
  | nil => simp [hl]
  | cons a s ih =>
    cases ha : a.isEmpty with
    | true => simp [ha, ih]
    | false => simp [ha]

theorem takeWhile_isEmpty_append (hy : headingAt style directives ys = true) (s : List Line) :
    (s ++ ys).takeWhile Line.isEmpty = s.takeWhile Line.isEmpty := by
  obtain ⟨l, rest, rfl, hl, -⟩ := heading_head hy
  induction s with
  | nil => simp [hl]
  | cons a s ih =>
    cases ha : a.isEmpty with
    | true => simp [ha, ih]
    | false => simp [ha]

theorem indentAhead_append (hy : headingAt style directives ys = true) (s : List Line) :
    indentAhead (s ++ ys) = indentAhead s := by
  have hdrop := dropWhile_isEmpty_append hy s
  obtain ⟨l, rest, rfl, -, hindent, -⟩ := heading_head hy
  simp only [indentAhead]
  rw [show List.dropWhile (fun l : Line => l.text.isEmpty) = List.dropWhile Line.isEmpty from rfl, hdrop]
  cases s.dropWhile Line.isEmpty with
  | nil => exact hindent
  | cons a s => rfl

/-- Only the first line of a heading matters to the lines before it. -/
theorem headingAt_append (hy : headingAt style directives ys = true) (l : Line) (s : List Line) :
    headingAt style directives (l :: s ++ ys) = headingAt style directives (l :: s) := by
  cases style with
  | google => simp only [List.cons_append, headingAt, indentAhead_append hy]
  | numpy =>
    obtain ⟨h, rest, rfl, -, -, hu⟩ := heading_head hy
    cases hs : (sectionKind? (lower l.text)).isSome with
    | false => simp only [List.cons_append, headingAt, hs]
    | true =>
      cases s with
      | cons u s => simp only [List.cons_append, headingAt, hs]
      | nil =>
        -- a name on the last line is no heading, and over a heading it is none either
        simp [headingAt, hs, hu, isDirectiveHeading, not_opensDirective_of_sectionName hs]

end

/-! ### Loops in front of a heading -/

section
variable {α : Type} {p : List α → Bool} {ys : List α}

theorem takeAhead_append (hnil : p [] = false) (hp : ∀ s, p (s ++ ys) = p s) (s : List α) :
    takeAhead p (s ++ ys) = takeAhead p s := by
  induction s with
  | nil =>
    have hys : p ys = false := (hp []).trans hnil
    cases ys with
    | nil => rfl
    | cons y ys => simp [takeAhead, hys]
  | cons a s ih => rw [List.cons_append, takeAhead, takeAhead, ← List.cons_append, hp, ih]

theorem dropAhead_append (hnil : p [] = false) (hp : ∀ s, p (s ++ ys) = p s) (s : List α) :
    dropAhead p (s ++ ys) = dropAhead p s ++ ys := by
  have h : takeAhead p s ++ dropAhead p (s ++ ys) = takeAhead p s ++ (dropAhead p s ++ ys) := by
    rw [← List.append_assoc, takeAhead_append_dropAhead, ← takeAhead_append hnil hp,
      takeAhead_append_dropAhead]
  exact List.append_cancel_left h

end

namespace Scope
variable (sc : Scope) {ys : List Line}

/-- A section ends in front of a heading where it ends at the end of the text. -/
theorem ends_append (hy : headingAt sc.style sc.directives ys = true) (s : List Line) :
    sc.ends (s ++ ys) = sc.ends s := by
  cases s with
  | nil =>
    obtain ⟨l, rest, rfl, -⟩ := heading_head hy
    rw [List.nil_append, ends, breakAt, if_pos hy]
    rfl
  | cons l s =>
    have hblank : ((s ++ ys).head?.map (·.text.isEmpty)).getD false =
        (s.head?.map (·.text.isEmpty)).getD false := by
      cases s with
      | cons a s => rfl
      | nil =>
        obtain ⟨h, rest, rfl, hh, -⟩ := heading_head hy
        exact hh
    have hh := headingAt_append hy l s
    rw [List.cons_append] at hh ⊢
    simp only [ends, breakAt, hh, hblank]

theorem below_append (hy : headingAt sc.style sc.directives ys = true) (indent : Int) (s : List Line) :
    sc.below indent (s ++ ys) = sc.below indent s := by
  rw [below, below, ends_append sc hy]
  cases s with
  | cons a s => rfl
  | nil => rfl

theorem fields_append (hy : headingAt sc.style sc.directives ys = true) (s : List Line) :
    sc.fields (s ++ ys) = ((sc.fields s).1, (sc.fields s).2 ++ ys) := by
  fun_induction fields sc s with
  | case1 =>
    obtain ⟨l, rest, rfl, -⟩ := heading_head hy
    have hends : sc.ends (l :: rest) = true := ends_append sc hy []
    rw [List.nil_append, fields_cons, if_pos hends]
  | case2 l s hends => rw [List.cons_append, fields_cons, ← List.cons_append, ends_append sc hy, if_pos hends]
  | case3 l s hends more ih =>
    rw [List.cons_append, fields_cons, ← List.cons_append, ends_append sc hy, if_neg hends,
      dropAhead_append (by simp [below]) (below_append sc hy _), ih]

theorem body_append (hy : headingAt sc.style sc.directives ys = true) (s : List Line) :
    sc.body (s ++ ys) = ((sc.body s).1, (sc.body s).2 ++ ys) := by
  have hp : ∀ s, (!sc.ends (s ++ ys)) = !sc.ends s := fun s => by rw [ends_append sc hy]
  simp only [body, dropWhile_isEmpty_append hy, takeWhile_isEmpty_append hy,
    takeAhead_append (p := fun ls => !sc.ends ls) rfl hp, dropAhead_append (p := fun ls => !sc.ends ls) rfl hp]

theorem params_append (hy : headingAt sc.style sc.directives ys = true) (preferType : Bool) (s : List Line) :
    sc.params preferType (s ++ ys) = ((sc.params preferType s).1, (sc.params preferType s).2 ++ ys) := by
  simp only [params, dropWhile_isEmpty_append hy, fields_append sc hy]

theorem results_append (hy : headingAt sc.style sc.directives ys = true) (s : List Line) :
    sc.results (s ++ ys) = ((sc.results s).1, (sc.results s).2 ++ ys) := by
  unfold results
  cases sc.style <;> simp only [body_append sc hy, params_append sc hy]

theorem found_append (hy : headingAt sc.style sc.directives ys = true) (heading : List Char) (s : List Line) :
    sc.found heading (s ++ ys) = ((sc.found heading s).1, (sc.found heading s).2 ++ ys) := by
  simp only [found, body_append sc hy, params_append sc hy, results_append sc hy]
  split
  · rfl
  split <;> rfl

end Scope

section
variable {style : Style} {directives : List (List Char)} {ys : List Line}

theorem cutHeading_append {l : Line} {s : List Line} (h : headingAt style directives (l :: s) = true)
    (ys : List Line) :
    style.cutHeading l (s ++ ys) = ((style.cutHeading l s).1, (style.cutHeading l s).2 ++ ys) := by
  cases style with
  | google => rfl
  | numpy =>
    simp only [Style.cutHeading]
    rcases headingAt_numpy h with ⟨-, u, s', rfl, -⟩ | hd
    · split <;> rfl
    · simp [hd]

theorem turn_append (hy : headingAt style directives ys = true) (l : Line) (s : List Line) :
    turn style directives l (s ++ ys) =
      ((turn style directives l s).1, (turn style directives l s).2 ++ ys) := by
  have hh := headingAt_append hy l s
  rw [List.cons_append] at hh
  simp only [turn, hh]
  split
  · rename_i h
    rw [cutHeading_append h, indentAhead_append hy]
    exact Scope.found_append ⟨style, directives, true, _⟩ hy _ _
  · rw [← List.cons_append, Scope.body_append ⟨style, directives, false, 0⟩ hy]

theorem findings_append (hy : headingAt style directives ys = true) (s : List Line) :
    findings style directives (s ++ ys) = findings style directives s ++ findings style directives ys := by
  fun_induction findings style directives s with
  | case1 => rfl
  | case2 l s ih => rw [List.cons_append, findings_cons, turn_append hy, ih, List.cons_append]

end

/-! ### Line numbers -/

def Line.shift (k : Nat) (l : Line) : Line :=
  { l with number := l.number + k }

def Entry.shift (k : Nat) (e : Entry) : Entry :=
  { e with line := e.line.map (· + (k : Int)) }

def Param.shift (k : Nat) (p : Param) : Param :=
  { p with entry := p.entry.shift k }

def Report.shift (k : Nat) (r : Report) : Report :=
  ⟨r.params.map (List.map (Param.shift k)), r.returns.map (List.map (Entry.shift k)),
    r.yields.map (List.map (Entry.shift k))⟩

section
variable (k : Nat)

theorem numberedFrom_shift (j : Nat) (lines : List (List Char)) :
    numberedFrom (j + k) lines = (numberedFrom j lines).map (Line.shift k) := by
  induction lines generalizing j with
  | nil => rfl
  | cons text rest ih =>
    rw [numberedFrom, numberedFrom, List.map_cons, ← ih, Nat.add_right_comm j k 1]
    simp [Line.shift, Line.ofIndexed, Nat.add_right_comm]

theorem alike_shift (ls : List Line) :
    List.Forall₂ (Line.Alike fun n n' => n' = n + k) ls (ls.map (Line.shift k)) := by
  rw [List.forall₂_map_right_iff, List.forall₂_same]
  exact fun l _ => ⟨rfl, rfl⟩

theorem headingAt_shift (style : Style) (directives : List (List Char)) (ls : List Line) :
    headingAt style directives (ls.map (Line.shift k)) = headingAt style directives ls :=
  (headingAt_alike style directives (alike_shift k ls)).symm

variable {k}

theorem Entry.Alike.eq_shift {e e' : Entry} (h : e.Alike (fun n n' => n' = n + k) e') : e' = e.shift k := by
  obtain ⟨htype, n, n', hline, hline', rfl⟩ := h
  rw [Entry.shift, hline, htype, Option.map_some, ← Int.natCast_add, ← hline']

theorem Param.Alike.eq_shift {p p' : Param} (h : p.Alike (fun n n' => n' = n + k) p') : p' = p.shift k := by
  rw [Param.shift, h.name, ← h.entry.eq_shift]

theorem eq_map_of_rel {α : Type} {S : α → α → Prop} {f : α → α} (hS : ∀ a b, S a b → b = f a)
    {o o' : Option (List α)} (h : Option.Rel (List.Forall₂ S) o o') : o' = o.map (List.map f) := by
  cases h with
  | none => rfl
  | @some as bs h =>
    have heq : List.Forall₂ (fun b a => b = f a) bs as := (h.imp hS).flip
    rw [← List.forall₂_map_right_iff, List.forall₂_eq_eq_eq] at heq
    rw [heq, Option.map_some]

theorem Report.Alike.eq_shift {r r' : Report} (h : r.Alike (fun n n' => n' = n + k) r') : r' = r.shift k := by
  have hparams := eq_map_of_rel (fun _ _ hp => Param.Alike.eq_shift hp) h.params
  have hreturns := eq_map_of_rel (fun _ _ he => Entry.Alike.eq_shift he) h.returns
  have hyields := eq_map_of_rel (fun _ _ he => Entry.Alike.eq_shift he) h.yields
  rw [Report.shift, ← hparams, ← hreturns, ← hyields]

end

/-! ### Reports -/

/-- The later report, and the earlier one for the parts that the later one does not have. -/
def Report.override (earlier later : Report) : Report :=
  ⟨later.params.or earlier.params, later.returns.or earlier.returns, later.yields.or earlier.yields⟩

theorem override_addTo (r later : Report) (f : Finding) :
    f.addTo (r.override later) = r.override (f.addTo later) := by
  cases f <;> rfl

theorem foldl_addTo (r : Report) (fs : List Finding) :
    fs.foldl Finding.addTo r = r.override (fs.foldl Finding.addTo .empty) := by
  suffices h : ∀ later, fs.foldl Finding.addTo (r.override later) = r.override (fs.foldl Finding.addTo later) from
    h .empty
  induction fs with
  | nil => exact fun _ => rfl
  | cons f fs ih =>
    intro later
    rw [List.foldl_cons, List.foldl_cons, override_addTo, ih]

/-- What lines and a headed text below them document together. -/
theorem Style.report_append {style : Style} {xs ys : List Line} (hy : headingAt style style.directives ys = true) :
    style.report (xs ++ ys) = (style.report xs).override (style.report ys) := by
  have hys := dropWhile_isEmpty_append hy []
  rw [List.nil_append, List.dropWhile_nil, List.nil_append] at hys
  rw [Style.report, dropWhile_isEmpty_append hy, findings_append hy, List.foldl_append, foldl_addTo, ← Style.report,
    Style.report, Style.report, hys]

theorem Style.report_shift (style : Style) (k : Nat) (ls : List Line) :
    style.report (ls.map (Line.shift k)) = (style.report ls).shift k :=
  (style.report_alike (alike_shift k ls)).eq_shift

theorem headingAt_of_isHeading {style : Style} {lines : List (List Char)}
    (h : (Read.isHeading.run (Reader.ofLines style lines)).1 = .ok true) :
    headingAt style style.directives (numberedFrom 0 lines) = true := by
  have ha := (Reader.ready_ofLines style lines).2
  cases hlines : (Reader.ofLines style lines).ahead with
  | nil =>
    have hrun : (Read.isHeading.run (Reader.ofLines style lines)).1 = .error .headingAtEnd := by
      rw [Read.isHeading, Read.run_bind_ok (Read.lookAhead_run _), Read.run_bind_ok Read.run_get, hlines]
      rfl
    rw [hrun] at h
    simp at h
  | cons l rest =>
    rw [(isHeading_runs (by simp [hlines])).run] at h
    rw [← ha]
    exact Except.ok.inj h

/-- Sections are independent: if `ys` starts with a heading when it is read alone, then reading `xs` and
`ys` together gives what `ys` documents, moved down by the length of `xs`, and what `xs` documents for
the parts that `ys` does not have. -/
theorem parse_append (style : Style) (xs ys : List (List Char))
    (h : (Read.isHeading.run (Reader.ofLines style ys)).1 = .ok true) :
    ∃ rx ry, style.parse xs = .ok rx ∧ style.parse ys = .ok ry ∧ style.parse (xs ++ ys) = .ok
      ⟨(ry.shift xs.length).params.or rx.params, (ry.shift xs.length).returns.or rx.returns,
        (ry.shift xs.length).yields.or rx.yields⟩ := by
  refine ⟨_, _, style.parse_eq xs, style.parse_eq ys, ?_⟩
  have hy : headingAt style style.directives (numberedFrom (0 + xs.length) ys) = true := by
    rw [numberedFrom_shift, headingAt_shift]
    exact headingAt_of_isHeading h
  rw [style.parse_eq, numberedFrom_append, Style.report_append hy, numberedFrom_shift, Style.report_shift]
  rfl

/-- Returned values above, parameters below. -/
theorem parse_append_numpy :
    (Read.isHeading.run (Reader.ofLines .numpy ["Parameters".toList, "---".toList, "a : int".toList])).1 = .ok true ∧
      ∃ rx ry, Style.parse .numpy ["Returns".toList, "----".toList, "str".toList, []] = .ok rx ∧
        Style.parse .numpy ["Parameters".toList, "---".toList, "a : int".toList] = .ok ry ∧
        Style.parse .numpy (["Returns".toList, "----".toList, "str".toList, []] ++
          ["Parameters".toList, "---".toList, "a : int".toList]) = .ok
            ⟨(ry.shift 4).params.or rx.params, (ry.shift 4).returns.or rx.returns,
              (ry.shift 4).yields.or rx.yields⟩ :=
  ⟨by decide +kernel, parse_append .numpy _ _ (by decide +kernel)⟩

end TypeComments.Docstring
