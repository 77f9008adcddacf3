import TypeComments.Proofs.Headings
import TypeComments.Proofs.Outline

/-!
# The reader computes the outline

Each step of the reader runs without a fault and gives what its function of the lines ahead says. A loop
ends by its own test, never by its bound: it takes a line in each turn, and the bound is the number of
lines ahead.
-/

namespace TypeComments.Docstring
open Read
variable {r : Reader}

/-! ### Tests -/

theorem hasNext_runs (r : Reader) : Runs hasNext r (!r.ahead.isEmpty) [] (r.look 1) :=
  (Runs.lookAhead fun _ _ => 1).bind_nil (.pure _)

theorem isHeading_runs (h : r.ahead ≠ []) :
    Runs isHeading r (headingAt r.style r.directives r.ahead) [] (r.look (headingReach r.style r.ahead)) := by
  refine (Runs.lookAhead headingReach).bind_nil (Runs.get.bind_nil ?_)
  rw [if_neg (by simpa using h)]
  exact .pure _

theorem isBreak_runs (r : Reader) :
    Runs isBreak r (breakAt r.scope.style r.scope.directives r.scope.inSection r.scope.indent r.ahead) []
      (r.look (breakReach r.style r.ahead)) :=
  (Runs.lookAhead breakReach).bind_nil (Runs.get.bind_nil (.pure _))

/-! ### Loops -/

/-- A loop whose test looks at the lines ahead only takes what `takeAhead` says. -/
theorem takeWhileUpTo_runs {more : Read Bool} {p : List Line → Bool} {sc : Scope} (hnil : p [] = false)
    (hmore : ∀ r : Reader, r.Ready → r.scope = sc → ∃ r', Runs more r (p r.ahead) [] r') (limit : Nat) :
    ∀ r : Reader, r.Ready → r.scope = sc → r.ahead.length ≤ limit →
      ∃ r', Runs (takeWhileUpTo more limit) r (takeAhead p r.ahead) (takeAhead p r.ahead) r' := by
  induction limit with
  | zero =>
    intro r hr hsc hlen
    have ha : r.ahead = [] := List.eq_nil_of_length_eq_zero (by omega)
    obtain ⟨r', h⟩ := hmore r hr hsc
    rw [ha, hnil] at h
    exact ⟨r', by rw [ha]; exact h.bind_nil (.pure _)⟩
  | succ limit ih =>
    intro r hr hsc hlen
    obtain ⟨r₁, h₁⟩ := hmore r hr hsc
    have ha₁ : r₁.ahead = r.ahead := h₁.ahead_eq hr rfl
    cases hp : p r.ahead with
    | false =>
      rw [hp] at h₁
      have hnone : takeAhead p r.ahead = [] := by
        cases ha : r.ahead with
        | nil => rfl
        | cons l ls => rw [takeAhead, ← ha, hp]; rfl
      rw [hnone]
      exact ⟨r₁, h₁.bind_nil (.pure _)⟩
    | true =>
      rw [hp] at h₁
      cases ha : r.ahead with
      | nil => rw [ha, hnil] at hp; simp at hp
      | cons l ls =>
        obtain ⟨r₂, h₂⟩ := Runs.next (h₁.ready hr) (ha₁.trans ha)
        have ha₂ : r₂.ahead = ls := h₂.ahead_eq (h₁.ready hr) (ha₁.trans ha)
        have hlen₂ : r₂.ahead.length ≤ limit := by
          rw [ha, List.length_cons] at hlen
          rw [ha₂]
          omega
        obtain ⟨r₃, h₃⟩ := ih r₂ (h₂.ready (h₁.ready hr)) (h₂.scope.trans (h₁.scope.trans hsc)) hlen₂
        have htake : takeAhead p (l :: ls) = l :: takeAhead p ls := by rw [takeAhead, ← ha, hp]; rfl
        rw [htake]
        rw [ha₂] at h₃
        exact ⟨r₃, h₁.bind_nil (h₂.bind (h₃.bind_pure _))⟩

theorem takeWhile_runs {more : Read Bool} {p : List Line → Bool} (hnil : p [] = false) (hr : r.Ready)
    (hmore : ∀ r' : Reader, r'.Ready → r'.scope = r.scope → ∃ r'', Runs more r' (p r'.ahead) [] r'') :
    ∃ r', Runs (Read.takeWhile more) r (takeAhead p r.ahead) (takeAhead p r.ahead) r' := by
  obtain ⟨r', h⟩ := takeWhileUpTo_runs hnil hmore r.ahead.length r hr rfl (Nat.le_refl _)
  exact ⟨r', Runs.get.bind_nil h⟩

theorem takeEmpty_runs (hr : r.Ready) :
    ∃ r', Runs takeEmpty r (r.ahead.takeWhile Line.isEmpty) (r.ahead.takeWhile Line.isEmpty) r' := by
  rw [← (takeAhead_head Line.isEmpty r.ahead).1]
  refine takeWhile_runs rfl hr fun r' _ _ => ⟨r'.look 1, (Runs.lookAhead _).bind_nil ?_⟩
  cases ha : r'.ahead <;> exact .pure _

theorem takeIndented_runs (hr : r.Ready) (indent : Int) :
    ∃ r', Runs (takeIndented indent) r (takeAhead (r.scope.below indent) r.ahead)
      (takeAhead (r.scope.below indent) r.ahead) r' := by
  refine takeWhile_runs (by simp [Scope.below]) hr fun r' hr' hsc => ?_
  refine ⟨r'.look (breakReach r'.style r'.ahead), (isBreak_runs r').bind_nil (Runs.get.bind_nil ?_)⟩
  have ha : (r'.look (breakReach r'.style r'.ahead)).ahead = r'.ahead := (hr'.look _).2.1
  rw [ha, ← hsc]
  cases r'.ahead <;> exact .pure _

theorem takeUnbroken_runs (hr : r.Ready) :
    ∃ r', Runs (Read.takeWhile do pure !(← isBreak).ends) r
      (takeAhead (fun ls => !r.scope.ends ls) r.ahead) (takeAhead (fun ls => !r.scope.ends ls) r.ahead) r' := by
  refine takeWhile_runs rfl hr fun r' _ hsc => ?_
  rw [← hsc]
  exact ⟨_, (isBreak_runs r').bind_pure _⟩

theorem takeSection_runs (hr : r.Ready) : ∃ r' ls, Runs takeSection r (r.scope.body r.ahead).1 ls r' ∧
    r'.ahead = (r.scope.body r.ahead).2 := by
  obtain ⟨r₁, h₁⟩ := takeEmpty_runs hr
  have ha₁ : r₁.ahead = r.ahead.dropWhile Line.isEmpty := h₁.ahead_eq hr List.takeWhile_append_dropWhile.symm
  obtain ⟨r₂, h₂⟩ := takeUnbroken_runs (h₁.ready hr)
  have ha₂ := h₂.ahead_eq (h₁.ready hr) (takeAhead_append_dropAhead _ r₁.ahead).symm
  have hr₂ := h₂.ready (h₁.ready hr)
  obtain ⟨r₃, h₃⟩ := takeEmpty_runs hr₂
  have ha₃ := h₃.ahead_eq hr₂ List.takeWhile_append_dropWhile.symm
  rw [h₁.scope, ha₁] at h₂ ha₂
  rw [ha₂] at h₃ ha₃
  exact ⟨r₃, _, h₁.bind (h₂.bind (h₃.bind_pure _)), ha₃⟩

/-! ### Fields -/

theorem takeField_runs (hr : r.Ready) {l : Line} {rest : List Line} (ha : r.ahead = l :: rest)
    (preferType : Bool) : ∃ r' ls, Runs (takeField true preferType) r (fieldOf r.style true preferType l) ls r' ∧
      r'.ahead = dropAhead (r.scope.below (indentOf l.text + 1)) rest := by
  obtain ⟨r₁, h₁⟩ := Runs.next hr ha
  have ha₁ : r₁.ahead = rest := h₁.ahead_eq hr ha
  obtain ⟨r₂, h₂⟩ := takeIndented_runs (h₁.ready hr) (indentOf l.text + 1)
  have ha₂ := h₂.ahead_eq (h₁.ready hr) (takeAhead_append_dropAhead _ r₁.ahead).symm
  rw [h₁.scope, ha₁] at h₂ ha₂
  rw [← h₁.style]
  exact ⟨r₂, _, h₁.bind (Runs.get.bind_nil (by rw [if_neg (by simp)]; exact h₂.bind_pure _)), ha₂⟩

theorem takeFieldsUpTo_runs (preferType : Bool) (limit : Nat) : ∀ r : Reader, r.Ready → r.ahead.length ≤ limit →
    ∃ r' ls, Runs (takeFieldsUpTo true preferType limit) r
        (((r.scope.fields r.ahead).1.map (fieldOf r.style true preferType)).filter isMeaningful) ls r' ∧
      r'.ahead = (r.scope.fields r.ahead).2 := by
  induction limit with
  | zero =>
    intro r hr hlen
    have ha : r.ahead = [] := List.eq_nil_of_length_eq_zero (by omega)
    have hb := isBreak_runs r
    rw [ha] at hb
    rw [ha, Scope.fields_nil]
    exact ⟨_, [], hb.bind_nil (.pure _), (hr.look _).2.1.trans ha⟩
  | succ limit ih =>
    intro r hr hlen
    have hb := isBreak_runs r
    set r₁ := r.look (breakReach r.style r.ahead)
    have ha₁ : r₁.ahead = r.ahead := hb.ahead_eq hr rfl
    cases hends : r.scope.ends r.ahead with
    | true =>
      have hfields : r.scope.fields r.ahead = ([], r.ahead) := by
        cases ha : r.ahead with
        | nil => exact r.scope.fields_nil
        | cons l rest => rw [Scope.fields_cons, ← ha, hends]; rfl
      rw [hfields]
      exact ⟨r₁, [], hb.bind_nil (by rw [if_pos (show Break.ends _ = true from hends)]; exact .pure _), ha₁⟩
    | false =>
      cases ha : r.ahead with
      | nil => rw [ha] at hends; simp [Scope.ends, breakAt, Break.ends] at hends
      | cons l rest =>
        have hfields := r.scope.fields_cons l rest
        rw [← ha, hends, ha, if_neg (by simp)] at hfields
        obtain ⟨r₂, ls₂, h₂, ha₂⟩ := takeField_runs (hb.ready hr) (ha₁.trans ha) preferType
        rw [hb.scope] at ha₂
        have hlen₂ : r₂.ahead.length ≤ limit := by
          have := (dropAhead_suffix (r.scope.below (indentOf l.text + 1)) rest).length_le
          rw [ha, List.length_cons] at hlen
          rw [ha₂]
          omega
        obtain ⟨r₃, ls₃, h₃, ha₃⟩ := ih r₂ (h₂.ready (hb.ready hr)) hlen₂
        rw [h₂.scope, h₂.style, hb.scope, hb.style, ha₂] at h₃
        rw [h₂.scope, hb.scope, ha₂] at ha₃
        rw [hb.style] at h₂
        rw [hfields, List.map_cons, List.filter_cons]
        exact ⟨r₃, _, hb.bind_nil (by
          rw [if_neg (by rw [show Break.ends _ = false from hends]; simp)]
          exact h₂.bind (h₃.bind_pure _)), ha₃⟩

theorem takeFields_runs (hr : r.Ready) (preferType : Bool) :
    ∃ r' ls, Runs (takeFields true preferType) r (r.scope.params preferType r.ahead).1 ls r' ∧
      r'.ahead = (r.scope.params preferType r.ahead).2 := by
  obtain ⟨r₁, h₁⟩ := takeEmpty_runs hr
  have ha₁ : r₁.ahead = r.ahead.dropWhile Line.isEmpty := h₁.ahead_eq hr List.takeWhile_append_dropWhile.symm
  obtain ⟨r₂, ls, h₂, ha₂⟩ := takeFieldsUpTo_runs preferType r₁.ahead.length r₁ (h₁.ready hr) (Nat.le_refl _)
  rw [h₁.scope, ha₁] at ha₂
  have hvalue : (r.scope.params preferType r.ahead).1 =
      ((r₁.scope.fields r₁.ahead).1.map (fieldOf r₁.style true preferType)).filter isMeaningful := by
    rw [h₁.scope, h₁.style, ha₁]
    rfl
  rw [hvalue]
  exact ⟨r₂, _, h₁.bind (Runs.get.bind_nil h₂), ha₂⟩

theorem takeResults_runs (hr : r.Ready) : ∃ r' ls, Runs takeResults r (r.scope.results r.ahead).1 ls r' ∧
    r'.ahead = (r.scope.results r.ahead).2 := by
  cases hs : r.style with
  | google =>
    have hs' : r.scope.style = .google := hs
    obtain ⟨r', ls, h, ha⟩ := takeSection_runs hr
    simp only [Scope.results, hs']
    exact ⟨r', ls, Runs.get.bind_nil (by simp only [hs]; exact h.bind_pure _), ha⟩
  | numpy =>
    have hs' : r.scope.style = .numpy := hs
    obtain ⟨r', ls, h, ha⟩ := takeFields_runs hr true
    simp only [Scope.results, hs']
    exact ⟨r', ls, Runs.get.bind_nil (by simp only [hs]; exact h.bind_pure _), ha⟩

/-! ### Sections -/

/-- The step enters `f` into the report, leaves the section as it was and the lines `left` ahead. -/
structure Enters (m : Read Unit) (r : Reader) (f : Finding) (left : List Line) (r' : Reader) : Prop where
  run : m.run r = (.ok (), r')
  takes : ∃ ls, r.Takes ls r'
  ahead : r'.ahead = left
  scope : r'.scope = r.scope
  report : r'.report = f.addTo r.report

theorem Runs.enters {m : Read Unit} {r' : Reader} {ls : List Line} (h : Runs m r () ls r') :
    Enters m r .nothing r'.ahead r' :=
  ⟨h.run, ⟨ls, h.takes⟩, rfl, h.scope, h.report⟩

theorem Runs.modify_enters {α : Type} {m : Read α} {a : α} {r' : Reader} {ls : List Line}
    (h : Runs m r a ls r') (f : α → Finding) :
    Enters (m >>= fun a => modify fun r => { r with report := (f a).addTo r.report }) r (f a) r'.ahead
      { r' with report := (f a).addTo r'.report } where
  run := by rw [run_bind_ok h.run]; rfl
  takes := ⟨ls, .mark r'.inSection r'.sectionIndent _ h.takes⟩
  ahead := rfl
  scope := h.scope
  report := by rw [← h.report]

theorem Runs.bind_enters {α : Type} {m : Read α} {a : α} {r' r'' : Reader} {f : α → Read Unit} {found : Finding}
    {left : List Line} (h : Runs m r a [] r') (h' : Enters (f a) r' found left r'') :
    Enters (m >>= f) r found left r'' where
  run := by rw [run_bind_ok h.run, h'.run]
  takes := h'.takes.imp fun _ ht => h.takes.trans ht
  ahead := h'.ahead
  scope := h'.scope.trans h.scope
  report := by rw [← h.report, ← h'.report]

theorem skipSection_enters (hr : r.Ready) :
    ∃ r', Enters skipSection r .nothing (r.scope.body r.ahead).2 r' := by
  obtain ⟨r', ls, h, ha⟩ := takeSection_runs hr
  rw [← ha]
  exact ⟨r', (h.bind_pure _).enters⟩

theorem readSection_enters (hr : r.Ready) {heading : List Char}
    (h : opensDirective heading = true ∨ (sectionKind? (lower heading)).isSome = true) :
    ∃ r', Enters (readSection heading) r (r.scope.found heading r.ahead).1 (r.scope.found heading r.ahead).2 r' := by
  have hskip := skipSection_enters hr
  unfold readSection Scope.found
  cases hd : opensDirective heading with
  | true => simpa using hskip
  | false =>
    obtain ⟨kind, hkind⟩ := Option.isSome_iff_exists.1 (h.resolve_left (by simp [hd]))
    simp only [Bool.false_eq_true, ↓reduceIte, hkind]
    cases kind with
    | params =>
      obtain ⟨r', ls, h, ha⟩ := takeFields_runs hr false
      exact ⟨_, ha ▸ h.modify_enters .params⟩
    | returns =>
      obtain ⟨r', ls, h, ha⟩ := takeResults_runs hr
      exact ⟨_, ha ▸ h.modify_enters .returns⟩
    | yields =>
      obtain ⟨r', ls, h, ha⟩ := takeResults_runs hr
      exact ⟨_, ha ▸ h.modify_enters .yields⟩
    | skipped => exact hskip

/-- The part of a heading that it is looked up by names a section or opens a directive. -/
theorem cutHeading_named {style : Style} {directives : List (List Char)} {l : Line} {rest : List Line}
    (h : headingAt style directives (l :: rest) = true) :
    opensDirective (style.cutHeading l rest).1 = true ∨
      (sectionKind? (lower (style.cutHeading l rest).1)).isSome = true := by
  cases style with
  | google =>
    simp only [Style.cutHeading]
    cases hs : (sectionKind? (lower (trimBy (· == ':') l.text))).isSome with
    | true => exact .inr (by simpa using hs)
    | false =>
      rcases headingAt_google h with ⟨-, hname, -⟩ | hd
      · rw [hs] at hname
        simp at hname
      · exact .inl (by simpa using opensDirective_of_heading hd)
  | numpy =>
    rcases headingAt_numpy h with ⟨hname, -⟩ | hd
    · exact .inr hname
    · exact .inl hd

theorem takeHeading_runs (hr : r.Ready) {l : Line} {rest : List Line} (ha : r.ahead = l :: rest)
    (h : headingAt r.style r.directives (l :: rest) = true) :
    ∃ r' ls, Runs takeHeading r (r.style.cutHeading l rest).1 ls r' ∧
      r'.ahead = (r.style.cutHeading l rest).2 := by
  obtain ⟨r₁, h₁⟩ := Runs.next hr ha
  have ha₁ : r₁.ahead = rest := h₁.ahead_eq hr ha
  cases hs : r.style with
  | google =>
    have hs₁ : r₁.style = .google := h₁.style.trans hs
    exact ⟨r₁, _, h₁.bind (Runs.get.bind_nil (by simp only [hs₁]; exact .pure _)), ha₁⟩
  | numpy =>
    have hs₁ : r₁.style = .numpy := h₁.style.trans hs
    simp only [Style.cutHeading]
    cases hd : opensDirective l.text with
    | true =>
      exact ⟨r₁, _, h₁.bind (Runs.get.bind_nil (by simp only [hs₁, hd]; exact .pure _)), ha₁⟩
    | false =>
      -- a section name stands over its underline, which is taken too
      rw [hs] at h
      obtain ⟨-, u, rest', rfl, -⟩ := (headingAt_numpy h).resolve_right (by simp [hd])
      obtain ⟨r₂, h₂⟩ := Runs.next (h₁.ready hr) ha₁
      have ha₂ : r₂.ahead = rest' := h₂.ahead_eq (h₁.ready hr) ha₁
      exact ⟨r₂, _, h₁.bind (Runs.get.bind_nil (by simp only [hs₁, hd]; exact h₂.bind_pure _)), ha₂⟩

theorem currentIndent_runs (r : Reader) : ∃ r', Runs (currentIndent 0) r (indentAhead r.ahead) [] r' :=
  ⟨_, (Runs.lookAhead _).bind_pure _⟩

/-- Entering a section: the heading is taken, and the section is indented as the next line is. -/
theorem enterSection_run (hr : r.Ready) {l : Line} {rest : List Line} (ha : r.ahead = l :: rest)
    (h : headingAt r.style r.directives (l :: rest) = true) :
    ∃ r' ls, enterSection.run r = (.ok (r.style.cutHeading l rest).1, r') ∧ r.Takes ls r' ∧
      r'.ahead = (r.style.cutHeading l rest).2 ∧ r'.report = r.report ∧
      r'.scope = ⟨r.style, r.directives, true, indentAhead (r.style.cutHeading l rest).2⟩ := by
  obtain ⟨r₁, ls, h₁, ha₁⟩ := takeHeading_runs hr ha h
  set r₂ : Reader := { r₁ with inSection := true } with hr₂
  have ht₂ : r.Takes ls r₂ := .mark true r₁.sectionIndent r₁.report h₁.takes
  have ha₂ : r₂.ahead = (r.style.cutHeading l rest).2 := ha₁
  obtain ⟨r₃, h₃⟩ := currentIndent_runs r₂
  have ha₃ : r₃.ahead = (r.style.cutHeading l rest).2 := h₃.ahead_eq (ht₂.ready hr) ha₂
  refine ⟨{ r₃ with sectionIndent := indentAhead r₂.ahead }, ls, ?_, ?_, ha₃, ?_, ?_⟩
  · rw [enterSection, run_bind_ok h₁.run, run_bind_ok (run_modify _), run_bind_ok h₃.run,
      run_bind_ok (run_modify _)]
    rfl
  · have ht := Reader.Takes.mark r₃.inSection (indentAhead r₂.ahead) r₃.report (ht₂.trans h₃.takes)
    rwa [List.append_nil] at ht
  · exact h₃.report.trans h₁.report
  · rw [← ha₂, ← h₁.style, ← h₁.directives]
    show (⟨r₃.style, r₃.directives, r₃.inSection, _⟩ : Scope) = _
    rw [h₃.style, h₃.directives, show r₃.inSection = true from congrArg Scope.inSection h₃.scope]

theorem readHeaded_run {r' : Reader} (h : (enterSection >>= readSection).run r = (.ok (), r')) :
    readHeaded.run r = (.ok (), { r' with inSection := false, sectionIndent := 0 }) := by
  rw [readHeaded, ExceptT.run_mk]
  show StateT.bind (ExceptT.run (enterSection >>= readSection)) _ r = _
  simp only [StateT.bind]
  rw [show (ExceptT.run (enterSection >>= readSection)) r = (.ok (), r') from h]
  rfl

/-- Reading a heading and its section; the reader is outside sections again afterwards. -/
theorem readHeaded_enters (hr : r.Ready) (hin : r.inSection = false) (hind : r.sectionIndent = 0) {l : Line}
    {rest : List Line} (ha : r.ahead = l :: rest) (h : headingAt r.style r.directives (l :: rest) = true) :
    ∃ r', Enters readHeaded r (turn r.style r.directives l rest).1 (turn r.style r.directives l rest).2 r' := by
  obtain ⟨r₁, ls, hrun₁, ht₁, ha₁, hrep₁, hsc₁⟩ := enterSection_run hr ha h
  obtain ⟨r₂, h₂⟩ := readSection_enters (ht₁.ready hr) (cutHeading_named h)
  obtain ⟨ls₂, ht₂⟩ := h₂.takes
  have hturn : turn r.style r.directives l rest = r₁.scope.found (r.style.cutHeading l rest).1 r₁.ahead := by
    rw [turn, if_pos h, hsc₁, ha₁]
  rw [hturn]
  refine ⟨{ r₂ with inSection := false, sectionIndent := 0 }, ?_, ⟨_, .mark false 0 r₂.report (ht₁.trans ht₂)⟩,
    h₂.ahead, ?_, by rw [← hrep₁, ← h₂.report]⟩
  · exact readHeaded_run (by rw [run_bind_ok hrun₁, h₂.run])
  · have hsc := h₂.scope.trans hsc₁
    show (⟨r₂.style, r₂.directives, false, 0⟩ : Scope) = ⟨r.style, r.directives, r.inSection, r.sectionIndent⟩
    rw [hin, hind, show r₂.style = r.style from congrArg Scope.style hsc,
      show r₂.directives = r.directives from congrArg Scope.directives hsc]

/-! ### The whole text -/

theorem readTurn_enters (hr : r.Ready) (hin : r.inSection = false) (hind : r.sectionIndent = 0) {l : Line}
    {rest : List Line} (ha : r.ahead = l :: rest) :
    ∃ r', Enters readTurn r (turn r.style r.directives l rest).1
      (turn r.style r.directives l rest).2 r' := by
  have h₁ := isHeading_runs (r := r) (by simp [ha])
  set r₁ := r.look (headingReach r.style r.ahead)
  have ha₁ : r₁.ahead = l :: rest := (h₁.ahead_eq hr rfl).trans ha
  rw [ha] at h₁
  cases hh : headingAt r.style r.directives (l :: rest) with
  | true =>
    rw [hh] at h₁
    obtain ⟨r', h⟩ := readHeaded_enters (h₁.ready hr) hin hind ha₁ hh
    exact ⟨r', h₁.bind_enters h⟩
  | false =>
    rw [hh] at h₁
    obtain ⟨r', h⟩ := skipSection_enters (h₁.ready hr)
    have hturn : turn r.style r.directives l rest = (.nothing, (r₁.scope.body r₁.ahead).2) := by
      rw [turn, if_neg (by simp [hh]), ha₁, h₁.scope, Reader.scope, hin, hind]
    rw [hturn]
    exact ⟨r', h₁.bind_enters h⟩

theorem parseUpTo_run (limit : Nat) : ∀ r : Reader, r.Ready → r.inSection = false → r.sectionIndent = 0 →
    r.ahead.length ≤ limit → ∃ r' ls, (parseUpTo limit).run r = (.ok (), r') ∧ r.Takes ls r' ∧ r'.ahead = [] ∧
      r'.scope = r.scope ∧ r'.report = (findings r.style r.directives r.ahead).foldl Finding.addTo r.report := by
  induction limit with
  | zero =>
    intro r hr hin hind hlen
    have ha : r.ahead = [] := List.eq_nil_of_length_eq_zero (by omega)
    have h₁ := hasNext_runs r
    rw [ha] at h₁
    refine ⟨_, _, run_bind_ok h₁.run, h₁.takes, h₁.ahead_eq hr ha, h₁.scope, ?_⟩
    rw [ha, findings_nil]
    exact h₁.report
  | succ limit ih =>
    intro r hr hin hind hlen
    have h₁ := hasNext_runs r
    have ha₁ : (r.look 1).ahead = r.ahead := h₁.ahead_eq hr rfl
    cases ha : r.ahead with
    | nil =>
      rw [ha] at h₁
      refine ⟨_, _, run_bind_ok h₁.run, h₁.takes, ha₁.trans ha, h₁.scope, ?_⟩
      rw [findings_nil]
      exact h₁.report
    | cons l rest =>
      rw [ha] at h₁
      obtain ⟨r₂, h₂⟩ := readTurn_enters (h₁.ready hr) hin hind (ha₁.trans ha)
      obtain ⟨ls₂, ht₂⟩ := (h₁.bind_enters (f := fun _ => _) h₂).takes
      have hsc₂ : r₂.scope = r.scope := h₂.scope.trans h₁.scope
      have hlen₂ : r₂.ahead.length ≤ limit := by
        have := (turn_suffix r.style r.directives l rest).length_le
        rw [ha, List.length_cons] at hlen
        rw [h₂.ahead]
        exact Nat.le_of_lt_succ (Nat.lt_of_le_of_lt this (by omega))
      obtain ⟨r₃, ls₃, hrun, ht₃, hnil, hsc₃, hrep⟩ := ih r₂ (ht₂.ready hr)
        ((congrArg Scope.inSection hsc₂).trans hin) ((congrArg Scope.indent hsc₂).trans hind) hlen₂
      refine ⟨r₃, _, ?_, ht₂.trans ht₃, hnil, hsc₃.trans hsc₂, ?_⟩
      · rw [parseUpTo, run_bind_ok h₁.run]
        exact (run_bind_ok h₂.run).trans hrun
      · rw [hrep, h₂.report, h₂.ahead, findings_cons, List.foldl_cons,
          show r₂.style = r.style from congrArg Scope.style hsc₂,
          show r₂.directives = r.directives from congrArg Scope.directives hsc₂]
        rfl

/-- The run of a fresh reader: it takes all lines and reports what the turns found. -/
theorem parse_run (style : Style) (lines : List (List Char)) :
    ∃ r', parse.run (Reader.ofLines style lines) = (.ok (style.report (numberedFrom 0 lines)), r') ∧
      (Reader.ofLines style lines).Takes (numberedFrom 0 lines) r' ∧ r'.ahead = [] ∧
      r'.scope = ⟨style, style.directives, false, 0⟩ := by
  obtain ⟨hr, ha⟩ := Reader.ready_ofLines style lines
  set r := Reader.ofLines style lines
  have hsc : r.scope = ⟨style, style.directives, false, 0⟩ := rfl
  obtain ⟨r₁, h₁⟩ := takeEmpty_runs hr
  have ha₁ : r₁.ahead = r.ahead.dropWhile Line.isEmpty := h₁.ahead_eq hr List.takeWhile_append_dropWhile.symm
  have hsc₁ := h₁.scope.trans hsc
  obtain ⟨r₂, ls, hrun, ht, hnil, hsc₂, hrep⟩ := parseUpTo_run r₁.ahead.length r₁ (h₁.ready hr)
    (congrArg Scope.inSection hsc₁) (congrArg Scope.indent hsc₁) (Nat.le_refl _)
  have hreport : r₂.report = style.report (numberedFrom 0 lines) := by
    rw [hrep, h₁.report, ha₁, ha, show r₁.style = style from congrArg Scope.style hsc₁,
      show r₁.directives = style.directives from congrArg Scope.directives hsc₁]
    rfl
  have htakes := h₁.takes.trans ht
  have hall := htakes.ahead hr
  rw [hnil, List.append_nil] at hall
  rw [← hall, ha] at htakes
  refine ⟨r₂, ?_, htakes, hnil, hsc₂.trans hsc₁⟩
  rw [parse, run_bind_ok h₁.run, run_bind_ok run_get, run_bind_ok hrun, run_bind_ok run_get, ← hreport]
  rfl

theorem Style.parse_eq (style : Style) (lines : List (List Char)) :
    style.parse lines = .ok (style.report (numberedFrom 0 lines)) := by
  obtain ⟨r', h, -⟩ := parse_run style lines
  rw [Style.parse, h]

/-- At the end every line has been looked at. -/
theorem Reader.Takes.lineNumber_eq {r' : Reader} {ls : List Line} (h : r.Takes ls r') (hr : r.Ready)
    (hnil : r'.ahead = []) : r'.lineNumber = r.total + 1 := by
  have hpending : r'.cursor.pending.length = 0 := by
    rw [← length_numberedFrom, (List.append_eq_nil_iff.1 hnil).2, List.length_nil]
  have htotal := (h.spec hr).2.2.2.2
  rw [Reader.lineNumber, ← htotal, Reader.total, hpending, Nat.zero_add]

/-- Reading is total in both styles: no list of lines makes it fail or go on for ever. It takes every
line once and in order, and ends outside sections. -/
theorem parse_takes_every_line (style : Style) (lines : List (List Char)) :
    ∃ report r', parse.run (Reader.ofLines style lines) = (.ok report, r') ∧
      (Reader.ofLines style lines).Takes (numberedFrom 0 lines) r' ∧
      (hasNext.run r').1 = .ok false ∧ r'.lineNumber = lines.length + 1 ∧
      r'.inSection = false ∧ r'.sectionIndent = 0 := by
  obtain ⟨r', hrun, htakes, hnil, hsc⟩ := parse_run style lines
  refine ⟨_, r', hrun, htakes, ?_, htakes.lineNumber_eq (Reader.ready_ofLines style lines).1 hnil,
    congrArg Scope.inSection hsc, congrArg Scope.indent hsc⟩
  rw [(hasNext_runs r').run, hnil]
  rfl

end TypeComments.Docstring
