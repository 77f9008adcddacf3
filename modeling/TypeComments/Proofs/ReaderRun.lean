import TypeComments.Docstring.Reader
import TypeComments.Proofs.CursorAhead
import TypeComments.Proofs.Outcomes

/-!
# Runs of the reader

A step of the reader is described by what it gives and by the lines it takes. `Reader.Takes r ls r'` is the
trace of a run: from `r` the reader comes to `r'` by looking ahead, by setting its marks and by taking
the lines `ls` one after the other. `Runs m r a ls r'` says that the step `m` gives `a`, takes `ls` and
leaves section and report as they were. What lies ahead of `r'` is then what lay ahead of `r` without
`ls`, so no line is lost, taken twice or taken out of order.
-/

namespace TypeComments

namespace Docstring

/-- What decides about the end of a section, besides the lines ahead. -/
structure Scope where
  style : Style
  directives : List (List Char)
  inSection : Bool
  indent : Int

/-- What the reader makes of a line, and the count of lines after it. -/
def numbering (text : List Char) (k : Nat) : Except Empty (Option Line) × Nat :=
  (.ok (some (Line.ofIndexed (k, text))), k + 1)

theorem modifyAll_numbering (lines : List (List Char)) (k : Nat) :
    Cursor.modifyAll numbering lines k = (.ok ((numberedFrom k lines).map some), k + lines.length) := by
  induction lines generalizing k with
  | nil => rfl
  | cons text rest ih =>
    rw [List.length_cons, Nat.add_comm rest.length, ← Nat.add_assoc]
    exact Cursor.modifyAll_cons_ok.2 ⟨_, _, _, rfl, ih (k + 1), rfl⟩

theorem numberedFrom_eq_map (k : Nat) (lines : List (List Char)) :
    numberedFrom k lines = ((List.range' k lines.length).zip lines).map Line.ofIndexed := by
  induction lines generalizing k with
  | nil => rfl
  | cons text rest ih => simp [numberedFrom, List.range'_succ, ih]

theorem numberedFrom_append (k : Nat) (xs ys : List (List Char)) :
    numberedFrom k (xs ++ ys) = numberedFrom k xs ++ numberedFrom (k + xs.length) ys := by
  induction xs generalizing k with
  | nil => simp [numberedFrom]
  | cons text rest ih => simp [numberedFrom, ih, Nat.add_assoc, Nat.add_comm 1]

theorem length_numberedFrom (k : Nat) (lines : List (List Char)) :
    (numberedFrom k lines).length = lines.length := by
  simp [numberedFrom_eq_map]

namespace Read
variable {α β : Type} {m : Read α} {f : α → Read β} {r r' : Reader} {a : α}

theorem run_bind_ok (h : m.run r = (.ok a, r')) : (m >>= f).run r = (f a).run r' :=
  run_bind_of_ok h

theorem run_get : (get : Read Reader).run r = (.ok r, r) := rfl

theorem run_modify (g : Reader → Reader) : (modify g : Read Unit).run r = (.ok (), g r) := rfl

theorem lookAhead_run (reach : Style → List Line → Nat) :
    (lookAhead reach).run r = (.ok r.ahead, r.look (reach r.style r.ahead)) := rfl

theorem next_run_ok {l : Line} {c : Cursor Nat Empty (List Char) (Option Line)}
    (h : r.cursor.next = (.ok (some l), c)) : next.run r = (.ok l, { r with cursor := c }) := by
  rw [next, run_bind_ok run_get, h]
  rfl

theorem next_run_exhausted {c : Cursor Nat Empty (List Char) (Option Line)}
    (h : r.cursor.next = (.error .exhausted, c)) :
    next.run r = (.error .exhausted, { r with cursor := c }) := by
  rw [next, run_bind_ok run_get, h]
  rfl

end Read

namespace Reader

/-- The number of lines that have been looked at or are pending. -/
def total (r : Reader) : Nat :=
  r.cursor.pending.length + r.cursor.state

def scope (r : Reader) : Scope :=
  ⟨r.style, r.directives, r.inSection, r.sectionIndent⟩

/-- The cursor numbers its lines and stands in front of those ahead, and the sentinel is no line. -/
structure Ready (r : Reader) : Prop where
  modify : r.cursor.modify = numbering
  sentinel : r.cursor.sentinel = none
  isOver : r.cursor.Over (r.ahead.map some)

/-- The trace of a run: `r` comes to the last reader by taking these lines. -/
inductive Takes (r : Reader) : List Line → Reader → Prop
  | done : r.Takes [] r
  | look {ls : List Line} {r' : Reader} (n : Nat) (h : r.Takes ls r') : r.Takes ls (r'.look n)
  | next {ls : List Line} {r' r'' : Reader} {l : Line} (h : r.Takes ls r')
      (hl : Read.next.run r' = (.ok l, r'')) : r.Takes (ls ++ [l]) r''
  | mark {ls : List Line} {r' : Reader} (inSection : Bool) (sectionIndent : Int) (report : Report)
      (h : r.Takes ls r') : r.Takes ls { r' with inSection, sectionIndent, report }

variable {r r' r'' : Reader} {l : Line} {ls ls' : List Line}

theorem ahead_of_over {rest : List Line} (hm : r.cursor.modify = numbering) (hs : r.cursor.sentinel = none)
    (h : r.cursor.Over (rest.map some)) : r.ahead = rest := by
  obtain ⟨fetched, padding, bs, last, hcache, hall, hrest, -⟩ := h
  rw [hm, modifyAll_numbering] at hall
  cases hall
  have hfetched : (fetched ++ List.replicate padding (none : Option Line)).filterMap id =
      fetched.filterMap id := by simp
  have hlist : rest = (rest.map some).filterMap id := by simp [List.filterMap_map]
  rw [ahead, hcache, hs, hfetched, hlist, hrest]
  simp [List.filterMap_map]

theorem Ready.of_over {rest : List Line} (hm : r.cursor.modify = numbering) (hs : r.cursor.sentinel = none)
    (h : r.cursor.Over (rest.map some)) : r.Ready ∧ r.ahead = rest := by
  have ha := ahead_of_over hm hs h
  exact ⟨⟨hm, hs, by rwa [ha]⟩, ha⟩

theorem ready_ofLines (style : Style) (lines : List (List Char)) :
    (ofLines style lines).Ready ∧ (ofLines style lines).ahead = numberedFrom 0 lines :=
  Ready.of_over rfl rfl (Cursor.over_startWith none (modifyAll_numbering lines 0))

theorem Ready.total_of_passed (h : r.Ready) (hp : r.cursor.Passed r'.cursor) : r'.total = r.total := by
  obtain ⟨items, bs, hitems, hstate⟩ := hp.items
  rw [h.modify, modifyAll_numbering, Prod.mk.injEq] at hstate
  simp only [total, hitems, ← hstate.2, List.length_append]
  omega

theorem Ready.of_passed (h : r.Ready) (hp : r.cursor.Passed r'.cursor) (hover : r'.cursor.Over (ls.map some)) :
    r'.Ready ∧ r'.ahead = ls ∧ r'.total = r.total := by
  obtain ⟨hready, hahead⟩ := Ready.of_over (hp.modify.trans h.modify) (hp.sentinel.trans h.sentinel) hover
  exact ⟨hready, hahead, h.total_of_passed hp⟩

theorem Ready.look (h : r.Ready) (n : Nat) :
    (r.look n).Ready ∧ (r.look n).ahead = r.ahead ∧ (r.look n).total = r.total := by
  obtain ⟨c, hfill, hover, hpassed, -⟩ := h.isOver.fill n
  have hc : (r.look n).cursor = c := by simp [Reader.look, hfill]
  exact h.of_passed (by rwa [hc]) (by rwa [hc])

theorem Ready.mark (h : r.Ready) (inSection : Bool) (sectionIndent : Int) (report : Report) :
    Ready { r with inSection, sectionIndent, report } :=
  ⟨h.modify, h.sentinel, h.isOver⟩

/-- Taking a line gives the first one ahead and changes nothing but the cursor. -/
theorem Ready.next (h : r.Ready) (ha : r.ahead = l :: ls) :
    ∃ c, Read.next.run r = (.ok l, { r with cursor := c }) ∧ Ready { r with cursor := c } ∧
      ahead { r with cursor := c } = ls ∧ total { r with cursor := c } = r.total := by
  have hover := h.isOver
  rw [ha, List.map_cons] at hover
  obtain ⟨c, hnext, hrest, hpassed⟩ := hover.next (by rw [h.sentinel]; rfl)
  exact ⟨c, Read.next_run_ok hnext, h.of_passed hpassed hrest⟩

theorem Ready.next_inv (h : r.Ready) (hl : Read.next.run r = (.ok l, r')) :
    r'.Ready ∧ r.ahead = l :: r'.ahead ∧ r'.total = r.total ∧ ∃ c, r' = { r with cursor := c } := by
  cases ha : r.ahead with
  | nil =>
    have hover := h.isOver
    rw [ha] at hover
    obtain ⟨c, hnext, -⟩ := hover.next_nil (by rw [h.sentinel]; rfl)
    rw [Read.next_run_exhausted hnext] at hl
    injection hl with hl
    cases hl
  | cons l' ls =>
    obtain ⟨c, hrun, hready, hls, htotal⟩ := h.next ha
    rw [hrun] at hl
    injection hl with hl hr'
    injection hl with hl
    subst hl hr'
    exact ⟨hready, by rw [hls], htotal, c, rfl⟩

namespace Takes

theorem trans (h : r.Takes ls r') (h' : r'.Takes ls' r'') : r.Takes (ls ++ ls') r'' := by
  induction h' with
  | done => simpa using h
  | look n _ ih => exact .look n ih
  | next _ hl ih =>
    rw [← List.append_assoc]
    exact .next ih hl
  | mark i j k _ ih => exact .mark i j k ih

/-- What a trace keeps, and what it leaves ahead. -/
theorem spec (hr : r.Ready) (h : r.Takes ls r') :
    r'.Ready ∧ r.ahead = ls ++ r'.ahead ∧ r'.style = r.style ∧ r'.directives = r.directives ∧
      r'.total = r.total := by
  induction h with
  | done => exact ⟨hr, by simp⟩
  | look n _ ih =>
    obtain ⟨hr', ha, hstyle, hdir, htotal⟩ := ih
    obtain ⟨hl, hla, hlt⟩ := hr'.look n
    exact ⟨hl, by rw [hla, ha], hstyle, hdir, hlt.trans htotal⟩
  | next _ hl ih =>
    obtain ⟨hr', ha, hstyle, hdir, htotal⟩ := ih
    obtain ⟨hr'', ha', htotal', c, rfl⟩ := hr'.next_inv hl
    refine ⟨hr'', ?_, hstyle, hdir, htotal'.trans htotal⟩
    rw [ha, ha', List.append_assoc, List.singleton_append]
  | mark i j k _ ih =>
    obtain ⟨hr', ha, h'⟩ := ih
    exact ⟨hr'.mark i j k, ha, h'⟩

theorem ready (h : r.Takes ls r') (hr : r.Ready) : r'.Ready := (h.spec hr).1

theorem ahead (h : r.Takes ls r') (hr : r.Ready) : r.ahead = ls ++ r'.ahead := (h.spec hr).2.1

/-- A trace that takes the first part leaves the second one ahead. -/
theorem ahead_eq (h : r.Takes ls r') (hr : r.Ready) (ha : r.ahead = ls ++ ls') : r'.ahead = ls' :=
  (List.append_right_inj ls).1 ((h.ahead hr).symm.trans ha)

end Takes

end Reader

/-- The step `m` gives `a`, takes the lines `ls` and leaves section and report as they were. -/
structure Runs {α : Type} (m : Read α) (r : Reader) (a : α) (ls : List Line) (r' : Reader) : Prop where
  run : m.run r = (.ok a, r')
  takes : r.Takes ls r'
  scope : r'.scope = r.scope
  report : r'.report = r.report

namespace Runs
variable {α β : Type} {m : Read α} {f : α → Read β} {r r' r'' : Reader} {a : α} {b : β}
  {ls ls' : List Line}

theorem pure (a : α) : Runs (pure a) r a [] r := ⟨rfl, .done, rfl, rfl⟩

theorem get : Runs get r r [] r := ⟨rfl, .done, rfl, rfl⟩

theorem bind (h : Runs m r a ls r') (h' : Runs (f a) r' b ls' r'') : Runs (m >>= f) r b (ls ++ ls') r'' where
  run := by rw [Read.run_bind_ok h.run, h'.run]
  takes := h.takes.trans h'.takes
  scope := h'.scope.trans h.scope
  report := h'.report.trans h.report

theorem bind_nil (h : Runs m r a [] r') (h' : Runs (f a) r' b ls' r'') : Runs (m >>= f) r b ls' r'' :=
  h.bind h'

theorem bind_pure (h : Runs m r a ls r') (g : α → β) :
    Runs (m >>= fun a => Pure.pure (g a)) r (g a) ls r' :=
  ⟨Read.run_bind_ok h.run, h.takes, h.scope, h.report⟩

theorem style (h : Runs m r a ls r') : r'.style = r.style := congrArg Scope.style h.scope

theorem directives (h : Runs m r a ls r') : r'.directives = r.directives :=
  congrArg Scope.directives h.scope

theorem ahead_eq (h : Runs m r a ls r') (hr : r.Ready) (ha : r.ahead = ls ++ ls') : r'.ahead = ls' :=
  h.takes.ahead_eq hr ha

theorem ready (h : Runs m r a ls r') (hr : r.Ready) : r'.Ready := h.takes.ready hr

theorem lookAhead (reach : Style → List Line → Nat) :
    Runs (Read.lookAhead reach) r r.ahead [] (r.look (reach r.style r.ahead)) :=
  ⟨rfl, .look _ .done, rfl, rfl⟩

theorem next {l : Line} (hr : r.Ready) (ha : r.ahead = l :: ls) : ∃ r', Runs Read.next r l [l] r' := by
  obtain ⟨c, hrun, -⟩ := hr.next ha
  exact ⟨_, hrun, .next .done hrun, rfl, rfl⟩

end Runs

end Docstring
end TypeComments
