import TypeComments.Cursor.Item
import TypeComments.Proofs.ReaderRun

/-!
# A cursor answers as a plain list does

`Call.on` makes a call on a cursor, `Call.onList` says what the same call means for the list of items not
yet taken: a look leaves the list alone, a call that takes items drops them from its front, and one that
asks for more than there is leaves it as it was. `Over.call` is the step: a cursor in front of `rest`
answers as `rest` does and stands in front of what is left of it. `Over.answers` follows a whole row of
calls, whatever padding the earlier ones left in the cache.
-/

namespace TypeComments
namespace Cursor
variable {σ ε α β : Type} {rest : List β} {c : Cursor σ ε α β}

inductive Call where
  | next
  | take (n : Nat)
  | peek
  | preview (n : Nat)
  | hasNext
deriving Repr

/-- What a call gives when it does not fail. -/
inductive Answer (β : Type) where
  | item (b : β)
  | items (bs : List β)
  | flag (b : Bool)
deriving Repr

def Call.on [BEq β] (c : Cursor σ ε α β) : Call → Except (CursorFault ε) (Answer β) × Cursor σ ε α β
  | .next => c.next.map (·.map .item) id
  | .take n => (c.take n).map (·.map .items) id
  | .peek => c.peek.map (·.map .item) id
  | .preview n => (c.preview n).map (·.map .items) id
  | .hasNext => c.hasNext.map (·.map .flag) id

/-- The answer of the items `rest`, with `sentinel` past their end, and what is left of them. -/
def Call.onList (ε : Type) (sentinel : β) (rest : List β) : Call → Except (CursorFault ε) (Answer β) × List β
  | .next =>
    match rest with
    | [] => (.error .exhausted, [])
    | b :: rest => (.ok (.item b), rest)
  | .take n =>
    -- no item is asked for by a count of zero, yet one has to be there
    if max n 1 ≤ rest.length then (.ok (.items (rest.take n)), rest.drop n) else (.error .exhausted, rest)
  | .peek => (.ok (.item (rest.headD sentinel)), rest)
  | .preview n => (.ok (.items ((rest ++ List.replicate n sentinel).take n)), rest)
  | .hasNext => (.ok (.flag !rest.isEmpty), rest)

/-- Calls one after the other. -/
def answers [BEq β] : List Call → Cursor σ ε α β → List (Except (CursorFault ε) (Answer β)) × Cursor σ ε α β
  | [], c => ([], c)
  | call :: calls, c => (answers calls (call.on c).2).map ((call.on c).1 :: ·) id

def listAnswers (ε : Type) (sentinel : β) : List Call → List β → List (Except (CursorFault ε) (Answer β))
  | [], _ => []
  | call :: calls, rest =>
    (call.onList ε sentinel rest).1 :: listAnswers ε sentinel calls (call.onList ε sentinel rest).2

theorem need_natCast (n : Nat) : need n = max n 1 := by
  unfold need
  cases n with
  | zero => rfl
  | succ n =>
    rw [if_neg (by simp; omega)]
    simp

theorem Over.preview (h : c.Over rest) (n : Nat) :
    ∃ c', c.preview n = (.ok ((rest ++ List.replicate n c.sentinel).take n), c') ∧ c'.Over rest ∧ Passed c c' := by
  obtain ⟨c', hfill, hover, hpassed, hlen⟩ := h.fill (need n)
  rw [need_natCast] at hlen
  refine ⟨c', ?_, hover, hpassed⟩
  rw [Cursor.preview, hfill, ← hpassed.sentinel, ← hover.cache_take (by omega)]
  rfl

/-- The item that decides about taking `n` items: the last of them, or the first for none. -/
theorem Over.cached_last (h : c.Over rest) {n : Nat} (hn : max n 1 ≤ c.cache.length) :
    c.cached? (if (n : Int) == 0 then 0 else n - 1) = some (rest.getD (n - 1) c.sentinel) := by
  rw [← h.cache_get (by omega), cached?]
  cases n with
  | zero => rfl
  | succ n => simp [show ¬ ((n : Int) + 1 = 0) by omega]

theorem onList_subset (sentinel : β) (call : Call) (rest : List β) :
    (call.onList ε sentinel rest).2 ⊆ rest := by
  cases call with
  | next => cases rest <;> simp [Call.onList]
  | take n =>
    rw [Call.onList]
    split
    · exact List.drop_subset n rest
    · exact List.Subset.refl rest
  | _ => exact List.Subset.refl rest

section
variable [BEq β]

theorem Over.hasNext (h : c.Over rest) (hne : ∀ b ∈ rest, (b == c.sentinel) = false)
    (hs : (c.sentinel == c.sentinel) = true) :
    ∃ c', c.hasNext = (.ok !rest.isEmpty, c') ∧ c'.Over rest ∧ Passed c c' := by
  obtain ⟨c', hpeek, hover, hpassed, -⟩ := h.peek
  refine ⟨c', ?_, hover, hpassed⟩
  cases rest with
  | nil => simp [Cursor.hasNext, hpeek, hs]
  | cons b rest => simp [Cursor.hasNext, hpeek, hne b (by simp)]

theorem Over.take_ok (h : c.Over rest) (hne : ∀ b ∈ rest, (b == c.sentinel) = false) {n : Nat}
    (hn : max n 1 ≤ rest.length) :
    ∃ c', c.take n = (.ok (rest.take n), c') ∧ c'.Over (rest.drop n) ∧ Passed c c' := by
  obtain ⟨c', hfill, hover, hpassed, hlen⟩ := h.fill (need n)
  rw [need_natCast] at hlen
  have hlast : (rest.getD (n - 1) c'.sentinel == c.sentinel) = false := by
    refine hne _ ?_
    rw [List.getD_eq_getElem?_getD, List.getElem?_eq_getElem (by omega)]
    exact List.getElem_mem _
  have htake := hover.cache_take (n := n) (by omega)
  rw [List.take_append_of_le_length (by omega)] at htake
  refine ⟨{ c' with cache := c'.cache.drop n }, ?_, hover.drop (by omega) (by omega),
    hpassed.trans (passed_drop c' n)⟩
  rw [Cursor.take, hfill]
  simp only [hover.cached_last hlen, hlast, Int.toNat_natCast, htake]
  rfl

theorem Over.take_exhausted (h : c.Over rest) (hs : (c.sentinel == c.sentinel) = true) {n : Nat}
    (hn : rest.length < max n 1) :
    ∃ c', c.take n = (.error .exhausted, c') ∧ c'.Over rest ∧ Passed c c' := by
  obtain ⟨c', hfill, hover, hpassed, hlen⟩ := h.fill (need n)
  rw [need_natCast] at hlen
  have hlast : rest.getD (n - 1) c'.sentinel = c.sentinel := by
    rw [List.getD_eq_getElem?_getD, List.getElem?_eq_none (by omega), hpassed.sentinel]
    rfl
  refine ⟨c', ?_, hover, hpassed⟩
  rw [Cursor.take, hfill]
  simp only [hover.cached_last hlen, hlast, hs, if_true]

/-- A cursor answers a call as the items ahead of it do. -/
theorem Over.call (h : c.Over rest) (hne : ∀ b ∈ rest, (b == c.sentinel) = false)
    (hs : (c.sentinel == c.sentinel) = true) (call : Call) :
    ∃ c', call.on c = ((call.onList ε c.sentinel rest).1, c') ∧ c'.Over (call.onList ε c.sentinel rest).2 ∧
      Passed c c' := by
  cases call with
  | next =>
    cases rest with
    | nil =>
      obtain ⟨c', hnext, h'⟩ := h.next_nil hs
      exact ⟨c', by rw [Call.on, hnext]; rfl, h'⟩
    | cons b rest =>
      obtain ⟨c', hnext, h'⟩ := h.next (hne b (by simp))
      exact ⟨c', by rw [Call.on, hnext]; rfl, h'⟩
  | take n =>
    by_cases hn : max n 1 ≤ rest.length
    · obtain ⟨c', htake, h'⟩ := h.take_ok hne hn
      rw [Call.on, Call.onList, if_pos hn, htake]
      exact ⟨c', rfl, h'⟩
    · obtain ⟨c', htake, h'⟩ := h.take_exhausted hs (Nat.not_le.1 hn)
      rw [Call.on, Call.onList, if_neg hn, htake]
      exact ⟨c', rfl, h'⟩
  | peek =>
    obtain ⟨c', hpeek, hover, hpassed, -⟩ := h.peek
    exact ⟨c', by rw [Call.on, hpeek]; rfl, hover, hpassed⟩
  | preview n =>
    obtain ⟨c', hpreview, h'⟩ := h.preview n
    exact ⟨c', by rw [Call.on, hpreview]; rfl, h'⟩
  | hasNext =>
    obtain ⟨c', hhas, h'⟩ := h.hasNext hne hs
    exact ⟨c', by rw [Call.on, hhas]; rfl, h'⟩

theorem Over.answers (calls : List Call) (h : c.Over rest) (hne : ∀ b ∈ rest, (b == c.sentinel) = false)
    (hs : (c.sentinel == c.sentinel) = true) :
    (Cursor.answers calls c).1 = listAnswers ε c.sentinel calls rest ∧ Passed c (Cursor.answers calls c).2 := by
  induction calls generalizing c rest with
  | nil => exact ⟨rfl, .refl c⟩
  | cons call calls ih =>
    obtain ⟨c', hcall, hover, hpassed⟩ := h.call hne hs call
    rw [← hpassed.sentinel] at hs hne hover
    obtain ⟨hanswers, hpassed'⟩ := ih hover (fun b hb => hne b (onList_subset _ call rest hb)) hs
    simp only [Cursor.answers, listAnswers, hcall, ← hpassed.sentinel, Prod.map]
    exact ⟨by rw [hanswers], hpassed.trans hpassed'⟩

end

end Cursor

namespace Docstring

theorem numberedFrom_eq_mapIdx (j : Nat) (lines : List (List Char)) :
    numberedFrom j lines = lines.mapIdx fun k text => Line.ofIndexed (j + k, text) := by
  induction lines generalizing j with
  | nil => rfl
  | cons text rest ih => simp [numberedFrom, List.mapIdx_cons, ih, Nat.add_assoc, Nat.add_comm 1]

theorem Reader.Ready.answers {r : Reader} (hr : r.Ready) (calls : List Cursor.Call) :
    (Cursor.answers calls r.cursor).1 = Cursor.listAnswers Empty none calls (r.ahead.map some) := by
  have hne : ∀ b ∈ r.ahead.map some, (b == r.cursor.sentinel) = false := by
    intro b hb
    obtain ⟨l, -, rfl⟩ := List.mem_map.1 hb
    rw [hr.sentinel]
    rfl
  have h := (hr.isOver.answers calls hne (by rw [hr.sentinel]; rfl)).1
  rwa [hr.sentinel] at h

end Docstring

namespace Cursor

/-- A cursor is a plain list to whoever reads it. Let the modifier make `images` of the items and let none
of them equal the sentinel. Any calls are answered as by the list `images`, and at any time the modifier
has seen the items that are no longer pending, each once and in order, and no other. The lines that a
reader of a docstring has taken and those that its cursor answers from are, together, the lines of the
docstring without trailing blanks, numbered from two. -/
theorem answers_eq_listAnswers {σ ε α β : Type} [BEq β] [ReflBEq β] (modify : α → σ → Except ε β × σ)
    (state last : σ) (sentinel : β) (items : List α) (images : List β)
    (himages : modifyAll modify items state = (.ok images, last))
    (hne : ∀ b ∈ images, (b == sentinel) = false) (calls : List Call) :
    ((answers calls (startWith modify state sentinel items)).1 = listAnswers ε sentinel calls images ∧
      ∃ k seen, (answers calls (startWith modify state sentinel items)).2.pending = items.drop k ∧
        modifyAll modify (items.take k) state =
          (.ok seen, (answers calls (startWith modify state sentinel items)).2.state)) ∧
    ∀ (style : Docstring.Style) (lines : List (List Char)) (ls : List Docstring.Line) (r : Docstring.Reader),
      (Docstring.Reader.ofLines style lines).Takes ls r →
      ∃ ahead, ls ++ ahead = lines.mapIdx (fun k text => ⟨trimRight text, k + 2⟩) ∧
        (answers calls r.cursor).1 = listAnswers Empty none calls (ahead.map some) := by
  refine ⟨?_, fun style lines ls r htakes => ?_⟩
  · obtain ⟨hanswers, hpassed⟩ := (over_startWith sentinel himages).answers calls hne BEq.rfl
    obtain ⟨seen, bs, hitems, hstate⟩ := hpassed.items
    change items = _ at hitems
    have hdrop := (congrArg (List.drop seen.length) hitems).trans List.drop_left
    have htake := (congrArg (List.take seen.length) hitems).trans List.take_left
    exact ⟨hanswers, seen.length, bs, hdrop.symm, by rw [htake]; exact hstate⟩
  · obtain ⟨hready, hahead⟩ := Docstring.Reader.ready_ofLines style lines
    refine ⟨r.ahead, ?_, (htakes.ready hready).answers calls⟩
    rw [← htakes.ahead hready, hahead, Docstring.numberedFrom_eq_mapIdx]
    simp [Docstring.Line.ofIndexed]

/-- Texts that are trimmed when they are first looked at, and a look beyond their end before any is taken. -/
theorem answers_eq_listAnswers_trimmed :
    let apply : Item → Unit → Except Item.Fault Item × Unit := fun x _ => (Item.Modifier.strip.apply x, ())
    modifyAll apply [.text [' ', 'a'], .text ['b', ' '], .text []] () =
      (.ok [.text ['a'], .text ['b'], .text []], ()) ∧
    (answers [.preview 5, .take 2, .take 2, .hasNext, .next, .take 0, .peek]
      (start Item.Modifier.strip.apply (.number 0) [.text [' ', 'a'], .text ['b', ' '], .text []])).1 =
      [.ok (.items [.text ['a'], .text ['b'], .text [], .number 0, .number 0]),
        .ok (.items [.text ['a'], .text ['b']]), .error .exhausted, .ok (.flag true), .ok (.item (.text [])),
        .error .exhausted, .ok (.item (.number 0))] := by
  intro apply
  have himages : modifyAll apply [.text [' ', 'a'], .text ['b', ' '], .text []] () =
      (.ok [.text ['a'], .text ['b'], .text []], ()) := by rfl
  have hne : ∀ b ∈ [Item.text ['a'], .text ['b'], .text []], (b == Item.number 0) = false := by
    intro b hb
    simp only [List.mem_cons, List.not_mem_nil, or_false] at hb
    rcases hb with rfl | rfl | rfl <;> rfl
  exact ⟨himages, (answers_eq_listAnswers apply () () (.number 0) _ _ himages hne _).1.1⟩

end Cursor

end TypeComments
