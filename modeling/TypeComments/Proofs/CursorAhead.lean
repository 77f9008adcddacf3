import Mathlib.Data.List.Basic
import TypeComments.Cursor

/-!
# What a cursor still has ahead

`Cursor.Over rest c`: the cursor `c` stands in front of the items `rest`. Those fetched already wait in
the cache, the others are what the modifier makes of the pending items (`modifyAll`), and the cache holds
sentinels only when nothing is pending. Looking ahead (`fill`) moves items from one part to the other and
keeps `rest`; `next` takes its head. Nothing else about a cursor matters to its reader.
`Cursor.Passed c c'` says what became of the modifier's state on the way: it saw each item that is no
longer pending once, in order.
-/

namespace TypeComments
namespace Cursor
variable {σ ε α β : Type} {modify : α → σ → Except ε β × σ} {rest : List β} {c c' c'' : Cursor σ ε α β}

/-- What the modifier makes of the items, one after the other, and the state it comes to. -/
def modifyAll (modify : α → σ → Except ε β × σ) : List α → σ → Except ε (List β) × σ
  | [], s => (.ok [], s)
  | a :: items, s =>
    match modify a s with
    | (.error e, s') => (.error e, s')
    | (.ok b, s') =>
      match modifyAll modify items s' with
      | (.error e, s'') => (.error e, s'')
      | (.ok bs, s'') => (.ok (b :: bs), s'')

theorem modifyAll_cons_ok {a : α} {items : List α} {s t : σ} {bs : List β} :
    modifyAll modify (a :: items) s = (.ok bs, t) ↔
      ∃ b s' bs', modify a s = (.ok b, s') ∧ modifyAll modify items s' = (.ok bs', t) ∧ bs = b :: bs' := by
  constructor
  · intro h
    rcases hm : modify a s with ⟨e | b, s'⟩
    · simp [modifyAll, hm] at h
    · rcases hall : modifyAll modify items s' with ⟨e | bs', t'⟩
      · simp [modifyAll, hm, hall] at h
      · simp only [modifyAll, hm, hall, Prod.mk.injEq, Except.ok.injEq] at h
        exact ⟨b, s', bs', rfl, by rw [hall, h.2], h.1.symm⟩
  · rintro ⟨b, s', bs', hm, hall, rfl⟩
    simp [modifyAll, hm, hall]

theorem modifyAll_append {xs ys : List α} {s s' t : σ} {as bs : List β}
    (hx : modifyAll modify xs s = (.ok as, s')) (hy : modifyAll modify ys s' = (.ok bs, t)) :
    modifyAll modify (xs ++ ys) s = (.ok (as ++ bs), t) := by
  induction xs generalizing s as with
  | nil =>
    cases hx
    exact hy
  | cons a xs ih =>
    obtain ⟨b, s₁, as', hm, hall, rfl⟩ := modifyAll_cons_ok.1 hx
    exact modifyAll_cons_ok.2 ⟨b, s₁, as' ++ bs, hm, ih hall, rfl⟩

theorem length_of_modifyAll {items : List α} {s t : σ} {bs : List β}
    (h : modifyAll modify items s = (.ok bs, t)) : bs.length = items.length := by
  induction items generalizing s bs with
  | nil =>
    cases h
    rfl
  | cons a items ih =>
    obtain ⟨b, s', bs', -, hall, rfl⟩ := modifyAll_cons_ok.1 h
    rw [List.length_cons, List.length_cons, ih hall]

/-- Where the modifier does not fail, fetching goes through the first items and pads what is missing. -/
theorem fetch_of_modifyAll (sentinel : β) {pending : List α} {s t : σ} {bs : List β}
    (h : modifyAll modify pending s = (.ok bs, t)) (n : Nat) :
    ∃ s', fetch modify sentinel pending n s =
        (bs.take n ++ List.replicate (n - pending.length) sentinel, pending.drop n, s', none) ∧
      modifyAll modify (pending.take n) s = (.ok (bs.take n), s') ∧
      modifyAll modify (pending.drop n) s' = (.ok (bs.drop n), t) := by
  induction pending generalizing n s bs with
  | nil =>
    cases h
    cases n <;> simp [fetch, modifyAll]
  | cons a pending ih =>
    obtain ⟨b, s₁, bs', hm, hall, rfl⟩ := modifyAll_cons_ok.1 h
    cases n with
    | zero => exact ⟨s, by simp [fetch], rfl, h⟩
    | succ n =>
      obtain ⟨s', hfetch, htake, hdrop⟩ := ih hall n
      refine ⟨s', ?_, modifyAll_cons_ok.2 ⟨b, s₁, bs'.take n, hm, htake, rfl⟩, hdrop⟩
      simp [fetch, hm, hfetch]

/-- The cursor stands in front of `rest`. -/
def Over (rest : List β) (c : Cursor σ ε α β) : Prop :=
  ∃ fetched padding bs last, c.cache = fetched ++ List.replicate padding c.sentinel ∧
    modifyAll c.modify c.pending c.state = (.ok bs, last) ∧ rest = fetched ++ bs ∧
    (padding ≠ 0 → c.pending = [])

/-- From `c` to `c'` the first pending items were passed through the modifier, each once and in order. -/
structure Passed (c c' : Cursor σ ε α β) : Prop where
  modify : c'.modify = c.modify
  sentinel : c'.sentinel = c.sentinel
  items : ∃ items bs, c.pending = items ++ c'.pending ∧ modifyAll c.modify items c.state = (.ok bs, c'.state)

theorem Passed.refl (c : Cursor σ ε α β) : Passed c c :=
  ⟨rfl, rfl, [], [], rfl, rfl⟩

theorem Passed.trans (h : Passed c c') (h' : Passed c' c'') : Passed c c'' := by
  obtain ⟨xs, as, hxs, hx⟩ := h.items
  obtain ⟨ys, bs, hys, hy⟩ := h'.items
  refine ⟨h'.modify.trans h.modify, h'.sentinel.trans h.sentinel, xs ++ ys, as ++ bs, ?_, ?_⟩
  · rw [hxs, hys, List.append_assoc]
  · rw [h.modify] at hy
    exact modifyAll_append hx hy

theorem over_startWith {state last : σ} (sentinel : β) {items : List α}
    (h : modifyAll modify items state = (.ok rest, last)) :
    (startWith modify state sentinel items).Over rest :=
  ⟨[], 0, rest, last, rfl, h, rfl, fun h0 => absurd rfl h0⟩

/-- Looking ahead does not fail, and leaves the items ahead as they are. -/
theorem Over.fill (h : c.Over rest) (n : Nat) :
    ∃ c', c.fill n = (.ok (), c') ∧ c'.Over rest ∧ Passed c c' ∧ n ≤ c'.cache.length := by
  obtain ⟨fetched, padding, bs, last, hcache, hall, rfl, hpad⟩ := h
  set k := n - c.cache.length with hk
  obtain ⟨s', hfetch, htake, hdrop⟩ := fetch_of_modifyAll c.sentinel hall k
  have hlen := length_of_modifyAll hall
  refine ⟨{ c with
      cache := c.cache ++ (bs.take k ++ List.replicate (k - c.pending.length) c.sentinel)
      pending := c.pending.drop k
      state := s' }, by rw [Cursor.fill, ← hk, hfetch], ?_,
    ⟨rfl, rfl, c.pending.take k, _, (List.take_append_drop k c.pending).symm, htake⟩, ?_⟩
  · by_cases hp : padding = 0
    · refine ⟨fetched ++ bs.take k, k - c.pending.length, _, last, ?_, hdrop, ?_, fun h0 => ?_⟩
      · simp [hcache, hp]
      · rw [List.append_assoc, List.take_append_drop]
      · exact List.drop_eq_nil_of_le (by omega)
    · have hnil := hpad hp
      rw [hnil, List.length_nil] at hlen
      have hbs : bs = [] := List.length_eq_zero_iff.1 hlen
      refine ⟨fetched, padding + k, _, last, ?_, hdrop, ?_, fun _ => ?_⟩
      · simp [hcache, hbs, hnil]
      · simp [hbs]
      · simp [hnil]
  · simp only [List.length_append, List.length_take, List.length_replicate]
    omega

/-- The cache holds the first items of the rest, then sentinels. -/
theorem Over.cache_eq (h : c.Over rest) :
    c.cache = (rest ++ List.replicate c.cache.length c.sentinel).take c.cache.length := by
  obtain ⟨fetched, padding, bs, last, hcache, hall, rfl, hpad⟩ := h
  by_cases hp : padding = 0
  · simp [hcache, hp]
  · rw [hpad hp] at hall
    cases hall
    rw [hcache, List.append_nil, List.take_append, List.take_replicate, List.length_append,
      List.take_of_length_le (by omega), List.length_replicate]
    simp

theorem Over.cache_take (h : c.Over rest) {n : Nat} (hn : n ≤ c.cache.length) :
    c.cache.take n = (rest ++ List.replicate n c.sentinel).take n := by
  rw [h.cache_eq, List.take_take, Nat.min_eq_left hn, List.take_append, List.take_append,
    List.take_replicate, List.take_replicate]
  congr 2
  omega

theorem Over.cache_get (h : c.Over rest) {i : Nat} (hi : i < c.cache.length) :
    c.cache[i]? = some (rest.getD i c.sentinel) := by
  have hcache := congrArg (·[i]?) h.cache_eq
  simp only [List.getElem?_take, hi, if_true] at hcache
  rw [hcache, List.getD_eq_getElem?_getD]
  by_cases hr : i < rest.length
  · simp [List.getElem?_append_left hr, hr]
  · rw [List.getElem?_append_right (by omega), List.getElem?_replicate, if_pos (by omega)]
    simp [Nat.not_lt.1 hr]

theorem Over.drop (h : c.Over rest) {n : Nat} (hn : n ≤ c.cache.length) (hrest : n ≤ rest.length) :
    ({ c with cache := c.cache.drop n }).Over (rest.drop n) := by
  obtain ⟨fetched, padding, bs, last, hcache, hall, rfl, hpad⟩ := h
  have hfetched : n ≤ fetched.length := by
    by_cases hp : padding = 0
    · simpa [hcache, hp] using hn
    · rw [hpad hp] at hall
      cases hall
      simpa using hrest
  refine ⟨fetched.drop n, padding, bs, last, ?_, hall, ?_, hpad⟩
  · show c.cache.drop n = _
    rw [hcache, List.drop_append_of_le_length hfetched]
  · rw [List.drop_append_of_le_length hfetched]

theorem passed_drop (c : Cursor σ ε α β) (n : Nat) : Passed c { c with cache := c.cache.drop n } :=
  ⟨rfl, rfl, [], [], rfl, rfl⟩

theorem Over.peek (h : c.Over rest) :
    ∃ c', c.peek = (.ok (rest.headD c.sentinel), c') ∧ c'.Over rest ∧ Passed c c' ∧ 1 ≤ c'.cache.length := by
  obtain ⟨c', hfill, hover, hpassed, hlen⟩ := h.fill 1
  refine ⟨c', ?_, hover, hpassed, hlen⟩
  have hhead := hover.cache_get hlen
  rw [hpassed.sentinel] at hhead
  simp [Cursor.peek, hfill, List.headD_eq_head?_getD, List.head?_eq_getElem?, hhead]

theorem Over.next [BEq β] {b : β} (h : c.Over (b :: rest)) (hb : (b == c.sentinel) = false) :
    ∃ c', c.next = (.ok b, c') ∧ c'.Over rest ∧ Passed c c' := by
  obtain ⟨c', hpeek, hover, hpassed, hlen⟩ := h.peek
  refine ⟨{ c' with cache := c'.cache.drop 1 }, ?_, hover.drop hlen (by simp),
    hpassed.trans (passed_drop c' 1)⟩
  simp [Cursor.next, hpeek, hb]

theorem Over.next_nil [BEq β] (h : c.Over []) (hs : (c.sentinel == c.sentinel) = true) :
    ∃ c', c.next = (.error .exhausted, c') ∧ c'.Over [] ∧ Passed c c' := by
  obtain ⟨c', hpeek, hover, hpassed, -⟩ := h.peek
  exact ⟨c', by simp [Cursor.next, hpeek, hs], hover, hpassed⟩

end Cursor
end TypeComments
