/-!
A cursor over a list that can look ahead. Items are passed through `modify` when they are first
looked at, and wait in `cache` until they are taken; past the end the cache is filled up with the
sentinel. An item on which `modify` fails is lost. `modify` may keep a state from item to item, such as
a count of the items it has seen.
-/

namespace TypeComments

/-- Why a cursor gives no answer. -/
inductive CursorFault (ε : Type) where
  /-- The items asked for are not there. -/
  | exhausted
  /-- A negative count reaches before the cached items. -/
  | outOfRange
  /-- `modify` failed on an item. -/
  | item (e : ε)

/-- A list read with look-ahead. -/
structure Cursor (σ ε α β : Type) where
  modify : α → σ → Except ε β × σ
  /-- What `modify` keeps from item to item. -/
  state : σ
  sentinel : β
  cache : List β
  pending : List α

namespace Cursor

variable {σ ε α β : Type}

/-- A cursor before the first item, whose modifier starts in `state`. -/
def startWith (modify : α → σ → Except ε β × σ) (state : σ) (sentinel : β) (items : List α) : Cursor σ ε α β :=
  ⟨modify, state, sentinel, [], items⟩

/-- A cursor before the first item, with a modifier that keeps nothing. -/
def start (modify : α → Except ε β) (sentinel : β) (items : List α) : Cursor Unit ε α β :=
  startWith (fun a _ => (modify a, ())) () sentinel items

/-- Pass the next `n` items through `modify`, with sentinels past the end: the results, the items left,
the new state, and the failure that stopped it. -/
def fetch (modify : α → σ → Except ε β × σ) (sentinel : β) : List α → Nat → σ → List β × List α × σ × Option ε
  | pending, 0, s => ([], pending, s, none)
  | [], n + 1, s => (List.replicate (n + 1) sentinel, [], s, none)
  | a :: rest, n + 1, s =>
    match modify a s with
    | (.error e, s') => ([], rest, s', some e)
    | (.ok b, s') =>
      let (bs, left, s'', e) := fetch modify sentinel rest n s'
      (b :: bs, left, s'', e)

/-- Cache at least `n` items. -/
def fill (c : Cursor σ ε α β) (n : Nat) : Except (CursorFault ε) Unit × Cursor σ ε α β :=
  let (bs, left, state, e) := fetch c.modify c.sentinel c.pending (n - c.cache.length) c.state
  let c' := { c with cache := c.cache ++ bs, pending := left, state }
  match e with
  | none => (.ok (), c')
  | some e => (.error (.item e), c')

/-- The cached items that a count of `n` needs: at least one for zero, none for a negative count. -/
def need (n : Int) : Nat :=
  if n == 0 then 1 else n.toNat

/-- The cached item at `i`, counted from the end if `i` is negative. -/
def cached? (c : Cursor σ ε α β) (i : Int) : Option β :=
  if 0 ≤ i then c.cache[i.toNat]?
  else if 0 ≤ i + c.cache.length then c.cache[(i + c.cache.length).toNat]?
  else none

/-- The next item, left where it is; the sentinel at the end. -/
def peek (c : Cursor σ ε α β) : Except (CursorFault ε) β × Cursor σ ε α β :=
  match c.fill 1 with
  | (.error e, c') => (.error e, c')
  | (.ok _, c') => (.ok (c'.cache.headD c.sentinel), c')

/-- The next `n` items, left where they are, with sentinels past the end. -/
def preview (c : Cursor σ ε α β) (n : Int) : Except (CursorFault ε) (List β) × Cursor σ ε α β :=
  match c.fill (need n) with
  | (.error e, c') => (.error e, c')
  | (.ok _, c') => (.ok (c'.cache.take n.toNat), c')

def hasNext [BEq β] (c : Cursor σ ε α β) : Except (CursorFault ε) Bool × Cursor σ ε α β :=
  match c.peek with
  | (.error e, c') => (.error e, c')
  | (.ok b, c') => (.ok !(b == c.sentinel), c')

def next [BEq β] (c : Cursor σ ε α β) : Except (CursorFault ε) β × Cursor σ ε α β :=
  match c.peek with
  | (.error e, c') => (.error e, c')
  | (.ok b, c') =>
    -- an item that equals the sentinel ends the list too
    if b == c.sentinel then (.error .exhausted, c')
    else (.ok b, { c' with cache := c'.cache.tail })

/-- Take the next `n` items, all or none. A count of zero takes none, but still asks for an item to be
there. -/
def take [BEq β] (c : Cursor σ ε α β) (n : Int) : Except (CursorFault ε) (List β) × Cursor σ ε α β :=
  match c.fill (need n) with
  | (.error e, c') => (.error e, c')
  | (.ok _, c') =>
    match c'.cached? (if n == 0 then 0 else n - 1) with
    | none => (.error .outOfRange, c')
    | some b =>
      -- the last item asked for decides whether all are there
      if b == c.sentinel then (.error .exhausted, c')
      else (.ok (c'.cache.take n.toNat), { c' with cache := c'.cache.drop n.toNat })

/-- Take items until none is left, at most `limit` of them. -/
def drainUpTo [BEq β] : Nat → Cursor σ ε α β → Except (CursorFault ε) (List β) × Cursor σ ε α β
  | 0, c => (.ok [], c)
  | limit + 1, c =>
    match c.next with
    | (.error .exhausted, c') => (.ok [], c')
    | (.error e, c') => (.error e, c')
    | (.ok b, c') =>
      match drainUpTo limit c' with
      | (.error e, c'') => (.error e, c'')
      | (.ok bs, c'') => (.ok (b :: bs), c'')

def drain [BEq β] (c : Cursor σ ε α β) : Except (CursorFault ε) (List β) × Cursor σ ε α β :=
  drainUpTo (c.cache.length + c.pending.length + 1) c

end Cursor

end TypeComments
