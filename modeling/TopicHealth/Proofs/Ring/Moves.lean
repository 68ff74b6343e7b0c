import Mathlib.Data.List.Induction
import TopicHealth.Proofs.Prelude
import TopicHealth.Proofs.Ring

/-!
# Rings and queues

Whatever is pushed into a ring and however often it is cleared, it is a queue that drops its oldest value when it is
full. The type of a ring keeps its indices in range; `Cells` is a ring without that type, whose every access is looked
at, and it never fails.

* `toList_after`: what a ring holds after any moves.
* `front?_eq`, `back?_eq`, `snd_push`: the ends of a ring, and what a push gives up.
* `cells_push`, `cells_values`: no access of a ring fails.
* `queue_of_moves`: all of this of a ring after any moves.
-/

namespace TopicHealth.Ring

variable {α : Type} {n : Nat}

/-! ## Moves -/

/-- What changes a ring. -/
inductive Move (α : Type) where
  | push (value : α)
  | clear

/-- The ring after a move. -/
def perform (r : Ring α n) : Move α → Ring α n
  | .push value => (r.push value).1
  | .clear => r.clear

/-- A new ring after some moves. -/
def after [Inhabited α] (n : Nat) (moves : List (Move α)) : Ring α n := moves.foldl perform empty

/-- The values pushed since the last clear, after one more move. -/
def Move.extend (values : List α) : Move α → List α
  | push value => values ++ [value]
  | clear => []

/-- The values pushed since the last clear, oldest first. -/
def pushed (moves : List (Move α)) : List α := moves.foldl Move.extend []

@[simp] theorem toList_clear (r : Ring α n) : r.clear.toList = [] := rfl

/-- A ring holds the last that were pushed since it was cleared, as many as it has room for. -/
theorem toList_after [Inhabited α] (n : Nat) (moves : List (Move α)) :
    (after n moves).toList = (pushed moves).rtake n := by
  induction moves using List.reverseRecOn with
  | nil =>
    rw [after, pushed, List.foldl_nil, List.foldl_nil, toList_empty, List.rtake_nil]
  | append_singleton moves move ih =>
    have hring : after n (moves ++ [move]) = (after n moves).perform move := by
      rw [after, List.foldl_append]
      rfl
    have hpushed : pushed (moves ++ [move]) = move.extend (pushed moves) := by
      rw [pushed, List.foldl_append]
      rfl
    rw [hring, hpushed]
    cases move with
    | push value => exact toList_push_of_eq_rtake ih value
    | clear => rw [perform, toList_clear, Move.extend, List.rtake_nil]

/-! ## Ends -/

theorem getElem?_toList_of_lt (r : Ring α n) {offset : Nat} (h : offset < r.len) :
    r.toList[offset]? = some (r.slot offset h) := by
  have hplace : (r.head + offset) % n < n := Nat.mod_lt _ (by have := r.len_le; omega)
  rw [getElem?_toList, if_pos h, Vector.getElem?_eq_getElem hplace]
  rfl

theorem front?_eq (r : Ring α n) : r.front? = r.toList.head? := by
  rw [front?, List.head?_eq_getElem?]
  by_cases h : 0 < r.len
  · rw [dif_pos h, getElem?_toList_of_lt r h]
  · rw [dif_neg h, getElem?_toList, if_neg h]

theorem back?_eq (r : Ring α n) : r.back? = r.toList.getLast? := by
  rw [back?, List.getLast?_eq_getElem?, length_toList]
  by_cases h : 0 < r.len
  · have hlast : r.len - 1 < r.len := by omega
    rw [dif_pos h, getElem?_toList_of_lt r hlast]
  · have hnone : ¬ r.len - 1 < r.len := by omega
    rw [dif_neg h, getElem?_toList, if_neg hnone]

/-- A push gives up nothing as long as there is room, then the oldest value, and its own where nothing fits. -/
theorem snd_push (r : Ring α n) (x : α) :
    (r.push x).2 = if r.len < n then none else if n = 0 then some x else r.toList.head? := by
  by_cases hn : n = 0
  · subst hn
    rw [if_neg (Nat.not_lt_zero _), if_pos rfl, push, dif_pos rfl]
  · by_cases hlt : r.len < n
    · rw [if_pos hlt, push, dif_neg hn, dif_pos hlt]
    · have hlen : 0 < r.len := by omega
      have hhead : r.head < n := r.head_lt.resolve_right hn
      have hplace : (r.head + 0) % n = r.head := Nat.mod_eq_of_lt hhead
      rw [if_neg hlt, if_neg hn, push, dif_neg hn, dif_neg hlt, List.head?_eq_getElem?, getElem?_toList, if_pos hlen,
        hplace, Vector.getElem?_eq_getElem hhead]

/-! ## Accesses -/

/-- A ring as bare storage, of which nothing says that the counts fit the slots. Its places are natural numbers, like
those of a ring. -/
structure Cells (α : Type) where
  slots : List α
  head : Nat
  len : Nat

/-- What can go wrong in bare storage. -/
inductive AccessFault where
  | outside
  | zeroDivisor

namespace Cells

/-- A remainder, if there is one. -/
def remainder (a b : Nat) : Except AccessFault Nat :=
  if b = 0 then .error .zeroDivisor else .ok (a % b)

/-- Reads a slot, if there is one at an index. -/
def read (slots : List α) (index : Nat) : Except AccessFault α :=
  match slots[index]? with
  | some x => .ok x
  | none => .error .outside

/-- Writes a slot, if there is one at an index. -/
def write (slots : List α) (index : Nat) (x : α) : Except AccessFault (List α) :=
  if index < slots.length then .ok (slots.set index x) else .error .outside

/-- Storage in which nothing is held. -/
def fresh [Inhabited α] (n : Nat) : Cells α := ⟨List.replicate n default, 0, 0⟩

/-- The value a number of places after the oldest one. -/
def valueAt (c : Cells α) (offset : Nat) : Except AccessFault α := do
  read c.slots (← remainder (c.head + offset) c.slots.length)

/-- The values held, oldest first. -/
def values (c : Cells α) : Except AccessFault (List α) := (List.range c.len).mapM c.valueAt

/-- The oldest value. -/
def front (c : Cells α) : Except AccessFault (Option α) := do
  if c.len = 0 then return none else return some (← read c.slots c.head)

/-- The newest value. -/
def back (c : Cells α) : Except AccessFault (Option α) := do
  if c.len = 0 then return none else return some (← c.valueAt (c.len - 1))

/-- Adds a value, and gives the one that had to go. -/
def push (c : Cells α) (x : α) : Except AccessFault (Cells α × Option α) := do
  if c.slots.length = 0 then return (c, some x)
  else if c.len < c.slots.length then
    let slots ← write c.slots (← remainder (c.head + c.len) c.slots.length) x
    return ({ c with slots, len := c.len + 1 }, none)
  else
    let oldest ← read c.slots c.head
    let slots ← write c.slots c.head x
    return ({ c with slots, head := ← remainder (c.head + 1) c.slots.length }, some oldest)

/-- The storage after a move. -/
def perform (c : Cells α) : Move α → Except AccessFault (Cells α)
  | .push value => return (← c.push value).1
  | .clear => return { c with head := 0, len := 0 }

/-- The storage after some moves, if no access on the way fails. -/
def run (c : Cells α) (moves : List (Move α)) : Except AccessFault (Cells α) := moves.foldlM perform c

/-- The index is reduced by a capacity that is not zero. -/
theorem remainder_of_pos {a b : Nat} (h : 0 < b) : remainder a b = .ok (a % b) := if_neg (Nat.ne_of_gt h)

theorem read_of_lt {slots : List α} {index : Nat} (h : index < slots.length) : read slots index = .ok slots[index] := by
  rw [read, List.getElem?_eq_getElem h]

theorem write_of_lt {slots : List α} {index : Nat} (h : index < slots.length) (x : α) :
    write slots index x = .ok (slots.set index x) := if_pos h

end Cells

/-- The storage of a ring. -/
def cells (r : Ring α n) : Cells α := ⟨r.slots.toList, r.head, r.len⟩

@[simp] theorem length_slots_cells (r : Ring α n) : r.cells.slots.length = n := r.slots.length_toList

theorem cells_empty [Inhabited α] : (empty : Ring α n).cells = .fresh n := by
  rw [cells, Cells.fresh, empty, Vector.toList_replicate]

/-- Every access to a value that a ring holds goes through. -/
theorem cells_valueAt (r : Ring α n) {offset : Nat} (h : offset < r.len) :
    r.cells.valueAt offset = .ok (r.slot offset h) := by
  have hpos : 0 < n := by have := r.len_le; omega
  have hplace : (r.head + offset) % n < r.cells.slots.length := by
    rw [length_slots_cells]
    exact Nat.mod_lt _ hpos
  rw [Cells.valueAt, length_slots_cells, Cells.remainder_of_pos hpos]
  exact Cells.read_of_lt hplace

/-- Accesses one after another go through if each is to a value that is held. -/
theorem mapM_valueAt (r : Ring α n) (offsets : List Nat) (h : ∀ i ∈ offsets, i < r.len) :
    offsets.mapM r.cells.valueAt = .ok (offsets.attach.map fun ⟨i, hi⟩ => r.slot i (h i hi)) := by
  induction offsets with
  | nil => rfl
  | cons i offsets ih =>
    obtain ⟨hi, hrest⟩ := List.forall_mem_cons.mp h
    rw [List.mapM_cons, cells_valueAt r hi]
    change (offsets.mapM r.cells.valueAt >>= _) = _
    rw [ih hrest, List.attach_cons, List.map_cons, List.map_map]
    rfl

/-- No read of an occupied cell is out of bounds, or of a cell that was never written. -/
theorem cells_values (r : Ring α n) : r.cells.values = .ok r.toList :=
  mapM_valueAt r (List.range r.len) fun _ hi => List.mem_range.mp hi

theorem cells_front (r : Ring α n) : r.cells.front = .ok r.front? := by
  rw [Cells.front, front?]
  by_cases h : 0 < r.len
  · have hne : ¬ r.cells.len = 0 := Nat.ne_of_gt h
    have hn : n ≠ 0 := by have := r.len_le; omega
    have hhead : r.head < n := r.head_lt.resolve_right hn
    have hlt : r.cells.head < r.cells.slots.length := by
      rw [length_slots_cells]
      exact hhead
    -- The oldest value is read at the head itself.
    have hslot : r.slot 0 h = r.cells.slots[r.cells.head] := by
      simp [slot, cells, Nat.mod_eq_of_lt hhead, Vector.get]
    rw [if_neg hne, dif_pos h, Cells.read_of_lt hlt, hslot]
    rfl
  · have heq : r.cells.len = 0 := Nat.eq_zero_of_not_pos h
    rw [if_pos heq, dif_neg h]
    rfl

theorem cells_back (r : Ring α n) : r.cells.back = .ok r.back? := by
  rw [Cells.back, back?]
  by_cases h : 0 < r.len
  · have hne : ¬ r.cells.len = 0 := Nat.ne_of_gt h
    have hlast : r.len - 1 < r.len := by omega
    have hvalue := cells_valueAt r hlast
    rw [if_neg hne, dif_pos h]
    change (r.cells.valueAt (r.len - 1) >>= _) = _
    rw [hvalue]
    rfl
  · have heq : r.cells.len = 0 := Nat.eq_zero_of_not_pos h
    rw [if_pos heq, dif_neg h]
    rfl

/-- A push writes within bounds, and what it drops was written before. -/
theorem cells_push (r : Ring α n) (x : α) : r.cells.push x = .ok ((r.push x).1.cells, (r.push x).2) := by
  rw [Cells.push, push, length_slots_cells]
  by_cases hn : n = 0
  · rw [if_pos hn, dif_pos hn]
    rfl
  · have hpos : 0 < n := Nat.pos_of_ne_zero hn
    rw [if_neg hn, dif_neg hn]
    -- With room the value goes behind the last one, and otherwise over the oldest, which is read first.
    by_cases hlt : r.len < n
    · have hplace : (r.head + r.len) % n < r.cells.slots.length := by
        rw [length_slots_cells]
        exact Nat.mod_lt _ hpos
      have hroom : r.cells.len < n := hlt
      rw [if_pos hroom, dif_pos hlt, Cells.remainder_of_pos hpos]
      change (Cells.write r.cells.slots ((r.head + r.len) % n) x >>= _) = _
      rw [Cells.write_of_lt hplace]
      simp [cells, bind, Except.bind, pure, Except.pure, Vector.toList_set]
    · have hhead : r.head < r.cells.slots.length := by
        rw [length_slots_cells]
        exact r.head_lt.resolve_right hn
      have hfull : ¬ r.cells.len < n := hlt
      rw [if_neg hfull, dif_neg hlt, Cells.remainder_of_pos hpos]
      change (Cells.read r.cells.slots r.head >>= fun oldest => Cells.write r.cells.slots r.head x >>= _) = _
      rw [Cells.read_of_lt hhead, Cells.write_of_lt hhead]
      simp [cells, bind, Except.bind, pure, Except.pure, Vector.toList_set]

theorem cells_perform (r : Ring α n) (move : Move α) : r.cells.perform move = .ok (r.perform move).cells := by
  cases move with
  | push value =>
    rw [Cells.perform, cells_push]
    rfl
  | clear => rfl

/-- The checked accesses of any moves go through, and leave the cells of the ring. -/
theorem cells_run (r : Ring α n) (moves : List (Move α)) : r.cells.run moves = .ok (moves.foldl perform r).cells := by
  induction moves generalizing r with
  | nil => rfl
  | cons move moves ih =>
    rw [Cells.run, List.foldlM_cons, cells_perform]
    exact ih (r.perform move)

/-! ## Queues -/

/-- Let values be pushed into a new ring, and the ring be cleared, in any order. It holds the last of the values
pushed since the last clear, as many as fit, and gives the first and the last of those. A push gives up nothing as long
as there is room, then the oldest value held, and its own where nothing fits at all. On bare storage every access of
these moves and of the reads and the push after them goes through, to the same values. -/
theorem queue_of_moves [Inhabited α] (n : Nat) (moves : List (Move α)) :
    let r : Ring α n := after n moves
    let values := pushed moves
    let kept := values.rtake n
    r.toList = kept ∧ r.len = min n values.length ∧ r.front? = kept.head? ∧ r.back? = kept.getLast?
      ∧ (∀ x, (r.push x).2 =
          if values.length < n then none else if n = 0 then some x else kept.head?)
      ∧ (Cells.fresh n).run moves = .ok r.cells
      ∧ r.cells.values = .ok kept ∧ r.cells.front = .ok kept.head? ∧ r.cells.back = .ok kept.getLast?
      ∧ ∀ x, r.cells.push x = .ok ((r.push x).1.cells, (r.push x).2) := by
  intro r values kept
  have hkept : r.toList = kept := toList_after n moves
  -- All that is said of a ring is read off the values that it holds.
  have hlen : r.len = min n values.length := by
    rw [← length_toList, hkept]
    simp only [kept, List.rtake, List.length_drop]
    omega
  have hfront : r.front? = kept.head? := by
    rw [front?_eq, hkept]
  have hback : r.back? = kept.getLast? := by
    rw [back?_eq, hkept]
  refine ⟨hkept, hlen, hfront, hback, ?_, ?_, ?_, ?_, ?_, r.cells_push⟩
  · -- There is room as long as fewer values were pushed than fit.
    intro x
    have hroom : r.len < n ↔ values.length < n := by
      rw [hlen]
      omega
    rw [snd_push, hkept]
    simp only [hroom]
  · rw [← cells_empty]
    exact cells_run empty moves
  · rw [cells_values, hkept]
  · rw [cells_front, hfront]
  · rw [cells_back, hback]

/-- A ring of capacity two, cleared with values around its end. -/
example : (after 2 [.push 1, .push 2, .push 3, .clear, .push 4, .push 5, .push 6] : Ring Nat 2).toList = [5, 6] := by
  decide

end TopicHealth.Ring
