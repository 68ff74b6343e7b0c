import TopicHealth.Duration

/-!
# Rings

A ring keeps the newest values up to a fixed capacity. The values stand in a vector of that length, from `head`
on and around its end; `toList` reads them oldest first. A push into a full ring gives up the oldest value.

Places are natural numbers here. Those of words of 64 bits come to the same in a ring whose capacity is at most 2^63,
which is more than there is room for: no place is formed from a sum of twice the capacity or more
(`Ring.head_add_lt_word`).
-/

namespace TopicHealth

/-- At most `n` values, the oldest at `head`. A ring of capacity zero holds nothing. -/
structure Ring (α : Type) (n : Nat) where
  slots : Vector α n
  head : Nat
  len : Nat
  head_lt : head < n ∨ n = 0
  len_le : len ≤ n

namespace Ring

variable {α : Type} {n : Nat}

/-- A ring that holds nothing. -/
def empty [Inhabited α] : Ring α n :=
  ⟨Vector.replicate n default, 0, 0, by omega, by omega⟩

instance [Inhabited α] : Inhabited (Ring α n) := ⟨empty⟩

/-- The number of values that fit. -/
def capacity (_ : Ring α n) : Nat := n

/-- Whether nothing is held. -/
def isEmpty (r : Ring α n) : Bool := r.len = 0

/-- The value `offset` places after the oldest one. -/
def slot (r : Ring α n) (offset : Nat) (h : offset < r.len) : α :=
  r.slots.get ⟨(r.head + offset) % n, Nat.mod_lt _ (by have := r.len_le; omega)⟩

/-- The values held, oldest first. -/
def toList (r : Ring α n) : List α :=
  (List.range r.len).attach.map fun ⟨offset, h⟩ => r.slot offset (List.mem_range.mp h)

/-- The oldest value. -/
def front? (r : Ring α n) : Option α :=
  if h : 0 < r.len then some (r.slot 0 h) else none

/-- The newest value. -/
def back? (r : Ring α n) : Option α :=
  if h : 0 < r.len then some (r.slot (r.len - 1) (by omega)) else none

/-- Adds a value and gives the one that had to go: the oldest of a full ring, or the new one if nothing fits. -/
def push (r : Ring α n) (x : α) : Ring α n × Option α :=
  if hn : n = 0 then (r, some x)
  else
    have hpos : 0 < n := Nat.pos_of_ne_zero hn
    if hlen : r.len < n then
      (⟨r.slots.set ((r.head + r.len) % n) x (Nat.mod_lt _ hpos), r.head, r.len + 1, r.head_lt, hlen⟩, none)
    else
      have hhead : r.head < n := r.head_lt.resolve_right hn
      (⟨r.slots.set r.head x hhead, (r.head + 1) % n, r.len, Or.inl (Nat.mod_lt _ hpos), r.len_le⟩,
        some r.slots[r.head])

/-- Forgets the values. -/
def clear (r : Ring α n) : Ring α n :=
  ⟨r.slots, 0, 0, by have := r.head_lt; omega, by omega⟩

/-- Why a mean could not be formed. -/
inductive MeanFault where
  /-- The sum of the durations is over the range. -/
  | overflow
deriving DecidableEq, Repr

/-- The arithmetic mean of the durations held, none if there are none. The count divides as a 32-bit number. -/
def mean (r : Ring Duration n) : Except MeanFault (Option Duration) :=
  if h : 0 < r.len then
    match Duration.sum? r.toList with
    | some total => .ok (some (total.divide (Nat.min r.len (2 ^ 32 - 1)) (by
        rw [Nat.lt_min]
        exact ⟨h, by decide⟩)))
    | none => .error .overflow
  else .ok none

end Ring

end TopicHealth
