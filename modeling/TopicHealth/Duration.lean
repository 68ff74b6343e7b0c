import TopicHealth.Power

/-!
# Durations

A duration is a count of whole seconds below 2^64 and of nanoseconds below 10^9. `toNanos` is its exact value;
the operations work on the two parts, and the laws below say what each does to the value.
-/

namespace TopicHealth

/-- A span of time, or a reading of a clock as the span since the clock's origin. -/
structure Duration where
  secs : Nat
  nanos : Nat
  secs_lt : secs < 2 ^ 64
  nanos_lt : nanos < 10 ^ 9
deriving DecidableEq

namespace Duration

/-- The exact value in nanoseconds. -/
def toNanos (d : Duration) : Nat := d.secs * 10 ^ 9 + d.nanos

/-- The least number of nanoseconds that no duration holds. -/
def limit : Nat := 2 ^ 64 * 10 ^ 9

theorem toNanos_lt (d : Duration) : d.toNanos < limit := by
  have hs := d.secs_lt
  have hn := d.nanos_lt
  simp only [toNanos, limit]
  omega

/-- The duration of a number of nanoseconds. -/
def ofNanos (n : Nat) (h : n < limit := by decide) : Duration :=
  ⟨n / 10 ^ 9, n % 10 ^ 9, by simp only [limit] at h; omega, by omega⟩

/-- The duration of a number of nanoseconds, if it is small enough. -/
def ofNanos? (n : Nat) : Option Duration :=
  if h : n < limit then some (ofNanos n h) else none

/-- The duration with the given parts, if each is in range. -/
def ofParts? (secs nanos : Nat) : Option Duration :=
  if h : secs < 2 ^ 64 ∧ nanos < 10 ^ 9 then some ⟨secs, nanos, h.1, h.2⟩ else none

/-- A number of milliseconds. -/
def ofMillis (n : Nat) (h : n * 10 ^ 6 < limit := by decide) : Duration := ofNanos (n * 10 ^ 6) h

/-- The empty span. -/
def zero : Duration := ⟨0, 0, by decide, by decide⟩

/-- The longest span. -/
def max : Duration := ⟨2 ^ 64 - 1, 10 ^ 9 - 1, by decide, by decide⟩

instance : Inhabited Duration := ⟨zero⟩

instance : LE Duration := ⟨fun a b => a.toNanos ≤ b.toNanos⟩

instance : LT Duration := ⟨fun a b => a.toNanos < b.toNanos⟩

/-- The seconds are compared first. -/
theorem le_iff_parts (a b : Duration) : a.secs < b.secs ∨ a.secs = b.secs ∧ a.nanos ≤ b.nanos ↔ a ≤ b := by
  have ha := a.nanos_lt
  have hb := b.nanos_lt
  show _ ↔ a.toNanos ≤ b.toNanos
  simp only [toNanos]
  omega

theorem lt_iff_parts (a b : Duration) : a.secs < b.secs ∨ a.secs = b.secs ∧ a.nanos < b.nanos ↔ a < b := by
  have ha := a.nanos_lt
  have hb := b.nanos_lt
  show _ ↔ a.toNanos < b.toNanos
  simp only [toNanos]
  omega

instance (a b : Duration) : Decidable (a ≤ b) := decidable_of_iff _ (le_iff_parts a b)

instance (a b : Duration) : Decidable (a < b) := decidable_of_iff _ (lt_iff_parts a b)

/-- Whether the span is empty. -/
def isZero (d : Duration) : Bool := d.secs = 0 && d.nanos = 0

/-- The sum, with a carry from the nanoseconds into the seconds; none when the seconds overflow. -/
def add? (a b : Duration) : Option Duration :=
  let nanos := a.nanos + b.nanos
  if nanos < 10 ^ 9 then ofParts? (a.secs + b.secs) nanos
  else ofParts? (a.secs + b.secs + 1) (nanos - 10 ^ 9)

/-- The difference with a borrow from the seconds; zero when the second span is not the shorter one. -/
def sub (a b : Duration) : Duration :=
  if b.toNanos ≤ a.toNanos then
    if h : b.nanos ≤ a.nanos then
      ⟨a.secs - b.secs, a.nanos - b.nanos, by have := a.secs_lt; omega, by have := a.nanos_lt; omega⟩
    else
      ⟨a.secs - b.secs - 1, 10 ^ 9 + a.nanos - b.nanos, by have := a.secs_lt; omega,
        by have := a.nanos_lt; have := b.nanos_lt; omega⟩
  else zero

instance : Sub Duration := ⟨sub⟩

/-- The sum of a list; none when it overflows. -/
def sum? (ds : List Duration) : Option Duration :=
  ds.foldlM add? zero

theorem quotient_nanos_lt (d : Duration) (n : Nat) (h : 0 < n) :
    d.nanos / n + (d.secs % n * 10 ^ 9 + d.nanos % n) / n < 10 ^ 9 := by
  have hn := d.nanos_lt
  have hmod : d.secs % n < n := Nat.mod_lt _ h
  have heq : d.nanos / n + (d.secs % n * 10 ^ 9 + d.nanos % n) / n
      = (d.secs % n * 10 ^ 9 + d.nanos) / n := by
    conv => rhs; rw [← Nat.div_add_mod d.nanos n]
    rw [show d.secs % n * 10 ^ 9 + (n * (d.nanos / n) + d.nanos % n)
        = (d.secs % n * 10 ^ 9 + d.nanos % n) + n * (d.nanos / n) by omega]
    rw [Nat.add_mul_div_left _ _ h]
    omega
  rw [heq, Nat.div_lt_iff_lt_mul h]
  have : (d.secs % n + 1) * 10 ^ 9 ≤ n * 10 ^ 9 := Nat.mul_le_mul_right _ hmod
  omega

/-- The span divided by a positive count, part by part: the seconds that are left over are divided as nanoseconds. -/
def divide (d : Duration) (n : Nat) (h : 0 < n) : Duration :=
  ⟨d.secs / n, d.nanos / n + (d.secs % n * 10 ^ 9 + d.nanos % n) / n,
    Nat.lt_of_le_of_lt (Nat.div_le_self _ _) d.secs_lt, quotient_nanos_lt d n h⟩

/-- The value in nanoseconds as a 64-bit word, at most the greatest word. -/
def toWord (d : Duration) : UInt64 := UInt64.ofNat (Nat.min d.toNanos (2 ^ 64 - 1))

/-! ## Laws -/

@[simp] theorem toNanos_zero : zero.toNanos = 0 := rfl

theorem toNanos_max : max.toNanos = limit - 1 := rfl

@[simp] theorem toNanos_ofNanos (n : Nat) (h : n < limit) : (ofNanos n h).toNanos = n := by
  simp only [toNanos, ofNanos]
  omega

theorem lt_def {a b : Duration} : a < b ↔ a.toNanos < b.toNanos := Iff.rfl

theorem le_def {a b : Duration} : a ≤ b ↔ a.toNanos ≤ b.toNanos := Iff.rfl

theorem toNanos_injective {a b : Duration} (h : a.toNanos = b.toNanos) : a = b := by
  have ha := a.nanos_lt
  have hb := b.nanos_lt
  simp only [toNanos] at h
  obtain ⟨as, an, _, _⟩ := a
  obtain ⟨bs, bn, _, _⟩ := b
  simp only at h ha hb
  have hs : as = bs := by omega
  subst hs
  have hn : an = bn := by omega
  subst hn
  rfl

theorem ofParts?_eq_some {secs nanos : Nat} {d : Duration} (h : ofParts? secs nanos = some d) :
    d.secs = secs ∧ d.nanos = nanos := by
  unfold ofParts? at h
  split at h
  · simp only [Option.some.injEq] at h
    subst h
    exact ⟨rfl, rfl⟩
  · simp at h

/-- A sum is exact. -/
theorem toNanos_add? {a b c : Duration} (h : a.add? b = some c) : c.toNanos = a.toNanos + b.toNanos := by
  simp only [add?] at h
  split at h <;> obtain ⟨hs, hn⟩ := ofParts?_eq_some h <;> simp only [toNanos, hs, hn] <;> omega

/-- A sum fails exactly when its value is over the range. -/
theorem add?_eq_none_iff {a b : Duration} : a.add? b = none ↔ limit ≤ a.toNanos + b.toNanos := by
  have ha := a.nanos_lt
  have hb := b.nanos_lt
  simp only [add?, ofParts?, toNanos, limit]
  split <;> split <;> simp <;> omega

/-- A difference is exact, or zero. -/
theorem toNanos_sub (a b : Duration) : (a - b).toNanos = a.toNanos - b.toNanos := by
  have ha := a.nanos_lt
  have hb := b.nanos_lt
  show (sub a b).toNanos = _
  unfold sub
  split
  · rename_i hle
    split <;> simp only [toNanos] at * <;> omega
  · simp only [toNanos_zero]
    omega

end Duration

end TopicHealth
