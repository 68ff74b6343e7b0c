import TopicHealth.Proofs.Wire.Decoder
import Mathlib.Data.Nat.Digits.Defs

/-!
# Varints

* `Varint n bytes`: the bytes are one of the forms of a number, which may be longer than it needs.
* `takes_varint`: the reader takes every form and nothing else.
* `Varint.length_le`, `Varint.eq_writeVarint`: the writer's form is the only shortest one.
-/

namespace TopicHealth.Wire

/-! ## Little-endian numbers -/

/-- The number that bytes stand for, the lowest first. -/
def number (bytes : List UInt8) : Nat := Nat.ofDigits 256 (bytes.map UInt8.toNat)

theorem number_cons (b : UInt8) (bytes : List UInt8) : number (b :: bytes) = b.toNat + 256 * number bytes := by
  simp only [number, List.map_cons, Nat.ofDigits_cons]

theorem number_lt (bytes : List UInt8) : number bytes < 256 ^ bytes.length := by
  have h := Nat.ofDigits_lt_base_pow_length (b := 256) (l := bytes.map UInt8.toNat) (by decide) (by
    intro x hx
    obtain ⟨b, _, rfl⟩ := List.mem_map.mp hx
    exact b.toNat_lt)
  rwa [List.length_map] at h

/-- Bytes of one length are told apart by the number they stand for. -/
theorem number_injective {xs ys : List UInt8} (hlen : xs.length = ys.length) (h : number xs = number ys) : xs = ys := by
  induction xs generalizing ys with
  | nil => exact (List.length_eq_zero_iff.mp hlen.symm).symm
  | cons x xs ih =>
    cases ys with
    | nil => cases hlen
    | cons y ys =>
      have hx := x.toNat_lt
      have hy := y.toNat_lt
      rw [number_cons, number_cons] at h
      have hhead : x = y := UInt8.toNat_inj.mp (by omega)
      have htail : xs = ys := ih (Nat.succ.inj hlen) (by omega)
      rw [hhead, htail]

theorem length_littleEndian (width n : Nat) : (littleEndian width n).length = width := by
  induction width generalizing n with
  | zero => rfl
  | succ width ih => rw [littleEndian, List.length_cons, ih]

/-- The bytes of a number are read back. -/
theorem number_littleEndian {width n : Nat} (h : n < 256 ^ width) : number (littleEndian width n) = n := by
  induction width generalizing n with
  | zero => rw [littleEndian]; exact (Nat.lt_one_iff.mp h).symm
  | succ width ih =>
    have hhigh : n / 256 < 256 ^ width := by
      rw [Nat.div_lt_iff_lt_mul (by decide), ← Nat.pow_succ]
      exact h
    have hlow : (UInt8.ofNat (n % 256)).toNat = n % 256 := UInt8.toNat_ofNat_of_lt' (Nat.mod_lt _ (by decide))
    rw [littleEndian, number_cons, ih hhigh, hlow]
    omega

theorem takes_byte : Takes readByte (fun b bytes => bytes = [b]) := by
  intro input b rest
  cases input with
  | nil => simp [readByte]
  | cons c input => simp [readByte]

theorem settled_byte : Settled readByte where
  ok {input a rest} more h := by
    obtain ⟨_, rfl, rfl⟩ := (takes_byte input a rest).mp h
    rfl
  error {input fault} more h hkind := by
    cases input with
    | nil =>
      cases h
      exact absurd rfl hkind
    | cons b input => cases h

theorem takes_littleEndian (width : Nat) :
    Takes (readLittleEndian width) (fun n bytes => bytes.length = width ∧ n = number bytes) := by
  induction width with
  | zero =>
    refine (takes_pure 0).congr fun n bytes => ?_
    constructor
    · rintro ⟨rfl, rfl⟩
      exact ⟨rfl, rfl⟩
    · rintro ⟨hlen, rfl⟩
      have hnil := List.length_eq_zero_iff.mp hlen
      subst hnil
      exact ⟨rfl, rfl⟩
  | succ width ih =>
    refine (takes_byte.bind fun low => ih.bind fun high => takes_pure (low.toNat + 256 * high)).congr
      fun n bytes => ?_
    constructor
    · rintro ⟨low, _, _, rfl, ⟨high, front, _, ⟨hlen, rfl⟩, ⟨rfl, rfl⟩, rfl⟩, rfl⟩
      rw [List.append_nil]
      exact ⟨by rw [List.singleton_append, List.length_cons, hlen], (number_cons low front).symm⟩
    · rintro ⟨hlen, rfl⟩
      cases bytes with
      | nil => cases hlen
      | cons low front =>
        refine ⟨low, [low], front, rfl, ?_, rfl⟩
        exact ⟨number front, front, [], ⟨Nat.succ.inj hlen, rfl⟩, ⟨number_cons low front, rfl⟩,
          (List.append_nil _).symm⟩

theorem settled_littleEndian (width : Nat) : Settled (readLittleEndian width) := by
  induction width with
  | zero => exact settled_pure 0
  | succ width ih => exact settled_byte.bind fun low => ih.bind fun high => settled_pure _

/-! ## Numbers of any width -/

/-- The bytes are one of the forms of a number. A byte up to 250 stands for itself; a marker announces two, four
or eight bytes, the lowest first, which may be more than the number needs. -/
inductive Varint : Nat → List UInt8 → Prop where
  | one {b : UInt8} : b.toNat ≤ 250 → Varint b.toNat [b]
  | two {bytes : List UInt8} : bytes.length = 2 → Varint (number bytes) (251 :: bytes)
  | four {bytes : List UInt8} : bytes.length = 4 → Varint (number bytes) (252 :: bytes)
  | eight {bytes : List UInt8} : bytes.length = 8 → Varint (number bytes) (253 :: bytes)

theorem Varint.lt {n : Nat} {bytes : List UInt8} (h : Varint n bytes) : n < 2 ^ 64 := by
  cases h with
  | one hb => omega
  | two hlen | four hlen | eight hlen =>
    rename_i bytes
    have hlt := number_lt bytes
    rw [hlen] at hlt
    omega

/-- What may follow a first byte, and the number that it then makes. -/
def VarintTail (first : UInt8) (n : Nat) (bytes : List UInt8) : Prop :=
  first.toNat ≤ 250 ∧ n = first.toNat ∧ bytes = []
    ∨ (first = 251 ∧ bytes.length = 2 ∨ first = 252 ∧ bytes.length = 4 ∨ first = 253 ∧ bytes.length = 8)
      ∧ n = number bytes

theorem varint_iff {n : Nat} {bytes : List UInt8} :
    Varint n bytes ↔ ∃ first back, VarintTail first n back ∧ bytes = first :: back := by
  constructor
  · intro h
    cases h with
    | one hb => exact ⟨_, [], Or.inl ⟨hb, rfl, rfl⟩, rfl⟩
    | two hlen => exact ⟨251, _, Or.inr ⟨Or.inl ⟨rfl, hlen⟩, rfl⟩, rfl⟩
    | four hlen => exact ⟨252, _, Or.inr ⟨Or.inr (Or.inl ⟨rfl, hlen⟩), rfl⟩, rfl⟩
    | eight hlen => exact ⟨253, _, Or.inr ⟨Or.inr (Or.inr ⟨rfl, hlen⟩), rfl⟩, rfl⟩
  · rintro ⟨first, back, ⟨hb, rfl, rfl⟩ | ⟨⟨rfl, hlen⟩ | ⟨rfl, hlen⟩ | ⟨rfl, hlen⟩, rfl⟩, rfl⟩
    · exact .one hb
    · exact .two hlen
    · exact .four hlen
    · exact .eight hlen

/-- What the reader does after the first byte. -/
def readVarintTail (first : UInt8) : Decoder Nat :=
  if first ≤ 250 then return first.toNat
  else if first = 251 then readLittleEndian 2
  else if first = 252 then readLittleEndian 4
  else if first = 253 then readLittleEndian 8
  else if first = 254 then throw .wideMarker
  else throw .reservedMarker

theorem readVarint_eq : readVarint = readByte >>= readVarintTail := rfl

theorem takes_varintTail (first : UInt8) : Takes (readVarintTail first) (VarintTail first) := by
  have hsmall : first ≤ 250 ↔ first.toNat ≤ 250 := UInt8.le_iff_toNat_le
  unfold readVarintTail VarintTail
  split_ifs with h1 h2 h3 h4 h5
  · refine (takes_pure first.toNat).congr fun n bytes => ?_
    rw [hsmall] at h1
    constructor
    · exact fun h => Or.inl ⟨h1, h⟩
    · rintro (h | ⟨⟨rfl, _⟩ | ⟨rfl, _⟩ | ⟨rfl, _⟩, _⟩)
      · exact h.2
      all_goals exact absurd h1 (by decide)
  all_goals rw [hsmall] at h1
  · subst h2
    exact (takes_littleEndian 2).congr fun n bytes => by simp
  · subst h3
    exact (takes_littleEndian 4).congr fun n bytes => by simp
  · subst h4
    exact (takes_littleEndian 8).congr fun n bytes => by simp
  · exact (takes_throw _).congr fun n bytes => by simp [h1, h2, h3, h4]
  · exact (takes_throw _).congr fun n bytes => by simp [h1, h2, h3, h4]

theorem takes_varint : Takes readVarint Varint := by
  rw [readVarint_eq]
  refine (takes_byte.bind takes_varintTail).congr fun n bytes => ?_
  rw [varint_iff]
  constructor
  · rintro ⟨first, _, back, rfl, htail, rfl⟩
    exact ⟨first, back, htail, rfl⟩
  · rintro ⟨first, back, htail, rfl⟩
    exact ⟨first, [first], back, rfl, htail, rfl⟩

theorem settled_varint : Settled readVarint := by
  rw [readVarint_eq]
  refine settled_byte.bind fun first => ?_
  unfold readVarintTail
  split_ifs
  · exact settled_pure _
  · exact settled_littleEndian 2
  · exact settled_littleEndian 4
  · exact settled_littleEndian 8
  · exact settled_throw _
  · exact settled_throw _

/-- A 32-bit word may be written wider than it is, but its value may not be. -/
theorem takes_word : Takes readWord (fun n bytes => n < 2 ^ 32 ∧ Varint n bytes) := by
  have hcheck : ∀ n, Takes (if n < 2 ^ 32 then pure n else throw (.wideWord n) : Decoder Nat)
      (fun m bytes => n < 2 ^ 32 ∧ m = n ∧ bytes = []) := by
    intro n
    split_ifs with h
    · exact (takes_pure n).congr fun m bytes => (and_iff_right h).symm
    · exact (takes_throw _).congr fun m bytes => (iff_of_false id fun hm => h hm.1)
  refine (takes_varint.bind hcheck).congr fun n bytes => ?_
  constructor
  · rintro ⟨m, front, back, hform, ⟨hlt, rfl, rfl⟩, rfl⟩
    exact ⟨hlt, by rwa [List.append_nil]⟩
  · rintro ⟨hlt, hform⟩
    exact ⟨n, bytes, [], hform, ⟨hlt, rfl, rfl⟩, (List.append_nil _).symm⟩

theorem settled_word : Settled readWord := by
  refine settled_varint.bind fun n => ?_
  split_ifs
  · exact settled_pure n
  · exact settled_throw _

/-! ## The shortest form -/

/-- Every number of 64 bits has the form that the writer gives it. -/
theorem varint_writeVarint {n : Nat} (h : n < 2 ^ 64) : Varint n (writeVarint n) := by
  unfold writeVarint
  split_ifs with h1 h2 h3
  · have hb : (UInt8.ofNat n).toNat = n := UInt8.toNat_ofNat_of_lt' (show n < 2 ^ 8 by omega)
    have hform := Varint.one (b := UInt8.ofNat n) (by omega)
    rwa [hb] at hform
  · have hform := Varint.two (length_littleEndian 2 n)
    rwa [number_littleEndian (by omega)] at hform
  · have hform := Varint.four (length_littleEndian 4 n)
    rwa [number_littleEndian (by omega)] at hform
  · have hform := Varint.eight (length_littleEndian 8 n)
    rwa [number_littleEndian (by omega)] at hform

/-- How many bytes the writer needs. -/
theorem length_writeVarint (n : Nat) : (writeVarint n).length
    = if n ≤ 250 then 1 else if n < 2 ^ 16 then 3 else if n < 2 ^ 32 then 5 else 9 := by
  unfold writeVarint
  split_ifs <;> simp [length_littleEndian]

/-- What is written for a number is no longer than any other form of it. -/
theorem Varint.length_le {n : Nat} {bytes : List UInt8} (h : Varint n bytes) :
    (writeVarint n).length ≤ bytes.length := by
  rw [length_writeVarint]
  cases h with
  | one hb => simp [hb]
  | two hlen | four hlen | eight hlen =>
    rename_i bytes
    have hlt := number_lt bytes
    rw [hlen] at hlt
    rw [List.length_cons, hlen]
    split_ifs <;> omega

/-- Forms of one number that have one length are the same: the length tells the marker. -/
theorem Varint.unique {n : Nat} {xs ys : List UInt8} (hx : Varint n xs) (hy : Varint n ys)
    (hlen : xs.length = ys.length) : xs = ys := by
  obtain ⟨a, xs, htail, rfl⟩ := varint_iff.mp hx
  obtain ⟨b, ys, htail', rfl⟩ := varint_iff.mp hy
  rw [List.length_cons, List.length_cons, Nat.succ.injEq] at hlen
  rcases htail with ⟨_, hn, rfl⟩ | ⟨hmark, hn⟩ <;> rcases htail' with ⟨_, hn', rfl⟩ | ⟨hmark', hn'⟩
  · rw [UInt8.toNat_inj.mp (hn.symm.trans hn')]
  · rw [List.length_nil] at hlen
    omega
  · rw [List.length_nil] at hlen
    omega
  · have hrest : xs = ys := number_injective hlen (hn ▸ hn')
    have hhead : a = b := by
      rcases hmark with h | h | h <;> rcases hmark' with h' | h' | h' <;> first | exact h.1.trans h'.1.symm | omega
    rw [hhead, hrest]

/-- A form that is as short as the writer's is the writer's. -/
theorem Varint.eq_writeVarint {n : Nat} {bytes : List UInt8} (h : Varint n bytes)
    (hlen : bytes.length = (writeVarint n).length) : bytes = writeVarint n :=
  h.unique (varint_writeVarint h.lt) hlen

end TopicHealth.Wire
