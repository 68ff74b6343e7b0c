import TopicHealth.Event
import TopicHealth.Proofs.Utf8
import TopicHealth.Proofs.Wire.Varint

/-!
# Parts of a wire form

What a wire form is, said without a reader or a writer. A value is a list of parts in the order of its fields, each
part has one form or several, and a form of the value is a form of each part, one after another.

* `Forms parts bytes`: the bytes are a form of the parts.
* `Forms.length_le`, `Forms.eq_shortest`: of all forms of some parts `shortest` is the only shortest one.
-/

namespace TopicHealth.Wire

/-- A piece of a value that is written in one go. -/
inductive Part where
  | byte (b : UInt8)
  | signedByte (i : Int8)
  | flag (b : Bool)
  | word (n : UInt32)
  | long (n : UInt64)
  /-- The length of a list, or of a text in bytes. -/
  | length (n : Nat)
  /-- Which service's payload follows. -/
  | tag (s : Service)
  | single (x : Binary32)
  | double (x : Binary64)
  /-- A text without its length. -/
  | chars (s : String)
deriving DecidableEq

namespace Part

/-- The bytes are one of the forms of a part. Words, lengths and tags are numbers of any width that holds them; what
is not a number has a single form. -/
inductive Form : Part → List UInt8 → Prop where
  | byte (b : UInt8) : Form (.byte b) [b]
  | signedByte (i : Int8) : Form (.signedByte i) [i.toUInt8]
  | flag (b : Bool) : Form (.flag b) [if b then 1 else 0]
  | word {n : UInt32} {bytes : List UInt8} : Varint n.toNat bytes → Form (.word n) bytes
  | long {n : UInt64} {bytes : List UInt8} : Varint n.toNat bytes → Form (.long n) bytes
  | length {n : Nat} {bytes : List UInt8} : Varint n bytes → Form (.length n) bytes
  | tag {s : Service} {bytes : List UInt8} : Varint s.index bytes → Form (.tag s) bytes
  | single {x : Binary32} {bytes : List UInt8} :
    bytes.length = 4 → number bytes = x.bits.toNat → Form (.single x) bytes
  | double {x : Binary64} {bytes : List UInt8} :
    bytes.length = 8 → number bytes = x.bits.toNat → Form (.double x) bytes
  | chars (s : String) : Form (.chars s) s.toByteArray.data.toList

/-- The form that writers give a part. -/
def shortest : Part → List UInt8
  | byte b => [b]
  | signedByte i => [i.toUInt8]
  | flag b => [if b then 1 else 0]
  | word n => writeVarint n.toNat
  | long n => writeVarint n.toNat
  | length n => writeVarint n
  | tag s => writeVarint s.index
  | single x => littleEndian 4 x.bits.toNat
  | double x => littleEndian 8 x.bits.toNat
  | chars s => Utf8.encode s.toList

/-- A length that can be written. Every other part can. -/
def Fits : Part → Prop
  | length n => n < 2 ^ 64
  | _ => True

theorem encode_toList (s : String) : Utf8.encode s.toList = s.toByteArray.data.toList := by
  have h := Utf8.encode_eq_utf8Encode s.toList
  rw [String.utf8Encode_toList] at h
  rw [← h, List.toList_data_toByteArray]

theorem Form.fits {p : Part} {bytes : List UInt8} (h : p.Form bytes) : p.Fits := by
  cases h with
  | length hform => exact hform.lt
  | _ => trivial

theorem form_shortest {p : Part} (h : p.Fits) : p.Form p.shortest := by
  cases p with
  | byte b => exact .byte b
  | signedByte i => exact .signedByte i
  | flag b => exact .flag b
  | word n => exact .word (varint_writeVarint (Nat.lt_trans n.toNat_lt (by decide)))
  | long n => exact .long (varint_writeVarint n.toNat_lt)
  | length n => exact .length (varint_writeVarint h)
  | tag s => exact .tag (varint_writeVarint (Nat.lt_trans s.index_lt (by decide)))
  | single x => exact .single (length_littleEndian 4 _) (number_littleEndian x.bits.toNat_lt)
  | double x => exact .double (length_littleEndian 8 _) (number_littleEndian x.bits.toNat_lt)
  | chars s =>
    have hform := Form.chars s
    rwa [← encode_toList] at hform

/-- The shortest form of a part is no longer than any other. -/
theorem Form.length_le {p : Part} {bytes : List UInt8} (h : p.Form bytes) : p.shortest.length ≤ bytes.length := by
  cases h with
  | byte b | signedByte i | flag b => exact Nat.le_refl _
  | word hform | long hform | length hform | tag hform => exact hform.length_le
  | single hlen hnum | double hlen hnum => rw [shortest, length_littleEndian, hlen]
  | chars s => rw [shortest, encode_toList]

/-- A part has one form of the least length. -/
theorem Form.eq_shortest {p : Part} {bytes : List UInt8} (h : p.Form bytes)
    (hlen : bytes.length = p.shortest.length) : bytes = p.shortest := by
  cases h with
  | byte b | signedByte i | flag b => rfl
  | word hform | long hform | length hform | tag hform => exact hform.eq_writeVarint hlen
  | single hfour hnum =>
    rename_i x
    exact number_injective hlen (hnum.trans (number_littleEndian x.bits.toNat_lt).symm)
  | double height hnum =>
    rename_i x
    exact number_injective hlen (hnum.trans (number_littleEndian x.bits.toNat_lt).symm)
  | chars s => exact (encode_toList s).symm

end Part

/-! ## One part after another -/

/-- The bytes are a form of each part in turn. -/
inductive Forms : List Part → List UInt8 → Prop where
  | nil : Forms [] []
  | cons {p : Part} {parts : List Part} {front back : List UInt8} :
    p.Form front → Forms parts back → Forms (p :: parts) (front ++ back)

/-- The form that writers give some parts. -/
def shortest (parts : List Part) : List UInt8 := parts.flatMap Part.shortest

@[simp] theorem forms_nil_iff {bytes : List UInt8} : Forms [] bytes ↔ bytes = [] := by
  constructor
  · intro h
    cases h
    rfl
  · rintro rfl
    exact .nil

@[simp] theorem forms_cons_iff {p : Part} {parts : List Part} {bytes : List UInt8} :
    Forms (p :: parts) bytes ↔ ∃ front back, p.Form front ∧ Forms parts back ∧ bytes = front ++ back := by
  constructor
  · intro h
    cases h with
    | cons hfront hback => exact ⟨_, _, hfront, hback, rfl⟩
  · rintro ⟨front, back, hfront, hback, rfl⟩
    exact .cons hfront hback

theorem forms_singleton_iff {p : Part} {bytes : List UInt8} : Forms [p] bytes ↔ p.Form bytes := by
  simp

theorem forms_append_iff {ps qs : List Part} {bytes : List UInt8} :
    Forms (ps ++ qs) bytes ↔ ∃ front back, Forms ps front ∧ Forms qs back ∧ bytes = front ++ back := by
  induction ps generalizing bytes with
  | nil => simp
  | cons p ps ih =>
    simp only [List.cons_append, forms_cons_iff, ih]
    constructor
    · rintro ⟨xs, _, hp, ⟨ys, zs, hps, hqs, rfl⟩, rfl⟩
      exact ⟨xs ++ ys, zs, ⟨xs, ys, hp, hps, rfl⟩, hqs, (List.append_assoc ..).symm⟩
    · rintro ⟨_, zs, ⟨xs, ys, hp, hps, rfl⟩, hqs, rfl⟩
      exact ⟨xs, ys ++ zs, hp, ⟨ys, zs, hps, hqs, rfl⟩, List.append_assoc ..⟩

theorem Forms.fits {parts : List Part} {bytes : List UInt8} (h : Forms parts bytes) : ∀ p ∈ parts, p.Fits := by
  induction h with
  | nil => simp
  | cons hfront _ ih => exact List.forall_mem_cons.mpr ⟨hfront.fits, ih⟩

theorem forms_shortest {parts : List Part} (h : ∀ p ∈ parts, p.Fits) : Forms parts (shortest parts) := by
  induction parts with
  | nil => exact .nil
  | cons p parts ih =>
    obtain ⟨hp, hparts⟩ := List.forall_mem_cons.mp h
    exact .cons (Part.form_shortest hp) (ih hparts)

theorem Forms.length_le {parts : List Part} {bytes : List UInt8} (h : Forms parts bytes) :
    (shortest parts).length ≤ bytes.length := by
  induction h with
  | nil => exact Nat.le_refl _
  | cons hfront _ ih =>
    have hhead := hfront.length_le
    simp only [shortest, List.flatMap_cons, List.length_append] at ih ⊢
    omega

/-- A form that is as short as the writers' is the writers'. -/
theorem Forms.eq_shortest {parts : List Part} {bytes : List UInt8} (h : Forms parts bytes)
    (hlen : bytes.length = (shortest parts).length) : bytes = shortest parts := by
  induction h with
  | nil => rfl
  | cons hfront hback ih =>
    -- Neither half can be shorter than the writers', so neither is longer.
    have hhead := hfront.length_le
    have htail := hback.length_le
    simp only [shortest, List.flatMap_cons, List.length_append] at ih htail hlen ⊢
    rw [hfront.eq_shortest (by omega), ih (by omega)]

end TopicHealth.Wire
