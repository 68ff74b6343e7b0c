import TopicHealth.Proofs.Wire.Part

/-!
# Laws of codecs

`Codec.Laws` joins a codec with the parts of its values: what it writes, what it takes, and that it decides from what
it has taken. The laws hold of the elementary codecs and pass through `both`, `via` and `list`, so that a codec built
from these has them by construction.
-/

namespace TopicHealth.Wire.Codec

variable {α β : Type}

/-- A codec reads and writes the forms of the parts that its values are made of. -/
structure Laws (codec : Codec α) (parts : α → List Part) : Prop where
  write : ∀ a, codec.write a = shortest (parts a)
  takes : Takes codec.read (fun a bytes => Forms (parts a) bytes)
  settled : Settled codec.read

/-! ## Elementary codecs -/

/-- Words of `size` values that are made from what a reader finds, with the number as its only part. -/
theorem takes_number {d : Decoder Nat} {form : Nat → List UInt8 → Prop} (h : Takes d form) (size : Nat)
    (make : Nat → α) (value : α → Nat) (hform : ∀ n bytes, form n bytes → n < size)
    (hvalue : ∀ n, n < size → value (make n) = n) (hmake : ∀ a, make (value a) = a) :
    Takes (make <$> d) (fun a bytes => form (value a) bytes) := by
  refine (h.map make).congr fun a bytes => ?_
  constructor
  · rintro ⟨n, hn, rfl⟩
    rwa [hvalue n (hform n bytes hn)]
  · intro ha
    exact ⟨value a, ha, (hmake a).symm⟩

theorem byte_laws : byte.Laws fun b => [.byte b] where
  write b := rfl
  takes := takes_byte.congr fun b bytes => by
    rw [forms_singleton_iff]
    constructor
    · rintro rfl
      exact .byte b
    · intro h
      cases h
      rfl
  settled := settled_byte

theorem signedByte_laws : signedByte.Laws fun i => [.signedByte i] where
  write i := rfl
  takes := (takes_byte.map UInt8.toInt8).congr fun i bytes => by
    rw [forms_singleton_iff]
    constructor
    · rintro ⟨b, rfl, rfl⟩
      exact .signedByte b.toInt8
    · intro h
      cases h
      exact ⟨i.toUInt8, rfl, rfl⟩
  settled := settled_byte.map _

theorem flag_laws : flag.Laws fun b => [.flag b] where
  write b := rfl
  takes := by
    have hcheck : ∀ c : UInt8, Takes
        (if c = 0 then pure false else if c = 1 then pure true else throw (.badFlag c) : Decoder Bool)
        (fun b bytes => c = (if b then 1 else 0) ∧ bytes = []) := by
      intro c
      split_ifs with h0 h1
      · refine (takes_pure false).congr fun b bytes => ?_
        cases b <;> simp [h0]
      · refine (takes_pure true).congr fun b bytes => ?_
        cases b <;> simp [h1]
      · refine (takes_throw _).congr fun b bytes => ?_
        cases b <;> simp [h0, h1]
    refine (takes_byte.bind hcheck).congr fun b bytes => ?_
    rw [forms_singleton_iff]
    constructor
    · rintro ⟨c, _, _, rfl, ⟨rfl, rfl⟩, rfl⟩
      exact .flag b
    · intro h
      cases h
      exact ⟨_, _, [], rfl, ⟨rfl, rfl⟩, rfl⟩
  settled := by
    refine settled_byte.bind fun c => ?_
    split_ifs
    · exact settled_pure false
    · exact settled_pure true
    · exact settled_throw _

theorem word_laws : word.Laws fun n => [.word n] where
  write n := (List.append_nil _).symm
  takes := by
    refine (takes_number takes_word (2 ^ 32) UInt32.ofNat UInt32.toNat ?_ ?_ ?_).congr fun n bytes => ?_
    · exact fun n bytes h => h.1
    · exact fun n h => UInt32.toNat_ofNat_of_lt' h
    · exact fun n => UInt32.ofNat_toNat
    rw [forms_singleton_iff]
    constructor
    · exact fun h => .word h.2
    · intro h
      cases h with
      | word hform => exact ⟨n.toNat_lt, hform⟩
  settled := settled_word.map _

theorem long_laws : long.Laws fun n => [.long n] where
  write n := (List.append_nil _).symm
  takes := by
    refine (takes_number takes_varint (2 ^ 64) UInt64.ofNat UInt64.toNat ?_ ?_ ?_).congr fun n bytes => ?_
    · exact fun n bytes h => h.lt
    · exact fun n h => UInt64.toNat_ofNat_of_lt' h
    · exact fun n => UInt64.ofNat_toNat
    rw [forms_singleton_iff]
    constructor
    · exact fun h => .long h
    · intro h
      cases h with
      | long hform => exact hform
  settled := settled_varint.map _

theorem single_laws : single.Laws fun x => [.single x] where
  write x := (List.append_nil _).symm
  takes := by
    refine (takes_number (takes_littleEndian 4) (2 ^ 32) (fun n => (⟨UInt32.ofNat n⟩ : Binary32))
      (fun x => x.bits.toNat) ?_ ?_ ?_).congr fun x bytes => ?_
    · rintro _ bytes ⟨hlen, rfl⟩
      have hlt := number_lt bytes
      rwa [hlen] at hlt
    · exact fun n h => UInt32.toNat_ofNat_of_lt' h
    · exact fun x => congrArg Binary32.mk UInt32.ofNat_toNat
    rw [forms_singleton_iff]
    constructor
    · exact fun h => .single h.1 h.2.symm
    · intro h
      cases h with
      | single hlen hnum => exact ⟨hlen, hnum.symm⟩
  settled := (settled_littleEndian 4).map fun n => (⟨UInt32.ofNat n⟩ : Binary32)

theorem double_laws : double.Laws fun x => [.double x] where
  write x := (List.append_nil _).symm
  takes := by
    refine (takes_number (takes_littleEndian 8) (2 ^ 64) (fun n => (⟨UInt64.ofNat n⟩ : Binary64))
      (fun x => x.bits.toNat) ?_ ?_ ?_).congr fun x bytes => ?_
    · rintro _ bytes ⟨hlen, rfl⟩
      have hlt := number_lt bytes
      rwa [hlen] at hlt
    · exact fun n h => UInt64.toNat_ofNat_of_lt' h
    · exact fun x => congrArg Binary64.mk UInt64.ofNat_toNat
    rw [forms_singleton_iff]
    constructor
    · exact fun h => .double h.1 h.2.symm
    · intro h
      cases h with
      | double hlen hnum => exact ⟨hlen, hnum.symm⟩
  settled := (settled_littleEndian 8).map fun n => (⟨UInt64.ofNat n⟩ : Binary64)

/-! ### Texts -/

theorem takes_bytes (count : Nat) :
    Takes (readBytes count) (fun taken bytes => bytes = taken ∧ taken.length = count) := by
  intro input taken rest
  unfold readBytes
  split_ifs with h
  · rw [List.splitAt_eq]
    constructor
    · intro heq
      cases heq
      exact ⟨_, ⟨rfl, List.length_take_of_le h⟩, (List.take_append_drop count input).symm⟩
    · rintro ⟨_, ⟨rfl, rfl⟩, rfl⟩
      rw [List.take_left, List.drop_left]
  · constructor
    · intro heq
      cases heq
    · rintro ⟨_, ⟨rfl, rfl⟩, rfl⟩
      exact absurd (by simp) h

theorem settled_bytes (count : Nat) : Settled (readBytes count) where
  ok {input taken rest} more h := by
    obtain ⟨bytes, hbytes, rfl⟩ := (takes_bytes count input taken rest).mp h
    exact (takes_bytes count _ taken _).mpr ⟨bytes, hbytes, List.append_assoc ..⟩
  error {input fault} more h hkind := by
    unfold readBytes at h
    split_ifs at h
    cases h
    exact absurd rfl hkind

/-- What the reader makes of the bytes of a text. -/
def checkText (bytes : List UInt8) : Decoder String :=
  match Utf8.decode bytes with
  | .ok chars => return String.ofList chars
  | .error fault => throw (.badText fault)

theorem read_text : text.read = readVarint >>= fun count => readBytes count >>= checkText := rfl

/-- The bytes of a text are those of its encoding, and no other bytes pass. -/
theorem takes_checkText (bytes : List UInt8) :
    Takes (checkText bytes) (fun s front => bytes = s.toByteArray.data.toList ∧ front = []) := by
  unfold checkText
  cases hdecode : Utf8.decode bytes with
  | ok chars =>
    refine (takes_pure (String.ofList chars)).congr fun s front => and_congr_left fun _ => ?_
    have hbytes := Utf8.decode_eq_ok_iff.mp hdecode
    rw [← Part.encode_toList]
    constructor
    · rintro rfl
      rw [String.toList_ofList, hbytes]
    · intro hs
      have hchars : chars = s.toList := by
        rw [hs, Utf8.decode_eq_ok_iff.mpr rfl] at hdecode
        exact (Except.ok.inj hdecode).symm
      rw [hchars, String.ofList_toList]
  | error fault =>
    refine (takes_throw _).congr fun s front => iff_of_false id ?_
    rintro ⟨hs, _⟩
    rw [← Part.encode_toList] at hs
    rw [Utf8.decode_eq_ok_iff.mpr hs] at hdecode
    cases hdecode

theorem settled_checkText (bytes : List UInt8) : Settled (checkText bytes) := by
  unfold checkText
  cases Utf8.decode bytes with
  | ok chars => exact settled_pure _
  | error fault => exact settled_throw _

/-- The parts of a text: its length in bytes and its characters. -/
def textParts (s : String) : List Part := [.length s.utf8ByteSize, .chars s]

theorem length_toList_data (s : String) : s.toByteArray.data.toList.length = s.utf8ByteSize := rfl

theorem text_laws : text.Laws textParts where
  write s := by
    have hlen : (Utf8.encode s.toList).length = s.utf8ByteSize := by rw [Part.encode_toList, length_toList_data]
    simp only [text, textParts, shortest, List.flatMap_cons, List.flatMap_nil, List.append_nil, Part.shortest, hlen]
  takes := by
    rw [read_text]
    refine (takes_varint.bind fun count => (takes_bytes count).bind takes_checkText).congr fun s bytes => ?_
    simp only [textParts, forms_cons_iff, forms_nil_iff]
    constructor
    · rintro ⟨count, front, _, hform, ⟨taken, _, _, ⟨rfl, hcount⟩, ⟨hs, rfl⟩, rfl⟩, rfl⟩
      rw [hs, length_toList_data] at hcount
      subst hcount
      exact ⟨front, _, .length hform, ⟨_, [], .chars s, rfl, rfl⟩, by rw [hs]⟩
    · rintro ⟨front, _, hlength, ⟨_, _, hchars, rfl, rfl⟩, rfl⟩
      cases hlength with
      | length hform =>
        cases hchars
        exact ⟨_, front, _, hform, ⟨_, _, [], ⟨rfl, length_toList_data s⟩, ⟨rfl, rfl⟩, rfl⟩, rfl⟩
  settled := by
    rw [read_text]
    exact settled_varint.bind fun count => (settled_bytes count).bind settled_checkText

/-! ## Composition -/

/-- Two values one after another. -/
theorem Laws.both {first : Codec α} {second : Codec β} {ps : α → List Part} {qs : β → List Part}
    (h : first.Laws ps) (h' : second.Laws qs) : (first.both second).Laws fun v => ps v.1 ++ qs v.2 where
  write v := by
    show first.write v.1 ++ second.write v.2 = _
    rw [h.write, h'.write]
    exact List.flatMap_append.symm
  takes := by
    refine (h.takes.bind fun a => h'.takes.bind fun b => takes_pure (a, b)).congr fun v bytes => ?_
    rw [forms_append_iff]
    constructor
    · rintro ⟨a, front, _, hfront, ⟨b, back, _, hback, ⟨rfl, rfl⟩, rfl⟩, rfl⟩
      exact ⟨front, back, hfront, hback, by rw [List.append_nil]⟩
    · rintro ⟨front, back, hfront, hback, rfl⟩
      exact ⟨v.1, front, back, hfront, ⟨v.2, back, [], hback, ⟨rfl, rfl⟩, (List.append_nil _).symm⟩, rfl⟩
  settled := h.settled.bind fun a => h'.settled.bind fun b => settled_pure (a, b)

/-- The same parts under another type, whose values are taken apart and put together again without loss. -/
theorem Laws.via {codec : Codec α} {ps : α → List Part} (h : codec.Laws ps) {make : α → β} {split : β → α}
    {qs : β → List Part} (hmake : ∀ b, make (split b) = b) (hsplit : ∀ a, split (make a) = a)
    (hparts : ∀ b, ps (split b) = qs b) : (codec.via make split).Laws qs where
  write b := by
    show codec.write (split b) = _
    rw [h.write, hparts]
  takes := by
    refine (h.takes.map make).congr fun b bytes => ?_
    rw [← hparts]
    constructor
    · rintro ⟨a, hform, rfl⟩
      rwa [hsplit]
    · intro hform
      exact ⟨split b, hform, (hmake b).symm⟩
  settled := h.settled.map make

/-- The parts of a list: its length and its items'. -/
def listParts (parts : α → List Part) (items : List α) : List Part :=
  .length items.length :: items.flatMap parts

/-- As many items as were announced, one after another. -/
theorem takes_items {item : Decoder α} {parts : α → List Part} (h : Takes item fun a bytes => Forms (parts a) bytes)
    (count : Nat) : Takes (readItems item count)
      (fun items bytes => items.length = count ∧ Forms (items.flatMap parts) bytes) := by
  induction count with
  | zero =>
    refine (takes_pure []).congr fun items bytes => ?_
    constructor
    · rintro ⟨rfl, rfl⟩
      exact ⟨rfl, .nil⟩
    · rintro ⟨hlen, hform⟩
      have hnil := List.length_eq_zero_iff.mp hlen
      subst hnil
      exact ⟨rfl, forms_nil_iff.mp hform⟩
  | succ count ih =>
    refine (h.bind fun first => ih.bind fun rest => takes_pure (first :: rest)).congr fun items bytes => ?_
    constructor
    · rintro ⟨first, front, _, hfirst, ⟨rest, back, _, ⟨hlen, hrest⟩, ⟨rfl, rfl⟩, rfl⟩, rfl⟩
      rw [List.append_nil]
      exact ⟨congrArg Nat.succ hlen, forms_append_iff.mpr ⟨front, back, hfirst, hrest, rfl⟩⟩
    · rintro ⟨hlen, hform⟩
      cases items with
      | nil => cases hlen
      | cons first rest =>
        obtain ⟨front, back, hfirst, hrest, rfl⟩ := forms_append_iff.mp hform
        exact ⟨first, front, back, hfirst,
          ⟨rest, back, [], ⟨Nat.succ.inj hlen, hrest⟩, ⟨rfl, rfl⟩, (List.append_nil _).symm⟩, rfl⟩

theorem settled_items {item : Decoder α} (h : Settled item) (count : Nat) : Settled (readItems item count) := by
  induction count with
  | zero => exact settled_pure []
  | succ count ih => exact h.bind fun first => ih.bind fun rest => settled_pure (first :: rest)

/-- A list is its length and its items. -/
theorem Laws.list {item : Codec α} {parts : α → List Part} (h : item.Laws parts) :
    item.list.Laws (listParts parts) where
  write items := by
    show writeVarint items.length ++ items.flatMap item.write = _
    rw [funext h.write]
    simp only [shortest, listParts, List.flatMap_cons, List.flatMap_assoc, Part.shortest]
  takes := by
    refine (takes_varint.bind fun count => takes_items h.takes count).congr fun items bytes => ?_
    simp only [listParts, forms_cons_iff]
    constructor
    · rintro ⟨count, front, back, hform, ⟨rfl, hitems⟩, rfl⟩
      exact ⟨front, back, .length hform, hitems, rfl⟩
    · rintro ⟨front, back, hlength, hitems, rfl⟩
      cases hlength with
      | length hform => exact ⟨_, front, back, hform, ⟨rfl, hitems⟩, rfl⟩
  settled := settled_varint.bind fun count => settled_items h.settled count

end TopicHealth.Wire.Codec
