import TopicHealth.Proofs.Wire.Schema

/-!
# Wire forms of events

* `decode_eq_ok_iff_wireForm`: bytes decode to an event exactly when they are one of its wire forms, and of these
  forms the encoder's is the only shortest one.
* `decode_append_eq`: bytes that decode, or fail for any reason but their end, have settled what becomes of any
  continuation. So no accepted bytes are a prefix of others, and what is cut short fails at its end.
-/

namespace TopicHealth.Event

open Wire

/-- The bytes are a form of an event: of each of its parts in turn, and nothing follows. -/
def WireForm (e : Event) (bytes : List UInt8) : Prop := Forms e.parts bytes

/-- Every list and every text inside an event is shorter than 2^64. -/
def Fits (e : Event) : Prop := ∀ n, Part.length n ∈ e.parts → n < 2 ^ 64

theorem encode_eq_shortest (e : Event) : e.encode = shortest e.parts := codec_laws.write e

/-- What decoding makes of what the reader found. -/
theorem decode_of_read_ok {bytes rest : List UInt8} {e : Event} (h : codec.read bytes = .ok (e, rest)) :
    decode bytes = if rest = [] then .ok e else .error .trailingBytes := by
  rw [decode, h]
  cases rest with
  | nil => rfl
  | cons b rest => rfl

theorem decode_of_read_error {bytes : List UInt8} {fault : Fault} (h : codec.read bytes = .error fault) :
    decode bytes = .error fault := by
  rw [decode, h]

/-! ## Forms -/

theorem decode_eq_ok_iff {bytes : List UInt8} {e : Event} : decode bytes = .ok e ↔ WireForm e bytes := by
  constructor
  · intro h
    cases hread : codec.read bytes with
    | error fault =>
      rw [decode_of_read_error hread] at h
      cases h
    | ok p =>
      obtain ⟨e', rest⟩ := p
      rw [decode_of_read_ok hread] at h
      split_ifs at h with hrest
      cases h
      obtain ⟨front, hform, hbytes⟩ := (codec_laws.takes bytes e rest).mp hread
      rw [hrest, List.append_nil] at hbytes
      rwa [hbytes]
  · intro h
    have hread := (codec_laws.takes bytes e []).mpr ⟨bytes, h, (List.append_nil _).symm⟩
    rw [decode_of_read_ok hread, if_pos rfl]

theorem wireForm_encode {e : Event} (h : e.Fits) : WireForm e e.encode := by
  rw [encode_eq_shortest]
  refine forms_shortest fun p hp => ?_
  cases p with
  | length n => exact h n hp
  | _ => trivial

theorem WireForm.fits {e : Event} {bytes : List UInt8} (h : WireForm e bytes) : e.Fits :=
  fun _ hn => Forms.fits h _ hn

/-- No form of an event is shorter than its encoding. -/
theorem WireForm.length_encode_le {e : Event} {bytes : List UInt8} (h : WireForm e bytes) :
    e.encode.length ≤ bytes.length := by
  rw [encode_eq_shortest]
  exact Forms.length_le h

/-- There is one shortest form. -/
theorem WireForm.eq_encode {e : Event} {bytes : List UInt8} (h : WireForm e bytes)
    (hlen : bytes.length = e.encode.length) : bytes = e.encode := by
  rw [encode_eq_shortest] at hlen ⊢
  exact Forms.eq_shortest h hlen

/-- Bytes decode to an event exactly when they are one of its wire forms. Where there is a form, the encoder's is
one, none is shorter, and no other is as short. -/
theorem decode_eq_ok_iff_wireForm (bytes : List UInt8) (e : Event) :
    (decode bytes = .ok e ↔ WireForm e bytes)
      ∧ (decode bytes = .ok e → WireForm e e.encode ∧ e.encode.length ≤ bytes.length
        ∧ (e.encode.length = bytes.length → bytes = e.encode)) := by
  refine ⟨decode_eq_ok_iff, fun h => ?_⟩
  have hform := decode_eq_ok_iff.mp h
  exact ⟨wireForm_encode hform.fits, hform.length_encode_le, fun hlen => hform.eq_encode hlen.symm⟩

/-- A time stamp written in nine bytes where one would do, and a tag in three. -/
theorem decode_wide_varints :
    WireForm ⟨7, true, .userFlag⟩ [253, 7, 0, 0, 0, 0, 0, 0, 0, 1, 251, 11, 0]
      ∧ (encode ⟨7, true, .userFlag⟩).length ≤ 13 := by
  have hdecode : decode [253, 7, 0, 0, 0, 0, 0, 0, 0, 1, 251, 11, 0] = .ok ⟨7, true, .userFlag⟩ := by
    decide
  have h := decode_eq_ok_iff_wireForm [253, 7, 0, 0, 0, 0, 0, 0, 0, 1, 251, 11, 0] ⟨7, true, .userFlag⟩
  exact ⟨h.1.mp hdecode, (h.2 hdecode).2.1⟩

/-! ## Continuations -/

/-- Bytes after an event are left over. -/
theorem decode_append_of_ok {bytes more : List UInt8} {e : Event} (hmore : more ≠ []) (h : decode bytes = .ok e) :
    decode (bytes ++ more) = .error .trailingBytes := by
  have hread := (codec_laws.takes bytes e []).mpr ⟨bytes, decode_eq_ok_iff.mp h, (List.append_nil _).symm⟩
  have hmore' : [] ++ more ≠ [] := hmore
  rw [decode_of_read_ok (codec_laws.settled.ok more hread), if_neg hmore']

/-- A reader that has met a fault other than the end of its input never looked at what is behind it. -/
theorem decode_append_of_error {bytes : List UInt8} {fault : Fault} (more : List UInt8)
    (h : decode bytes = .error fault) (hkind : fault.kind ≠ .io) : decode (bytes ++ more) = .error fault := by
  cases hread : codec.read bytes with
  | error fault' =>
    rw [decode_of_read_error hread] at h
    cases h
    exact decode_of_read_error (codec_laws.settled.error more hread hkind)
  | ok p =>
    -- The reader left bytes over, and leaves them and more over in the longer input.
    obtain ⟨e, rest⟩ := p
    rw [decode_of_read_ok hread] at h
    split_ifs at h with hrest
    cases h
    have hrest' : rest ++ more ≠ [] := fun hnil => hrest (List.append_eq_nil_iff.mp hnil).1
    rw [decode_of_read_ok (codec_laws.settled.ok more hread), if_neg hrest']

/-- What decoding makes of bytes settles what it makes of every continuation. After bytes that decode, something is
left over; after bytes that fail for another reason than their end, the failure is the same. So bytes that decode
are no prefix of others that do, and what is cut off before its end fails for that reason. -/
theorem decode_append_eq (bytes more : List UInt8) (hmore : more ≠ []) :
    (∀ e, decode bytes = .ok e → decode (bytes ++ more) = .error .trailingBytes)
      ∧ (∀ fault, decode bytes = .error fault → fault.kind ≠ .io → decode (bytes ++ more) = .error fault)
      ∧ (∀ e e', decode bytes = .ok e → decode (bytes ++ more) ≠ .ok e')
      ∧ (∀ e, decode (bytes ++ more) = .ok e → ∃ fault, decode bytes = .error fault ∧ fault.kind = .io)
      ∧ Fault.trailingBytes.kind = .custom
      ∧ Fault.trailingBytes.message = "Slice had bytes remaining after deserialization" := by
  refine ⟨fun e h => decode_append_of_ok hmore h, fun fault h => decode_append_of_error more h, ?_, ?_, rfl, rfl⟩
  · intro e e' h h'
    rw [decode_append_of_ok hmore h] at h'
    cases h'
  · intro e h
    cases hdecode : decode bytes with
    | ok e' =>
      rw [decode_append_of_ok hmore hdecode] at h
      cases h
    | error fault =>
      refine ⟨fault, rfl, ?_⟩
      by_contra hkind
      rw [decode_append_of_error more hdecode hkind] at h
      cases h

/-- A byte after an event is left over, and one after a bad flag changes nothing. -/
theorem decode_append_byte : decode [7, 1, 11, 0] = .error .trailingBytes
    ∧ decode [7, 2, 11] = .error (.badFlag 2) := by
  have hevent : decode [7, 1, 11] = .ok ⟨7, true, .userFlag⟩ := by
    decide
  have hflag : decode [7, 2] = .error (.badFlag 2) := by
    decide
  have hok := decode_append_eq [7, 1, 11] [0] (by decide)
  have herror := decode_append_eq [7, 2] [11] (by decide)
  exact ⟨hok.1 _ hevent, herror.2.1 _ hflag (by decide)⟩

end TopicHealth.Event
