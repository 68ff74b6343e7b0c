import Mathlib.Tactic.SplitIfs
import TopicHealth.Proofs.Prelude
import TopicHealth.Utf8

/-!
# UTF-8 in both directions

* `encode_eq_utf8Encode`: writing a text gives the bytes that a string of its characters is made of.
* `decode_eq_ok_iff`: reading succeeds on what writing makes and on nothing else, so every text has one form.
-/

namespace TopicHealth.Utf8

/-! ## Characters by their numbers -/

theorem toNat_ofNat_of_lt {n : Nat} (h : n < 256) : (UInt8.ofNat n).toNat = n :=
  UInt8.toNat_ofNat_of_lt' h

/-- A character's number is below the surrogates or above them. -/
theorem toNat_range (c : Char) : c.toNat < 0xD800 ∨ 0xDFFF < c.toNat ∧ c.toNat < 0x110000 :=
  c.valid

theorem toNat_ofNat {n : Nat} (h : n.isValidChar) : (Char.ofNat n).toNat = n := by
  rw [Char.ofNat, dif_pos h]
  rfl

theorem encodeChar_one {c : Char} (h : c.toNat < 0x80) : encodeChar c = [UInt8.ofNat c.toNat] := by
  simp [encodeChar, h]

theorem encodeChar_two {c : Char} (hlow : 0x80 ≤ c.toNat) (h : c.toNat < 0x800) :
    encodeChar c = [UInt8.ofNat (0xC0 + c.toNat / 64), UInt8.ofNat (0x80 + c.toNat % 64)] := by
  simp [encodeChar, Nat.not_lt.mpr hlow, h]

theorem encodeChar_three {c : Char} (hlow : 0x800 ≤ c.toNat) (h : c.toNat < 0x10000) :
    encodeChar c = [UInt8.ofNat (0xE0 + c.toNat / 4096), UInt8.ofNat (0x80 + c.toNat / 64 % 64),
      UInt8.ofNat (0x80 + c.toNat % 64)] := by
  have h1 : ¬ c.toNat < 0x80 := by omega
  simp [encodeChar, h1, Nat.not_lt.mpr hlow, h]

theorem encodeChar_four {c : Char} (hlow : 0x10000 ≤ c.toNat) :
    encodeChar c = [UInt8.ofNat (0xF0 + c.toNat / 262144), UInt8.ofNat (0x80 + c.toNat / 4096 % 64),
      UInt8.ofNat (0x80 + c.toNat / 64 % 64), UInt8.ofNat (0x80 + c.toNat % 64)] := by
  have h1 : ¬ c.toNat < 0x80 := by omega
  have h2 : ¬ c.toNat < 0x800 := by omega
  simp [encodeChar, h1, h2, Nat.not_lt.mpr hlow]

/-- The bytes of a character are those it has inside a string. -/
theorem encodeChar_eq_utf8EncodeChar (c : Char) : encodeChar c = String.utf8EncodeChar c := by
  have hc := toNat_range c
  unfold String.utf8EncodeChar
  simp only [Char.toNat_val]
  split
  · rename_i h
    exact encodeChar_one (by omega)
  rename_i h1
  split
  · rename_i h2
    rw [encodeChar_two (by omega) (by omega), Nat.mod_eq_of_lt (show c.toNat / 64 < 32 by omega)]
    simp only [Nat.add_comm]
  rename_i h2
  split
  · rename_i h3
    rw [encodeChar_three (by omega) (by omega), Nat.mod_eq_of_lt (show c.toNat / 4096 < 16 by omega)]
    simp only [Nat.add_comm]
  · rename_i h3
    rw [encodeChar_four (by omega), Nat.mod_eq_of_lt (show c.toNat / 262144 < 8 by omega)]
    simp only [Nat.add_comm]

/-- Writing a text gives the bytes that a string of its characters is made of. -/
theorem encode_eq_utf8Encode (text : List Char) : (encode text).toByteArray = text.utf8Encode := by
  have h : encodeChar = String.utf8EncodeChar := funext encodeChar_eq_utf8EncodeChar
  simp only [encode, List.utf8Encode, h]

/-! ## Reading what was written -/

theorem isTail_iff {b : UInt8} : isTail b ↔ 0x80 ≤ b.toNat ∧ b.toNat ≤ 0xBF := by
  simp [isTail, UInt8.le_iff_toNat_le]

/-- What a second byte may be: a byte that follows, within the bounds that its first byte sets. -/
theorem isSecond_iff {a b : UInt8} : isSecond a b ↔ 0x80 ≤ b.toNat ∧ b.toNat ≤ 0xBF
    ∧ (a.toNat = 0xE0 → 0xA0 ≤ b.toNat) ∧ (a.toNat = 0xED → b.toNat ≤ 0x9F)
    ∧ (a.toNat = 0xF0 → 0x90 ≤ b.toNat) ∧ (a.toNat = 0xF4 → b.toNat ≤ 0x8F) := by
  simp only [isSecond, isTail, ← UInt8.toNat_inj]
  split_ifs <;> simp_all [UInt8.le_iff_toNat_le] <;> omega

/-! ### One character at a time -/

theorem decodeAt_one {a : UInt8} (ha : a.toNat < 0x80) (index : Nat) (rest : List UInt8) :
    decodeAt index (a :: rest) = (decodeAt (index + 1) rest).map (Char.ofNat a.toNat :: ·) := by
  have h1 : a < 0x80 := ha
  rw [decodeAt.eq_def]
  simp only [h1, if_true]

theorem decodeAt_two {a b : UInt8} (ha : 0xC2 ≤ a.toNat) (ha' : a.toNat ≤ 0xDF) (hb : isTail b)
    (index : Nat) (rest : List UInt8) :
    decodeAt index (a :: b :: rest) = (decodeAt (index + 2) rest).map (char2 a b :: ·) := by
  have h1 : ¬ a < 0x80 := by simp [UInt8.lt_iff_toNat_lt]; omega
  have h2 : (decide (0xC2 ≤ a) && decide (a ≤ 0xDF)) = true := by simp [UInt8.le_iff_toNat_le, ha, ha']
  rw [decodeAt.eq_def]
  simp only [h1, h2, hb, if_true, if_false]

theorem decodeAt_three {a b c : UInt8} (ha : 0xE0 ≤ a.toNat) (ha' : a.toNat ≤ 0xEF) (hb : isSecond a b)
    (hc : isTail c) (index : Nat) (rest : List UInt8) :
    decodeAt index (a :: b :: c :: rest) = (decodeAt (index + 3) rest).map (char3 a b c :: ·) := by
  have h1 : ¬ a < 0x80 := by simp [UInt8.lt_iff_toNat_lt]; omega
  have h2 : ¬ (decide (0xC2 ≤ a) && decide (a ≤ 0xDF)) = true := by simp [UInt8.le_iff_toNat_le]; omega
  have h3 : (decide (0xE0 ≤ a) && decide (a ≤ 0xEF)) = true := by simp [UInt8.le_iff_toNat_le, ha, ha']
  rw [decodeAt.eq_def]
  simp only [h1, h2, h3, hb, hc, if_true, if_false, Bool.false_eq_true]

theorem decodeAt_four {a b c d : UInt8} (ha : 0xF0 ≤ a.toNat) (ha' : a.toNat ≤ 0xF4) (hb : isSecond a b)
    (hc : isTail c) (hd : isTail d) (index : Nat) (rest : List UInt8) :
    decodeAt index (a :: b :: c :: d :: rest) = (decodeAt (index + 4) rest).map (char4 a b c d :: ·) := by
  have h1 : ¬ a < 0x80 := by simp [UInt8.lt_iff_toNat_lt]; omega
  have h2 : ¬ (decide (0xC2 ≤ a) && decide (a ≤ 0xDF)) = true := by simp [UInt8.le_iff_toNat_le]; omega
  have h3 : ¬ (decide (0xE0 ≤ a) && decide (a ≤ 0xEF)) = true := by simp [UInt8.le_iff_toNat_le]; omega
  have h4 : (decide (0xF0 ≤ a) && decide (a ≤ 0xF4)) = true := by simp [UInt8.le_iff_toNat_le, ha, ha']
  rw [decodeAt.eq_def]
  simp only [h1, h2, h3, h4, hb, hc, hd, if_true, if_false, Bool.false_eq_true]

/-- Reading the bytes of a character gives it back, whatever follows. -/
theorem decodeAt_encodeChar_append (c : Char) (index : Nat) (rest : List UInt8) :
    decodeAt index (encodeChar c ++ rest)
      = (decodeAt (index + (encodeChar c).length) rest).map (c :: ·) := by
  have hrange := toNat_range c
  have hlast : (UInt8.ofNat (0x80 + c.toNat % 64)).toNat = 0x80 + c.toNat % 64 := toNat_ofNat_of_lt (by omega)
  have hmid : (UInt8.ofNat (0x80 + c.toNat / 64 % 64)).toNat = 0x80 + c.toNat / 64 % 64 :=
    toNat_ofNat_of_lt (by omega)
  have htail : isTail (UInt8.ofNat (0x80 + c.toNat % 64)) := by rw [isTail_iff, hlast]; omega
  -- One case for each length of a character. The bounds say which first byte was written, and so which is read.
  rcases Nat.lt_or_ge c.toNat 0x80 with h1 | h1
  · have ha : (UInt8.ofNat c.toNat).toNat = c.toNat := toNat_ofNat_of_lt (by omega)
    rw [encodeChar_one h1, List.singleton_append, decodeAt_one (by omega), ha, Char.ofNat_toNat]
    rfl
  rcases Nat.lt_or_ge c.toNat 0x800 with h2 | h2
  · have ha : (UInt8.ofNat (0xC0 + c.toNat / 64)).toNat = 0xC0 + c.toNat / 64 := toNat_ofNat_of_lt (by omega)
    have hchar : char2 (UInt8.ofNat (0xC0 + c.toNat / 64)) (UInt8.ofNat (0x80 + c.toNat % 64)) = c := by
      rw [char2, ha, hlast]
      rw [show (0xC0 + c.toNat / 64 - 0xC0) * 64 + (0x80 + c.toNat % 64 - 0x80) = c.toNat by omega]
      exact Char.ofNat_toNat c
    rw [encodeChar_two h1 h2]
    exact (decodeAt_two (by omega) (by omega) htail index rest).trans (by rw [hchar]; rfl)
  rcases Nat.lt_or_ge c.toNat 0x10000 with h3 | h3
  · have ha : (UInt8.ofNat (0xE0 + c.toNat / 4096)).toNat = 0xE0 + c.toNat / 4096 := toNat_ofNat_of_lt (by omega)
    have hchar : char3 (UInt8.ofNat (0xE0 + c.toNat / 4096)) (UInt8.ofNat (0x80 + c.toNat / 64 % 64))
        (UInt8.ofNat (0x80 + c.toNat % 64)) = c := by
      rw [char3, ha, hmid, hlast]
      rw [show (0xE0 + c.toNat / 4096 - 0xE0) * 64 ^ 2 + (0x80 + c.toNat / 64 % 64 - 0x80) * 64
        + (0x80 + c.toNat % 64 - 0x80) = c.toNat by omega]
      exact Char.ofNat_toNat c
    -- The bounds on the second byte keep surrogates out, and no character is one.
    have hsecond : isSecond (UInt8.ofNat (0xE0 + c.toNat / 4096)) (UInt8.ofNat (0x80 + c.toNat / 64 % 64)) := by
      rw [isSecond_iff, ha, hmid]
      omega
    rw [encodeChar_three h2 h3]
    exact (decodeAt_three (by omega) (by omega) hsecond htail index rest).trans (by rw [hchar]; rfl)
  · have ha : (UInt8.ofNat (0xF0 + c.toNat / 262144)).toNat = 0xF0 + c.toNat / 262144 :=
      toNat_ofNat_of_lt (by omega)
    have hnext : (UInt8.ofNat (0x80 + c.toNat / 4096 % 64)).toNat = 0x80 + c.toNat / 4096 % 64 :=
      toNat_ofNat_of_lt (by omega)
    have hchar : char4 (UInt8.ofNat (0xF0 + c.toNat / 262144)) (UInt8.ofNat (0x80 + c.toNat / 4096 % 64))
        (UInt8.ofNat (0x80 + c.toNat / 64 % 64)) (UInt8.ofNat (0x80 + c.toNat % 64)) = c := by
      rw [char4, ha, hnext, hmid, hlast]
      rw [show (0xF0 + c.toNat / 262144 - 0xF0) * 64 ^ 3 + (0x80 + c.toNat / 4096 % 64 - 0x80) * 64 ^ 2
        + (0x80 + c.toNat / 64 % 64 - 0x80) * 64 + (0x80 + c.toNat % 64 - 0x80) = c.toNat by omega]
      exact Char.ofNat_toNat c
    -- Here they keep the character within the range of characters.
    have hsecond : isSecond (UInt8.ofNat (0xF0 + c.toNat / 262144)) (UInt8.ofNat (0x80 + c.toNat / 4096 % 64)) := by
      rw [isSecond_iff, ha, hnext]
      omega
    have hthird : isTail (UInt8.ofNat (0x80 + c.toNat / 64 % 64)) := by rw [isTail_iff, hmid]; omega
    rw [encodeChar_four h3]
    exact (decodeAt_four (by omega) (by omega) hsecond hthird htail index rest).trans (by rw [hchar]; rfl)

theorem encode_cons (c : Char) (text : List Char) : encode (c :: text) = encodeChar c ++ encode text := rfl

/-- What was encoded is decoded, at whatever index it stands. -/
theorem decodeAt_encode (text : List Char) (index : Nat) : decodeAt index (encode text) = .ok text := by
  induction text generalizing index with
  | nil => rfl
  | cons c text ih =>
    rw [encode_cons, decodeAt_encodeChar_append, ih]
    rfl

/-! ## Writing what was read -/

/-- A byte that stands for itself. -/
theorem encodeChar_ofNat {a : UInt8} (ha : a.toNat < 0x80) : encodeChar (Char.ofNat a.toNat) = [a] := by
  have hn : (Char.ofNat a.toNat).toNat = a.toNat := toNat_ofNat (Or.inl (by omega))
  rw [encodeChar_one (by omega), hn, UInt8.ofNat_toNat]

theorem encodeChar_char2 {a b : UInt8} (ha : 0xC2 ≤ a.toNat) (ha' : a.toNat ≤ 0xDF) (hb : isTail b) :
    encodeChar (char2 a b) = [a, b] := by
  rw [isTail_iff] at hb
  have hn : (char2 a b).toNat = (a.toNat - 0xC0) * 64 + (b.toNat - 0x80) := toNat_ofNat (Or.inl (by omega))
  rw [encodeChar_two (by omega) (by omega)]
  rw [show 0xC0 + (char2 a b).toNat / 64 = a.toNat by omega, show 0x80 + (char2 a b).toNat % 64 = b.toNat by omega]
  simp only [UInt8.ofNat_toNat]

theorem encodeChar_char3 {a b c : UInt8} (ha : 0xE0 ≤ a.toNat) (ha' : a.toNat ≤ 0xEF) (hb : isSecond a b)
    (hc : isTail c) : encodeChar (char3 a b c) = [a, b, c] := by
  rw [isSecond_iff] at hb
  rw [isTail_iff] at hc
  have hn : (char3 a b c).toNat = (a.toNat - 0xE0) * 64 ^ 2 + (b.toNat - 0x80) * 64 + (c.toNat - 0x80) :=
    toNat_ofNat (by unfold Nat.isValidChar; omega)
  rw [encodeChar_three (by omega) (by omega)]
  rw [show 0xE0 + (char3 a b c).toNat / 4096 = a.toNat by omega,
    show 0x80 + (char3 a b c).toNat / 64 % 64 = b.toNat by omega,
    show 0x80 + (char3 a b c).toNat % 64 = c.toNat by omega]
  simp only [UInt8.ofNat_toNat]

theorem encodeChar_char4 {a b c d : UInt8} (ha : 0xF0 ≤ a.toNat) (ha' : a.toNat ≤ 0xF4) (hb : isSecond a b)
    (hc : isTail c) (hd : isTail d) : encodeChar (char4 a b c d) = [a, b, c, d] := by
  rw [isSecond_iff] at hb
  rw [isTail_iff] at hc hd
  have hn : (char4 a b c d).toNat = (a.toNat - 0xF0) * 64 ^ 3 + (b.toNat - 0x80) * 64 ^ 2 + (c.toNat - 0x80) * 64
      + (d.toNat - 0x80) := toNat_ofNat (Or.inr (by omega))
  rw [encodeChar_four (by omega)]
  rw [show 0xF0 + (char4 a b c d).toNat / 262144 = a.toNat by omega,
    show 0x80 + (char4 a b c d).toNat / 4096 % 64 = b.toNat by omega,
    show 0x80 + (char4 a b c d).toNat / 64 % 64 = c.toNat by omega,
    show 0x80 + (char4 a b c d).toNat % 64 = d.toNat by omega]
  simp only [UInt8.ofNat_toNat]

/-- There is one encoding of a text only: longer forms are not decoded. -/
theorem eq_encode_of_decodeAt {index : Nat} {bytes : List UInt8} {text : List Char}
    (h : decodeAt index bytes = .ok text) : bytes = encode text := by
  -- The induction follows the reader; only the four cases that read a whole character succeed.
  fun_induction decodeAt index bytes generalizing text with
  | case1 => simp_all [encode]
  | case2 index a rest ha ih =>
    obtain ⟨chars, hrest, rfl⟩ := map_eq_ok h
    rw [encode_cons, encodeChar_ofNat ha, ← ih hrest]
    rfl
  | case4 index a _ ha b rest hb ih =>
    obtain ⟨chars, hrest, rfl⟩ := map_eq_ok h
    simp only [Bool.and_eq_true, decide_eq_true_eq] at ha
    rw [encode_cons, encodeChar_char2 ha.1 ha.2 hb, ← ih hrest]
    rfl
  | case8 index a _ _ ha b hb c rest hc ih =>
    obtain ⟨chars, hrest, rfl⟩ := map_eq_ok h
    simp only [Bool.and_eq_true, decide_eq_true_eq] at ha
    rw [encode_cons, encodeChar_char3 ha.1 ha.2 hb hc, ← ih hrest]
    rfl
  | case14 index a _ _ _ ha b hb c hc d rest hd ih =>
    obtain ⟨chars, hrest, rfl⟩ := map_eq_ok h
    simp only [Bool.and_eq_true, decide_eq_true_eq] at ha
    rw [encode_cons, encodeChar_char4 ha.1 ha.2 hb hc hd, ← ih hrest]
    rfl
  | case3 | case5 | case6 | case7 | case9 | case10 | case11 | case12 | case13 | case15 | case16 | case17 | case18 =>
    exact absurd h (by simp)

/-- Reading succeeds on what writing makes and on nothing else. -/
theorem decode_eq_ok_iff {bytes : List UInt8} {text : List Char} :
    decode bytes = .ok text ↔ bytes = encode text := by
  constructor
  · exact eq_encode_of_decodeAt
  · rintro rfl
    exact decodeAt_encode text 0

end TopicHealth.Utf8
