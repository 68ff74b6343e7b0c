import Mathlib.Data.List.DropRight
import TopicHealth.Proofs.Duration
import TopicHealth.Ring

/-!
# What a ring holds

A ring of capacity `n` holds the last `n` of the values that were pushed, and the mean of durations is the exact one,
rounded down.

* `toList_push`: what a push does to the values held.
* `mean_of_total_lt`: the mean.
-/

namespace TopicHealth.Ring

variable {α : Type} {n : Nat}

/-! ## Places -/

/-- A place counted from the head on, around the end at most once. -/
theorem place_eq {head offset : Nat} (hhead : head < n) (hoffset : offset ≤ n) :
    (head + offset) % n = if head + offset < n then head + offset else head + offset - n := by
  split_ifs with hlt
  · exact Nat.mod_eq_of_lt hlt
  · rw [Nat.mod_eq_sub_mod (by omega)]
    exact Nat.mod_eq_of_lt (by omega)

/-- The sum that a place is formed from is below twice the capacity, so it does not leave a word of 64 bits unless the
capacity is over 2^63. -/
theorem head_add_lt_word (r : Ring α n) (hpos : 0 < n) (hn : n ≤ 2 ^ 63) {offset : Nat} (hoffset : offset ≤ r.len) :
    r.head + offset < 2 ^ 64 := by
  have hhead : r.head < n := r.head_lt.resolve_right hpos.ne'
  have hlen := r.len_le
  omega

/-- Offsets within one round stand in different places. -/
theorem place_ne {head i j : Nat} (hhead : head < n) (hi : i < j) (hj : j < n) :
    (head + i) % n ≠ (head + j) % n := by
  rw [place_eq hhead (by omega), place_eq hhead (by omega)]
  split_ifs <;> omega

/-- An offset from the next place is the next offset. -/
theorem place_next {head offset : Nat} : ((head + 1) % n + offset) % n = (head + (offset + 1)) % n := by
  rw [Nat.mod_add_mod]
  congr 1
  omega

/-! ## Values -/

@[simp] theorem length_toList (r : Ring α n) : r.toList.length = r.len := by
  simp [toList]

theorem getElem?_toList (r : Ring α n) (offset : Nat) :
    r.toList[offset]? = if offset < r.len then r.slots[(r.head + offset) % n]? else none := by
  split_ifs with h
  · have hlen : offset < r.toList.length := by rwa [length_toList]
    have hplace : (r.head + offset) % n < n := Nat.mod_lt _ (by have := r.len_le; omega)
    rw [List.getElem?_eq_getElem hlen, Vector.getElem?_eq_getElem hplace]
    simp only [toList, List.getElem_map, List.getElem_attach, List.getElem_range]
    rfl
  · rw [List.getElem?_eq_none_iff, length_toList]
    omega

@[simp] theorem toList_empty [Inhabited α] : (empty : Ring α n).toList = [] := rfl

/-- A push into a ring that is not full adds the value at the end. -/
theorem toList_push_of_lt (r : Ring α n) (x : α) (h : r.len < n) : (r.push x).1.toList = r.toList ++ [x] := by
  have hn : n ≠ 0 := by omega
  have hhead : r.head < n := r.head_lt.resolve_right hn
  simp only [push, dif_neg hn, dif_pos h]
  apply List.ext_getElem?
  intro i
  rw [getElem?_toList, List.getElem?_append, getElem?_toList, length_toList]
  dsimp only
  -- The values held stay where they are, and the new one goes behind the last of them.
  rcases Nat.lt_trichotomy i r.len with hlt | rfl | hgt
  · have hne : (r.head + r.len) % n ≠ (r.head + i) % n := (place_ne hhead hlt h).symm
    rw [if_pos (by omega), if_pos hlt, if_pos hlt, Vector.getElem?_set_ne _ hne]
  · simp
  · have hone : 1 ≤ i - r.len := by omega
    rw [if_neg (by omega), if_neg (by omega), List.getElem?_eq_none_iff.mpr hone]

/-- A push into a full ring adds the value at the end, and the oldest one is gone. -/
theorem toList_push_of_full (r : Ring α n) (x : α) (hn : n ≠ 0) (h : r.len = n) :
    (r.push x).1.toList = r.toList.tail ++ [x] := by
  have hhead : r.head < n := r.head_lt.resolve_right hn
  have hfull : ¬ r.len < n := by omega
  simp only [push, dif_neg hn, dif_neg hfull]
  apply List.ext_getElem?
  intro i
  rw [getElem?_toList, List.getElem?_append, List.getElem?_tail, getElem?_toList, List.length_tail, length_toList,
    place_next]
  dsimp only
  rcases Nat.lt_trichotomy (i + 1) n with hlt | heq | hgt
  · have hne : (r.head + 0) % n ≠ (r.head + (i + 1)) % n := place_ne hhead (by omega) hlt
    rw [Nat.add_zero, Nat.mod_eq_of_lt hhead] at hne
    rw [if_pos (by omega), if_pos (by omega), if_pos (by omega), Vector.getElem?_set_ne _ hne]
  · -- The newest value stands where the oldest one was.
    have hplace : (r.head + (i + 1)) % n = r.head := by
      rw [heq, Nat.add_mod_right, Nat.mod_eq_of_lt hhead]
    have hzero : i - (r.len - 1) = 0 := by omega
    rw [if_pos (by omega), if_neg (by omega), hplace, hzero]
    simp
  · have hone : 1 ≤ i - (r.len - 1) := by omega
    rw [if_neg (by omega), if_neg (by omega), List.getElem?_eq_none_iff.mpr hone]

/-- After a push a ring holds the last of the values that it held and the new one, as many as fit. -/
theorem toList_push (r : Ring α n) (x : α) : (r.push x).1.toList = (r.toList ++ [x]).rtake n := by
  have hle : r.len ≤ n := r.len_le
  by_cases hn : n = 0
  · subst hn
    have hlen : r.len = 0 := by omega
    rw [List.rtake_zero, push, dif_pos rfl]
    apply List.eq_nil_of_length_eq_zero
    rw [length_toList, hlen]
  · by_cases hlt : r.len < n
    · rw [toList_push_of_lt r x hlt, List.rtake]
      simp [Nat.sub_eq_zero_of_le hlt]
    · have hfull : r.len = n := by omega
      rw [toList_push_of_full r x hn hfull, List.rtake]
      have hone : (r.toList ++ [x]).length - n = 1 := by
        simp
        omega
      rw [hone, List.drop_one, List.tail_append_of_ne_nil]
      intro hnil
      have hlen := congrArg List.length hnil
      simp at hlen
      omega

/-- A ring that holds the last values of a list goes on to do so. -/
theorem toList_push_of_eq_rtake {r : Ring α n} {values : List α} (h : r.toList = values.rtake n) (x : α) :
    (r.push x).1.toList = (values ++ [x]).rtake n := by
  rw [toList_push, h]
  cases n with
  | zero => simp
  | succ m =>
    have hkept : (values.rtake (m + 1)).rtake m = values.rtake m := by
      simp [List.rtake_eq_reverse_take_reverse, List.take_take]
    rw [List.rtake_concat_succ, List.rtake_concat_succ, hkept]

/-! ## Means -/

/-- The exact sum of the durations held, in nanoseconds. -/
def total (r : Ring Duration n) : Nat := (r.toList.map Duration.toNanos).sum

/-- Where the sum is in range, the mean is the exact one, rounded down. -/
theorem mean_of_total_lt (r : Ring Duration n) (hpos : 0 < r.len) (hcount : r.len < 2 ^ 32)
    (h : r.total < Duration.limit) : ∃ mean, r.mean = .ok (some mean) ∧ mean.toNanos = r.total / r.len := by
  have hsum : Duration.sum? r.toList = some (Duration.ofNanos r.total h) := by
    rw [Duration.sum?_eq]
    exact dif_pos h
  have hmin : Nat.min r.len (2 ^ 32 - 1) = r.len := Nat.min_eq_left (by omega)
  simp only [mean, dif_pos hpos, hsum]
  refine ⟨_, rfl, ?_⟩
  rw [Duration.toNanos_divide, Duration.toNanos_ofNanos, hmin]

end TopicHealth.Ring
