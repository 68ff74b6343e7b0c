import TopicHealth.Wire.Codec

/-!
# Laws of readers

Two things are said of a reader, and both pass from its steps to the whole.

* `Takes`: it succeeds exactly on the forms of a value, and leaves what comes after them.
* `Settled`: what it finds does not change with what comes after, unless it ran out of input.
-/

namespace TopicHealth.Wire

variable {α β : Type}

/-! ## Steps -/

theorem bind_run (d : Decoder α) (next : α → Decoder β) (input : List UInt8) :
    (d >>= next) input = (match d input with
      | .ok (a, rest) => next a rest
      | .error fault => .error fault) := by
  show (d input).bind (fun p => next p.1 p.2) = _
  cases d input <;> rfl

theorem pure_run (a : α) (input : List UInt8) : (pure a : Decoder α) input = .ok (a, input) := rfl

theorem throw_run (fault : Fault) (input : List UInt8) : (throw fault : Decoder α) input = .error fault := rfl

theorem bind_eq_ok_iff {d : Decoder α} {next : α → Decoder β} {input rest : List UInt8} {b : β} :
    (d >>= next) input = .ok (b, rest) ↔ ∃ a mid, d input = .ok (a, mid) ∧ next a mid = .ok (b, rest) := by
  rw [bind_run]
  cases d input with
  | error fault => simp
  | ok p =>
    obtain ⟨a, mid⟩ := p
    simp [and_assoc]

/-- The fault is that of the first reader that has one. -/
theorem bind_eq_error_iff {d : Decoder α} {next : α → Decoder β} {input : List UInt8} {fault : Fault} :
    (d >>= next) input = .error fault
      ↔ d input = .error fault ∨ ∃ a mid, d input = .ok (a, mid) ∧ next a mid = .error fault := by
  rw [bind_run]
  cases d input with
  | error fault => simp
  | ok p =>
    obtain ⟨a, mid⟩ := p
    simp [and_assoc]

/-! ## Forms -/

/-- The reader succeeds exactly where a form of a value stands in front, and takes that form. -/
def Takes (d : Decoder α) (form : α → List UInt8 → Prop) : Prop :=
  ∀ input a rest, d input = .ok (a, rest) ↔ ∃ bytes, form a bytes ∧ input = bytes ++ rest

theorem Takes.congr {d : Decoder α} {form form' : α → List UInt8 → Prop} (h : Takes d form)
    (hform : ∀ a bytes, form a bytes ↔ form' a bytes) : Takes d form' := by
  intro input a rest
  simp only [h input a rest, hform]

theorem takes_pure (a : α) : Takes (pure a) (fun b bytes => b = a ∧ bytes = []) := by
  intro input b rest
  rw [pure_run]
  constructor
  · intro h
    cases h
    exact ⟨[], ⟨rfl, rfl⟩, rfl⟩
  · rintro ⟨_, ⟨rfl, rfl⟩, rfl⟩
    rfl

theorem takes_throw (fault : Fault) : Takes (throw fault : Decoder α) (fun _ _ => False) := by
  intro input a rest
  simp [throw_run]

/-- One reader after another takes a form of the first and then one of the second. -/
theorem Takes.bind {d : Decoder α} {next : α → Decoder β} {form : α → List UInt8 → Prop}
    {form' : α → β → List UInt8 → Prop} (h : Takes d form) (hnext : ∀ a, Takes (next a) (form' a)) :
    Takes (d >>= next)
      (fun b bytes => ∃ a front back, form a front ∧ form' a b back ∧ bytes = front ++ back) := by
  intro input b rest
  rw [bind_eq_ok_iff]
  constructor
  · rintro ⟨a, mid, hd, hn⟩
    obtain ⟨front, hfront, rfl⟩ := (h input a mid).mp hd
    obtain ⟨back, hback, rfl⟩ := (hnext a mid b rest).mp hn
    exact ⟨front ++ back, ⟨a, front, back, hfront, hback, rfl⟩, (List.append_assoc ..).symm⟩
  · rintro ⟨_, ⟨a, front, back, hfront, hback, rfl⟩, rfl⟩
    refine ⟨a, back ++ rest, (h _ a _).mpr ⟨front, hfront, List.append_assoc ..⟩, ?_⟩
    exact (hnext a _ b rest).mpr ⟨back, hback, rfl⟩

/-- A reader whose result is passed through a function. -/
theorem Takes.map {d : Decoder α} {form : α → List UInt8 → Prop} (h : Takes d form) (f : α → β) :
    Takes (f <$> d) (fun b bytes => ∃ a, form a bytes ∧ b = f a) := by
  have hbind : f <$> d = d >>= fun a => pure (f a) := rfl
  rw [hbind]
  refine (h.bind fun a => takes_pure (f a)).congr fun b bytes => ?_
  constructor
  · rintro ⟨a, front, back, hfront, ⟨rfl, rfl⟩, rfl⟩
    exact ⟨a, by rwa [List.append_nil], rfl⟩
  · rintro ⟨a, hform, rfl⟩
    exact ⟨a, bytes, [], hform, ⟨rfl, rfl⟩, (List.append_nil _).symm⟩

/-! ## What comes after -/

/-- What the reader finds does not change with what comes after. Only the end of the input leaves it open. -/
structure Settled (d : Decoder α) : Prop where
  ok : ∀ {input a rest} (more : List UInt8), d input = .ok (a, rest) → d (input ++ more) = .ok (a, rest ++ more)
  error : ∀ {input fault} (more : List UInt8), d input = .error fault → fault.kind ≠ .io →
    d (input ++ more) = .error fault

theorem settled_pure (a : α) : Settled (pure a : Decoder α) where
  ok more h := by
    rw [pure_run] at h
    cases h
    rfl
  error more h := by
    rw [pure_run] at h
    cases h

theorem settled_throw (fault : Fault) : Settled (throw fault : Decoder α) where
  ok more h := by
    rw [throw_run] at h
    cases h
  error more h _ := by
    rw [throw_run] at h ⊢
    exact h

/-- One reader after another is settled if each of them is. -/
theorem Settled.bind {d : Decoder α} {next : α → Decoder β} (h : Settled d) (hnext : ∀ a, Settled (next a)) :
    Settled (d >>= next) where
  ok more hbind := by
    obtain ⟨a, mid, hd, hn⟩ := bind_eq_ok_iff.mp hbind
    exact bind_eq_ok_iff.mpr ⟨a, mid ++ more, h.ok more hd, (hnext a).ok more hn⟩
  error more hbind hkind := by
    rcases bind_eq_error_iff.mp hbind with hd | ⟨a, mid, hd, hn⟩
    · exact bind_eq_error_iff.mpr (Or.inl (h.error more hd hkind))
    · exact bind_eq_error_iff.mpr (Or.inr ⟨a, mid ++ more, h.ok more hd, (hnext a).error more hn hkind⟩)

theorem Settled.map {d : Decoder α} (h : Settled d) (f : α → β) : Settled (f <$> d) :=
  h.bind fun a => settled_pure (f a)

end TopicHealth.Wire
