import TopicHealth.Proofs.Bus.Action

/-!
# Holders of channel ends

Subscribers and publishers belong to whoever made them. The bus keeps a reader as long as one of its subscribers is
held, and the flag of an endpoint is set as long as its publisher is.

* `Shared`: every reader counts the subscribers that are held of it; `Shared.mem_iff` says which readers there are.
* `Shared.retain`, `Shared.releaseAll`: one more holder of a reader, and some less.
* `Published`: the flag of each endpoint counts the publishers that are held of it.
* `Published.opened`, `Published.closeAll`: one more publisher, and some less.
-/

namespace TopicHealth.Bus

variable {b b' : Bus} {held : List Nat} {publishers : List Publisher}

/-- A bus differs from an earlier one in the number that is given out next, at most. -/
def Renumbered (b b' : Bus) : Prop := ∃ serial, b.serial ≤ serial ∧ b' = { b with serial }

theorem renumbered_refl (b : Bus) : b.Renumbered b := ⟨b.serial, Nat.le_refl _, rfl⟩

/-! ## Subscribers -/

/-- How many subscribers the bus counts of a reader; none where there is no reader. -/
def clones (b : Bus) (id : Nat) : Nat := (b.reader? id).elim 0 Reader.clones

/-- The bus counts the subscribers that are held of each reader, and keeps no reader of which none is. -/
structure Shared (b : Bus) (held : List Nat) : Prop where
  wellFormed : b.WellFormed
  clones : ∀ id, b.clones id = held.count id
  pos : ∀ r ∈ b.readers, 0 < r.clones

/-- Nobody has a number that is still to be given. -/
theorem WellFormed.reader?_eq_none (h : b.WellFormed) {id : Nat} (hid : b.serial ≤ id) : b.reader? id = none := by
  cases hr : b.reader? id with
  | none => rfl
  | some r =>
    obtain ⟨hmem, rfl⟩ := h.reader?_eq_some_iff.mp hr
    exact absurd (h.lt_serial r hmem) (Nat.not_lt.mpr hid)

/-- Where no reader is added, an action acts on each one that there is. -/
theorem WellFormed.reader?_act_of_added (h : b.WellFormed) {action : Action} (hadded : b.added action = none)
    (id : Nat) : (b.act action).reader? id = (b.reader? id).bind fun r => r.act action := by
  ext r'
  rw [(h.act action).reader?_eq_some_iff, Option.bind_eq_some_iff, readers_act, hadded, Option.toList_none,
    List.append_nil, List.mem_filterMap]
  constructor
  · rintro ⟨⟨r, hr, hact⟩, rfl⟩
    exact ⟨r, h.reader?_eq_some_iff.mpr ⟨hr, (Reader.act_eq_some hact).1.symm⟩, hact⟩
  · rintro ⟨r, hr, hact⟩
    obtain ⟨hmem, rfl⟩ := h.reader?_eq_some_iff.mp hr
    exact ⟨⟨r, hmem, hact⟩, (Reader.act_eq_some hact).1⟩

theorem WellFormed.clones_act (h : b.WellFormed) {action : Action} (hadded : b.added action = none) (id : Nat) :
    (b.act action).clones id = ((b.reader? id).bind fun r => r.act action).elim 0 Reader.clones := by
  rw [clones, h.reader?_act_of_added hadded]

namespace Shared

/-- The readers are those of which a subscriber is held. -/
theorem mem_iff (h : b.Shared held) {id : Nat} : id ∈ held ↔ ∃ r, b.reader? id = some r := by
  rw [← List.count_pos_iff, ← h.clones id, Bus.clones]
  constructor
  · intro hpos
    cases hr : b.reader? id with
    | none =>
      rw [hr] at hpos
      cases hpos
    | some r => exact ⟨r, rfl⟩
  · rintro ⟨r, hr⟩
    rw [hr]
    exact h.pos r (h.wellFormed.reader?_eq_some_iff.mp hr).1

/-- A reader that is held has been made. -/
theorem lt_serial (h : b.Shared held) {id : Nat} (hid : id ∈ held) : id < b.serial := by
  obtain ⟨r, hr⟩ := h.mem_iff.mp hid
  obtain ⟨hmem, rfl⟩ := h.wellFormed.reader?_eq_some_iff.mp hr
  exact h.wellFormed.lt_serial r hmem

/-- A reader is there only while somebody holds it. -/
theorem mem_of_mem_readers (h : b.Shared held) {r : Reader} (hr : r ∈ b.readers) : r.id ∈ held :=
  h.mem_iff.mpr ⟨r, h.wellFormed.reader?_eq_some_iff.mpr ⟨hr, rfl⟩⟩

/-- What else happens to the bus makes no difference. -/
theorem of_readers_eq (h : b.Shared held) (hreaders : b'.readers = b.readers) (hserial : b.serial ≤ b'.serial) :
    b'.Shared held := by
  constructor
  case wellFormed =>
    constructor
    · intro r hr
      rw [hreaders] at hr
      exact Nat.lt_of_lt_of_le (h.wellFormed.lt_serial r hr) hserial
    · rw [hreaders]
      exact h.wellFormed.nodup
  case clones =>
    intro id
    rw [← h.clones id, Bus.clones, Bus.clones, reader?, reader?, hreaders]
  case pos =>
    rw [hreaders]
    exact h.pos

/-- A bus that has skipped some numbers is shared by the same holders. -/
theorem renumbered (h : b.Shared held) (hb : b.Renumbered b') : b'.Shared held := by
  obtain ⟨serial, hserial, rfl⟩ := hb
  exact h.of_readers_eq rfl hserial

/-- The order of the holders makes no difference. -/
theorem perm (h : b.Shared held) {held' : List Nat} (hperm : held.Perm held') : b.Shared held' := by
  refine ⟨h.wellFormed, fun id => ?_, h.pos⟩
  rw [h.clones id]
  exact hperm.count_eq id

/-- What keeps the count of every reader changes nothing. -/
theorem act (h : b.Shared held) (action : Action) (hadded : b.added action = none)
    (hclones : ∀ r : Reader, ∃ r', r.act action = some r' ∧ r'.clones = r.clones) : (b.act action).Shared held := by
  constructor
  case wellFormed => exact h.wellFormed.act action
  case clones =>
    intro id
    rw [h.wellFormed.clones_act hadded, ← h.clones id, Bus.clones]
    cases b.reader? id with
    | none => rfl
    | some r =>
      obtain ⟨r', hact, hsame⟩ := hclones r
      rw [Option.bind_some, hact]
      exact hsame
  case pos =>
    intro r' hr'
    rw [readers_act, hadded, Option.toList_none, List.append_nil, List.mem_filterMap] at hr'
    obtain ⟨r, hr, hact⟩ := hr'
    obtain ⟨r'', hact', hsame⟩ := hclones r
    -- The reader that comes out is the one whose count is known.
    cases hact.symm.trans hact'
    rw [hsame]
    exact h.pos r hr

/-- Sending changes what the readers hold, and not who holds them. -/
theorem send (h : b.Shared held) (p : Publisher) (m : Message) : (b.send p m).Shared held := by
  refine h.act (.send p m) rfl fun r => ⟨_, rfl, ?_⟩
  split_ifs <;> rfl

theorem take (h : b.Shared held) (s : Subscriber) : (b.take s).2.Shared held := by
  refine h.act (.take s) rfl fun r => ⟨_, rfl, ?_⟩
  split_ifs <;> rfl

/-- A subscription is held once. -/
theorem subscribe (h : b.Shared held) {endpoint addr : String} {conflate : Bool} {ip : IpAddress}
    (hip : IpAddress.parse? addr = some ip) :
    (b.act (.subscribe endpoint addr conflate)).Shared (b.serial :: held) := by
  have hadded : b.added (.subscribe endpoint addr conflate) = some ⟨b.serial, ⟨ip, endpoint⟩, conflate, [], 1⟩ := by
    rw [added, hip, Option.map_some]
  have hserial : (b.act (.subscribe endpoint addr conflate)).serial = b.serial + 1 := by
    simp [Bus.act, Bus.subscribe, hip]
  have hwellFormed := h.wellFormed.act (.subscribe endpoint addr conflate)
  have hnew : b.serial ∉ held := fun hmem => Nat.lt_irrefl _ (h.lt_serial hmem)
  constructor
  case wellFormed => exact hwellFormed
  case clones =>
    intro id
    -- Older readers are left alone, the new one has the next number, and nobody has a greater one.
    rcases Nat.lt_trichotomy id b.serial with hlt | rfl | hgt
    · rw [List.count_cons_of_ne (by omega), ← h.clones id, Bus.clones, Bus.clones,
        h.wellFormed.reader?_act hlt]
      cases b.reader? id <;> rfl
    · rw [Bus.clones, h.wellFormed.reader?_added hadded, List.count_cons_self, List.count_eq_zero_of_not_mem hnew]
      rfl
    · rw [List.count_cons_of_ne (by omega), ← h.clones id, Bus.clones, Bus.clones,
        hwellFormed.reader?_eq_none (by omega), h.wellFormed.reader?_eq_none (by omega)]
  case pos =>
    intro r hr
    rw [readers_act, hadded, Option.toList_some, List.mem_append, List.mem_singleton, List.mem_filterMap] at hr
    rcases hr with ⟨r', hr', hact⟩ | rfl
    · cases hact
      exact h.pos r hr'
    · exact Nat.one_pos

/-- One more holder of a reader. -/
theorem retain (h : b.Shared held) {s : Subscriber} (hs : s.reader ∈ held) :
    (b.retain s).Shared (s.reader :: held) := by
  change (b.act (.retain s)).Shared _
  constructor
  case wellFormed => exact h.wellFormed.act (.retain s)
  case clones =>
    intro id
    rw [h.wellFormed.clones_act rfl]
    -- The one reader has a holder more, as it is there; the counts of the others stay.
    by_cases hid : s.reader = id
    · subst hid
      obtain ⟨r, hr⟩ := h.mem_iff.mp hs
      have hcount := h.clones s.reader
      rw [Bus.clones, hr, Option.elim_some] at hcount
      simp [hr, Reader.act, id_of_reader? hr, hcount]
    · rw [List.count_cons_of_ne hid, ← h.clones id, Bus.clones]
      cases hr : b.reader? id with
      | none => rfl
      | some r =>
        have hne : ¬ r.id = s.reader := fun heq => hid (heq.symm.trans (id_of_reader? hr))
        simp [Reader.act, hne]
  case pos =>
    intro r' hr'
    rw [readers_act] at hr'
    simp only [added, Option.toList_none, List.append_nil, List.mem_filterMap, Reader.act, Option.some.injEq] at hr'
    obtain ⟨r, hr, rfl⟩ := hr'
    have hpos := h.pos r hr
    split_ifs
    · exact Nat.succ_pos _
    · exact hpos

/-- One holder less of a reader, which goes with the last one. -/
theorem release {s : Subscriber} (h : b.Shared (s.reader :: held)) : (b.release s).Shared held := by
  change (b.act (.release s)).Shared _
  constructor
  case wellFormed => exact h.wellFormed.act (.release s)
  case clones =>
    intro id
    have hcount := h.clones id
    rw [h.wellFormed.clones_act rfl]
    rw [Bus.clones] at hcount
    cases hr : b.reader? id with
    | none =>
      rw [hr, Option.elim_none, eq_comm, List.count_eq_zero, List.mem_cons, not_or] at hcount
      rw [Option.bind_none, Option.elim_none, List.count_eq_zero_of_not_mem hcount.2]
    | some r =>
      rw [hr, Option.elim_some] at hcount
      have hrid := id_of_reader? hr
      by_cases hid : id = s.reader
      · subst hid
        rw [List.count_cons_self] at hcount
        rw [Option.bind_some, Reader.act, if_pos hrid]
        -- A reader with other holders stays, with one less. The last holder takes it away, and nobody else holds it.
        split_ifs with hmore
        · rw [Option.elim_some]
          exact Nat.sub_eq_of_eq_add hcount
        · rw [Option.elim_none]
          omega
      · rw [List.count_cons_of_ne (Ne.symm hid)] at hcount
        rw [Option.bind_some, Reader.act, if_neg fun heq => hid (hrid.symm.trans heq)]
        exact hcount
  case pos =>
    intro r' hr'
    rw [readers_act] at hr'
    simp only [added, Option.toList_none, List.append_nil, List.mem_filterMap, Reader.act] at hr'
    obtain ⟨r, hr, hact⟩ := hr'
    split_ifs at hact with hid hmore
    · cases hact
      exact Nat.sub_pos_of_lt hmore
    · cases hact
      exact h.pos r' hr

/-- Some holders less. -/
theorem releaseAll {subs : List Subscriber} (h : b.Shared (subs.map Subscriber.reader ++ held)) :
    (subs.foldl Bus.release b).Shared held := by
  induction subs generalizing b with
  | nil => exact h
  | cons s subs ih => exact ih h.release

end Shared

/-! ## Publishers -/

/-- The flag of an endpoint tells how many of its publishers are held: one where it is set, and none where it is not. -/
structure Published (b : Bus) (publishers : List Publisher) : Prop where
  count : ∀ endpoint, (publishers.map Publisher.endpoint).count endpoint = (b.claimed endpoint).toNat

/-- The flag of one endpoint is set or cleared, and the others are left as they are. -/
theorem claimed_putClaim (b : Bus) (endpoint e : String) (value : Bool) :
    (b.putClaim endpoint value).claimed e = if e = endpoint then value else b.claimed e := rfl

/-- To give a flag the value that it has changes nothing. -/
theorem putClaim_of_claimed_eq {endpoint : String} {value : Bool} (h : b.claimed endpoint = value) :
    b.putClaim endpoint value = b := by
  have hclaimed : (fun e => if e = endpoint then value else b.claimed e) = b.claimed := by
    funext e
    split_ifs with he
    · rw [he, h]
    · rfl
  rw [putClaim, hclaimed]

/-- An attempt where the flag is set finds it so and sets it again, which changes nothing. -/
theorem openPublisher_of_claimed {endpoint : String} (h : b.claimed endpoint = true) :
    b.openPublisher endpoint = ⟨b, [], .error (.alreadyPublished endpoint)⟩ := by
  simp only [openPublisher, claim, h, putClaim_of_claimed_eq h, if_true]

/-- An attempt on an endpoint whose flag is clear sets it and gets the publisher. -/
theorem openPublisher_of_free {endpoint : String} (h : b.claimed endpoint = false) :
    b.openPublisher endpoint = ⟨b.putClaim endpoint true, [.publisherOpened endpoint], .ok ⟨endpoint⟩⟩ := by
  simp only [openPublisher, claim, h, Bool.false_eq_true, if_false]

/-- A publisher that cannot be made changes nothing. -/
theorem bus_of_openPublisher_error {endpoint : String} {notices : List Notice} {fault : BusFault}
    (h : b.openPublisher endpoint = ⟨b', notices, .error fault⟩) : b' = b := by
  cases hclaimed : b.claimed endpoint with
  | true =>
    rw [openPublisher_of_claimed hclaimed] at h
    cases h
    rfl
  | false =>
    rw [openPublisher_of_free hclaimed] at h
    cases h

/-- A publisher that was made is of its endpoint, whose flag was not set and now is. -/
theorem of_openPublisher_ok {endpoint : String} {notices : List Notice} {p : Publisher}
    (h : b.openPublisher endpoint = ⟨b', notices, .ok p⟩) :
    b.claimed endpoint = false ∧ p = ⟨endpoint⟩ ∧ b' = b.putClaim endpoint true := by
  cases hclaimed : b.claimed endpoint with
  | true =>
    rw [openPublisher_of_claimed hclaimed] at h
    cases h
  | false =>
    rw [openPublisher_of_free hclaimed] at h
    cases h
    exact ⟨rfl, rfl, rfl⟩

/-- A subscriber that cannot be made changes nothing. -/
theorem bus_of_subscribe_error {endpoint addr : String} {conflate : Bool} {notices : List Notice} {fault : BusFault}
    (h : b.subscribe endpoint addr conflate = ⟨b', notices, .error fault⟩) : b' = b := by
  cases hip : IpAddress.parse? addr with
  | none =>
    simp only [subscribe, hip] at h
    cases h
    rfl
  | some ip =>
    simp only [subscribe, hip] at h
    cases h

namespace Published

/-- A flag is set as long as somebody holds a publisher of the endpoint. -/
theorem claimed_iff (h : b.Published publishers) {endpoint : String} :
    b.claimed endpoint = true ↔ ∃ p ∈ publishers, p.endpoint = endpoint := by
  rw [← List.mem_map, ← List.count_pos_iff, h.count endpoint]
  cases b.claimed endpoint <;> decide

/-- No endpoint has two publishers. -/
theorem nodup (h : b.Published publishers) : (publishers.map Publisher.endpoint).Nodup := by
  rw [List.nodup_iff_count_le_one]
  intro endpoint
  rw [h.count endpoint]
  exact Bool.toNat_le _

/-- What else happens to the bus makes no difference. -/
theorem of_claimed_eq (h : b.Published publishers) (hclaimed : b'.claimed = b.claimed) : b'.Published publishers := by
  constructor
  intro endpoint
  rw [hclaimed]
  exact h.count endpoint

theorem congr_perm (h : b.Published publishers) {publishers' : List Publisher} (hperm : publishers.Perm publishers') :
    b.Published publishers' := by
  constructor
  intro endpoint
  rw [← h.count endpoint]
  exact (hperm.map Publisher.endpoint).symm.count_eq endpoint

/-- A publisher that was made is held, and had its endpoint for itself. -/
theorem opened (h : b.Published publishers) {endpoint : String} {notices : List Notice} {p : Publisher}
    (hopen : b.openPublisher endpoint = ⟨b', notices, .ok p⟩) : b'.Published (p :: publishers) := by
  obtain ⟨hfree, rfl, rfl⟩ := of_openPublisher_ok hopen
  constructor
  intro e
  have hcount := h.count e
  rw [List.map_cons, List.count_cons, hcount, claimed_putClaim]
  by_cases he : e = endpoint
  · subst he
    rw [hfree, if_pos rfl, if_pos (beq_self_eq_true e)]
    rfl
  · have hne : ¬ (endpoint == e) = true := fun heq => he (eq_of_beq heq).symm
    rw [if_neg he, if_neg hne, Nat.add_zero]

/-- A flag is cleared by whoever has set it: with the publisher that is dropped its endpoint has none. -/
theorem close {p : Publisher} (h : b.Published (p :: publishers)) : (b.closePublisher p).Published publishers := by
  constructor
  intro e
  have hcount := h.count e
  rw [List.map_cons, List.count_cons] at hcount
  rw [closePublisher, claimed_putClaim]
  by_cases he : e = p.endpoint
  · subst he
    have hle := Bool.toNat_le (b.claimed p.endpoint)
    rw [if_pos (beq_self_eq_true p.endpoint)] at hcount
    rw [if_pos rfl, Bool.toNat_false]
    omega
  · have hne : ¬ (p.endpoint == e) = true := fun heq => he (eq_of_beq heq).symm
    rw [if_neg hne, Nat.add_zero] at hcount
    rw [if_neg he]
    exact hcount

/-- Some publishers less. -/
theorem closeAll {gone : List Publisher} (h : b.Published (gone ++ publishers)) :
    (gone.foldl Bus.closePublisher b).Published publishers := by
  induction gone generalizing b with
  | nil => exact h
  | cons p gone ih => exact ih h.close

end Published

end TopicHealth.Bus
