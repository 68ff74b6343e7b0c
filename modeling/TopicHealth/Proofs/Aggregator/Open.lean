import TopicHealth.Aggregator
import TopicHealth.Proofs.Bus.Gate
import TopicHealth.Proofs.Tracker.Config

/-!
# Opening an aggregator

An aggregator that opens has a conflating reader of its own for every tracked service, and its poller has those of
the polled ones. `Feeding` says so of a bus, with what the queues hold.

* `connected_of_open`: what the subscribers of an aggregator that has just opened are.
* `feeding_of_open`: an aggregator that has just opened, of which no queue holds anything.
-/

namespace TopicHealth

namespace Aggregator

variable {addr : String} {ip : IpAddress} {nonPolled : List Service} {b b' : Bus}

/-! ## Connecting -/

/-- The subscriber that is made next for a service. -/
def nextSubscriber (b : Bus) (s : Service) : Subscriber := { reader := b.serial, endpoint := s.name }

/-- The bus after the subscriber of a service was made, and the poller's clone if it is polled. -/
def afterSubscriber (addr : String) (nonPolled : List Service) (b : Bus) (s : Service) : Bus :=
  let subscribed := b.act (.subscribe s.name addr true)
  if !nonPolled.contains s then subscribed.act (.retain (nextSubscriber b s)) else subscribed

/-- To connect to one service more is to subscribe to it and to go on with the rest. -/
theorem connect_cons {s : Service} {services : List Service} {notices : List Notice}
    {subs : List (Service × Subscriber)} {poller : Poller} (hip : IpAddress.parse? addr = some ip)
    (h : connect addr nonPolled (s :: services) b = ⟨b', notices, .ok (subs, poller)⟩) :
    ∃ more subs' poller',
      connect addr nonPolled services (afterSubscriber addr nonPolled b s) = ⟨b', more, .ok (subs', poller')⟩
        ∧ subs = (s, nextSubscriber b s) :: subs'
        ∧ poller = if !nonPolled.contains s then ⟨nextSubscriber b s :: poller'.subscribers⟩ else poller' := by
  unfold connect at h
  simp only [Bus.subscribe, hip] at h
  split at h
  · rename_i after more subs' poller' hrest
    cases h
    refine ⟨more, subs', poller', ?_, rfl, rfl⟩
    simp only [afterSubscriber, Bus.act, Bus.subscribe, hip]
    exact hrest
  · cases h

section AfterSubscriber

variable (hip : IpAddress.parse? addr = some ip) (hb : b.WellFormed) (s : Service)

theorem wellFormed_afterSubscriber (addr : String) (nonPolled : List Service) (hb : b.WellFormed) (s : Service) :
    (afterSubscriber addr nonPolled b s).WellFormed := by
  have hsubscribed := hb.act (.subscribe s.name addr true)
  simp only [afterSubscriber]
  split
  · exact hsubscribed.act _
  · exact hsubscribed

include hip in
theorem serial_afterSubscriber (nonPolled : List Service) (b : Bus) :
    (afterSubscriber addr nonPolled b s).serial = b.serial + 1 := by
  simp only [afterSubscriber, Bus.act, Bus.subscribe, hip]
  split <;> rfl

theorem gates_afterSubscriber :
    (afterSubscriber addr nonPolled b s).gates = b.gates := by
  simp only [afterSubscriber, Bus.act, Bus.subscribe]
  cases IpAddress.parse? addr <;> split <;> rfl

include hb in
/-- The readers that were there stay. -/
theorem reader?_afterSubscriber {id : Nat} (hid : id < b.serial) :
    (afterSubscriber addr nonPolled b s).reader? id = b.reader? id := by
  have hsubscribed : (b.act (.subscribe s.name addr true)).reader? id = b.reader? id := by
    rw [hb.reader?_act hid]
    cases b.reader? id <;> rfl
  have hb' := hb.act (.subscribe s.name addr true)
  have hid' : id < (b.act (.subscribe s.name addr true)).serial := by
    have hserial := Bus.serial_act b (.subscribe s.name addr true)
    omega
  simp only [afterSubscriber]
  split
  · rw [hb'.reader?_act hid', hsubscribed]
    cases hr : b.reader? id with
    | none => rfl
    | some r =>
      have hne : ¬ r.id = b.serial := by
        have hrid := Bus.id_of_reader? hr
        omega
      simp [Reader.act, nextSubscriber, hne]
  · exact hsubscribed

include hip hb in
theorem holds_afterSubscriber (nonPolled : List Service) :
    (afterSubscriber addr nonPolled b s).Holds b.serial ⟨ip, s.name⟩ none := by
  have hsubscribed := Bus.holds_subscribe hb s.name hip
  simp only [afterSubscriber]
  split
  · exact hsubscribed.retain (hb.act _) _
  · exact hsubscribed

end AfterSubscriber

/-- What a bus and a poller have to do with the subscribers that were made for some services: each has a reader of
its own, which holds nothing yet, and no older reader was touched. -/
structure Connected (ip : IpAddress) (nonPolled services : List Service) (b b' : Bus)
    (subs : List (Service × Subscriber)) (poller : Poller) : Prop where
  wellFormed : b'.WellFormed
  gates : b'.gates = b.gates
  old : ∀ id < b.serial, b'.reader? id = b.reader? id
  services : subs.map (·.1) = services
  poller : poller.subscribers = (subs.filter fun p => !nonPolled.contains p.1).map (·.2)
  new : ∀ p ∈ subs, b.serial ≤ p.2.reader
  distinct : (subs.map (·.2.reader)).Nodup
  holds : ∀ p ∈ subs, b'.Holds p.2.reader ⟨ip, p.1.name⟩ none

/-- One service after another is given a reader of its own, which holds nothing yet. -/
theorem connected_of_connect {services : List Service} {notices : List Notice} {subs : List (Service × Subscriber)}
    {poller : Poller} (hip : IpAddress.parse? addr = some ip) (hb : b.WellFormed)
    (h : connect addr nonPolled services b = ⟨b', notices, .ok (subs, poller)⟩) :
    Connected ip nonPolled services b b' subs poller := by
  -- The bus changes by one subscriber at a time, each with a greater number than those before.
  induction services generalizing b notices subs poller with
  | nil =>
    cases h
    exact ⟨hb, rfl, fun _ _ => rfl, rfl, rfl, by simp, List.nodup_nil, by simp⟩
  | cons s services ih =>
    obtain ⟨more, subs', poller', hrest, rfl, hpoller⟩ := connect_cons hip h
    have hafter := wellFormed_afterSubscriber addr nonPolled hb s
    have hserial := serial_afterSubscriber hip s nonPolled b
    have hconnected := ih hafter hrest
    have hnew : ∀ p ∈ subs', b.serial < p.2.reader := by
      intro p hp
      have hle := hconnected.new p hp
      omega
    constructor
    case wellFormed => exact hconnected.wellFormed
    case gates => exact hconnected.gates.trans (gates_afterSubscriber s)
    case old =>
      intro id hid
      rw [hconnected.old id (by omega), reader?_afterSubscriber hb s hid]
    case services => rw [List.map_cons, hconnected.services]
    case poller =>
      rw [hpoller, List.filter_cons]
      split
      · rw [List.map_cons, hconnected.poller]
      · exact hconnected.poller
    case new =>
      intro p hp
      rcases List.mem_cons.mp hp with rfl | hp
      · exact Nat.le_refl _
      · exact Nat.le_of_lt (hnew p hp)
    case distinct =>
      rw [List.map_cons, List.nodup_cons]
      refine ⟨fun hmem => ?_, hconnected.distinct⟩
      obtain ⟨p, hp, heq⟩ := List.mem_map.mp hmem
      have hlt := hnew p hp
      rw [heq] at hlt
      exact Nat.lt_irrefl _ hlt
    case holds =>
      intro p hp
      rcases List.mem_cons.mp hp with rfl | hp
      · -- The readers that came later leave the first one alone.
        obtain ⟨r, hr, hholds⟩ := holds_afterSubscriber hip hb s nonPolled
        exact ⟨r, (hconnected.old b.serial (by omega)).trans hr, hholds⟩
      · exact hconnected.holds p hp

/-- With a service to subscribe to, the address has to be one. -/
theorem parse?_of_connect {services : List Service} {notices : List Notice} {subs : List (Service × Subscriber)}
    {poller : Poller} (hservices : services ≠ [])
    (h : connect addr nonPolled services b = ⟨b', notices, .ok (subs, poller)⟩) :
    ∃ ip, IpAddress.parse? addr = some ip := by
  cases services with
  | nil => exact absurd rfl hservices
  | cons s services =>
    cases hip : IpAddress.parse? addr with
    | some ip => exact ⟨ip, rfl⟩
    | none =>
      unfold connect at h
      simp only [Bus.subscribe, hip] at h
      cases h

/-! ## Feeding -/

/-- What a bus has to do with an aggregator that was opened from a configuration: every service has a reader of its
own on its channel, with the last message that was sent there, and the poller watches those of the polled ones. -/
structure Feeding (c : Tracker.Config) (ip : IpAddress) (sent : Channel → Option Message) (b : Bus)
    (a : Aggregator) : Prop where
  wellFormed : b.WellFormed
  ungated : b.gates.active = false
  nodup : c.services.Nodup
  policy : a.tracker.policy = c.policy
  services : a.subscribers.map (·.1) = c.services
  poller : a.poller.subscribers = (a.subscribers.filter fun p => !c.policy.nonPolled.contains p.1).map (·.2)
  distinct : (a.subscribers.map (·.2.reader)).Nodup
  holds : ∀ p ∈ a.subscribers, b.Holds p.2.reader ⟨ip, p.1.name⟩ (sent ⟨ip, p.1.name⟩)

/-- An aggregator that opens is connected to all the services, which are distinct, and has made no tick. -/
theorem connected_of_open {c : Tracker.Config} {notices : List Notice} {a : Aggregator} (hb : b.WellFormed)
    (h : Aggregator.open b c = ⟨b', notices, .ok a⟩) :
    ∃ ip, IpAddress.parse? c.addr = some ip ∧ c.services.Nodup ∧ a.tracker = Tracker.ofConfig c
      ∧ Connected ip c.policy.nonPolled c.services b b' a.subscribers a.poller := by
  unfold Aggregator.open at h
  split at h
  · cases h
  · rename_i hvalid
    obtain ⟨hservices, -, hnodup⟩ := (Tracker.Config.validate_eq_ok_iff c).mp hvalid
    split at h
    · cases h
    · rename_i after notices' subs poller hconnect
      cases h
      obtain ⟨ip, hip⟩ := parse?_of_connect hservices hconnect
      exact ⟨ip, hip, hnodup, rfl, connected_of_connect hip hb hconnect⟩

/-- An aggregator that has just opened would be fed by the bus without its gates. -/
theorem feeding_ungated_of_open {c : Tracker.Config} {notices : List Notice} {a : Aggregator} (hb : b.WellFormed)
    (h : Aggregator.open b c = ⟨b', notices, .ok a⟩) :
    ∃ ip, IpAddress.parse? c.addr = some ip ∧ Feeding c ip (fun _ => none) b'.ungated a
      ∧ b'.gates = b.gates := by
  obtain ⟨ip, hip, hnodup, htracker, hconnected⟩ := connected_of_open hb h
  refine ⟨ip, hip, ?_, hconnected.gates⟩
  constructor
  case wellFormed => exact hconnected.wellFormed.ungated
  case ungated => rfl
  case nodup => exact hnodup
  case policy => rw [htracker, Tracker.ofConfig]
  case services => exact hconnected.services
  case poller => exact hconnected.poller
  case distinct => exact hconnected.distinct
  case holds => exact hconnected.holds

/-- Gates that are not active are as good as none. -/
theorem Feeding.of_ungated {c : Tracker.Config} {sent : Channel → Option Message} {a : Aggregator}
    (h : Feeding c ip sent b.ungated a) (hungated : b.gates.active = false) : Feeding c ip sent b a :=
  ⟨⟨h.wellFormed.lt_serial, h.wellFormed.nodup⟩, hungated, h.nodup, h.policy, h.services, h.poller, h.distinct, h.holds⟩

/-- An aggregator that has just opened on a bus whose gates are out of use is fed by it. -/
theorem feeding_of_open {c : Tracker.Config} {notices : List Notice} {a : Aggregator} (hb : b.WellFormed)
    (hungated : b.gates.active = false) (h : Aggregator.open b c = ⟨b', notices, .ok a⟩) :
    ∃ ip, IpAddress.parse? c.addr = some ip ∧ Feeding c ip (fun _ => none) b' a := by
  obtain ⟨ip, hip, hfeeding, hgates⟩ := feeding_ungated_of_open hb h
  rw [← hgates] at hungated
  exact ⟨ip, hip, hfeeding.of_ungated hungated⟩

end Aggregator

end TopicHealth
