import TopicHealth.Node.Basic
import TopicHealth.Proofs.Aggregator.Holders
import TopicHealth.Proofs.PublisherSet.Open

/-!
# Opening a node

A node has its subscribers by the time it makes its publishers. If one of those cannot be made, the others and all the
subscribers are dropped again, so that readers and publishers are those that there were.

* `renumbered_of_open`: a node that could not be opened.
* `exists_open_of_open`: a node that was opened.
-/

namespace TopicHealth.Node

variable {b b' : Bus} {c : Config} {notices : List Notice} {held : List Nat}

/-- An aggregator whose node gets no publishers leaves nothing but the numbers that were given out. A set that could not
be opened has left its bus alone. -/
theorem renumbered_of_close (hb : b.Shared held) {b₁ : Bus} {t : Tracker.Config} {a : Aggregator}
    (hopen : Aggregator.open b t = ⟨b₁, notices, .ok a⟩) : b.Renumbered (a.close b₁) := by
  have hreaders := Aggregator.readersOnly_of_open hopen
  have hnew := Aggregator.serial_le_of_open hb.wellFormed hopen
  have hshared := Aggregator.shared_of_open hb hopen
  have hclosed : b.ReadersOnly (a.clones.foldl Bus.release b₁) := hreaders.trans (.releaseAll _ _)
  rw [Aggregator.close_eq]
  refine hclosed.renumbered ?_
  rw [hshared.readers_releaseAll hreaders.serial hnew fun id hid => hb.lt_serial hid]
  exact (Aggregator.older_of_open hopen).trans hb.wellFormed.older_eq

/-- A node that could not be opened leaves nothing but the numbers that were given out. -/
theorem renumbered_of_open (hb : b.Shared held) {fault : OpenFault}
    (h : Node.open b c = ⟨b', notices, .error fault⟩) : b.Renumbered b' := by
  unfold Node.open at h
  split at h
  · cases h
    exact b.renumbered_refl
  · split at h
    · rename_i hopen
      cases h
      rw [Aggregator.bus_of_open_error hopen]
      exact b.renumbered_refl
    · rename_i hopen
      split at h
      · rename_i hset
        cases h
        rw [PublisherSet.bus_of_open_error hset]
        exact renumbered_of_close hb hopen
      · cases h

/-- A node that was opened has opened an aggregator, and then a set of publishers. -/
theorem exists_open_of_open {n : Node} (h : Node.open b c = ⟨b', notices, .ok n⟩) :
    ∃ b₁ notices₁ notices₂, Aggregator.open b c.tracker = ⟨b₁, notices₁, .ok n.aggregator⟩
      ∧ PublisherSet.open b₁ (c.feeds.map Feed.service) = ⟨b', notices₂, .ok n.publishers⟩ := by
  unfold Node.open at h
  split at h
  · cases h
  · split at h
    · cases h
    · rename_i hopen
      split at h
      · cases h
      · rename_i hset
        cases h
        exact ⟨_, _, _, hopen, hset⟩

end TopicHealth.Node
