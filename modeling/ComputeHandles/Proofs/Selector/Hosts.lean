import ComputeHandles.Proofs.Selector.Positions
import ComputeHandles.Proofs.Selector.Retained

/-!
# How many hosts are retained

In a list of hosts the number of matches in front of a position is the position itself, if the
filter concerns hosts at all. So a filter with an index takes the host at that position, and one
without takes them all. Filters that take the same host retain it once, and an index beyond the
list retains none, so what is left to count are the different indices inside the list.
-/

namespace ComputeHandles

/-- A filter concerns hosts: it asks for no other backend and for no other device type. -/
def Filter.ConcernsHosts (f : Filter) : Prop :=
  (f.backend = none ∨ f.backend = some .host) ∧
    (f.deviceType = none ∨ f.deviceType = some .host)

instance (f : Filter) : Decidable f.ConcernsHosts := inferInstanceAs (Decidable (_ ∧ _))

/-- The indices that the filters for hosts ask for, each once. -/
def hostIndices (filters : List Filter) : Finset Nat :=
  ((filters.filter (·.ConcernsHosts)).filterMap (·.index.map UInt64.toNat)).toFinset

/-- An index is asked for when a filter for hosts has it. -/
theorem mem_hostIndices {filters : List Filter} {i : Nat} :
    i ∈ hostIndices filters ↔
      ∃ f ∈ filters, f.ConcernsHosts ∧ f.index.map UInt64.toNat = some i := by
  rw [hostIndices, List.mem_toFinset, List.mem_filterMap]
  simp only [List.mem_filter, decide_eq_true_iff, and_assoc]

/-- As many devices are retained as positions are accepted. -/
theorem Selector.length_retain (s : Selector) (devices : List Device) :
    (s.retain devices).length = (s.positions (devices.map Device.kind)).card := by
  rw [retain_eq_passing, Listing.length_passing (s.length_scoreAll devices), card_positions]
  rfl

section Hosts

variable {f : Filter} {filters : List Filter} {n i : Nat}

/-- In front of a position among hosts stand as many matches of a filter for hosts as devices. -/
theorem Filter.matchesBefore_hosts (concerns : f.ConcernsHosts) (inside : i < n) :
    f.matchesBefore (List.replicate n Device.host.kind) i = i := by
  have fits : f.Matches Device.host.kind := concerns
  have front : min i n = i := Nat.min_eq_left (Nat.le_of_lt inside)
  rw [matchesBefore, List.take_replicate, List.countP_replicate, front]
  exact if_pos (decide_eq_true fits)

/-- A filter takes the host at its index, or all of them, if it concerns hosts. -/
theorem Filter.acceptsAt_hosts_iff (inside : i < (List.replicate n Device.host.kind).length) :
    f.AcceptsAt (List.replicate n Device.host.kind) ⟨i, inside⟩ ↔
      f.ConcernsHosts ∧ (f.index = none ∨ f.index.map UInt64.toNat = some i) := by
  have kind : (List.replicate n Device.host.kind)[i] = Device.host.kind :=
    List.getElem_replicate inside
  have listed : i < n := by rwa [List.length_replicate] at inside
  change f.Matches (List.replicate n Device.host.kind)[i] ∧ _ ↔ _
  rw [kind]
  refine and_congr_right fun concerns => ?_
  rw [matchesBefore_hosts concerns listed]

/-- The hosts that filters accept are those of the list that one of them takes. -/
theorem Selector.mem_positions_hosts :
    i ∈ (Selector.filtered filters).positions (List.replicate n Device.host.kind) ↔
      i < n ∧ ∃ f ∈ filters, f.ConcernsHosts ∧
        (f.index = none ∨ f.index.map UInt64.toNat = some i) := by
  rw [mem_positions_filtered, AcceptedAt]
  simp only [Filter.acceptsAt_hosts_iff, exists_prop, List.length_replicate]

/-- All hosts are accepted if a filter for hosts has no index. -/
theorem Selector.positions_hosts_of_unindexed
    (unindexed : ∃ f ∈ filters, f.ConcernsHosts ∧ f.index = none) :
    (Selector.filtered filters).positions (List.replicate n Device.host.kind) =
      Finset.range n := by
  obtain ⟨f, mem, concerns, none⟩ := unindexed
  ext i
  rw [mem_positions_hosts, Finset.mem_range]
  exact and_iff_left ⟨f, mem, concerns, .inl none⟩

/-- The hosts at the indices of the filters for hosts are accepted if each of these filters has
one. -/
theorem Selector.positions_hosts_of_indexed
    (indexed : ¬ ∃ f ∈ filters, f.ConcernsHosts ∧ f.index = none) :
    (Selector.filtered filters).positions (List.replicate n Device.host.kind) =
      (hostIndices filters).filter (· < n) := by
  ext i
  rw [mem_positions_hosts, Finset.mem_filter, mem_hostIndices, and_comm]
  refine and_congr_left fun _ => exists_congr fun f => and_congr_right fun mem =>
    and_congr_right fun concerns => or_iff_right fun none => ?_
  exact indexed ⟨f, mem, concerns, none⟩

end Hosts

/-- Of a number of hosts a filter selector retains all if one of its filters for hosts has no
index, and otherwise as many as these filters have different indices below that number. -/
theorem length_retain_hosts (filters : List Filter) (n : Nat) :
    ((Selector.filtered filters).retain (List.replicate n .host)).length =
      if ∃ f ∈ filters, f.ConcernsHosts ∧ f.index = none then n
      else ((hostIndices filters).filter (· < n)).card := by
  rw [Selector.length_retain, List.map_replicate]
  by_cases unindexed : ∃ f ∈ filters, f.ConcernsHosts ∧ f.index = none
  · rw [if_pos unindexed, Selector.positions_hosts_of_unindexed unindexed, Finset.card_range]
  · rw [if_neg unindexed, Selector.positions_hosts_of_indexed unindexed]

-- Two filters take the second host, one asks for a graphics processor and one for a host that is
-- not there.
example : ((Selector.filtered [⟨none, none, some 1⟩, ⟨some .host, none, some 1⟩,
    ⟨none, some .gpu, none⟩, ⟨none, some .host, some 0xffffffffffffffff⟩]).retain
      (List.replicate 3 .host)).length = 1 := by decide

end ComputeHandles
