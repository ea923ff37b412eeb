import PodInventory.Proofs.FanOut.Calls
import PodInventory.Proofs.Sync
import PodInventory.Proofs.Text.Order

namespace PodInventory

theorem Instant.isSome_after?_of_le {now : Instant} {ms ms' : Nat} (hle : ms ≤ ms')
    (h : (now.after? ms').isSome = true) : (now.after? ms).isSome = true := by
  have hnanos : now.nanos + ms * 1000000 ≤ now.nanos + ms' * 1000000 := by omega
  rw [isSome_after?_iff] at h ⊢
  exact (Nat.div_le_div_right hnanos).trans h

theorem FanOut.outcome_of_not_late {earlier later : Duration} {w : Worker}
    (hle : earlier.ticks ≤ later.ticks) (h : ¬ IsLate earlier.ticks w) :
    outcome later w = outcome earlier w := by
  obtain ⟨haction, hdelay⟩ := not_or.1 h
  have hearlier : inTime earlier w = true := by
    rw [← Bool.not_eq_false, inTime_eq_false_iff]
    exact h
  have hlater : inTime later w = true := by
    rw [← Bool.not_eq_false, inTime_eq_false_iff]
    exact not_or.2 ⟨haction, by omega⟩
  rw [outcome, outcome, if_pos hearlier, if_pos hlater]
  cases hact : w.action with
  | hang => exact absurd hact haction
  | _ => rfl

theorem Text.bytes_le_iff {s t : String} : bytes s ≤ bytes t ↔ s ≤ t := by
  rw [← List.not_lt, ← String.not_lt, bytes_lt_iff]

theorem Plan.update_eq_ok_iff {result : Partition Snapshot} {u : Update} :
    update result = .ok u ↔
      ∃ id, selected? result = some (id, u.discovered) ∧ u.routable = routes result := by
  unfold update
  cases selected? result with
  | none => simp
  | some answer =>
    obtain ⟨id, snapshot⟩ := answer
    cases u
    simp [eq_comm]

namespace Discovery

open FanOut

variable {target : Target} {request : Request} {workers : List Worker} {earlier later : Duration}

/-- The worker of an id was given up at the deadline. -/
def GivenUp (workers : List Worker) (deadline : Nat) (id : WorkerId) : Prop :=
  ∃ w, IsCalled workers w ∧ w.id = id ∧ IsLate deadline w

/-- What was found of a worker is found again with more time, unless it was given up. -/
theorem get?_report_later (hle : earlier.ticks ≤ later.ticks) {id : WorkerId}
    {o : Outcome Snapshot}
    (h : (report target request workers earlier).result.get? id = some o) :
    (GivenUp workers earlier.ticks id ∧ o = .error (.cancelled earlier)) ∨
      (report target request workers later).result.get? id = some o := by
  rw [get?_report, Option.map_eq_some_iff] at h
  obtain ⟨w, hw, rfl⟩ := h
  have hid := List.find?_some hw
  obtain rfl : w.id = id := eq_of_beq hid
  by_cases hlate : IsLate earlier.ticks w
  · left
    refine ⟨⟨w, hw, rfl, hlate⟩, ?_⟩
    rw [outcome, if_neg (by rw [inTime_eq_false_iff.2 hlate]; exact Bool.false_ne_true)]
    rfl
  · right
    rw [get?_report, hw, Option.map_some, outcome_of_not_late hle hlate]

theorem succeeded_report_later (hle : earlier.ticks ≤ later.ticks) {id : WorkerId}
    {snapshot : Snapshot}
    (h : (report target request workers earlier).result.succeeded.get? id = some snapshot) :
    (report target request workers later).result.succeeded.get? id = some snapshot := by
  rcases get?_report_later hle (Partition.get?_eq_ok_iff.2 h) with ⟨-, herror⟩ | hlater
  · cases herror
  · exact Partition.get?_eq_ok_iff.1 hlater

theorem failed_report_later (hle : earlier.ticks ≤ later.ticks) {id : WorkerId} {e : WorkerError}
    (h : (report target request workers earlier).result.failed.get? id = some e) :
    (GivenUp workers earlier.ticks id ∧ e = .cancelled earlier) ∨
      (report target request workers later).result.failed.get? id = some e := by
  rcases get?_report_later hle ((Partition.get?_eq_error_iff disjoint_report).2 h) with
    ⟨hup, heq⟩ | hlater
  · exact .inl ⟨hup, Except.error.inj heq⟩
  · exact .inr ((Partition.get?_eq_error_iff disjoint_report).1 hlater)

theorem mem_ids_report (timeout : Duration) {id : WorkerId} :
    id ∈ (report target request workers timeout).result.ids ↔ ∃ w ∈ workers, w.id = id := by
  rw [Partition.mem_ids_iff, ← Option.isSome_iff_exists, get?_report, Option.isSome_map,
    List.find?_isSome]
  simp only [beq_iff_eq]

/-- What can be planned early can be planned later, over routes that hold no less and from a worker
that is no higher. -/
theorem update_report_later (hle : earlier.ticks ≤ later.ticks) {u : Update}
    (h : Plan.update (report target request workers earlier).result = .ok u) :
    ∃ u', Plan.update (report target request workers later).result = .ok u' ∧
      (∀ id, u.routable.get? id = some true → u'.routable.get? id = some true) ∧
      ∃ id id', Plan.selected? (report target request workers earlier).result =
          some (id, u.discovered) ∧
        Plan.selected? (report target request workers later).result = some (id', u'.discovered) ∧
          Text.bytes id' ≤ Text.bytes id := by
  obtain ⟨id, hselected, hroutes⟩ := Plan.update_eq_ok_iff.1 h
  obtain ⟨hfirst, -⟩ := Dict.first?_eq_some_iff.1 hselected
  obtain ⟨id', snapshot', hselected', hlower⟩ :=
    Plan.exists_selected? (succeeded_report_later hle hfirst)
  refine ⟨⟨snapshot', Plan.routes (report target request workers later).result⟩,
    Plan.update_eq_ok_iff.2 ⟨id', hselected', rfl⟩, ?_, id, id', hselected, hselected',
    Text.bytes_le_iff.2 hlower⟩
  intro id'' htrue
  rw [hroutes, Plan.get?_routes_true disjoint_report] at htrue
  obtain ⟨snapshot'', hfound⟩ := htrue
  exact (Plan.get?_routes_true disjoint_report id'').2
    ⟨snapshot'', succeeded_report_later hle hfound⟩

/-- More time never hurts: it keeps every snapshot and every failure that was not a cancellation at
the deadline, covers the same workers, and leaves as good a plan where there was one. Both
discoveries begin at a moment from which the clock gets to the later deadline. -/
theorem more_time_keeps (target : Target) (request : Request) (workers : List Worker)
    {now : Instant} {ms ms' : Nat} (hle : ms ≤ ms') (hclock : (now.after? ms').isSome = true)
    (hkind : ¬ ∀ c ∈ request.kind.toList, Text.isBlank c = true) :
    ∃ r r', run target request workers (.ofMillis ms) = .ok r ∧
      run target request workers (.ofMillis ms') = .ok r' ∧
      (∀ id snapshot, r.result.succeeded.get? id = some snapshot →
        r'.result.succeeded.get? id = some snapshot) ∧
      (∀ id e, r.result.failed.get? id = some e →
        (GivenUp workers ms id ∧ e = .cancelled (.ofMillis ms)) ∨
          r'.result.failed.get? id = some e) ∧
      (∀ id, id ∈ r.result.succeeded.keys ++ r.result.failed.keys ↔
        id ∈ r'.result.succeeded.keys ++ r'.result.failed.keys) ∧
      ∀ u, Plan.update r.result = .ok u →
        ∃ u', Plan.update r'.result = .ok u' ∧
          (∀ id, u.routable.get? id = some true → u'.routable.get? id = some true) ∧
          ∃ id id', Plan.selected? r.result = some (id, u.discovered) ∧
            Plan.selected? r'.result = some (id', u'.discovered) ∧
              Text.bytes id' ≤ Text.bytes id := by
  have hblank : ¬ Text.allBlank request.kind = true := mt List.all_eq_true.1 hkind
  have hticks := Instant.ticks_of_after? (Instant.isSome_after?_of_le hle hclock)
  have hticks' := Instant.ticks_of_after? hclock
  have hmore : (Duration.ofMillis ms).ticks ≤ (Duration.ofMillis ms').ticks := by omega
  refine ⟨_, _, if_neg hblank, if_neg hblank, fun _ _ ↦ succeeded_report_later hmore, ?_, ?_,
    fun _ ↦ update_report_later hmore⟩
  · intro id e he
    have hfailed := failed_report_later hmore he
    rwa [hticks] at hfailed
  · exact fun id ↦ (mem_ids_report _).trans (mem_ids_report _).symm

/-- One that answers early, one that answers late, and one that cannot be reached. -/
def twoOfThree : List Worker :=
  [⟨"b", 1000, .reply (.object [("pod", Snapshot.blank.json)])⟩,
    ⟨"a", 1500, .reply (.object [("pod", Snapshot.blank.json)])⟩,
    ⟨"c", 0, .fail (.transport "refused")⟩]

theorem more_time_keeps_two :
    1000 ≤ 2000 ∧ ((⟨0, by decide⟩ : Instant).after? 2000).isSome = true ∧
    (¬ ∀ c ∈ "virsh".toList, Text.isBlank c = true) ∧
    ∃ r, run .pod ⟨"virsh", ∅, none, none⟩ twoOfThree (.ofMillis 2000) = .ok r ∧
      r.result.succeeded.get? "b" = some .blank ∧
      r.result.failed.get? "c" = some (.transport "refused") ∧
      ∃ u, Plan.update r.result = .ok u ∧ u.routable.get? "b" = some true := by
  have hle : 1000 ≤ 2000 := by decide
  have hclock : ((⟨0, by decide⟩ : Instant).after? 2000).isSome = true := rfl
  have hkind : ¬ ∀ c ∈ "virsh".toList, Text.isBlank c = true := by
    intro hblank
    cases hblank 'v' List.mem_cons_self
  refine ⟨hle, hclock, hkind, ?_⟩
  obtain ⟨r, r', hr, hr', hsucceeded, hfailed, -, hplan⟩ :=
    more_time_keeps .pod ⟨"virsh", ∅, none, none⟩ twoOfThree hle hclock hkind
  obtain rfl : report .pod ⟨"virsh", ∅, none, none⟩ twoOfThree (.ofMillis 1000) = r :=
    Except.ok.inj hr
  have hmember : (Json.object [("pod", Snapshot.blank.json)]).member? Target.pod.name =
      some Snapshot.blank.json := rfl
  have hb : (report .pod ⟨"virsh", ∅, none, none⟩ twoOfThree
      (.ofMillis 1000)).result.succeeded.get? "b" = some .blank :=
    succeeded_report_iff.2 ⟨_, _, _, rfl, rfl, le_rfl, hmember, rfl⟩
  have hc : (report .pod ⟨"virsh", ∅, none, none⟩ twoOfThree
      (.ofMillis 1000)).result.failed.get? "c" = some (.transport "refused") := by
    rw [← Partition.get?_eq_error_iff disjoint_report, get?_report]
    simp [twoOfThree, outcome, inTime, Except.bind]
  refine ⟨r', hr', hsucceeded "b" _ hb, ?_, ?_⟩
  · rcases hfailed "c" _ hc with ⟨-, hcancelled⟩ | hlater
    · cases hcancelled
    · exact hlater
  · obtain ⟨u, hu⟩ := Plan.exists_update ⟨"b", _, hb⟩
    obtain ⟨id, -, hroutes⟩ := Plan.update_eq_ok_iff.1 hu
    obtain ⟨u', hu', hroutable, -⟩ := hplan u hu
    refine ⟨u', hu', hroutable "b" ?_⟩
    rw [hroutes]
    exact (Plan.get?_routes_true disjoint_report "b").2 ⟨_, hb⟩

end Discovery

end PodInventory
