import PodInventory.Discovery
import PodInventory.Proofs.Partition

namespace PodInventory

theorem Duration.ticks_ofMillis {ms : Nat} (h : ms / 1000 < UInt64.size) :
    (Duration.ofMillis ms).ticks = ms := by
  have hsecs : ((ms / 1000).toUInt64).toNat = ms / 1000 := by
    rw [Nat.toUInt64_eq, UInt64.toNat_ofNat_of_lt' h]
  simp only [ofMillis, ticks, hsecs]
  omega

/-- A number of milliseconds that the clock has left is kept in full. -/
theorem Instant.ticks_of_after? {now : Instant} {ms : Nat} (h : (now.after? ms).isSome = true) :
    (Duration.ofMillis ms).ticks = ms := by
  have hrange := isSome_after?_iff.1 h
  have hword : Int64.maxValue.toNatClampNeg < UInt64.size := by decide
  exact Duration.ticks_ofMillis (by omega)

namespace FanOut

theorem mem_dispatched_iff {workers : List Worker} {w : Worker} :
    w ∈ dispatched workers ↔ workers.find? (fun v ↦ v.id == w.id) = some w := by
  induction workers with
  | nil => simp [dispatched]
  | cons v workers ih =>
    rw [dispatched, List.mem_cons, List.mem_filter, ih]
    by_cases h : v.id = w.id
    · rw [List.find?_cons_of_pos (by simpa using h)]
      constructor
      · intro hor
        rcases hor with rfl | ⟨-, hne⟩
        · rfl
        · exact absurd h.symm (bne_iff_ne.1 hne)
      · exact fun heq ↦ .inl (Option.some.inj heq).symm
    · rw [List.find?_cons_of_neg (by simpa using h)]
      constructor
      · intro hor
        rcases hor with rfl | ⟨hfind, -⟩
        · exact absurd rfl h
        · exact hfind
      · exact fun hfind ↦ .inr ⟨hfind, bne_iff_ne.2 (Ne.symm h)⟩

theorem nodup_dispatched (workers : List Worker) : ((dispatched workers).map Worker.id).Nodup := by
  induction workers with
  | nil => exact List.nodup_nil
  | cons w workers ih =>
    refine List.nodup_cons.2 ⟨fun hmem ↦ ?_, ih.sublist (List.filter_sublist.map _)⟩
    obtain ⟨v, hv, heq⟩ := List.mem_map.1 hmem
    exact bne_iff_ne.1 (List.mem_filter.1 hv).2 heq

/-- A fan-out holds the outcome of the first handle of every id, in whatever order the calls end. -/
theorem get?_result (timeout : Duration) (workers : List Worker) (id : WorkerId) :
    (result timeout workers).get? id =
      (workers.find? (fun w ↦ w.id == id)).map (outcome timeout) := by
  have hperm : (joined timeout workers).Perm (dispatched workers) := List.mergeSort_perm _ _
  have hnodup : (((joined timeout workers).map
      (fun w ↦ (w.id, outcome timeout w))).reverse.map Prod.fst).Nodup := by
    rw [List.map_reverse, List.nodup_reverse, List.map_map]
    exact (hperm.map _).nodup_iff.2 (nodup_dispatched workers)
  rw [result, Partition.get?_ofOutcomes]
  ext o
  rw [Dict.lookup_eq_some_iff_mem hnodup, List.mem_reverse, List.mem_map, Option.map_eq_some_iff]
  constructor
  · intro hex
    obtain ⟨w, hw, heq⟩ := hex
    obtain ⟨rfl, rfl⟩ := Prod.ext_iff.1 heq
    exact ⟨w, mem_dispatched_iff.1 (hperm.mem_iff.1 hw), rfl⟩
  · intro hex
    obtain ⟨w, hw, rfl⟩ := hex
    have hid := List.find?_some hw
    obtain rfl : w.id = id := eq_of_beq hid
    exact ⟨w, hperm.mem_iff.2 (mem_dispatched_iff.2 hw), rfl⟩

theorem disjoint_result (timeout : Duration) (workers : List Worker) :
    (result timeout workers).Disjoint := Partition.disjoint_ofOutcomes _

/-- A call brings a reply just if the worker gives one no later than the deadline. -/
theorem outcome_eq_ok_iff {timeout : Duration} {w : Worker} {reply : Json} :
    outcome timeout w = .ok reply ↔ w.action = .reply reply ∧ w.delay ≤ timeout.ticks := by
  unfold outcome inTime
  cases w.action with
  | reply value =>
    by_cases h : w.delay ≤ timeout.ticks <;> simp [h]
  | fail e => by_cases h : w.delay ≤ timeout.ticks <;> simp [h]
  | panic message => by_cases h : w.delay ≤ timeout.ticks <;> simp [h]
  | hang => simp

end FanOut

namespace Discovery

theorem decodeReply_eq_ok_iff {target : Target} {reply : Json} {snapshot : Snapshot} :
    decodeReply target reply = .ok snapshot ↔
      ∃ payload, reply.member? target.name = some payload ∧
        Decode.ofJson Snapshot.decode payload = .ok snapshot := by
  unfold decodeReply
  cases reply.member? target.name with
  | none => simp
  | some payload =>
    cases h : Decode.ofJson Snapshot.decode payload <;> simp [Except.mapError, h]

/-- The first handle of an id replies no later than a number of milliseconds, with an object that
holds a snapshot of the target. -/
def Answers (target : Target) (deadline : Nat) (workers : List Worker) (id : WorkerId)
    (snapshot : Snapshot) : Prop :=
  ∃ w reply payload, workers.find? (fun w ↦ w.id == id) = some w ∧ w.action = .reply reply ∧
    w.delay ≤ deadline ∧ reply.member? target.name = some payload ∧
      Decode.ofJson Snapshot.decode payload = .ok snapshot

variable {target : Target} {request : Request} {workers : List Worker} {timeout : Duration}

theorem get?_report (id : WorkerId) :
    (report target request workers timeout).result.get? id =
      (workers.find? (fun w ↦ w.id == id)).map
        (fun w ↦ (FanOut.outcome timeout w).bind (decodeReply target)) := by
  rw [report, Partition.get?_tryMap (FanOut.disjoint_result timeout workers), FanOut.get?_result,
    Option.map_map]
  rfl

theorem disjoint_report : (report target request workers timeout).result.Disjoint :=
  Partition.disjoint_tryMap (FanOut.disjoint_result timeout workers) _

theorem succeeded_report_iff {id : WorkerId} {snapshot : Snapshot} :
    (report target request workers timeout).result.succeeded.get? id = some snapshot ↔
      Answers target timeout.ticks workers id snapshot := by
  rw [← Partition.get?_eq_ok_iff, get?_report, Option.map_eq_some_iff]
  constructor
  · intro hex
    obtain ⟨w, hw, hok⟩ := hex
    cases hreply : FanOut.outcome timeout w with
    | error e =>
      rw [hreply] at hok
      cases hok
    | ok reply =>
      rw [hreply] at hok
      obtain ⟨haction, hdelay⟩ := FanOut.outcome_eq_ok_iff.1 hreply
      obtain ⟨payload, hpayload, hdecode⟩ := decodeReply_eq_ok_iff.1 hok
      exact ⟨w, reply, payload, hw, haction, hdelay, hpayload, hdecode⟩
  · intro hex
    obtain ⟨w, reply, payload, hw, haction, hdelay, hpayload, hdecode⟩ := hex
    refine ⟨w, hw, ?_⟩
    rw [FanOut.outcome_eq_ok_iff.2 ⟨haction, hdelay⟩]
    exact decodeReply_eq_ok_iff.2 ⟨payload, hpayload, hdecode⟩

/-- Every worker that was handed in stands on one side of the result, and nobody else does. -/
theorem report_covers (target : Target) (request : Request) (workers : List Worker)
    (timeout : Duration) (id : WorkerId) :
    ((∃ snapshot,
      (report target request workers timeout).result.succeeded.get? id = some snapshot) ∨
        ∃ e, (report target request workers timeout).result.failed.get? id = some e) ↔
      ∃ w ∈ workers, w.id = id := by
  have hsides : ((∃ snapshot,
      (report target request workers timeout).result.succeeded.get? id = some snapshot) ∨
        ∃ e, (report target request workers timeout).result.failed.get? id = some e) ↔
      ((report target request workers timeout).result.get? id).isSome = true := by
    simp only [← Partition.get?_eq_ok_iff, ← Partition.get?_eq_error_iff disjoint_report]
    cases h : (report target request workers timeout).result.get? id with
    | none => simp
    | some o => cases o <;> simp
  rw [hsides, get?_report, Option.isSome_map, List.find?_isSome]
  simp only [beq_iff_eq]

end Discovery

end PodInventory
