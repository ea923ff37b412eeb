import PodInventory.Cli.Run
import PodInventory.Proofs.FanOut.Calls
import PodInventory.Proofs.Keys
import PodInventory.Proofs.Text.Order
import PodInventory.Worker.Registry

namespace PodInventory

namespace FanOut

variable {workers : List Worker} (h : (workers.map Worker.id).Nodup)

include h

theorem dispatched_of_nodup : dispatched workers = workers := by
  induction workers with
  | nil => rfl
  | cons w workers ih =>
    obtain ⟨hnew, hnodup⟩ := List.nodup_cons.1 (by simpa only [List.map_cons] using h)
    rw [dispatched, ih hnodup, List.filter_eq_self.2]
    exact fun v hv ↦ bne_iff_ne.2 (fun heq ↦ hnew (heq ▸ List.mem_map_of_mem hv))

theorem repeated_of_nodup (seen : List WorkerId) (hseen : ∀ w ∈ workers, w.id ∉ seen) :
    repeated seen workers = [] := by
  induction workers generalizing seen with
  | nil => rfl
  | cons w workers ih =>
    obtain ⟨hnew, hnodup⟩ := List.nodup_cons.1 (by simpa only [List.map_cons] using h)
    rw [repeated, if_neg (by simpa using hseen w List.mem_cons_self)]
    refine ih hnodup _ (fun v hv hmem ↦ ?_)
    rcases List.mem_cons.1 hmem with heq | hmem
    · exact hnew (heq ▸ List.mem_map_of_mem hv)
    · exact hseen v (List.mem_cons_of_mem _ hv) hmem

end FanOut

namespace Registry

/-- A call that changes which workers are connected. -/
inductive Change
  | register (w : Worker)
  | deregister (id : WorkerId)
  deriving Inhabited

def Change.id : Change → WorkerId
  | .register w => w.id
  | .deregister id => id

def perform (r : Registry) : Change → Option Bool × Registry
  | .register w => (none, (r.register w).1)
  | .deregister id => (some (r.deregister id).1, (r.deregister id).2.1)

/-- Makes changes one after the other. Between them the handles may come into any other order. -/
def run (shuffle : Nat → List Worker → List Worker) (step : Nat) (r : Registry) :
    List Change → List (Option Bool) × Registry
  | [] => ([], r)
  | c :: rest =>
    let (answer, r) := r.perform c
    let (answers, r) := run shuffle (step + 1) ⟨shuffle step r.handles⟩ rest
    (answer :: answers, r)

/-- A handle that was registered, and neither replaced nor deregistered since. -/
def Standing (changes : List Change) (w : Worker) : Prop :=
  ∃ before after, changes = before ++ .register w :: after ∧ ∀ c ∈ after, c.id ≠ w.id

theorem standing_append_singleton {changes : List Change} {c : Change} {w : Worker} :
    Standing (changes ++ [c]) w ↔ c = .register w ∨ Standing changes w ∧ c.id ≠ w.id := by
  constructor
  · rintro ⟨before, after, heq, hafter⟩
    rcases split_append_singleton heq with ⟨-, hc, -⟩ | ⟨after, rfl, hchanges⟩
    · exact .inl hc.symm
    · exact .inr ⟨⟨before, after, hchanges, fun c' hc' ↦ hafter c' (List.mem_append_left _ hc')⟩,
        hafter c (by simp)⟩
  · rintro (rfl | ⟨⟨before, after, rfl, hafter⟩, hne⟩)
    · exact ⟨changes, [], rfl, fun _ h ↦ nomatch h⟩
    · refine ⟨before, after ++ [c], by simp, fun c' hc' ↦ ?_⟩
      rcases List.mem_append.1 hc' with hc' | hc'
      · exact hafter c' hc'
      · exact List.mem_singleton.1 hc' ▸ hne

variable {r : Registry} {changes : List Change}

theorem contains_iff {id : WorkerId} : r.contains id = true ↔ ∃ w ∈ r.handles, w.id = id := by
  simp [contains]

theorem deregister_spec (r : Registry) (id : WorkerId) :
    (r.deregister id).1 = r.contains id ∧ (r.deregister id).2.1 = r.without id := by
  unfold deregister
  cases h : r.contains id with
  | true => exact ⟨rfl, rfl⟩
  | false =>
    refine ⟨rfl, congrArg Registry.mk (List.filter_eq_self.2 (fun w hw ↦ ?_)).symm⟩
    refine bne_iff_ne.2 (fun heq ↦ ?_)
    rw [contains_iff.2 ⟨w, hw, heq⟩] at h
    cases h

/-- A change touches no handle but that of its own id. -/
theorem mem_perform_iff {c : Change} {w : Worker} :
    w ∈ (r.perform c).2.handles ↔ c = .register w ∨ w ∈ r.handles ∧ c.id ≠ w.id := by
  cases c with
  | register v =>
    simp only [perform, register, without, List.mem_cons, List.mem_filter, bne_iff_ne, Change.id,
      Change.register.injEq]
    exact or_congr eq_comm (and_congr_right fun _ ↦ ne_comm)
  | deregister id =>
    simp only [perform, (r.deregister_spec id).2, without, List.mem_filter, bne_iff_ne, Change.id,
      reduceCtorEq, false_or]
    exact and_congr_right fun _ ↦ ne_comm

theorem nodup_perform (h : (r.handles.map Worker.id).Nodup) (c : Change) :
    ((r.perform c).2.handles.map Worker.id).Nodup := by
  have hwithout : ∀ id, ((r.without id).handles.map Worker.id).Nodup :=
    fun id ↦ h.sublist (List.filter_sublist.map _)
  cases c with
  | register w =>
    refine List.nodup_cons.2 ⟨fun hmem ↦ ?_, hwithout w.id⟩
    obtain ⟨v, hv, heq⟩ := List.mem_map.1 hmem
    exact bne_iff_ne.1 (List.mem_filter.1 hv).2 heq
  | deregister id =>
    rw [perform, (r.deregister_spec id).2]
    exact hwithout id

/-- What is in a registry after some changes, in whatever order. -/
structure Holds (changes : List Change) (r : Registry) : Prop where
  ids : (r.handles.map Worker.id).Nodup
  standing : ∀ w, w ∈ r.handles ↔ Standing changes w

theorem holds_empty : Holds [] .empty where
  ids := List.nodup_nil
  standing w := by
    refine iff_of_false (fun h ↦ nomatch h) ?_
    rintro ⟨before, after, heq, -⟩
    simp at heq

theorem Holds.shuffled (h : Holds changes r) {handles : List Worker}
    (hperm : handles.Perm r.handles) : Holds changes ⟨handles⟩ where
  ids := (hperm.map _).nodup_iff.2 h.ids
  standing w := hperm.mem_iff.trans (h.standing w)

theorem Holds.perform (h : Holds changes r) (c : Change) :
    Holds (changes ++ [c]) (r.perform c).2 where
  ids := nodup_perform h.ids c
  standing w := by rw [mem_perform_iff, standing_append_singleton, h.standing]

theorem Holds.contains_iff (h : Holds changes r) (id : WorkerId) :
    r.contains id = true ↔ ∃ w, Standing changes w ∧ w.id = id := by
  rw [Registry.contains_iff]
  exact exists_congr fun w ↦ and_congr_left fun _ ↦ h.standing w

theorem Holds.mem_snapshot_iff (h : Holds changes r) (w : Worker) :
    w ∈ r.snapshot ↔ Standing changes w := by
  rw [snapshot, List.mem_mergeSort, h.standing]

theorem Holds.nodup_snapshot (h : Holds changes r) : (r.snapshot.map Worker.id).Nodup :=
  ((List.mergeSort_perm _ _).map _).nodup_iff.2 h.ids

theorem Holds.ascending (h : Holds changes r) :
    r.snapshot.Pairwise (fun v w ↦ v.id < w.id) := by
  have hnodup : r.snapshot.Pairwise (fun v w ↦ v.id ≠ w.id) :=
    List.pairwise_map.1 h.nodup_snapshot
  exact ((pairwise_mergeSort_key Worker.id r.handles).and hnodup).imp
    fun hlt ↦ Std.lt_of_le_of_ne hlt.1 hlt.2

/-- In whatever order the handles are kept, they are listed in the same one. -/
theorem Holds.snapshot_unique (h : Holds changes r) {r' : Registry} (h' : Holds changes r') :
    r'.snapshot = r.snapshot := by
  have hperm : r'.snapshot.Perm r.snapshot := by
    rw [List.perm_ext_iff_of_nodup (h'.nodup_snapshot.of_map _) (h.nodup_snapshot.of_map _)]
    exact fun w ↦ (h'.mem_snapshot_iff w).trans (h.mem_snapshot_iff w).symm
  exact hperm.eq_of_pairwise (fun v w _ _ hvw hwv ↦ absurd hwv (String.lt_asymm hvw))
    h'.ascending h.ascending

section Run

variable {shuffle : Nat → List Worker → List Worker}
  (hshuffle : ∀ step handles, (shuffle step handles).Perm handles)

include hshuffle

theorem Holds.run (h : Holds changes r) (step : Nat) (rest : List Change) :
    Holds (changes ++ rest) (r.run shuffle step rest).2 := by
  induction rest generalizing changes r step with
  | nil =>
    rw [List.append_nil]
    exact h
  | cons c rest ih =>
    have hnext := ih ((h.perform c).shuffled (hshuffle step _)) (step + 1)
    rw [List.append_assoc] at hnext
    exact hnext

theorem Holds.answer (h : Holds changes r) (step : Nat) (before : List Change) (id : WorkerId)
    (after : List Change) :
    ∃ b, (r.run shuffle step (before ++ .deregister id :: after)).1[before.length]? =
      some (some b) ∧ (b = true ↔ ∃ w, Standing (changes ++ before) w ∧ w.id = id) := by
  induction before generalizing changes r step with
  | nil =>
    refine ⟨(r.deregister id).1, rfl, ?_⟩
    rw [(r.deregister_spec id).1, h.contains_iff, List.append_nil]
  | cons c before ih =>
    obtain ⟨b, hanswer, hb⟩ := ih ((h.perform c).shuffled (hshuffle step _)) (step + 1)
    rw [List.append_assoc] at hb
    exact ⟨b, hanswer, hb⟩

theorem Holds.answers_unique (h : Holds changes r) {r' : Registry} (h' : Holds changes r')
    {shuffle' : Nat → List Worker → List Worker}
    (hshuffle' : ∀ step handles, (shuffle' step handles).Perm handles) (step : Nat)
    (rest : List Change) : (r'.run shuffle' step rest).1 = (r.run shuffle step rest).1 := by
  induction rest generalizing changes r r' step with
  | nil => rfl
  | cons c rest ih =>
    have hanswer : (r'.perform c).1 = (r.perform c).1 := by
      cases c with
      | register w => rfl
      | deregister id =>
        rw [Registry.perform, Registry.perform, (r.deregister_spec id).1,
          (r'.deregister_spec id).1]
        exact congrArg some
          (Bool.eq_iff_iff.2 ((h'.contains_iff id).trans (h.contains_iff id).symm))
    have hrest := ih ((h.perform c).shuffled (hshuffle step _))
      ((h'.perform c).shuffled (hshuffle' step _)) (step + 1)
    exact congrArg₂ List.cons hanswer hrest

end Run

/-- After any changes, with the handles in whatever order, the registry lists the latest handle of
every worker that is connected, by ascending bytes of its id, and a fan-out calls just these. -/
theorem registry_run_spec {shuffle : Nat → List Worker → List Worker}
    (hshuffle : ∀ step handles, (shuffle step handles).Perm handles) (changes : List Change) :
    let answers := (empty.run shuffle 0 changes).1
    let r := (empty.run shuffle 0 changes).2
    r.snapshot.Pairwise (fun v w ↦ Text.bytes v.id < Text.bytes w.id) ∧
    (∀ w, w ∈ r.snapshot ↔ Standing changes w) ∧
    r.size = r.snapshot.length ∧ r.isEmpty = r.snapshot.isEmpty ∧
    (∀ before id after, changes = before ++ .deregister id :: after →
      ∃ b, answers[before.length]? = some (some b) ∧
        (b = true ↔ ∃ w, Standing before w ∧ w.id = id)) ∧
    (∀ shuffle' : Nat → List Worker → List Worker,
      (∀ step handles, (shuffle' step handles).Perm handles) →
        (empty.run shuffle' 0 changes).1 = answers ∧
          (empty.run shuffle' 0 changes).2.snapshot = r.snapshot) ∧
    FanOut.dispatched r.snapshot = r.snapshot ∧
    (∀ w, FanOut.IsCalled r.snapshot w ↔ Standing changes w) ∧
    FanOut.repeated [] r.snapshot = [] ∧
    ∀ timeout,
      (∀ w, Standing changes w →
        (FanOut.result timeout r.snapshot).get? w.id = some (FanOut.outcome timeout w)) ∧
      ∀ id, id ∈ (FanOut.result timeout r.snapshot).succeeded.keys ++
        (FanOut.result timeout r.snapshot).failed.keys ↔ ∃ w, Standing changes w ∧ w.id = id := by
  intro answers r
  have h : Holds changes r := holds_empty.run hshuffle 0 changes
  have hdispatched := FanOut.dispatched_of_nodup h.nodup_snapshot
  have hcalled : ∀ w, FanOut.IsCalled r.snapshot w ↔ Standing changes w := fun w ↦ by
    rw [FanOut.IsCalled, ← FanOut.mem_dispatched_iff, hdispatched, h.mem_snapshot_iff]
  refine ⟨h.ascending.imp Text.bytes_lt_iff.2, h.mem_snapshot_iff,
    (List.mergeSort_perm _ _).length_eq.symm, (List.mergeSort_perm _ _).isEmpty_eq.symm, ?_,
    fun shuffle' hshuffle' ↦ ⟨?_, ?_⟩, hdispatched, fun w ↦ ?_,
    FanOut.repeated_of_nodup h.nodup_snapshot [] (fun _ _ h ↦ nomatch h),
    fun timeout ↦ ⟨fun w hw ↦ ?_, fun id ↦ ?_⟩⟩
  · rintro before id after rfl
    exact holds_empty.answer hshuffle 0 before id after
  · exact holds_empty.answers_unique hshuffle holds_empty hshuffle' 0 changes
  · exact h.snapshot_unique (holds_empty.run hshuffle' 0 changes)
  · exact hcalled w
  · exact FanOut.get?_result_of_called timeout ((hcalled w).2 hw)
  · rw [FanOut.mem_keys_result_iff]
    exact exists_congr fun w ↦ and_congr_left fun _ ↦ h.mem_snapshot_iff w

/-- A worker registers twice, another one leaves, and a third was never there. -/
def turnover : List Change :=
  [.register ⟨"b", 1, .reply .null⟩, .register ⟨"a", 0, .hang⟩, .deregister "c",
    .register ⟨"b", 2, .hang⟩, .deregister "a"]

theorem registry_run_spec_turnover :
    (∀ (_ : Nat) (handles : List Worker), handles.reverse.Perm handles) ∧
      (empty.run (fun _ ↦ List.reverse) 0 turnover).1 = [none, none, some false, none, some true] ∧
      FanOut.IsCalled (empty.run (fun _ ↦ List.reverse) 0 turnover).2.snapshot ⟨"b", 2, .hang⟩ := by
  have hreverse : ∀ (_ : Nat) (handles : List Worker), handles.reverse.Perm handles :=
    fun _ handles ↦ handles.reverse_perm
  obtain ⟨-, -, -, -, -, -, -, hcalled, -⟩ := registry_run_spec hreverse turnover
  have hstanding : Standing turnover ⟨"b", 2, .hang⟩ := ⟨turnover.take 3, [.deregister "a"], rfl, by
    intro c hc
    obtain rfl := List.mem_singleton.1 hc
    decide⟩
  exact ⟨hreverse, rfl, (hcalled _).2 hstanding⟩

end Registry

namespace Cli

variable (network : Network) (workers : List HttpWorker)

theorem connected_eq :
    connected network workers = (Registry.empty.run (fun _ handles ↦ handles) 0
      (workers.map (fun v ↦ .register (v.connect network)))).2.snapshot := by
  have hrun : ∀ (r : Registry) (step : Nat),
      workers.foldl (fun r v ↦ (Registry.register r (v.connect network)).1) r =
        (r.run (fun _ handles ↦ handles) step
          (workers.map (fun v ↦ .register (v.connect network)))).2 := by
    induction workers with
    | nil => exact fun _ _ ↦ rfl
    | cons v workers ih => exact fun r step ↦ ih _ (step + 1)
  rw [connected, hrun .empty 0]

theorem connect_id (v : HttpWorker) : (v.connect network).id = v.id := by
  unfold HttpWorker.connect
  split <;> rfl

/-- Of workers that are given with one id the last one is connected. -/
theorem mem_connected_iff (w : Worker) :
    w ∈ connected network workers ↔
      ∃ before v after, workers = before ++ v :: after ∧ v.connect network = w ∧
        ∀ v' ∈ after, v'.id ≠ v.id := by
  have h := Registry.holds_empty.run (fun _ handles ↦ .refl handles) 0
    (workers.map (fun v ↦ .register (v.connect network)))
  rw [connected_eq, h.mem_snapshot_iff, List.nil_append]
  constructor
  · rintro ⟨before, after, heq, hafter⟩
    obtain ⟨before, rest, rfl, rfl, hrest⟩ := List.map_eq_append_iff.1 heq
    obtain ⟨v, after, rfl, hv, rfl⟩ := List.map_eq_cons_iff.1 hrest
    obtain rfl := Registry.Change.register.inj hv
    refine ⟨before, v, after, rfl, rfl, fun v' hv' ↦ ?_⟩
    have hne := hafter _ (List.mem_map_of_mem hv')
    simpa only [Registry.Change.id, connect_id] using hne
  · rintro ⟨before, v, after, rfl, rfl, hafter⟩
    refine ⟨_, _, by rw [List.map_append, List.map_cons], fun c hc ↦ ?_⟩
    obtain ⟨v', hv', rfl⟩ := List.mem_map.1 hc
    simpa only [Registry.Change.id, connect_id] using hafter v' hv'

end Cli

end PodInventory
