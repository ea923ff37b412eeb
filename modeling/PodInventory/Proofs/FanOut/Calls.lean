import PodInventory.Proofs.FanOut.Race

namespace PodInventory.FanOut

variable {timeout : Duration} {workers : List Worker} {w : Worker}

/-- The milliseconds that a worker takes of those that it is given. -/
def share (ms : Nat) (w : Worker) : Nat :=
  match w.action with
  | .hang => ms
  | _ => min w.delay ms

/-- A worker that has not acted so many milliseconds after it was called. -/
def IsLate (ms : Nat) (w : Worker) : Prop := w.action = .hang ∨ ms < w.delay

/-- The handle that is called for its id, which is the first of that id. -/
def IsCalled (workers : List Worker) (w : Worker) : Prop :=
  workers.find? (fun v ↦ v.id == w.id) = some w

/-- What becomes of a call that is given up after so many milliseconds. -/
structure Filed (timeout : Duration) (ms : Nat) (w : Worker) (r : Partition Json) : Prop where
  reply : ∀ value, w.action = .reply value → w.delay ≤ ms → r.succeeded.get? w.id = some value
  failure : ∀ e, w.action = .fail e → w.delay ≤ ms → r.failed.get? w.id = some e
  panic : ∀ message, w.action = .panic message → w.delay ≤ ms →
    r.failed.get? w.id = some (.ofPanic message)
  late : IsLate ms w → r.failed.get? w.id = some (.cancelled timeout)

theorem inTime_eq_false_iff : inTime timeout w = false ↔ IsLate timeout.ticks w := by
  unfold inTime IsLate
  cases w.action <;> simp

theorem spent_eq_share (timeout : Duration) (w : Worker) :
    spent timeout w = share timeout.ticks w := by
  unfold spent share inTime
  cases w.action <;> simp only [Bool.false_eq_true, ↓reduceIte, decide_eq_true_eq] <;>
    by_cases h : w.delay ≤ timeout.ticks <;> simp only [h, ↓reduceIte] <;> omega

theorem get?_result_of_called (timeout : Duration) (h : IsCalled workers w) :
    (result timeout workers).get? w.id = some (outcome timeout w) := by
  rw [get?_result, show workers.find? (fun v ↦ v.id == w.id) = some w from h]
  rfl

theorem filed_result (timeout : Duration) (h : IsCalled workers w) :
    Filed timeout timeout.ticks w (result timeout workers) := by
  have hget := get?_result_of_called timeout h
  have hdisjoint := disjoint_result timeout workers
  constructor
  · intro value haction hdelay
    rw [← Partition.get?_eq_ok_iff, hget]
    simp [outcome, inTime, haction, hdelay]
  · intro e haction hdelay
    rw [← Partition.get?_eq_error_iff hdisjoint, hget]
    simp [outcome, inTime, haction, hdelay]
  · intro message haction hdelay
    rw [← Partition.get?_eq_error_iff hdisjoint, hget]
    simp [outcome, inTime, haction, hdelay]
  · intro hlate
    rw [← Partition.get?_eq_error_iff hdisjoint, hget, outcome, inTime_eq_false_iff.2 hlate]
    rfl

theorem mem_keys_result_iff (timeout : Duration) (workers : List Worker) (id : WorkerId) :
    id ∈ (result timeout workers).succeeded.keys ++ (result timeout workers).failed.keys ↔
      ∃ w ∈ workers, w.id = id := by
  refine Partition.mem_ids_iff.trans ?_
  rw [← Option.isSome_iff_exists, get?_result, Option.isSome_map, List.find?_isSome]
  simp only [beq_iff_eq]

section Elapsed

theorem foldl_max_spec {α : Type} (f : α → Nat) (l : List α) (n : Nat) :
    n ≤ l.foldl (fun t a ↦ max t (f a)) n ∧ (∀ a ∈ l, f a ≤ l.foldl (fun t a ↦ max t (f a)) n) ∧
      (l.foldl (fun t a ↦ max t (f a)) n = n ∨
        ∃ a ∈ l, f a = l.foldl (fun t a ↦ max t (f a)) n) := by
  induction l generalizing n with
  | nil => simp
  | cons a l ih =>
    obtain ⟨hle, hall, hreached⟩ := ih (max n (f a))
    simp only [List.foldl_cons]
    refine ⟨by omega, ?_, ?_⟩
    · intro b hb
      rcases List.mem_cons.1 hb with rfl | hb
      · omega
      · exact hall b hb
    · rcases hreached with heq | ⟨b, hb, heq⟩
      · rcases Nat.le_total n (f a) with hmax | hmax
        · exact .inr ⟨a, List.mem_cons_self, by omega⟩
        · exact .inl (by omega)
      · exact .inr ⟨b, List.mem_cons_of_mem a hb, heq⟩

theorem spent_le_elapsed (timeout : Duration) (h : w ∈ dispatched workers) :
    spent timeout w ≤ elapsed timeout workers :=
  (foldl_max_spec (spent timeout) (dispatched workers) 0).2.1 w h

theorem elapsed_eq_zero_or (timeout : Duration) (workers : List Worker) :
    elapsed timeout workers = 0 ∨
      ∃ w ∈ dispatched workers, spent timeout w = elapsed timeout workers :=
  (foldl_max_spec (spent timeout) (dispatched workers) 0).2.2

theorem elapsed_spec (timeout : Duration) (workers : List Worker) :
    (∀ w, IsCalled workers w → share timeout.ticks w ≤ elapsed timeout workers) ∧
    (workers ≠ [] → ∃ w, IsCalled workers w ∧ share timeout.ticks w = elapsed timeout workers) ∧
    (workers = [] → elapsed timeout workers = 0) ∧
    elapsed timeout workers ≤ timeout.ticks := by
  refine ⟨?_, ?_, ?_, ?_⟩
  · intro w hw
    rw [← spent_eq_share]
    exact spent_le_elapsed timeout (mem_dispatched_iff.2 hw)
  · intro hne
    rcases elapsed_eq_zero_or timeout workers with hzero | ⟨w, hw, heq⟩
    · obtain ⟨w, rest, rfl⟩ := List.exists_cons_of_ne_nil hne
      have hfirst : w ∈ dispatched (w :: rest) := List.mem_cons_self
      have hle := spent_le_elapsed timeout hfirst
      refine ⟨w, mem_dispatched_iff.1 hfirst, ?_⟩
      rw [← spent_eq_share]
      omega
    · exact ⟨w, mem_dispatched_iff.1 hw, by rw [← spent_eq_share, heq]⟩
  · rintro rfl
    rfl
  · rcases elapsed_eq_zero_or timeout workers with hzero | ⟨w, -, heq⟩
    · omega
    · have hle := spent_le_ticks timeout w
      omega

end Elapsed

section Cancellations

theorem getElem?_cancellations (timeout : Duration) (seen : List WorkerId) (before : List Worker)
    (w : Worker) (after : List Worker) :
    (cancellations timeout seen (before ++ w :: after))[before.length]? =
      some (w.id, if w.id ∈ seen ∨ ∃ v ∈ before, v.id = w.id then none
        else some !inTime timeout w) := by
  induction before generalizing seen with
  | nil =>
    rw [List.nil_append, cancellations]
    by_cases h : w.id ∈ seen <;> simp [h]
  | cons v before ih =>
    rw [List.cons_append, cancellations]
    by_cases h : v.id ∈ seen
    · rw [if_pos (by simpa using h), List.length_cons, List.getElem?_cons_succ, ih]
      congr 3
      grind
    · rw [if_neg (by simpa using h), List.length_cons, List.getElem?_cons_succ, ih]
      congr 3
      grind

end Cancellations

/-- However the calls end and in whatever order they are joined, a race comes to the same. -/
theorem Race.over_spec {tasks : List Task} (htasks : tasks.map Task.worker = dispatched workers)
    (hnumbers : (tasks.map Task.number).Nodup) {n : Nat} {s : Race}
    (h : Run timeout n (start tasks) s) (hover : s.Over) :
    .ofOutcomes s.outcomes = result timeout workers ∧ s.clock = elapsed timeout workers ∧
      ∀ t ∈ tasks, t.number ∈ s.cancelled ↔ IsLate timeout.ticks t.worker := by
  obtain ⟨done, joined, hs⟩ := staged_of_run hnumbers h
  obtain ⟨hrunning, hended⟩ := hover
  have hdone : done = [] := by
    have hmap := hs.ended
    rw [hended] at hmap
    exact List.map_eq_nil_iff.1 hmap.symm
  subst hdone
  have hjoined : joined.Perm tasks := by
    have hstages := hs.stages
    rw [hrunning] at hstages
    exact hstages
  have hworkers : (joined.map Task.worker).Perm (dispatched workers) :=
    htasks ▸ hjoined.map Task.worker
  have hmem {w : Worker} : w ∈ dispatched workers ↔ ∃ t ∈ tasks, t.worker = w := by
    rw [← htasks, List.mem_map]
  refine ⟨?_, ?_, ?_⟩
  · have hperm : s.outcomes.Perm ((FanOut.joined timeout workers).map
        (fun w ↦ (w.id, outcome timeout w))) := by
      rw [hs.outcomes]
      have hmap := hworkers.map (fun w ↦ (w.id, outcome timeout w))
      rw [List.map_map] at hmap
      exact hmap.trans ((List.mergeSort_perm _ _).symm.map _)
    refine Partition.ofOutcomes_perm hperm ?_
    rw [hs.outcomes, List.map_map]
    have hids := (hworkers.map Worker.id).nodup_iff.2 (nodup_dispatched workers)
    rw [List.map_map] at hids
    exact hids
  · -- Everyone was waited for, and the clock never ran past the last of them.
    have hlate : elapsed timeout workers ≤ s.clock := by
      rcases elapsed_eq_zero_or timeout workers with hzero | ⟨w, hw, heq⟩
      · omega
      · obtain ⟨t, ht, rfl⟩ := hmem.1 hw
        have hspent := hs.late t (by simpa using hjoined.mem_iff.2 ht)
        omega
    have hreached : s.clock ≤ elapsed timeout workers := by
      rcases hs.reached with hzero | ⟨t, ht, hle⟩
      · omega
      · have hspent := spent_le_elapsed timeout (hmem.2 ⟨t, ht, rfl⟩)
        omega
    omega
  · intro t ht
    rw [hs.cancelled, ← inTime_eq_false_iff]
    constructor
    · rintro ⟨t', ht', hnumber, hlate⟩
      have ht'' : t' ∈ tasks := hjoined.mem_iff.1 (by simpa using ht')
      rw [← List.inj_on_of_nodup_map hnumbers ht'' ht hnumber]
      exact hlate
    · intro hlate
      exact ⟨t, by simpa using hjoined.mem_iff.2 ht, rfl, hlate⟩

/-- A fan-out sorts the ids that it is given into two maps by what their first handles do until the
deadline. Every way in which the calls can end and be joined takes boundedly many steps, can always
go on to the end, and comes to these maps at the same time. It begins at a moment from which the
clock gets to the deadline. From later ones the first dispatch panics. -/
theorem fan_out_partitions {now : Instant} (workers : List Worker) (ms : Nat)
    (hclock : (now.after? ms).isSome = true) :
    (∀ id, (result (.ofMillis ms) workers).succeeded.get? id = none ∨
      (result (.ofMillis ms) workers).failed.get? id = none) ∧
    (∀ id, id ∈ (result (.ofMillis ms) workers).succeeded.keys ++
      (result (.ofMillis ms) workers).failed.keys ↔ ∃ w ∈ workers, w.id = id) ∧
    (∀ w, IsCalled workers w →
      Filed (.ofMillis ms) ms w (result (.ofMillis ms) workers) ∧
      ∀ others, IsCalled others w →
        (result (.ofMillis ms) others).get? w.id = (result (.ofMillis ms) workers).get? w.id) ∧
    (∀ before w after, workers = before ++ w :: after →
      ∃ fired, (cancellations (.ofMillis ms) [] workers)[before.length]? = some (w.id, fired) ∧
        (fired = none ↔ ∃ v ∈ before, v.id = w.id) ∧
        ∀ b, fired = some b → (b = true ↔ IsLate ms w)) ∧
    ((∀ w, IsCalled workers w → share ms w ≤ elapsed (.ofMillis ms) workers) ∧
      (workers ≠ [] → ∃ w, IsCalled workers w ∧ share ms w = elapsed (.ofMillis ms) workers) ∧
      (workers = [] → elapsed (.ofMillis ms) workers = 0) ∧
      elapsed (.ofMillis ms) workers ≤ ms) ∧
    ((dispatched workers).map Worker.id).Nodup ∧
    (∀ w, w ∈ dispatched workers ↔ IsCalled workers w) ∧
    ∀ tasks : List Task, tasks.map Task.worker = dispatched workers →
      (tasks.map Task.number).Nodup →
      ∀ n s, Race.Run (.ofMillis ms) n (.start tasks) s →
        n ≤ ms + 2 * tasks.length ∧
        (s.Over ∨ ∃ s', Race.Step (.ofMillis ms) s s') ∧
        (s.Over → .ofOutcomes s.outcomes = result (.ofMillis ms) workers ∧
          s.clock = elapsed (.ofMillis ms) workers ∧
          ∀ t ∈ tasks, t.number ∈ s.cancelled ↔ IsLate ms t.worker) := by
  have hticks := Instant.ticks_of_after? hclock
  refine ⟨disjoint_result _ _, mem_keys_result_iff _ _, ?_, ?_, ?_, nodup_dispatched workers,
    fun w ↦ mem_dispatched_iff, ?_⟩
  · intro w hw
    refine ⟨?_, fun others hothers ↦ ?_⟩
    · have hfiled := filed_result (.ofMillis ms) hw
      rwa [hticks] at hfiled
    · rw [get?_result_of_called _ hothers, get?_result_of_called _ hw]
  · rintro before w after rfl
    refine ⟨_, getElem?_cancellations _ [] before w after, ?_, ?_⟩
    · simp
    · intro b hb
      split at hb
      · cases hb
      · obtain rfl := Option.some.inj hb
        rw [Bool.not_eq_true', inTime_eq_false_iff, hticks]
  · have helapsed := elapsed_spec (.ofMillis ms) workers
    rwa [hticks] at helapsed
  · intro tasks htasks hnumbers n s hrun
    refine ⟨?_, Race.over_or_step _ s, fun hover ↦ ?_⟩
    · have hleft := Race.left_of_run hrun
      simp only [Race.left, Race.start, hticks, List.length_nil] at hleft
      omega
    · have hspec := Race.over_spec htasks hnumbers hrun hover
      rwa [hticks] at hspec

/-- One fails as late as it may, one panics, one is a millisecond late, one never acts, and one is
there twice. -/
theorem fan_out_partitions_crowd :
    ((⟨0, by decide⟩ : Instant).after? 10).isSome = true ∧
    ∃ r : Partition Json, r.succeeded.get? "a" = some .null ∧
      r.failed.get? "b" = some (.cancelled (.ofMillis 2)) ∧
      r.failed.get? "c" = some (.ofPanic "no") ∧
      r.failed.get? "d" = some (.cancelled (.ofMillis 10)) ∧
      r.failed.get? "e" = some (.cancelled (.ofMillis 10)) ∧
      ∀ n s, Race.Run (.ofMillis 10) n (.start [⟨0, ⟨"a", 3, .reply .null⟩⟩,
        ⟨1, ⟨"b", 10, .fail (.cancelled (.ofMillis 2))⟩⟩, ⟨2, ⟨"c", 0, .panic "no"⟩⟩,
        ⟨3, ⟨"d", 11, .reply .null⟩⟩, ⟨4, ⟨"e", 0, .hang⟩⟩]) s →
        n ≤ 20 ∧ (s.Over → .ofOutcomes s.outcomes = r ∧ s.clock = 10 ∧
          3 ∈ s.cancelled ∧ 4 ∈ s.cancelled ∧ 1 ∉ s.cancelled) := by
  have hclock : ((⟨0, by decide⟩ : Instant).after? 10).isSome = true := rfl
  obtain ⟨-, -, hcalled, -, ⟨hshare, -, -, hmost⟩, -, -, hruns⟩ := fan_out_partitions
    [⟨"a", 3, .reply .null⟩, ⟨"b", 10, .fail (.cancelled (.ofMillis 2))⟩, ⟨"c", 0, .panic "no"⟩,
      ⟨"d", 11, .reply .null⟩, ⟨"a", 0, .hang⟩, ⟨"e", 0, .hang⟩] 10 hclock
  have ha := (hcalled ⟨"a", 3, .reply .null⟩ rfl).1
  have hb := (hcalled ⟨"b", 10, .fail (.cancelled (.ofMillis 2))⟩ rfl).1
  have hc := (hcalled ⟨"c", 0, .panic "no"⟩ rfl).1
  have hd := (hcalled ⟨"d", 11, .reply .null⟩ rfl).1
  have he := (hcalled ⟨"e", 0, .hang⟩ rfl).1
  refine ⟨hclock, _, ha.reply _ rfl (by decide), hb.failure _ rfl (by decide),
    hc.panic _ rfl (by decide), hd.late (.inr (by decide)), he.late (.inl rfl), ?_⟩
  intro n s hrun
  obtain ⟨hbound, -, hover⟩ := hruns _ rfl (by decide) n s hrun
  refine ⟨hbound, fun h ↦ ?_⟩
  obtain ⟨hr, hclock, hcancelled⟩ := hover h
  refine ⟨hr, ?_, ?_, ?_, ?_⟩
  · have hleast : 10 ≤ elapsed _ _ := hshare ⟨"e", 0, .hang⟩ rfl
    omega
  · exact (hcancelled ⟨3, ⟨"d", 11, .reply .null⟩⟩ (by simp)).2 (.inr (by decide))
  · exact (hcancelled ⟨4, ⟨"e", 0, .hang⟩⟩ (by simp)).2 (.inl rfl)
  · intro hmem
    have hlate := (hcancelled ⟨1, ⟨"b", 10, .fail (.cancelled (.ofMillis 2))⟩⟩ (by simp)).1 hmem
    simp [IsLate] at hlate

end PodInventory.FanOut
