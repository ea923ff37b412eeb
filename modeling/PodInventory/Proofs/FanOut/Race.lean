import PodInventory.Proofs.Discovery
import PodInventory.Proofs.Keys

namespace PodInventory.FanOut

/-- How a call ends by itself. A panic takes the task of the call with it. -/
inductive Ending
  | returned (outcome : Outcome Json)
  | died (message : String)

def Ending.outcome : Ending → Outcome Json
  | .returned o => o
  | .died message => .error (.ofPanic message)

/-- How a worker ends a call that it was given so many milliseconds ago, should it be done. -/
def ending? (clock : Nat) (w : Worker) : Option Ending :=
  if w.delay ≤ clock then
    match w.action with
    | .reply value => some (.returned (.ok value))
    | .fail e => some (.returned (.error e))
    | .panic message => some (.died message)
    | .hang => none
  else none

/-- A call of its own. Its end is reported under its number. -/
structure Task where
  number : Nat
  worker : Worker

/-- Calls that were dispatched together, some milliseconds later: those that still run, those that
have ended without being joined, and what came of the others. -/
structure Race where
  clock : Nat
  running : List Task
  ended : List (Nat × Ending)
  pending : List (Nat × WorkerId)
  cancelled : List Nat
  outcomes : List (WorkerId × Outcome Json)

namespace Race

def start (tasks : List Task) : Race where
  clock := 0
  running := tasks
  ended := []
  pending := tasks.map (fun t ↦ (t.number, t.worker.id))
  cancelled := []
  outcomes := []

def finish (s : Race) (number : Nat) (e : Ending) : Race :=
  { s with
    running := s.running.filter (fun t ↦ t.number != number)
    ended := s.ended ++ [(number, e)] }

def cancel (s : Race) (number : Nat) : Race := { s with cancelled := s.cancelled ++ [number] }

/-- Files the end of a task under the id that was kept for its number. -/
def join (s : Race) (number : Nat) (e : Ending) : Race :=
  { s with
    ended := s.ended.filter (fun x ↦ x.1 != number)
    pending := s.pending.filter (fun x ↦ x.1 != number)
    outcomes := s.outcomes ++
      ((s.pending.lookup number).map (fun id ↦ (id, e.outcome))).toList }

/-- What can happen next. Time passes as long as a call runs and none is about to end. Which of the
tasks is next to end or to be joined is left open. -/
inductive Step (timeout : Duration) (s : Race) : Race → Prop
  | ends (t : Task) (e : Ending) (ht : t ∈ s.running) (he : ending? s.clock t.worker = some e) :
    Step timeout s (s.finish t.number e)
  | expires (t : Task) (ht : t ∈ s.running) (hnone : ending? s.clock t.worker = none)
    (hdeadline : timeout.ticks ≤ s.clock) :
    Step timeout s ((s.finish t.number (.returned (.error (.cancelled timeout)))).cancel t.number)
  | joins (number : Nat) (e : Ending) (he : (number, e) ∈ s.ended) :
    Step timeout s (s.join number e)
  | waits (hrunning : s.running ≠ []) (hnone : ∀ t ∈ s.running, ending? s.clock t.worker = none)
    (hearly : s.clock < timeout.ticks) : Step timeout s { s with clock := s.clock + 1 }

inductive Run (timeout : Duration) : Nat → Race → Race → Prop
  | refl (s : Race) : Run timeout 0 s s
  | step {n : Nat} {s s' s'' : Race} (run : Run timeout n s s') (h : Step timeout s' s'') :
    Run timeout (n + 1) s s''

/-- Nobody is left to wait for. -/
def Over (s : Race) : Prop := s.running = [] ∧ s.ended = []

section Progress

variable {timeout : Duration} {s s' : Race}

/-- The steps that a race can take at most. -/
def left (timeout : Duration) (s : Race) : Nat :=
  (timeout.ticks - s.clock) + 2 * s.running.length + s.ended.length

theorem length_filter_ne_lt {α : Type} {f : α → Nat} {l : List α} {a : α} (ha : a ∈ l) :
    (l.filter (fun b ↦ f b != f a)).length < l.length :=
  List.length_filter_lt_length_iff_exists.2 ⟨a, ha, by simp⟩

theorem left_of_step (h : Step timeout s s') : left timeout s' < left timeout s := by
  cases h with
  | ends t e ht he =>
    have hless := length_filter_ne_lt (f := Task.number) ht
    simp only [left, finish, List.length_append, List.length_singleton]
    omega
  | expires t ht hnone hdeadline =>
    have hless := length_filter_ne_lt (f := Task.number) ht
    simp only [left, cancel, finish, List.length_append, List.length_singleton]
    omega
  | joins number e he =>
    have hless : (s.ended.filter (fun x ↦ x.1 != number)).length < s.ended.length :=
      length_filter_ne_lt he
    simp only [left, join]
    omega
  | waits hrunning hnone hearly =>
    simp only [left]
    omega

theorem left_of_run {n : Nat} (h : Run timeout n s s') : n + left timeout s' ≤ left timeout s := by
  induction h with
  | refl => omega
  | step run h ih =>
    have hless := left_of_step h
    omega

theorem over_or_step (timeout : Duration) (s : Race) : s.Over ∨ ∃ s', Step timeout s s' := by
  cases hended : s.ended with
  | cons x rest => exact .inr ⟨_, .joins x.1 x.2 (by simp [hended])⟩
  | nil =>
    by_cases hrunning : s.running = []
    · exact .inl ⟨hrunning, hended⟩
    · right
      by_cases hready : ∃ t ∈ s.running, ending? s.clock t.worker ≠ none
      · obtain ⟨t, ht, hsome⟩ := hready
        obtain ⟨e, he⟩ := Option.ne_none_iff_exists'.1 hsome
        exact ⟨_, .ends t e ht he⟩
      · have hnone : ∀ t ∈ s.running, ending? s.clock t.worker = none := by
          simpa using hready
        by_cases hearly : s.clock < timeout.ticks
        · exact ⟨_, .waits hrunning hnone hearly⟩
        · obtain ⟨t, ht⟩ := List.exists_mem_of_ne_nil _ hrunning
          exact ⟨_, .expires t ht (hnone t ht) (by omega)⟩

end Progress

end Race

/-- How a call ends that is given up at its deadline. -/
def ending (timeout : Duration) (w : Worker) : Ending :=
  (ending? timeout.ticks w).getD (.returned (.error (.cancelled timeout)))

section Ending

variable {timeout : Duration} {w : Worker} {clock : Nat} {e : Ending}

theorem isSome_ending?_ticks : (ending? timeout.ticks w).isSome = inTime timeout w := by
  unfold ending? inTime
  by_cases h : w.delay ≤ timeout.ticks <;> cases w.action <;> simp [h]

theorem outcome_ending (timeout : Duration) (w : Worker) :
    (ending timeout w).outcome = outcome timeout w := by
  unfold ending ending? outcome inTime
  by_cases h : w.delay ≤ timeout.ticks <;> cases w.action <;> simp [h, Ending.outcome]

theorem ending?_mono (h : ending? clock w = some e) {later : Nat} (hle : clock ≤ later) :
    ending? later w = some e := by
  unfold ending? at h ⊢
  by_cases hdelay : w.delay ≤ clock
  · rw [if_pos hdelay] at h
    rw [if_pos (by omega)]
    exact h
  · rw [if_neg hdelay] at h
    cases h

theorem spent_le_ticks (timeout : Duration) (w : Worker) : spent timeout w ≤ timeout.ticks := by
  unfold spent
  split
  · rename_i hin
    rw [← isSome_ending?_ticks, ending?] at hin
    by_contra hlate
    rw [if_neg hlate] at hin
    cases hin
  · exact Nat.le_refl _

theorem spent_le_of_ending? (h : ending? clock w = some e) (hclock : clock ≤ timeout.ticks) :
    spent timeout w ≤ clock ∧ ending timeout w = e ∧ inTime timeout w = true := by
  have hlater := ending?_mono h hclock
  have hin : inTime timeout w = true := by rw [← isSome_ending?_ticks, hlater]; rfl
  refine ⟨?_, by rw [ending, hlater]; rfl, hin⟩
  rw [spent, if_pos hin]
  by_contra hlate
  rw [ending?, if_neg hlate] at h
  cases h

theorem lt_spent_of_ending? (h : ending? clock w = none) (hclock : clock < timeout.ticks) :
    clock < spent timeout w := by
  unfold spent
  split
  · rename_i hin
    by_contra hle
    have hdelay : w.delay ≤ clock := by omega
    rw [ending?, if_pos hdelay] at h
    unfold inTime at hin
    cases haction : w.action <;> simp_all
  · exact hclock

end Ending

namespace Race

/-- A race of tasks of which some have ended and some were joined as well. -/
structure Staged (timeout : Duration) (tasks done joined : List Task) (s : Race) : Prop where
  stages : (s.running ++ done ++ joined).Perm tasks
  ended : s.ended = done.map (fun t ↦ (t.number, ending timeout t.worker))
  pending : s.pending.Perm ((s.running ++ done).map (fun t ↦ (t.number, t.worker.id)))
  outcomes : s.outcomes = joined.map (fun t ↦ (t.worker.id, outcome timeout t.worker))
  cancelled : ∀ n, n ∈ s.cancelled ↔
    ∃ t ∈ done ++ joined, t.number = n ∧ inTime timeout t.worker = false
  early : ∀ t ∈ s.running, s.clock ≤ spent timeout t.worker
  late : ∀ t ∈ done ++ joined, spent timeout t.worker ≤ s.clock
  reached : s.clock = 0 ∨ ∃ t ∈ tasks, s.clock ≤ spent timeout t.worker

variable {timeout : Duration} {tasks done joined : List Task} {s s' : Race}

theorem staged_start (timeout : Duration) (tasks : List Task) :
    Staged timeout tasks [] [] (start tasks) where
  stages := by simp [start]
  ended := rfl
  pending := by simp [start]
  outcomes := rfl
  cancelled n := by simp [start]
  early t _ := Nat.zero_le _
  late t ht := by simp at ht
  reached := .inl rfl

namespace Staged

variable (h : Staged timeout tasks done joined s) (hnumbers : (tasks.map Task.number).Nodup)

include h hnumbers

theorem nodup_numbers : ((s.running ++ done).map Task.number).Nodup := by
  have hall := (h.stages.map Task.number).nodup_iff.2 hnumbers
  rw [List.map_append] at hall
  exact hall.of_append_left

theorem finish {t : Task} (ht : t ∈ s.running) (hspent : spent timeout t.worker ≤ s.clock)
    {cancelled : List Nat}
    (hcancelled : ∀ n, n ∈ cancelled ↔
      n ∈ s.cancelled ∨ t.number = n ∧ inTime timeout t.worker = false) :
    Staged timeout tasks (done ++ [t]) joined
      { s.finish t.number (ending timeout t.worker) with cancelled := cancelled } := by
  have hrunning : (s.running.map Task.number).Nodup := by
    have hboth := h.nodup_numbers hnumbers
    rw [List.map_append] at hboth
    exact hboth.of_append_left
  have hmoved : (s.running.filter (fun b ↦ b.number != t.number) ++ (done ++ [t])).Perm
      (s.running ++ done) := by
    rw [← List.append_assoc]
    refine (List.perm_append_singleton t _).trans ?_
    exact ((perm_cons_filter_ne hrunning ht).append_right done).symm
  constructor
  · exact (hmoved.append_right joined).trans h.stages
  · simp [Race.finish, h.ended]
  · exact h.pending.trans (hmoved.symm.map _)
  · exact h.outcomes
  · intro n
    rw [hcancelled, h.cancelled]
    simp only [List.mem_append, List.mem_singleton]
    grind
  · intro t' ht'
    exact h.early t' (List.mem_filter.1 ht').1
  · intro t' ht'
    simp only [List.mem_append, List.mem_singleton] at ht'
    rcases ht' with (ht' | rfl) | ht'
    · exact h.late t' (List.mem_append_left _ ht')
    · exact hspent
    · exact h.late t' (List.mem_append_right _ ht')
  · exact h.reached

theorem join {number : Nat} {e : Ending} (he : (number, e) ∈ s.ended) :
    ∃ done' joined', Staged timeout tasks done' joined' (s.join number e) := by
  rw [h.ended] at he
  obtain ⟨t, ht, heq⟩ := List.mem_map.1 he
  obtain ⟨rfl, rfl⟩ := Prod.ext_iff.1 heq
  have hnodup := h.nodup_numbers hnumbers
  have hdone : (done.map Task.number).Nodup := by
    rw [List.map_append] at hnodup
    exact hnodup.of_append_right
  have hmoved := perm_cons_filter_ne hdone ht
  -- The numbers are distinct, so the id that was kept for this one is that of the task's worker.
  have hlookup : s.pending.lookup t.number = some t.worker.id := by
    have hkeys : (s.pending.map Prod.fst).Nodup := by
      refine (h.pending.map Prod.fst).nodup_iff.2 ?_
      rw [List.map_map]
      exact hnodup
    rw [Dict.lookup_eq_some_iff_mem hkeys, h.pending.mem_iff]
    exact List.mem_map.2 ⟨t, List.mem_append_right _ ht, rfl⟩
  have hstays : s.running.filter (fun b ↦ b.number != t.number) = s.running := by
    refine List.filter_eq_self.2 (fun b hb ↦ ?_)
    rw [List.map_append, List.nodup_append] at hnodup
    exact bne_iff_ne.2 (hnodup.2.2 b.number (List.mem_map_of_mem hb) t.number
      (List.mem_map_of_mem ht))
  refine ⟨done.filter (fun b ↦ b.number != t.number), joined ++ [t], ?_⟩
  have hall : (done.filter (fun b ↦ b.number != t.number) ++ (joined ++ [t])).Perm
      (done ++ joined) := by
    rw [← List.append_assoc]
    exact (List.perm_append_singleton t _).trans (hmoved.append_right joined).symm
  constructor
  · have hstages := h.stages
    rw [List.append_assoc] at hstages ⊢
    exact (hall.append_left s.running).trans hstages
  · simp only [Race.join, h.ended, List.filter_map]
    rfl
  · have hfilter := h.pending.filter (fun x ↦ x.1 != t.number)
    simp only [List.filter_map, List.filter_append, Function.comp_def, hstays] at hfilter
    simpa only [Race.join, List.map_append] using hfilter
  · simp [Race.join, h.outcomes, hlookup, outcome_ending]
  · intro n
    simp only [Race.join, h.cancelled, hall.mem_iff]
  · exact h.early
  · intro t' ht'
    exact h.late t' (hall.mem_iff.1 ht')
  · exact h.reached

theorem step (hstep : Step timeout s s') :
    ∃ done' joined', Staged timeout tasks done' joined' s' := by
  cases hstep with
  | ends t e ht he =>
    have hclock := (h.early t ht).trans (spent_le_ticks timeout t.worker)
    obtain ⟨hspent, rfl, hin⟩ := spent_le_of_ending? he hclock
    refine ⟨done ++ [t], joined, h.finish hnumbers ht hspent (fun n ↦ ?_)⟩
    simp [hin]
  | expires t ht hnone hdeadline =>
    have hclock := (h.early t ht).trans (spent_le_ticks timeout t.worker)
    -- No call runs on past its end, so the clock stands exactly at the deadline.
    have hticks : s.clock = timeout.ticks := by omega
    rw [hticks] at hnone
    have hending : ending timeout t.worker = .returned (.error (.cancelled timeout)) := by
      rw [ending, hnone]
      rfl
    have hlate : inTime timeout t.worker = false := by
      rw [← isSome_ending?_ticks, hnone]
      rfl
    refine ⟨done ++ [t], joined, ?_⟩
    rw [← hending]
    refine h.finish hnumbers ht (hticks ▸ spent_le_ticks timeout t.worker) (fun n ↦ ?_)
    simp only [Race.finish, List.mem_append, List.mem_singleton, hlate, and_true]
    exact or_congr_right eq_comm
  | joins number e he => exact h.join hnumbers he
  | waits hrunning hnone hearly =>
    have hlater : ∀ t ∈ s.running, s.clock + 1 ≤ spent timeout t.worker :=
      fun t ht ↦ lt_spent_of_ending? (hnone t ht) hearly
    refine ⟨done, joined, h.stages, h.ended, h.pending, h.outcomes, h.cancelled, hlater, ?_, ?_⟩
    · intro t ht
      have hlate := h.late t ht
      simp only
      omega
    · obtain ⟨t, ht⟩ := List.exists_mem_of_ne_nil _ hrunning
      refine .inr ⟨t, h.stages.subset ?_, hlater t ht⟩
      exact List.mem_append_left _ (List.mem_append_left _ ht)

end Staged

theorem staged_of_run (hnumbers : (tasks.map Task.number).Nodup) {n : Nat}
    (h : Run timeout n (start tasks) s) : ∃ done joined, Staged timeout tasks done joined s := by
  generalize hs : start tasks = s₀ at h
  induction h with
  | refl s => exact ⟨[], [], hs ▸ staged_start timeout tasks⟩
  | step run hstep ih =>
    obtain ⟨done, joined, h⟩ := ih hs
    exact h.step hnumbers hstep

end Race

end PodInventory.FanOut
