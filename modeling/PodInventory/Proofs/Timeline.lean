import PodInventory.Proofs.Interleaving
import PodInventory.Timeline

namespace PodInventory

/-- The answer of a store that a reply brings. -/
def Reply.answer? : Reply → Option Answer
  | .answer a => some a
  | .synced _ result => some (.reconciled result)
  | _ => none

/-- Whether a step is one that clients of a store take, and not one that meddles with the store. -/
def Step.Ordinary : Step → Prop
  | .create _ | .apply _ _ | .reconcile _ _ | .sync _ _ _ _ | .delete _ => True
  | .find _ | .findNamed _ | .list | .subscribe _ | .events _ => True
  | _ => False

/-- An ordinary step that is no sync is one operation, or leaves the store alone. -/
theorem Service.step_cases (s : Service) {step : Step} (h : step.Ordinary)
    (hsync : ∀ pod workers timeout audited, step ≠ .sync pod workers timeout audited) :
    (∃ o : Operation, (s.step step).1.answer? = some (o.perform s.store).answer ∧
      (s.step step).2.store = (o.perform s.store).store) ∨
    ((s.step step).1.answer? = none ∧ (s.step step).2.store = s.store) := by
  cases step with
  | create pod => exact .inl ⟨.create s.nextId s.nextTime pod, rfl, rfl⟩
  | apply pod u => exact .inl ⟨.apply s.nextTime (s.resolve pod) u, rfl, rfl⟩
  | reconcile pod result =>
    simp only [Service.step]
    cases s.latest? pod with
    | none => exact .inr ⟨rfl, rfl⟩
    | some record => exact .inl ⟨.reconcile s.nextTime record result, rfl, rfl⟩
  | sync pod workers timeout audited => exact absurd rfl (hsync pod workers timeout audited)
  | delete pod => exact .inl ⟨.delete (s.resolve pod), rfl, rfl⟩
  | find pod => exact .inl ⟨.find (s.resolve pod), rfl, rfl⟩
  | findNamed name => exact .inl ⟨.findNamed name, rfl, rfl⟩
  | list => exact .inl ⟨.list, rfl, rfl⟩
  | subscribe name => exact .inr ⟨rfl, rfl⟩
  | events name =>
    simp only [Service.step, Service.drain]
    cases s.subscribers.get? name with
    | none => exact .inr ⟨rfl, rfl⟩
    | some mailbox => exact .inr ⟨rfl, rfl⟩
  | _ => exact h.elim

namespace Timeline

/-- Where moves lead: to the store of a service, with these syncs under way, and to the answers
among its replies. -/
structure Reaches (start : Outage Backing) (moves : List Move) (s : Service)
    (underway : List Pending) (replies : List (Nat × Reply)) : Prop where
  store : ((Progress.idle start).after moves).store = s.store
  pending : ∀ e ∈ underway, ((Progress.idle start).after moves).pending e.position = some e.sync
  free : ∀ client ∉ underway.map Pending.position,
    ((Progress.idle start).after moves).pending client = none
  positions : (underway.map Pending.position).Nodup
  answers : replies.reverse.filterMap (fun r ↦ r.2.answer?) =
    ((Progress.idle start).run 0 moves).answers.map Prod.snd

namespace Reaches

variable {start : Outage Backing} {moves : List Move} {s s' : Service} {underway : List Pending}
  {replies : List (Nat × Reply)}

theorem perm (h : Reaches start moves s underway replies) {underway' : List Pending}
    (hperm : underway.Perm underway') : Reaches start moves s underway' replies where
  store := h.store
  pending e he := h.pending e (hperm.mem_iff.2 he)
  free client hclient := h.free client (mt (hperm.map _).mem_iff.1 hclient)
  positions := (hperm.map _).nodup_iff.1 h.positions
  answers := h.answers

theorem silent (h : Reaches start moves s underway replies) (hstore : s'.store = s.store)
    (position : Nat) {r : Reply} (hr : r.answer? = none) :
    Reaches start moves s' underway ((position, r) :: replies) where
  store := h.store.trans hstore.symm
  pending := h.pending
  free := h.free
  positions := h.positions
  answers := by
    rw [List.reverse_cons, List.filterMap_append, h.answers]
    simp [hr]

theorem answers_append (h : Reaches start moves s underway replies) (position : Nat) {m : Move}
    {o : Operation} {r : Reply}
    (ho : m.operation? ((Progress.idle start).after moves).pending = some o)
    (hr : r.answer? = some (o.perform s.store).answer) :
    ((position, r) :: replies).reverse.filterMap (fun r ↦ r.2.answer?) =
      ((Progress.idle start).run 0 (moves ++ [m])).answers.map Prod.snd := by
  rw [List.reverse_cons, List.filterMap_append, h.answers, Progress.run_append,
    Progress.answers_run_singleton, ho, h.store, List.map_append]
  simp [hr]

theorem perform (h : Reaches start moves s underway replies) (o : Operation)
    (hstore : s'.store = (o.perform s.store).store) (position : Nat) {r : Reply}
    (hr : r.answer? = some (o.perform s.store).answer) :
    Reaches start (moves ++ [.perform o]) s' underway ((position, r) :: replies) where
  store := by
    rw [Progress.after_concat, hstore, ← h.store]
    rfl
  pending e he := by
    rw [Progress.after_concat]
    exact h.pending e he
  free client hclient := by
    rw [Progress.after_concat]
    exact h.free client hclient
  positions := h.positions
  answers := h.answers_append position rfl hr

/-- A sync begins as a client of its own. -/
theorem begin (h : Reaches start moves s underway replies) (e : Pending) (record : PodRecord)
    (a : Attempt) (he : e.sync = .attempt record a) (hstore : s'.store = s.store)
    (hfree : e.position ∉ underway.map Pending.position) :
    Reaches start (moves ++ [.start e.position record a]) s' (e :: underway) replies where
  store := by
    rw [Progress.after_concat, hstore, ← h.store]
    rfl
  pending e' he' := by
    rw [Progress.after_concat]
    simp only [Progress.step, Move.next]
    rcases List.mem_cons.1 he' with rfl | he'
    · rw [Function.update_self, h.free _ hfree, he]
      rfl
    · have hne : e'.position ≠ e.position :=
        fun heq ↦ hfree (heq ▸ List.mem_map_of_mem he')
      rw [Function.update_of_ne hne]
      exact h.pending e' he'
  free client hclient := by
    rw [List.map_cons, List.mem_cons, not_or] at hclient
    rw [Progress.after_concat]
    simp only [Progress.step, Move.next]
    rw [Function.update_of_ne hclient.1]
    exact h.free client hclient.2
  positions := List.nodup_cons.2 ⟨hfree, h.positions⟩
  answers := by
    rw [Progress.run_append, Progress.answers_run_singleton, h.answers]
    simp [Move.operation?]

theorem commit {e : Pending} (h : Reaches start moves s (e :: underway) replies) :
    Reaches start (moves ++ [.write e.position s.nextTime]) (s.commit e.sync e.audited).2 underway
      ((e.position, (s.commit e.sync e.audited).1) :: replies) := by
  obtain ⟨hfree, hpositions⟩ := List.nodup_cons.1 h.positions
  have hpending := h.pending e List.mem_cons_self
  have ho : (Move.write e.position s.nextTime).operation?
      ((Progress.idle start).after moves).pending = some (.commit s.nextTime e.sync) := by
    rw [Move.operation?, hpending, Option.map_some]
  have hreply : (s.commit e.sync e.audited).1.answer? =
      some ((Operation.commit s.nextTime e.sync).perform s.store).answer := rfl
  exact {
    store := by
      rw [Progress.after_concat, Progress.step, ho, h.store]
      rfl
    pending := fun e' he' ↦ by
      have hne : e'.position ≠ e.position :=
        fun heq ↦ hfree (heq ▸ List.mem_map_of_mem he')
      rw [Progress.after_concat]
      simp only [Progress.step, Move.next]
      rw [Function.update_of_ne hne]
      exact h.pending e' (List.mem_cons_of_mem e he')
    free := fun client hclient ↦ by
      rw [Progress.after_concat]
      simp only [Progress.step, Move.next]
      by_cases hc : client = e.position
      · rw [hc, Function.update_self]
      · rw [Function.update_of_ne hc]
        exact h.free client (by simpa [hc] using hclient)
    positions := hpositions
    answers := h.answers_append e.position ho hreply }

end Reaches

theorem Pending.insert_perm (e : Pending) (l : List Pending) : (e.insert l).Perm (e :: l) := by
  induction l with
  | nil => exact .refl _
  | cons e' rest ih =>
    simp only [insert]
    split
    · exact .refl _
    · exact (ih.cons e').trans (.swap e e' rest)

/-- What a client brings whose workers act the same whatever they are asked. -/
def attemptOf (workers : List Worker) (timeout : Duration) : Attempt :=
  ⟨workers.map (fun w ↦ ⟨w.id, fun _ ↦ (w.delay, w.action)⟩), timeout⟩

theorem attempt_attemptOf (pod : PodRecord) (workers : List Worker) (timeout : Duration) :
    Sync.attempt pod (attemptOf workers timeout) = .start pod workers timeout := by
  have hworkers : (attemptOf workers timeout).workers pod = workers := by
    rw [Attempt.workers, attemptOf, List.map_map]
    exact List.map_id workers
  rw [Sync.attempt, hworkers]
  rfl

namespace Progress

variable {start : Outage Backing} {moves : List Move} {q : Progress}

theorem foldl_commit (due underway : List Pending)
    (h : Reaches start moves q.service (due ++ underway) q.replies) :
    (∃ moves', Reaches start moves' (due.foldl commit q).service underway
      (due.foldl commit q).replies) ∧ (due.foldl commit q).pending = q.pending := by
  induction due generalizing q moves with
  | nil => exact ⟨⟨moves, h⟩, rfl⟩
  | cons e due ih => exact ih h.commit

theorem reaches_advance (h : Reaches start moves q.service q.pending q.replies) (time : Nat) :
    (∃ moves', Reaches start moves' (q.advance time).service (q.advance time).pending
      (q.advance time).replies) ∧ (q.advance time).pending.Sublist q.pending := by
  have hsplit := List.takeWhile_append_dropWhile (p := fun e : Pending ↦ decide (e.time < time))
    (l := q.pending)
  rw [← hsplit] at h
  obtain ⟨hreaches, hpending⟩ := foldl_commit
    (q := { q with pending := q.pending.dropWhile (fun e ↦ e.time < time) }) _ _ h
  have hrest : (q.advance time).pending = q.pending.dropWhile (fun e ↦ e.time < time) := hpending
  rw [hrest]
  exact ⟨hreaches, List.dropWhile_sublist _⟩

theorem reaches_finish (h : Reaches start moves q.service q.pending q.replies) :
    ∃ moves', Reaches start moves' q.finish.service [] q.finish.replies := by
  rw [← List.append_nil q.pending] at h
  exact (foldl_commit (q := { q with pending := [] }) q.pending [] h).1

theorem start_of_not_sync (position : Nat) {t : Timed}
    (hsync : ∀ pod workers timeout audited, t.step ≠ .sync pod workers timeout audited) :
    q.start position t = q.reply position (q.service.step t.step) := by
  unfold Progress.start
  split
  · rename_i pod workers timeout audited hstep
    exact absurd hstep (hsync pod workers timeout audited)
  · rfl

theorem reaches_sync (h : Reaches start moves q.service q.pending q.replies) {position : Nat}
    (hfree : position ∉ q.pending.map Pending.position) (time : Nat) (pod : String)
    (workers : List Worker) (timeout : Duration) (audited : Bool) :
    let q' := q.start position ⟨time, .sync pod workers timeout audited⟩
    (∃ moves', Reaches start moves' q'.service q'.pending q'.replies) ∧
      ∀ e ∈ q'.pending, e.position = position ∨ e ∈ q.pending := by
  simp only [Progress.start]
  cases q.service.latest? pod with
  | none => exact ⟨⟨moves, h.silent rfl position rfl⟩, fun e he ↦ .inr he⟩
  | some record =>
    let e : Pending := ⟨time + (Sync.start record workers timeout).elapsed, position,
      .start record workers timeout, audited⟩
    have hbegun : Reaches start (moves ++ [.start position record (attemptOf workers timeout)])
        (q.service.begin (.start record workers timeout)) (e :: q.pending) q.replies :=
      h.begin e record _ (attempt_attemptOf record workers timeout).symm rfl hfree
    simp only
    split
    · refine ⟨⟨_, hbegun.perm (Pending.insert_perm _ _).symm⟩, fun e he ↦ ?_⟩
      rcases List.mem_cons.1 ((Pending.insert_perm _ _).mem_iff.1 he) with rfl | he
      · exact .inl rfl
      · exact .inr he
    · exact ⟨⟨_, hbegun.commit⟩, fun e he ↦ .inr he⟩

theorem reaches_start (h : Reaches start moves q.service q.pending q.replies) {position : Nat}
    (hfree : position ∉ q.pending.map Pending.position) {t : Timed} (ht : t.step.Ordinary) :
    (∃ moves', Reaches start moves' (q.start position t).service (q.start position t).pending
      (q.start position t).replies) ∧
    ∀ e ∈ (q.start position t).pending, e.position = position ∨ e ∈ q.pending := by
  by_cases hsync : ∃ pod workers timeout audited, t.step = .sync pod workers timeout audited
  · obtain ⟨time, step⟩ := t
    obtain ⟨pod, workers, timeout, audited, rfl⟩ := hsync
    exact reaches_sync h hfree time pod workers timeout audited
  · have hother : ∀ pod workers timeout audited, t.step ≠ .sync pod workers timeout audited :=
      fun pod workers timeout audited heq ↦ hsync ⟨pod, workers, timeout, audited, heq⟩
    rw [start_of_not_sync position hother]
    refine ⟨?_, fun e he ↦ .inr he⟩
    rcases q.service.step_cases ht hother with ⟨o, hanswer, hstore⟩ | ⟨hnone, hstore⟩
    · exact ⟨_, h.perform o hstore position hanswer⟩
    · exact ⟨moves, h.silent hstore position hnone⟩

theorem reaches_foldl (ordered : List (Nat × Timed))
    (h : Reaches start moves q.service q.pending q.replies)
    (hordinary : ∀ e ∈ ordered, e.2.step.Ordinary) (hnodup : (ordered.map Prod.fst).Nodup)
    (hfree : ∀ e ∈ ordered, e.1 ∉ q.pending.map Pending.position) :
    let q' := ordered.foldl (fun (q : Progress) e ↦ (q.advance e.2.time).start e.1 e.2) q
    ∃ moves', Reaches start moves' q'.service q'.pending q'.replies := by
  induction ordered generalizing q moves with
  | nil => exact ⟨moves, h⟩
  | cons e rest ih =>
    obtain ⟨hnew, hrest⟩ := List.nodup_cons.1 hnodup
    obtain ⟨⟨moves₁, hadvanced⟩, hsub⟩ := reaches_advance h e.2.time
    have hsub' := hsub.map Pending.position
    obtain ⟨⟨moves₂, hstarted⟩, hpending⟩ := reaches_start hadvanced
      (fun hmem ↦ hfree e List.mem_cons_self (hsub'.subset hmem))
      (hordinary e List.mem_cons_self)
    refine ih hstarted (fun e' he' ↦ hordinary e' (List.mem_cons_of_mem e he')) hrest ?_
    -- the steps to come have other positions than the syncs under way
    intro e' he' hmem
    obtain ⟨entry, hentry, heq⟩ := List.mem_map.1 hmem
    rcases hpending entry hentry with hposition | hold
    · exact hnew (List.mem_map.2 ⟨e', he', heq.symm.trans hposition⟩)
    · exact hfree e' (List.mem_cons_of_mem e he')
        (hsub'.subset (List.mem_map.2 ⟨entry, hold, heq⟩))

end Progress

theorem nodup_positioned (steps : List Timed) : ((positioned steps).map Prod.fst).Nodup := by
  rw [positioned, List.map_fst_zip (by simp)]
  exact List.nodup_range

/-- A timeline of ordinary steps is one of the runs that their clients can come to: it leaves the
same store, and its replies bring the same answers. -/
theorem run_reaches (s : Service) (steps : List Timed) (h : ∀ t ∈ steps, t.step.Ordinary) :
    ∃ moves, (run s steps).2.store = ((Progress.idle s.store).run 0 moves).store ∧
      ((run s steps).1.filterMap Reply.answer?).Perm
        (((Progress.idle s.store).run 0 moves).answers.map Prod.snd) := by
  have hperm : ((positioned steps).mergeSort (fun a b ↦ a.2.time ≤ b.2.time)).Perm
      (positioned steps) := List.mergeSort_perm _ _
  have hidle : Reaches s.store [] s [] [] :=
    ⟨rfl, fun _ he ↦ (nomatch he), fun _ _ ↦ rfl, List.nodup_nil, rfl⟩
  obtain ⟨moves₁, hsteps⟩ := Progress.reaches_foldl (q := ⟨s, [], []⟩)
    ((positioned steps).mergeSort (fun a b ↦ a.2.time ≤ b.2.time)) hidle
    (fun e he ↦ h e.2 (List.of_mem_zip (hperm.mem_iff.1 he)).2)
    ((hperm.map _).nodup_iff.2 (nodup_positioned steps)) (fun _ _ hmem ↦ nomatch hmem)
  obtain ⟨moves, hfinished⟩ := Progress.reaches_finish hsteps
  refine ⟨moves, ((Progress.run_store _ 0 moves).trans hfinished.store).symm, ?_⟩
  rw [← hfinished.answers, run, List.filterMap_map]
  exact ((List.mergeSort_perm _ _).trans (List.reverse_perm _).symm).filterMap _

end Timeline

end PodInventory
