import Mathlib.Data.List.Dedup
import Mathlib.Data.List.Forall2
import Mathlib.Logic.Function.Basic
import PodInventory.Proofs.Sync
import PodInventory.Service

namespace PodInventory

open Discovery

section Apply

variable {time : String} {id : PodId} {u : Update} {r : PodRecord}

theorem Backing.exists_of_apply {b : Backing} (h : (PodStore.apply b time id u).answer = .ok r) :
    ∃ old : PodRecord, r = old.apply time u := by
  have htable {t : TableStore} (ht : (t.apply time id u).answer = .ok r) :
      ∃ old : PodRecord, r = old.apply time u := by
    obtain ⟨old, -, hr, -⟩ := t.apply_of_ok ht
    exact ⟨old, hr⟩
  cases b with
  | memory k =>
    obtain ⟨old, -, hr, -⟩ := k.apply_of_ok h
    exact ⟨old, hr⟩
  | transient t => exact htable h
  | durable path tables guards => exact htable h

/-- Of any store whatsoever, an update that succeeds hands out the routes that it was given. -/
theorem Outage.routable_of_apply {o : Outage Backing}
    (h : (PodStore.apply o time id u).answer = .ok r) : r.routable = u.routable := by
  obtain ⟨b, error⟩ := o
  cases error with
  | some e => cases h
  | none =>
    obtain ⟨old, rfl⟩ := Backing.exists_of_apply h
    exact (old.apply_content time).2

end Apply

/-- A call of a sync. The record that it is handed need not be the one that is stored. -/
structure SyncCall where
  pod : PodRecord
  workers : List Worker
  timeout : Duration

namespace SyncCall

def sync (call : SyncCall) : Sync := .start call.pod call.workers call.timeout

def Succeeds (call : SyncCall) (id : WorkerId) : Prop :=
  ∃ snapshot, Answers .pod call.timeout.ticks call.workers id snapshot

/-- Lists of the workers that answer a sync and of those that do not. -/
structure Parts (call : SyncCall) (routable unroutable : List WorkerId) : Prop where
  succeeded : ∀ id, id ∈ routable ↔ call.Succeeds id
  failed : ∀ id, id ∈ unroutable ↔ (∃ w ∈ call.workers, w.id = id) ∧ ¬ call.Succeeds id
  ascending : routable.Pairwise (· < ·) ∧ unroutable.Pairwise (· < ·)
  once : (routable ++ unroutable).Perm (call.workers.map Worker.id).dedup

/-- The entry of the audit trail that belongs to the reply to a sync. -/
inductive Logged (call : SyncCall) : Reply → AuditEntry → Prop
  | synced (record : PodRecord) (routable unroutable : List WorkerId)
      (hparts : call.Parts routable unroutable) :
      Logged call (.synced call.sync (.ok record))
        ⟨record.id, .info, "Pod synced: " ++ record.name ++ " (" ++ record.id ++ ") version "
          ++ shown record.version.toNat ++ ", routable via " ++ Text.quotedList routable
          ++ ", unroutable via " ++ Text.quotedList unroutable⟩
  | failed (e : SyncError) :
      Logged call (.synced call.sync (.error e))
        ⟨call.pod.id, .warn, "Pod sync failed: " ++ call.pod.name ++ " (" ++ call.pod.id ++ "): "
          ++ e.text⟩

end SyncCall

theorem PodRecord.mem_routableWorkers_iff {r : PodRecord} {id : WorkerId} :
    id ∈ r.routableWorkers ↔ r.routable.get? id = some true := by
  simp [routableWorkers, Dict.mem_keys_iff, Dict.get?_filter, Option.filter_eq_some_iff]

theorem PodRecord.mem_unroutableWorkers_iff {r : PodRecord} {id : WorkerId} :
    id ∈ r.unroutableWorkers ↔ r.routable.get? id = some false := by
  simp [unroutableWorkers, Dict.mem_keys_iff, Dict.get?_filter, Option.filter_eq_some_iff]

namespace SyncCall

variable {call : SyncCall}

theorem Succeeds.mem {id : WorkerId} (h : call.Succeeds id) : ∃ w ∈ call.workers, w.id = id := by
  obtain ⟨snapshot, w, _, _, hfind, -⟩ := h
  have hid := List.find?_some hfind
  exact ⟨w, List.mem_of_find?_eq_some hfind, eq_of_beq hid⟩

theorem Parts.of_ascending {routable unroutable : List WorkerId}
    (hroutable : ∀ id, id ∈ routable ↔ call.Succeeds id)
    (hunroutable : ∀ id, id ∈ unroutable ↔
      (∃ w ∈ call.workers, w.id = id) ∧ ¬ call.Succeeds id)
    (hr : routable.Pairwise (· < ·)) (hu : unroutable.Pairwise (· < ·)) :
    call.Parts routable unroutable where
  succeeded := hroutable
  failed := hunroutable
  ascending := ⟨hr, hu⟩
  once := by
    have hnodup : (routable ++ unroutable).Nodup := by
      refine List.nodup_append.2 ⟨hr.imp ne_of_lt, hu.imp ne_of_lt, ?_⟩
      rintro id hid _ hid' rfl
      exact ((hunroutable id).1 hid').2 ((hroutable id).1 hid)
    refine (List.perm_ext_iff_of_nodup hnodup (List.nodup_dedup _)).2 (fun id ↦ ?_)
    rw [List.mem_append, hroutable, hunroutable, List.mem_dedup, List.mem_map]
    constructor
    · intro hor
      rcases hor with hid | hid
      · exact hid.mem
      · exact hid.1
    · intro hid
      by_cases h : call.Succeeds id
      · exact .inl h
      · exact .inr ⟨hid, h⟩

theorem parts_of_yields {r : PodRecord} {u : Update}
    (h : Yields call.timeout.ticks call.workers u) (hr : r.routable = u.routable) :
    call.Parts r.routableWorkers r.unroutableWorkers := by
  refine .of_ascending (fun id ↦ ?_) (fun id ↦ ?_) ?_ ?_
  · rw [PodRecord.mem_routableWorkers_iff, hr]
    exact h.routable id
  · rw [PodRecord.mem_unroutableWorkers_iff, hr]
    exact h.unroutable id
  · exact List.pairwise_map.2 (Dict.ascending _)
  · exact List.pairwise_map.2 (Dict.ascending _)

theorem yields_of_plan {u : Update} (h : call.sync.plan = .ok u) :
    Yields call.timeout.ticks call.workers u := by
  rw [sync] at h
  by_cases hkind : ∀ c ∈ call.pod.kind.toList, Text.isBlank c = true
  · rw [Sync.plan, Sync.found_of_blank hkind] at h
    cases h
  · by_cases hsomebody : ∃ id, call.Succeeds id
    · obtain ⟨u', hyields, hplan⟩ := Sync.plan_of_somebody hkind hsomebody
      cases hplan.symm.trans h
      exact hyields
    · have hnobody : ∀ id snapshot,
          ¬ Answers .pod call.timeout.ticks call.workers id snapshot :=
        fun id snapshot hs ↦ hsomebody ⟨id, snapshot, hs⟩
      obtain ⟨causes, -, hplan⟩ := Sync.plan_of_nobody hkind hnobody
      cases hplan.symm.trans h

theorem logged_commit (call : SyncCall) (o : Outage Backing) (time : String) :
    ∃ entry, Sync.audit true call.pod (call.sync.commit o time).answer = [entry] ∧
      call.Logged (.synced call.sync (call.sync.commit o time).answer) entry := by
  cases hanswer : (call.sync.commit o time).answer with
  | error e => exact ⟨_, rfl, .failed e⟩
  | ok record =>
    refine ⟨_, rfl, .synced record _ _ ?_⟩
    obtain ⟨hwrite, -, -⟩ := call.sync.commit_eq o time
    rw [hanswer] at hwrite
    cases hplan : call.sync.plan with
    | error e =>
      rw [hplan] at hwrite
      cases hwrite
    | ok u =>
      rw [hplan] at hwrite
      have happly : (PodStore.apply o time call.sync.pod.id u).answer = .ok record := by
        have hu : (Except.ok u : Except SyncError Update).toOption = some u := rfl
        refine eq_ok_of_toOption ?_
        rw [← (Reconciled.write_of_some o time call.sync.pod.id hu).1, ← hwrite]
        rfl
      exact parts_of_yields (yields_of_plan hplan) (Outage.routable_of_apply happly)

end SyncCall

/-- What clients do with a service while syncs are under way. A client has one under way at most. -/
inductive Visit
  | begin (client : Nat) (call : SyncCall)
  | finish (client : Nat)
  | step (step : Step)

def Step.through (audited : Bool) : Step → Step
  | .sync pod workers timeout _ => .sync pod workers timeout audited
  | step => step

/-- The sync that a step is as a whole. -/
def Step.call? (s : Service) : Step → Option SyncCall
  | .sync pod workers timeout _ => (s.latest? pod).map (⟨·, workers, timeout⟩)
  | _ => none

section Step

variable {step : Step}
  (h : ∀ pod workers timeout audited, step ≠ .sync pod workers timeout audited)

include h

theorem Step.through_of_ne (audited : Bool) : step.through audited = step := by
  cases step with
  | sync pod workers timeout audited => exact absurd rfl (h pod workers timeout audited)
  | _ => rfl

theorem Step.call?_of_ne (s : Service) : step.call? s = none := by
  cases step with
  | sync pod workers timeout audited => exact absurd rfl (h pod workers timeout audited)
  | _ => rfl

end Step

/-- A service with the syncs under way, and the replies so far. A reply to a sync stands beside the
call that it ends. -/
structure Visited where
  service : Service
  underway : Nat → Option SyncCall
  replies : List (Option SyncCall × Reply)

namespace Visited

def start (s : Service) : Visited := ⟨s, fun _ ↦ none, []⟩

def reply (v : Visited) (call : Option SyncCall) (r : Reply × Service) : Visited :=
  { v with service := r.2, replies := v.replies ++ [(call, r.1)] }

def visit (audited : Bool) (v : Visited) : Visit → Visited
  | .begin client call =>
    match v.underway client with
    | some _ => v
    | none =>
      { v with
        service := v.service.begin call.sync
        underway := Function.update v.underway client (some call) }
  | .finish client =>
    match v.underway client with
    | none => v
    | some call =>
      reply { v with underway := Function.update v.underway client none } (some call)
        (v.service.commit call.sync audited)
  | .step step => v.reply (step.call? v.service) (v.service.step (step.through audited))

def run (audited : Bool) (s : Service) (visits : List Visit) : Visited :=
  visits.foldl (visit audited) (start s)

/-- The syncs that have ended, with what they came to, in the order of their ends. -/
def finished (v : Visited) : List (SyncCall × Reply) :=
  v.replies.filterMap (fun r ↦ r.1.map (·, r.2))

def withTrail (v : Visited) (trail : List AuditEntry) : Visited :=
  { v with service := { v.service with trail } }

end Visited

namespace Service

variable (s : Service) (trail : List AuditEntry)

theorem createMany_withTrail (pod : NewPod) (first count : Nat) :
    ({ s with trail } : Service).createMany pod first count =
      ((s.createMany pod first count).1, { (s.createMany pod first count).2 with trail }) := by
  induction count generalizing s first with
  | zero => rfl
  | succ more ih =>
    have hcreate (p : NewPod) : ({ s with trail } : Service).create p =
        ((s.create p).1, { (s.create p).2 with trail }) := rfl
    rw [createMany, createMany, hcreate]
    cases s.create { pod with name := pod.name ++ shown first } with
    | mk answer s' =>
      cases answer with
      | record result =>
        cases result with
        | ok r => exact ih s' (first + 1)
        | error e => rfl
      | _ => rfl

/-- The trail is written and read by nothing but the ends of syncs. -/
theorem step_withTrail {step : Step}
    (hsync : ∀ pod workers timeout audited, step ≠ .sync pod workers timeout audited) :
    ({ s with trail } : Service).step step =
      ((s.step step).1, { (s.step step).2 with trail }) := by
  have hreplace (b : Option Backing) : ({ s with trail } : Service).replace b =
      ((s.replace b).1, { (s.replace b).2 with trail }) := by
    cases b <;> rfl
  cases step with
  | createMany count pod => exact s.createMany_withTrail trail pod 0 count
  | reconcile pod result =>
    have hlatest : ({ s with trail } : Service).latest? pod = s.latest? pod := rfl
    simp only [step, hlatest]
    cases s.latest? pod <;> rfl
  | sync pod workers timeout audited => exact absurd rfl (hsync pod workers timeout audited)
  | events name =>
    simp only [step, drain]
    cases s.subscribers.get? name <;> rfl
  | guard g => exact hreplace _
  | unguard => exact hreplace _
  | overwrite pod column cell => exact hreplace _
  | _ => rfl

theorem trail_step {step : Step}
    (hsync : ∀ pod workers timeout audited, step ≠ .sync pod workers timeout audited) :
    (s.step step).2.trail = s.trail := congrArg (·.2.trail) (s.step_withTrail s.trail hsync)

theorem commit_withTrail (call : SyncCall) (audited : Bool) :
    ({ s with trail } : Service).commit call.sync audited =
      (.synced call.sync (call.sync.commit s.store s.nextTime).answer,
        { (s.perform (.commit s.nextTime call.sync)).2 with
          trail := trail ++
            Sync.audit audited call.pod (call.sync.commit s.store s.nextTime).answer }) := by
  have hpod : call.sync.pod = call.pod := Sync.pod_start call.pod call.workers call.timeout
  rw [← hpod]
  rfl

end Service

namespace Visited

/-- An audited run of a service beside the same run that is not audited. They differ in the trail,
and what the one has added to it belongs to the syncs that have ended. -/
structure Beside (s : Service) (audited quiet : Visited) : Prop where
  quiet : quiet = audited.withTrail s.trail
  trail : ∃ entries, audited.service.trail = s.trail ++ entries ∧
    List.Forall₂ (fun f e ↦ f.1.Logged f.2 e) audited.finished entries

namespace Beside

variable {s : Service} {v v' : Visited}

theorem start (s : Service) : Beside s (.start s) (.start s) where
  quiet := rfl
  trail := ⟨[], (List.append_nil _).symm, .nil⟩

theorem begun (h : Beside s v v') (sync : Sync) :
    Beside s { v with service := v.service.begin sync }
      { v' with service := v'.service.begin sync } := by
  obtain ⟨rfl, htrail⟩ := h
  exact ⟨rfl, htrail⟩

theorem client (h : Beside s v v') (underway : Nat → Option SyncCall) :
    Beside s { v with underway } { v' with underway } := by
  obtain ⟨rfl, htrail⟩ := h
  exact ⟨rfl, htrail⟩

theorem silent (h : Beside s v v') (r : Reply) {after : Service}
    (htrail : after.trail = v.service.trail) :
    Beside s (v.reply none (r, after)) (v'.reply none (r, { after with trail := s.trail })) := by
  obtain ⟨rfl, entries, hentries, hlogged⟩ := h
  refine ⟨rfl, entries, htrail.trans hentries, ?_⟩
  have hfinished : (v.reply none (r, after)).finished = v.finished := by
    simp [finished, reply]
  rw [hfinished]
  exact hlogged

theorem ends (h : Beside s v v') (call : SyncCall) :
    Beside s (v.reply (some call) (v.service.commit call.sync true))
      (v'.reply (some call) (v'.service.commit call.sync false)) := by
  obtain ⟨rfl, entries, hentries, hlogged⟩ := h
  obtain ⟨entry, haudit, hentry⟩ := call.logged_commit v.service.store v.service.nextTime
  have hloud := v.service.commit_withTrail v.service.trail call true
  have hquiet := v.service.commit_withTrail s.trail call false
  have hnone (result : Except SyncError PodRecord) : Sync.audit false call.pod result = [] := rfl
  rw [haudit] at hloud
  rw [hnone, List.append_nil] at hquiet
  refine ⟨?_, entries ++ [entry], ?_, ?_⟩
  · rw [hloud]
    exact congrArg (reply (v.withTrail s.trail) (some call)) hquiet
  · rw [hloud, ← List.append_assoc, ← hentries]
    rfl
  · rw [hloud]
    have hfinished (r : Reply) (after : Service) :
        (v.reply (some call) (r, after)).finished = v.finished ++ [(call, r)] := by
      simp [finished, reply]
    rw [hfinished]
    exact List.rel_append hlogged (.cons hentry .nil)

theorem step (h : Beside s v v') (step : Step) :
    Beside s (v.visit true (.step step)) (v'.visit false (.step step)) := by
  have hquiet := h.quiet
  by_cases hsync : ∃ pod workers timeout audited, step = .sync pod workers timeout audited
  · obtain ⟨pod, workers, timeout, audited, rfl⟩ := hsync
    have hlatest : v'.service.latest? pod = v.service.latest? pod := by
      rw [hquiet]
      rfl
    simp only [visit, Step.through, Step.call?, Service.step, hlatest]
    cases v.service.latest? pod with
    | none =>
      -- a sync of a pod that was never handed out is refused before it begins
      rw [hquiet]
      exact (hquiet ▸ h).silent .unknown rfl
    | some record => exact (h.begun _).ends ⟨record, workers, timeout⟩
  · have hno (pod : String) (workers : List Worker) (timeout : Duration) (audited : Bool) :
        step ≠ .sync pod workers timeout audited :=
      fun heq ↦ hsync ⟨pod, workers, timeout, audited, heq⟩
    have hservice : v'.service.step step =
        ((v.service.step step).1, { (v.service.step step).2 with trail := s.trail }) := by
      rw [hquiet]
      exact v.service.step_withTrail s.trail hno
    simp only [visit, Step.through_of_ne hno, Step.call?_of_ne hno, hservice]
    exact h.silent (v.service.step step).1 (v.service.trail_step hno)

theorem visit (h : Beside s v v') (visit : Visit) :
    Beside s (v.visit true visit) (v'.visit false visit) := by
  have hunderway : v'.underway = v.underway := by
    rw [h.quiet]
    rfl
  cases visit with
  | begin client call =>
    simp only [Visited.visit, hunderway]
    cases v.underway client with
    | some _ => exact h
    | none => exact (h.begun call.sync).client _
  | finish client =>
    simp only [Visited.visit, hunderway]
    cases v.underway client with
    | none => exact h
    | some call => exact (h.client _).ends call
  | step step => exact h.step step

end Beside

end Visited

/-- Every sync that ends leaves one entry in the trail of a run, and nothing else does. The same run
without a trail replies the same and ends in the same state. -/
theorem audit_complete (s : Service) (visits : List Visit) :
    (∃ entries, (Visited.run true s visits).service.trail = s.trail ++ entries ∧
      List.Forall₂ (fun f e ↦ f.1.Logged f.2 e) (Visited.run true s visits).finished entries) ∧
    Visited.run false s visits = (Visited.run true s visits).withTrail s.trail := by
  -- the induction is on the visits still to come, from any two states that stand beside each other
  have hfold (visits : List Visit) {v v' : Visited} (h : Visited.Beside s v v') :
      Visited.Beside s (visits.foldl (Visited.visit true) v)
        (visits.foldl (Visited.visit false) v') := by
    induction visits generalizing v v' with
    | nil => exact h
    | cons visit visits ih => exact ih (h.visit visit)
  obtain ⟨hquiet, htrail⟩ := hfold visits (.start s)
  exact ⟨htrail, hquiet⟩

end PodInventory
