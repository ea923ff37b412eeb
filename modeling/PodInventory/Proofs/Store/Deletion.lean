import PodInventory.Proofs.Store.Course
import PodInventory.Proofs.Sync

namespace PodInventory

def Event.TellsOf (id : PodId) : Event → Prop
  | .created r => r.id = id
  | .synced old new => old.id = id ∨ new.id = id
  | .deleted id' => id' = id

/-- Only a creation puts a pod where there is none. -/
theorem Episode.Makes.absent {e : Episode} {id : PodId} {found : Option PodRecord}
    (h : e.Makes id none found) (hcreate : ∀ time pod, e ≠ .operate (.create id time pod)) :
    found = none := by
  cases h with
  | keeps => rfl
  | creates time pod => exact absurd rfl (hcreate time pod)
  | commits o time u old ho hold => cases hold
  | deletes => rfl
  | reopens => rfl

namespace Outage

theorem absent_of_blank {b : Backing} (hb : b.Blank) (error : Option StoreError)
    (before : List Episode) {e : Episode} {id : PodId}
    (habsent : PodStore.find ((through ⟨b, error⟩ before).follow e) id = .ok none)
    {later : List Episode} (hcreate : ∀ time pod, .operate (.create id time pod) ∉ later) :
    PodStore.find (through ⟨b, error⟩ (before ++ e :: later)) id = .ok none := by
  have hlater : ∀ e ∈ later, ∀ found found', found = none → e.Makes id found found' →
      found' = none := by
    intro e he found found' hnone hmakes
    subst hnone
    refine hmakes.absent (fun time pod heq ↦ ?_)
    subst heq
    exact hcreate time pod he
  obtain ⟨found, hfound, rfl⟩ := found_of_blank hb error before habsent (Q := (· = none)) rfl hlater
  exact hfound

variable {s : Outage Backing} {k : KeyedStore} {id : PodId}

section Absent

variable (hs : s.store.Sound) (habsent : PodStore.find s id = .ok none)

include hs habsent

theorem bounces_apply (time : String) (u : Update) : (Operation.apply time id u).Bounces s := by
  have hlawful : Lawful (fun o : Outage Backing ↦ o.store.Sound) := Outage.lawful Backing.lawful
  refine Operation.bounces_of_failed hlawful hs ?_
  cases hanswer : (PodStore.apply s time id u).answer with
  | error e => exact congrArg (fun a ↦ (Answer.record a).failed) hanswer
  | ok r =>
    obtain ⟨⟨old, hold, -⟩, -⟩ := hlawful.apply_ok hs hanswer
    cases hold.symm.trans habsent

theorem bounces_delete : (Operation.delete id).Bounces s := by
  have hlawful : Lawful (fun o : Outage Backing ↦ o.store.Sound) := Outage.lawful Backing.lawful
  refine Operation.bounces_of_failed hlawful hs ?_
  cases hanswer : (PodStore.delete s id).answer with
  | error e => exact congrArg (fun a ↦ (Answer.deleted a).failed) hanswer
  | ok r => exact absurd habsent (hlawful.delete_ok hs hanswer).1

/-- A reconciliation of a pod that is not there fails, whatever it has found. -/
theorem bounces_of_absent {o : Operation} {time : String} {plan : Except SyncError Update}
    (ho : o.plan? = some (time, id, plan)) : o.Bounces s := by
  cases plan with
  | error e => exact Operation.bounces_of_plan? s ho
  | ok u =>
    have hwrite : o.write? = some (.apply time id u) := Operation.write?_of_plan? ho
    obtain ⟨hfailed, -, hstore, hevents⟩ := Operation.perform_of_write? s hwrite
    have hbounces := bounces_apply hs habsent time u
    exact ⟨hfailed.trans hbounces.failed, hstore.trans hbounces.store,
      hevents.trans hbounces.events⟩

omit hs in
theorem conflict_of_absent (hready : s.Ready) {o : Operation} {time : String} {u : Update}
    (ho : o.plan? = some (time, id, .ok u)) :
    (o.perform s).answer = .reconciled (.error (.persistenceConflict ("pod " ++ id))) := by
  obtain ⟨hanswer, -⟩ := Operation.perform_of_plan? s ho
  have happly := hready.apply_of_missing time u habsent
  exact hanswer.trans (congrArg (fun a ↦ Answer.reconciled (a.mapError .ofStore)) happly)

end Absent

/-- No event tells of a pod that is not there, but of its creation. -/
theorem not_tellsOf (hs : s.store.Holds k) (habsent : PodStore.find s id = .ok none)
    {o : Operation} (hcreate : ∀ time pod, o ≠ .create id time pod) {e : Event}
    (he : e ∈ (o.perform s).events) : ¬ e.TellsOf id := by
  have hR := Outage.holding Backing.holding
  have hnone : k.find? id = none := Except.ok.inj ((hR.find hs id).symm.trans habsent)
  -- all events but that of a creation are about a pod that was found before
  have hne {id' : PodId} {old : PodRecord} (hold : k.find? id' = some old) : old.id ≠ id := by
    obtain ⟨-, rfl⟩ := KeyedStore.of_find?_eq_some hold
    intro heq
    rw [heq, hnone] at hold
    cases hold
  cases hR.effect hs o with
  | nothing _ hevents => simp [hevents] at he
  | keeps _ _ _ _ _ _ _ _ hevents => simp [hevents] at he
  | creates id' time pod hwrite _ _ _ hevents =>
    rw [hevents, List.mem_singleton] at he
    subst he
    intro heq
    obtain rfl : id' = id := heq
    exact hcreate time pod (Operation.eq_create hwrite)
  | changes time _ u old _ _ hold _ _ hevents =>
    rw [hevents, List.mem_singleton] at he
    subst he
    have hold' := hne hold
    simp only [Event.TellsOf, (old.samePod_apply time u).id, or_self]
    exact hold'
  | deletes id' old _ _ hold hevents =>
    rw [hevents, List.mem_singleton] at he
    subst he
    obtain ⟨-, rfl⟩ := KeyedStore.of_find?_eq_some hold
    exact hne hold

end Outage

/-- A pod that was deleted is never found again, by whatever name, and whoever still writes to it
fails and changes nothing. No event tells of it any more. -/
theorem deleted_stays_away {b : Backing} (hb : b.Blank) (error : Option StoreError)
    (before : List Episode) {id : PodId}
    (hdeleted : ((Operation.delete id).perform (Outage.through ⟨b, error⟩ before)).answer =
      .deleted (.ok ()))
    {later : List Episode} (hfresh : ∀ time pod, .operate (.create id time pod) ∉ later) :
    let s := Outage.through ⟨b, error⟩ (before ++ .operate (.delete id) :: later)
    PodStore.find s id = .ok none ∧
    (∃ l, PodStore.list s = .ok l ∧ ∀ r ∈ l, r.id ≠ id) ∧
    (∀ name r, PodStore.findNamed s name = .ok (some r) → r.id ≠ id) ∧
    (∀ time u, (Operation.apply time id u).Bounces s ∧
      (s.Ready → ((Operation.apply time id u).perform s).answer = .record (.error (.missing id)))) ∧
    ((Operation.delete id).Bounces s ∧ (s.store.Ready →
      ((Operation.delete id).perform s).answer = .deleted (.error (.missing id)))) ∧
    (∀ time pod result, pod.id = id → (Operation.reconcile time pod result).Bounces s ∧
      (s.Ready → (∃ worker snapshot, result.succeeded.get? worker = some snapshot) →
        ((Operation.reconcile time pod result).perform s).answer =
          .reconciled (.error (.persistenceConflict ("pod " ++ id))))) ∧
    (∀ time pod workers timeout, pod.id = id →
      (Operation.commit time (.start pod workers timeout)).Bounces s ∧
      (s.Ready → (¬ ∀ c ∈ pod.kind.toList, Text.isBlank c = true) →
        (∃ worker snapshot, Discovery.Answers .pod timeout.ticks workers worker snapshot) →
        ((Operation.commit time (.start pod workers timeout)).perform s).answer =
          .reconciled (.error (.persistenceConflict ("pod " ++ id))))) ∧
    ∀ o : Operation, (∀ time pod, o ≠ .create id time pod) →
      ∀ e ∈ (o.perform s).events, ¬ e.TellsOf id := by
  intro s
  have hlawful : Lawful (fun o : Outage Backing ↦ o.store.Sound) := Outage.lawful Backing.lawful
  have hR := Outage.holding Backing.holding
  obtain ⟨k, hk⟩ := Outage.holds_of_blank hb error before
  obtain ⟨-, -, hfind⟩ := hlawful.delete_ok hk.sound (Answer.deleted.inj hdeleted)
  have habsent : PodStore.find s id = .ok none :=
    Outage.absent_of_blank hb error before (e := .operate (.delete id))
      ((hfind id).trans (if_pos rfl)) hfresh
  obtain ⟨k', hs⟩ : ∃ k', s.store.Holds k' := Outage.holds_of_blank hb error _
  -- whatever the store hands out, by name or in a list, it also finds by id
  have hne {r : PodRecord} (hr : Hands s r) : r.id ≠ id := by
    intro heq
    have hfound := hlawful.find_of_hands hs.sound hr
    rw [heq] at hfound
    cases habsent.symm.trans hfound
  refine ⟨habsent, ⟨k'.list, hR.list hs, fun r hr ↦ hne (.listed _ (hR.list hs) hr)⟩,
    fun name r hr ↦ hne (.named name hr), fun time u ↦ ?_, ?_, fun time pod result hid ↦ ?_,
    fun time pod workers timeout hid ↦ ?_, fun o ho e he ↦ Outage.not_tellsOf hs habsent ho he⟩
  · refine ⟨Outage.bounces_apply hs.sound habsent time u, fun hready ↦ ?_⟩
    exact congrArg Answer.record (hready.apply_of_missing time u habsent)
  · refine ⟨Outage.bounces_delete hs.sound habsent, fun hready ↦ ?_⟩
    exact congrArg Answer.deleted (hready.delete_of_missing hs.sound habsent)
  · subst hid
    have hplan : (Operation.reconcile time pod result).plan? =
      some (time, pod.id, Plan.update result) := rfl
    refine ⟨Outage.bounces_of_absent hs.sound habsent hplan, fun hready hsomebody ↦ ?_⟩
    obtain ⟨u, hu⟩ := Plan.exists_update hsomebody
    rw [hu] at hplan
    exact Outage.conflict_of_absent habsent hready hplan
  · subst hid
    have hplan : (Operation.commit time (.start pod workers timeout)).plan? =
        some (time, pod.id, (Sync.start pod workers timeout).plan) := by
      rw [Operation.plan?, Sync.pod_start]
    refine ⟨Outage.bounces_of_absent hs.sound habsent hplan, fun hready hkind hsomebody ↦ ?_⟩
    obtain ⟨u, -, hu⟩ := Sync.plan_of_somebody hkind hsomebody
    rw [hu] at hplan
    exact Outage.conflict_of_absent habsent hready hplan

/-- A pod is deleted, another one takes its name, and a late reconciliation still has the record of
the first. -/
theorem deleted_stays_away_namesake :
    let rack : NewPod := ⟨"rack", "virsh", "default", "default", ∅⟩
    let before := [Episode.operate (.create "1" "t1" rack)]
    let later := [Episode.operate (.create "2" "t2" rack)]
    let s := Outage.through ⟨.memory .empty, none⟩ (before ++ .operate (.delete "1") :: later)
    let late := Operation.reconcile "t3" (.create "1" "t1" rack) (.ofOutcomes [("a", .ok .blank)])
    PodStore.find s "2" = .ok (some (.create "2" "t2" rack)) ∧
      (late.perform s).answer = .reconciled (.error (.persistenceConflict "pod 1")) ∧
      (late.perform s).store = s := by
  intro rack before later s late
  have hfresh : ∀ time pod, .operate (.create "1" time pod) ∉ later := by
    intro time pod hmem
    simp [later] at hmem
  have hdeleted : ((Operation.delete "1").perform
      (Outage.through ⟨.memory .empty, none⟩ before)).answer = .deleted (.ok ()) := rfl
  obtain ⟨-, -, -, -, -, hreconcile, -⟩ := deleted_stays_away .memory none before hdeleted hfresh
  obtain ⟨hbounces, hconflict⟩ :=
    hreconcile "t3" (.create "1" "t1" rack) (.ofOutcomes [("a", .ok .blank)]) rfl
  exact ⟨rfl, hconflict ⟨rfl, trivial⟩ ⟨"a", .blank, rfl⟩, hbounces.store⟩

end PodInventory
