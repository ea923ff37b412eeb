import PodInventory.Proofs.Store.Course
import PodInventory.Proofs.Sync

namespace PodInventory

namespace Plan

variable {result : Partition Snapshot} {u : Update}

theorem update_reaches (hresult : result.Disjoint) (h : update result = .ok u) :
    ∃ worker, u.routable.get? worker = some true := by
  rw [update] at h
  cases hselected : selected? result with
  | none =>
    rw [hselected] at h
    cases h
  | some selected =>
    rw [hselected] at h
    obtain ⟨worker, snapshot⟩ := selected
    cases h
    obtain ⟨hsucceeded, -⟩ := Dict.first?_eq_some_iff.1 hselected
    exact ⟨worker, (get?_routes_true hresult worker).2 ⟨snapshot, hsucceeded⟩⟩

theorem update_of_nobody (h : ∀ worker, result.succeeded.get? worker = none) :
    update result = .error (.noViableWorker result.failed) := by
  have hnone : selected? result = none := Dict.first?_eq_none_iff.2 h
  rw [update, hnone]

end Plan

/-- An operation whose updates, if any, come from a discovery. -/
inductive Operation.Gathered : Operation → Prop
  | create (id : PodId) (time : String) (pod : NewPod) : Gathered (.create id time pod)
  | reconcile (time : String) (pod : PodRecord) (outcomes : List (WorkerId × Outcome Snapshot)) :
    Gathered (.reconcile time pod (.ofOutcomes outcomes))
  | sync (time : String) (pod : PodRecord) (workers : List Worker) (timeout : Duration) :
    Gathered (.commit time (.start pod workers timeout))
  | delete (id : PodId) : Gathered (.delete id)
  | find (id : PodId) : Gathered (.find id)
  | findNamed (name : String) : Gathered (.findNamed name)
  | list : Gathered .list

theorem Operation.Gathered.reaches {o : Operation} (ho : o.Gathered) {id : PodId} {u : Update}
    (h : o.update? = some (id, u)) : ∃ worker, u.routable.get? worker = some true := by
  cases ho with
  | reconcile time pod outcomes =>
    obtain ⟨u', hu', heq⟩ := Option.map_eq_some_iff.1 h
    cases heq
    exact Plan.update_reaches (Partition.disjoint_ofOutcomes outcomes) (eq_ok_of_toOption hu')
  | sync time pod workers timeout =>
    obtain ⟨u', hu', heq⟩ := Option.map_eq_some_iff.1 h
    cases heq
    have hplan := eq_ok_of_toOption hu'
    by_cases hblank : ∀ c ∈ pod.kind.toList, Text.isBlank c = true
    · rw [Sync.plan, Sync.found_of_blank hblank] at hplan
      cases hplan
    · rw [Sync.plan_of_not_blank hblank] at hplan
      exact Plan.update_reaches Discovery.disjoint_report hplan
  | _ => cases h

namespace PodRecord

/-- A record as its creation left it. -/
structure Untouched (r : PodRecord) : Prop where
  version : r.version = 1
  routable : r.routable = ∅
  discovered : r.discovered = .blank
  updatedAt : r.updatedAt = r.createdAt

/-- Some worker can reach the pod. -/
def Reached (r : PodRecord) : Prop := ∃ worker, r.routable.get? worker = some true

/-- A record that is untouched, or has been reached and had some updates, at most `n` of them. The
version counts them modulo its width. -/
def Within (n : Nat) (r : PodRecord) : Prop :=
  r.Untouched ∨ r.Reached ∧ ∃ m, 0 < m ∧ m ≤ n ∧ r.version.toNat = (m + 1) % UInt64.size

theorem untouched_create (id : PodId) (time : String) (pod : NewPod) :
    (create id time pod).Untouched := ⟨rfl, rfl, rfl, rfl⟩

variable {r : PodRecord} {u : Update} {n : Nat}

theorem Within.mono (h : r.Within n) : r.Within (n + 1) := by
  rcases h with huntouched | ⟨hreached, m, hpos, hm, hversion⟩
  · exact .inl huntouched
  · exact .inr ⟨hreached, m, hpos, by omega, hversion⟩

/-- An update that reaches a worker brings news to an untouched record, whatever its fields. -/
theorem Untouched.differs (h : r.Untouched) (hu : ∃ worker, u.routable.get? worker = some true) :
    r.differs u = true := by
  obtain ⟨worker, hworker⟩ := hu
  rw [← Bool.not_eq_false, differs_eq_false_iff]
  intro heq
  rw [heq, h.routable] at hworker
  cases hworker

theorem Within.apply (h : r.Within n) (time : String)
    (hu : ∃ worker, u.routable.get? worker = some true) : (r.apply time u).Within (n + 1) := by
  have hreached : (r.apply time u).Reached := by
    rw [Reached, (r.apply_content time).2]
    exact hu
  cases hdiffers : r.differs u with
  | false =>
    rw [r.apply_unchanged time hdiffers]
    exact h.mono
  | true =>
    have hversion : (r.apply time u).version = r.version + 1 := by
      rw [r.apply_changed time hdiffers]
    refine .inr ⟨hreached, ?_⟩
    rw [hversion, UInt64.toNat_add]
    rcases h with huntouched | ⟨-, m, hpos, hm, hm'⟩
    · refine ⟨1, Nat.one_pos, by omega, ?_⟩
      rw [huntouched.version]
      rfl
    · refine ⟨m + 1, Nat.succ_pos m, by omega, ?_⟩
      rw [hm']
      simp only [UInt64.size, UInt64.reduceToNat]
      omega

end PodRecord

namespace Outage

variable {s : Outage Backing} {k : KeyedStore} {n : Nat}

theorem within_makes {e : Episode} (he : ∀ o, e = .operate o → o.Gathered) {id : PodId}
    {found found' : Option PodRecord} (hmakes : e.Makes id found found')
    (h : ∀ r, found = some r → r.Within n) : ∀ r, found' = some r → r.Within (n + 1) := by
  intro r hr
  cases hmakes with
  | keeps => exact (h r hr).mono
  | creates time pod =>
    cases hr
    exact .inl (PodRecord.untouched_create id time pod)
  | commits o time u old ho hold =>
    cases hr
    exact (h old hold).apply time ((he o rfl).reaches ho)
  | deletes => cases hr
  | reopens => cases hr

theorem within_through (hs : s.store.Holds k) {course : List Episode}
    (hcourse : ∀ o, .operate o ∈ course → o.Gathered) {id : PodId}
    (h : ∀ r, PodStore.find s id = .ok (some r) → r.Within n) {r : PodRecord}
    (hr : PodStore.find (s.through course) id = .ok (some r)) : r.Within (n + course.length) := by
  -- every episode adds one update at most, so the bound grows by one with each
  induction course generalizing s k n with
  | nil => exact h r hr
  | cons e rest ih =>
    obtain ⟨k', hs'⟩ := holds_follow hs e
    have hfound := (Outage.holding Backing.holding).find hs id
    obtain ⟨found', hfound', hmakes⟩ := found_follow hs.sound e hfound
    have hwithin := within_makes (fun o ho ↦ hcourse o (ho ▸ List.mem_cons_self)) hmakes
      (fun r hr ↦ h r (hfound.trans (congrArg Except.ok hr)))
    rw [List.length_cons, Nat.add_comm rest.length, ← Nat.add_assoc]
    refine ih hs' (fun o ho ↦ hcourse o (List.mem_cons_of_mem e ho)) (fun r' hr' ↦ ?_) hr
    exact hwithin r' (Except.ok.inj (hfound'.symm.trans hr'))

end Outage

theorem Sync.bounces_of_nobody {σ : Type} [PodStore σ] (s : σ) (time : String) (pod : PodRecord)
    {workers : List Worker} {timeout : Duration}
    (h : ∀ id snapshot, ¬ Discovery.Answers .pod timeout.ticks workers id snapshot) :
    (Operation.commit time (.start pod workers timeout)).Bounces s := by
  have hplan : ∃ e, (Sync.start pod workers timeout).plan = .error e := by
    by_cases hblank : ∀ c ∈ pod.kind.toList, Text.isBlank c = true
    · rw [plan, found_of_blank hblank]
      exact ⟨_, rfl⟩
    · obtain ⟨causes, -, hplan⟩ := plan_of_nobody hblank h
      exact ⟨_, hplan⟩
  obtain ⟨e, he⟩ := hplan
  exact Operation.bounces_commit s time he

/-- The first reconciliation of a pod that succeeds is its second version. -/
theorem version_of_first {σ : Type} [PodStore σ] {Sound : σ → Prop} (hσ : Lawful Sound) {s : σ}
    (hs : Sound s) {o : Operation} (ho : o.Gathered) {old r : PodRecord}
    (hold : PodStore.find s old.id = .ok (some old)) (huntouched : old.Untouched)
    (hr : (o.perform s).answer = .reconciled (.ok r)) (hid : r.id = old.id) :
    r.version = 2 ∧ r.Reached ∧ PodStore.find (o.perform s).store old.id = .ok (some r) := by
  obtain ⟨_, u, hplan, time, old', hold', rfl, hfind⟩ := hσ.of_reconciled hs hr
  rw [hid] at hold' hfind
  cases hold.symm.trans hold'
  have hreaches := ho.reaches (Operation.update?_of_plan? hplan)
  refine ⟨?_, ?_, hfind⟩
  · rw [old.apply_changed time (huntouched.differs hreaches), huntouched.version]
    rfl
  · rw [PodRecord.Reached, (old.apply_content time).2]
    exact hreaches

/-- A pod that was discovered has a worker that reaches it, and keeps it: every record is as new, or
some worker reaches its pod. -/
theorem discovered_reachable {b : Backing} (hb : b.Blank) (error : Option StoreError)
    {course : List Episode} (hcourse : ∀ o, .operate o ∈ course → o.Gathered) :
    let s := Outage.through ⟨b, error⟩ course
    (∀ r, Hands s r →
      r.Untouched ∨ r.Reached ∧ (course.length + 1 < UInt64.size → 2 ≤ r.version.toNat)) ∧
    (∀ r, Hands s r → 2 ≤ r.version.toNat → r.Reached) ∧
    (∀ time pod result, (∀ worker, result.succeeded.get? worker = none) →
      (Operation.reconcile time pod result).Bounces s) ∧
    (∀ time pod workers timeout,
      (∀ worker snapshot, ¬ Discovery.Answers .pod timeout.ticks workers worker snapshot) →
      (Operation.commit time (.start pod workers timeout)).Bounces s) ∧
    ∀ (o : Operation) old r, o.Gathered → Hands s old → old.Untouched →
      (o.perform s).answer = .reconciled (.ok r) → r.id = old.id →
      r.version = 2 ∧ r.Reached ∧ PodStore.find (o.perform s).store old.id = .ok (some r) := by
  intro s
  have hlawful : Lawful (fun o : Outage Backing ↦ o.store.Sound) := Outage.lawful Backing.lawful
  obtain ⟨k, hs⟩ : ∃ k, s.store.Holds k := Outage.holds_of_blank hb error course
  have hwithin (r : PodRecord) (hr : Hands s r) : r.Within (0 + course.length) := by
    refine Outage.within_through (s := ⟨b, error⟩) hb.holds hcourse (fun r' hr' ↦ ?_)
      (hlawful.find_of_hands hs.sound hr)
    cases (hb.find_eq r.id).symm.trans hr'
  refine ⟨fun r hr ↦ ?_, fun r hr hversion ↦ ?_, fun time pod result hnobody ↦ ?_,
    fun time pod workers timeout hnobody ↦ Sync.bounces_of_nobody s time pod hnobody,
    fun o old r ho hold hnew hr hid ↦ ?_⟩
  · rcases hwithin r hr with huntouched | ⟨hreached, m, hpos, hm, hversion⟩
    · exact .inl huntouched
    · refine .inr ⟨hreached, fun hlength ↦ ?_⟩
      rw [hversion, Nat.mod_eq_of_lt (by omega)]
      omega
  · rcases hwithin r hr with huntouched | ⟨hreached, -⟩
    · rw [huntouched.version] at hversion
      exact absurd hversion (by decide)
    · exact hreached
  · exact Operation.bounces_reconcile s time pod (Plan.update_of_nobody hnobody)
  · exact version_of_first hlawful hs.sound ho (hlawful.find_of_hands hs.sound hold) hnew hr hid

/-- A new pod, of which a discovery finds out only that a worker can reach it. -/
theorem discovered_reachable_plain :
    let course : List Episode :=
      [.operate (.create "1" "then" ⟨"rack", "virsh", "default", "default", ∅⟩)]
    Backing.Blank (.memory .empty) ∧ (∀ o, .operate o ∈ course → o.Gathered) ∧
      let first := Operation.reconcile "now" TableStore.unsynced (.ofOutcomes [("a", .ok .blank)])
      ∃ r, (first.perform (Outage.through ⟨.memory .empty, none⟩ course)).answer =
          .reconciled (.ok r) ∧ r.version = 2 ∧ r.Reached := by
  intro course
  have hcourse : ∀ o, .operate o ∈ course → o.Gathered := by
    intro o ho
    cases List.mem_singleton.1 ho
    exact .create _ _ _
  obtain ⟨-, -, -, -, hfirst⟩ := discovered_reachable .memory none hcourse
  refine ⟨.memory, hcourse, ?_⟩
  intro first
  refine ⟨_, rfl, ?_⟩
  obtain ⟨hversion, hreached, -⟩ := hfirst first TableStore.unsynced _ (.reconcile _ _ _)
    (.found "1" rfl) (PodRecord.untouched_create _ _ _) rfl rfl
  exact ⟨hversion, hreached⟩

end PodInventory
