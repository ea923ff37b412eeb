import PodInventory.Proofs.Attempt
import PodInventory.Proofs.Store.Course

namespace PodInventory

/-- As long as a pod is there it stays the same pod. -/
theorem Episode.Makes.samePod {e : Episode} {r : PodRecord} {found found' : Option PodRecord}
    (hmakes : e.Makes r.id found found')
    (hcreate : ∀ time pod, e ≠ .operate (.create r.id time pod))
    (h : ∀ c, found = some c → r.SamePod c) : ∀ c, found' = some c → r.SamePod c := by
  intro c hc
  cases hmakes with
  | keeps => exact h c hc
  | creates time pod => exact absurd rfl (hcreate time pod)
  | commits o time u old ho hold =>
    cases hc
    exact (h old hold).trans (old.samePod_apply time u).symm
  | deletes => cases hc
  | reopens => cases hc

/-- A record that was handed out at any time is as good for a sync as the one that is stored: the
sync asks the same workers the same, and comes to the same. Nothing that was discovered before has
any part in it. -/
theorem stale_records_suffice {b : Backing} (hb : b.Blank) (error : Option StoreError)
    (before : List Episode) {o : Operation} {r : PodRecord}
    (hr : (o.perform (Outage.through ⟨b, error⟩ before)).answer.record? = some r)
    {later : List Episode} (hfresh : ∀ time pod, .operate (.create r.id time pod) ∉ later)
    {c : PodRecord}
    (hc : PodStore.find (Outage.through ⟨b, error⟩ (before ++ .operate o :: later)) r.id =
      .ok (some c)) :
    let s := Outage.through ⟨b, error⟩ (before ++ .operate o :: later)
    (∀ a : Attempt,
      (Sync.attempt r a).call? = (Sync.attempt c a).call? ∧
      FanOut.dispatched (a.workers r) = FanOut.dispatched (a.workers c) ∧
      (∀ time, Sync.run s time r (a.workers r) a.timeout =
        Sync.run s time c (a.workers c) a.timeout) ∧
      ∀ enabled answer, Sync.audit enabled r answer = Sync.audit enabled c answer) ∧
    ∀ (a : Attempt) time discovered routable version createdAt updatedAt,
      let altered := { r with discovered, routable, version, createdAt, updatedAt }
      (Sync.attempt altered a).call? = (Sync.attempt c a).call? ∧
      Sync.run s time altered (a.workers altered) a.timeout =
        Sync.run s time c (a.workers c) a.timeout := by
  intro s
  have hlawful : Lawful (fun o : Outage Backing ↦ o.store.Sound) := Outage.lawful Backing.lawful
  obtain ⟨k, hk⟩ := Outage.holds_of_blank hb error before
  have hfind := hlawful.find_of_record? hk.sound hr
  -- the invariant of the course: what is found under the id, if anything, is still that pod
  have hcourse : ∀ e ∈ later, ∀ found found', (∀ c, found = some c → r.SamePod c) →
      e.Makes r.id found found' → ∀ c, found' = some c → r.SamePod c := by
    intro e he found found' hfound hmakes
    refine hmakes.samePod (fun time pod heq ↦ ?_) hfound
    subst heq
    exact hfresh time pod he
  have hstart : ∀ c, some r = some c → r.SamePod c := by
    intro c heq
    cases heq
    exact .refl r
  obtain ⟨found, hfound, hsame⟩ := Outage.found_of_blank hb error before (e := .operate o) hfind
    (Q := fun found ↦ ∀ c, found = some c → r.SamePod c) hstart hcourse
  have hpod := hsame c (Except.ok.inj (hfound.symm.trans hc))
  refine ⟨fun a ↦ ⟨hpod.call? a, congrArg FanOut.dispatched (hpod.workers a),
    fun time ↦ hpod.run s time a, hpod.audit⟩, ?_⟩
  intro a time discovered routable version createdAt updatedAt altered
  have haltered : altered.SamePod c := ⟨hpod.id, hpod.name, hpod.kind, hpod.powerParameters⟩
  exact ⟨haltered.call? a, haltered.run s time a⟩

/-- The record that a pod was created as serves a sync like the one after two reconciliations. -/
theorem stale_records_suffice_created :
    let pod : NewPod := ⟨"rack", "virsh", "default", "default", ∅⟩
    let r := PodRecord.create "1" "t1" pod
    let later := [Episode.operate (.reconcile "t2" r (.ofOutcomes [("a", .ok .blank)])),
      .operate (.reconcile "t3" r (.ofOutcomes [("b", .ok .blank)]))]
    let s := Outage.through ⟨.memory .empty, none⟩ ([] ++ .operate (.create "1" "t1" pod) :: later)
    ∃ c, PodStore.find s "1" = .ok (some c) ∧ c.version = 3 ∧
      ∀ (a : Attempt) time, Sync.run s time r (a.workers r) a.timeout =
        Sync.run s time c (a.workers c) a.timeout := by
  intro pod r later s
  have hfresh : ∀ time pod, .operate (.create r.id time pod) ∉ later := by
    intro time pod hmem
    simp [later] at hmem
  have hstale := stale_records_suffice (o := .create "1" "t1" pod) .memory none [] rfl hfresh rfl
  exact ⟨_, rfl, rfl, fun a ↦ (hstale.1 a).2.2.1⟩

end PodInventory
