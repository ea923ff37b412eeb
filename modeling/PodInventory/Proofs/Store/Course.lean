import PodInventory.Proofs.Store.Holding
import PodInventory.Proofs.Store.Ready
import PodInventory.Proofs.Store.Turn

namespace PodInventory

/-- What happens to a store in the course of time: operations, changes of what makes them fail, and
that it is closed and opened again. -/
inductive Episode
  | operate (o : Operation)
  | disturb (t : Trouble)
  | reopen

namespace Backing

variable {b : Backing} {k : KeyedStore}

theorem Holds.sound (h : b.Holds k) : b.Sound := by
  cases b with
  | memory k' =>
    obtain ⟨rfl, hk⟩ := h
    exact hk.ids
  | transient s => exact h.keyed
  | durable path t guards => exact h.keyed

theorem Blank.find_eq (h : b.Blank) (id : PodId) : PodStore.find b id = .ok none :=
  holding.find h.holds id

theorem Holds.reopened (h : b.Holds k) : ∃ k', b.reopened.Holds k' := by
  cases b with
  | memory k' => exact ⟨.empty, Blank.memory.holds⟩
  | transient s => exact ⟨.empty, (Blank.transient _).holds⟩
  | durable path t guards =>
    rw [reopened_durable]
    exact ⟨k, h⟩

theorem find_troubled (b : Backing) (t : Trouble) (id : PodId) :
    PodStore.find (b.troubled t) id = PodStore.find b id := by
  cases b <;> rfl

theorem find_reopened (b : Backing) (id : PodId) :
    PodStore.find b.reopened id = .ok none ∨ PodStore.find b.reopened id = PodStore.find b id := by
  cases b with
  | memory k => exact .inl rfl
  | transient s => exact .inl (holding.find (Blank.transient _).holds id)
  | durable path t guards => exact .inr (by rw [reopened_durable])

end Backing

/-- A reconciliation that succeeds has updated the pod that it hands out. -/
theorem Lawful.of_reconciled {σ : Type} [PodStore σ] {Sound : σ → Prop} (hσ : Lawful Sound) {s : σ}
    (h : Sound s) {o : Operation} {r : PodRecord}
    (hr : (o.perform s).answer = .reconciled (.ok r)) :
    ∃ planned u, o.plan? = some (planned, r.id, .ok u) ∧
      ∃ time old, PodStore.find s r.id = .ok (some old) ∧ r = old.apply time u ∧
        PodStore.find (o.perform s).store r.id = .ok (some r) := by
  obtain ⟨planned, id, plan, hplan⟩ := Operation.exists_plan?_of_reconciled s hr
  obtain ⟨hanswer, -⟩ := Operation.perform_of_plan? s hplan
  cases plan with
  | error e => cases hr.symm.trans hanswer
  | ok u =>
    have hrecord : (o.perform s).answer.record? = some r := congrArg Answer.record? hr
    obtain ⟨time, old, hold, heq, hfind⟩ :=
      hσ.of_update? h (Operation.update?_of_plan? hplan) hrecord
    obtain rfl : r.id = id := hσ.find_id (hσ.turn h o).1 hfind
    exact ⟨planned, u, hplan, time, old, hold, heq, hfind⟩

/-- All that an episode can make of what is found under one id. -/
inductive Episode.Makes (id : PodId) (found : Option PodRecord) : Episode → Option PodRecord → Prop
  | keeps (e : Episode) : Makes id found e found
  | creates (time : String) (pod : NewPod) :
    Makes id found (.operate (.create id time pod)) (some (.create id time pod))
  | commits (o : Operation) (time : String) (u : Update) (old : PodRecord)
    (ho : o.update? = some (id, u)) (hold : found = some old) :
    Makes id found (.operate o) (some (old.apply time u))
  | deletes : Makes id found (.operate (.delete id)) none
  | reopens : Makes id found .reopen none

namespace Outage

def follow (s : Outage Backing) : Episode → Outage Backing
  | .operate o => (o.perform s).store
  | .disturb t => s.troubled t
  | .reopen => ⟨s.store.reopened, s.error⟩

def through (s : Outage Backing) (course : List Episode) : Outage Backing := course.foldl follow s

theorem through_split (s : Outage Backing) (before : List Episode) (e : Episode)
    (after : List Episode) :
    s.through (before ++ e :: after) = ((s.through before).follow e).through after :=
  List.foldl_append

variable {s : Outage Backing} {k : KeyedStore}

theorem holds_follow (hs : s.store.Holds k) (e : Episode) :
    ∃ k', (s.follow e).store.Holds k' := by
  cases e with
  | disturb t => exact ⟨k, hs.troubled t⟩
  | reopen => exact hs.reopened
  | operate o =>
    cases (Outage.holding Backing.holding).effect hs o with
    | nothing _ _ hs' => exact ⟨_, hs'⟩
    | creates _ _ _ _ _ _ _ _ hs' => exact ⟨_, hs'⟩
    | keeps _ _ _ _ _ _ _ _ _ hs' => exact ⟨_, hs'⟩
    | changes _ _ _ _ _ _ _ _ _ _ hs' => exact ⟨_, hs'⟩
    | deletes _ _ _ _ _ _ hs' => exact ⟨_, hs'⟩

theorem holds_through (hs : s.store.Holds k) (course : List Episode) :
    ∃ k', (s.through course).store.Holds k' := by
  induction course generalizing s k with
  | nil => exact ⟨k, hs⟩
  | cons e rest ih =>
    obtain ⟨k', hs'⟩ := holds_follow hs e
    exact ih hs'

theorem found_follow (hs : s.store.Sound) (e : Episode) {id : PodId} {found : Option PodRecord}
    (hfound : PodStore.find s id = .ok found) :
    ∃ found', PodStore.find (s.follow e) id = .ok found' ∧ e.Makes id found found' := by
  cases e with
  | disturb t => exact ⟨found, (s.store.find_troubled t id).trans hfound, .keeps _⟩
  | reopen =>
    rcases s.store.find_reopened id with hnone | hsame
    · exact ⟨none, hnone, .reopens⟩
    · exact ⟨found, hsame.trans hfound, .keeps _⟩
  | operate o =>
    cases ((Outage.lawful Backing.lawful).turn hs o).2 id with
    | keeps h => exact ⟨found, h.trans hfound, .keeps _⟩
    | creates time pod ho h =>
      subst ho
      exact ⟨_, h, .creates time pod⟩
    | commits time u old ho hold h =>
      refine ⟨_, h, .commits o time u old ho.update ?_⟩
      exact Except.ok.inj (hfound.symm.trans hold)
    | deletes ho h =>
      subst ho
      exact ⟨none, h, .deletes⟩

/-- What no episode of a course breaks still holds at its end of what is found under an id. -/
theorem found_through (hs : s.store.Holds k) {id : PodId} {found : Option PodRecord}
    (hfound : PodStore.find s id = .ok found) {Q : Option PodRecord → Prop} (hQ : Q found)
    {course : List Episode}
    (hcourse : ∀ e ∈ course, ∀ found found', Q found → e.Makes id found found' → Q found') :
    ∃ found', PodStore.find (s.through course) id = .ok found' ∧ Q found' := by
  induction course generalizing s k found with
  | nil => exact ⟨found, hfound, hQ⟩
  | cons e rest ih =>
    obtain ⟨k', hs'⟩ := holds_follow hs e
    obtain ⟨found', hfound', hmakes⟩ := found_follow hs.sound e hfound
    refine ih hs' hfound' (hcourse e List.mem_cons_self found found' hQ hmakes) ?_
    exact fun e' he' ↦ hcourse e' (List.mem_cons_of_mem e he')

section Blank

variable {b : Backing} (hb : b.Blank) (error : Option StoreError)

include hb

theorem holds_of_blank (course : List Episode) : ∃ k, (through ⟨b, error⟩ course).store.Holds k :=
  holds_through hb.holds course

theorem found_of_blank (before : List Episode) {e : Episode} {id : PodId}
    {found : Option PodRecord}
    (hfound : PodStore.find ((through ⟨b, error⟩ before).follow e) id = .ok found)
    {Q : Option PodRecord → Prop} (hQ : Q found) {later : List Episode}
    (hlater : ∀ e ∈ later, ∀ found found', Q found → e.Makes id found found' → Q found') :
    ∃ found', PodStore.find (through ⟨b, error⟩ (before ++ e :: later)) id = .ok found' ∧
      Q found' := by
  obtain ⟨k, hk⟩ := holds_of_blank hb error before
  obtain ⟨k', hk'⟩ := holds_follow hk e
  rw [through_split]
  exact found_through hk' hfound hQ hlater

end Blank

end Outage

end PodInventory
