import PodInventory.Proofs.Store.Course
import PodInventory.Proofs.Store.Locality
import PodInventory.Proofs.Store.Reconstruction

namespace PodInventory

/-- Lists with the same entries under every key are the same but for their order. -/
theorem perm_of_filter_key {α κ : Type} [DecidableEq α] [BEq κ] [LawfulBEq κ] {f : α → κ}
    {l l' : List α}
    (h : ∀ k, l.filter (fun a ↦ f a == k) = l'.filter (fun a ↦ f a == k)) : l.Perm l' := by
  refine List.perm_iff_count.2 (fun a ↦ ?_)
  have hcount (l : List α) : (l.filter (fun b ↦ f b == f a)).count a = l.count a :=
    List.count_filter (beq_self_eq_true (f a))
  rw [← hcount, h, hcount]

/-- A store that treats every pod by itself. `only id` is the store with no pod but one: a write of
this pod comes to the same there, and a write of any other does not show. -/
structure Separates {σ : Type} [PodStore σ] (Sound Local : σ → Prop) (only : PodId → σ → σ) :
    Prop where
  apply {s} (h : Sound s) (hlocal : Local s) (time : String) (id : PodId) (u : Update) :
    Agrees (fun s' s ↦ s' = only id s) (PodStore.apply (only id s) time id u)
      (PodStore.apply s time id u)
  delete {s} (h : Sound s) (hlocal : Local s) (id : PodId) :
    Agrees (fun s' s ↦ s' = only id s) (PodStore.delete (only id s) id) (PodStore.delete s id)
  apply_other {s} (h : Sound s) (time : String) {id other : PodId} (hne : other ≠ id) (u : Update) :
    only other (PodStore.apply s time id u).store = only other s
  delete_other {s} (h : Sound s) {id other : PodId} (hne : other ≠ id) :
    only other (PodStore.delete s id).store = only other s
  apply_local {s} (hlocal : Local s) (time : String) (id : PodId) (u : Update) :
    Local (PodStore.apply s time id u).store
  delete_local {s} (hlocal : Local s) (id : PodId) : Local (PodStore.delete s id).store
  find (s) (id : PodId) : PodStore.find (only id s) id = PodStore.find s id

namespace KeyedStore

def only (id : PodId) (k : KeyedStore) : KeyedStore := ⟨k.pods.filter (fun r ↦ r.id == id)⟩

variable {k : KeyedStore}

theorem find?_only (id : PodId) (k : KeyedStore) : (k.only id).find? id = k.find? id := by
  simp only [find?, only, ← List.head?_filter, List.filter_filter, Bool.and_self]

theorem without_only (id : PodId) (k : KeyedStore) : (k.only id).without id = [] := by
  simp [without, only]

theorem only_without (id : PodId) (k : KeyedStore) : only id ⟨k.without id⟩ = ⟨[]⟩ := by
  simp [without, only]

theorem only_without_other {id other : PodId} (hne : other ≠ id) (k : KeyedStore) :
    only other ⟨k.without id⟩ = k.only other :=
  congrArg KeyedStore.mk (filter_ne_filter hne k.pods)

theorem only_cons {r : PodRecord} {id : PodId} (hid : r.id = id) (pods : List PodRecord) :
    only id ⟨r :: pods⟩ = ⟨r :: (only id ⟨pods⟩).pods⟩ :=
  congrArg KeyedStore.mk (List.filter_cons_of_pos (beq_iff_eq.2 hid))

theorem only_cons_other {r : PodRecord} {other : PodId} (hne : other ≠ r.id)
    (pods : List PodRecord) : only other ⟨r :: pods⟩ = only other ⟨pods⟩ :=
  congrArg KeyedStore.mk (List.filter_cons_of_neg (by simpa using Ne.symm hne))

theorem apply_only (k : KeyedStore) (time : String) (id : PodId) (u : Update) :
    Agrees (fun k' k ↦ k' = k.only id) ((k.only id).apply time id u) (k.apply time id u) := by
  have hfind := find?_only id k
  cases hold : k.find? id with
  | none =>
    rw [apply, apply, hfind, hold]
    exact ⟨rfl, rfl, rfl⟩
  | some old =>
    obtain ⟨-, rfl⟩ := of_find?_eq_some hold
    cases hu : old.differs u with
    | false =>
      rw [apply_of_unchanged time hold hu, apply_of_unchanged time (hfind.trans hold) hu]
      exact ⟨rfl, rfl, rfl⟩
    | true =>
      rw [apply_of_changed time hold hu, apply_of_changed time (hfind.trans hold) hu]
      refine ⟨rfl, rfl, ?_⟩
      rw [only_cons (old.samePod_apply time u).id, only_without, without_only]

theorem delete_only (k : KeyedStore) (id : PodId) :
    Agrees (fun k' k ↦ k' = k.only id) ((k.only id).delete id) (k.delete id) := by
  rw [delete, delete, find?_only]
  cases k.find? id with
  | none => exact ⟨rfl, rfl, rfl⟩
  | some old =>
    refine ⟨rfl, rfl, ?_⟩
    rw [only_without, without_only]

theorem only_apply_other (k : KeyedStore) (time : String) {id other : PodId} (hne : other ≠ id)
    (u : Update) : (k.apply time id u).store.only other = k.only other := by
  cases hold : k.find? id with
  | none => rw [apply, hold]
  | some old =>
    obtain ⟨-, rfl⟩ := of_find?_eq_some hold
    cases hu : old.differs u with
    | false => rw [apply_of_unchanged time hold hu]
    | true =>
      have hid := (old.samePod_apply time u).id
      rw [apply_of_changed time hold hu, only_cons_other (hid ▸ hne), only_without_other hne]

theorem only_delete_other (k : KeyedStore) {id other : PodId} (hne : other ≠ id) :
    (k.delete id).store.only other = k.only other := by
  rw [delete]
  cases k.find? id with
  | none => rfl
  | some old => exact only_without_other hne k

theorem separates : Separates Sound (fun _ ↦ True) only where
  apply {k} _ _ time id u := k.apply_only time id u
  delete {k} _ _ id := k.delete_only id
  apply_other {k} _ time _ _ hne u := k.only_apply_other time hne u
  delete_other {k} _ _ _ hne := k.only_delete_other hne
  apply_local _ _ _ _ := trivial
  delete_local _ _ := trivial
  find k id := congrArg Except.ok (find?_only id k)

end KeyedStore

namespace TableStore

theorem separates : Separates Sound (fun s ↦ s.refuses.Local) only where
  apply h hlocal time id u := transact_only (tidy_change time id u) hlocal (on_change h time id u)
  delete {s} _ hlocal id := transact_only (tidy_deletion id) hlocal (on_deletion s.tables id)
  apply_other h time id _ hne u :=
    only_transact_other (tidy_change time id u) (on_change h time id u) hne
  delete_other {s} _ id _ hne :=
    only_transact_other (tidy_deletion id) (on_deletion s.tables id) hne
  apply_local {s} hlocal time id u := (refuses_transact s (change time id u)).symm ▸ hlocal
  delete_local {s} hlocal id := (refuses_transact s (deletion id)).symm ▸ hlocal
  find s id := Tables.find_only id s.tables

end TableStore

namespace Backing

def only (id : PodId) : Backing → Backing
  | .memory k => .memory (k.only id)
  | .transient s => .transient (s.only id)
  | .durable path tables guards => .durable path (tables.only id) guards

/-- Nothing is refused but for what is seen of the pod that is written. The guards of a database on
a disk never look at another. -/
def Local : Backing → Prop
  | .transient s => s.refuses.Local
  | _ => True

section Write

variable {b : Backing} {α : Type} {memory : KeyedStore → Written KeyedStore α}
  {table : TableStore → Written TableStore α}

theorem write_only (h : b.Sound) (hlocal : b.Local) (id : PodId)
    (hmemory : ∀ k, Agrees (fun k' k ↦ k' = k.only id) (memory (k.only id)) (memory k))
    (htable : ∀ s : TableStore, s.Sound → s.refuses.Local →
      Agrees (fun s' s ↦ s' = s.only id) (table (s.only id)) (table s)) :
    Agrees (fun b' b ↦ b' = b.only id) ((b.only id).write memory table) (b.write memory table) := by
  cases b with
  | memory k =>
    have hk := hmemory k
    exact ⟨hk.answer, hk.events, congrArg Backing.memory hk.store⟩
  | transient s =>
    have hs := htable s h hlocal
    exact ⟨hs.answer, hs.events, congrArg Backing.transient hs.store⟩
  | durable path t guards =>
    have hs := htable (Backing.table t guards) h (TableStore.local_guarded guards)
    refine ⟨hs.answer, hs.events, ?_⟩
    exact congrArg (fun s : TableStore ↦ durable path s.tables guards) hs.store

theorem only_write_other (h : b.Sound) (other : PodId)
    (hmemory : ∀ k, (memory k).store.only other = k.only other)
    (htable : ∀ s : TableStore, s.Sound → (table s).store.only other = s.only other) :
    (b.write memory table).store.only other = b.only other := by
  cases b with
  | memory k => exact congrArg Backing.memory (hmemory k)
  | transient s => exact congrArg Backing.transient (htable s h)
  | durable path t guards =>
    exact congrArg (fun s : TableStore ↦ durable path s.tables guards)
      (htable (Backing.table t guards) h)

theorem Local.write (hlocal : b.Local) (htable : ∀ s, (table s).store.refuses = s.refuses) :
    (b.write memory table).store.Local := by
  cases b with
  | transient s =>
    change (table s).store.refuses.Local
    rw [htable]
    exact hlocal
  | _ => trivial

end Write

theorem separates : Separates Sound Local only where
  apply h hlocal time id u :=
    write_only h hlocal id (fun k ↦ k.apply_only time id u)
      (fun _ h hlocal ↦ TableStore.separates.apply h hlocal time id u)
  delete h hlocal id :=
    write_only h hlocal id (fun k ↦ k.delete_only id)
      (fun _ h hlocal ↦ TableStore.separates.delete h hlocal id)
  apply_other h time _ other hne u :=
    only_write_other h other (fun k ↦ k.only_apply_other time hne u)
      (fun _ h ↦ TableStore.separates.apply_other h time hne u)
  delete_other h _ other hne :=
    only_write_other h other (fun k ↦ k.only_delete_other hne)
      (fun _ h ↦ TableStore.separates.delete_other h hne)
  apply_local hlocal time id u :=
    Local.write hlocal (fun s ↦ s.refuses_transact (TableStore.change time id u))
  delete_local hlocal id := Local.write hlocal (fun s ↦ s.refuses_transact (TableStore.deletion id))
  find b id := by
    cases b with
    | memory k => exact KeyedStore.separates.find k id
    | transient s => exact TableStore.separates.find s id
    | durable path t guards => exact TableStore.separates.find (Backing.table t guards) id

end Backing

/-- Updates that fail for a while fail for every pod. -/
theorem Outage.separates {σ : Type} [PodStore σ] {Sound Local : σ → Prop} {only : PodId → σ → σ}
    (hσ : Separates Sound Local only) :
    Separates (fun o : Outage σ ↦ Sound o.store) (fun o ↦ Local o.store)
      (fun id o ↦ ⟨only id o.store, o.error⟩) where
  apply := by
    intro o h hlocal time id u
    obtain ⟨s, error⟩ := o
    cases error with
    | some e => exact ⟨rfl, rfl, rfl⟩
    | none =>
      have happly := hσ.apply h hlocal time id u
      exact ⟨happly.answer, happly.events, congrArg (Outage.mk · none) happly.store⟩
  delete {o} h hlocal id := by
    have hdelete := hσ.delete h hlocal id
    exact ⟨hdelete.answer, hdelete.events, congrArg (Outage.mk · o.error) hdelete.store⟩
  apply_other := by
    intro o h time id other hne u
    obtain ⟨s, error⟩ := o
    cases error with
    | some e => rfl
    | none => exact congrArg (Outage.mk · none) (hσ.apply_other h time hne u)
  delete_other {o} h _ _ hne := congrArg (Outage.mk · o.error) (hσ.delete_other h hne)
  apply_local := by
    intro o hlocal time id u
    obtain ⟨s, error⟩ := o
    cases error with
    | some e => exact hlocal
    | none => exact hσ.apply_local hlocal time id u
  delete_local hlocal id := hσ.delete_local hlocal id
  find o id := hσ.find o.store id

/-- The operations on one pod: an update, whichever way it comes about, and a deletion. -/
inductive Operation.On (id : PodId) : Operation → Prop
  | apply (time : String) (u : Update) : On id (.apply time id u)
  | reconcile (time : String) (pod : PodRecord) (hid : pod.id = id) (result : Partition Snapshot) :
    On id (.reconcile time pod result)
  | commit (time : String) (y : Sync) (hid : y.pod.id = id) : On id (.commit time y)
  | delete : On id (.delete id)

theorem Operation.On.cases {id : PodId} {o : Operation} (ho : o.On id) :
    (∃ time u, o = .apply time id u) ∨ (∃ time plan, o.plan? = some (time, id, plan)) ∨
      o = .delete id := by
  cases ho with
  | apply time u => exact .inl ⟨time, u, rfl⟩
  | reconcile time pod hid result => exact .inr (.inl ⟨time, Plan.update result, hid ▸ rfl⟩)
  | commit time y hid => exact .inr (.inl ⟨time, y.plan, hid ▸ rfl⟩)
  | delete => exact .inr (.inr rfl)

namespace Separates

open Operation

variable {σ : Type} [PodStore σ] {Sound Local : σ → Prop} {only : PodId → σ → σ}
  (hσ : Separates Sound Local only) {s : σ} (h : Sound s)

include hσ

section Perform

variable {id : PodId} {o : Operation} (ho : o.On id)

include ho

include h in
/-- An operation on one pod comes to the same where this pod is alone. -/
theorem perform (hlocal : Local s) :
    (o.perform (only id s)).answer = (o.perform s).answer ∧
      (o.perform (only id s)).store = only id (o.perform s).store := by
  obtain ⟨time, u, rfl⟩ | ⟨time, plan, hplan⟩ | rfl := ho.cases
  · have happly := hσ.apply h hlocal time id u
    exact ⟨congrArg Answer.record happly.answer, happly.store⟩
  · obtain ⟨hanswer, hstore, -⟩ := perform_of_plan? s hplan
    obtain ⟨hanswer', hstore', -⟩ := perform_of_plan? (only id s) hplan
    rw [hanswer, hstore, hanswer', hstore']
    cases plan with
    | error e => exact ⟨rfl, rfl⟩
    | ok u =>
      have happly := hσ.apply h hlocal time id u
      exact ⟨congrArg (fun a ↦ Answer.reconciled (a.mapError .ofStore)) happly.answer, happly.store⟩
  · have hdelete := hσ.delete h hlocal id
    exact ⟨congrArg Answer.deleted hdelete.answer, hdelete.store⟩

include h in
theorem perform_other {other : PodId} (hne : other ≠ id) :
    only other (o.perform s).store = only other s := by
  obtain ⟨time, u, rfl⟩ | ⟨time, plan, hplan⟩ | rfl := ho.cases
  · exact hσ.apply_other h time hne u
  · rw [(perform_of_plan? s hplan).2.1]
    cases plan with
    | error e => rfl
    | ok u => exact hσ.apply_other h time hne u
  · exact hσ.delete_other h hne

theorem perform_local (hlocal : Local s) : Local (o.perform s).store := by
  obtain ⟨time, u, rfl⟩ | ⟨time, plan, hplan⟩ | rfl := ho.cases
  · exact hσ.apply_local hlocal time id u
  · rw [(perform_of_plan? s hplan).2.1]
    cases plan with
    | error e => exact hlocal
    | ok u => exact hσ.apply_local hlocal time id u
  · exact hσ.delete_local hlocal id

include h in
theorem find_perform_other {other : PodId} (hne : other ≠ id) :
    PodStore.find (o.perform s).store other = PodStore.find s other := by
  rw [← hσ.find, hσ.perform_other h ho hne, hσ.find]

end Perform

section Commute

variable (hlawful : Lawful Sound) (hlocal : Local s) {p q : PodId} (hne : p ≠ q) {o o' : Operation}
  (ho : o.On p) (ho' : o'.On q)

include h hlawful hlocal hne ho ho'

theorem answer_perform_perform :
    (o.perform (o'.perform s).store).answer = (o.perform s).answer := by
  obtain ⟨hanswer, -⟩ := hσ.perform h ho hlocal
  obtain ⟨hanswer', -⟩ :=
    hσ.perform (hlawful.turn h o').1 ho (hσ.perform_local ho' hlocal)
  rw [← hanswer', hσ.perform_other h ho' hne, hanswer]

theorem only_perform_perform :
    only p (o.perform (o'.perform s).store).store = (o.perform (only p s)).store := by
  obtain ⟨-, hstore⟩ := hσ.perform (hlawful.turn h o').1 ho (hσ.perform_local ho' hlocal)
  rw [← hstore, hσ.perform_other h ho' hne]

/-- Two operations on two pods leave each pod alone as it is after either order. -/
theorem perform_comm (id : PodId) :
    only id (o'.perform (o.perform s).store).store =
      only id (o.perform (o'.perform s).store).store := by
  have hsound := (hlawful.turn h o).1
  have hsound' := (hlawful.turn h o').1
  -- each pod sees no more than the operation on itself, and a third one sees none
  by_cases hp : id = p
  · subst hp
    rw [hσ.only_perform_perform h hlawful hlocal hne ho ho', hσ.perform_other hsound ho' hne,
      (hσ.perform h ho hlocal).2]
  · by_cases hq : id = q
    · subst hq
      rw [hσ.only_perform_perform h hlawful hlocal hp ho' ho, hσ.perform_other hsound' ho hp,
        (hσ.perform h ho' hlocal).2]
    · rw [hσ.perform_other hsound ho' hq, hσ.perform_other h ho hp, hσ.perform_other hsound' ho hp,
        hσ.perform_other h ho' hq]

end Commute

end Separates

namespace KeyedStore

variable {k k' : KeyedStore}

theorem Sound.mem_iff (h : k.Sound) {r : PodRecord} : r ∈ k.pods ↔ k.find? r.id = some r :=
  ⟨find?_eq_some_of_mem h, fun hfind ↦ (of_find?_eq_some hfind).1⟩

theorem Sound.perm_of_find? (h : k.Sound) (h' : k'.Sound)
    (hfind : ∀ id, k'.find? id = k.find? id) : k'.pods.Perm k.pods := by
  refine (List.perm_ext_iff_of_nodup (List.Nodup.of_map _ h') (List.Nodup.of_map _ h)).2
    (fun r ↦ ?_)
  rw [h'.mem_iff, hfind, h.mem_iff]

theorem Distinct.findNamed?_eq_some (h : k.Distinct) {id : PodId} {r : PodRecord}
    (hr : k.find? id = some r) : k.findNamed? r.name = some r :=
  find?_eq_some_of_mem h.names (of_find?_eq_some hr).1

theorem Distinct.list_eq_of_perm (h : k.Distinct) (hperm : k'.pods.Perm k.pods) :
    k'.list = k.list := by
  have hsorted : k'.list.Perm k.list :=
    (List.mergeSort_perm _ _).trans (hperm.trans (List.mergeSort_perm _ _).symm)
  refine hsorted.eq_of_pairwise (fun a b ha hb hab hba ↦ ?_)
    (pairwise_mergeSort_key PodRecord.name _) (pairwise_mergeSort_key PodRecord.name _)
  have ha : a ∈ k.pods := List.mem_mergeSort.1 (hsorted.mem_iff.1 ha)
  exact List.inj_on_of_nodup_map h.names ha (List.mem_mergeSort.1 hb) (String.le_antisymm hab hba)

theorem Distinct.list_without_eq (h : k.Distinct) (h' : k'.Distinct) {p : PodId}
    (hfind : ∀ id, id ≠ p → k'.find? id = k.find? id) :
    k'.list.filter (fun r ↦ r.id != p) = k.list.filter (fun r ↦ r.id != p) := by
  have hothers : ∀ id, find? ⟨k'.without p⟩ id = find? ⟨k.without p⟩ id := by
    intro id
    rw [find?_without, find?_without]
    split
    · rfl
    · rename_i hid
      exact hfind id hid
  have hperm : (k'.without p).Perm (k.without p) :=
    Sound.perm_of_find? (h.without p).ids (h'.without p).ids hothers
  have hlist := (h.without p).list_eq_of_perm hperm
  rw [list, list, ← mergeSort_filter_key PodRecord.name h.names,
    ← mergeSort_filter_key PodRecord.name h'.names]
  exact hlist

end KeyedStore

structure Tables.SameRows (t t' : Tables) : Prop where
  pods : t.pods.Perm t'.pods
  routes : t.routes.Perm t'.routes

theorem Tables.sameRows_of_only {t t' : Tables} (h : ∀ id, t.only id = t'.only id) :
    t.SameRows t' where
  pods := perm_of_filter_key (fun id ↦ congrArg Tables.pods (h id))
  routes := perm_of_filter_key (fun id ↦ congrArg Tables.routes (h id))

namespace Backing

/-- Stores of one kind with the same contents, in whatever order they keep them. -/
inductive SameContents : Backing → Backing → Prop
  | memory {k k' : KeyedStore} (h : k.pods.Perm k'.pods) : SameContents (.memory k) (.memory k')
  | transient {t t' : Tables} (refuses : Refusal) (h : t.SameRows t') :
    SameContents (.transient ⟨t, refuses⟩) (.transient ⟨t', refuses⟩)
  | durable (path : String) {t t' : Tables} (guards : List TableStore.Guard) (h : t.SameRows t') :
    SameContents (.durable path t guards) (.durable path t' guards)

theorem sameContents_of_only {b b' : Backing} (h : ∀ id, b.only id = b'.only id) :
    b.SameContents b' := by
  have hkind := h default
  cases b with
  | memory k =>
    cases b' with
    | memory k' =>
      -- records know their own id, so what each id has makes up the whole
      refine .memory (perm_of_filter_key (f := PodRecord.id) (fun id ↦ ?_))
      exact congrArg KeyedStore.pods (Backing.memory.inj (h id))
    | _ => cases hkind
  | transient s =>
    cases b' with
    | transient s' =>
      obtain ⟨t, refuses⟩ := s
      obtain ⟨t', refuses'⟩ := s'
      obtain rfl : refuses = refuses' := (TableStore.mk.inj (Backing.transient.inj hkind)).2
      refine .transient refuses (Tables.sameRows_of_only (fun id ↦ ?_))
      exact congrArg TableStore.tables (Backing.transient.inj (h id))
    | _ => cases hkind
  | durable path t guards =>
    cases b' with
    | durable path' t' guards' =>
      obtain ⟨rfl, -, rfl⟩ := Backing.durable.inj hkind
      refine .durable path guards (Tables.sameRows_of_only (fun id ↦ ?_))
      exact (Backing.durable.inj (h id)).2.1
    | _ => cases hkind

end Backing

/-- Two stores with the same contents, in whatever order they keep them, and the same answer to
every question. -/
structure Outage.Alike (s s' : Outage Backing) : Prop where
  contents : s.store.SameContents s'.store
  error : s.error = s'.error
  find (id : PodId) : PodStore.find s id = PodStore.find s' id
  findNamed (name : String) : PodStore.findNamed s name = PodStore.findNamed s' name
  list : PodStore.list s = PodStore.list s'

theorem Outage.alike_of_only {s s' : Outage Backing} {k k' : KeyedStore} (hs : s.store.Holds k)
    (hs' : s'.store.Holds k')
    (h : ∀ id, Outage.mk (s.store.only id) s.error = ⟨s'.store.only id, s'.error⟩) :
    s.Alike s' := by
  have hR := Outage.holding Backing.holding
  have hσ := Outage.separates Backing.separates
  have hfind (id : PodId) : PodStore.find s id = PodStore.find s' id := by
    rw [← hσ.find, h, hσ.find]
  have hfind? (id : PodId) : k.find? id = k'.find? id := by
    have hsame := hfind id
    rw [hR.find hs, hR.find hs'] at hsame
    exact Except.ok.inj hsame
  have hperm : k.pods.Perm k'.pods :=
    KeyedStore.Sound.perm_of_find? hs'.distinct.ids hs.distinct.ids hfind?
  refine ⟨Backing.sameContents_of_only (fun id ↦ (Outage.mk.inj (h id)).1),
    (Outage.mk.inj (h default)).2, hfind, fun name ↦ ?_, ?_⟩
  · rw [hR.findNamed hs, hR.findNamed hs']
    exact congrArg Except.ok (find?_perm hperm hs'.distinct.names name)
  · rw [hR.list hs, hR.list hs', hs'.distinct.list_eq_of_perm hperm]

/-- Operations on two pods do not meet. An operation on one of them, whether or not it succeeds,
leaves the other as it is, by id, by name and in the list, and all but its own pod in their order.
In whichever order both are performed, they give the same answers and leave the same behind, unless
a database refuses one for what it sees of the other. -/
theorem operations_independent {b : Backing} (hb : b.Blank) (error : Option StoreError)
    (course : List Episode) {p q : PodId} (hne : p ≠ q) {o o' : Operation} (ho : o.On p)
    (ho' : o'.On q) :
    let s := Outage.through ⟨b, error⟩ course
    let after := (o.perform s).store
    (PodStore.find after q = PodStore.find s q ∧
      (∀ r, PodStore.find s q = .ok (some r) → PodStore.findNamed s r.name = .ok (some r) ∧
        PodStore.findNamed after r.name = .ok (some r)) ∧
      ∃ l l', PodStore.list s = .ok l ∧ PodStore.list after = .ok l' ∧
        l'.find? (fun r ↦ r.id == q) = l.find? (fun r ↦ r.id == q) ∧
        l'.filter (fun r ↦ r.id != p) = l.filter (fun r ↦ r.id != p)) ∧
    (s.store.Local →
      (o.perform (o'.perform s).store).answer = (o.perform s).answer ∧
      (o'.perform after).answer = (o'.perform s).answer ∧
      (o'.perform after).store.Alike (o.perform (o'.perform s).store).store) := by
  intro s after
  have hR := Outage.holding Backing.holding
  have hσ := Outage.separates Backing.separates
  have hlawful : Lawful (fun o : Outage Backing ↦ o.store.Sound) := Outage.lawful Backing.lawful
  obtain ⟨k, hk⟩ : ∃ k, s.store.Holds k := Outage.holds_of_blank hb error course
  obtain ⟨k', hk'⟩ : ∃ k', after.store.Holds k' := Outage.holds_follow hk (.operate o)
  have hfind : ∀ id, id ≠ p → PodStore.find after id = PodStore.find s id :=
    fun id hid ↦ hσ.find_perform_other hk.sound ho hid
  have hfind? : ∀ id, id ≠ p → k'.find? id = k.find? id := by
    intro id hid
    have hsame := hfind id hid
    rw [hR.find hk, hR.find hk'] at hsame
    exact Except.ok.inj hsame
  refine ⟨⟨hfind q hne.symm, fun r hr ↦ ?_, k.list, k'.list, hR.list hk, hR.list hk', ?_, ?_⟩,
    fun hlocal ↦ ?_⟩
  · have hr : k.find? q = some r := Except.ok.inj ((hR.find hk q).symm.trans hr)
    have hr' : k'.find? q = some r := (hfind? q hne.symm).trans hr
    rw [hR.findNamed hk, hR.findNamed hk', hk.distinct.findNamed?_eq_some hr,
      hk'.distinct.findNamed?_eq_some hr']
    exact ⟨rfl, rfl⟩
  · have hothers := hk.distinct.list_without_eq hk'.distinct hfind?
    rw [← List.head?_filter, ← List.head?_filter, ← filter_ne_filter hne.symm k.list,
      ← filter_ne_filter hne.symm k'.list, hothers]
  · exact hk.distinct.list_without_eq hk'.distinct hfind?
  · obtain ⟨_, hother⟩ := Outage.holds_follow hk (.operate o')
    obtain ⟨_, hfirst⟩ := Outage.holds_follow hk' (.operate o')
    obtain ⟨_, hsecond⟩ := Outage.holds_follow hother (.operate o)
    exact ⟨hσ.answer_perform_perform hk.sound hlawful hlocal hne ho ho',
      hσ.answer_perform_perform hk.sound hlawful hlocal hne.symm ho' ho,
      Outage.alike_of_only hfirst hsecond (hσ.perform_comm hk.sound hlawful hlocal hne ho ho')⟩

/-- Two pods with routes through the same worker. -/
def neighbours : List Episode :=
  [.operate (.create "1" "t1" ⟨"rack", "virsh", "default", "default", ∅⟩),
    .operate (.create "2" "t2" ⟨"blade", "virsh", "default", "default", ∅⟩),
    .operate (.apply "t3" "1" ⟨.blank, .ofList [("w", true)]⟩),
    .operate (.apply "t4" "2" ⟨.blank, .ofList [("w", false)]⟩)]

theorem operations_independent_neighbours :
    let s := Outage.through ⟨.durable "pods.db" .empty [], none⟩ neighbours
    let update := Operation.apply "t5" "1" ⟨.blank, .ofList [("v", true)]⟩
    let delete := Operation.delete "2"
    ((update.perform s).answer.failed = false ∧ (delete.perform s).answer.failed = false) ∧
      (update.perform (delete.perform s).store).answer = (update.perform s).answer ∧
      (delete.perform (update.perform s).store).answer = (delete.perform s).answer ∧
      (delete.perform (update.perform s).store).store.Alike
        (update.perform (delete.perform s).store).store := by
  intro s update delete
  obtain ⟨-, hcommute⟩ := operations_independent (.durable "pods.db" []) none neighbours
    (p := "1") (q := "2") (by decide) (o := update) (.apply _ _) .delete
  exact ⟨by decide +kernel, hcommute trivial⟩

end PodInventory
