import PodInventory.Sync

namespace PodInventory

/-- One step on a store. A write comes with the id and the time that it uses. -/
inductive Operation
  | create (id : PodId) (time : String) (pod : NewPod)
  | apply (time : String) (id : PodId) (update : Update)
  | reconcile (time : String) (pod : PodRecord) (result : Partition Snapshot)
  | commit (time : String) (sync : Sync)
  | delete (id : PodId)
  | find (id : PodId)
  | findNamed (name : String)
  | list
  deriving Inhabited

inductive Answer
  | record (result : Except StoreError PodRecord)
  | reconciled (result : Except SyncError PodRecord)
  | deleted (result : Except StoreError Unit)
  | found (result : Except StoreError (Option PodRecord))
  | listed (result : Except StoreError (List PodRecord))

instance : Inhabited Answer := ⟨.deleted (.ok ())⟩

/-- The record that an answer hands out. -/
def Answer.record? : Answer → Option PodRecord
  | .record result => result.toOption
  | .reconciled result => result.toOption
  | _ => none

structure Performed (σ : Type) where
  answer : Answer
  store : σ
  events : List Event := []
  notes : List Note := []

namespace Operation

def written {σ α : Type} (wrap : Except StoreError α → Answer) (w : Written σ α) : Performed σ :=
  ⟨wrap w.answer, w.store, w.events, w.notes⟩

def settled {σ : Type} (r : Reconciled σ) : Performed σ :=
  ⟨.reconciled r.answer, r.store, r.events, r.notes⟩

variable {σ : Type} [PodStore σ]

def perform (store : σ) : Operation → Performed σ
  | .create id time pod => written .record (PodStore.create store id time pod)
  | .apply time id update => written .record (PodStore.apply store time id update)
  | .reconcile time pod result => settled (PodInventory.reconcile store time pod result)
  | .commit time sync => settled (sync.commit store time)
  | .delete id => written .deleted (PodStore.delete store id)
  | .find id => { answer := .found (PodStore.find store id), store }
  | .findNamed name => { answer := .found (PodStore.findNamed store name), store }
  | .list => { answer := .listed (PodStore.list store), store }

/-- Performs operations one after the other. The answers stand in their order, and so do the events
of all of them. -/
def performAll (store : σ) : List Operation → List Answer × σ × List Event
  | [] => ([], store, [])
  | o :: rest =>
    let p := o.perform store
    let (answers, store, events) := performAll p.store rest
    (p.answer :: answers, store, p.events ++ events)

end Operation

end PodInventory
