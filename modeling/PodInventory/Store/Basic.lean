import PodInventory.Failure
import PodInventory.Note

namespace PodInventory

/-- A change of the stored pods. -/
inductive Event
  | created (pod : PodRecord)
  | synced (old new : PodRecord)
  | deleted (id : PodId)
  deriving DecidableEq, Inhabited

/-- What a write leaves behind. A failed one leaves the store as it was and emits nothing. -/
structure Written (σ α : Type) where
  answer : Except StoreError α
  store : σ
  events : List Event := []
  notes : List Note := []

/-- A store of pod records. A write is given the id and the time that it would use. -/
class PodStore (σ : Type) where
  create : σ → PodId → String → NewPod → Written σ PodRecord
  apply : σ → String → PodId → Update → Written σ PodRecord
  delete : σ → PodId → Written σ Unit
  find : σ → PodId → Except StoreError (Option PodRecord)
  findNamed : σ → String → Except StoreError (Option PodRecord)
  list : σ → Except StoreError (List PodRecord)

/-- The pod with a key as its id, or if there is none the pod with that name. -/
def PodStore.resolve {σ : Type} [PodStore σ] (store : σ) (key : String) :
    Except StoreError (Option PodRecord) := do
  match ← PodStore.find store key with
  | some r => return some r
  | none => PodStore.findNamed store key

def StoreError.missing (id : PodId) : StoreError := .notFound ("pod " ++ id)

def StoreError.nameTaken (name : String) : StoreError :=
  .conflict ("pod '" ++ name ++ "' already exists")

/-- A store whose updates fail as long as it has an error to give. -/
structure Outage (σ : Type) where
  store : σ
  error : Option StoreError := none

namespace Outage

variable {σ : Type} [PodStore σ]

def lift {α : Type} (error : Option StoreError) (w : Written σ α) : Written (Outage σ) α :=
  ⟨w.answer, ⟨w.store, error⟩, w.events, w.notes⟩

instance : PodStore (Outage σ) where
  create o id time pod := lift o.error (PodStore.create o.store id time pod)
  apply o time id update :=
    match o.error with
    | some e => { answer := .error e, store := o }
    | none => lift none (PodStore.apply o.store time id update)
  delete o id := lift o.error (PodStore.delete o.store id)
  find o := PodStore.find o.store
  findNamed o := PodStore.findNamed o.store
  list o := PodStore.list o.store

end Outage

end PodInventory
