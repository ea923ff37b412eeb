import PodInventory.Store.Basic

namespace PodInventory

/-- Pods kept in memory, one record for an id, in no particular order. -/
structure KeyedStore where
  pods : List PodRecord
  deriving DecidableEq, Inhabited

namespace KeyedStore

def empty : KeyedStore := ⟨[]⟩

def find? (s : KeyedStore) (id : PodId) : Option PodRecord := s.pods.find? (fun r ↦ r.id == id)

def findNamed? (s : KeyedStore) (name : String) : Option PodRecord :=
  s.pods.find? (fun r ↦ r.name == name)

def without (s : KeyedStore) (id : PodId) : List PodRecord := s.pods.filter (fun r ↦ r.id != id)

/-- The pods by ascending name. -/
def list (s : KeyedStore) : List PodRecord := s.pods.mergeSort (fun a b ↦ a.name ≤ b.name)

def create (s : KeyedStore) (id : PodId) (time : String) (pod : NewPod) :
    Written KeyedStore PodRecord :=
  match s.findNamed? pod.name with
  | some _ => { answer := .error (.nameTaken pod.name), store := s }
  | none =>
    let r := PodRecord.create id time pod
    { answer := .ok r, store := ⟨r :: s.without id⟩, events := [.created r] }

def apply (s : KeyedStore) (time : String) (id : PodId) (u : Update) :
    Written KeyedStore PodRecord :=
  match s.find? id with
  | none => { answer := .error (.missing id), store := s }
  | some old =>
    if old.differs u then
      let new := old.apply time u
      { answer := .ok new, store := ⟨new :: s.without id⟩, events := [.synced old new] }
    else { answer := .ok old, store := s }

def delete (s : KeyedStore) (id : PodId) : Written KeyedStore Unit :=
  match s.find? id with
  | none => { answer := .error (.missing id), store := s }
  | some _ => { answer := .ok (), store := ⟨s.without id⟩, events := [.deleted id] }

instance : PodStore KeyedStore where
  create := create
  apply := apply
  delete := delete
  find s id := .ok (s.find? id)
  findNamed s name := .ok (s.findNamed? name)
  list s := .ok s.list

end KeyedStore

end PodInventory
