import PodInventory.Store.Tables

namespace PodInventory

/-- A pod store on a database of two tables. -/
structure TableStore where
  tables : Tables
  refuses : Refusal := fun _ _ _ ↦ none

namespace TableStore

def empty : TableStore := { tables := .empty }

/-- What a transaction does once it has read what it needs. -/
structure Draft (α : Type) where
  answer : Except StoreError α
  statements : List Statement
  events : List Event := []
  notes : List Note := []

/-- A transaction: what it reads, and what it goes on to do with the tables that it finds. -/
structure Transaction (α : Type) where
  reads : List Statement
  body : Tables → Except StoreError (Draft α)

/-- The store once a connection is dropped. Whatever was not committed is rolled back. -/
def dropping (s : TableStore) (c : Connection) : TableStore := { s with tables := c.committed }

def failing {α : Type} (s : TableStore) (c : Connection) (e : StoreError) : Written TableStore α :=
  { answer := .error e, store := s.dropping c }

/-- Runs a transaction up to its end or its first failure. -/
def transact {α : Type} (s : TableStore) (x : Transaction α) : Written TableStore α :=
  match (Connection.opened s.tables).perform s.refuses 0 (.begin :: x.reads) with
  | (some message, c) => s.failing c (.internal message)
  | (none, c) =>
    match x.body c.working with
    | .error e => s.failing c e
    | .ok draft =>
      match c.perform s.refuses (x.reads.length + 1) draft.statements with
      | (some message, c) => s.failing c (.internal message)
      | (none, c) =>
        match draft.answer with
        | .error e => s.failing c e
        | .ok a =>
          { answer := .ok a
            store := s.dropping c
            events := draft.events
            notes := draft.notes }

def creation (id : PodId) (time : String) (pod : NewPod) : Transaction PodRecord where
  reads := [.lookUpName pod.name]
  body t :=
    if t.pods.any (fun r ↦ r.name == pod.name) then .error (.nameTaken pod.name)
    else
      let r := PodRecord.create id time pod
      .ok { answer := .ok r
            statements := [.insertPod (.ofRecord r), .commit]
            events := [.created r] }

/-- The statements that write a changed record. -/
def replacement (r : PodRecord) : List Statement :=
  [.updatePod r.id (PodRow.ofRecord r).discovered, .deleteRoutes r.id]
    ++ r.routeRows.map .insertRoute ++ [.commit]

/-- An update that brings nothing new ends without a commit. -/
def change (time : String) (id : PodId) (u : Update) : Transaction PodRecord where
  reads := [.lookUpPod id]
  body t := do
    match ← t.find id with
    | none => throw (.missing id)
    | some old =>
      if old.differs u then
        let new := old.apply time u
        return { answer := .ok new, statements := replacement new, events := [.synced old new] }
      else
        return { answer := .ok old
                 statements := []
                 notes := [⟨.debug, "Pod " ++ id ++ " unchanged, nothing to write"⟩] }

/-- Whether there was a pod to delete shows only once both statements have run. -/
def deletion (id : PodId) : Transaction Unit where
  reads := []
  body t :=
    if t.pods.any (fun r ↦ r.id == id) then
      .ok { answer := .ok ()
            statements := [.deleteRoutes id, .deletePod id, .commit]
            events := [.deleted id] }
    else .ok { answer := .error (.missing id), statements := [.deleteRoutes id, .deletePod id] }

def create (s : TableStore) (id : PodId) (time : String) (pod : NewPod) :
    Written TableStore PodRecord :=
  s.transact (creation id time pod)

def apply (s : TableStore) (time : String) (id : PodId) (u : Update) :
    Written TableStore PodRecord :=
  s.transact (change time id u)

def delete (s : TableStore) (id : PodId) : Written TableStore Unit := s.transact (deletion id)

instance : PodStore TableStore where
  create := create
  apply := apply
  delete := delete
  find s := s.tables.find
  findNamed s := s.tables.findNamed
  list s := s.tables.list

/-- A guard on one kind of write, for the routes of one worker or the pod of one name. -/
inductive Guard
  | routeInsert (worker : WorkerId)
  | routeDelete (worker : WorkerId)
  | podInsert (name : String)
  | podUpdate (name : String)
  | podDelete (name : String)
  deriving DecidableEq, Inhabited

def Guard.stops (t : Tables) : Guard → Statement → Bool
  | .routeInsert worker, .insertRoute row => row.worker == worker
  | .routeDelete worker, .deleteRoutes pod =>
    t.routes.any (fun r ↦ r.pod == pod && r.worker == worker)
  | .podInsert name, .insertPod row => row.name == name
  | .podUpdate name, .updatePod id _ => t.pods.any (fun r ↦ r.id == id && r.name == name)
  | .podDelete name, .deletePod id => t.pods.any (fun r ↦ r.id == id && r.name == name)
  | _, _ => false

def guarded (guards : List Guard) : Refusal := fun _ s t ↦
  if guards.any (fun g ↦ g.stops t s) then some (Statement.failed "1811" "write rejected") else none

/-- Overwrites one column of a pod behind the store's back. -/
def overwrite? (s : TableStore) (id : PodId) (column : String) (cell : Cell) :
    Option TableStore := do
  let pods ← s.tables.pods.mapM (fun r ↦ if r.id = id then r.overwrite? column cell else some r)
  return { s with tables := { s.tables with pods } }

end TableStore

end PodInventory
