import PodInventory.Store.Row

namespace PodInventory

/-- The two tables of a pod database. -/
structure Tables where
  pods : List PodRow
  routes : List RouteRow
  deriving DecidableEq, Inhabited

inductive Statement
  | begin
  | commit
  | lookUpName (name : String)
  | lookUpPod (id : PodId)
  | insertPod (row : PodRow)
  | updatePod (id : PodId) (columns : Discovered)
  | deletePod (id : PodId)
  | insertRoute (row : RouteRow)
  | deleteRoutes (pod : PodId)
  deriving DecidableEq, Inhabited

namespace Statement

def effect (t : Tables) : Statement → Tables
  | .insertPod row => { t with pods := t.pods ++ [row] }
  | .updatePod id columns =>
    { t with pods := t.pods.map (fun r ↦ if r.id = id then r.withDiscovered columns else r) }
  | .deletePod id =>
    ⟨t.pods.filter (fun r ↦ r.id != id), t.routes.filter (fun r ↦ r.pod != id)⟩
  | .insertRoute row => { t with routes := t.routes ++ [row] }
  | .deleteRoutes pod => { t with routes := t.routes.filter (fun r ↦ r.pod != pod) }
  | _ => t

def failed (code message : String) : String :=
  "error returned from database: (code: " ++ code ++ ") " ++ message

/-- The message of a broken key: ids, names and pairs of pod and worker are unique, and a route
belongs to a pod. -/
def violation? (t : Tables) : Statement → Option String
  | .insertPod row =>
    if t.pods.any (fun r ↦ r.id == row.id) then
      some (failed "1555" "UNIQUE constraint failed: pods.id")
    else if t.pods.any (fun r ↦ r.name == row.name) then
      some (failed "2067" "UNIQUE constraint failed: pods.name")
    else none
  | .insertRoute row =>
    if t.routes.any (fun r ↦ r.pod == row.pod && r.worker == row.worker) then
      some (failed "1555" "UNIQUE constraint failed: pod_routes.pod_id, pod_routes.worker_id")
    else if !t.pods.any (fun r ↦ r.id == row.pod) then
      some (failed "787" "FOREIGN KEY constraint failed")
    else none
  | _ => none

end Statement

/-- Which statements a database turns down, with its message. The number is the position of the
statement in its transaction. -/
abbrev Refusal := Nat → Statement → Tables → Option String

/-- A database as one connection sees it: the tables of the last commit, and those of the transaction
under way. What a transaction has not committed is lost with it. -/
structure Connection where
  committed : Tables
  working : Tables
  deriving DecidableEq, Inhabited

namespace Connection

def opened (t : Tables) : Connection := ⟨t, t⟩

def after (c : Connection) : Statement → Connection
  | .begin => .opened c.committed
  | .commit => .opened c.working
  | s => { c with working := s.effect c.working }

/-- Runs statements one after the other up to the first that fails, and tells its message. -/
def perform (refuses : Refusal) (position : Nat) :
    List Statement → Connection → Option String × Connection
  | [], c => (none, c)
  | s :: rest, c =>
    match (refuses position s c.working).or (s.violation? c.working) with
    | some message => (some message, c)
    | none => perform refuses (position + 1) rest (c.after s)

end Connection

namespace Tables

def empty : Tables := ⟨[], []⟩

/-- A row of pods joined with one of its routes. -/
abbrev Joined := PodRow × Option RouteRow

def joinedWith (t : Tables) (row : PodRow) : List Joined :=
  match t.routes.filter (fun r ↦ r.pod == row.id) with
  | [] => [(row, none)]
  | routes => routes.map (fun r ↦ (row, some r))

/-- The order of a query's rows: by name, then id, then worker, a missing worker first. -/
def Joined.before (a b : Joined) : Bool :=
  if a.1.name = b.1.name then
    if a.1.id = b.1.id then
      match a.2, b.2 with
      | none, _ => true
      | some _, none => false
      | some r, some s => r.worker ≤ s.worker
    else a.1.id < b.1.id
  else a.1.name < b.1.name

def select (t : Tables) (p : PodRow → Bool) : List Joined :=
  ((t.pods.filter p).flatMap t.joinedWith).mergeSort Joined.before

def addRoute (r : PodRecord) : Option RouteRow → PodRecord
  | none => r
  | some route => { r with routable := r.routable.insert route.worker route.routable }

/-- Gathers adjacent rows of one pod into a record. The record under way comes first. -/
def gather (current : PodRecord) : List Joined → Except StoreError (List PodRecord)
  | [] => .ok [current]
  | (row, route) :: rest =>
    if row.id = current.id then gather (addRoute current route) rest
    else do
      let next ← row.record
      return current :: (← gather (addRoute next route) rest)

def records : List Joined → Except StoreError (List PodRecord)
  | [] => .ok []
  | (row, route) :: rest => do gather (addRoute (← row.record) route) rest

def query (t : Tables) (p : PodRow → Bool) : Except StoreError (List PodRecord) :=
  records (t.select p)

def list (t : Tables) : Except StoreError (List PodRecord) := t.query (fun _ ↦ true)

def find (t : Tables) (id : PodId) : Except StoreError (Option PodRecord) :=
  (t.query (fun r ↦ r.id == id)).map List.head?

def findNamed (t : Tables) (name : String) : Except StoreError (Option PodRecord) :=
  (t.query (fun r ↦ r.name == name)).map List.head?

end Tables

end PodInventory
