import PodInventory.Failure
import PodInventory.FanOut
import PodInventory.Text.Blank

namespace PodInventory

/-- What is discovered: a virtualization host or a power chassis. -/
inductive Target
  | pod
  | chassis
  deriving DecidableEq, Inhabited

def Target.method : Target → String
  | .pod => "DiscoverPod"
  | .chassis => "DiscoverChassis"

/-- The name of a kind of target, under which a reply also holds its snapshot. -/
def Target.name : Target → String
  | .pod => "pod"
  | .chassis => "chassis"

/-- The arguments of a discovery. Id and name are those of a record that exists already. -/
structure Request where
  kind : String
  context : Dict String
  podId : Option PodId
  name : Option String
  deriving DecidableEq, Inhabited

namespace Request

def ofPod (pod : PodRecord) : Request := ⟨pod.kind, pod.powerParameters, some pod.id, some pod.name⟩

def json (r : Request) : Json :=
  .object [("context", .dict .text r.context), ("name", .optional .text r.name),
    ("pod_id", .optional .text r.podId), ("type", .text r.kind)]

def call (r : Request) (target : Target) : Call := ⟨target.method, r.json⟩

end Request

namespace Discovery

def defaultTimeout : Duration := .ofMillis 120000

def decodeReply (target : Target) (reply : Json) : Outcome Snapshot :=
  match reply.member? target.name with
  | none => .error (.invalidReply ("reply has no '" ++ target.name ++ "'"))
  | some payload =>
    (Decode.ofJson Snapshot.decode payload).mapError (fun f ↦ .invalidReply f.message)

/-- A discovery that was carried out. -/
structure Report where
  call : Call
  result : Partition Snapshot
  elapsed : Nat
  notes : List Note
  deriving Inhabited

def report (target : Target) (request : Request) (workers : List Worker) (timeout : Duration) :
    Report :=
  let call := request.call target
  let result := (FanOut.result timeout workers).tryMap (decodeReply target)
  { call
    result
    elapsed := FanOut.elapsed timeout workers
    notes := FanOut.notes call timeout workers ++
      [⟨.info, "Discovered " ++ target.name ++ " '" ++ request.kind ++ "' via "
        ++ shown result.succeeded.size ++ " of " ++ shown result.size ++ " workers"⟩] }

/-- Asks every worker. Only a request that names no type fails, and then no worker is called. -/
def run (target : Target) (request : Request) (workers : List Worker) (timeout : Duration) :
    Except SyncError Report :=
  if Text.allBlank request.kind then .error (.invalidTarget (target.name ++ " type is empty"))
  else .ok (report target request workers timeout)

end Discovery

end PodInventory
