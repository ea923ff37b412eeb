import PodInventory.Pod.Snapshot
import PodInventory.PowerAddress

namespace PodInventory

abbrev PodId := String

abbrev WorkerId := String

/-- What a user gives to have a pod kept. -/
structure NewPod where
  name : String
  kind : String
  zone : String
  pool : String
  powerParameters : Dict String
  deriving DecidableEq, Inhabited

/-- All that a reconciliation writes. The routes hold every worker that took part in a discovery,
and whether it answered. -/
structure Update where
  discovered : Snapshot
  routable : Dict Bool
  deriving DecidableEq, Inhabited

structure PodRecord where
  id : PodId
  name : String
  kind : String
  zone : String
  pool : String
  powerParameters : Dict String
  address : Option Address
  discovered : Snapshot
  routable : Dict Bool
  version : UInt64
  createdAt : String
  updatedAt : String
  deriving DecidableEq, Inhabited

namespace PodRecord

/-- The address that the power parameters name. -/
def addressOf (powerParameters : Dict String) : Option Address :=
  (powerParameters.get? "power_address").bind PowerAddress.ip?

def create (id : PodId) (time : String) (pod : NewPod) : PodRecord where
  id := id
  name := pod.name
  kind := pod.kind
  zone := pod.zone
  pool := pod.pool
  powerParameters := pod.powerParameters
  address := addressOf pod.powerParameters
  discovered := .blank
  routable := ∅
  version := 1
  createdAt := time
  updatedAt := time

def differs (r : PodRecord) (u : Update) : Bool :=
  r.discovered != u.discovered || r.routable != u.routable

/-- An update that brings nothing new leaves the record as it is. Any other takes the place of all
that was discovered before. -/
def apply (r : PodRecord) (time : String) (u : Update) : PodRecord :=
  if r.differs u then
    { r with
      discovered := u.discovered
      routable := u.routable
      version := r.version + 1
      updatedAt := time }
  else r

def routableWorkers (r : PodRecord) : List WorkerId := (r.routable.filter (fun _ b ↦ b)).keys

def unroutableWorkers (r : PodRecord) : List WorkerId := (r.routable.filter (fun _ b ↦ !b)).keys

def json (r : PodRecord) : Json :=
  .object [("id", .text r.id), ("name", .text r.name), ("pod_type", .text r.kind),
    ("zone", .text r.zone), ("pool", .text r.pool),
    ("power_parameters", .dict .text r.powerParameters),
    ("ip_address", .optional (fun a ↦ .text a.toText) r.address),
    ("architectures", .list (r.discovered.architectures.map .text)),
    ("cores", .nat r.discovered.cores.toNat), ("cpu_speed", .nat r.discovered.cpuSpeed.toNat),
    ("memory", .nat r.discovered.memory.toNat),
    ("local_storage", .nat r.discovered.localStorage.toNat), ("hints", r.discovered.hints.json),
    ("storage_pools", .list (r.discovered.storagePools.map StoragePool.json)),
    ("routable", .dict .bool r.routable), ("version", .nat r.version.toNat),
    ("created_at", .text r.createdAt), ("updated_at", .text r.updatedAt)]

open Decode

def layout : Layout where
  title := "struct PodRecord"
  fields := [.of "id" string, .of "name" string, .of "pod_type" string, .of "zone" string,
    .of "pool" string, .of "power_parameters" (dict string),
    .nullable "ip_address" (orNull ipAddress), .of "architectures" (list string),
    .of "cores" word32, .of "cpu_speed" word32, .of "memory" word64, .of "local_storage" word64,
    .of "hints" Hints.decode, .of "storage_pools" (list StoragePool.decode),
    .of "routable" (dict bool), .of "version" word64, .of "created_at" string,
    .of "updated_at" string]

def decode : Decoder PodRecord := fun n ↦ do
  let fields ← layout.read n
  return {
    id := ← fields.need "id" string
    name := ← fields.need "name" string
    kind := ← fields.need "pod_type" string
    zone := ← fields.need "zone" string
    pool := ← fields.need "pool" string
    powerParameters := ← fields.need "power_parameters" (dict string)
    address := ← fields.getD "ip_address" (orNull ipAddress) none
    discovered := {
      architectures := ← fields.need "architectures" (list string)
      cores := ← fields.need "cores" word32
      cpuSpeed := ← fields.need "cpu_speed" word32
      memory := ← fields.need "memory" word64
      localStorage := ← fields.need "local_storage" word64
      hints := ← fields.need "hints" Hints.decode
      storagePools := ← fields.need "storage_pools" (list StoragePool.decode) }
    routable := ← fields.need "routable" (dict bool)
    version := ← fields.need "version" word64
    createdAt := ← fields.need "created_at" string
    updatedAt := ← fields.need "updated_at" string }

end PodRecord

end PodInventory
