import PodInventory.Json.Decode

namespace PodInventory

/-- Capacity that can safely be handed out. Speed is in MHz, memory in MiB, storage in bytes. -/
structure Hints where
  cores : UInt32
  cpuSpeed : UInt32
  memory : UInt64
  localStorage : UInt64
  deriving DecidableEq, Inhabited

structure StoragePool where
  id : String
  name : String
  kind : String
  path : String
  storage : UInt64
  deriving DecidableEq, Inhabited

/-- One worker's view of a pod or chassis. -/
structure Snapshot where
  architectures : List String
  cores : UInt32
  cpuSpeed : UInt32
  memory : UInt64
  localStorage : UInt64
  hints : Hints
  storagePools : List StoragePool
  deriving DecidableEq, Inhabited

def Hints.zero : Hints := ⟨0, 0, 0, 0⟩

/-- What is known of a pod before its first discovery. -/
def Snapshot.blank : Snapshot := ⟨[], 0, 0, 0, 0, .zero, []⟩

namespace Hints

def json (h : Hints) : Json :=
  .object [("cores", .nat h.cores.toNat), ("cpu_speed", .nat h.cpuSpeed.toNat),
    ("memory", .nat h.memory.toNat), ("local_storage", .nat h.localStorage.toNat)]

open Decode

def layout : Layout where
  title := "struct DiscoveredPodHints"
  fields := [.of "cores" word32, .of "cpu_speed" word32, .of "memory" word64,
    .of "local_storage" word64]

def decode : Decoder Hints := fun n ↦ do
  let fields ← layout.read n
  return {
    cores := ← fields.need "cores" word32
    cpuSpeed := ← fields.need "cpu_speed" word32
    memory := ← fields.need "memory" word64
    localStorage := ← fields.need "local_storage" word64 }

end Hints

namespace StoragePool

def json (p : StoragePool) : Json :=
  .object [("id", .text p.id), ("name", .text p.name), ("type", .text p.kind),
    ("path", .text p.path), ("storage", .nat p.storage.toNat)]

open Decode

def layout : Layout where
  title := "struct DiscoveredPodStoragePool"
  fields := [.of "id" string, .of "name" string, .of "type" string, .of "path" string,
    .of "storage" word64]

def decode : Decoder StoragePool := fun n ↦ do
  let fields ← layout.read n
  return {
    id := ← fields.need "id" string
    name := ← fields.need "name" string
    kind := ← fields.need "type" string
    path := ← fields.need "path" string
    storage := ← fields.need "storage" word64 }

end StoragePool

namespace Snapshot

def json (s : Snapshot) : Json :=
  .object [("architectures", .list (s.architectures.map .text)), ("cores", .nat s.cores.toNat),
    ("cpu_speed", .nat s.cpuSpeed.toNat), ("memory", .nat s.memory.toNat),
    ("local_storage", .nat s.localStorage.toNat), ("hints", s.hints.json),
    ("storage_pools", .list (s.storagePools.map StoragePool.json))]

open Decode

def layout : Layout where
  title := "struct DiscoveredPod"
  fields := [.defaulted "architectures" (list string), .of "cores" word32,
    .of "cpu_speed" word32, .of "memory" word64, .of "local_storage" word64,
    .defaulted "hints" Hints.decode, .defaulted "storage_pools" (list StoragePool.decode)]

/-- Architectures, hints and storage pools may be missing. -/
def decode : Decoder Snapshot := fun n ↦ do
  let fields ← layout.read n
  return {
    architectures := ← fields.getD "architectures" (list string) []
    cores := ← fields.need "cores" word32
    cpuSpeed := ← fields.need "cpu_speed" word32
    memory := ← fields.need "memory" word64
    localStorage := ← fields.need "local_storage" word64
    hints := ← fields.getD "hints" Hints.decode .zero
    storagePools := ← fields.getD "storage_pools" (list StoragePool.decode) [] }

end Snapshot

end PodInventory
