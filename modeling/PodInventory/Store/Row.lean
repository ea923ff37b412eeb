import PodInventory.Json.Render
import PodInventory.Store.Affinity
import PodInventory.Store.Basic

namespace PodInventory

/-- A row of the table of pods. Structured columns hold JSON text, numbers are signed words. Every
cell is of the type that its column is declared with. A database also takes cells of other types, on
which a reader of the row panics. They are left out. -/
structure PodRow where
  id : PodId
  name : String
  kind : String
  zone : String
  pool : String
  powerParameters : String
  address : Option String
  architectures : String
  cores : Int64
  cpuSpeed : Int64
  memory : Int64
  localStorage : Int64
  hints : String
  storagePools : String
  version : Int64
  createdAt : String
  updatedAt : String
  deriving DecidableEq, Inhabited

/-- A row of the table of routes, whose cells are of the declared types as well. -/
structure RouteRow where
  pod : PodId
  worker : WorkerId
  routable : Bool
  deriving DecidableEq, Inhabited

/-- The columns that an update writes. -/
structure Discovered where
  architectures : String
  cores : Int64
  cpuSpeed : Int64
  memory : Int64
  localStorage : Int64
  hints : String
  storagePools : String
  version : Int64
  updatedAt : String
  deriving DecidableEq, Inhabited

namespace PodRow

def ofRecord (r : PodRecord) : PodRow where
  id := r.id
  name := r.name
  kind := r.kind
  zone := r.zone
  pool := r.pool
  powerParameters := (Json.dict .text r.powerParameters).compactText
  address := r.address.map Address.toText
  architectures := (Json.list (r.discovered.architectures.map .text)).compactText
  cores := r.discovered.cores.toUInt64.toInt64
  cpuSpeed := r.discovered.cpuSpeed.toUInt64.toInt64
  memory := r.discovered.memory.toInt64
  localStorage := r.discovered.localStorage.toInt64
  hints := r.discovered.hints.json.compactText
  storagePools := (Json.list (r.discovered.storagePools.map StoragePool.json)).compactText
  version := r.version.toInt64
  createdAt := r.createdAt
  updatedAt := r.updatedAt

def discovered (row : PodRow) : Discovered where
  architectures := row.architectures
  cores := row.cores
  cpuSpeed := row.cpuSpeed
  memory := row.memory
  localStorage := row.localStorage
  hints := row.hints
  storagePools := row.storagePools
  version := row.version
  updatedAt := row.updatedAt

def withDiscovered (row : PodRow) (d : Discovered) : PodRow :=
  { row with
    architectures := d.architectures
    cores := d.cores
    cpuSpeed := d.cpuSpeed
    memory := d.memory
    localStorage := d.localStorage
    hints := d.hints
    storagePools := d.storagePools
    version := d.version
    updatedAt := d.updatedAt }

def readAddress : Option String → Except StoreError (Option Address)
  | none => .ok none
  | some s =>
    match Address.ofText? s with
    | some a => .ok (some a)
    | none =>
      .error (.internal ("bad ip address '" ++ s ++ "': " ++ Reason.badAddress.words))

def readColumn {α : Type} (d : Decode.Decoder α) (s : String) : Except StoreError α :=
  (Decode.ofText d s).mapError (fun f ↦ .internal ("encoding: " ++ f.message))

open Decode in
/-- The record of a row, without its routes. -/
def record (row : PodRow) : Except StoreError PodRecord := do
  let address ← readAddress row.address
  let powerParameters ← readColumn (dict string) row.powerParameters
  let architectures ← readColumn (list string) row.architectures
  let hints ← readColumn Hints.decode row.hints
  let storagePools ← readColumn (list StoragePool.decode) row.storagePools
  return {
    id := row.id
    name := row.name
    kind := row.kind
    zone := row.zone
    pool := row.pool
    powerParameters
    address
    discovered := {
      architectures
      cores := row.cores.toUInt64.toUInt32
      cpuSpeed := row.cpuSpeed.toUInt64.toUInt32
      memory := row.memory.toUInt64
      localStorage := row.localStorage.toUInt64
      hints
      storagePools }
    routable := ∅
    version := row.version.toUInt64
    createdAt := row.createdAt
    updatedAt := row.updatedAt }

end PodRow

def PodRecord.routeRows (r : PodRecord) : List RouteRow :=
  r.routable.entries.map (fun e ↦ ⟨r.id, e.1, e.2⟩)

/-- The content of one column. -/
inductive Cell
  | null
  | text (value : String)
  | number (value : Int64)
  deriving DecidableEq, Inhabited

namespace Cell

/-- A column of text takes the digits of a number. -/
def text? : Cell → Option String
  | .text s => some s
  | .number n => some (.ofList (Number.integer n.toInt).text)
  | .null => none

/-- A column of integers takes a text that is written as one. -/
def number? : Cell → Option Int64
  | .number n => some n
  | .text s => integerOfText? s
  | .null => none

def optional? : Cell → Option (Option String)
  | .null => some none
  | c => c.text?.map some

end Cell

/-- Overwrites one column by name. Nothing is left where a row cannot hold the cell. These are more
cells than a database turns down: it keeps a text that is no integer in a column of integers, which
is left out here. -/
def PodRow.overwrite? (row : PodRow) (column : String) (cell : Cell) : Option PodRow :=
  match column with
  | "id" => cell.text?.map (fun s ↦ { row with id := s })
  | "name" => cell.text?.map (fun s ↦ { row with name := s })
  | "pod_type" => cell.text?.map (fun s ↦ { row with kind := s })
  | "zone" => cell.text?.map (fun s ↦ { row with zone := s })
  | "pool" => cell.text?.map (fun s ↦ { row with pool := s })
  | "power_parameters" => cell.text?.map (fun s ↦ { row with powerParameters := s })
  | "ip_address" => cell.optional?.map (fun s ↦ { row with address := s })
  | "architectures" => cell.text?.map (fun s ↦ { row with architectures := s })
  | "cores" => cell.number?.map (fun n ↦ { row with cores := n })
  | "cpu_speed" => cell.number?.map (fun n ↦ { row with cpuSpeed := n })
  | "memory" => cell.number?.map (fun n ↦ { row with memory := n })
  | "local_storage" => cell.number?.map (fun n ↦ { row with localStorage := n })
  | "hints" => cell.text?.map (fun s ↦ { row with hints := s })
  | "storage_pools" => cell.text?.map (fun s ↦ { row with storagePools := s })
  | "version" => cell.number?.map (fun n ↦ { row with version := n })
  | "created_at" => cell.text?.map (fun s ↦ { row with createdAt := s })
  | "updated_at" => cell.text?.map (fun s ↦ { row with updatedAt := s })
  | _ => none

end PodInventory
