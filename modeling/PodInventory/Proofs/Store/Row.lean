import PodInventory.Proofs.Address
import PodInventory.Proofs.Pod.Encoding
import PodInventory.Store.Row

namespace PodInventory.PodRow

open Decode Json

variable {row : PodRow} {r : PodRecord}

theorem readColumn_compactText {α : Type} {d : Decoder α} {j : Json} {a : α}
    (hd : ∀ n, Holds n j → d n = .ok a) (hj : j.Fits Document.depthLimit) :
    readColumn d j.compactText = .ok a := by
  rw [readColumn, ofText_compactText d hj hd]
  rfl

theorem readColumn_powerParameters (d : Dict String) :
    readColumn (dict string) (Json.dict .text d).compactText = .ok d :=
  readColumn_compactText ((dict_recovers string_recovers).written d)
    (fits_dict (fun _ _ ↦ trivial))

theorem readColumn_architectures (l : List String) :
    readColumn (list string) (Json.list (l.map .text)).compactText = .ok l :=
  readColumn_compactText ((list_recovers string_recovers).written l) (fits_list (fun _ _ ↦ trivial))

theorem readColumn_hints (h : Hints) : readColumn Hints.decode h.json.compactText = .ok h :=
  readColumn_compactText (Hints.takes_members.object.written h) (h.fits_json _)

theorem readColumn_storagePools (l : List StoragePool) :
    readColumn (list StoragePool.decode) (Json.list (l.map StoragePool.json)).compactText = .ok l :=
  readColumn_compactText ((list_recovers StoragePool.takes_members.object).written l)
    (fits_list (fun p _ ↦ p.fits_json _))

theorem readAddress_toText (a : Option Address) : readAddress (a.map Address.toText) = .ok a := by
  cases a with
  | none => rfl
  | some a => simp only [Option.map_some, readAddress, a.ofText?_toText]

/-- The record that a row without its routes stands for. -/
structure Reads (row : PodRow) (r : PodRecord) : Prop where
  id : row.id = r.id
  name : row.name = r.name
  kind : row.kind = r.kind
  zone : row.zone = r.zone
  pool : row.pool = r.pool
  powerParameters : readColumn (dict string) row.powerParameters = .ok r.powerParameters
  address : readAddress row.address = .ok r.address
  architectures : readColumn (list string) row.architectures = .ok r.discovered.architectures
  cores : row.cores.toUInt64.toUInt32 = r.discovered.cores
  cpuSpeed : row.cpuSpeed.toUInt64.toUInt32 = r.discovered.cpuSpeed
  memory : row.memory.toUInt64 = r.discovered.memory
  localStorage : row.localStorage.toUInt64 = r.discovered.localStorage
  hints : readColumn Hints.decode row.hints = .ok r.discovered.hints
  storagePools :
    readColumn (list StoragePool.decode) row.storagePools = .ok r.discovered.storagePools
  routable : r.routable = ∅
  version : row.version.toUInt64 = r.version
  createdAt : row.createdAt = r.createdAt
  updatedAt : row.updatedAt = r.updatedAt

theorem Reads.record_eq (h : row.Reads r) : row.record = .ok r := by
  rw [record, h.address, h.powerParameters, h.architectures, h.hints, h.storagePools]
  obtain ⟨id, name, kind, zone, pool, powerParameters, address, ⟨_, _, _, _, _, _, _⟩, routable,
    version, createdAt, updatedAt⟩ := r
  obtain ⟨rfl, rfl, rfl, rfl, rfl, -, -, -, rfl, rfl, rfl, rfl, -, -, rfl, rfl, rfl, rfl⟩ := h
  rfl

theorem reads_of_record_eq (h : row.record = .ok r) : row.Reads r := by
  simp only [record, bind, Except.bind] at h
  split at h
  · cases h
  rename_i haddress
  split at h
  · cases h
  rename_i hpower
  split at h
  · cases h
  rename_i harchitectures
  split at h
  · cases h
  rename_i hhints
  split at h
  · cases h
  rename_i hpools
  cases h
  exact ⟨rfl, rfl, rfl, rfl, rfl, hpower, haddress, harchitectures, rfl, rfl, rfl, rfl, hhints,
    hpools, rfl, rfl, rfl, rfl⟩

theorem toUInt64_toInt64 (w : UInt64) : w.toInt64.toUInt64 = w := rfl

theorem toUInt32_toUInt64 (w : UInt32) : w.toUInt64.toInt64.toUInt64.toUInt32 = w := by
  rw [toUInt64_toInt64, UInt32.toUInt32_toUInt64]

/-- A record reads back from its own row, up to its routes. -/
theorem reads_ofRecord (r : PodRecord) : (ofRecord r).Reads { r with routable := ∅ } where
  id := rfl
  name := rfl
  kind := rfl
  zone := rfl
  pool := rfl
  powerParameters := readColumn_powerParameters _
  address := readAddress_toText _
  architectures := readColumn_architectures _
  cores := toUInt32_toUInt64 _
  cpuSpeed := toUInt32_toUInt64 _
  memory := toUInt64_toInt64 _
  localStorage := toUInt64_toInt64 _
  hints := readColumn_hints _
  storagePools := readColumn_storagePools _
  routable := rfl
  version := toUInt64_toInt64 _
  createdAt := rfl
  updatedAt := rfl

/-- Overwriting the columns that an update writes changes what the row reads as in just these
places. -/
theorem Reads.withDiscovered (h : row.Reads r) (new : PodRecord) :
    (row.withDiscovered (ofRecord new).discovered).Reads
      { r with
        discovered := new.discovered
        version := new.version
        updatedAt := new.updatedAt } :=
  { h with
    architectures := readColumn_architectures _
    cores := toUInt32_toUInt64 _
    cpuSpeed := toUInt32_toUInt64 _
    memory := toUInt64_toInt64 _
    localStorage := toUInt64_toInt64 _
    hints := readColumn_hints _
    storagePools := readColumn_storagePools _
    version := toUInt64_toInt64 _
    updatedAt := rfl }

end PodInventory.PodRow
