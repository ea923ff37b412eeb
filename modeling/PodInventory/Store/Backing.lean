import PodInventory.Store.Disk
import PodInventory.Store.Keyed

namespace PodInventory

/-- Where a service keeps its pods: in memory, in a database of its own that goes with it, or in
one that stays on a disk at a path. -/
inductive Backing
  | memory (store : KeyedStore)
  | transient (store : TableStore)
  | durable (path : String) (tables : Tables) (guards : List TableStore.Guard)

namespace Backing

instance : Inhabited Backing := ⟨.memory .empty⟩

def table (tables : Tables) (guards : List TableStore.Guard) : TableStore :=
  ⟨tables, TableStore.guarded guards⟩

def map {σ α : Type} (f : σ → Backing) (w : Written σ α) : Written Backing α :=
  ⟨w.answer, f w.store, w.events, w.notes⟩

/-- Runs a write on whichever store there is. -/
def write {α : Type} (memory : KeyedStore → Written KeyedStore α)
    (table : TableStore → Written TableStore α) : Backing → Written Backing α
  | .memory s => map .memory (memory s)
  | .transient s => map .transient (table s)
  | .durable path tables guards =>
    map (fun s ↦ .durable path s.tables guards) (table (Backing.table tables guards))

def read {α : Type} (memory : KeyedStore → α) (table : TableStore → α) : Backing → α
  | .memory s => memory s
  | .transient s => table s
  | .durable _ tables guards => table (Backing.table tables guards)

instance : PodStore Backing where
  create b id time pod :=
    b.write (PodStore.create · id time pod) (PodStore.create · id time pod)
  apply b time id update :=
    b.write (PodStore.apply · time id update) (PodStore.apply · time id update)
  delete b id := b.write (PodStore.delete · id) (PodStore.delete · id)
  find b id := b.read (PodStore.find · id) (PodStore.find · id)
  findNamed b name := b.read (PodStore.findNamed · name) (PodStore.findNamed · name)
  list b := b.read PodStore.list PodStore.list

/-- The disk that a database leaves behind when it is closed. Its directory was bare when it was
opened for the first time. -/
def disk (path : String) (tables : Tables) : Disk :=
  ((Disk.mk (Disk.parent path) []).openDatabase []).2.1.closed [] tables

theorem openDatabase_disk (path : String) (tables : Tables) :
    ((disk path tables).openDatabase []).1 = .ok tables :=
  Disk.openDatabase_closed (Disk.openDatabase_bare _) tables

/-- The tables that are found when the database is opened again, which never fails. -/
def reread (path : String) (tables : Tables) : Tables :=
  ((disk path tables).openDatabase []).1.toOption.get (by rw [openDatabase_disk]; rfl)

theorem reread_eq (path : String) (tables : Tables) : reread path tables = tables := by
  simp only [reread, openDatabase_disk]
  rfl

/-- What is there after the store was closed and opened again. The guards of a database stand in it,
and stay. -/
def reopened : Backing → Backing
  | .memory _ => .memory .empty
  | .transient _ => .transient .empty
  | .durable path tables guards => .durable path (reread path tables) guards

theorem reopened_durable (path : String) (tables : Tables) (guards : List TableStore.Guard) :
    (durable path tables guards).reopened = .durable path tables guards := by
  rw [reopened, reread_eq]

def openingNotes : Backing → List Note
  | .durable path _ _ => [Disk.openedNote path]
  | _ => []

def withGuards? (f : List TableStore.Guard → List TableStore.Guard) : Backing → Option Backing
  | .durable path tables guards => some (.durable path tables (f guards))
  | _ => none

def overwrite? (id : PodId) (column : String) (cell : Cell) : Backing → Option Backing
  | .durable path tables guards =>
    ((table tables guards).overwrite? id column cell).map (fun s ↦ .durable path s.tables guards)
  | _ => none

end Backing

end PodInventory
