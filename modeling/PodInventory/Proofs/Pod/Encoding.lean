import PodInventory.Pod.Record
import PodInventory.Proofs.Json.Forms

namespace PodInventory

namespace Json

theorem fits_nat {room k : Nat} (h : k < UInt64.size) : (nat k).Fits room := ⟨k, h, rfl⟩

theorem fits_word32 (room : Nat) (w : UInt32) : (nat w.toNat).Fits room :=
  fits_nat (Nat.lt_trans w.toNat_lt (by decide))

theorem fits_word64 (room : Nat) (w : UInt64) : (nat w.toNat).Fits room := fits_nat w.toNat_lt

theorem fitsItems_iff {room : Nat} {xs : List Json} :
    FitsItems room xs ↔ ∀ x ∈ xs, x.Fits room := by
  induction xs with
  | nil => simp [FitsItems]
  | cons x xs ih => simp [FitsItems, ih]

theorem fitsMembers_iff {room : Nat} {ms : List (String × Json)} :
    FitsMembers room ms ↔ ∀ m ∈ ms, m.2.Fits room := by
  induction ms with
  | nil => simp [FitsMembers]
  | cons m ms ih => simp [FitsMembers, ih]

theorem fits_list {α : Type} {encode : α → Json} {room : Nat} {as : List α}
    (h : ∀ a ∈ as, (encode a).Fits room) : (list (as.map encode)).Fits (room + 1) :=
  ⟨by omega, fitsItems_iff.2 (by simpa using h)⟩

theorem fits_dict {α : Type} {encode : α → Json} {room : Nat} {d : Dict α}
    (h : ∀ e ∈ d.entries, (encode e.2).Fits room) : (dict encode d).Fits (room + 1) := by
  refine ⟨by omega, fitsMembers_iff.2 (fun m hm ↦ ?_)⟩
  obtain ⟨e, he, rfl⟩ := List.mem_map.1 hm
  exact h e he

theorem fits_object {room : Nat} {ms : List (String × Json)} (h : ∀ m ∈ ms, m.2.Fits room) :
    (object ms).Fits (room + 1) :=
  ⟨by omega, fitsMembers_iff.2 h⟩

theorem fits_values {room : Nat} {ms : List (String × Json)} (h : ∀ m ∈ ms, m.2.Fits room) :
    (list (ms.map Prod.snd)).Fits (room + 1) := fits_list h

end Json

open Decode Json

namespace Hints

def members (h : Hints) : List (String × Json) :=
  [("cores", .nat h.cores.toNat), ("cpu_speed", .nat h.cpuSpeed.toNat),
    ("memory", .nat h.memory.toNat), ("local_storage", .nat h.localStorage.toNat)]

/-- The fields in order, without their names. -/
def listed (h : Hints) : Json := .list (h.members.map Prod.snd)

theorem fits_members (room : Nat) (h : Hints) : ∀ m ∈ h.members, m.2.Fits room := by
  simp only [members, List.forall_mem_cons]
  exact ⟨fits_word32 _ _, fits_word32 _ _, fits_word64 _ _, fits_word64 _ _,
    List.forall_mem_nil _⟩

theorem fits_json (room : Nat) (h : Hints) : h.json.Fits (room + 1) :=
  fits_object (h.fits_members room)

theorem fits_listed (room : Nat) (h : Hints) : h.listed.Fits (room + 1) :=
  fits_values (h.fits_members room)

theorem decode_gets {h : Hints} {j : Json} (hj : layout.Shows h.members j) :
    Gets decode j h := by
  intro n hn
  have hcores := word32_inverts h.cores
  have hcpuSpeed := word32_inverts h.cpuSpeed
  have hmemory := word64_inverts h.memory
  have hlocalStorage := word64_inverts h.localStorage
  obtain ⟨fields, hread, hold⟩ := layout.read_of_shows
    (.cons (Field.accepts_of _ hcores) (.cons (Field.accepts_of _ hcpuSpeed)
      (.cons (Field.accepts_of _ hmemory) (.cons (Field.accepts_of _ hlocalStorage) .nil))))
    (by simp) hj hn
  rw [decode, hread]
  simp only [bind, Except.bind, hold.need "cores" (by simp) hcores,
    hold.need "cpu_speed" (by simp) hcpuSpeed,
    hold.need "memory" (by simp) hmemory,
    hold.need "local_storage" (by simp) hlocalStorage]
  rfl

theorem takes_members : layout.Takes decode members where
  names _ := by simp [members]
  written _ _ hj := decode_gets hj
  sorted _ _ hj := decode_gets hj

end Hints

namespace StoragePool

def members (p : StoragePool) : List (String × Json) :=
  [("id", .text p.id), ("name", .text p.name), ("type", .text p.kind), ("path", .text p.path),
    ("storage", .nat p.storage.toNat)]

def listed (p : StoragePool) : Json := .list (p.members.map Prod.snd)

theorem fits_members (room : Nat) (p : StoragePool) : ∀ m ∈ p.members, m.2.Fits room := by
  simp only [members, List.forall_mem_cons]
  exact ⟨trivial, trivial, trivial, trivial, fits_word64 _ _, List.forall_mem_nil _⟩

theorem fits_json (room : Nat) (p : StoragePool) : p.json.Fits (room + 1) :=
  fits_object (p.fits_members room)

theorem fits_listed (room : Nat) (p : StoragePool) : p.listed.Fits (room + 1) :=
  fits_values (p.fits_members room)

theorem decode_gets {p : StoragePool} {j : Json} (hj : layout.Shows p.members j) :
    Gets decode j p := by
  intro n hn
  have hid := string_inverts p.id
  have hname := string_inverts p.name
  have hkind := string_inverts p.kind
  have hpath := string_inverts p.path
  have hstorage := word64_inverts p.storage
  obtain ⟨fields, hread, hold⟩ := layout.read_of_shows
    (.cons (Field.accepts_of _ hid) (.cons (Field.accepts_of _ hname)
      (.cons (Field.accepts_of _ hkind) (.cons (Field.accepts_of _ hpath)
        (.cons (Field.accepts_of _ hstorage) .nil)))))
    (by simp) hj hn
  rw [decode, hread]
  simp only [bind, Except.bind, hold.need "id" (by simp) hid, hold.need "name" (by simp) hname,
    hold.need "type" (by simp) hkind, hold.need "path" (by simp) hpath,
    hold.need "storage" (by simp) hstorage]
  rfl

theorem takes_members : layout.Takes decode members where
  names _ := by simp [members]
  written _ _ hj := decode_gets hj
  sorted _ _ hj := decode_gets hj

end StoragePool

namespace Snapshot

/-- The members of a snapshot whose hints and storage pools may be written in either form. -/
def members (hint : Hints → Json) (pool : StoragePool → Json) (s : Snapshot) :
    List (String × Json) :=
  [("architectures", .list (s.architectures.map .text)), ("cores", .nat s.cores.toNat),
    ("cpu_speed", .nat s.cpuSpeed.toNat), ("memory", .nat s.memory.toNat),
    ("local_storage", .nat s.localStorage.toNat), ("hints", hint s.hints),
    ("storage_pools", .list (s.storagePools.map pool))]

def listed (hint : Hints → Json) (pool : StoragePool → Json) (s : Snapshot) : Json :=
  .list ((s.members hint pool).map Prod.snd)

variable {hint : Hints → Json} {pool : StoragePool → Json}

theorem fits_members {room : Nat} (hhint : ∀ h, (hint h).Fits (room + 1))
    (hpool : ∀ p, (pool p).Fits room) (s : Snapshot) :
    ∀ m ∈ s.members hint pool, m.2.Fits (room + 1) := by
  simp only [members, List.forall_mem_cons]
  exact ⟨fits_list (fun _ _ ↦ trivial), fits_word32 _ _, fits_word32 _ _, fits_word64 _ _,
    fits_word64 _ _, hhint _, fits_list (fun p _ ↦ hpool p), List.forall_mem_nil _⟩

theorem decode_gets {s : Snapshot} (hhints : Inverts Hints.decode hint s.hints)
    (hpools : Inverts (list StoragePool.decode) (fun ps ↦ .list (ps.map pool)) s.storagePools)
    {j : Json} (hj : layout.Shows (s.members hint pool) j) : Gets decode j s := by
  intro n hn
  have harchitectures := (list_recovers string_recovers).written s.architectures
  have hcores := word32_inverts s.cores
  have hcpuSpeed := word32_inverts s.cpuSpeed
  have hmemory := word64_inverts s.memory
  have hlocalStorage := word64_inverts s.localStorage
  obtain ⟨fields, hread, hold⟩ := layout.read_of_shows
    (.cons (Field.accepts_defaulted _ harchitectures) (.cons (Field.accepts_of _ hcores)
      (.cons (Field.accepts_of _ hcpuSpeed) (.cons (Field.accepts_of _ hmemory)
        (.cons (Field.accepts_of _ hlocalStorage) (.cons (Field.accepts_defaulted _ hhints)
          (.cons (Field.accepts_defaulted _ hpools) .nil)))))))
    (by simp) hj hn
  rw [decode, hread]
  simp only [bind, Except.bind, hold.getD "architectures" (by simp) harchitectures,
    hold.need "cores" (by simp) hcores, hold.need "cpu_speed" (by simp) hcpuSpeed,
    hold.need "memory" (by simp) hmemory, hold.need "local_storage" (by simp) hlocalStorage,
    hold.getD "hints" (by simp) hhints, hold.getD "storage_pools" (by simp) hpools]
  rfl

theorem takes_members (hhint : Recovers Hints.decode hint)
    (hpool : Recovers StoragePool.decode pool) :
    layout.Takes decode (members hint pool) where
  names _ := by simp [members]
  written s _ hj := decode_gets (hhint.written _) ((list_recovers hpool).written _) hj
  sorted s j hj := by
    have hmembers : (s.members hint pool).map (fun m ↦ (m.1, ordered m.2)) =
        s.members (fun h ↦ ordered (hint h)) (fun p ↦ ordered (pool p)) := by
      simp only [members, List.map_cons, List.map_nil, ordered_list]
      rfl
    rw [hmembers] at hj
    exact decode_gets (hhint.sorted _) (list_inverts (fun p _ ↦ hpool.sorted p)) hj

end Snapshot

namespace PodRecord

def members (hint : Hints → Json) (pool : StoragePool → Json) (r : PodRecord) :
    List (String × Json) :=
  [("id", .text r.id), ("name", .text r.name), ("pod_type", .text r.kind), ("zone", .text r.zone),
    ("pool", .text r.pool), ("power_parameters", .dict .text r.powerParameters),
    ("ip_address", .optional (fun a ↦ .text a.toText) r.address),
    ("architectures", .list (r.discovered.architectures.map .text)),
    ("cores", .nat r.discovered.cores.toNat), ("cpu_speed", .nat r.discovered.cpuSpeed.toNat),
    ("memory", .nat r.discovered.memory.toNat),
    ("local_storage", .nat r.discovered.localStorage.toNat), ("hints", hint r.discovered.hints),
    ("storage_pools", .list (r.discovered.storagePools.map pool)),
    ("routable", .dict .bool r.routable), ("version", .nat r.version.toNat),
    ("created_at", .text r.createdAt), ("updated_at", .text r.updatedAt)]

variable {hint : Hints → Json} {pool : StoragePool → Json}

theorem fits_members {room : Nat} (hhint : ∀ h, (hint h).Fits (room + 1))
    (hpool : ∀ p, (pool p).Fits room) (r : PodRecord) :
    ∀ m ∈ r.members hint pool, m.2.Fits (room + 1) := by
  have haddress : (optional (fun a : Address ↦ .text a.toText) r.address).Fits (room + 1) := by
    cases r.address <;> trivial
  simp only [members, List.forall_mem_cons]
  exact ⟨trivial, trivial, trivial, trivial, trivial, fits_dict (fun _ _ ↦ trivial), haddress,
    fits_list (fun _ _ ↦ trivial), fits_word32 _ _, fits_word32 _ _, fits_word64 _ _,
    fits_word64 _ _, hhint _, fits_list (fun p _ ↦ hpool p), fits_dict (fun _ _ ↦ trivial),
    fits_word64 _ _, trivial, trivial, List.forall_mem_nil _⟩

theorem decode_gets {r : PodRecord} (hhints : Inverts Hints.decode hint r.discovered.hints)
    (hpools : Inverts (list StoragePool.decode) (fun ps ↦ .list (ps.map pool))
      r.discovered.storagePools)
    {j : Json} (hj : layout.Shows (r.members hint pool) j) : Gets decode j r := by
  intro n hn
  have hpower := (dict_recovers string_recovers).written r.powerParameters
  have haddress := orNull_ipAddress_inverts r.address
  have harchitectures := (list_recovers string_recovers).written r.discovered.architectures
  have hroutable := (dict_recovers bool_recovers).written r.routable
  obtain ⟨fields, hread, hold⟩ := layout.read_of_shows
    (.cons (Field.accepts_of _ (string_inverts r.id))
      (.cons (Field.accepts_of _ (string_inverts r.name))
      (.cons (Field.accepts_of _ (string_inverts r.kind))
      (.cons (Field.accepts_of _ (string_inverts r.zone))
      (.cons (Field.accepts_of _ (string_inverts r.pool))
      (.cons (Field.accepts_of _ hpower)
      (.cons (Field.accepts_nullable _ haddress)
      (.cons (Field.accepts_of _ harchitectures)
      (.cons (Field.accepts_of _ (word32_inverts r.discovered.cores))
      (.cons (Field.accepts_of _ (word32_inverts r.discovered.cpuSpeed))
      (.cons (Field.accepts_of _ (word64_inverts r.discovered.memory))
      (.cons (Field.accepts_of _ (word64_inverts r.discovered.localStorage))
      (.cons (Field.accepts_of _ hhints)
      (.cons (Field.accepts_of _ hpools)
      (.cons (Field.accepts_of _ hroutable)
      (.cons (Field.accepts_of _ (word64_inverts r.version))
      (.cons (Field.accepts_of _ (string_inverts r.createdAt))
      (.cons (Field.accepts_of _ (string_inverts r.updatedAt)) .nil))))))))))))))))))
    (by simp) hj hn
  rw [decode, hread]
  simp only [bind, Except.bind, hold.need "id" (by simp) (string_inverts r.id),
    hold.need "name" (by simp) (string_inverts r.name),
    hold.need "pod_type" (by simp) (string_inverts r.kind),
    hold.need "zone" (by simp) (string_inverts r.zone),
    hold.need "pool" (by simp) (string_inverts r.pool),
    hold.need "power_parameters" (by simp) hpower,
    hold.getD "ip_address" (by simp) haddress,
    hold.need "architectures" (by simp) harchitectures,
    hold.need "cores" (by simp) (word32_inverts r.discovered.cores),
    hold.need "cpu_speed" (by simp) (word32_inverts r.discovered.cpuSpeed),
    hold.need "memory" (by simp) (word64_inverts r.discovered.memory),
    hold.need "local_storage" (by simp) (word64_inverts r.discovered.localStorage),
    hold.need "hints" (by simp) hhints,
    hold.need "storage_pools" (by simp) hpools,
    hold.need "routable" (by simp) hroutable,
    hold.need "version" (by simp) (word64_inverts r.version),
    hold.need "created_at" (by simp) (string_inverts r.createdAt),
    hold.need "updated_at" (by simp) (string_inverts r.updatedAt)]
  rfl

theorem takes_members (hhint : Recovers Hints.decode hint)
    (hpool : Recovers StoragePool.decode pool) :
    layout.Takes decode (members hint pool) where
  names _ := by simp [members]
  written r _ hj := decode_gets (hhint.written _) ((list_recovers hpool).written _) hj
  sorted r j hj := by
    have haddress : ordered (.optional (fun a ↦ .text a.toText) r.address) =
        .optional (fun a ↦ .text a.toText) r.address := by
      cases r.address <;> rfl
    have hmembers : (r.members hint pool).map (fun m ↦ (m.1, ordered m.2)) =
        r.members (fun h ↦ ordered (hint h)) (fun p ↦ ordered (pool p)) := by
      simp only [members, List.map_cons, List.map_nil, ordered_list, ordered_dict, haddress]
      rfl
    rw [hmembers] at hj
    exact decode_gets (hhint.sorted _) (list_inverts (fun p _ ↦ hpool.sorted p)) hj

end PodRecord

end PodInventory
