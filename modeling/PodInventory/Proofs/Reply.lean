import PodInventory.Proofs.Discovery
import PodInventory.Proofs.Json.Exact

namespace PodInventory

open Decode Json

namespace Hints

/-- Members that hold the four numbers of hints, each of them once. -/
structure Given (ms : List (String × Json)) (h : Hints) : Prop where
  cores : valuesOf ms "cores" = [.nat h.cores.toNat]
  cpuSpeed : valuesOf ms "cpu_speed" = [.nat h.cpuSpeed.toNat]
  memory : valuesOf ms "memory" = [.nat h.memory.toNat]
  localStorage : valuesOf ms "local_storage" = [.nat h.localStorage.toNat]

/-- Hints are an object with their four numbers, or the list of just these. -/
inductive Format : Json → Hints → Prop
  | object {ms : List (String × Json)} {h : Hints} (given : Given ms h) : Format (.object ms) h
  | list (h : Hints) : Format (.list [.nat h.cores.toNat, .nat h.cpuSpeed.toNat,
      .nat h.memory.toNat, .nat h.localStorage.toNat]) h

theorem layout_open : layout.Open := ⟨rfl, rfl, by decide⟩

theorem membersOf_iff {j : Json} {h : Hints} :
    (∃ ms, layout.membersOf j = some ms ∧ Given ms h) ↔ Format j h := by
  rw [Layout.exists_membersOf_iff]
  constructor
  · rintro (⟨ms, rfl, hgiven⟩ | ⟨js, rfl, hplace, hgiven⟩)
    · exact .object hgiven
    · have hlength : js.length = 4 := hplace.length_eq (by decide)
      obtain ⟨a, b, c, e, rfl⟩ := List.length_eq_four.1 hlength
      obtain ⟨hcores, hcpuSpeed, hmemory, hlocalStorage⟩ := hgiven
      obtain rfl : a = _ := List.singleton_inj.1 hcores
      obtain rfl : b = _ := List.singleton_inj.1 hcpuSpeed
      obtain rfl : c = _ := List.singleton_inj.1 hmemory
      obtain rfl : e = _ := List.singleton_inj.1 hlocalStorage
      exact .list h
  · rintro (⟨hgiven⟩ | h)
    · exact .inl ⟨_, rfl, hgiven⟩
    · exact .inr ⟨_, rfl, ⟨le_rfl, List.forall_mem_nil _⟩, rfl, rfl, rfl, rfl⟩

theorem decode_exact : Exact decode Format := by
  intro n j h hn
  rw [← membersOf_iff]
  refine layout_open.exact (fun fields ms h hkeep ↦ ?_) (fun ms h hgiven ↦ ?_) n j h hn
  · simp only [bind_eq_ok_iff, (hkeep "cores" (by decide)).need_iff word32_exact,
      (hkeep "cpu_speed" (by decide)).need_iff word32_exact,
      (hkeep "memory" (by decide)).need_iff word64_exact,
      (hkeep "local_storage" (by decide)).need_iff word64_exact]
    constructor
    · rintro ⟨_, hcores, _, hcpuSpeed, _, hmemory, _, hlocalStorage, heq⟩
      obtain rfl := Except.ok.inj heq
      exact ⟨hcores, hcpuSpeed, hmemory, hlocalStorage⟩
    · rintro ⟨hcores, hcpuSpeed, hmemory, hlocalStorage⟩
      exact ⟨_, hcores, _, hcpuSpeed, _, hmemory, _, hlocalStorage, rfl⟩
  · simp only [layout, List.forall_mem_cons]
    exact ⟨Field.of_fits word32_exact hgiven.cores, Field.of_fits word32_exact hgiven.cpuSpeed,
      Field.of_fits word64_exact hgiven.memory, Field.of_fits word64_exact hgiven.localStorage,
      List.forall_mem_nil _⟩

end Hints

namespace StoragePool

structure Given (ms : List (String × Json)) (p : StoragePool) : Prop where
  id : valuesOf ms "id" = [.text p.id]
  name : valuesOf ms "name" = [.text p.name]
  kind : valuesOf ms "type" = [.text p.kind]
  path : valuesOf ms "path" = [.text p.path]
  storage : valuesOf ms "storage" = [.nat p.storage.toNat]

/-- A pool is an object with its four texts and its size, or the list of just these. -/
inductive Format : Json → StoragePool → Prop
  | object {ms : List (String × Json)} {p : StoragePool} (given : Given ms p) :
      Format (.object ms) p
  | list (p : StoragePool) : Format (.list [.text p.id, .text p.name, .text p.kind, .text p.path,
      .nat p.storage.toNat]) p

def ListFormat (j : Json) (ps : List StoragePool) : Prop :=
  ∃ js, j = .list js ∧ List.Forall₂ Format js ps

theorem layout_open : layout.Open := ⟨rfl, rfl, by decide⟩

theorem membersOf_iff {j : Json} {p : StoragePool} :
    (∃ ms, layout.membersOf j = some ms ∧ Given ms p) ↔ Format j p := by
  rw [Layout.exists_membersOf_iff]
  constructor
  · rintro (⟨ms, rfl, hgiven⟩ | ⟨js, rfl, hplace, hgiven⟩)
    · exact .object hgiven
    · have hlength : js.length = 5 := hplace.length_eq (by decide)
      obtain ⟨a, js, rfl⟩ := List.exists_cons_of_length_eq_add_one hlength
      obtain ⟨b, c, e, f, rfl⟩ := List.length_eq_four.1 (Nat.succ.inj hlength)
      obtain ⟨hid, hname, hkind, hpath, hstorage⟩ := hgiven
      obtain rfl : a = _ := List.singleton_inj.1 hid
      obtain rfl : b = _ := List.singleton_inj.1 hname
      obtain rfl : c = _ := List.singleton_inj.1 hkind
      obtain rfl : e = _ := List.singleton_inj.1 hpath
      obtain rfl : f = _ := List.singleton_inj.1 hstorage
      exact .list p
  · rintro (⟨hgiven⟩ | p)
    · exact .inl ⟨_, rfl, hgiven⟩
    · exact .inr ⟨_, rfl, ⟨le_rfl, List.forall_mem_nil _⟩, rfl, rfl, rfl, rfl, rfl⟩

theorem decode_exact : Exact decode Format := by
  intro n j p hn
  rw [← membersOf_iff]
  refine layout_open.exact (fun fields ms p hkeep ↦ ?_) (fun ms p hgiven ↦ ?_) n j p hn
  · simp only [bind_eq_ok_iff, (hkeep "id" (by decide)).need_iff string_exact,
      (hkeep "name" (by decide)).need_iff string_exact,
      (hkeep "type" (by decide)).need_iff string_exact,
      (hkeep "path" (by decide)).need_iff string_exact,
      (hkeep "storage" (by decide)).need_iff word64_exact]
    constructor
    · rintro ⟨_, hid, _, hname, _, hkind, _, hpath, _, hstorage, heq⟩
      obtain rfl := Except.ok.inj heq
      exact ⟨hid, hname, hkind, hpath, hstorage⟩
    · rintro ⟨hid, hname, hkind, hpath, hstorage⟩
      exact ⟨_, hid, _, hname, _, hkind, _, hpath, _, hstorage, rfl⟩
  · simp only [layout, List.forall_mem_cons]
    exact ⟨Field.of_fits string_exact hgiven.id, Field.of_fits string_exact hgiven.name,
      Field.of_fits string_exact hgiven.kind, Field.of_fits string_exact hgiven.path,
      Field.of_fits word64_exact hgiven.storage, List.forall_mem_nil _⟩

end StoragePool

namespace Snapshot

/-- A list of texts. -/
def IsTexts (j : Json) (ss : List String) : Prop := j = .list (ss.map .text)

/-- Members that hold the four numbers of a snapshot, each of them once. Its lists and its hints are
there once as well or else blank. -/
structure Given (ms : List (String × Json)) (s : Snapshot) : Prop where
  architectures : Optionally IsTexts [] (valuesOf ms "architectures") s.architectures
  cores : valuesOf ms "cores" = [.nat s.cores.toNat]
  cpuSpeed : valuesOf ms "cpu_speed" = [.nat s.cpuSpeed.toNat]
  memory : valuesOf ms "memory" = [.nat s.memory.toNat]
  localStorage : valuesOf ms "local_storage" = [.nat s.localStorage.toNat]
  hints : Optionally Hints.Format .zero (valuesOf ms "hints") s.hints
  storagePools : Optionally StoragePool.ListFormat [] (valuesOf ms "storage_pools") s.storagePools

/-- A snapshot is an object, or a list of the architectures and the four numbers that may go on with
the hints and then the pools. -/
inductive Format : Json → Snapshot → Prop
  | object {ms : List (String × Json)} {s : Snapshot} (given : Given ms s) : Format (.object ms) s
  | list {more : List Json} {s : Snapshot} (length : more.length ≤ 2)
      (hints : Optionally Hints.Format .zero more[0]?.toList s.hints)
      (storagePools : Optionally StoragePool.ListFormat [] more[1]?.toList s.storagePools) :
      Format (.list ([.list (s.architectures.map .text), .nat s.cores.toNat, .nat s.cpuSpeed.toNat,
        .nat s.memory.toNat, .nat s.localStorage.toNat] ++ more)) s

theorem layout_open : layout.Open := ⟨rfl, rfl, by decide⟩

theorem given_zip_iff {js : List Json} {s : Snapshot} :
    Given (layout.names.zip js) s ↔
      Optionally IsTexts [] js[0]?.toList s.architectures ∧
      js[1]?.toList = [.nat s.cores.toNat] ∧ js[2]?.toList = [.nat s.cpuSpeed.toNat] ∧
      js[3]?.toList = [.nat s.memory.toNat] ∧ js[4]?.toList = [.nat s.localStorage.toNat] ∧
      Optionally Hints.Format .zero js[5]?.toList s.hints ∧
      Optionally StoragePool.ListFormat [] js[6]?.toList s.storagePools := by
  have hzip {i : Nat} {name : String} (hname : layout.names[i]? = some name) :=
    valuesOf_zip layout_open.names hname js
  rw [← hzip (i := 0) rfl, ← hzip (i := 1) rfl, ← hzip (i := 2) rfl, ← hzip (i := 3) rfl,
    ← hzip (i := 4) rfl, ← hzip (i := 5) rfl, ← hzip (i := 6) rfl]
  exact ⟨fun ⟨h0, h1, h2, h3, h4, h5, h6⟩ ↦ ⟨h0, h1, h2, h3, h4, h5, h6⟩,
    fun ⟨h0, h1, h2, h3, h4, h5, h6⟩ ↦ ⟨h0, h1, h2, h3, h4, h5, h6⟩⟩

theorem membersOf_iff {j : Json} {s : Snapshot} :
    (∃ ms, layout.membersOf j = some ms ∧ Given ms s) ↔ Format j s := by
  rw [Layout.exists_membersOf_iff]
  constructor
  · rintro (⟨ms, rfl, hgiven⟩ | ⟨js, rfl, hplace, hgiven⟩)
    · exact .object hgiven
    · have hlength : 4 < js.length := hplace.lt_length (i := 4) rfl rfl
      obtain ⟨a, b, c, e, f, more, rfl⟩ : ∃ a b c e f more, js = a :: b :: c :: e :: f :: more := by
        match js, hlength with
        | a :: b :: c :: e :: f :: more, _ => exact ⟨a, b, c, e, f, more, rfl⟩
      obtain ⟨harchitectures, hcores, hcpuSpeed, hmemory, hlocalStorage, hhints, hpools⟩ :=
        given_zip_iff.1 hgiven
      obtain rfl : a = .list (s.architectures.map .text) :=
        optionally_singleton (F := IsTexts) |>.1 harchitectures
      obtain rfl : b = _ := List.singleton_inj.1 hcores
      obtain rfl : c = _ := List.singleton_inj.1 hcpuSpeed
      obtain rfl : e = _ := List.singleton_inj.1 hmemory
      obtain rfl : f = _ := List.singleton_inj.1 hlocalStorage
      have hmore : more.length + 5 ≤ 2 + 5 := hplace.1
      exact .list (Nat.le_of_add_le_add_right hmore) hhints hpools
  · rintro (⟨hgiven⟩ | @⟨more, s, hlength, hhints, hpools⟩)
    · exact .inl ⟨_, rfl, hgiven⟩
    · have hplaced : ∀ f ∈ layout.fields.drop (5 + more.length), f.placed = false := by
        intro f hf
        rw [← List.drop_drop] at hf
        have hrest : ∀ f ∈ layout.fields.drop 5, f.placed = false := by decide
        exact hrest f (List.mem_of_mem_drop hf)
      rw [Nat.add_comm] at hplaced
      exact .inr ⟨_, rfl, ⟨Nat.add_le_add_right hlength 5, hplaced⟩,
        given_zip_iff.2 ⟨.present rfl, rfl, rfl, rfl, rfl, hhints, hpools⟩⟩

theorem decode_exact : Exact decode Format := by
  intro n j s hn
  rw [← membersOf_iff]
  refine layout_open.exact (fun fields ms s hkeep ↦ ?_) (fun ms s hgiven ↦ ?_) n j s hn
  · simp only [bind_eq_ok_iff, (hkeep "architectures" (by decide)).getD_iff texts_exact,
      (hkeep "cores" (by decide)).need_iff word32_exact,
      (hkeep "cpu_speed" (by decide)).need_iff word32_exact,
      (hkeep "memory" (by decide)).need_iff word64_exact,
      (hkeep "local_storage" (by decide)).need_iff word64_exact,
      (hkeep "hints" (by decide)).getD_iff Hints.decode_exact,
      (hkeep "storage_pools" (by decide)).getD_iff (list_exact StoragePool.decode_exact)]
    constructor
    · rintro ⟨_, ha, _, hcores, _, hcpuSpeed, _, hmemory, _, hlocalStorage, _, hhints, _, hpools,
        heq⟩
      obtain rfl := Except.ok.inj heq
      exact ⟨ha, hcores, hcpuSpeed, hmemory, hlocalStorage, hhints, hpools⟩
    · rintro ⟨ha, hcores, hcpuSpeed, hmemory, hlocalStorage, hhints, hpools⟩
      exact ⟨_, ha, _, hcores, _, hcpuSpeed, _, hmemory, _, hlocalStorage, _, hhints, _, hpools,
        rfl⟩
  · simp only [layout, List.forall_mem_cons]
    exact ⟨Field.defaulted_fits texts_exact hgiven.architectures,
      Field.of_fits word32_exact hgiven.cores, Field.of_fits word32_exact hgiven.cpuSpeed,
      Field.of_fits word64_exact hgiven.memory, Field.of_fits word64_exact hgiven.localStorage,
      Field.defaulted_fits Hints.decode_exact hgiven.hints,
      Field.defaulted_fits (list_exact StoragePool.decode_exact) hgiven.storagePools,
      List.forall_mem_nil _⟩

/-- A value that a member of a snapshot must not have. None of them may be null, and the four
numbers are naturals that fit into their words. -/
inductive Unfit : String → Json → Prop
  | null {name : String} (h : name ∈ layout.names) : Unfit name .null
  | word32 {name : String} {v : Json} (h : name ∈ ["cores", "cpu_speed"])
      (hv : ∀ k < UInt32.size, v ≠ .nat k) : Unfit name v
  | word64 {name : String} {v : Json} (h : name ∈ ["memory", "local_storage"])
      (hv : ∀ k < UInt64.size, v ≠ .nat k) : Unfit name v

theorem Given.not_unfit {ms : List (String × Json)} {s : Snapshot} (h : Given ms s) {name : String}
    {v : Json} (hmem : (name, v) ∈ ms) : ¬ Unfit name v := by
  have hv : v ∈ valuesOf ms name := mem_valuesOf.2 hmem
  have hnat {k : Nat} (heq : valuesOf ms name = [.nat k]) : v = .nat k :=
    List.mem_singleton.1 (heq ▸ hv)
  rintro (hname | ⟨hname, hword⟩ | ⟨hname, hword⟩)
  · simp only [Layout.names, layout, List.map_cons, List.map_nil, List.mem_cons, List.not_mem_nil,
      or_false] at hname
    rcases hname with rfl | rfl | rfl | rfl | rfl | rfl | rfl
    · cases h.architectures.of_mem hv
    · cases hnat h.cores
    · cases hnat h.cpuSpeed
    · cases hnat h.memory
    · cases hnat h.localStorage
    · cases h.hints.of_mem hv
    · obtain ⟨js, hjs, -⟩ := h.storagePools.of_mem hv
      cases hjs
  · simp only [List.mem_cons, List.not_mem_nil, or_false] at hname
    rcases hname with rfl | rfl
    · exact hword _ s.cores.toNat_lt (hnat h.cores)
    · exact hword _ s.cpuSpeed.toNat_lt (hnat h.cpuSpeed)
  · simp only [List.mem_cons, List.not_mem_nil, or_false] at hname
    rcases hname with rfl | rfl
    · exact hword _ s.memory.toNat_lt (hnat h.memory)
    · exact hword _ s.localStorage.toNat_lt (hnat h.localStorage)

end Snapshot

namespace Discovery

/-- A reply is an object, and what it has under the name of the target is a snapshot. -/
def Bears (target : Target) (reply : Json) (s : Snapshot) : Prop :=
  ∃ ms payload, reply = .object ms ∧ ms.lookup target.name = some payload ∧
    Snapshot.Format payload s

theorem member?_eq_some_iff {name : String} {j payload : Json} :
    j.member? name = some payload ↔ ∃ ms, j = .object ms ∧ ms.lookup name = some payload := by
  cases j <;> simp [member?]

theorem decodeReply_eq_ok_iff_bears {target : Target} {reply : Json} {s : Snapshot} :
    decodeReply target reply = .ok s ↔ Bears target reply s := by
  have hformat (payload : Json) :
      ofJson Snapshot.decode payload = .ok s ↔ Snapshot.Format payload s :=
    Snapshot.decode_exact _ payload s (holds_ofValue .value payload)
  simp only [decodeReply_eq_ok_iff, member?_eq_some_iff, hformat, Bears]
  constructor
  · rintro ⟨payload, ⟨ms, hreply, hpayload⟩, hs⟩
    exact ⟨ms, payload, hreply, hpayload, hs⟩
  · rintro ⟨ms, payload, hreply, hpayload, hs⟩
    exact ⟨payload, ⟨ms, hreply, hpayload⟩, hs⟩

theorem decodeReply_invalid {target : Target} {reply : Json}
    (h : ∀ s, decodeReply target reply ≠ .ok s) :
    ∃ message, decodeReply target reply = .error (.invalidReply message) := by
  cases hpayload : reply.member? target.name with
  | none => simp [decodeReply, hpayload]
  | some payload =>
    cases hs : ofJson Snapshot.decode payload with
    | error f => simp [decodeReply, hpayload, hs, Except.mapError]
    | ok s => exact absurd (decodeReply_eq_ok_iff.2 ⟨payload, hpayload, hs⟩) (h s)

/-- The replies that are taken are just those that bear a snapshot in one of its forms, and that is
the snapshot they give. All others are invalid, and so is every one in which a member of the
snapshot has a value that does not fit. -/
theorem decodeReply_accepts (target : Target) (reply : Json) :
    (∀ s, decodeReply target reply = .ok s ↔ Bears target reply s) ∧
      ((∀ s, ¬ Bears target reply s) →
        ∃ message, decodeReply target reply = .error (.invalidReply message)) ∧
      ∀ ms members name v, reply = .object ms → ms.lookup target.name = some (.object members) →
        (name, v) ∈ members → Snapshot.Unfit name v →
          ∃ message, decodeReply target reply = .error (.invalidReply message) := by
  have hinvalid (h : ∀ s, ¬ Bears target reply s) :
      ∃ message, decodeReply target reply = .error (.invalidReply message) :=
    decodeReply_invalid (fun s hs ↦ h s (decodeReply_eq_ok_iff_bears.1 hs))
  refine ⟨fun s ↦ decodeReply_eq_ok_iff_bears, hinvalid, ?_⟩
  rintro ms members name v rfl hmembers hv hunfit
  refine hinvalid ?_
  rintro s ⟨ms', payload, heq, hpayload, hformat⟩
  obtain rfl := Json.object.inj heq
  obtain rfl := Option.some.inj (hmembers.symm.trans hpayload)
  obtain ⟨hgiven⟩ := hformat
  exact hgiven.not_unfit hv hunfit

/-- A list that ends with the hints, and an object with the float `1.0` for its cores. -/
theorem decodeReply_accepts_listed :
    decodeReply .chassis (.object [("chassis", .list [.list [.text "amd64"], .nat 4, .nat 2400,
        .nat 8192, .nat 0, .list [.nat 2, .nat 0, .nat 512, .nat 0]])]) =
      .ok ⟨["amd64"], 4, 2400, 8192, 0, ⟨2, 0, 512, 0⟩, []⟩ ∧
    ∃ message, decodeReply .pod (.object [("pod", .object [("cpu_speed", .nat 2400),
        ("cores", .number (.float ⟨0x3ff0000000000000⟩))])]) = .error (.invalidReply message) := by
  have hhints : Hints.Format (.list [.nat 2, .nat 0, .nat 512, .nat 0]) ⟨2, 0, 512, 0⟩ :=
    .list ⟨2, 0, 512, 0⟩
  have hlisted : Snapshot.Format _ ⟨["amd64"], 4, 2400, 8192, 0, ⟨2, 0, 512, 0⟩, []⟩ :=
    .list (by decide : [_].length ≤ 2) (.present hhints) .absent
  constructor
  · exact ((decodeReply_accepts .chassis _).1 _).2 ⟨_, _, rfl, rfl, hlisted⟩
  · refine (decodeReply_accepts .pod _).2.2 _ _ "cores" _ rfl rfl
      (List.mem_cons_of_mem _ List.mem_cons_self) (.word32 List.mem_cons_self ?_)
    exact fun k _ heq ↦ nomatch heq

end Discovery

end PodInventory
