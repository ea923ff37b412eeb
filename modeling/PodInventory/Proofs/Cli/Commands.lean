import PodInventory.Cli.Run
import PodInventory.Proofs.Store.Ready
import PodInventory.Proofs.Store.Operation

namespace PodInventory

namespace Tables

variable {t t' : Tables} {id : PodId}

/-- The row that a key stands for: the one with that id, or if there is none the one with that
name. -/
def addressed? (t : Tables) (key : String) : Option PodRow :=
  (t.pods.find? (fun row ↦ row.id == key)).or (t.pods.find? (fun row ↦ row.name == key))

theorem mem_of_addressed? {key : String} {row : PodRow} (h : t.addressed? key = some row) :
    row ∈ t.pods := by
  rcases Option.or_eq_some_iff.1 h with h | ⟨-, h⟩
  · exact List.mem_of_find?_eq_some h
  · exact List.mem_of_find?_eq_some h

/-- Tables that hold the same of every pod but one. -/
structure Spares (t : Tables) (id : PodId) (t' : Tables) : Prop where
  pods : t'.pods.filter (fun row ↦ row.id != id) = t.pods.filter (fun row ↦ row.id != id)
  routes : t'.routes.filter (fun route ↦ route.pod != id) =
    t.routes.filter (fun route ↦ route.pod != id)

theorem Spares.refl (t : Tables) (id : PodId) : t.Spares id t := ⟨rfl, rfl⟩

theorem Spares.replacing (t : Tables) (r : PodRecord) : t.Spares r.id (t.replacing r) where
  pods := by
    have hid (row : PodRow) : (if row.id = r.id then
        row.withDiscovered (PodRow.ofRecord r).discovered else row).id = row.id := by
      split <;> rfl
    rw [Tables.replacing, List.filter_map]
    simp only [Function.comp_def, hid]
    refine (List.map_congr_left (fun row hrow ↦ if_neg ?_)).trans (List.map_id _)
    simpa using (List.mem_filter.1 hrow).2
  routes := by
    have hown : r.routeRows.filter (fun route ↦ route.pod != r.id) = [] :=
      List.filter_eq_nil_iff.2 (fun route hroute ↦ by simp [PodRecord.pod_of_mem_routeRows hroute])
    rw [Tables.replacing, List.filter_append, hown, List.append_nil, List.filter_filter]
    simp

theorem Keyed.find_spared (ht : t.Keyed) (ht' : t'.Keyed) (h : t.Spares id t') {id' : PodId}
    (hne : id' ≠ id) : t'.find id' = t.find id' := by
  refine ht.find_congr ht' ?_ ?_
  · rw [← List.head?_filter, ← List.head?_filter, ← filter_ne_filter hne, h.pods,
      filter_ne_filter hne]
  · rw [← filter_ne_filter hne, h.routes, filter_ne_filter hne]

end Tables

/-- Where a database is: on a disk, with guards on its writes, or in a place of its own that may
refuse any statement. -/
inductive Medium
  | disk (path : String) (guards : List TableStore.Guard)
  | transient (refuses : Refusal)

/-- A database but for its tables: where it is, and the error that its updates end in for the time
being. -/
structure Database where
  medium : Medium
  error : Option StoreError

namespace Database

variable (d : Database) {t : Tables}

def refuses : Refusal :=
  match d.medium with
  | .disk _ guards => TableStore.guarded guards
  | .transient refuses => refuses

def table (t : Tables) : TableStore := ⟨t, d.refuses⟩

def place (t : Tables) : Backing :=
  match d.medium with
  | .disk path guards => .durable path t guards
  | .transient refuses => .transient ⟨t, refuses⟩

def holding (t : Tables) : Outage Backing := ⟨d.place t, d.error⟩

theorem sound_holding (ht : t.Keyed) : (d.holding t).store.Sound := by
  obtain ⟨medium, error⟩ := d
  cases medium <;> exact ht

theorem find_holding (id : PodId) : PodStore.find (d.holding t) id = t.find id := by
  obtain ⟨medium, error⟩ := d
  cases medium <;> rfl

theorem findNamed_holding (name : String) :
    PodStore.findNamed (d.holding t) name = t.findNamed name := by
  obtain ⟨medium, error⟩ := d
  cases medium <;> rfl

theorem resolve_holding (ht : t.Keyed) (key : String) :
    PodStore.resolve (d.holding t) key =
      (t.addressed? key).elim (.ok none) (fun row ↦ (t.recordOf row).map some) := by
  simp only [PodStore.resolve, d.find_holding, d.findNamed_holding, ht.find_eq, ht.findNamed_eq,
    Tables.addressed?]
  cases t.pods.find? (fun row ↦ row.id == key) with
  | none => rfl
  | some row =>
    simp only [Option.elim_some, Option.some_or]
    cases t.recordOf row with
    | error e => rfl
    | ok r => rfl

theorem find_of_addressed? (ht : t.Keyed) {key : String} {row : PodRow} {r : PodRecord}
    (hrow : t.addressed? key = some row) (hr : t.recordOf row = .ok r) :
    t.find r.id = .ok (some r) := by
  rw [Tables.recordOf_id hr, ht.find_of_mem (Tables.mem_of_addressed? hrow), hr]
  rfl

section Writes

variable {α : Type} (memory : KeyedStore → Written KeyedStore α) (x : TableStore.Transaction α)

theorem write_answer : ((d.place t).write memory (fun s ↦ s.transact x)).answer =
    ((d.table t).transact x).answer := by
  obtain ⟨medium, error⟩ := d
  cases medium <;> rfl

theorem write_store : ((d.place t).write memory (fun s ↦ s.transact x)).store =
    d.place ((d.table t).transact x).store.tables := by
  obtain ⟨medium, error⟩ := d
  cases medium with
  | disk path guards => rfl
  | transient refuses =>
    have hrefuses : (TableStore.transact ⟨t, refuses⟩ x).store.refuses = refuses :=
      TableStore.refuses_transact _ x
    exact congrArg (fun refuses ↦ Backing.transient ⟨_, refuses⟩) hrefuses

end Writes

theorem create_of_taken {pod : NewPod} (h : ∃ row ∈ t.pods, row.name = pod.name) (id : PodId)
    (time : String) : ∃ e, (PodStore.create (d.holding t) id time pod).answer = .error e := by
  cases hanswer : (PodStore.create (d.holding t) id time pod).answer with
  | error e => exact ⟨e, rfl⟩
  | ok r =>
    have htable := (d.write_answer _ (TableStore.creation id time pod)).symm.trans hanswer
    obtain ⟨draft, hbody, -⟩ :=
      TableStore.transact_of_ok (TableStore.tidy_creation id time pod) htable
    have htaken : (TableStore.creation id time pod).body t = .error (.nameTaken pod.name) :=
      if_pos (by simpa using h)
    cases htaken.symm.trans hbody

theorem delete_of_ok {id : PodId} (h : (PodStore.delete (d.holding t) id).answer = .ok ()) :
    (PodStore.delete (d.holding t) id).store = d.holding (t.without id) := by
  have htable := (d.write_answer _ (TableStore.deletion id)).symm.trans h
  obtain ⟨-, hstore⟩ := TableStore.delete_of_ok htable
  have hplace := d.write_store (t := t) (PodStore.delete · id) (TableStore.deletion id)
  exact congrArg (Outage.mk · d.error) (hplace.trans (congrArg (d.place ·.tables) hstore))

theorem delete_of_accepts (haccepts : (d.table t).Accepts) {id : PodId}
    (h : ∃ row ∈ t.pods, row.id = id) : (PodStore.delete (d.holding t) id).answer = .ok () :=
  (d.write_answer _ (TableStore.deletion id)).trans
    (congrArg Written.answer (haccepts.delete_of_stored h))

/-- An update that succeeds leaves everything but its pod alone. -/
theorem apply_of_ok (ht : t.Keyed) {time : String} {id : PodId} {u : Update} {r : PodRecord}
    (h : (PodStore.apply (d.holding t) time id u).answer = .ok r) :
    ∃ t', (PodStore.apply (d.holding t) time id u).store = d.holding t' ∧ t'.Keyed ∧
      t.Spares id t' ∧ t'.find id = .ok (some r) ∧
        ∃ old, t.find id = .ok (some old) ∧ r = old.apply time u := by
  have hplace := d.write_store (t := t) (PodStore.apply · time id u) (TableStore.change time id u)
  have hanswer := d.write_answer (t := t) (PodStore.apply · time id u)
    (TableStore.change time id u)
  obtain ⟨medium, error⟩ := d
  cases error with
  | some e => cases h
  | none =>
    have htable := hanswer.symm.trans h
    have hsound : (Database.table ⟨medium, none⟩ t).Sound := ht
    obtain ⟨-, ht', hfind⟩ := hsound.apply_ok htable
    obtain ⟨old, hold, rfl, hstore⟩ := TableStore.apply_of_ok htable
    have hid : old.id = id := TableStore.lawful.find_id hsound hold
    refine ⟨_, congrArg (Outage.mk · none) hplace, ht', ?_, (hfind id).trans (if_pos rfl), old,
      hold, rfl⟩
    change t.Spares id (TableStore.apply _ time id u).store.tables
    rw [hstore]
    split
    · have hspares := Tables.Spares.replacing t (old.apply time u)
      rwa [(old.samePod_apply time u).id, hid] at hspares
    · exact .refl t id

theorem apply_of_accepts (ht : t.Keyed) (haccepts : (d.table t).Accepts) (herror : d.error = none)
    (time : String) {id : PodId} (u : Update) {old : PodRecord}
    (hold : t.find id = .ok (some old)) :
    ∃ r, (PodStore.apply (d.holding t) time id u).answer = .ok r := by
  have hanswer := d.write_answer (t := t) (PodStore.apply · time id u)
    (TableStore.change time id u)
  have hup : (PodStore.apply (d.holding t) time id u).answer =
      ((d.table t).apply time id u).answer := by
    obtain ⟨medium, error⟩ := d
    obtain rfl : error = none := herror
    exact hanswer
  rw [hup]
  cases hu : old.differs u with
  | false => exact ⟨old, haccepts.ready.apply_of_unchanged time hold hu⟩
  | true =>
    obtain ⟨row, hrow, -, hrecord⟩ := ht.of_find hold
    have hmem : old.id ∈ t.pods.map PodRow.id :=
      Tables.recordOf_id hrecord ▸ List.mem_map_of_mem hrow
    exact ⟨_, congrArg Written.answer (haccepts.apply_of_changed time hold hu hmem)⟩

end Database

namespace Cli.Command

/-- A command on the pod of a key. -/
inductive Addresses (key : String) : Command → Prop
  | present : Addresses key (.present key)
  | delete : Addresses key (.delete key)
  | sync (workers : List HttpWorker) : Addresses key (.sync key workers)

section Runs

variable (network : Network) (timeout : Duration) {s : Service}

theorem run_of_error {key : String} {c : Command} (hc : c.Addresses key) {e : StoreError}
    (h : PodStore.resolve s.store key = .error e) :
    c.run network timeout s = (.failed e.text, s) := by
  cases hc <;> simp only [run, withPod, h]

theorem run_of_unknown {key : String} {c : Command} (hc : c.Addresses key)
    (h : PodStore.resolve s.store key = .ok none) :
    c.run network timeout s = (.failed ("Pod '" ++ key ++ "' not found"), s) := by
  cases hc <;> simp only [run, withPod, h]

theorem run_delete {key : String} {r : PodRecord}
    (h : PodStore.resolve s.store key = .ok (some r)) :
    ((delete key).run network timeout s).2.store = (PodStore.delete s.store r.id).store ∧
      ((delete key).run network timeout s).1 =
        match (PodStore.delete s.store r.id).answer with
        | .error e => .failed e.text
        | .ok () => .printed ("Deleted pod " ++ r.name ++ " (" ++ r.id ++ ")\n") := by
  simp only [run, withPod, h, Service.perform, Operation.perform, Operation.written]
  cases (PodStore.delete s.store r.id).answer with
  | error e => exact ⟨rfl, rfl⟩
  | ok => exact ⟨rfl, rfl⟩

theorem run_sync {key : String} {r : PodRecord}
    (h : PodStore.resolve s.store key = .ok (some r)) (workers : List HttpWorker) :
    ((sync key workers).run network timeout s).2.store =
        ((Sync.start r (connected network workers) timeout).commit s.store s.nextTime).store ∧
      ((sync key workers).run network timeout s).1 =
        match ((Sync.start r (connected network workers) timeout).commit s.store
          s.nextTime).answer with
        | .error e => .failedBecause "Pod sync failed" e.text
        | .ok r => .printed (podText r) := by
  generalize hsync : Sync.start r (connected network workers) timeout = y
  simp only [run, withPod, h, hsync, Service.begin, Service.commit, Service.nextTime,
    Service.perform, Operation.perform, Operation.settled]
  cases (y.commit s.store (Service.timeOf (s.changed + 1))).answer with
  | error e => exact ⟨rfl, rfl⟩
  | ok r => exact ⟨rfl, rfl⟩

theorem run_create (pod : NewPod) :
    ((create pod).run network timeout s).2.store =
        (PodStore.create s.store s.nextId s.nextTime pod).store ∧
      ((create pod).run network timeout s).1 =
        match (PodStore.create s.store s.nextId s.nextTime pod).answer with
        | .error e => .failedBecause "Failed to create pod" e.text
        | .ok r => .printed (podText r) := by
  simp only [run, Service.create, Service.perform, Operation.perform, Operation.written]
  cases (PodStore.create s.store s.nextId s.nextTime pod).answer with
  | error e => exact ⟨rfl, rfl⟩
  | ok r => exact ⟨rfl, rfl⟩

theorem run_list : (list.run network timeout s).2 = s := by
  rw [run]
  split <;> rfl

theorem run_discover (target : Target) (request : Request) (workers : List HttpWorker) :
    ((discover target request workers).run network timeout s).2 = s := by
  rw [run]
  split <;> rfl

theorem status_run_discover {target : Target} {request : Request} {workers : List HttpWorker}
    (h : ∀ report, Discovery.run target request (connected network workers) timeout = .ok report →
      report.result.succeeded.isEmpty = true) :
    ((discover target request workers).run network timeout s).1.status = 1 := by
  rw [run]
  cases hreport : Discovery.run target request (connected network workers) timeout with
  | error e => rfl
  | ok report =>
    simp only [discovered, h report hreport, if_true]
    rfl

end Runs

/-- What a deletion comes to: only the database can make it fail, and else just the pod is gone. -/
inductive Deleted (d : Database) (t : Tables) (r : PodRecord) (after : Output × Service) : Prop
  | failed (status : after.1.status = 1) (store : after.2.store = d.holding t)
      (cause : ¬ (d.table t).Accepts)
  | removed (output : after.1 = .printed ("Deleted pod " ++ r.name ++ " (" ++ r.id ++ ")\n"))
      (store : after.2.store = d.holding (t.without r.id))
      (gone : (t.without r.id).find r.id = .ok none)
      (others : ∀ id ≠ r.id, (t.without r.id).find id = t.find id)

/-- What a sync comes to: a failure without a write, or what was planned written to the pod. -/
inductive Synced (d : Database) (t : Tables) (r : PodRecord) (time : String)
    (plan : Except SyncError Update) (after : Output × Service) : Prop
  | failed (status : after.1.status = 1) (store : after.2.store = d.holding t)
      (cause : (∃ e, plan = .error e) ∨ ¬ (d.table t).Accepts ∨ d.error ≠ none)
  | written {u : Update} {t' : Tables} (planned : plan = .ok u)
      (output : after.1 = .printed (podText (r.apply time u)))
      (store : after.2.store = d.holding t')
      (stored : t'.find r.id = .ok (some (r.apply time u))) (spares : t.Spares r.id t')
      (others : ∀ id ≠ r.id, t'.find id = t.find id)

section Database

variable {network : Network} {timeout : Duration} {s : Service} {d : Database} {t : Tables}
  {key : String} {r : PodRecord}

theorem deleted_run (hs : s.store = d.holding t) (ht : t.Keyed)
    (hr : PodStore.resolve s.store key = .ok (some r)) (hfind : t.find r.id = .ok (some r)) :
    Deleted d t r ((delete key).run network timeout s) := by
  obtain ⟨hstore, houtput⟩ := run_delete network timeout hr
  rw [hs] at hstore houtput
  have hlaws := Outage.lawful Backing.lawful
  cases hanswer : (PodStore.delete (d.holding t) r.id).answer with
  | error e =>
    rw [hanswer] at houtput
    refine .failed (congrArg Output.status houtput)
      (hstore.trans (hlaws.delete_error (d.sound_holding ht) hanswer).1) (fun haccepts ↦ ?_)
    obtain ⟨row, hrow, hid, -⟩ := ht.of_find hfind
    cases hanswer.symm.trans (d.delete_of_accepts haccepts ⟨row, hrow, hid⟩)
  | ok =>
    rw [hanswer] at houtput
    rw [d.delete_of_ok hanswer] at hstore
    obtain ⟨-, -, hothers⟩ := hlaws.delete_ok (d.sound_holding ht) hanswer
    simp only [d.delete_of_ok hanswer, d.find_holding] at hothers
    exact .removed houtput hstore ((hothers r.id).trans (if_pos rfl))
      (fun id hid ↦ (hothers id).trans (if_neg hid))

theorem synced_run (hs : s.store = d.holding t) (ht : t.Keyed)
    (hr : PodStore.resolve s.store key = .ok (some r)) (hfind : t.find r.id = .ok (some r))
    (workers : List HttpWorker) :
    Synced d t r s.nextTime (Sync.start r (connected network workers) timeout).plan
      ((sync key workers).run network timeout s) := by
  obtain ⟨hstore, houtput⟩ := run_sync network timeout hr workers
  have hpod := Sync.pod_start r (connected network workers) timeout
  generalize Sync.start r (connected network workers) timeout = y at hstore houtput hpod ⊢
  obtain ⟨hanswer, hwritten, -⟩ := y.commit_eq s.store s.nextTime
  rw [hwritten, hpod, hs] at hstore
  rw [hanswer, hpod, hs] at houtput
  cases hplan : y.plan with
  | error e =>
    rw [hplan] at hstore houtput
    exact .failed (congrArg Output.status houtput) hstore (.inl ⟨e, rfl⟩)
  | ok u =>
    rw [hplan] at hstore houtput
    cases happly : (PodStore.apply (d.holding t) s.nextTime r.id u).answer with
    | error e =>
      have hkept := ((Outage.lawful Backing.lawful).apply_error (d.sound_holding ht) happly).1
      refine .failed ?_ (hstore.trans hkept) (.inr ?_)
      · rw [houtput]
        simp only [Reconciled.write, happly]
        rfl
      · by_contra hcause
        obtain ⟨haccepts, herror⟩ := not_or.1 hcause
        obtain ⟨r', hr'⟩ := d.apply_of_accepts ht (not_not.1 haccepts) (not_not.1 herror)
          s.nextTime u hfind
        cases happly.symm.trans hr'
    | ok r' =>
      obtain ⟨t', ht't, ht', hspares, hstored, old, hold, rfl⟩ := d.apply_of_ok ht happly
      obtain rfl : r = old := Option.some.inj (Except.ok.inj (hfind.symm.trans hold))
      refine .written rfl ?_ (hstore.trans ht't) hstored hspares
        (fun id hid ↦ ht.find_spared ht' hspares hid)
      rw [houtput]
      simp only [Reconciled.write, happly]
      rfl

/-- What the commands do on a database that holds certain tables. -/
structure Frame (network : Network) (timeout : Duration) (s : Service) (d : Database) (t : Tables) :
    Prop where
  unknown {key : String} {c : Command} (hc : c.Addresses key) (h : t.addressed? key = none) :
    c.run network timeout s = (.failed ("Pod '" ++ key ++ "' not found"), s)
  unreadable {key : String} {c : Command} (hc : c.Addresses key) {row : PodRow} {e : StoreError}
    (hrow : t.addressed? key = some row) (he : t.recordOf row = .error e) :
    c.run network timeout s = (.failed e.text, s)
  present {key : String} {row : PodRow} {r : PodRecord} (hrow : t.addressed? key = some row)
    (hr : t.recordOf row = .ok r) :
    (Command.present key).run network timeout s = (.printed (podText r), s)
  delete {key : String} {row : PodRow} {r : PodRecord} (hrow : t.addressed? key = some row)
    (hr : t.recordOf row = .ok r) : Deleted d t r ((Command.delete key).run network timeout s)
  sync {key : String} {row : PodRow} {r : PodRecord} (hrow : t.addressed? key = some row)
    (hr : t.recordOf row = .ok r) (workers : List HttpWorker) :
    Synced d t r s.nextTime (Sync.start r (connected network workers) timeout).plan
      ((Command.sync key workers).run network timeout s)
  list : (Command.list.run network timeout s).2 = s
  discover (target : Target) (request : Request) (workers : List HttpWorker) :
    ((Command.discover target request workers).run network timeout s).2 = s
  undiscovered {target : Target} {request : Request} {workers : List HttpWorker}
    (h : ∀ report, Discovery.run target request (connected network workers) timeout = .ok report →
      report.result.succeeded.isEmpty = true) :
    ((Command.discover target request workers).run network timeout s).1.status = 1
  taken {pod : NewPod} (h : ∃ row ∈ t.pods, row.name = pod.name) :
    ((Command.create pod).run network timeout s).1.status = 1
  failed (c : Command) (h : (c.run network timeout s).1.status ≠ 0) :
    (c.run network timeout s).2.store = s.store

theorem store_run_create (hs : s.store = d.holding t) (ht : t.Keyed) {pod : NewPod}
    (h : ((create pod).run network timeout s).1.status ≠ 0) :
    ((create pod).run network timeout s).2.store = s.store := by
  obtain ⟨hstore, houtput⟩ := run_create network timeout (s := s) pod
  cases hanswer : (PodStore.create s.store s.nextId s.nextTime pod).answer with
  | error e =>
    have hsound : s.store.store.Sound := hs ▸ d.sound_holding ht
    exact hstore.trans ((Outage.lawful Backing.lawful).create_error hsound hanswer).1
  | ok r =>
    rw [hanswer] at houtput
    exact absurd (congrArg Output.status houtput) h

theorem Deleted.store_of_failed {after : Output × Service} (h : Deleted d t r after)
    (hstatus : after.1.status ≠ 0) : after.2.store = d.holding t := by
  cases h with
  | failed _ store _ => exact store
  | removed output => exact absurd (congrArg Output.status output) hstatus

theorem Synced.store_of_failed {time : String} {plan : Except SyncError Update}
    {after : Output × Service} (h : Synced d t r time plan after)
    (hstatus : after.1.status ≠ 0) : after.2.store = d.holding t := by
  cases h with
  | failed _ store _ => exact store
  | written _ output => exact absurd (congrArg Output.status output) hstatus

theorem store_run_of_addresses (hs : s.store = d.holding t) (ht : t.Keyed) {c : Command}
    (hc : c.Addresses key) (h : (c.run network timeout s).1.status ≠ 0) :
    (c.run network timeout s).2.store = s.store := by
  have hresolve := d.resolve_holding ht key
  rw [← hs] at hresolve
  cases hrow : t.addressed? key with
  | none =>
    rw [hrow] at hresolve
    rw [run_of_unknown network timeout hc hresolve]
  | some row =>
    rw [hrow, Option.elim_some] at hresolve
    cases hr : t.recordOf row with
    | error e =>
      rw [hr] at hresolve
      rw [run_of_error network timeout hc hresolve]
    | ok r =>
      rw [hr] at hresolve
      have hfind := Database.find_of_addressed? ht hrow hr
      cases hc with
      | present => simp only [run, withPod, hresolve, Except.map]
      | delete => exact ((deleted_run hs ht hresolve hfind).store_of_failed h).trans hs.symm
      | sync workers =>
        exact ((synced_run hs ht hresolve hfind workers).store_of_failed h).trans hs.symm

theorem frame_run (hs : s.store = d.holding t) (ht : t.Keyed) : Frame network timeout s d t := by
  have hresolve := d.resolve_holding ht
  rw [← hs] at hresolve
  have hrecord {key : String} {row : PodRow} {r : PodRecord} (hrow : t.addressed? key = some row)
      (hr : t.recordOf row = .ok r) : PodStore.resolve s.store key = .ok (some r) := by
    rw [hresolve, hrow, Option.elim_some, hr]
    rfl
  refine ⟨fun hc h ↦ ?_, fun hc row e hrow he ↦ ?_, fun hrow hr ↦ ?_, fun hrow hr ↦ ?_,
    fun hrow hr workers ↦ ?_, run_list network timeout,
    run_discover network timeout, status_run_discover network timeout, fun h ↦ ?_,
    fun c h ↦ ?_⟩
  · exact run_of_unknown network timeout hc (by rw [hresolve, h]; rfl)
  · exact run_of_error network timeout hc (by rw [hresolve, hrow, Option.elim_some, he]; rfl)
  · simp only [run, withPod, hrecord hrow hr]
  · exact deleted_run hs ht (hrecord hrow hr) (Database.find_of_addressed? ht hrow hr)
  · exact synced_run hs ht (hrecord hrow hr) (Database.find_of_addressed? ht hrow hr) workers
  · obtain ⟨e, he⟩ := d.create_of_taken h s.nextId s.nextTime
    rw [(run_create network timeout _).2, hs, he]
    rfl
  · cases c with
    | create pod => exact store_run_create hs ht h
    | list => exact congrArg Service.store (run_list network timeout)
    | present key => exact store_run_of_addresses hs ht .present h
    | delete key => exact store_run_of_addresses hs ht .delete h
    | discover target request workers =>
      exact congrArg Service.store (run_discover network timeout target request workers)
    | sync key workers => exact store_run_of_addresses hs ht (.sync workers) h

end Database

end Cli.Command

namespace Cli

/-- Every command that takes a key takes it for the same pod and spares all others, those that only
ask change nothing, and no run that ends in a failure changes what is stored. -/
theorem commands_spare_others (network : Network) {s : Service} (d : Database) {t : Tables}
    (hs : s.store = d.holding t) (ht : t.Keyed) :
    (∀ timeout, Command.Frame network timeout s d t) ∧
      ∀ arguments, (run network s arguments).1.status ≠ 0 →
        (run network s arguments).2.store = s.store := by
  refine ⟨fun timeout ↦ Command.frame_run hs ht, fun arguments h ↦ ?_⟩
  rw [run] at h ⊢
  cases hread : Invocation.read arguments with
  | error stop => rfl
  | ok i =>
    simp only [hread, Invocation.run] at h ⊢
    split at h
    · rename_i hephemeral
      rw [if_pos hephemeral]
    · rename_i hkept
      rw [if_neg hkept]
      exact (Command.frame_run hs ht).failed i.command h

/-- Two pods, of which one has the id of the other for its name. -/
def crossed : Tables where
  pods := [.ofRecord (.create "1" "t1" ⟨"2", "virsh", "default", "default", ∅⟩),
    .ofRecord (.create "2" "t2" ⟨"attic", "virsh", "default", "default", ∅⟩)]
  routes := []

theorem commands_spare_others_crossed :
    crossed.Keyed ∧
      ((Command.present "2").run (fun _ _ ↦ (0, .broken)) ⟨0, 0⟩
        (Service.start (.durable "pods.db" crossed []))).1 =
          .printed (podText (.create "2" "t2" ⟨"attic", "virsh", "default", "default", ∅⟩)) ∧
      ((Command.delete "2").run (fun _ _ ↦ (0, .broken)) ⟨0, 0⟩
        (Service.start (.durable "pods.db" crossed []))).2.store =
          ⟨.durable "pods.db" (crossed.without "2") [], none⟩ := by
  have hkeyed : crossed.Keyed := ⟨by decide, by decide, by decide, by simp [crossed]⟩
  obtain ⟨hframe, -⟩ := commands_spare_others (fun _ _ ↦ (0, .broken))
    (s := Service.start (.durable "pods.db" crossed [])) ⟨.disk "pods.db" [], none⟩ rfl hkeyed
  have hrow : crossed.addressed? "2" =
      some (.ofRecord (.create "2" "t2" ⟨"attic", "virsh", "default", "default", ∅⟩)) := rfl
  have hr : crossed.recordOf
      (.ofRecord (.create "2" "t2" ⟨"attic", "virsh", "default", "default", ∅⟩)) =
        .ok (.create "2" "t2" ⟨"attic", "virsh", "default", "default", ∅⟩) := by
    rw [Tables.recordOf, (PodRow.reads_ofRecord _).record_eq]
    rfl
  refine ⟨hkeyed, congrArg Prod.fst ((hframe ⟨0, 0⟩).present hrow hr), ?_⟩
  cases (hframe ⟨0, 0⟩).delete hrow hr with
  | failed _ _ cause => exact absurd (fun _ _ _ ↦ rfl) cause
  | removed _ store => exact store

end Cli

end PodInventory
