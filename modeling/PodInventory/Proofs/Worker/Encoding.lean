import PodInventory.Proofs.Pod.Encoding
import PodInventory.Worker.Error

namespace PodInventory

open Decode Document Json

namespace Duration

def members (d : Duration) : List (String × Json) :=
  [("secs", .nat d.secs.toNat), ("nanos", .nat d.nanos.val)]

theorem fits_json (room : Nat) (d : Duration) : d.json.Fits (room + 1) := by
  have hmembers : ∀ m ∈ d.members, m.2.Fits room := by
    simp only [members, List.forall_mem_cons]
    exact ⟨fits_word64 _ _, fits_nat (Nat.lt_trans d.nanos.isLt (by decide)),
      List.forall_mem_nil _⟩
  exact fits_object hmembers

theorem carry_eq (place : Option Place) (d : Duration) :
    carry place d.secs.toNat d.nanos.val = .ok d := by
  obtain ⟨secs, nanos⟩ := d
  have hnone : nanos.val / 1000000000 = 0 := Nat.div_eq_of_lt nanos.isLt
  have hmod : nanos.val % 1000000000 = nanos.val := Nat.mod_eq_of_lt nanos.isLt
  have hsecs : ¬ UInt64.size ≤ secs.toNat := Nat.not_le.2 secs.toNat_lt
  simp only [carry, hnone, Nat.add_zero, if_neg hsecs, hmod, UInt64.ofNat_toNat, Nat.toUInt64]

theorem decode_gets {d : Duration} {j : Json} (hj : layout.Shows d.members j) :
    Gets decode j d := by
  intro n hn
  have hsecs : Gets (natural 64) (.nat d.secs.toNat) d.secs.toNat :=
    fun _ h ↦ natural_of_holds (d.secs.toNat_lt : d.secs.toNat < 1 <<< 64) h
  have hnanos : Gets (natural 32) (.nat d.nanos.val) d.nanos.val :=
    fun _ h ↦ natural_of_holds (Nat.lt_trans d.nanos.isLt (by decide)) h
  obtain ⟨fields, hread, hold⟩ := layout.read_of_shows
    (.cons (Field.accepts_of _ (word64_inverts d.secs)) (.cons (Field.accepts_of _ hnanos) .nil))
    (by simp) hj hn
  rw [decode, hread]
  simp only [bind, Except.bind, hold.need "secs" (by simp) hsecs,
    hold.need "nanos" (by simp) hnanos, carry_eq]

theorem takes_members : layout.Takes decode members where
  names _ := by simp [members]
  written _ _ hj := decode_gets hj
  sorted _ _ hj := decode_gets hj

end Duration

namespace WorkerError

theorem knownTag_tag (place : Option Place) (e : WorkerError) :
    knownTag place e.tag = .ok e.tag := by
  cases e <;> rfl

theorem decodeTag_gets (e : WorkerError) : Gets decodeTag (.text e.tag) e.tag := by
  intro n hn
  obtain ⟨extent, rfl⟩ := holds_text hn
  exact knownTag_tag _ e

theorem cancelled_gets {after : Duration} {v j : Json} (hafter : Gets Duration.decode v after)
    (hj : cancelledLayout.Shows [("after", v)] j) :
    Gets (decodeDetail "cancelled") j (.cancelled after) := by
  intro n hn
  obtain ⟨fields, hread, hold⟩ := cancelledLayout.read_of_shows
    (.cons (Field.accepts_of _ hafter) .nil) (by simp) hj hn
  rw [decodeDetail, if_pos rfl, hread]
  simp only [bind, Except.bind, hold.need "after" (by simp) hafter]
  rfl

theorem remote_gets {kind message : String} {j : Json}
    (hj : remoteLayout.Shows [("kind", .text kind), ("message", .text message)] j) :
    Gets (decodeDetail "remote") j (.remote kind message) := by
  intro n hn
  have hkind := string_inverts kind
  have hmessage := string_inverts message
  obtain ⟨fields, hread, hold⟩ := remoteLayout.read_of_shows
    (.cons (Field.accepts_of _ hkind) (.cons (Field.accepts_of _ hmessage) .nil)) (by simp) hj hn
  rw [decodeDetail, if_neg (by decide), if_pos rfl, hread]
  simp only [bind, Except.bind, hold.need "kind" (by simp) hkind,
    hold.need "message" (by simp) hmessage]
  rfl

theorem text_gets (name : String) (make : String → WorkerError)
    (h : ∀ n, decodeDetail name n = (string n).map make) (detail : String) :
    Gets (decodeDetail name) (.text detail) (make detail) := by
  intro n hn
  rw [h, string_inverts detail n hn]
  rfl

/-- Under its tag every detail reads back, its members in either order. -/
theorem decodeDetail_recovers (e : WorkerError) :
    Gets (decodeDetail e.tag) e.detail e ∧ Gets (decodeDetail e.tag) (ordered e.detail) e := by
  cases e with
  | cancelled after =>
    have hafter := Duration.takes_members.object
    exact ⟨cancelled_gets (hafter.written after) (.object (.refl _)),
      cancelled_gets (hafter.sorted after) (.object (.refl _))⟩
  | remote kind message =>
    refine ⟨remote_gets (.object (.refl _)), remote_gets ?_⟩
    exact Layout.Shows.ordered (.object (.refl [("kind", .text kind), ("message", .text message)]))
      (by simp)
  | transport detail =>
    have hgets := text_gets "transport" .transport (fun _ ↦ rfl) detail
    exact ⟨hgets, hgets⟩
  | invalidReply detail =>
    have hgets := text_gets "invalid_reply" .invalidReply (fun _ ↦ rfl) detail
    exact ⟨hgets, hgets⟩
  | aborted detail =>
    have hgets := text_gets "aborted" .aborted (fun _ ↦ rfl) detail
    exact ⟨hgets, hgets⟩

theorem decode_gets_tagFirst {e : WorkerError} {v : Json} (hv : Gets (decodeDetail e.tag) v e) :
    Gets decode (.object [("error", .text e.tag), ("detail", v)]) e := by
  intro n hn
  obtain ⟨o, start, ms, rfl, hms⟩ := holds_object hn
  obtain ⟨_, error, tag, rest, rfl, herror, htag, hrest⟩ := jsonMembers_cons hms
  obtain ⟨_, key, value, rest, rfl, hkey, hvalue, hrest⟩ := jsonMembers_cons hrest
  obtain ⟨halt, rfl⟩ := jsonMembers_nil hrest
  have htagged := decodeTag_gets e tag htag
  have hdetail := hv value hvalue
  simp [decode, decodeMembers, nextPart, finish, bind, Except.bind, pure, Except.pure, herror, hkey,
    htagged, hdetail]

/-- With its detail in front an error is read once the detail has been kept. -/
theorem decode_gets_detailFirst {e : WorkerError} {v : Json}
    (hv : Gets (decodeDetail e.tag) v e) :
    Gets decode (.object [("detail", v), ("error", .text e.tag)]) e := by
  intro n hn
  obtain ⟨o, start, ms, rfl, hms⟩ := holds_object hn
  obtain ⟨_, key, value, rest, rfl, hkey, hvalue, hrest⟩ := jsonMembers_cons hms
  obtain ⟨_, error, tag, rest, rfl, herror, htag, hrest⟩ := jsonMembers_cons hrest
  obtain ⟨halt, rfl⟩ := jsonMembers_nil hrest
  have hkept : Decode.json value = .ok v := hvalue
  have htagged := decodeTag_gets e tag htag
  have hdetail := hv _ (holds_ofValue .buffer v)
  simp [decode, decodeMembers, nextPart, finish, bind, Except.bind, pure, Except.pure, herror, hkey,
    hkept, htagged, hdetail]

def detailFirst (e : WorkerError) : Json :=
  .object [("detail", e.detail), ("error", .text e.tag)]

/-- In a JSON value the detail always comes before the tag. -/
theorem ordered_json (e : WorkerError) :
    ordered e.json = .object [("detail", ordered e.detail), ("error", .text e.tag)] := by
  have hbefore : "detail" < "error" := by decide
  simp only [json, ordered, orderedMembers, Dict.ofList, Dict.insert, Dict.place, Dict.empty,
    List.foldl_cons, List.foldl_nil, hbefore, ↓reduceIte]

theorem ordered_detailFirst (e : WorkerError) :
    ordered e.detailFirst = .object [("detail", ordered e.detail), ("error", .text e.tag)] := by
  have hafter : ¬ "error" < "detail" := by decide
  have hne : "error" ≠ "detail" := by decide
  simp only [detailFirst, ordered, orderedMembers, Dict.ofList, Dict.insert, Dict.place, Dict.empty,
    List.foldl_cons, List.foldl_nil, hafter, hne, ↓reduceIte]

theorem json_recovers : Recovers decode json where
  written e := decode_gets_tagFirst (decodeDetail_recovers e).1
  sorted e := by
    simp only [Inverts, ordered_json]
    exact decode_gets_detailFirst (decodeDetail_recovers e).2

theorem detailFirst_recovers : Recovers decode detailFirst where
  written e := decode_gets_detailFirst (decodeDetail_recovers e).1
  sorted e := by
    simp only [Inverts, ordered_detailFirst]
    exact decode_gets_detailFirst (decodeDetail_recovers e).2

theorem fits_detail (room : Nat) (e : WorkerError) : e.detail.Fits (room + 2) := by
  cases e with
  | cancelled after =>
    exact fits_object (List.forall_mem_cons.2 ⟨after.fits_json room, List.forall_mem_nil _⟩)
  | remote kind message =>
    exact fits_object (List.forall_mem_cons.2
      ⟨trivial, List.forall_mem_cons.2 ⟨trivial, List.forall_mem_nil _⟩⟩)
  | _ => trivial

theorem fits_json (room : Nat) (e : WorkerError) : e.json.Fits (room + 3) :=
  fits_object (List.forall_mem_cons.2
    ⟨trivial, List.forall_mem_cons.2 ⟨e.fits_detail room, List.forall_mem_nil _⟩⟩)

theorem fits_detailFirst (room : Nat) (e : WorkerError) : e.detailFirst.Fits (room + 3) :=
  fits_object (List.forall_mem_cons.2
    ⟨e.fits_detail room, List.forall_mem_cons.2 ⟨trivial, List.forall_mem_nil _⟩⟩)

end WorkerError

/-- Every form in which pods and worker errors are written loses nothing: the fields of a record by
name, those of a discovery also by position, and an error with its tag or its detail in front. -/
theorem wire_forms_round_trip :
    (RoundTrips Hints.decode Hints.json ∧ RoundTrips StoragePool.decode StoragePool.json ∧
      RoundTrips Snapshot.decode Snapshot.json ∧ RoundTrips PodRecord.decode PodRecord.json) ∧
    (RoundTrips Hints.decode Hints.listed ∧ RoundTrips StoragePool.decode StoragePool.listed ∧
      RoundTrips Snapshot.decode (Snapshot.listed Hints.json StoragePool.json) ∧
      RoundTrips Snapshot.decode (Snapshot.listed Hints.listed StoragePool.listed)) ∧
    RoundTrips WorkerError.decode WorkerError.json ∧
      RoundTrips WorkerError.decode WorkerError.detailFirst := by
  have hhint : Recovers Hints.decode Hints.json := Hints.takes_members.object
  have hpool : Recovers StoragePool.decode StoragePool.json := StoragePool.takes_members.object
  have hhint' : Recovers Hints.decode Hints.listed := Hints.takes_members.list rfl
  have hpool' : Recovers StoragePool.decode StoragePool.listed := StoragePool.takes_members.list rfl
  have hsnapshot : Recovers Snapshot.decode Snapshot.json :=
    (Snapshot.takes_members hhint hpool).object
  have hrecord : Recovers PodRecord.decode PodRecord.json :=
    (PodRecord.takes_members hhint hpool).object
  refine ⟨⟨hhint.roundTrips (Hints.fits_json _), hpool.roundTrips (StoragePool.fits_json _),
    hsnapshot.roundTrips fun s ↦ ?_, hrecord.roundTrips fun r ↦ ?_⟩,
    ⟨hhint'.roundTrips (Hints.fits_listed _), hpool'.roundTrips (StoragePool.fits_listed _),
      ((Snapshot.takes_members hhint hpool).list rfl).roundTrips fun s ↦ ?_,
      ((Snapshot.takes_members hhint' hpool').list rfl).roundTrips fun s ↦ ?_⟩,
    WorkerError.json_recovers.roundTrips (WorkerError.fits_json _),
    WorkerError.detailFirst_recovers.roundTrips (WorkerError.fits_detailFirst _)⟩
  · exact fits_object (s.fits_members (Hints.fits_json _) (StoragePool.fits_json _))
  · exact fits_object (r.fits_members (Hints.fits_json _) (StoragePool.fits_json _))
  · exact fits_values (s.fits_members (Hints.fits_json _) (StoragePool.fits_json _))
  · exact fits_values (s.fits_members (Hints.fits_listed _) (StoragePool.fits_listed _))

end PodInventory
