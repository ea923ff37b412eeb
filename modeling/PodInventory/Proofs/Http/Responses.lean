import PodInventory.Proofs.FanOut.Calls
import PodInventory.Proofs.Http.Fault
import PodInventory.Proofs.Sync
import PodInventory.Proofs.Text.Utf8

namespace PodInventory

open Grammar

namespace Http

/-- What a response comes to, by its status and the text of its body. A value is a reply if it
means something, and nowhere in it 128 brackets are open at once. -/
inductive Delivers (status : Nat) (body : String) : Outcome Json → Prop
  | reply {v : Value} {j : Json} (hstatus : 200 ≤ status ∧ status < 300) (hv : Spells body v)
    (hj : v.json? Document.depthLimit = some j) : Delivers status body (.ok (Decode.ordered j))
  | invalid (hstatus : 200 ≤ status ∧ status < 300)
    (hbody : ∀ v, Spells body v → v.json? Document.depthLimit = none) :
    Delivers status body (.error (.invalidReply undecodable))
  | remote {v : Value} {kind message : String} (hstatus : ¬ (200 ≤ status ∧ status < 300))
    (hv : Spells body v) (htells : v.Tells kind message) :
    Delivers status body (.error (.remote kind message))
  | transport (hstatus : ¬ (200 ≤ status ∧ status < 300))
    (hbody : ∀ v kind message, Spells body v → ¬ v.Tells kind message) :
    Delivers status body (.error (.transport ("HTTP " ++ statusText status ++ ": " ++ body)))

section Outcomes

variable {status : Nat} {body : String} {o : Outcome Json}

theorem isSuccess_iff : isSuccess status = true ↔ 200 ≤ status ∧ status < 300 := by
  simp [isSuccess]

theorem replyOf_text : replyOf ⟨status, Text.bytes body, true⟩ =
    (Decode.ofText Decode.value body).mapError (fun _ ↦ .invalidReply undecodable) := by
  simp only [replyOf, if_true, Text.ofUtf8?_bytes]
  cases Decode.ofText Decode.value body <;> rfl

theorem failureOf_of_ok {fault : Fault} (h : Decode.ofText Fault.decode body = .ok fault) :
    failureOf ⟨status, Text.bytes body, true⟩ = .remote fault.kind fault.message := by
  simp only [failureOf, if_true, Text.ofUtf8Lossy_bytes, h]

theorem failureOf_of_error {f : PodInventory.Fault}
    (h : Decode.ofText Fault.decode body = .error f) :
    failureOf ⟨status, Text.bytes body, true⟩ =
      .transport ("HTTP " ++ statusText status ++ ": " ++ body) := by
  simp only [failureOf, if_true, Text.ofUtf8Lossy_bytes, h]

theorem delivers_outcome (status : Nat) (body : String) :
    Delivers status body (Response.outcome ⟨status, Text.bytes body, true⟩) := by
  rw [Response.outcome]
  split
  · rename_i hsuccess
    have hstatus := isSuccess_iff.1 hsuccess
    rw [replyOf_text]
    cases hread : Decode.ofText Decode.value body with
    | ok reply =>
      obtain ⟨v, hv, j, hj, rfl⟩ := Decode.value_ofText_iff.1 hread
      exact .reply hstatus hv hj
    | error f =>
      refine .invalid hstatus (fun v hv ↦ ?_)
      cases hj : v.json? Document.depthLimit with
      | none => rfl
      | some j =>
        have hok := Decode.value_ofText_iff.2 ⟨v, hv, j, hj, rfl⟩
        rw [hread] at hok
        cases hok
  · rename_i hfailure
    have hstatus := mt isSuccess_iff.2 hfailure
    cases hread : Decode.ofText Fault.decode body with
    | ok fault =>
      obtain ⟨v, hv, htells⟩ := Fault.ofText_iff.1 hread
      rw [failureOf_of_ok hread]
      exact .remote hstatus hv htells
    | error f =>
      rw [failureOf_of_error hread]
      refine .transport hstatus (fun v kind message hv htells ↦ ?_)
      have hok := Fault.ofText_iff.2 ⟨v, hv, htells⟩
      rw [hread] at hok
      cases hok

/-- Status and body decide what a response comes to. -/
theorem Delivers.eq_outcome (h : Delivers status body o) :
    o = Response.outcome ⟨status, Text.bytes body, true⟩ := by
  rw [Response.outcome]
  cases h with
  | reply hstatus hv hj =>
    rw [if_pos (isSuccess_iff.2 hstatus), replyOf_text, Decode.value_ofText_iff.2 ⟨_, hv, _, hj, rfl⟩]
    rfl
  | invalid hstatus hbody =>
    rw [if_pos (isSuccess_iff.2 hstatus), replyOf_text]
    cases hread : Decode.ofText Decode.value body with
    | error f => rfl
    | ok reply =>
      obtain ⟨v, hv, j, hj, -⟩ := Decode.value_ofText_iff.1 hread
      rw [hbody v hv] at hj
      cases hj
  | remote hstatus hv htells =>
    rw [if_neg (mt isSuccess_iff.1 hstatus), failureOf_of_ok (Fault.ofText_iff.2 ⟨_, hv, htells⟩)]
  | transport hstatus hbody =>
    rw [if_neg (mt isSuccess_iff.1 hstatus)]
    cases hread : Decode.ofText Fault.decode body with
    | error f => rw [failureOf_of_error hread]
    | ok fault =>
      obtain ⟨v, hv, htells⟩ := Fault.ofText_iff.1 hread
      exact absurd htells (hbody v _ _ hv)

theorem delivers_iff :
    Delivers status body o ↔ o = Response.outcome ⟨status, Text.bytes body, true⟩ :=
  ⟨Delivers.eq_outcome, fun h ↦ h ▸ delivers_outcome status body⟩

theorem Delivers.status_of_ok {reply : Json} (h : Delivers status body (.ok reply)) :
    200 ≤ status ∧ status < 300 := by
  cases h with
  | reply hstatus => exact hstatus

end Outcomes

/-- Why a worker gives no snapshot: its response is a failure, or the reply in it is unusable. -/
inductive Causes (status : Nat) (body : String) : WorkerError → Prop
  | failed {e : WorkerError} (h : Delivers status body (.error e)) : Causes status body e
  | unusable {reply : Json} {e : WorkerError} (h : Delivers status body (.ok reply))
    (hreply : Discovery.decodeReply .pod reply = .error e) : Causes status body e

/-- A worker responds in time, with a whole body that is a text. -/
def Responds (network : HttpWorker → Url → Nat × Exchange) (deadline : Nat) (w : HttpWorker)
    (status : Nat) (body : String) : Prop :=
  ∃ url delay, w.url? = .ok url ∧
    network w url = (delay, .answered ⟨status, Text.bytes body, true⟩) ∧ delay ≤ deadline

section Racks

variable {network : HttpWorker → Url → Nat × Exchange} {timeout : Duration} {w : HttpWorker}
  {status : Nat} {body : String}

theorem connect_id_of_responds {deadline : Nat} (h : Responds network deadline w status body) :
    (w.connect network).id = w.id := by
  obtain ⟨url, delay, hurl, hnetwork, -⟩ := h
  rw [HttpWorker.connect, hurl]

theorem outcome_connect (h : Responds network timeout.ticks w status body) :
    FanOut.outcome timeout (w.connect network) =
      Response.outcome ⟨status, Text.bytes body, true⟩ := by
  obtain ⟨url, delay, hurl, hnetwork, hdelay⟩ := h
  have hconnect : w.connect network =
      ⟨w.id, delay, HttpWorker.action url (.answered ⟨status, Text.bytes body, true⟩)⟩ := by
    simp only [HttpWorker.connect, hurl, hnetwork]
  rw [hconnect, HttpWorker.action]
  cases Response.outcome ⟨status, Text.bytes body, true⟩ with
  | ok reply => simp [FanOut.outcome, FanOut.inTime, hdelay]
  | error e => simp [FanOut.outcome, FanOut.inTime, hdelay]

end Racks

section Calls

variable {network : HttpWorker → Url → Nat × Exchange} {racks : List HttpWorker}
  {timeout : Duration} {status : HttpWorker → Nat} {body : HttpWorker → String}

theorem find?_connect (hids : (racks.map HttpWorker.id).Nodup)
    (hconnect : ∀ w ∈ racks, (w.connect network).id = w.id) {w : HttpWorker} (hw : w ∈ racks) :
    (racks.map (HttpWorker.connect network)).find? (fun v ↦ v.id == w.id) =
      some (w.connect network) := by
  induction racks with
  | nil => cases hw
  | cons v racks ih =>
    obtain ⟨hnew, hids⟩ := List.nodup_cons.1 hids
    obtain ⟨hv, hconnect⟩ := List.forall_mem_cons.1 hconnect
    rw [List.map_cons]
    rcases List.mem_cons.1 hw with rfl | hw
    · rw [List.find?_cons_of_pos (by simpa using hv)]
    · have hne : v.id ≠ w.id := fun heq ↦ hnew (heq ▸ List.mem_map_of_mem hw)
      rw [List.find?_cons_of_neg (by simpa [hv] using hne)]
      exact ih hids hconnect hw

variable (hresponds : ∀ w ∈ racks, Responds network timeout.ticks w (status w) (body w))
include hresponds

theorem mem_racks_iff {id : WorkerId} :
    (∃ v ∈ racks.map (HttpWorker.connect network), v.id = id) ↔ ∃ w ∈ racks, w.id = id := by
  constructor
  · rintro ⟨v, hv, rfl⟩
    obtain ⟨w, hw, rfl⟩ := List.mem_map.1 hv
    exact ⟨w, hw, (connect_id_of_responds (hresponds w hw)).symm⟩
  · rintro ⟨w, hw, rfl⟩
    exact ⟨_, List.mem_map_of_mem hw, connect_id_of_responds (hresponds w hw)⟩

theorem mem_keys_failed_report (request : Request)
    (hnone : ∀ id, (Discovery.report .pod request (racks.map (HttpWorker.connect network))
      timeout).result.succeeded.get? id = none) (id : WorkerId) :
    id ∈ (Discovery.report .pod request (racks.map (HttpWorker.connect network))
      timeout).result.failed.keys ↔ ∃ w ∈ racks, w.id = id := by
  rw [Dict.mem_keys_iff, ← mem_racks_iff hresponds, ← Discovery.report_covers .pod request _
    timeout id, hnone id]
  simp

variable (hids : (racks.map HttpWorker.id).Nodup)
include hids

theorem find?_of_responds {w : HttpWorker} (hw : w ∈ racks) :
    (racks.map (HttpWorker.connect network)).find? (fun v ↦ v.id == w.id) =
      some (w.connect network) :=
  find?_connect hids (fun v hv ↦ connect_id_of_responds (hresponds v hv)) hw

theorem get?_result_racks {w : HttpWorker} (hw : w ∈ racks) :
    (FanOut.result timeout (racks.map (HttpWorker.connect network))).get? w.id =
      some (Response.outcome ⟨status w, Text.bytes (body w), true⟩) := by
  rw [FanOut.get?_result, find?_of_responds hresponds hids hw, Option.map_some,
    outcome_connect (hresponds w hw)]

theorem get?_report_racks (target : Target) (request : Request) {w : HttpWorker} (hw : w ∈ racks) :
    (Discovery.report target request (racks.map (HttpWorker.connect network)) timeout).result.get?
        w.id =
      some ((Response.outcome ⟨status w, Text.bytes (body w), true⟩).bind
        (Discovery.decodeReply target)) := by
  rw [Discovery.get?_report, find?_of_responds hresponds hids hw, Option.map_some,
    outcome_connect (hresponds w hw)]

theorem get?_failed_report (request : Request) {w : HttpWorker} (hw : w ∈ racks)
    {e : WorkerError} :
    (Discovery.report .pod request (racks.map (HttpWorker.connect network))
      timeout).result.failed.get? w.id = some e ↔ Causes (status w) (body w) e := by
  rw [← Partition.get?_eq_error_iff Discovery.disjoint_report,
    get?_report_racks hresponds hids .pod request hw, Option.some_inj]
  constructor
  · intro h
    cases ho : Response.outcome ⟨status w, Text.bytes (body w), true⟩ with
    | error e' =>
      rw [ho] at h
      obtain rfl : e' = e := Except.error.inj h
      exact .failed (delivers_iff.2 ho.symm)
    | ok reply =>
      rw [ho] at h
      exact .unusable (delivers_iff.2 ho.symm) h
  · intro h
    cases h with
    | failed h => rw [← h.eq_outcome]; rfl
    | unusable h hreply => rw [← h.eq_outcome]; exact hreply

/-- Without a reply that holds a snapshot there is no success. -/
theorem succeeded_report_eq_none (request : Request)
    (hnobody : ∀ w ∈ racks, ∀ reply snapshot, Delivers (status w) (body w) (.ok reply) →
      Discovery.decodeReply .pod reply ≠ .ok snapshot) (id : WorkerId) :
    (Discovery.report .pod request (racks.map (HttpWorker.connect network))
      timeout).result.succeeded.get? id = none := by
  cases hs : (Discovery.report .pod request (racks.map (HttpWorker.connect network))
    timeout).result.succeeded.get? id with
  | none => rfl
  | some snapshot =>
    have hcovers := Discovery.report_covers .pod request (racks.map (HttpWorker.connect network))
      timeout id
    rw [mem_racks_iff hresponds] at hcovers
    obtain ⟨w, hw, rfl⟩ := hcovers.1 (.inl ⟨snapshot, hs⟩)
    rw [← Partition.get?_eq_ok_iff, get?_report_racks hresponds hids .pod request hw,
      Option.some_inj] at hs
    cases ho : Response.outcome ⟨status w, Text.bytes (body w), true⟩ with
    | error e =>
      rw [ho] at hs
      cases hs
    | ok reply =>
      rw [ho] at hs
      exact absurd hs (hnobody w hw reply snapshot (delivers_iff.2 ho.symm))

end Calls

end Http

theorem Dict.exists_lowest {α : Type} {d : Dict α} {k : String} (hk : k ∈ d.keys) :
    ∃ k v, d.get? k = some v ∧ ∀ k' ∈ d.keys, k ≤ k' := by
  obtain ⟨v, hv⟩ := Dict.mem_keys_iff.1 hk
  cases hfirst : d.first? with
  | none =>
    rw [Dict.first?_eq_none_iff.1 hfirst k] at hv
    cases hv
  | some e => exact ⟨e.1, e.2, Dict.first?_eq_some_iff.1 hfirst⟩

/-- Whatever status and body the workers respond with, what they say comes through to the caller. -/
theorem http_faults_come_through {σ : Type} [PodStore σ] (store : σ) (time : String)
    (pod : PodRecord) (network : HttpWorker → Http.Url → Nat × Http.Exchange)
    (racks : List HttpWorker) (timeout : Duration) (status : HttpWorker → Nat)
    (body : HttpWorker → String) (hracks : racks ≠ []) (hids : (racks.map HttpWorker.id).Nodup)
    (hresponds : ∀ w ∈ racks, Http.Responds network timeout.ticks w (status w) (body w)) :
    let workers := racks.map (HttpWorker.connect network)
    let result := FanOut.result timeout workers
    (∀ w ∈ racks, ∃ o, (∀ o', Http.Delivers (status w) (body w) o' ↔ o' = o) ∧
      (∀ reply, result.succeeded.get? w.id = some reply ↔ o = .ok reply) ∧
      ∀ e, result.failed.get? w.id = some e ↔ o = .error e) ∧
    (∀ w ∈ racks, ¬ (200 ≤ status w ∧ status w < 300) → result.succeeded.get? w.id = none) ∧
    ((¬ ∀ c ∈ pod.kind.toList, Text.isBlank c = true) →
      (∀ w ∈ racks, ∀ reply snapshot, Http.Delivers (status w) (body w) (.ok reply) →
        Discovery.decodeReply .pod reply ≠ .ok snapshot) →
      ∃ causes, (Sync.run store time pod workers timeout).answer = .error (.noViableWorker causes) ∧
        (∀ id, id ∈ causes.keys ↔ ∃ w ∈ racks, w.id = id) ∧
        (∀ w ∈ racks, ∀ e, causes.get? w.id = some e ↔ Http.Causes (status w) (body w) e) ∧
        ∃ w ∈ racks, (∀ v ∈ racks, w.id ≤ v.id) ∧
          (∃ e, causes.get? w.id = some e ∧ (SyncError.noViableWorker causes).text = e.text) ∧
          ∀ kind message, Http.Delivers (status w) (body w) (.error (.remote kind message)) →
            (SyncError.noViableWorker causes).text = message) := by
  intro workers result
  have hresult {w : HttpWorker} (hw : w ∈ racks) := Http.get?_result_racks hresponds hids hw
  have hdisjoint : result.Disjoint := FanOut.disjoint_result timeout workers
  refine ⟨fun w hw ↦ ?_, fun w hw hstatus ↦ ?_, fun hkind hnobody ↦ ?_⟩
  · refine ⟨_, fun o' ↦ Http.delivers_iff, fun reply ↦ ?_, fun e ↦ ?_⟩
    · rw [← Partition.get?_eq_ok_iff, hresult hw, Option.some_inj]
    · rw [← Partition.get?_eq_error_iff hdisjoint, hresult hw, Option.some_inj]
  · cases hreply : result.succeeded.get? w.id with
    | none => rfl
    | some reply =>
      rw [← Partition.get?_eq_ok_iff, hresult hw, Option.some_inj] at hreply
      exact absurd (Http.delivers_iff.2 hreply.symm).status_of_ok hstatus
  · have hnone := Http.succeeded_report_eq_none hresponds hids (.ofPod pod) hnobody
    have hkeys := Http.mem_keys_failed_report hresponds (.ofPod pod) hnone
    have hcauses {w : HttpWorker} (hw : w ∈ racks) (e : WorkerError) :=
      Http.get?_failed_report hresponds hids (.ofPod pod) hw (e := e)
    refine ⟨_, ?_, hkeys, fun w hw ↦ hcauses hw, ?_⟩
    · rw [(Sync.run_eq store time pod workers timeout).1, Sync.plan_of_no_success hkind hnone]
      rfl
    · obtain ⟨v, hv⟩ := List.exists_mem_of_ne_nil racks hracks
      obtain ⟨id, e, he, hlowest⟩ := Dict.exists_lowest ((hkeys v.id).2 ⟨v, hv, rfl⟩)
      obtain ⟨w, hw, rfl⟩ := (hkeys id).1 (Dict.mem_keys_iff.2 ⟨e, he⟩)
      refine ⟨w, hw, fun v hv ↦ hlowest v.id ((hkeys v.id).2 ⟨v, hv, rfl⟩),
        ⟨e, he, SyncError.text_of_lowest he hlowest⟩, fun kind message h ↦ ?_⟩
      exact SyncError.text_of_lowest ((hcauses hw _).2 (.failed h)) hlowest

theorem HttpWorker.url?_of_parse {w : HttpWorker} {url : Http.Url}
    (hparse : Http.Url.parse? w.rpcAddress = some url)
    (huser : url.user = [] ∧ url.password = none) (hweb : url.isWeb = true) :
    w.url? = .ok url := by
  have hempty : Text.ofUtf8? (Text.percentDecode []) = some "" := Text.ofUtf8?_bytes ""
  have hanonymous : url.anonymous = url := by
    simp [Http.Url.anonymous, huser, hempty]
  rw [url?, hparse]
  simp only [hanonymous, hweb, if_true]

/-- One worker that does not know a chassis, and one whose proxy speaks for it. -/
def twoRacks : List HttpWorker := [⟨"a", "http://[::1]/"⟩, ⟨"b", "http://[::2]"⟩]

def rackStatus (w : HttpWorker) : Nat := if w.id = "a" then 404 else 502

def rackBody (w : HttpWorker) : String :=
  if w.id = "a" then
    "\n\x7b \"message\": \"no\\u0020chassis\", \"at\": [1e999], \"kind\": \"missing\" \x7d"
  else "[\"kind\"]"

def rackNetwork (w : HttpWorker) (_ : Http.Url) : Nat × Http.Exchange :=
  (7, .answered ⟨rackStatus w, Text.bytes (rackBody w), true⟩)

theorem responds_twoRacks : ∀ w ∈ twoRacks, Http.Responds rackNetwork
    (Duration.ofMillis 1000).ticks w (rackStatus w) (rackBody w) := by
  have hurl : ∀ w ∈ twoRacks, ∃ url, w.url? = .ok url := by
    intro w hw
    rcases List.mem_pair.1 hw with rfl | rfl
    · exact ⟨⟨"http".toList, [], none, some "[::1]".toList, none, "/rpc".toList, none, none⟩,
        HttpWorker.url?_of_parse rfl ⟨rfl, rfl⟩ (by decide +kernel)⟩
    · exact ⟨⟨"http".toList, [], none, some "[::2]".toList, none, "/rpc".toList, none, none⟩,
        HttpWorker.url?_of_parse rfl ⟨rfl, rfl⟩ (by decide +kernel)⟩
  intro w hw
  obtain ⟨url, hurl⟩ := hurl w hw
  exact ⟨url, 7, hurl, rfl, by decide⟩

theorem http_faults_come_through_racks :
    twoRacks ≠ [] ∧ (twoRacks.map HttpWorker.id).Nodup ∧
    (∀ w ∈ twoRacks, Http.Responds rackNetwork (Duration.ofMillis 1000).ticks w (rackStatus w)
      (rackBody w)) ∧
    ∃ causes, (Sync.run KeyedStore.empty "now"
        (.create "1" "then" ⟨"rack", "virsh", "default", "default", ∅⟩)
        (twoRacks.map (HttpWorker.connect rackNetwork)) (.ofMillis 1000)).answer =
        .error (.noViableWorker causes) ∧
      causes.get? "a" = some (.remote "missing" "no chassis") ∧
      causes.get? "b" = some (.transport "HTTP 502 Bad Gateway: [\"kind\"]") ∧
      (SyncError.noViableWorker causes).text = "no chassis" := by
  refine ⟨List.cons_ne_nil _ _, by decide, responds_twoRacks, ?_⟩
  obtain ⟨-, -, hsync⟩ := http_faults_come_through KeyedStore.empty "now"
    (.create "1" "then" ⟨"rack", "virsh", "default", "default", ∅⟩) rackNetwork twoRacks
    (.ofMillis 1000) rackStatus rackBody (List.cons_ne_nil _ _) (by decide) responds_twoRacks
  have hstatus : ∀ w ∈ twoRacks, ¬ (200 ≤ rackStatus w ∧ rackStatus w < 300) := by decide
  have hkind : ¬ ∀ c ∈ "virsh".toList, Text.isBlank c = true := by
    intro hblank
    cases hblank 'v' List.mem_cons_self
  obtain ⟨causes, hanswer, -, hcauses, w, hw, hlowest, -, htext⟩ := hsync hkind
    (fun w hw _ _ hreply ↦ absurd hreply.status_of_ok (hstatus w hw))
  have ha : ⟨"a", "http://[::1]/"⟩ ∈ twoRacks := List.mem_cons_self
  have hb : ⟨"b", "http://[::2]"⟩ ∈ twoRacks := List.mem_cons_of_mem _ List.mem_cons_self
  have hmissing : Http.Delivers (rackStatus ⟨"a", "http://[::1]/"⟩)
      (rackBody ⟨"a", "http://[::1]/"⟩) (.error (.remote "missing" "no chassis")) := by
    have hread : Decode.ofText Http.Fault.decode (rackBody ⟨"a", "http://[::1]/"⟩) =
        .ok ⟨"missing", "no chassis"⟩ := by decide +kernel
    obtain ⟨v, hv, htells⟩ := Http.Fault.ofText_iff.1 hread
    exact .remote (hstatus _ ha) hv htells
  have hproxy : Http.Delivers (rackStatus ⟨"b", "http://[::2]"⟩) (rackBody ⟨"b", "http://[::2]"⟩)
      (.error (.transport "HTTP 502 Bad Gateway: [\"kind\"]")) := by
    have htitle : "HTTP 502 Bad Gateway: [\"kind\"]" = "HTTP " ++
        Http.statusText (rackStatus ⟨"b", "http://[::2]"⟩) ++ ": " ++
          rackBody ⟨"b", "http://[::2]"⟩ := by decide +kernel
    have hnone : (Decode.ofText Http.Fault.decode
        (rackBody ⟨"b", "http://[::2]"⟩)).toOption = none := by decide +kernel
    rw [htitle]
    refine .transport (hstatus _ hb) (fun v kind message hv htells ↦ ?_)
    rw [Http.Fault.ofText_iff.2 ⟨v, hv, htells⟩] at hnone
    cases hnone
  refine ⟨causes, hanswer, (hcauses _ ha _).2 (.failed hmissing),
    (hcauses _ hb _).2 (.failed hproxy), ?_⟩
  rcases List.mem_pair.1 hw with rfl | rfl
  · exact htext _ _ hmissing
  · exact absurd (hlowest _ ha) (by decide)

end PodInventory
