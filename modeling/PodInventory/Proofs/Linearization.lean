import Mathlib.Data.List.Induction
import PodInventory.Proofs.Interleaving
import PodInventory.Proofs.Store.Ready

namespace PodInventory

namespace Progress

variable {σ : Type} [PodStore σ]

/-- A record that was handed out at some time of a run. -/
def Version (p : Progress σ) (moves : List Move) (r : PodRecord) : Prop :=
  ∃ earlier, earlier <+: moves ∧ Hands (p.after earlier).store r

/-- Whether every sync starts with a record that was handed out before, however long ago. -/
def Handed (p : Progress σ) (moves : List Move) : Prop :=
  ∀ before client pod a after, moves = before ++ .start client pod a :: after → p.Version before pod

/-- Whether every pod that is created gets an id that no pod ever had. -/
def FreshIds (p : Progress σ) (moves : List Move) : Prop :=
  ∀ before id time pod after, moves = before ++ .perform (.create id time pod) :: after →
    ∀ earlier, earlier <+: before → PodStore.find (p.after earlier).store id = .ok none

/-- A move that updates a pod, on a store that takes the update. -/
def Commits (p : Progress σ) (m : Move) (id : PodId) (u : Update) : Prop :=
  ∃ o, m.operation? p.pending = some o ∧ o.Commits p.store id u

/-- What one move can do to what the store finds under an id. -/
inductive Turn (p : Progress σ) (m : Move) (id : PodId) : Prop
  | keeps (h : PodStore.find (p.step m).store id = PodStore.find p.store id)
  | creates (time : String) (pod : NewPod) (hm : m = .perform (.create id time pod))
    (h : PodStore.find (p.step m).store id = .ok (some (.create id time pod)))
  | commits (time : String) (u : Update) (old : PodRecord) (hm : p.Commits m id u)
    (hold : PodStore.find p.store id = .ok (some old))
    (h : PodStore.find (p.step m).store id = .ok (some (old.apply time u)))
  | deletes (h : PodStore.find (p.step m).store id = .ok none)

variable {Sound : σ → Prop} (hσ : Lawful Sound) {p : Progress σ}

theorem step_store_of_some {m : Move} {o : Operation} (h : m.operation? p.pending = some o) :
    (p.step m).store = (o.perform p.store).store := by
  rw [step, h]
  rfl

theorem after_append (p : Progress σ) (before rest : List Move) :
    p.after (before ++ rest) = (p.after before).after rest := List.foldl_append

theorem FreshIds.of_append {moves later : List Move} (h : p.FreshIds (moves ++ later)) :
    p.FreshIds moves := by
  intro before id time pod after heq
  subst heq
  exact h before id time pod (after ++ later) (by simp)

theorem FreshIds.not_mem {before rest : List Move} (h : p.FreshIds (before ++ rest)) {id : PodId}
    (hid : PodStore.find (p.after before).store id ≠ .ok none) (time : String) (pod : NewPod) :
    .perform (.create id time pod) ∉ rest := by
  intro hmem
  obtain ⟨between, after, rfl⟩ := List.append_of_mem hmem
  exact hid (h (before ++ between) id time pod after (by simp) before (List.prefix_append _ _))

include hσ

theorem turn (hp : Sound p.store) (m : Move) :
    Sound (p.step m).store ∧ ∀ id, p.Turn m id := by
  cases hm : m.operation? p.pending with
  | none =>
    have hstore : (p.step m).store = p.store := by
      rw [step, hm]
      rfl
    exact ⟨hstore.symm ▸ hp, fun id ↦ .keeps (by rw [hstore])⟩
  | some o =>
    have hstore := step_store_of_some hm
    obtain ⟨hsound, hturn⟩ := hσ.turn hp o
    rw [← hstore] at hsound
    refine ⟨hsound, fun id ↦ ?_⟩
    cases hturn id with
    | keeps h => exact .keeps (hstore ▸ h)
    | creates time pod ho h =>
      refine .creates time pod ?_ (hstore ▸ h)
      cases m with
      | start client pod' a => cases hm
      | perform o' => exact congrArg Move.perform ((Option.some.inj hm).trans ho)
      | write client time' =>
        obtain ⟨y, -, hy⟩ := Option.map_eq_some_iff.1 hm
        cases hy.trans ho
    | commits time u old ho hold h => exact .commits time u old ⟨o, hm, ho⟩ hold (hstore ▸ h)
    | deletes ho h => exact .deletes (hstore ▸ h)

theorem sound_after (hp : Sound p.store) (moves : List Move) : Sound (p.after moves).store := by
  induction moves generalizing p with
  | nil => exact hp
  | cons m rest ih => exact ih (turn hσ hp m).1

/-- A pod found after a move is the pod found before it at another time, or a new one. -/
theorem found_before (hp : Sound p.store) {moves : List Move} {m : Move}
    (hfresh : p.FreshIds (moves ++ [m])) {r : PodRecord} {id : PodId}
    (hr : PodStore.find (p.after (moves ++ [m])).store id = .ok (some r)) :
    (∃ old, PodStore.find (p.after moves).store id = .ok (some old) ∧ r.SamePod old) ∨
      ∀ earlier, earlier <+: moves → PodStore.find (p.after earlier).store id = .ok none := by
  rw [after_append] at hr
  cases (turn hσ (sound_after hσ hp moves) m).2 id with
  | keeps h => exact .inl ⟨r, h.symm.trans hr, .refl r⟩
  | creates time pod hm h =>
    subst hm
    exact .inr (hfresh moves id time pod [] rfl)
  | commits time u old hm hold h =>
    cases h.symm.trans hr
    exact .inl ⟨old, hold, old.samePod_apply time u⟩
  | deletes h => cases h.symm.trans hr

/-- All that is ever found under one id in a run is the same pod. -/
theorem samePod_of_found (hp : Sound p.store) {moves : List Move} (hfresh : p.FreshIds moves)
    {earlier earlier' : List Move} (h : earlier <+: moves) (h' : earlier' <+: moves) {id : PodId}
    {r r' : PodRecord} (hr : PodStore.find (p.after earlier).store id = .ok (some r))
    (hr' : PodStore.find (p.after earlier').store id = .ok (some r')) : r.SamePod r' := by
  induction moves using List.reverseRecOn generalizing earlier earlier' r r' with
  | nil =>
    obtain rfl := List.prefix_nil.1 h
    obtain rfl := List.prefix_nil.1 h'
    cases hr.symm.trans hr'
    exact .refl r
  | append_singleton moves m ih =>
    have hearlier := hfresh.of_append
    -- the record that is found last goes back to one found before, or has an id new to the run
    rcases List.prefix_concat_iff.1 h with rfl | h
    · rcases List.prefix_concat_iff.1 h' with rfl | h'
      · cases hr.symm.trans hr'
        exact .refl r
      · rcases found_before hσ hp hfresh hr with ⟨old, hold, hsame⟩ | hnew
        · exact hsame.trans (ih hearlier List.prefix_rfl h' hold hr')
        · cases hr'.symm.trans (hnew earlier' h')
    · rcases List.prefix_concat_iff.1 h' with rfl | h'
      · rcases found_before hσ hp hfresh hr' with ⟨old, hold, hsame⟩ | hnew
        · exact (ih hearlier h List.prefix_rfl hr hold).trans hsame.symm
        · cases hr.symm.trans (hnew earlier h)
      · exact ih hearlier h h' hr hr'

theorem samePod_of_version (hp : Sound p.store) {moves : List Move} (hfresh : p.FreshIds moves)
    {r r' : PodRecord} (h : p.Version moves r) (h' : p.Version moves r') (hid : r'.id = r.id) :
    r.SamePod r' := by
  obtain ⟨earlier, hearlier, hr⟩ := h
  obtain ⟨earlier', hearlier', hr'⟩ := h'
  have hfind' := hσ.find_of_hands (sound_after hσ hp earlier') hr'
  rw [hid] at hfind'
  exact samePod_of_found hσ hp hfresh hearlier hearlier'
    (hσ.find_of_hands (sound_after hσ hp earlier) hr) hfind'

/-- As long as nobody else updates a pod, it keeps what it was last updated with. -/
theorem content_after (hp : Sound p.store) {rest : List Move} {id : PodId} {u : Update}
    (hcontent : ∀ r, PodStore.find p.store id = .ok (some r) →
      r.discovered = u.discovered ∧ r.routable = u.routable)
    (hcreates : ∀ time pod, .perform (.create id time pod) ∉ rest)
    (hcommits : ∀ mid m after u', rest = mid ++ m :: after → ¬ (p.after mid).Commits m id u')
    {r : PodRecord} (hr : PodStore.find (p.after rest).store id = .ok (some r)) :
    r.discovered = u.discovered ∧ r.routable = u.routable := by
  induction rest generalizing p with
  | nil => exact hcontent r hr
  | cons m rest ih =>
    obtain ⟨hsound, hturn⟩ := turn hσ hp m
    refine ih hsound ?_ (fun time pod hmem ↦ hcreates time pod (List.mem_cons_of_mem m hmem)) ?_ hr
    · intro r' hr'
      cases hturn id with
      | keeps h => exact hcontent r' (h.symm.trans hr')
      | creates time pod hm h => exact absurd (hm ▸ List.mem_cons_self) (hcreates time pod)
      | commits time u' old hm hold h => exact absurd hm (hcommits [] m rest u' rfl)
      | deletes h => cases h.symm.trans hr'
    · intro mid m' after u' heq
      subst heq
      exact hcommits (m :: mid) m' after u' rfl

theorem absent_after (hp : Sound p.store) {rest : List Move} {id : PodId}
    (habsent : PodStore.find p.store id = .ok none)
    (hcreates : ∀ time pod, .perform (.create id time pod) ∉ rest) :
    PodStore.find (p.after rest).store id = .ok none := by
  induction rest generalizing p with
  | nil => exact habsent
  | cons m rest ih =>
    obtain ⟨hsound, hturn⟩ := turn hσ hp m
    refine ih hsound ?_ (fun time pod hmem ↦ hcreates time pod (List.mem_cons_of_mem m hmem))
    cases hturn id with
    | keeps h => exact h.trans habsent
    | creates time pod hm h => exact absurd (hm ▸ List.mem_cons_self) (hcreates time pod)
    | commits time u old hm hold h => cases hold.symm.trans habsent
    | deletes h => exact h

theorem content_of_last (hp : Sound p.store) {before after : List Move} {m : Move}
    (hfresh : p.FreshIds (before ++ m :: after)) {id : PodId} {u : Update}
    (hm : (p.after before).Commits m id u)
    (hlast : ∀ mid m' rest u', after = mid ++ m' :: rest →
      ¬ (p.after (before ++ m :: mid)).Commits m' id u')
    {r : PodRecord} (hr : PodStore.find (p.after (before ++ m :: after)).store id = .ok (some r)) :
    r.discovered = u.discovered ∧ r.routable = u.routable := by
  have hsplit (rest : List Move) :
      p.after (before ++ m :: rest) = ((p.after before).step m).after rest :=
    p.after_append before _
  obtain ⟨o, ho, hcommits⟩ := hm
  have hstore := step_store_of_some ho
  obtain ⟨r', hr', hcontent⟩ := hσ.find_of_commits (sound_after hσ hp before) hcommits
  rw [← hstore] at hr'
  rw [hsplit] at hr
  have hsound := (turn hσ (sound_after hσ hp before) m).1
  refine content_after hσ hsound (fun r hfind ↦ ?_) ?_ ?_ hr
  · cases hfind.symm.trans hr'
    exact hcontent
  · have hfresh' : p.FreshIds ((before ++ [m]) ++ after) := by simpa using hfresh
    refine hfresh'.not_mem ?_
    rw [after_append]
    exact fun hnone ↦ nomatch hr'.symm.trans hnone
  · intro mid m' rest u' heq
    rw [← hsplit]
    exact hlast mid m' rest u' heq

end Progress

namespace Progress

section Linearization

variable {σ : Type} [PodStore σ] {Sound : σ → Prop} (hσ : Lawful Sound) {p : Progress σ}

include hσ

theorem linearizes {s : σ} (hs : Sound s) {moves : List Move} (hfresh : (idle s).FreshIds moves)
    (hhanded : (idle s).Handed moves) {sequence : List (Nat × Deed)}
    (h : Deed.Serializes ((idle s).Version moves) (Move.deeds (fun _ ↦ none) 0 moves) sequence) :
    (Deed.performAll s sequence).answers.Perm ((idle s).run 0 moves).answers ∧
      (Deed.performAll s sequence).store = ((idle s).run 0 moves).store ∧
      (Deed.performAll s sequence).events = ((idle s).run 0 moves).events := by
  have hrun : (idle s).run 0 moves = Deed.performAll s (Move.deeds (fun _ ↦ none) 0 moves) :=
    run_eq_performAll moves rfl 0
  rw [hrun]
  refine h.performAll (fun label time pod a hmem pod' hpod' hid ↦ ?_) s
  rcases Move.start_mem_of_deeds hmem with ⟨client, hnone⟩ | ⟨client, hstart⟩
  · cases hnone
  · obtain ⟨before, after, rfl⟩ := List.append_of_mem hstart
    obtain ⟨earlier, hearlier, hhands⟩ := hhanded before client pod a after rfl
    have hpod : (idle s).Version (before ++ .start client pod a :: after) pod :=
      ⟨earlier, hearlier.trans (List.prefix_append _ _), hhands⟩
    exact samePod_of_version hσ hs hfresh hpod hpod' hid

/-- A pod that is deleted stays away, and a sync that comes to its write later finds it missing. -/
theorem absent_of_deleted (hp : Sound p.store) {before mid after : List Move} {id : PodId}
    {m : Move} (hfresh : p.FreshIds (before ++ .perform (.delete id) :: (mid ++ m :: after)))
    (hdelete : (PodStore.delete (p.after before).store id).answer = .ok ()) :
    PodStore.find (p.after (before ++ .perform (.delete id) :: mid)).store id = .ok none ∧
      PodStore.find (p.after (before ++ .perform (.delete id) :: (mid ++ m :: after))).store id =
        .ok none := by
  have hsound := sound_after hσ hp before
  obtain ⟨hstored, hsound', hfind⟩ := hσ.delete_ok hsound hdelete
  have hcreates := hfresh.not_mem hstored
  have hnone : PodStore.find ((p.after before).step (.perform (.delete id))).store id = .ok none :=
    (hfind id).trans (if_pos rfl)
  have hsplit (rest : List Move) : p.after (before ++ .perform (.delete id) :: rest) =
      ((p.after before).step (.perform (.delete id))).after rest := p.after_append before _
  rw [hsplit, hsplit]
  refine ⟨absent_after hσ hsound' hnone (fun time pod hmem ↦ hcreates time pod ?_),
    absent_after hσ hsound' hnone (fun time pod hmem ↦ hcreates time pod ?_)⟩
  · exact List.mem_cons_of_mem _ (List.mem_append_left _ hmem)
  · exact List.mem_cons_of_mem _ hmem

theorem write_of_absent (hp : Sound p.store) {before : List Move} {client : Nat} (time : String)
    (after : List Move) {y : Sync} {u : Update}
    (hpending : (p.after before).pending client = some y) (hplan : y.plan = .ok u)
    (habsent : PodStore.find (p.after before).store y.pod.id = .ok none) :
    ∃ e, (PodStore.apply (p.after before).store time y.pod.id u).answer = .error e ∧
      (before.length, .reconciled (.error (.ofStore e))) ∈
        (p.run 0 (before ++ .write client time :: after)).answers := by
  have hwrite : (Move.write client time).operation? (p.after before).pending =
      some (.commit time y) := by
    rw [Move.operation?, hpending, Option.map_some]
  have hmem : (before.length, .reconciled (y.commit (p.after before).store time).answer) ∈
      (p.run 0 ((before ++ [.write client time]) ++ after)).answers := by
    rw [run_append, run_append, answers_run_singleton, hwrite, Nat.zero_add]
    simp [Operation.perform, Operation.settled]
  rw [List.append_assoc, List.singleton_append] at hmem
  cases happly : (PodStore.apply (p.after before).store time y.pod.id u).answer with
  | ok r =>
    obtain ⟨⟨old, hold, -⟩, -⟩ := hσ.apply_ok (sound_after hσ hp before) happly
    cases hold.symm.trans habsent
  | error e =>
    refine ⟨e, rfl, ?_⟩
    obtain ⟨hanswer, -⟩ := y.commit_eq (p.after before).store time
    rw [hplan] at hanswer
    have herror : (y.commit (p.after before).store time).answer = .error (.ofStore e) :=
      hanswer.trans (congrArg (Except.mapError SyncError.ofStore) happly)
    rw [← herror]
    exact hmem

end Linearization

end Progress

/-- Syncs of any number of clients, in between writes and reads of others, come to what they would
come to one after the other, each done at once when it writes. At the end a pod holds what was
committed to it last, and a pod that was deleted is not brought back by a sync under way. -/
theorem syncs_linearizable (o : Outage Backing) (ho : o.store.Sound) (moves : List Move)
    (hfresh : (Progress.idle o).FreshIds moves) (hhanded : (Progress.idle o).Handed moves) :
    let p := Progress.idle o
    let history := p.run 0 moves
    (history.answers.map Prod.fst).Nodup ∧
    (∀ sequence, Deed.Serializes (p.Version moves) (Move.deeds (fun _ ↦ none) 0 moves) sequence →
      (Deed.performAll o sequence).answers.Perm history.answers ∧
        (Deed.performAll o sequence).store = history.store ∧
        (Deed.performAll o sequence).events = history.events) ∧
    (∀ before m after id u, moves = before ++ m :: after → (p.after before).Commits m id u →
      (∀ mid m' rest u', after = mid ++ m' :: rest →
        ¬ (p.after (before ++ m :: mid)).Commits m' id u') →
      ∀ r, PodStore.find history.store id = .ok (some r) →
        r.discovered = u.discovered ∧ r.routable = u.routable) ∧
    ∀ before mid client time after y u,
      moves = before ++ .perform (.delete y.pod.id) :: (mid ++ .write client time :: after) →
      (PodStore.delete (p.after before).store y.pod.id).answer = .ok () →
      (p.after (before ++ .perform (.delete y.pod.id) :: mid)).pending client = some y →
      y.plan = .ok u →
      PodStore.find history.store y.pod.id = .ok none ∧
        ∃ e, (before.length + 1 + mid.length, .reconciled (.error e)) ∈ history.answers ∧
          (o.Healthy → e = .persistenceConflict ("pod " ++ y.pod.id)) := by
  intro p history
  have hlawful : Lawful (fun o : Outage Backing ↦ o.store.Sound) := Outage.lawful Backing.lawful
  have hstore : history.store = (p.after moves).store := p.run_store 0 moves
  refine ⟨?_, fun sequence h ↦ Progress.linearizes hlawful ho hfresh hhanded h, ?_, ?_⟩
  · exact (p.labels_run 0 moves).nodup List.nodup_range'
  · intro before m after id u hmoves hm hlast r hr
    subst hmoves
    rw [hstore] at hr
    exact Progress.content_of_last hlawful ho hfresh hm hlast hr
  · intro before mid client time after y u hmoves hdelete hpending hplan
    subst hmoves
    obtain ⟨hthen, hend⟩ := Progress.absent_of_deleted hlawful ho hfresh hdelete
    rw [hstore]
    refine ⟨hend, ?_⟩
    obtain ⟨e, happly, hmem⟩ := Progress.write_of_absent hlawful ho time after hpending hplan hthen
    have hlabel : (before ++ .perform (.delete y.pod.id) :: mid).length =
        before.length + 1 + mid.length := by
      rw [List.length_append, List.length_cons, Nat.add_assoc, Nat.add_comm 1]
    rw [hlabel, List.append_assoc, List.cons_append] at hmem
    refine ⟨.ofStore e, hmem, fun hhealthy ↦ ?_⟩
    have hhealthy' : (p.after (before ++ .perform (.delete y.pod.id) :: mid)).store.Healthy :=
      (Progress.sound_after Outage.lawful_healthy ⟨ho, hhealthy⟩ _).2
    cases happly.symm.trans (hhealthy'.ready.apply_of_missing time u hthen)
    rfl

/-- A worker that says of every pod that nothing is known of it. -/
def asking : Attempt :=
  ⟨[⟨"a", fun _ ↦ (5, .reply (.object [("pod", Snapshot.blank.json)]))⟩], .ofMillis 1000⟩

def blade : NewPod := ⟨"blade", "virsh", "default", "default", ∅⟩

def fourCores : Update := ⟨{ Snapshot.blank with cores := 4 }, ∅⟩

def unused : Outage Backing := ⟨.memory .empty, none⟩

/-- A sync that an update of its pod overtakes. -/
def overtaken : List Move :=
  [.perform (.create "1" "then" blade), .start 0 (.create "1" "then" blade) asking,
    .perform (.apply "later" "1" fourCores), .write 0 "now"]

theorem overtaken_freshIds : (Progress.idle unused).FreshIds overtaken := by
  rintro (_ | ⟨m, before⟩) id time pod after h earlier hearlier
  · obtain rfl := List.prefix_nil.1 hearlier
    rfl
  · have hmem : .perform (.create id time pod) ∈ overtaken.tail := by
      rw [h]
      simp
    simp [overtaken] at hmem

theorem overtaken_handed : (Progress.idle unused).Handed overtaken := by
  rintro (_ | ⟨m, _ | ⟨m', before⟩⟩) client pod a after h
  · cases h
  · cases h
    exact ⟨[_], List.prefix_rfl, .found "1" rfl⟩
  · have hmem : .start client pod a ∈ overtaken.tail.tail := by
      rw [h]
      simp
    simp [overtaken] at hmem

/-- The same with the sync done at once, on the record that the update leaves. -/
def caughtUp : List (Nat × Deed) :=
  [(0, .operation (.create "1" "then" blade)), (2, .operation (.apply "later" "1" fourCores)),
    (3, .sync "now" ((PodRecord.create "1" "then" blade).apply "later" fourCores) asking)]

/-- The stale record of a sync that is overtaken does as well as the record at the time of its
write. -/
theorem syncs_linearizable_overtaken :
    Backing.Sound unused.store ∧ (Progress.idle unused).FreshIds overtaken ∧
      (Progress.idle unused).Handed overtaken ∧
      (Deed.performAll unused caughtUp).store = ((Progress.idle unused).run 0 overtaken).store := by
  have hsound : Backing.Sound unused.store := List.nodup_nil
  refine ⟨hsound, overtaken_freshIds, overtaken_handed, ?_⟩
  obtain ⟨-, hserial, -⟩ :=
    syncs_linearizable unused hsound overtaken overtaken_freshIds overtaken_handed
  refine (hserial caughtUp ⟨caughtUp, ?_, .refl _, rfl⟩).2.1
  refine .cons ⟨rfl, .same _⟩ (.cons ⟨rfl, .same _⟩ (.cons ⟨rfl, ?_⟩ .nil))
  exact .version "now" asking rfl ⟨overtaken.take 3, List.take_prefix 3 _, .found "1" rfl⟩

end PodInventory
