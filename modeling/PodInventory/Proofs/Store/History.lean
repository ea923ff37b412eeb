import PodInventory.Proofs.Linearization
import PodInventory.Proofs.Pod.History
import PodInventory.Proofs.Store.Holding

namespace PodInventory

namespace Write

def id : Write → PodId
  | .create id _ _ | .apply _ id _ | .delete id => id

/-- A write after which nothing is left of what a pod was before. -/
def Restarts (id : PodId) : Write → Prop
  | .create id' _ _ | .delete id' => id' = id
  | .apply _ _ _ => False

def updates (id : PodId) : Write → List (String × Update)
  | .apply time id' u => if id' = id then [(time, u)] else []
  | .create _ _ _ | .delete _ => []

end Write

/-- After these writes there is a pod, which was created so and has been updated so since then. -/
def Lives (writes : List Write) (id : PodId) (time : String) (pod : NewPod)
    (updates : List (String × Update)) : Prop :=
  ∃ before after, writes = before ++ .create id time pod :: after ∧
    (∀ w ∈ after, ¬ w.Restarts id) ∧ updates = after.flatMap (Write.updates id)

section Lives

variable {writes : List Write} {w : Write} {id : PodId} {time : String} {pod : NewPod}
  {updates : List (String × Update)}

theorem lives_append_singleton :
    Lives (writes ++ [w]) id time pod updates ↔
      (w = .create id time pod ∧ updates = []) ∨
        ∃ earlier, Lives writes id time pod earlier ∧ ¬ w.Restarts id ∧
          updates = earlier ++ w.updates id := by
  constructor
  · rintro ⟨before, after, heq, hafter, rfl⟩
    rcases split_append_singleton heq with ⟨-, hw, rfl⟩ | ⟨after, rfl, hwrites⟩
    · exact .inl ⟨hw.symm, rfl⟩
    · refine .inr ⟨_, ⟨before, after, hwrites, ?_, rfl⟩, ?_, ?_⟩
      · exact fun w' hw' ↦ hafter w' (by simp [hw'])
      · exact hafter w (by simp)
      · simp
  · rintro (⟨rfl, rfl⟩ | ⟨earlier, ⟨before, after, rfl, hafter, rfl⟩, hw, rfl⟩)
    · exact ⟨writes, [], rfl, by simp, rfl⟩
    · refine ⟨before, after ++ [w], by simp, fun w' hw' ↦ ?_, by simp⟩
      rcases List.mem_append.1 hw' with hw' | hw'
      · exact hafter w' hw'
      · rw [List.mem_singleton.1 hw']
        exact hw

theorem lives_append_of_ne (h : w.id ≠ id) :
    Lives (writes ++ [w]) id time pod updates ↔ Lives writes id time pod updates := by
  have hrestarts : ¬ w.Restarts id := by
    cases w with
    | create id' time pod => exact h
    | apply time id' u => exact not_false
    | delete id' => exact h
  have hupdates : w.updates id = [] := by
    cases w with
    | create id' time pod => rfl
    | apply time id' u => exact if_neg h
    | delete id' => rfl
  rw [lives_append_singleton, hupdates]
  constructor
  · rintro (⟨rfl, -⟩ | ⟨earlier, hlives, -, rfl⟩)
    · exact absurd rfl h
    · rwa [List.append_nil]
  · exact fun hlives ↦ .inr ⟨updates, hlives, hrestarts, (List.append_nil updates).symm⟩

theorem Lives.unique {time' : String} {pod' : NewPod} {updates' : List (String × Update)}
    (h : Lives writes id time pod updates) (h' : Lives writes id time' pod' updates') :
    time = time' ∧ pod = pod' ∧ updates = updates' := by
  induction writes using List.reverseRecOn generalizing updates updates' with
  | nil =>
    obtain ⟨before, after, heq, -⟩ := h
    simp at heq
  | append_singleton writes w ih =>
    rcases lives_append_singleton.1 h with ⟨rfl, rfl⟩ | ⟨earlier, hlives, hw, rfl⟩
    · rcases lives_append_singleton.1 h' with ⟨heq, rfl⟩ | ⟨earlier', -, hw', -⟩
      · cases heq
        exact ⟨rfl, rfl, rfl⟩
      · exact absurd rfl hw'
    · rcases lives_append_singleton.1 h' with ⟨rfl, -⟩ | ⟨earlier', hlives', -, rfl⟩
      · exact absurd rfl hw
      · obtain ⟨rfl, rfl, rfl⟩ := ih hlives hlives'
        exact ⟨rfl, rfl, rfl⟩

end Lives

theorem Holding.find?_of_hands {σ : Type} [PodStore σ] {R : σ → KeyedStore → Prop} (hR : Holding R)
    {s : σ} {k : KeyedStore} (h : R s k) (hk : k.Distinct) {r : PodRecord} (hr : Hands s r) :
    k.find? r.id = some r := by
  cases hr with
  | found id hfind =>
    rw [hR.find h] at hfind
    have hstored := Except.ok.inj hfind
    obtain ⟨-, rfl⟩ := KeyedStore.of_find?_eq_some hstored
    exact hstored
  | named name hnamed =>
    rw [hR.findNamed h] at hnamed
    exact find?_eq_some_of_mem hk.ids (KeyedStore.of_findNamed?_eq_some (Except.ok.inj hnamed)).1
  | listed l hlist hmem =>
    rw [hR.list h] at hlist
    obtain rfl := Except.ok.inj hlist
    exact find?_eq_some_of_mem hk.ids (List.mem_mergeSort.1 hmem)

/-- What is found of a pod is what writes tell of it. -/
inductive Recalls (writes : List Write) (id : PodId) : Option PodRecord → Prop
  | stored {r : PodRecord} {time : String} {pod : NewPod} {updates : List (String × Update)}
    (hlives : Lives writes id time pod updates) (htold : r.Told time pod updates) :
    Recalls writes id (some r)
  | gone (h : ∀ time pod updates, ¬ Lives writes id time pod updates) : Recalls writes id none

section Recalls

variable {writes : List Write} {id : PodId}

theorem recalls_nil : Recalls [] id none := by
  refine .gone (fun time pod updates h ↦ ?_)
  obtain ⟨before, after, heq, -⟩ := h
  simp at heq

theorem recalls_create (time : String) (pod : NewPod) :
    Recalls (writes ++ [.create id time pod]) id (some (.create id time pod)) :=
  .stored (lives_append_singleton.2 (.inl ⟨rfl, rfl⟩)) (PodRecord.told_create id time pod)

theorem recalls_delete : Recalls (writes ++ [.delete id]) id none := by
  refine .gone (fun time pod updates h ↦ ?_)
  rcases lives_append_singleton.1 h with ⟨heq, -⟩ | ⟨earlier, -, hw, -⟩
  · cases heq
  · exact hw rfl

theorem Recalls.apply {old : PodRecord} (h : Recalls writes id (some old)) (time : String)
    (u : Update) : Recalls (writes ++ [.apply time id u]) id (some (old.apply time u)) := by
  cases h with
  | stored hlives htold =>
    refine .stored (lives_append_singleton.2 (.inr ⟨_, hlives, not_false, ?_⟩)) (htold.apply time u)
    rw [Write.updates, if_pos rfl]

theorem Recalls.append_of_ne {found : Option PodRecord} (h : Recalls writes id found) {w : Write}
    (hw : w.id ≠ id) : Recalls (writes ++ [w]) id found := by
  cases h with
  | stored hlives htold => exact .stored ((lives_append_of_ne hw).2 hlives) htold
  | gone h => exact .gone (fun time pod updates hlives ↦
      h time pod updates ((lives_append_of_ne hw).1 hlives))

theorem recalls_append {k k' : KeyedStore} (h : ∀ id, Recalls writes id (k.find? id)) {w : Write}
    {found : Option PodRecord} (hown : Recalls (writes ++ [w]) w.id found)
    (hfind : ∀ id, k'.find? id = if id = w.id then found else k.find? id) (id : PodId) :
    Recalls (writes ++ [w]) id (k'.find? id) := by
  rw [hfind]
  split
  · rename_i hid
    rw [hid]
    exact hown
  · rename_i hid
    exact (h id).append_of_ne (Ne.symm hid)

end Recalls

/-- What happens to a store: an operation, or a change of what makes writes fail. -/
inductive Act
  | operate (o : Operation)
  | disturb (t : Trouble)

namespace Outage

def next (s : Outage Backing) : Act → Outage Backing
  | .operate o => (o.perform s).store
  | .disturb t => s.troubled t

/-- The write of an act, if there is one and it does not fail. -/
def accepted? (s : Outage Backing) : Act → Option Write
  | .operate o => if (o.perform s).answer.failed then none else o.write?
  | .disturb _ => none

def after (s : Outage Backing) (acts : List Act) : Outage Backing := acts.foldl next s

def accepted (s : Outage Backing) : List Act → List Write
  | [] => []
  | a :: rest => (s.accepted? a).toList ++ accepted (s.next a) rest

variable {s : Outage Backing} {k : KeyedStore} {writes : List Write}

theorem recalls_next (hs : s.store.Holds k) (h : ∀ id, Recalls writes id (k.find? id)) (a : Act) :
    ∃ k', (s.next a).store.Holds k' ∧
      ∀ id, Recalls (writes ++ (s.accepted? a).toList) id (k'.find? id) := by
  cases a with
  | disturb t =>
    refine ⟨k, hs.troubled t, fun id ↦ ?_⟩
    rw [accepted?, Option.toList, List.append_nil]
    exact h id
  | operate o =>
    -- The effects in which something is written are those of an accepted write.
    have haccepts {w : Write} (hwrite : o.write? = some w)
        (haccepted : (o.perform s).answer.failed = false) :
        writes ++ (s.accepted? (.operate o)).toList = writes ++ [w] := by
      rw [accepted?, haccepted, if_neg Bool.false_ne_true, hwrite]
      rfl
    cases (Outage.holding Backing.holding).effect hs o with
    | nothing hnothing hevents hs' =>
      refine ⟨k, hs', fun id ↦ ?_⟩
      have hnone : s.accepted? (.operate o) = none := by
        rcases hnothing with hfailed | hwrite
        · exact if_pos hfailed
        · rw [accepted?, hwrite, ite_self]
      rw [hnone, Option.toList, List.append_nil]
      exact h id
    | creates id time pod hwrite haccepted hname hrecord hevents hs' =>
      refine ⟨_, hs', ?_⟩
      rw [haccepts hwrite haccepted]
      exact recalls_append h (recalls_create time pod)
        (KeyedStore.find?_cons_without (.create id time pod))
    | keeps time id u old hwrite haccepted hold hu hevents hs' =>
      -- Nothing is written, and yet the history grows by an update that brings nothing new.
      refine ⟨k, hs', ?_⟩
      rw [haccepts hwrite haccepted]
      have hown := Recalls.apply (hold ▸ h id) time u
      rw [old.apply_unchanged time hu] at hown
      refine recalls_append h hown (fun id' ↦ ?_)
      split
      · rename_i hid
        rw [hid]
        exact hold
      · rfl
    | changes time id u old hwrite haccepted hold hu hrecord hevents hs' =>
      refine ⟨_, hs', ?_⟩
      rw [haccepts hwrite haccepted]
      refine recalls_append h (Recalls.apply (hold ▸ h id) time u) ?_
      obtain ⟨-, rfl⟩ := KeyedStore.of_find?_eq_some hold
      have hid := (old.samePod_apply time u).id
      have hfind := KeyedStore.find?_cons_without (k := k) (old.apply time u)
      rw [hid] at hfind
      exact hfind
    | deletes id old hwrite haccepted hold hevents hs' =>
      refine ⟨_, hs', ?_⟩
      rw [haccepts hwrite haccepted]
      exact recalls_append h recalls_delete (KeyedStore.find?_without id)

theorem recalls_after (hs : s.store.Holds k) (h : ∀ id, Recalls writes id (k.find? id))
    (acts : List Act) :
    ∃ k', (s.after acts).store.Holds k' ∧
      ∀ id, Recalls (writes ++ s.accepted acts) id (k'.find? id) := by
  -- The writes so far go into the history of the rest of the run.
  induction acts generalizing s k writes with
  | nil => exact ⟨k, hs, by simpa only [accepted, List.append_nil] using h⟩
  | cons a rest ih =>
    obtain ⟨k', hs', h'⟩ := recalls_next hs h a
    obtain ⟨k'', hs'', h''⟩ := ih hs' h'
    refine ⟨k'', hs'', ?_⟩
    rw [accepted, ← List.append_assoc]
    exact h''

end Outage

/-- A store in memory and a database keep of every pod just what its creation and the updates since
then have made of it, whatever else was written and whatever failed in between. -/
theorem records_determined {b : Backing} (hb : b.Blank) (error : Option StoreError)
    (acts : List Act) :
    let s := Outage.after ⟨b, error⟩ acts
    let writes := Outage.accepted ⟨b, error⟩ acts
    (∀ r, Hands s r → ∃ time pod updates,
      Lives writes r.id time pod updates ∧ r.Told time pod updates) ∧
    (∀ id time pod updates, Lives writes id time pod updates →
      ∃ r, PodStore.find s id = .ok (some r) ∧ r.id = id ∧ r.Told time pod updates) ∧
    (∀ id, (∀ time pod updates, ¬ Lives writes id time pod updates) →
      PodStore.find s id = .ok none) := by
  obtain ⟨k, hs, h⟩ := Outage.recalls_after (s := ⟨b, error⟩) hb.holds (fun _ ↦ recalls_nil) acts
  rw [List.nil_append] at h
  have hR := Outage.holding Backing.holding
  refine ⟨?_, ?_, ?_⟩
  · intro r hr
    have hfind := hR.find?_of_hands hs hs.distinct hr
    cases hfind ▸ h r.id with
    | stored hlives htold => exact ⟨_, _, _, hlives, htold⟩
  · intro id time pod updates hlives
    rw [hR.find hs]
    cases hfind : k.find? id with
    | none =>
      cases hfind ▸ h id with
      | gone hgone => exact absurd hlives (hgone time pod updates)
    | some r =>
      cases hfind ▸ h id with
      | stored hlives' htold =>
        obtain ⟨rfl, rfl, rfl⟩ := hlives.unique hlives'
        exact ⟨r, rfl, (KeyedStore.of_find?_eq_some hfind).2, htold⟩
  · intro id hgone
    rw [hR.find hs]
    cases hfind : k.find? id with
    | none => rfl
    | some r =>
      cases hfind ▸ h id with
      | stored hlives htold => exact absurd hlives (hgone _ _ _)

/-- An update, another one while the store is down, and one that brings nothing new. -/
def patchy : List Act :=
  [.operate (.create "1" "t1" ⟨"rack", "virsh", "default", "default", ∅⟩),
    .operate (.apply "t2" "1" ⟨.blank, .ofList [("a", true)]⟩),
    .disturb ⟨some (.internal "down"), fun _ _ _ ↦ none, []⟩,
    .operate (.apply "t3" "1" ⟨.blank, ∅⟩), .disturb ⟨none, fun _ _ _ ↦ none, []⟩,
    .operate (.apply "t4" "1" ⟨.blank, .ofList [("a", true)]⟩)]

theorem records_determined_patchy :
    Backing.Blank (.memory .empty) ∧
      ∃ r, PodStore.find (Outage.after ⟨.memory .empty, none⟩ patchy) "1" = .ok (some r) ∧
        r.version.toNat = 2 ∧ r.createdAt = "t1" ∧ r.updatedAt = "t2" := by
  have hlives : Lives (Outage.accepted ⟨.memory .empty, none⟩ patchy) "1" "t1"
      ⟨"rack", "virsh", "default", "default", ∅⟩
      [("t2", ⟨.blank, .ofList [("a", true)]⟩), ("t4", ⟨.blank, .ofList [("a", true)]⟩)] := by
    refine ⟨[], [.apply "t2" "1" ⟨.blank, .ofList [("a", true)]⟩,
      .apply "t4" "1" ⟨.blank, .ofList [("a", true)]⟩], rfl, ?_, rfl⟩
    simp [Write.Restarts]
  obtain ⟨r, hr, -, htold⟩ := (records_determined .memory none patchy).2.1 _ _ _ _ hlives
  exact ⟨.memory, r, hr, htold.version, htold.createdAt, htold.updatedAt⟩

end PodInventory
