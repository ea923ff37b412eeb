import PodInventory.Feed
import PodInventory.Proofs.Store.Holding

namespace PodInventory

namespace Event

/-- Carries an event over to a copy of the records. One that does not fit the copy cannot be
carried over. -/
def replay? (copy : List PodRecord) : Event → Option (List PodRecord)
  | .created pod => if ∃ r ∈ copy, r.id = pod.id then none else some (pod :: copy)
  | .synced old new => if old ∈ copy then some (new :: copy.erase old) else none
  | .deleted id =>
    if ∃ r ∈ copy, r.id = id then some (copy.filter (fun r ↦ r.id != id)) else none

def replayAll? (copy : List PodRecord) (events : List Event) : Option (List PodRecord) :=
  events.foldlM replay? copy

theorem replay?_perm {l l' : List PodRecord} (h : l.Perm l') (e : Event) {copy : List PodRecord}
    (hcopy : e.replay? l = some copy) : ∃ copy', e.replay? l' = some copy' ∧ copy.Perm copy' := by
  have hids (id : PodId) : (∃ r ∈ l, r.id = id) ↔ ∃ r ∈ l', r.id = id := by
    simp only [h.mem_iff]
  cases e with
  | created pod =>
    simp only [replay?, hids] at hcopy ⊢
    split at hcopy
    · cases hcopy
    · rename_i hnew
      cases hcopy
      exact ⟨_, if_neg hnew, h.cons pod⟩
  | synced old new =>
    simp only [replay?, h.mem_iff] at hcopy ⊢
    split at hcopy
    · rename_i hold
      cases hcopy
      exact ⟨_, if_pos hold, (h.erase old).cons new⟩
    · cases hcopy
  | deleted id =>
    simp only [replay?, hids] at hcopy ⊢
    split at hcopy
    · rename_i hstored
      cases hcopy
      exact ⟨_, if_pos hstored, h.filter _⟩
    · cases hcopy

theorem replayAll?_perm (events : List Event) {l l' : List PodRecord} (h : l.Perm l')
    {copy : List PodRecord} (hcopy : replayAll? l events = some copy) :
    ∃ copy', replayAll? l' events = some copy' ∧ copy.Perm copy' := by
  induction events generalizing l l' with
  | nil =>
    cases hcopy
    exact ⟨l', rfl, h⟩
  | cons e events ih =>
    obtain ⟨next, hnext, hrest⟩ := Option.bind_eq_some_iff.1 hcopy
    obtain ⟨next', hnext', hperm⟩ := replay?_perm h e hnext
    obtain ⟨copy', hcopy', hperm'⟩ := ih hperm hrest
    exact ⟨copy', Option.bind_eq_some_iff.2 ⟨next', hnext', hcopy'⟩, hperm'⟩

theorem replayAll?_append {l copy copy' : List PodRecord} {events events' : List Event}
    (h : replayAll? l events = some copy) (h' : replayAll? copy events' = some copy') :
    replayAll? l (events ++ events') = some copy' := by
  rw [replayAll?, List.foldlM_append]
  exact Option.bind_eq_some_iff.2 ⟨copy, h, h'⟩

end Event

namespace KeyedStore

variable {k : KeyedStore}

theorem replay_created {r : PodRecord} (hnew : k.find? r.id = none) :
    (Event.created r).replay? k.pods = some (r :: k.without r.id) := by
  have hunused : ∀ r' ∈ k.pods, r'.id ≠ r.id := by
    simpa using List.find?_eq_none.1 hnew
  have hwithout : k.without r.id = k.pods := by
    refine List.filter_eq_self.2 (fun r' hr' ↦ ?_)
    exact bne_iff_ne.2 (hunused r' hr')
  rw [hwithout]
  exact if_neg (by simpa using hunused)

theorem Distinct.replay_synced (h : k.Distinct) {old : PodRecord} (hold : old ∈ k.pods)
    (new : PodRecord) :
    ∃ copy, (Event.synced old new).replay? k.pods = some copy ∧
      copy.Perm (new :: k.without old.id) := by
  refine ⟨_, if_pos hold, List.Perm.cons new ?_⟩
  have hperm : k.pods.Perm (old :: k.without old.id) := perm_cons_filter_ne h.ids hold
  exact ((List.perm_cons_erase hold).symm.trans hperm).cons_inv

end KeyedStore

namespace Holding

variable {σ : Type} [PodStore σ] {R : σ → KeyedStore → Prop} (hR : Holding R) {s : σ}
  {k : KeyedStore} (h : R s k) {o : Operation}

include hR h

theorem find?_of_new (hnew : o.New s) {id : PodId} {time : String} {pod : NewPod}
    (hwrite : o.write? = some (.create id time pod)) (hname : k.findNamed? pod.name = none) :
    k.find? id = none := by
  have hnamed : PodStore.findNamed s pod.name = .ok none := by rw [hR.findNamed h, hname]
  have hfind := hnew id time pod (Operation.eq_create hwrite) hnamed
  rw [hR.find h] at hfind
  exact Except.ok.inj hfind

theorem replay (hk : k.Distinct) (hnew : o.New s) :
    ∃ k' copy, R (o.perform s).store k' ∧
      Event.replayAll? k.pods (o.perform s).events = some copy ∧ copy.Perm k'.pods := by
  cases hR.effect h o with
  | nothing hnothing hevents hs => exact ⟨k, k.pods, hs, by rw [hevents]; rfl, .refl _⟩
  | creates id time pod hwrite haccepted hname hrecord hevents hs =>
    have hunused : k.find? (PodRecord.create id time pod).id = none :=
      hR.find?_of_new h hnew hwrite hname
    refine ⟨_, _, hs, ?_, .refl _⟩
    rw [hevents, Event.replayAll?, List.foldlM_cons, KeyedStore.replay_created hunused]
    rfl
  | keeps time id u old hwrite haccepted hold hu hevents hs =>
    exact ⟨k, k.pods, hs, by rw [hevents]; rfl, .refl _⟩
  | changes time id u old hwrite haccepted hold hu hrecord hevents hs =>
    obtain ⟨hmem, rfl⟩ := KeyedStore.of_find?_eq_some hold
    obtain ⟨copy, hcopy, hperm⟩ := hk.replay_synced hmem (old.apply time u)
    refine ⟨_, copy, hs, ?_, hperm⟩
    rw [hevents, Event.replayAll?, List.foldlM_cons, hcopy]
    rfl
  | deletes id old hwrite haccepted hold hevents hs =>
    have hstored : ∃ r ∈ k.pods, r.id = id := ⟨old, KeyedStore.of_find?_eq_some hold⟩
    refine ⟨_, k.without id, hs, ?_, .refl _⟩
    rw [hevents, Event.replayAll?, List.foldlM_cons, Event.replay?, if_pos hstored]
    rfl

theorem version_of_synced {old new : PodRecord} (hmem : .synced old new ∈ (o.perform s).events) :
    new.version = old.version + 1 := by
  cases hR.effect h o with
  | nothing hnothing hevents hs => simp [hevents] at hmem
  | creates id time pod hwrite haccepted hname hrecord hevents hs => simp [hevents] at hmem
  | keeps time id u old hwrite haccepted hold hu hevents hs => simp [hevents] at hmem
  | changes time id u old' hwrite haccepted hold hu hrecord hevents hs =>
    rw [hevents] at hmem
    cases List.mem_singleton.1 hmem
    rw [old.apply_changed time hu]
  | deletes id old hwrite haccepted hold hevents hs => simp [hevents] at hmem

theorem events_of_failed (hfailed : (o.perform s).answer.failed = true) :
    (o.perform s).events = [] := by
  cases hR.effect h o with
  | nothing hnothing hevents hs => exact hevents
  | creates id time pod hwrite haccepted hname hrecord hevents hs =>
    exact absurd (haccepted.symm.trans hfailed) Bool.false_ne_true
  | keeps time id u old hwrite haccepted hold hu hevents hs => exact hevents
  | changes time id u old hwrite haccepted hold hu hrecord hevents hs =>
    exact absurd (haccepted.symm.trans hfailed) Bool.false_ne_true
  | deletes id old hwrite haccepted hold hevents hs =>
    exact absurd (haccepted.symm.trans hfailed) Bool.false_ne_true

/-- The operations that emit nothing are those that leave all records as they were. -/
theorem events_eq_nil_iff (hk : k.Distinct) (hnew : o.New s) :
    (o.perform s).events = [] ↔ PodStore.list (o.perform s).store = PodStore.list s := by
  have hlist {k' : KeyedStore} (hs : R (o.perform s).store k')
      (hsame : PodStore.list (o.perform s).store = PodStore.list s) (r : PodRecord) :
      r ∈ k'.pods ↔ r ∈ k.pods := by
    rw [hR.list hs, hR.list h] at hsame
    have hpods := congrArg (r ∈ ·) (Except.ok.inj hsame)
    simpa only [KeyedStore.list, List.mem_mergeSort, eq_iff_iff] using hpods
  cases hR.effect h o with
  | nothing hnothing hevents hs => exact iff_of_true hevents (by rw [hR.list hs, hR.list h])
  | creates id time pod hwrite haccepted hname hrecord hevents hs =>
    refine iff_of_false (by simp [hevents]) (fun hsame ↦ ?_)
    have hmem := (hlist hs hsame (.create id time pod)).1 List.mem_cons_self
    have hunused := hR.find?_of_new h hnew hwrite hname
    exact List.find?_eq_none.1 hunused _ hmem (beq_self_eq_true _)
  | keeps time id u old hwrite haccepted hold hu hevents hs =>
    exact iff_of_true hevents (by rw [hR.list hs, hR.list h])
  | changes time id u old hwrite haccepted hold hu hrecord hevents hs =>
    refine iff_of_false (by simp [hevents]) (fun hsame ↦ ?_)
    have hmem := (hlist hs hsame (old.apply time u)).1 List.mem_cons_self
    have hstored := (KeyedStore.of_find?_eq_some hold).1
    exact old.apply_ne_self time hu
      (List.inj_on_of_nodup_map hk.ids hmem hstored (old.samePod_apply time u).id)
  | deletes id old hwrite haccepted hold hevents hs =>
    refine iff_of_false (by simp [hevents]) (fun hsame ↦ ?_)
    obtain ⟨hmem, rfl⟩ := KeyedStore.of_find?_eq_some hold
    have hleft := (hlist hs hsame old).2 hmem
    simpa using (List.mem_filter.1 hleft).2

end Holding

namespace Mailbox

/-- The mailbox of a subscriber that has not read these events. -/
def keeping (unread : List Event) : Mailbox :=
  ⟨unread.length - capacity, unread.drop (unread.length - capacity), true⟩

theorem post_keeping (unread : List Event) (e : Event) :
    (keeping unread).post e = keeping (unread ++ [e]) := by
  by_cases hroom : unread.length < capacity
  · have hnone : unread.length - capacity = 0 := by omega
    have hnone' : unread.length + 1 - capacity = 0 := by omega
    simp [post, keeping, hnone, hnone', hroom]
  · have hcapacity : 0 < capacity := by decide
    have hfull : ¬ (unread.drop (unread.length - capacity)).length < capacity := by
      rw [List.length_drop]
      omega
    have hlost : unread.length + 1 - capacity = unread.length - capacity + 1 := by omega
    simp only [post, keeping, Bool.not_true, Bool.false_eq_true, ↓reduceIte, hfull,
      List.length_append, List.length_singleton, hlost, List.drop_drop]
    rw [List.drop_append_of_le_length (by omega)]

theorem postAll_keeping (unread events : List Event) :
    (keeping unread).postAll events = keeping (unread ++ events) := by
  induction events generalizing unread with
  | nil => rw [List.append_nil]; rfl
  | cons e events ih =>
    rw [postAll, List.foldl_cons, post_keeping]
    exact (ih _).trans (by rw [List.append_assoc]; rfl)

/-- What a subscriber is given to read: the newest events, behind the number of those that it
missed, if any. -/
def newest (unread : List Event) : List Delivery :=
  (if capacity < unread.length then [.lagged (unread.length - capacity)] else []) ++
    (unread.drop (unread.length - capacity)).map .event

theorem drain_keeping (unread : List Event) :
    (keeping unread).drain = (newest unread, keeping []) := by
  have hlag : (keeping unread).lag =
      if capacity < unread.length then [.lagged (unread.length - capacity)] else [] := by
    by_cases hlost : capacity < unread.length
    · rw [if_pos hlost]
      exact if_neg (by simp only [keeping]; omega)
    · rw [if_neg hlost]
      exact if_pos (by simp only [keeping]; omega)
  rw [drain, hlag, newest]
  simp [keeping, ending]

theorem newest_of_no_lag {unread : List Event} (h : ∀ n, .lagged n ∉ newest unread) :
    newest unread = unread.map .event := by
  have hfew : ¬ capacity < unread.length := by
    intro hlost
    refine h (unread.length - capacity) ?_
    rw [newest, if_pos hlost]
    exact List.mem_append_left _ (List.mem_singleton_self _)
  have hnone : unread.length - capacity = 0 := by omega
  rw [newest, if_neg hfew, hnone]
  rfl

end Mailbox

end PodInventory
