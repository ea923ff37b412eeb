import PodInventory.Proofs.Feed
import PodInventory.Service

namespace PodInventory

open Event Mailbox

/-- What happens to a service that has subscribers. -/
inductive Moment
  | operate (o : Operation)
  | disturb (t : Trouble)
  | subscribe (name : String)
  | drain (name : String)

/-- Whether a moment is not just about another subscriber. -/
def Moment.concerns (name : String) : Moment → Bool
  | .operate _ | .disturb _ => true
  | .subscribe name' | .drain name' => name' == name

namespace Service

def next (s : Service) : Moment → Service
  | .operate o => (s.perform o).2
  | .disturb t => { s with store := s.store.troubled t }
  | .subscribe name => (s.step (.subscribe name)).2
  | .drain name => (s.step (.events name)).2

def after (s : Service) (moments : List Moment) : Service := moments.foldl next s

def emits (s : Service) : Moment → List Event
  | .operate o => (o.perform s.store).events
  | .disturb _ | .subscribe _ | .drain _ => []

def emitted (s : Service) : List Moment → List Event
  | [] => []
  | m :: rest => s.emits m ++ emitted (s.next m) rest

/-- What a subscriber would be given to read now. -/
def readable (s : Service) (name : String) : List Delivery :=
  match (s.step (.events name)).1 with
  | .deliveries deliveries => deliveries
  | _ => []

def delivers (s : Service) (name : String) : Moment → List Delivery
  | .drain name' => if name' = name then s.readable name else []
  | .operate _ | .disturb _ | .subscribe _ => []

def delivered (s : Service) (name : String) : List Moment → List Delivery
  | [] => []
  | m :: rest => s.delivers name m ++ delivered (s.next m) name rest

/-- All that a subscriber is given to read that subscribes now, and reads once more at the end. -/
def hears (s : Service) (name : String) (during : List Moment) : List Delivery :=
  (s.next (.subscribe name)).delivered name (during ++ [.drain name])

/-- Whether every pod that is created gets an id that no stored pod has at that time. -/
def Fresh (s : Service) : List Moment → Prop
  | [] => True
  | m :: rest => (∀ o, m = .operate o → o.New s.store) ∧ Fresh (s.next m) rest

variable {s : Service} {k : KeyedStore} {name : String} {unread : List Event}

section Append

theorem after_append (s : Service) (before rest : List Moment) :
    s.after (before ++ rest) = (s.after before).after rest := List.foldl_append

theorem emitted_append (s : Service) (before rest : List Moment) :
    s.emitted (before ++ rest) = s.emitted before ++ (s.after before).emitted rest := by
  induction before generalizing s with
  | nil => rfl
  | cons m before ih => rw [List.cons_append, emitted, ih, emitted, List.append_assoc]; rfl

theorem delivered_append (s : Service) (name : String) (before rest : List Moment) :
    s.delivered name (before ++ rest) =
      s.delivered name before ++ (s.after before).delivered name rest := by
  induction before generalizing s with
  | nil => rfl
  | cons m before ih => rw [List.cons_append, delivered, ih, delivered, List.append_assoc]; rfl

theorem Fresh.append {before rest : List Moment} (h : s.Fresh (before ++ rest)) :
    s.Fresh before ∧ (s.after before).Fresh rest := by
  induction before generalizing s with
  | nil => exact ⟨trivial, h⟩
  | cons m before ih =>
    obtain ⟨hbefore, hrest⟩ := ih h.2
    exact ⟨⟨h.1, hbefore⟩, hrest⟩

end Append

theorem store_next_drain (s : Service) (name : String) :
    (s.next (.drain name)).store = s.store := by
  rw [next, step, drain]
  cases s.subscribers.get? name <;> rfl

theorem store_next_of_emits (m : Moment) (hs : s.store.store.Holds k)
    (hnew : ∀ o, m = .operate o → o.New s.store) :
    ∃ k' copy, (s.next m).store.store.Holds k' ∧ replayAll? k.pods (s.emits m) = some copy ∧
      copy.Perm k'.pods := by
  cases m with
  | operate o => exact (Outage.holding Backing.holding).replay hs hs.distinct (hnew o rfl)
  | disturb t => exact ⟨k, k.pods, hs.troubled t, rfl, .refl _⟩
  | subscribe name => exact ⟨k, k.pods, hs, rfl, .refl _⟩
  | drain name =>
    refine ⟨k, k.pods, ?_, rfl, .refl _⟩
    rw [store_next_drain]
    exact hs

theorem replay_emitted (hs : s.store.store.Holds k) {moments : List Moment}
    (hfresh : s.Fresh moments) :
    ∃ k' copy, (s.after moments).store.store.Holds k' ∧
      replayAll? k.pods (s.emitted moments) = some copy ∧ copy.Perm k'.pods := by
  induction moments generalizing s k with
  | nil => exact ⟨k, k.pods, hs, rfl, .refl _⟩
  | cons m rest ih =>
    -- The copy is in another order than the records, so the rest is replayed on both.
    obtain ⟨k', copy, hs', hcopy, hperm⟩ := store_next_of_emits m hs hfresh.1
    obtain ⟨k'', copy', hs'', hcopy', hperm'⟩ := ih hs' hfresh.2
    obtain ⟨copy'', hcopy'', hperm''⟩ := replayAll?_perm _ hperm.symm hcopy'
    exact ⟨k'', copy'', hs'', replayAll?_append hcopy hcopy'', hperm''.symm.trans hperm'⟩

section Mailbox

theorem readable_eq (s : Service) (name : String) :
    s.readable name = ((s.subscribers.get? name).map (fun m ↦ m.drain.1)).getD [] := by
  rw [readable, step, drain]
  cases s.subscribers.get? name <;> rfl

theorem get?_next_drain (s : Service) (name name' : String) :
    (s.next (.drain name')).subscribers.get? name =
      if name = name' then (s.subscribers.get? name).map (fun m ↦ m.drain.2)
      else s.subscribers.get? name := by
  rw [next, step, drain]
  by_cases heq : name = name'
  · rw [if_pos heq, heq]
    cases hmailbox : s.subscribers.get? name' with
    | none => exact hmailbox
    | some mailbox => exact Dict.get?_insert_self _ _ _
  · rw [if_neg heq]
    cases s.subscribers.get? name' with
    | none => rfl
    | some mailbox => exact (Dict.get?_insert _ _ _ _).trans (if_neg heq)

theorem get?_next_subscribe (s : Service) (name name' : String) :
    (s.next (.subscribe name')).subscribers.get? name =
      if name = name' then some (keeping []) else s.subscribers.get? name :=
  Dict.get?_insert _ _ _ _

theorem get?_next_operate (s : Service) (name : String) (o : Operation) :
    (s.next (.operate o)).subscribers.get? name =
      (s.subscribers.get? name).map (fun m ↦ m.postAll (o.perform s.store).events) :=
  Dict.get?_map _ _ _

theorem keeping_next (h : s.subscribers.get? name = some (keeping unread)) {m : Moment}
    (hsubscribe : m ≠ .subscribe name) (hdrain : m ≠ .drain name) :
    (s.next m).subscribers.get? name = some (keeping (unread ++ s.emits m)) := by
  cases m with
  | operate o =>
    rw [get?_next_operate, h, Option.map_some, postAll_keeping]
    rfl
  | disturb t =>
    rw [emits, List.append_nil]
    exact h
  | subscribe name' =>
    rw [get?_next_subscribe, if_neg (fun heq ↦ hsubscribe (congrArg _ heq.symm)), emits,
      List.append_nil, h]
  | drain name' =>
    rw [get?_next_drain, if_neg (fun heq ↦ hdrain (congrArg _ heq.symm)), emits,
      List.append_nil, h]

theorem keeping_after (h : s.subscribers.get? name = some (keeping unread)) {moments : List Moment}
    (hsubscribe : .subscribe name ∉ moments) (hdrain : .drain name ∉ moments) :
    (s.after moments).subscribers.get? name = some (keeping (unread ++ s.emitted moments)) := by
  induction moments generalizing s unread with
  | nil =>
    rw [emitted, List.append_nil]
    exact h
  | cons m rest ih =>
    obtain ⟨hm, hrest⟩ := not_or.1 (mt List.mem_cons.2 hsubscribe)
    obtain ⟨hm', hrest'⟩ := not_or.1 (mt List.mem_cons.2 hdrain)
    rw [emitted, ← List.append_assoc]
    exact ih (keeping_next h (Ne.symm hm) (Ne.symm hm')) hrest hrest'

theorem step_events_of_keeping (h : s.subscribers.get? name = some (keeping unread)) :
    (s.step (.events name)).1 = .deliveries (newest unread) := by
  rw [step, drain, h]
  exact congrArg (fun d ↦ Reply.deliveries d.1) (drain_keeping unread)

theorem readable_of_keeping (h : s.subscribers.get? name = some (keeping unread)) :
    s.readable name = newest unread := by
  rw [readable, step_events_of_keeping h]

theorem keeping_next_drain (h : s.subscribers.get? name = some (keeping unread)) :
    (s.next (.drain name)).subscribers.get? name = some (keeping []) := by
  rw [get?_next_drain, if_pos rfl, h, Option.map_some, drain_keeping]

theorem keeping_of_subscribed {moments : List Moment}
    (h : .subscribe name ∈ moments ∨ ∃ unread, s.subscribers.get? name = some (keeping unread)) :
    ∃ unread, (s.after moments).subscribers.get? name = some (keeping unread) := by
  induction moments generalizing s with
  | nil => exact h.resolve_left (by simp)
  | cons m rest ih =>
    refine ih ?_
    by_cases hsubscribe : m = .subscribe name
    · subst hsubscribe
      exact .inr ⟨[], by rw [get?_next_subscribe, if_pos rfl]⟩
    · rcases h with hmem | ⟨unread, hunread⟩
      · exact .inl ((List.mem_cons.1 hmem).resolve_left (Ne.symm hsubscribe))
      · right
        by_cases hdrain : m = .drain name
        · subst hdrain
          exact ⟨[], keeping_next_drain hunread⟩
        · exact ⟨_, keeping_next hunread hsubscribe hdrain⟩

theorem delivered_of_no_lag (h : s.subscribers.get? name = some (keeping unread))
    {moments : List Moment} (hsubscribe : .subscribe name ∉ moments)
    (hlag : ∀ n, .lagged n ∉ s.delivered name moments) :
    ∃ read rest, s.delivered name moments = read.map .event ∧
      (s.after moments).subscribers.get? name = some (keeping rest) ∧
      read ++ rest = unread ++ s.emitted moments := by
  -- What was read so far and what is still to be read always make up what was emitted.
  induction moments generalizing s unread with
  | nil => exact ⟨[], unread, rfl, h, by simp [emitted]⟩
  | cons m moments ih =>
    obtain ⟨hm, hmoments⟩ := not_or.1 (mt List.mem_cons.2 hsubscribe)
    have hlater : ∀ n, .lagged n ∉ (s.next m).delivered name moments :=
      fun n hmem ↦ hlag n (List.mem_append_right _ hmem)
    by_cases hdrain : m = .drain name
    · subst hdrain
      have hdelivers : s.delivers name (.drain name) = newest unread :=
        (if_pos rfl).trans (readable_of_keeping h)
      have hnow : ∀ n, .lagged n ∉ newest unread := by
        intro n hmem
        rw [← hdelivers] at hmem
        exact hlag n (List.mem_append_left _ hmem)
      obtain ⟨read, rest, hread, hrest, hall⟩ := ih (keeping_next_drain h) hmoments hlater
      refine ⟨unread ++ read, rest, ?_, hrest, ?_⟩
      · rw [delivered, hread, hdelivers, newest_of_no_lag hnow, List.map_append]
      · rw [List.append_assoc, hall]
        rfl
    · have hnothing : s.delivers name m = [] := by
        cases m with
        | drain name' => exact if_neg (fun heq ↦ hdrain (congrArg _ heq))
        | _ => rfl
      obtain ⟨read, rest, hread, hrest, hall⟩ :=
        ih (keeping_next h (Ne.symm hm) hdrain) hmoments hlater
      refine ⟨read, rest, ?_, hrest, ?_⟩
      · rw [delivered, hread, hnothing, List.nil_append]
      · rw [hall, emitted, List.append_assoc]

theorem delivered_up_to_drain (h : s.subscribers.get? name = some (keeping []))
    {moments : List Moment} (hsubscribe : .subscribe name ∉ moments)
    (hlag : ∀ n, .lagged n ∉ s.delivered name (moments ++ [.drain name])) :
    s.delivered name (moments ++ [.drain name]) = (s.emitted moments).map .event := by
  rw [delivered_append] at hlag ⊢
  obtain ⟨read, rest, hread, hrest, hall⟩ :=
    delivered_of_no_lag h hsubscribe (fun n hmem ↦ hlag n (List.mem_append_left _ hmem))
  have hlast : (s.after moments).delivered name [.drain name] = newest rest := by
    refine (List.append_nil _).trans ((if_pos rfl).trans ?_)
    exact readable_of_keeping hrest
  have hnow : ∀ n, .lagged n ∉ newest rest := by
    intro n hmem
    rw [← hlast] at hmem
    exact hlag n (List.mem_append_right _ hmem)
  rw [hread, hlast, newest_of_no_lag hnow, ← List.map_append, hall, List.nil_append]

end Mailbox

section Alike

/-- Two services that one subscriber cannot tell apart. -/
structure Alike (name : String) (s s' : Service) : Prop where
  store : s.store = s'.store
  mailbox : s.subscribers.get? name = s'.subscribers.get? name

variable {s' : Service}

theorem Alike.next (h : Alike name s s') (m : Moment) : Alike name (s.next m) (s'.next m) := by
  cases m with
  | operate o =>
    refine ⟨?_, ?_⟩
    · change (o.perform s.store).store = (o.perform s'.store).store
      rw [h.store]
    · rw [get?_next_operate, get?_next_operate, h.mailbox, h.store]
  | disturb t => exact ⟨congrArg (Outage.troubled · t) h.store, h.mailbox⟩
  | subscribe name' =>
    refine ⟨h.store, ?_⟩
    rw [get?_next_subscribe, get?_next_subscribe, h.mailbox]
  | drain name' =>
    refine ⟨?_, ?_⟩
    · rw [store_next_drain, store_next_drain, h.store]
    · rw [get?_next_drain, get?_next_drain, h.mailbox]

theorem Alike.delivers (h : Alike name s s') (m : Moment) :
    s.delivers name m = s'.delivers name m := by
  cases m with
  | drain name' => rw [Service.delivers, Service.delivers, readable_eq, readable_eq, h.mailbox]
  | _ => rfl

theorem alike_next {m : Moment} (hm : m.concerns name = false) :
    Alike name s (s.next m) ∧ s.delivers name m = [] := by
  cases m with
  | operate o => cases hm
  | disturb t => cases hm
  | subscribe name' =>
    have hne : name ≠ name' := fun heq ↦ by simp [Moment.concerns, heq] at hm
    exact ⟨⟨rfl, by rw [get?_next_subscribe, if_neg hne]⟩, rfl⟩
  | drain name' =>
    have hne : name ≠ name' := fun heq ↦ by simp [Moment.concerns, heq] at hm
    exact ⟨⟨(store_next_drain s name').symm, by rw [get?_next_drain, if_neg hne]⟩,
      if_neg (Ne.symm hne)⟩

/-- What one subscriber is given to read does not depend on any other subscriber. -/
theorem Alike.delivered_filter (h : Alike name s s') (moments : List Moment) :
    s.delivered name (moments.filter (Moment.concerns name)) = s'.delivered name moments := by
  induction moments generalizing s s' with
  | nil => rfl
  | cons m rest ih =>
    cases hm : m.concerns name with
    | true =>
      rw [List.filter_cons_of_pos hm, delivered, delivered, h.delivers, ih (h.next m)]
    | false =>
      obtain ⟨hskip, hnothing⟩ := alike_next (s := s') hm
      rw [List.filter_cons_of_neg (by simp [hm]), delivered, hnothing, List.nil_append]
      exact ih ⟨h.store.trans hskip.store, h.mailbox.trans hskip.mailbox⟩

end Alike

section Faithful

variable (hs : s.store.store.Holds k)

include hs

/-- A subscriber that starts from the records that are there, and reads on without a lag, has a
copy of all records after each time it reads. -/
theorem copy_of_heard {before during : List Moment}
    (hfresh : s.Fresh (before ++ .subscribe name :: (during ++ [.drain name])))
    (hsubscribe : .subscribe name ∉ during)
    (hlag : ∀ n, .lagged n ∉ (s.after before).hears name during) :
    ∃ present events copy stored,
      PodStore.list (s.after before).store = .ok present ∧
      (s.after before).hears name during = events.map .event ∧
      replayAll? present events = some copy ∧
      PodStore.list (s.after (before ++ .subscribe name :: (during ++ [.drain name]))).store =
        .ok stored ∧
      copy.Perm stored := by
  have hR := Outage.holding Backing.holding
  obtain ⟨hbefore, hafter⟩ := hfresh.append
  obtain ⟨k', -, hs', -⟩ := replay_emitted hs hbefore
  obtain ⟨k'', copy, hs'', hcopy, hperm⟩ := replay_emitted hs' hafter
  obtain ⟨copy', hcopy', hperm'⟩ :=
    replayAll?_perm _ (List.mergeSort_perm k'.pods _).symm hcopy
  have hstart : ((s.after before).next (.subscribe name)).subscribers.get? name =
      some (keeping []) := (get?_next_subscribe _ _ _).trans (if_pos rfl)
  -- The store lists its records in an order of their own, so the copy is theirs up to order.
  refine ⟨k'.list, _, copy', k''.list, hR.list hs', delivered_up_to_drain hstart hsubscribe hlag,
    ?_, ?_, ?_⟩
  · have hemitted : (s.after before).emitted (.subscribe name :: (during ++ [.drain name])) =
        ((s.after before).next (.subscribe name)).emitted during := by
      rw [emitted, emitted_append]
      simp [emits, emitted]
    rw [← hemitted]
    exact hcopy'
  · rw [after_append]
    exact hR.list hs''
  · exact hperm'.symm.trans (hperm.trans (List.mergeSort_perm _ _).symm)

end Faithful

theorem events_of_drain {before during : List Moment} {m : Moment}
    (hm : m = .subscribe name ∨ m = .drain name ∧ .subscribe name ∈ before)
    (hsubscribe : .subscribe name ∉ during) (hdrain : .drain name ∉ during) :
    ((((s.after before).next m).after during).step (.events name)).1 =
      .deliveries (newest (((s.after before).next m).emitted during)) := by
  have hstart : ((s.after before).next m).subscribers.get? name = some (keeping []) := by
    rcases hm with rfl | ⟨rfl, hmem⟩
    · exact (get?_next_subscribe _ _ _).trans (if_pos rfl)
    · obtain ⟨unread, hunread⟩ := keeping_of_subscribed (s := s) (.inl hmem)
      exact keeping_next_drain hunread
  exact step_events_of_keeping (keeping_after hstart hsubscribe hdrain)

end Service

/-- The events of a service are a faithful log of its records. Replaying what a subscriber reads
without a lag yields the records, an operation emits nothing just if it changes nothing, a reader
that falls behind gets the newest events after the number of those that it missed, and no subscriber
sees what another one does. -/
theorem feed_faithful {backing : Backing} (hb : backing.Blank) (moments : List Moment)
    (hfresh : (Service.start backing).Fresh moments) :
    let s := Service.start backing
    (∀ (before : List Moment) (name : String) (during : List Moment),
      moments = before ++ .subscribe name :: (during ++ [.drain name]) →
      .subscribe name ∉ during →
      (∀ n, .lagged n ∉ (s.after before).hears name during) →
      ∃ present events copy stored,
        PodStore.list (s.after before).store = .ok present ∧
        (s.after before).hears name during = events.map .event ∧
        replayAll? present events = some copy ∧
        PodStore.list (s.after moments).store = .ok stored ∧ copy.Perm stored) ∧
    (∀ (before : List Moment) (o : Operation) (after : List Moment),
      moments = before ++ .operate o :: after →
      let p := o.perform (s.after before).store
      (∀ old new, .synced old new ∈ p.events → new.version = old.version + 1) ∧
      (p.answer.failed = true → p.events = []) ∧
      (p.events = [] ↔ PodStore.list p.store = PodStore.list (s.after before).store)) ∧
    (∀ (before : List Moment) (m : Moment) (name : String) (during : List Moment),
      moments = before ++ m :: (during ++ [.drain name]) →
      m = .subscribe name ∨ m = .drain name ∧ .subscribe name ∈ before →
      .subscribe name ∉ during → .drain name ∉ during →
      ∀ unread, unread = ((s.after before).next m).emitted during →
        ((((s.after before).next m).after during).step (.events name)).1 =
          .deliveries ((if 256 < unread.length then [.lagged (unread.length - 256)] else []) ++
            (unread.drop (unread.length - 256)).map .event)) ∧
    ∀ name, s.delivered name (moments.filter (Moment.concerns name)) = s.delivered name moments := by
  intro s
  have hs : s.store.store.Holds .empty := hb.holds
  refine ⟨?_, ?_, ?_, ?_⟩
  · rintro before name during rfl hsubscribe hlag
    exact s.copy_of_heard hs hfresh hsubscribe hlag
  · rintro before o after rfl
    obtain ⟨hbefore, hafter⟩ := hfresh.append
    obtain ⟨k, -, hk, -⟩ := s.replay_emitted hs hbefore
    have hR := Outage.holding Backing.holding
    exact ⟨fun old new hmem ↦ hR.version_of_synced hk hmem, hR.events_of_failed hk,
      hR.events_eq_nil_iff hk hk.distinct (hafter.1 o rfl)⟩
  · rintro before m name during rfl hm hsubscribe hdrain unread rfl
    exact Service.events_of_drain hm hsubscribe hdrain
  · intro name
    exact Service.Alike.delivered_filter ⟨rfl, rfl⟩ moments

/-- What is read by a subscriber of a pod that is created, updated, updated with nothing new, and
deleted twice. -/
def watched : List Moment :=
  [.operate (.create "1" "t1" ⟨"rack", "virsh", "default", "default", ∅⟩),
    .operate (.apply "t2" "1" ⟨.blank, .ofList [("a", true)]⟩), .drain "screen",
    .operate (.apply "t3" "1" ⟨.blank, .ofList [("a", true)]⟩), .operate (.delete "1"),
    .operate (.delete "1")]

theorem feed_faithful_watched :
    Backing.Blank (.memory .empty) ∧
      (Service.start (.memory .empty)).Fresh (.subscribe "screen" :: (watched ++ [.drain "screen"])) ∧
      ∃ events : List Event,
        (Service.start (.memory .empty)).hears "screen" watched = events.map .event ∧
        events.length = 3 ∧ replayAll? [] events = some [] := by
  have hfresh : (Service.start (.memory .empty)).Fresh
      (.subscribe "screen" :: (watched ++ [.drain "screen"])) := by
    refine ⟨(fun o ho ↦ nomatch ho), ?_, ?_, (fun o ho ↦ nomatch ho), ?_, ?_, ?_,
      (fun o ho ↦ nomatch ho), trivial⟩
    · rintro o ho id time pod rfl -
      cases ho
      rfl
    all_goals
      rintro o ho id time pod rfl -
      cases ho
  have hheard : ∃ pod old new : PodRecord,
      (Service.start (.memory .empty)).hears "screen" watched =
        [.event (.created pod), .event (.synced old new), .event (.deleted "1")] :=
    ⟨_, _, _, rfl⟩
  obtain ⟨pod, old, new, hheard⟩ := hheard
  have hlag : ∀ n, .lagged n ∉ (Service.start (.memory .empty)).hears "screen" watched := by
    intro n hmem
    rw [hheard] at hmem
    simp at hmem
  have hempty : KeyedStore.list ⟨[]⟩ = [] := List.mergeSort_nil
  obtain ⟨present, events, copy, stored, hpresent, hevents, hcopy, hstored, hperm⟩ :=
    (feed_faithful .memory _ hfresh).1 [] "screen" watched rfl (by simp [watched]) hlag
  have hpresent' : .ok (KeyedStore.list ⟨[]⟩) = Except.ok present := hpresent
  have hstored' : .ok (KeyedStore.list ⟨[]⟩) = Except.ok stored := hstored
  rw [hempty] at hpresent' hstored'
  cases hpresent'
  cases hstored'
  refine ⟨.memory, hfresh, events, hevents, ?_, ?_⟩
  · have hlength := congrArg List.length (hheard.symm.trans hevents)
    simpa using hlength.symm
  · rw [hcopy, List.perm_nil.1 hperm]

end PodInventory
