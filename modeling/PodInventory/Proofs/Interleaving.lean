import Mathlib.Data.List.Forall2
import Mathlib.Logic.Function.Basic
import PodInventory.Proofs.Attempt
import PodInventory.Proofs.Store.Turn

namespace PodInventory

/-- One step of many clients. A sync starts with the record that it was handed, and writes later. -/
inductive Move
  | start (client : Nat) (pod : PodRecord) (attempt : Attempt)
  | write (client : Nat) (time : String)
  | perform (o : Operation)

/-- What a move makes of the syncs under way. A client that has one under way starts no other. -/
def Move.next {α : Type} (start : PodRecord → Attempt → α) (pending : Nat → Option α) :
    Move → Nat → Option α
  | .start client pod attempt =>
    Function.update pending client ((pending client).or (some (start pod attempt)))
  | .write client _ => Function.update pending client none
  | .perform _ => pending

def Move.operation? (pending : Nat → Option Sync) : Move → Option Operation
  | .start _ _ _ => none
  | .write client time => (pending client).map (.commit time)
  | .perform o => some o

/-- A store with the syncs under way on it. -/
structure Progress (σ : Type) where
  store : σ
  pending : Nat → Option Sync

/-- What comes of a sequence of writes and reads. Every answer has a label. -/
structure History (σ : Type) where
  store : σ
  answers : List (Nat × Answer)
  events : List Event

section Runs

variable {σ : Type}

def Performed.before (q : Performed σ) (label : Nat) (h : History σ) : History σ :=
  ⟨h.store, (label, q.answer) :: h.answers, q.events ++ h.events⟩

variable [PodStore σ]

namespace Progress

def idle (s : σ) : Progress σ := ⟨s, fun _ ↦ none⟩

def step (p : Progress σ) (m : Move) : Progress σ where
  store := (m.operation? p.pending).elim p.store (fun o ↦ (o.perform p.store).store)
  pending := m.next Sync.attempt p.pending

def after (p : Progress σ) (moves : List Move) : Progress σ := moves.foldl step p

/-- A run, in which an answer is labelled with the position of the move that it ends. -/
def run (p : Progress σ) (position : Nat) : List Move → History σ
  | [] => ⟨p.store, [], []⟩
  | m :: rest =>
    let later := (p.step m).run (position + 1) rest
    match m.operation? p.pending with
    | none => later
    | some o => (o.perform p.store).before position later

end Progress

/-- A whole sync at once, or an operation. -/
inductive Deed
  | sync (time : String) (pod : PodRecord) (attempt : Attempt)
  | operation (o : Operation)

namespace Deed

def perform (s : σ) : Deed → Performed σ
  | .sync time pod a => Operation.settled (Sync.run s time pod (a.workers pod) a.timeout)
  | .operation o => o.perform s

def performAll (s : σ) : List (Nat × Deed) → History σ
  | [] => ⟨s, [], []⟩
  | (label, d) :: rest => (d.perform s).before label (performAll (d.perform s).store rest)

/-- Whether a deed is more than a sync that finds nothing to write. -/
def writes : Deed → Bool
  | .sync _ pod a => (Sync.attempt pod a).plan.toOption.isSome
  | .operation _ => true

end Deed

def Move.deed? (begun : Nat → Option (PodRecord × Attempt)) : Move → Option Deed
  | .start _ _ _ => none
  | .write client time => (begun client).map (fun b ↦ .sync time b.1 b.2)
  | .perform o => some (.operation o)

/-- The deeds of a run in their order, where a sync is done when it writes. -/
def Move.deeds (begun : Nat → Option (PodRecord × Attempt)) (position : Nat) :
    List Move → List (Nat × Deed)
  | [] => []
  | m :: rest =>
    let later := deeds (m.next Prod.mk begun) (position + 1) rest
    match m.deed? begun with
    | none => later
    | some d => (position, d) :: later

/-- A deed that may go with another version of its record. -/
inductive Deed.Revised (Version : PodRecord → Prop) : Deed → Deed → Prop
  | same (d : Deed) : Revised Version d d
  | version (time : String) (a : Attempt) {pod pod' : PodRecord} (hid : pod'.id = pod.id)
    (hversion : Version pod') : Revised Version (.sync time pod a) (.sync time pod' a)

/-- A sequence of the same deeds. Those that may write keep their order, a sync that finds nothing
to write stands anywhere, and every sync goes with any version of its record. -/
def Deed.Serializes (Version : PodRecord → Prop) (deeds sequence : List (Nat × Deed)) : Prop :=
  ∃ revised, List.Forall₂ (fun a b ↦ a.1 = b.1 ∧ Deed.Revised Version a.2 b.2) deeds revised ∧
    sequence.Perm revised ∧
    sequence.filter (fun d ↦ d.2.writes) = revised.filter (fun d ↦ d.2.writes)

section Steps

variable {p : Progress σ} {begun : Nat → Option (PodRecord × Attempt)}

def Deed.asOperation : Deed → Operation
  | .sync time pod a => .commit time (.attempt pod a)
  | .operation o => o

theorem Deed.perform_eq (d : Deed) (s : σ) :
    (d.perform s).answer = (d.asOperation.perform s).answer ∧
      (d.perform s).store = (d.asOperation.perform s).store ∧
      (d.perform s).events = (d.asOperation.perform s).events := by
  cases d with
  | sync time pod a => exact ⟨rfl, rfl, rfl⟩
  | operation o => exact ⟨rfl, rfl, rfl⟩

theorem Move.operation?_eq (m : Move) (begun : Nat → Option (PodRecord × Attempt)) :
    m.operation? (Option.map (fun b ↦ Sync.attempt b.1 b.2) ∘ begun) =
      (m.deed? begun).map Deed.asOperation := by
  cases m with
  | start client pod a => rfl
  | perform o => rfl
  | write client time =>
    simp only [operation?, deed?, Function.comp_apply, Option.map_map]
    rfl

theorem Move.next_map (m : Move) (begun : Nat → Option (PodRecord × Attempt)) :
    m.next Sync.attempt (Option.map (fun b ↦ Sync.attempt b.1 b.2) ∘ begun) =
      Option.map (fun b ↦ Sync.attempt b.1 b.2) ∘ m.next Prod.mk begun := by
  cases m with
  | start client pod a =>
    simp only [next, Function.comp_update, Function.comp_apply]
    cases begun client <;> rfl
  | write client time => simp only [next, Function.comp_update, Option.map_none]
  | perform o => rfl

/-- A run comes to what its deeds come to one after the other. -/
theorem Progress.run_eq_performAll (moves : List Move)
    (hp : p.pending = Option.map (fun b ↦ Sync.attempt b.1 b.2) ∘ begun) (position : Nat) :
    p.run position moves = Deed.performAll p.store (Move.deeds begun position moves) := by
  induction moves generalizing p begun position with
  | nil => rfl
  | cons m rest ih =>
    -- the syncs under way and the records that they began with stay in step
    have hoperation := m.operation?_eq begun
    have hpending : (p.step m).pending =
        Option.map (fun b ↦ Sync.attempt b.1 b.2) ∘ m.next Prod.mk begun := by
      rw [step, hp, m.next_map]
    have hlater := ih hpending (position + 1)
    rw [← hp] at hoperation
    cases hd : m.deed? begun with
    | none =>
      rw [hd, Option.map_none] at hoperation
      have hstore : (p.step m).store = p.store := by
        rw [step, hoperation]
        rfl
      simp only [run, Move.deeds, hoperation, hd, hlater, hstore]
    | some d =>
      rw [hd, Option.map_some] at hoperation
      obtain ⟨hanswer, hstore, hevents⟩ := d.perform_eq p.store
      have hstep : (p.step m).store = (d.perform p.store).store := by
        rw [step, hoperation, hstore]
        rfl
      simp only [run, Move.deeds, hoperation, hd, hlater, hstep, Deed.performAll, Performed.before,
        hanswer, hevents]

theorem Progress.run_store (p : Progress σ) (position : Nat) (moves : List Move) :
    (p.run position moves).store = (p.after moves).store := by
  induction moves generalizing p position with
  | nil => rfl
  | cons m rest ih =>
    refine Eq.trans ?_ (ih (p.step m) (position + 1))
    simp only [run]
    cases m.operation? p.pending <;> rfl

theorem Progress.labels_run (p : Progress σ) (position : Nat) (moves : List Move) :
    ((p.run position moves).answers.map Prod.fst).Sublist (List.range' position moves.length) := by
  induction moves generalizing p position with
  | nil => exact .slnil
  | cons m rest ih =>
    have hlater := ih (p.step m) (position + 1)
    simp only [run, List.length_cons, List.range'_succ]
    cases m.operation? p.pending with
    | none => exact hlater.cons position
    | some o => exact hlater.cons_cons position

theorem Progress.after_concat (p : Progress σ) (moves : List Move) (m : Move) :
    p.after (moves ++ [m]) = (p.after moves).step m := List.foldl_append

theorem Progress.run_append (p : Progress σ) (position : Nat) (moves later : List Move) :
    (p.run position (moves ++ later)).answers = (p.run position moves).answers ++
      ((p.after moves).run (position + moves.length) later).answers := by
  induction moves generalizing p position with
  | nil => rfl
  | cons m rest ih =>
    have hlater := ih (p.step m) (position + 1)
    rw [Nat.add_right_comm] at hlater
    simp only [List.cons_append, run]
    cases m.operation? p.pending with
    | none => exact hlater
    | some o => exact congrArg (List.cons _) hlater

theorem Progress.answers_run_singleton (p : Progress σ) (position : Nat) (m : Move) :
    (p.run position [m]).answers =
      ((m.operation? p.pending).map (fun o ↦ (position, (o.perform p.store).answer))).toList := by
  simp only [run]
  cases m.operation? p.pending with
  | none => rfl
  | some o => rfl

theorem Move.begun_of_next {m : Move} {client : Nat} {b : PodRecord × Attempt}
    (h : m.next Prod.mk begun client = some b) :
    begun client = some b ∨ m = .start client b.1 b.2 := by
  cases m with
  | start client' pod a =>
    by_cases hclient : client = client'
    · subst hclient
      simp only [next, Function.update_self] at h
      cases hbegun : begun client with
      | none =>
        rw [hbegun] at h
        cases h
        exact .inr rfl
      | some b' =>
        rw [hbegun] at h
        exact .inl h
    · simp only [next, Function.update_of_ne hclient] at h
      exact .inl h
  | write client' time =>
    by_cases hclient : client = client'
    · subst hclient
      simp only [next, Function.update_self] at h
      cases h
    · simp only [next, Function.update_of_ne hclient] at h
      exact .inl h
  | perform o => exact .inl h

theorem Move.start_mem_of_deeds {moves : List Move} {position label : Nat} {time : String}
    {pod : PodRecord} {a : Attempt} (h : (label, .sync time pod a) ∈ deeds begun position moves) :
    (∃ client, begun client = some (pod, a)) ∨ ∃ client, .start client pod a ∈ moves := by
  induction moves generalizing begun position with
  | nil => cases h
  | cons m rest ih =>
    have hnext (hlater : (label, .sync time pod a) ∈
        deeds (m.next Prod.mk begun) (position + 1) rest) :
        (∃ client, begun client = some (pod, a)) ∨ ∃ client, .start client pod a ∈ m :: rest := by
      rcases ih hlater with ⟨client, hclient⟩ | ⟨client, hmem⟩
      · rcases m.begun_of_next hclient with hbegun | rfl
        · exact .inl ⟨client, hbegun⟩
        · exact .inr ⟨client, List.mem_cons_self⟩
      · exact .inr ⟨client, List.mem_cons_of_mem m hmem⟩
    cases hd : m.deed? begun with
    | none =>
      simp only [deeds, hd] at h
      exact hnext h
    | some d =>
      simp only [deeds, hd] at h
      rcases List.mem_cons.1 h with heq | hlater
      · cases heq
        cases m with
        | start client pod' a' => cases hd
        | perform o => cases hd
        | write client time' =>
          obtain ⟨⟨pod', a'⟩, hbegun, heq⟩ := Option.map_eq_some_iff.1 hd
          cases heq
          exact .inl ⟨client, hbegun⟩
      · exact hnext hlater

end Steps

namespace Deed

variable {Version : PodRecord → Prop}

theorem Revised.perform_eq {d d' : Deed} (h : Revised Version d d')
    (hversion : ∀ time pod a, d = .sync time pod a →
      ∀ pod', Version pod' → pod'.id = pod.id → pod.SamePod pod') (s : σ) :
    (d.perform s).answer = (d'.perform s).answer ∧ (d.perform s).store = (d'.perform s).store ∧
      (d.perform s).events = (d'.perform s).events := by
  cases h with
  | same d => exact ⟨rfl, rfl, rfl⟩
  | @version time a pod pod' hid hpod' =>
    have hsame := hversion time pod a rfl pod' hpod' hid
    have hrun := congrArg Operation.settled (hsame.run s time a)
    exact ⟨congrArg Performed.answer hrun, congrArg Performed.store hrun,
      congrArg Performed.events hrun⟩

theorem performAll_congr {ds ds' : List (Nat × Deed)} (s : σ)
    (h : List.Forall₂ (fun a b ↦ a.1 = b.1 ∧
      ∀ s : σ, (a.2.perform s).answer = (b.2.perform s).answer ∧
        (a.2.perform s).store = (b.2.perform s).store ∧
        (a.2.perform s).events = (b.2.perform s).events) ds ds') :
    performAll s ds = performAll s ds' := by
  induction h generalizing s with
  | nil => rfl
  | @cons a b ds ds' hab _ ih =>
    obtain ⟨label, d⟩ := a
    obtain ⟨_, d'⟩ := b
    obtain ⟨rfl, hperform⟩ := hab
    obtain ⟨hanswer, hstore, hevents⟩ := hperform s
    simp only [performAll, Performed.before, hanswer, hstore, hevents, ih]

/-- A sync that finds nothing to write ends the same way on any store, and leaves it alone. -/
theorem perform_of_idle {d : Deed} (h : d.writes = false) :
    ∃ answer, ∀ (σ : Type) [PodStore σ] (s : σ), (d.perform s).answer = answer ∧
      (d.perform s).store = s ∧ (d.perform s).events = [] := by
  cases d with
  | operation o => cases h
  | sync time pod a =>
    have hnone : (Sync.attempt pod a).plan.toOption.isSome = false := h
    cases hplan : (Sync.attempt pod a).plan with
    | ok u =>
      rw [hplan] at hnone
      cases hnone
    | error e =>
      refine ⟨.reconciled (.error e), fun σ _ s ↦ ?_⟩
      obtain ⟨hanswer, hstore, hevents⟩ := (Sync.attempt pod a).commit_eq s time
      rw [hplan] at hanswer hstore hevents
      exact ⟨congrArg Answer.reconciled hanswer, hstore, hevents⟩

def idleAnswer (d : Deed) : Answer := (d.perform KeyedStore.empty).answer

theorem performAll_filter (ds : List (Nat × Deed)) (s : σ) :
    (performAll s ds).store = (performAll s (ds.filter (fun d ↦ d.2.writes))).store ∧
      (performAll s ds).events = (performAll s (ds.filter (fun d ↦ d.2.writes))).events ∧
      (performAll s ds).answers.Perm
        ((performAll s (ds.filter (fun d ↦ d.2.writes))).answers ++
          (ds.filter (fun d ↦ !d.2.writes)).map (fun d ↦ (d.1, d.2.idleAnswer))) := by
  induction ds generalizing s with
  | nil => exact ⟨rfl, rfl, .refl _⟩
  | cons entry rest ih =>
    obtain ⟨label, d⟩ := entry
    cases hd : d.writes with
    | true =>
      obtain ⟨hstore, hevents, hanswers⟩ := ih (d.perform s).store
      simp only [List.filter_cons, hd, performAll, Performed.before, ↓reduceIte, Bool.not_true,
        Bool.false_eq_true, List.cons_append]
      exact ⟨hstore, by rw [hevents], hanswers.cons _⟩
    | false =>
      -- an idle sync only adds its answer, which may then stand behind all others
      obtain ⟨answer, hidle⟩ := perform_of_idle hd
      obtain ⟨hanswer, hsame, hnone⟩ := hidle σ s
      obtain ⟨hstore, hevents, hanswers⟩ := ih s
      have hidleAnswer : d.idleAnswer = answer := (hidle KeyedStore .empty).1
      simp only [List.filter_cons, hd, performAll, Performed.before, ↓reduceIte, Bool.not_false,
        Bool.false_eq_true, List.map_cons, hanswer, hsame, hnone, hidleAnswer, List.nil_append]
      exact ⟨hstore, hevents, (hanswers.cons _).trans List.perm_middle.symm⟩

/-- Whatever order deeds are brought into that keeps the order of those that may write, they come to
the same. -/
theorem performAll_perm {ds ds' : List (Nat × Deed)} (hperm : ds.Perm ds')
    (hwrites : ds.filter (fun d ↦ d.2.writes) = ds'.filter (fun d ↦ d.2.writes)) (s : σ) :
    (performAll s ds).answers.Perm (performAll s ds').answers ∧
      (performAll s ds).store = (performAll s ds').store ∧
      (performAll s ds).events = (performAll s ds').events := by
  obtain ⟨hstore, hevents, hanswers⟩ := performAll_filter ds s
  obtain ⟨hstore', hevents', hanswers'⟩ := performAll_filter ds' s
  rw [← hwrites] at hstore' hevents' hanswers'
  have hidle := (hperm.filter (fun d ↦ !d.2.writes)).map (fun d ↦ (d.1, d.2.idleAnswer))
  exact ⟨hanswers.trans ((hidle.append_left _).trans hanswers'.symm), hstore.trans hstore'.symm,
    hevents.trans hevents'.symm⟩

/-- A sequence of the same deeds comes to the same, as long as the versions of a record agree on
what a discovery asks for. -/
theorem Serializes.performAll {ds sequence : List (Nat × Deed)} (h : Serializes Version ds sequence)
    (hversion : ∀ label time pod a, (label, sync time pod a) ∈ ds →
      ∀ pod', Version pod' → pod'.id = pod.id → pod.SamePod pod') (s : σ) :
    (Deed.performAll s sequence).answers.Perm (Deed.performAll s ds).answers ∧
      (Deed.performAll s sequence).store = (Deed.performAll s ds).store ∧
      (Deed.performAll s sequence).events = (Deed.performAll s ds).events := by
  obtain ⟨revised, hrevised, hperm, hwrites⟩ := h
  have hsame : Deed.performAll s ds = Deed.performAll s revised := by
    refine performAll_congr s ?_
    have hmem := List.forall₂_iff_zip.1 hrevised
    refine List.forall₂_iff_zip.2 ⟨hmem.1, fun {a b} hab ↦ ?_⟩
    obtain ⟨hlabel, hrev⟩ := hmem.2 hab
    refine ⟨hlabel, fun s ↦ hrev.perform_eq (fun time pod a' ha ↦ ?_) s⟩
    refine hversion a.1 time pod a' ?_
    rw [← ha]
    exact (List.of_mem_zip hab).1
  rw [hsame]
  exact performAll_perm hperm hwrites s

end Deed

end Runs

end PodInventory
