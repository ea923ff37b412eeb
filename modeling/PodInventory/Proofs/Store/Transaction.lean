import PodInventory.Proofs.Store.Connection
import PodInventory.Store.Table

namespace PodInventory.TableStore

open Connection

variable {α : Type}

/-- All statements that a transaction comes to, should none of them fail. -/
def Transaction.script (x : Transaction α) (t : Tables) : List Statement :=
  .begin :: x.reads ++ match x.body t with
    | .ok draft => draft.statements
    | .error _ => []

/-- A transaction that commits only as its very last step, and only with a success. -/
structure Transaction.Tidy (x : Transaction α) : Prop where
  reads : ∀ st ∈ x.reads, st.LooksUp
  last : ∀ t draft, x.body t = .ok draft → .commit ∉ draft.statements.dropLast
  failed : ∀ t draft e, x.body t = .ok draft → draft.answer = .error e →
    .commit ∉ draft.statements

/-- The message of a statement of a script that fails where the statements before it lead. -/
def failureAt? (s : TableStore) (script : List Statement) (i : Nat) (st : Statement) :
    Option String :=
  ((opened s.tables).through (script.take i)).failure? s.refuses i st

theorem dropping_eq_self {s : TableStore} {c : Connection} (h : c.committed = s.tables) :
    s.dropping c = s := by
  rw [dropping, h]

variable {s : TableStore} {x : Transaction α}

section Tidy

variable (hx : x.Tidy)

include hx

theorem Transaction.Tidy.commit_not_mem_reads : .commit ∉ .begin :: x.reads := by
  intro hor
  rcases hor with _ | ⟨_, h⟩
  exact hx.reads _ h

theorem Transaction.Tidy.through_reads (t : Tables) :
    (opened t).through (.begin :: x.reads) = opened t := by
  have h := (opened t).through_of_looksUp hx.reads
  exact h

/-- A transaction as one run of its whole script. One that fails leaves the store as it was, and
tells nobody. -/
theorem transact_eq :
    s.transact x =
      match ((opened s.tables).perform s.refuses 0 (x.script s.tables)).1 with
      | some message => { answer := .error (.internal message), store := s }
      | none =>
        match x.body s.tables with
        | .error e => { answer := .error e, store := s }
        | .ok draft =>
          match draft.answer with
          | .error e => { answer := .error e, store := s }
          | .ok a =>
            { answer := .ok a
              store := s.dropping ((opened s.tables).through draft.statements)
              events := draft.events
              notes := draft.notes } := by
  have hcommitted :
      ((opened s.tables).perform s.refuses 0 (.begin :: x.reads)).2.committed = s.tables :=
    perform_committed hx.commit_not_mem_reads 0 (opened s.tables)
  rw [transact, Transaction.script]
  cases hreads : ((opened s.tables).perform s.refuses 0 (.begin :: x.reads)).1 with
  | some message =>
    rw [perform_append_of_fails _ _ _ _ hreads, hreads]
    generalize (opened s.tables).perform s.refuses 0 (.begin :: x.reads) = r at hreads hcommitted ⊢
    obtain ⟨message', c⟩ := r
    cases hreads
    simp only [failing, dropping_eq_self hcommitted]
  | none =>
    have hsnd := (perform_snd_of_none hreads).trans (hx.through_reads _)
    rw [perform_append _ _ _ _ hreads, hx.through_reads]
    generalize (opened s.tables).perform s.refuses 0 (.begin :: x.reads) = r at hreads hsnd ⊢
    obtain ⟨_, c⟩ := r
    obtain rfl : _ = none := hreads
    obtain rfl : c = opened s.tables := hsnd
    simp only [show (opened s.tables).working = s.tables from rfl, List.length_cons, Nat.zero_add]
    cases hbody : x.body s.tables with
    | error e =>
      have hstays : (opened s.tables).committed = s.tables := rfl
      simp only [failing, dropping_eq_self hstays, perform]
    | ok draft =>
      simp only
      cases hrest :
          ((opened s.tables).perform s.refuses (x.reads.length + 1) draft.statements).1 with
      | some message =>
        have hstays := perform_committed_of_fails (hx.last _ _ hbody) hrest
        generalize (opened s.tables).perform s.refuses (x.reads.length + 1) draft.statements = r
          at hrest hstays ⊢
        obtain ⟨_, c⟩ := r
        obtain rfl : _ = some message := hrest
        simp only [failing, dropping_eq_self hstays]
      | none =>
        have hthrough := perform_snd_of_none hrest
        generalize (opened s.tables).perform s.refuses (x.reads.length + 1) draft.statements = r
          at hrest hthrough ⊢
        obtain ⟨_, c⟩ := r
        obtain rfl : _ = none := hrest
        obtain rfl : c = _ := hthrough
        cases ha : draft.answer with
        | ok a => rfl
        | error e =>
          have hstays := through_committed (hx.failed _ _ _ hbody ha) (opened s.tables)
          simp only [failing, dropping_eq_self hstays]

end Tidy

theorem Transaction.Tidy.through_script (hx : x.Tidy) {t : Tables} {draft : Draft α}
    (hbody : x.body t = .ok draft) :
    (opened t).through (x.script t) = (opened t).through draft.statements := by
  rw [Transaction.script, hbody, through, List.foldl_append]
  exact congrArg (through · draft.statements) (hx.through_reads t)

theorem transact_keyed (hx : x.Tidy) (hs : s.tables.Keyed) :
    (s.transact x).store.tables.Keyed := by
  rw [transact_eq hx]
  cases hperform : ((opened s.tables).perform s.refuses 0 (x.script s.tables)).1 with
  | some message => exact hs
  | none =>
    cases hbody : x.body s.tables with
    | error e => exact hs
    | ok draft =>
      cases ha : draft.answer with
      | error e =>
        simp only [ha]
        exact hs
      | ok a =>
        have hopened : (opened s.tables).Keyed := ⟨hs, hs⟩
        have hkeyed : ((opened s.tables).perform s.refuses 0 (x.script s.tables)).2.Keyed :=
          hopened.perform 0 _
        rw [perform_snd_of_none hperform, hx.through_script hbody] at hkeyed
        simp only [ha]
        exact hkeyed.committed

/-- A transaction does not touch what the database refuses. -/
theorem refuses_transact (s : TableStore) (x : Transaction α) :
    (s.transact x).store.refuses = s.refuses := by
  unfold transact
  split
  · rfl
  · split
    · rfl
    · split
      · rfl
      · split
        · rfl
        · rfl

theorem tidy_creation (id : PodId) (time : String) (pod : NewPod) :
    (creation id time pod).Tidy where
  reads st hst := by
    obtain rfl := List.mem_singleton.1 hst
    trivial
  last t draft h := by
    simp only [creation] at h
    split at h
    · cases h
    · cases h
      simp
  failed t draft e h he := by
    simp only [creation] at h
    split at h
    · cases h
    · cases h
      cases he

theorem commit_not_mem_replacement (r : PodRecord) : .commit ∉ (replacement r).dropLast := by
  rw [replacement, List.dropLast_concat]
  simp

theorem tidy_change (time : String) (id : PodId) (u : Update) : (change time id u).Tidy where
  reads st hst := by
    obtain rfl := List.mem_singleton.1 hst
    trivial
  last t draft h := by
    simp only [change, bind, Except.bind] at h
    split at h
    · cases h
    · split at h
      · cases h
      · split at h
        · cases h
          exact commit_not_mem_replacement _
        · cases h
          simp
  failed t draft e h he := by
    simp only [change, bind, Except.bind] at h
    split at h
    · cases h
    · split at h
      · cases h
      · split at h
        · cases h
          cases he
        · cases h
          cases he

theorem tidy_deletion (id : PodId) : (deletion id).Tidy where
  reads st hst := nomatch hst
  last t draft h := by
    simp only [deletion] at h
    split at h
    · cases h
      simp
    · cases h
      simp
  failed t draft e h he := by
    simp only [deletion] at h
    split at h
    · cases h
      cases he
    · cases h
      simp

end PodInventory.TableStore
