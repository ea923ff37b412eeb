import PodInventory.Proofs.Json.Decoding
import PodInventory.Proofs.Json.Tracing

namespace PodInventory.Grammar

open Decode Document Scan

variable {α : Type} {s : String} {v : Value}

theorem trailing_blanks (after : Blanks) (place : Place) :
    trailing (some ⟨after.chars, place⟩) = .ok () := by
  obtain ⟨blanks, hblank⟩ := after
  suffices hskip : ∀ place, (Cursor.skip ⟨blanks, place⟩).rest = [] by
    simp [trailing, hskip]
  induction blanks with
  | nil => exact fun _ ↦ rfl
  | cons b blanks ih =>
    obtain ⟨hb, hblanks⟩ := List.forall_mem_cons.1 hblank
    intro place
    rw [Cursor.skip, Cursor.skipBlanks, if_pos hb]
    exact ih hblanks (place.after b)

theorem blanks_of_trailing {c : Cursor} (h : trailing (some c) = .ok ()) :
    ∃ after : Blanks, c.rest = after.chars := by
  obtain ⟨after, hafter⟩ := exists_blanks c
  rw [trailing] at h
  split at h
  · rename_i hempty
    rw [List.isEmpty_iff.1 hempty, List.append_nil] at hafter
    exact ⟨after, hafter⟩
  · cases h

/-- The value of a document is read, and nothing is left behind it. -/
theorem Spells.shows (h : Spells s v) :
    ∃ n rest, Document.ofText s = (n, rest) ∧ trailing rest = .ok () ∧ Shows 0 n v := by
  obtain ⟨before, after, hs⟩ := h
  have hlength : v.chars.length ≤ 2 * s.toList.length + 2 := by
    rw [hs, List.length_append, List.length_append]
    omega
  have hends : EndsNumeral after.chars := by
    have h : EndsNumeral [] := fun _ _ h ↦ nomatch h
    simpa using endsNumeral_blanks after h
  obtain ⟨n, place, hn, hshows⟩ := passesValue_blanks before
    (fun place ↦ passesValue_node v _ 0 after.chars place hlength hends) ⟨1, 0⟩
  refine ⟨n, some ⟨after.chars, place⟩, ?_, trailing_blanks after place, hshows⟩
  rw [← List.append_assoc, ← hs] at hn
  exact hn

/-- What is passed over to the end of a text is a document. -/
theorem spells_of_skip {n : Node} {rest : Option Cursor} (hs : Document.ofText s = (n, rest))
    (hn : n.skip = .ok ()) (hrest : trailing rest = .ok ()) : ∃ v, Spells s v := by
  have htraces := (traces_all (2 * (Cursor.start s).rest.length + 2)).1 0 (Cursor.start s)
  rw [← Document.ofText, hs] at htraces
  cases htraces with
  | stopped hstop =>
    rw [hn] at hstop
    cases hstop
  | passed hform htext =>
    obtain ⟨before, v, rfl⟩ := hform
    obtain ⟨after, hafter⟩ := blanks_of_trailing hrest
    exact ⟨v, before, after, by rw [← hafter]; exact htext⟩

/-- A reader that passes over faults only where every reader does accepts just the documents whose
values mean something to it. -/
theorem ofText_eq_ok_iff {d : Decoder α} {F : Value → α → Prop} {a : α}
    (hskip : ∀ {n}, d n = .ok a → n.skip = .ok ())
    (hd : ∀ {n v}, Shows 0 n v → (d n = .ok a ↔ F v a)) :
    Decode.ofText d s = .ok a ↔ ∃ v, Spells s v ∧ F v a := by
  constructor
  · intro h
    obtain ⟨⟨n, rest⟩, hstep⟩ : ∃ step, Document.ofText s = step := ⟨_, rfl⟩
    rw [Decode.ofText, hstep] at h
    obtain ⟨a', ha, h⟩ := bind_eq_ok_iff.1 h
    obtain ⟨⟨⟩, hrest, h⟩ := bind_eq_ok_iff.1 h
    obtain rfl := Except.ok.inj h
    obtain ⟨v, hv⟩ := spells_of_skip hstep (hskip ha) hrest
    obtain ⟨n', rest', hstep', -, hshows⟩ := hv.shows
    rw [hstep] at hstep'
    cases hstep'
    exact ⟨v, hv, (hd hshows).1 ha⟩
  · rintro ⟨v, hv, ha⟩
    obtain ⟨n, rest, hstep, hrest, hshows⟩ := hv.shows
    rw [Decode.ofText, hstep]
    simp only [(hd hshows).2 ha, hrest]
    rfl

end PodInventory.Grammar
