import PodInventory.Json.Decode
import PodInventory.Proofs.Dict

namespace PodInventory.Decode

open Document

theorem bind_eq_ok_iff {ε β γ : Type} {x : Except ε β} {f : β → Except ε γ} {c : γ} :
    (x >>= f) = .ok c ↔ ∃ b, x = .ok b ∧ f b = .ok c := by
  cases x with
  | error e => exact iff_of_false (fun h ↦ nomatch h) (fun ⟨_, h, _⟩ ↦ nomatch h)
  | ok b => exact ⟨fun h ↦ ⟨b, rfl, h⟩, fun ⟨b', hb, h⟩ ↦ Except.ok.inj hb ▸ h⟩

/-- Whether a node holds a value, with no fault anywhere in it. -/
def Holds (n : Node) (j : Json) : Prop := json n = .ok j

section Shapes

variable {n : Node}

theorem holds_text {s : String} (h : Holds n (.text s)) : ∃ e, n = .text e s := by
  cases n with
  | text e t =>
    cases h
    exact ⟨e, rfl⟩
  | list o p is => simp [Holds, json, Except.map] at h; split at h <;> cases h
  | object o p ms => simp [Holds, json, Except.map] at h; split at h <;> cases h
  | _ => cases h

theorem holds_nat {k : Nat} (h : Holds n (.nat k)) : ∃ e, n = .number e (.integer k) := by
  cases n with
  | number e t =>
    cases h
    exact ⟨e, rfl⟩
  | list o p is => simp [Holds, json, Except.map] at h; split at h <;> cases h
  | object o p ms => simp [Holds, json, Except.map] at h; split at h <;> cases h
  | _ => cases h

theorem holds_list {xs : List Json} (h : Holds n (.list xs)) :
    ∃ o p is, n = .list o p is ∧ jsonItems is = .ok xs := by
  cases n with
  | list o p is =>
    simp only [Holds, json, Except.map] at h
    split at h
    · cases h
    · rename_i hjs
      cases h
      exact ⟨o, p, is, rfl, hjs⟩
  | object o p ms => simp [Holds, json, Except.map] at h; split at h <;> cases h
  | _ => cases h

theorem holds_object {kvs : List (String × Json)} (h : Holds n (.object kvs)) :
    ∃ o p ms, n = .object o p ms ∧ jsonMembers ms = .ok kvs := by
  cases n with
  | object o p ms =>
    simp only [Holds, json, Except.map] at h
    split at h
    · cases h
    · rename_i hjs
      cases h
      exact ⟨o, p, ms, rfl, hjs⟩
  | list o p is => simp [Holds, json, Except.map] at h; split at h <;> cases h
  | _ => cases h

end Shapes

theorem jsonItems_nil {is : Items} (h : jsonItems is = .ok []) : ∃ halt, is = .done halt := by
  cases is with
  | done halt => exact ⟨halt, rfl⟩
  | cut => cases h
  | item halt head tail =>
    simp only [jsonItems, Except.map] at h
    split at h
    · cases h
    · split at h <;> cases h

theorem jsonItems_cons {is : Items} {x : Json} {xs : List Json} (h : jsonItems is = .ok (x :: xs)) :
    ∃ halt head tail, is = .item halt head tail ∧ Holds head x ∧ jsonItems tail = .ok xs := by
  cases is with
  | done => cases h
  | cut => cases h
  | item halt head tail =>
    simp only [jsonItems, Except.map] at h
    split at h
    · cases h
    · rename_i hx
      split at h
      · cases h
      · rename_i hxs
        cases h
        exact ⟨halt, head, tail, rfl, hx, hxs⟩

theorem jsonMembers_nil {ms : Members} (h : jsonMembers ms = .ok []) : ∃ halt, ms = .done halt := by
  cases ms with
  | done halt => exact ⟨halt, rfl⟩
  | cut => cases h
  | member halt key value tail =>
    simp only [jsonMembers, Except.map] at h
    split at h
    · cases h
    · cases h
    · split at h <;> cases h

theorem jsonMembers_cons {ms : Members} {k : String} {v : Json} {kvs : List (String × Json)}
    (h : jsonMembers ms = .ok ((k, v) :: kvs)) :
    ∃ halt key value tail, ms = .member halt (.ok key) value tail ∧ key.name = k ∧
      Holds value v ∧ jsonMembers tail = .ok kvs := by
  cases ms with
  | done => cases h
  | cut => cases h
  | member halt key value tail =>
    simp only [jsonMembers, Except.map] at h
    split at h
    · cases h
    · cases h
    · rename_i hv
      split at h
      · cases h
      · rename_i hkvs
        cases h
        exact ⟨halt, _, value, tail, rfl, rfl, hv, hkvs⟩

/-- A reader gets a value back from every node that holds its encoding. -/
def Inverts {α : Type} (d : Decoder α) (encode : α → Json) (a : α) : Prop :=
  ∀ n, Holds n (encode a) → d n = .ok a

theorem string_inverts (s : String) : Inverts string .text s := by
  intro n h
  obtain ⟨e, rfl⟩ := holds_text h
  rfl

theorem natural_of_holds {width k : Nat} (hk : k < 1 <<< width) {n : Node} (h : Holds n (.nat k)) :
    natural width n = .ok k := by
  obtain ⟨e, rfl⟩ := holds_nat h
  simp [natural, hk]

theorem word32_inverts (w : UInt32) : Inverts word32 (fun w ↦ .nat w.toNat) w := by
  intro n h
  rw [word32, natural_of_holds (w.toNat_lt : w.toNat < 1 <<< 32) h]
  simp [Except.map]

theorem word64_inverts (w : UInt64) : Inverts word64 (fun w ↦ .nat w.toNat) w := by
  intro n h
  rw [word64, natural_of_holds (w.toNat_lt : w.toNat < 1 <<< 64) h]
  simp [Except.map]

theorem list_inverts {α : Type} {d : Decoder α} {encode : α → Json} {as : List α}
    (h : ∀ a ∈ as, Inverts d encode a) : Inverts (list d) (fun as ↦ .list (as.map encode)) as := by
  have hitems : ∀ as, (∀ a ∈ as, Inverts d encode a) → ∀ is,
      jsonItems is = .ok (as.map encode) → items d is = .ok as := by
    intro as
    induction as with
    | nil =>
      intro _ is his
      obtain ⟨halt, rfl⟩ := jsonItems_nil his
      rfl
    | cons a as ih =>
      intro h is his
      obtain ⟨halt, head, tail, rfl, hhead, htail⟩ := jsonItems_cons his
      rw [items, h a (by simp) head hhead, ih (fun b hb ↦ h b (by simp [hb])) tail htail]
      rfl
  intro n hn
  obtain ⟨o, p, is, rfl, his⟩ := holds_list hn
  exact hitems as h is his

theorem dict_inverts {α : Type} {d : Decoder α} {encode : α → Json} {m : Dict α}
    (h : ∀ e ∈ m.entries, Inverts d encode e.2) : Inverts (dict d) (.dict encode) m := by
  have hmembers : ∀ l : List (String × α), (∀ e ∈ l, Inverts d encode e.2) → ∀ ms read,
      jsonMembers ms = .ok (l.map (fun e ↦ (e.1, encode e.2))) →
        members d read ms = .ok (l.foldl (fun m e ↦ m.insert e.1 e.2) read) := by
    intro l
    induction l with
    | nil =>
      intro _ ms read hms
      obtain ⟨halt, rfl⟩ := jsonMembers_nil hms
      rfl
    | cons e l ih =>
      intro h ms read hms
      obtain ⟨halt, key, value, tail, rfl, hkey, hvalue, htail⟩ := jsonMembers_cons hms
      rw [members, h e (by simp) value hvalue, List.foldl_cons, ← hkey]
      exact ih (fun e he ↦ h e (by simp [he])) tail _ htail
  intro n hn
  obtain ⟨o, p, ms, rfl, hms⟩ := holds_object hn
  rw [dict, hmembers m.entries h ms .empty hms]
  exact congrArg Except.ok (Dict.ofList_entries m)

/-- Members that are the fields of a layout, each of them once and none left out. -/
structure Layout.Covered (l : Layout) (read : Fields) (kvs : List (String × Json)) : Prop where
  known : ∀ kv ∈ kvs, ∃ f, l.fields.find? (fun f ↦ f.name == kv.1) = some f ∧
    ∀ n, Holds n kv.2 → f.check n = .ok ()
  distinct : (kvs.map Prod.fst).Nodup
  apart : ∀ kv ∈ kvs, (read.lookup kv.1) = none
  complete : ∀ f ∈ l.fields, f.required = true →
    (read.lookup f.name).isSome ∨ f.name ∈ kvs.map Prod.fst

theorem Layout.Covered.tail {l : Layout} {read : Fields} {k : String} {v : Json} {n : Node}
    {kvs : List (String × Json)} (h : l.Covered read ((k, v) :: kvs)) :
    l.Covered (read ++ [(k, n)]) kvs where
  known kv hkv := h.known kv (List.mem_cons_of_mem _ hkv)
  distinct := (List.nodup_cons.1 h.distinct).2
  apart kv hkv := by
    have hne : kv.1 ≠ k := by
      rintro rfl
      exact (List.nodup_cons.1 h.distinct).1 (List.mem_map.2 ⟨kv, hkv, rfl⟩)
    rw [List.lookup_append, h.apart kv (List.mem_cons_of_mem _ hkv), List.lookup_cons,
      beq_eq_false_iff_ne.2 hne]
    rfl
  complete f hf hr := by
    rcases h.complete f hf hr with hsome | hmem
    · left
      rw [List.lookup_append]
      simp [hsome]
    · rcases List.mem_cons.1 hmem with heq | hmem
      · left
        rw [List.lookup_append, heq, List.lookup_cons_self]
        simp
      · exact .inr hmem

/-- A layout reads members that cover it into its fields, in the order of the members. -/
theorem Layout.readMembers_of_covered (l : Layout) (kvs : List (String × Json)) :
    ∀ (ms : Members) (read : Fields), jsonMembers ms = .ok kvs → l.Covered read kvs →
      ∃ nodes, List.Forall₂ (fun kv n ↦ Holds n kv.2) kvs nodes ∧
        l.readMembers read ms = .ok (read ++ (kvs.map Prod.fst).zip nodes) := by
  induction kvs with
  | nil =>
    intro ms read hms h
    obtain ⟨halt, rfl⟩ := jsonMembers_nil hms
    have hnone : l.fields.find? (fun f ↦ f.required && (read.lookup f.name).isNone) = none := by
      rw [List.find?_eq_none]
      intro f hf
      cases hr : f.required
      · simp
      · have hsome := (h.complete f hf hr).resolve_right (by simp)
        obtain ⟨n, hn⟩ := Option.isSome_iff_exists.1 hsome
        simp [hn]
    refine ⟨[], .nil, ?_⟩
    rw [readMembers, hnone]
    simp
  | cons kv kvs ih =>
    intro ms read hms h
    obtain ⟨k, v⟩ := kv
    obtain ⟨halt, key, value, tail, rfl, rfl, hvalue, htail⟩ := jsonMembers_cons hms
    obtain ⟨f, hf, hcheck⟩ := h.known _ List.mem_cons_self
    obtain ⟨nodes, hnodes, hread⟩ := ih tail _ htail (h.tail (n := value))
    refine ⟨value :: nodes, .cons hvalue hnodes, ?_⟩
    have hnone := h.apart _ List.mem_cons_self
    simp only [readMembers, bind, Except.bind, hf, hnone, Option.isSome_none, Bool.false_eq_true,
      ↓reduceIte, hcheck value hvalue, hread]
    simp

/-- A field accepts every node that holds a value. -/
def Field.Accepts (f : Field) (kv : String × Json) : Prop :=
  f.name = kv.1 ∧ ∀ n, Holds n kv.2 → f.check n = .ok ()

theorem names_of_accepts {fields : List Field} {kvs : List (String × Json)}
    (h : List.Forall₂ Field.Accepts fields kvs) : fields.map Field.name = kvs.map Prod.fst := by
  induction h with
  | nil => rfl
  | cons hf _ ih => rw [List.map_cons, List.map_cons, hf.1, ih]

theorem find?_of_accepts {fields : List Field} {kvs : List (String × Json)}
    (h : List.Forall₂ Field.Accepts fields kvs) (hn : (kvs.map Prod.fst).Nodup) :
    ∀ kv ∈ kvs, ∃ f, fields.find? (fun f ↦ f.name == kv.1) = some f ∧
      ∀ n, Holds n kv.2 → f.check n = .ok () := by
  induction h with
  | nil => simp
  | @cons f kv fields kvs hf _ ih =>
    obtain ⟨hk, hkvs⟩ := List.nodup_cons.1 (by simpa only [List.map_cons] using hn)
    intro kv' hkv'
    rcases List.mem_cons.1 hkv' with rfl | hkv'
    · exact ⟨f, List.find?_cons_of_pos (by simp [hf.1]), hf.2⟩
    · have hne : f.name ≠ kv'.1 := by
        rw [hf.1]
        exact fun heq ↦ hk (List.mem_map.2 ⟨kv', hkv', heq.symm⟩)
      rw [List.find?_cons_of_neg (by simp [hne])]
      exact ih hkvs kv' hkv'

/-- The fields of a layout in their own order, each with a value that it accepts. -/
theorem Layout.covered_of_accepts {l : Layout} {kvs : List (String × Json)}
    (h : List.Forall₂ Field.Accepts l.fields kvs) (hn : (kvs.map Prod.fst).Nodup) :
    l.Covered [] kvs where
  known := find?_of_accepts h hn
  distinct := hn
  apart _ _ := rfl
  complete f hf _ := by
    right
    rw [← names_of_accepts h]
    exact List.mem_map.2 ⟨f, hf, rfl⟩

end PodInventory.Decode
