import PodInventory.Proofs.Address
import PodInventory.Proofs.Json.Decoding
import PodInventory.Proofs.Json.Reading

namespace PodInventory.Decode

open Document

variable {α : Type} {d : Decoder α} {j : Json} {a : α} {n : Node}

/-- A reader gets a value from every node that holds a piece of JSON. -/
def Gets (d : Decoder α) (j : Json) (a : α) : Prop := ∀ n, Holds n j → d n = .ok a

theorem holds_null (h : Holds n .null) : ∃ e, n = .null e := by
  cases n with
  | null e => exact ⟨e, rfl⟩
  | list o p is => simp [Holds, json, Except.map] at h; split at h <;> cases h
  | object o p ms => simp [Holds, json, Except.map] at h; split at h <;> cases h
  | _ => cases h

theorem holds_bool {b : Bool} (h : Holds n (.bool b)) : ∃ e, n = .bool e b := by
  cases n with
  | bool e c =>
    cases h
    exact ⟨e, rfl⟩
  | list o p is => simp [Holds, json, Except.map] at h; split at h <;> cases h
  | object o p ms => simp [Holds, json, Except.map] at h; split at h <;> cases h
  | _ => cases h

theorem bool_inverts (b : Bool) : Inverts bool .bool b := by
  intro n h
  obtain ⟨e, rfl⟩ := holds_bool h
  rfl

theorem orNull_ipAddress_inverts (o : Option Address) :
    Inverts (orNull ipAddress) (.optional (fun a ↦ .text a.toText)) o := by
  intro n h
  cases o with
  | none =>
    obtain ⟨e, rfl⟩ := holds_null h
    rfl
  | some a =>
    obtain ⟨e, rfl⟩ := holds_text h
    simp only [orNull, ipAddress, a.ofText?_toText]
    rfl

mutual

/-- A value that never was text holds itself, wherever it came from. -/
theorem holds_ofValue (origin : Origin) : ∀ j, Holds (ofValue origin j) j
  | .null => rfl
  | .bool _ => rfl
  | .number _ => rfl
  | .text _ => rfl
  | .list xs => by simp only [Holds, ofValue, json, jsonItems_ofItems origin xs, Except.map]
  | .object ms => by simp only [Holds, ofValue, json, jsonMembers_ofMembers origin ms, Except.map]

theorem jsonItems_ofItems (origin : Origin) : ∀ xs, jsonItems (ofItems origin xs) = .ok xs
  | [] => rfl
  | x :: xs => by
    have hx : json (ofValue origin x) = .ok x := holds_ofValue origin x
    simp only [ofItems, jsonItems, hx, jsonItems_ofItems origin xs, Except.map]

theorem jsonMembers_ofMembers (origin : Origin) :
    ∀ ms, jsonMembers (ofMembers origin ms) = .ok ms
  | [] => rfl
  | (k, v) :: ms => by
    have hv : json (ofValue origin v) = .ok v := holds_ofValue origin v
    simp only [ofMembers, jsonMembers, hv, jsonMembers_ofMembers origin ms, Except.map]

end

section Ordered

theorem orderedItems_eq (xs : List Json) : orderedItems xs = xs.map ordered := by
  induction xs with
  | nil => rfl
  | cons x xs ih => rw [orderedItems, ih, List.map_cons]

theorem orderedMembers_eq (ms : List (String × Json)) :
    orderedMembers ms = ms.map (fun m ↦ (m.1, ordered m.2)) := by
  induction ms with
  | nil => rfl
  | cons m ms ih => rw [orderedMembers, ih, List.map_cons]

theorem ordered_list (encode : α → Json) (as : List α) :
    ordered (.list (as.map encode)) = .list (as.map (fun a ↦ ordered (encode a))) := by
  rw [ordered, orderedItems_eq, List.map_map]
  rfl

/-- The keys of a dictionary are in order as they are. -/
theorem ordered_dict (encode : α → Json) (m : Dict α) :
    ordered (.dict encode m) = .dict (fun a ↦ ordered (encode a)) m := by
  have hentries : m.entries.map (fun e ↦ (e.1, ordered (encode e.2))) =
      (m.map (fun a ↦ ordered (encode a))).entries := rfl
  rw [Json.dict, ordered, orderedMembers_eq, List.map_map, Json.dict]
  exact congrArg Json.object (hentries ▸ congrArg Dict.entries (Dict.ofList_entries _))

theorem ordered_object {ms : List (String × Json)} (h : (ms.map Prod.fst).Nodup) :
    ∃ ms', ordered (.object ms) = .object ms' ∧
      ms'.Perm (ms.map (fun m ↦ (m.1, ordered m.2))) := by
  rw [ordered, orderedMembers_eq]
  refine ⟨_, rfl, Dict.entries_ofList_perm ?_⟩
  rw [List.map_map]
  exact h

end Ordered

section Layouts

theorem Field.accepts_of (name : String) (h : Gets d j a) : (Field.of name d).Accepts (name, j) :=
  ⟨rfl, fun n hn ↦ by simp only [Field.of, probe, h n hn, Except.map]⟩

theorem Field.accepts_defaulted (name : String) (h : Gets d j a) :
    (Field.defaulted name d).Accepts (name, j) := Field.accepts_of name h

theorem Field.accepts_nullable (name : String) (h : Gets d j a) :
    (Field.nullable name d).Accepts (name, j) := Field.accepts_of name h

def Fields.Hold (fields : Fields) (ms : List (String × Json)) : Prop :=
  ∀ m ∈ ms, ∃ n, fields.lookup m.1 = some n ∧ Holds n m.2

variable {fields : Fields} {ms : List (String × Json)}

theorem Fields.hold_zip {nodes : List Node} (hn : (ms.map Prod.fst).Nodup)
    (h : List.Forall₂ (fun m n ↦ Holds n m.2) ms nodes) :
    Fields.Hold ((ms.map Prod.fst).zip nodes) ms := by
  induction h with
  | nil => exact fun _ h ↦ nomatch h
  | @cons m n ms nodes hm _ ih =>
    obtain ⟨hnew, hn⟩ := List.nodup_cons.1 (by simpa only [List.map_cons] using hn)
    intro m' hm'
    rw [List.map_cons, List.zip_cons_cons, List.lookup_cons]
    rcases List.mem_cons.1 hm' with rfl | hm'
    · rw [beq_self_eq_true]
      exact ⟨n, rfl, hm⟩
    · have hne : m'.1 ≠ m.1 := fun heq ↦ hnew (heq ▸ List.mem_map_of_mem hm')
      rw [beq_eq_false_iff_ne.2 hne]
      exact ih hn m' hm'

theorem Fields.Hold.need (h : fields.Hold ms) (name : String) (hm : (name, j) ∈ ms)
    (hd : Gets d j a) : fields.need name d = .ok a := by
  obtain ⟨n, hlookup, hn⟩ := h _ hm
  rw [Fields.need, hlookup]
  exact hd n hn

theorem Fields.Hold.getD (h : fields.Hold ms) (name : String) (hm : (name, j) ∈ ms)
    (hd : Gets d j a) (default : α) : fields.getD name d default = .ok a := by
  obtain ⟨n, hlookup, hn⟩ := h _ hm
  rw [Fields.getD, hlookup]
  exact hd n hn

/-- The two ways to write down a record with these members: as an object, in any order, or as the
list of what its fields hold. -/
inductive Layout.Shows (l : Layout) (ms : List (String × Json)) : Json → Prop
  | object {ms' : List (String × Json)} (h : ms'.Perm ms) : l.Shows ms (.object ms')
  | list (h : l.positional = true) : l.Shows ms (.list (ms.map Prod.snd))

variable {l : Layout}

theorem Layout.Shows.ordered (h : l.Shows ms j) (hn : (ms.map Prod.fst).Nodup) :
    l.Shows (ms.map (fun m ↦ (m.1, Decode.ordered m.2))) (Decode.ordered j) := by
  cases h with
  | @object ms' hperm =>
    obtain ⟨ms'', heq, hperm'⟩ := ordered_object ((hperm.map _).nodup_iff.2 hn)
    rw [heq]
    exact .object (hperm'.trans (hperm.map _))
  | list hpositional =>
    have hlist : Decode.ordered (.list (ms.map Prod.snd)) =
        .list ((ms.map (fun m ↦ (m.1, Decode.ordered m.2))).map Prod.snd) := by
      rw [ordered_list, List.map_map]
      rfl
    rw [hlist]
    exact .list hpositional

theorem Layout.Covered.perm {ms' : List (String × Json)} (h : l.Covered [] ms)
    (hperm : ms'.Perm ms) : l.Covered [] ms' where
  known m hm := h.known m (hperm.mem_iff.1 hm)
  distinct := (hperm.map _).nodup_iff.2 h.distinct
  apart _ _ := rfl
  complete f hf hr := (h.complete f hf hr).imp_right (hperm.map _).mem_iff.2

theorem Layout.readItems_of_accepts (l : Layout) (origin : Origin) (expected : String)
    {rest : List Field} (h : List.Forall₂ Field.Accepts rest ms) (read : Fields) (is : Items)
    (his : jsonItems is = .ok (ms.map Prod.snd)) :
    ∃ nodes, List.Forall₂ (fun m n ↦ Holds n m.2) ms nodes ∧
      l.readItems origin expected rest read is = .ok (read ++ (ms.map Prod.fst).zip nodes) := by
  induction h generalizing read is with
  | nil =>
    obtain ⟨halt, rfl⟩ := jsonItems_nil his
    refine ⟨[], .nil, ?_⟩
    rw [List.map_nil, List.zip_nil_left, List.append_nil]
    rfl
  | @cons f m rest ms hf _ ih =>
    obtain ⟨halt, head, tail, rfl, hhead, htail⟩ := jsonItems_cons his
    obtain ⟨nodes, hnodes, hread⟩ := ih (read ++ [(f.name, head)]) tail htail
    refine ⟨head :: nodes, .cons hhead hnodes, ?_⟩
    simp only [readItems, bind, Except.bind, hf.2 head hhead, hread]
    simp [hf.1]

/-- A layout reads its fields from either form of a record. -/
theorem Layout.read_of_shows (h : List.Forall₂ Field.Accepts l.fields ms)
    (hn : (ms.map Prod.fst).Nodup) (hj : l.Shows ms j) (hh : Holds n j) :
    ∃ fields, l.read n = .ok fields ∧ fields.Hold ms := by
  cases hj with
  | @object ms' hperm =>
    obtain ⟨o, start, members, rfl, hmembers⟩ := holds_object hh
    obtain ⟨nodes, hnodes, hread⟩ := l.readMembers_of_covered ms' members [] hmembers
      ((Layout.covered_of_accepts h hn).perm hperm)
    have hhold := Fields.hold_zip ((hperm.map _).nodup_iff.2 hn) hnodes
    exact ⟨_, hread, fun m hm ↦ hhold m (hperm.mem_iff.2 hm)⟩
  | list hpositional =>
    obtain ⟨o, start, is, rfl, his⟩ := holds_list hh
    obtain ⟨nodes, hnodes, hread⟩ := l.readItems_of_accepts o l.expectedLength h [] is his
    refine ⟨_, ?_, Fields.hold_zip hn hnodes⟩
    rw [read, if_pos hpositional, hread]
    rfl

end Layouts

/-- A reader gets every value back from its encoding, whether the members of objects are as they
were written or in ascending order. -/
structure Recovers (d : Decoder α) (encode : α → Json) : Prop where
  written : ∀ a, Inverts d encode a
  sorted : ∀ a, Inverts d (fun a ↦ ordered (encode a)) a

theorem string_recovers : Recovers string .text := ⟨string_inverts, string_inverts⟩

theorem bool_recovers : Recovers bool .bool := ⟨bool_inverts, bool_inverts⟩

theorem list_recovers {encode : α → Json} (h : Recovers d encode) :
    Recovers (list d) (fun as ↦ .list (as.map encode)) where
  written _ := list_inverts (fun a _ ↦ h.written a)
  sorted as := by
    simp only [Inverts, ordered_list]
    exact list_inverts (fun a _ ↦ h.sorted a)

theorem dict_recovers {encode : α → Json} (h : Recovers d encode) :
    Recovers (dict d) (.dict encode) where
  written _ := dict_inverts (fun e _ ↦ h.written e.2)
  sorted m := by
    simp only [Inverts, ordered_dict]
    exact dict_inverts (fun e _ ↦ h.sorted e.2)

/-- Readers of records with certain members that take both forms of a record. -/
structure Layout.Takes (l : Layout) (d : Decoder α) (members : α → List (String × Json)) :
    Prop where
  names : ∀ a, ((members a).map Prod.fst).Nodup
  written : ∀ a j, l.Shows (members a) j → Gets d j a
  sorted : ∀ a j, l.Shows ((members a).map (fun m ↦ (m.1, ordered m.2))) j → Gets d j a

theorem Layout.Takes.object {l : Layout} {members : α → List (String × Json)}
    (h : l.Takes d members) : Recovers d (fun a ↦ .object (members a)) where
  written a := h.written a _ (.object (.refl _))
  sorted a := h.sorted a _ (Shows.ordered (.object (.refl _)) (h.names a))

theorem Layout.Takes.list {l : Layout} {members : α → List (String × Json)}
    (h : l.Takes d members) (hpositional : l.positional = true) :
    Recovers d (fun a ↦ .list ((members a).map Prod.snd)) where
  written a := h.written a _ (.list hpositional)
  sorted a := h.sorted a _ (Shows.ordered (.list hpositional) (h.names a))

/-- Every value of a type reads back from what it is written as: from the compact text, and from the
JSON value with its members as they were written or sorted. So no two values are written alike. -/
structure RoundTrips (d : Decoder α) (encode : α → Json) : Prop where
  text : ∀ a, ofText d (encode a).compactText = .ok a
  written : ∀ a, ofJson d (encode a) = .ok a
  value : ∀ a, ofJson d (ordered (encode a)) = .ok a
  distinct_texts : Function.Injective (fun a ↦ (encode a).compactText)
  distinct_values : Function.Injective (fun a ↦ ordered (encode a))

theorem Recovers.roundTrips {encode : α → Json} (h : Recovers d encode)
    (hfits : ∀ a, (encode a).Fits depthLimit) : RoundTrips d encode := by
  have htext : ∀ a, ofText d (encode a).compactText = .ok a :=
    fun a ↦ ofText_compactText d (hfits a) (h.written a)
  have hvalue : ∀ a, ofJson d (ordered (encode a)) = .ok a :=
    fun a ↦ h.sorted a _ (holds_ofValue .value _)
  refine ⟨htext, fun a ↦ h.written a _ (holds_ofValue .value _), hvalue, fun a b heq ↦ ?_,
    fun a b heq ↦ ?_⟩
  · exact Except.ok.inj ((htext a).symm.trans ((congrArg (ofText d) heq).trans (htext b)))
  · exact Except.ok.inj ((hvalue a).symm.trans ((congrArg (ofJson d) heq).trans (hvalue b)))

end PodInventory.Decode
