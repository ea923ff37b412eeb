import PodInventory.Http.Exchange
import PodInventory.Proofs.Json.Exact

namespace PodInventory.Grammar

open Decode Document

/-- The values of all members of one name. -/
def Members.valuesOf (members : Members) (name : String) : List Value :=
  (members.entries.filter (fun e ↦ e.1 == some name)).map Prod.snd

/-- Whether a value is a text of these characters, however they are written. -/
def Value.IsText (s : String) (v : Value) : Prop := ∃ ps, v = .text ps ∧ textOf? ps = some s

/-- Whether a value tells a kind and a message: an object which has one member of either name among
any others, or a list of the two. -/
inductive Value.Tells (kind message : String) : Value → Prop
  | object {members : Members} {k m : Value} (hnames : ∀ e ∈ members.entries, e.1 ≠ none)
    (hkind : members.valuesOf "kind" = [k]) (hk : k.IsText kind)
    (hmessage : members.valuesOf "message" = [m]) (hm : m.IsText message) :
    Tells kind message (.object members)
  | list {items : Items} {k m : Value} (hitems : items.values = [k, m]) (hk : k.IsText kind)
    (hm : m.IsText message) : Tells kind message (.list items)

section Values

variable {before after beforeColon afterColon : Blanks} {ps : List Piece} {v : Value}
  {members : Members} {name : String}

theorem valuesOf_member_self (h : textOf? ps = some name) :
    (Members.member before after ps beforeColon afterColon v members).valuesOf name =
      v :: members.valuesOf name := by
  simp [Members.valuesOf, Members.entries, h]

theorem valuesOf_member_of_ne {other : String} (h : textOf? ps = some other) (hne : other ≠ name) :
    (Members.member before after ps beforeColon afterColon v members).valuesOf name =
      members.valuesOf name := by
  simp [Members.valuesOf, Members.entries, h, hne]

end Values

theorem string_iff {depth : Nat} {n : Node} {v : Value} {s : String} (h : Shows depth n v) :
    string n = .ok s ↔ v.IsText s := by
  cases h with
  | @text _ e t ps ht =>
    constructor
    · intro h
      obtain rfl := Except.ok.inj h
      exact ⟨ps, rfl, ht⟩
    · rintro ⟨_, ⟨⟩, hs⟩
      rw [ht] at hs
      exact congrArg Except.ok (Option.some.inj hs)
  | fault hrefused =>
    refine iff_of_false (fun h ↦ nomatch h) ?_
    rintro ⟨ps, rfl, hs⟩
    exact Option.some_ne_none _ (hs.symm.trans hrefused)
  | _ => exact iff_of_false (fun h ↦ nomatch h) (fun ⟨_, h, _⟩ ↦ nomatch h)

theorem skip_of_string {n : Node} {s : String} (h : string n = .ok s) : n.skip = .ok () := by
  cases n with
  | text e t => rfl
  | _ => cases h

end PodInventory.Grammar

namespace PodInventory.Decode

open Document

variable {l : Layout} {fields : Fields}

/-- A record of texts. Other members are passed over. -/
structure Layout.OfTexts (l : Layout) : Prop where
  texts : ∀ f ∈ l.fields, f = .of f.name string
  unsealed : l.sealed = false

theorem check_text_iff {name : String} {n : Node} :
    (Field.of name string).check n = .ok () ↔ ∃ s, string n = .ok s := by
  change Field.probe string n = .ok () ↔ _
  rw [Field.probe]
  cases string n with
  | ok s => simp [Except.map]
  | error f => simp [Except.map]

theorem Layout.OfTexts.skip_of_check (hl : l.OfTexts) {f : Field} (hf : f ∈ l.fields) {n : Node}
    (h : f.check n = .ok ()) : n.skip = .ok () := by
  rw [hl.texts f hf] at h
  obtain ⟨s, hs⟩ := check_text_iff.1 h
  exact Grammar.skip_of_string hs

/-- A record of texts is read from members only where nothing stops a reader which keeps nothing. -/
theorem Layout.OfTexts.skip_of_readMembers (hl : l.OfTexts) : ∀ {ms : Members} {read : Fields},
    l.readMembers read ms = .ok fields → ms.skip = .ok ()
  | .done _, _, _ => rfl
  | .cut _ _ _, _, h => nomatch h
  | .member _ key value tail, read, h => by
    rw [readMembers] at h
    obtain ⟨k, -, h⟩ := bind_eq_ok_iff.1 h
    rw [Members.skip]
    split at h
    · rw [if_neg (by rw [hl.unsealed]; exact Bool.false_ne_true)] at h
      obtain ⟨⟨⟩, hvalue, h⟩ := bind_eq_ok_iff.1 h
      rw [hvalue]
      exact hl.skip_of_readMembers h
    · rename_i f hfind
      split at h
      · cases h
      · obtain ⟨⟨⟩, hcheck, h⟩ := bind_eq_ok_iff.1 h
        rw [hl.skip_of_check (List.mem_of_find?_eq_some hfind) hcheck]
        exact hl.skip_of_readMembers h

theorem Layout.OfTexts.skip_of_readItems (hl : l.OfTexts) {origin : Origin} {expected : String} :
    ∀ {fs : List Field} {read : Fields} {is : Items}, (∀ f ∈ fs, f ∈ l.fields) →
      l.readItems origin expected fs read is = .ok fields → is.skip = .ok ()
  | [], _, .done _, _, _ | _ :: _, _, .done _, _, _ => rfl
  | [], read, .cut halt strict lenient, _, h => by
    rw [readItems, surplus] at h
    split at h <;> cases h
  | [], read, .item halt head tail, _, h => by
    cases origin <;> cases h
  | _ :: _, _, .cut _ _ _, _, h => nomatch h
  | f :: fs, read, .item _ head tail, hfs, h => by
    obtain ⟨hf, hfs⟩ := List.forall_mem_cons.1 hfs
    rw [readItems] at h
    obtain ⟨⟨⟩, hcheck, h⟩ := bind_eq_ok_iff.1 h
    rw [Items.skip, hl.skip_of_check hf hcheck]
    exact hl.skip_of_readItems hfs h

theorem Layout.OfTexts.skip_of_read (hl : l.OfTexts) {n : Node} (h : l.read n = .ok fields) :
    n.skip = .ok () := by
  cases n with
  | object origin start ms => exact hl.skip_of_readMembers h
  | list origin start is =>
    rw [read] at h
    split at h
    · exact hl.skip_of_readItems (fun _ hf ↦ hf) h
    · cases h
  | _ => cases h

theorem need_iff {name s : String} :
    fields.need name string = .ok s ↔ ∃ n, fields.lookup name = some n ∧ string n = .ok s := by
  rw [Fields.need]
  cases fields.lookup name <;> simp

/-- A text is read already or comes as the only member of its name. -/
def Comes (read : Fields) (members : Grammar.Members) (name s : String) : Prop :=
  (∃ n, read.lookup name = some n ∧ string n = .ok s ∧ members.valuesOf name = []) ∨
    (read.lookup name = none ∧ ∃ v, members.valuesOf name = [v] ∧ v.IsText s)

section Members

variable {depth : Nat} {read : Fields} {before after beforeColon afterColon : Grammar.Blanks}
  {ps : List Grammar.Piece} {n : Node} {v : Grammar.Value} {members : Grammar.Members}
  {name other s t : String}

theorem comes_done : Comes read (.done before) name s ↔ read.need name string = .ok s := by
  simp [Comes, need_iff, Grammar.Members.valuesOf, Grammar.Members.entries]

theorem comes_of_ne (h : Grammar.textOf? ps = some other) (hne : other ≠ name) :
    Comes read (.member before after ps beforeColon afterColon v members) name s ↔
      Comes read members name s := by
  rw [Comes, Comes, Grammar.valuesOf_member_of_ne h hne]

theorem comes_append_of_ne (hne : other ≠ name) :
    Comes (read ++ [(other, n)]) members name s ↔ Comes read members name s := by
  rw [Comes, Comes, lookup_append_of_ne read n hne]

theorem comes_iff_of_text (h : Grammar.textOf? ps = some name) (hread : read.lookup name = none)
    (hn : Grammar.Shows depth n v) :
    Comes read (.member before after ps beforeColon afterColon v members) name s ↔
      Comes (read ++ [(name, n)]) members name s := by
  have hlookup : (read ++ [(name, n)]).lookup name = some n := by
    rw [List.lookup_append, hread, List.lookup_cons_self]
    rfl
  rw [Comes, Comes, Grammar.valuesOf_member_self h, hread, hlookup]
  simp [Grammar.string_iff hn, and_comm]

theorem text_of_comes (h : Grammar.textOf? ps = some name) (hn : Grammar.Shows depth n v)
    (hcomes : Comes read (.member before after ps beforeColon afterColon v members) name s) :
    read.lookup name = none ∧ string n = .ok s := by
  rw [Comes, Grammar.valuesOf_member_self h] at hcomes
  obtain ⟨_, _, _, ⟨⟩⟩ | ⟨hread, w, hvalues, hs⟩ := hcomes
  obtain rfl : v = w := (List.cons.inj hvalues).1
  exact ⟨hread, (Grammar.string_iff hn).2 hs⟩

end Members

theorem Layout.readItems_text_iff {origin : Origin} {expected name : String} {fs : List Field}
    {read : Fields} {halt : Option Place} {n : Node} {is : Items} :
    l.readItems origin expected (.of name string :: fs) read (.item halt n is) = .ok fields ↔
      (∃ s, string n = .ok s) ∧
        l.readItems origin expected fs (read ++ [(name, n)]) is = .ok fields := by
  rw [readItems, bind_eq_ok_iff]
  constructor
  · rintro ⟨⟨⟩, hcheck, h⟩
    exact ⟨check_text_iff.1 hcheck, h⟩
  · rintro ⟨hs, h⟩
    exact ⟨(), check_text_iff.2 hs, h⟩

section Objects

/-- A record gets these texts when it reads on. -/
def Layout.Gets (l : Layout) (values : String → String) (read : Fields) (ms : Members) : Prop :=
  ∃ fields, l.readMembers read ms = .ok fields ∧
    ∀ name ∈ l.names, fields.need name string = .ok (values name)

variable {values : String → String} {read : Fields} {halt : Option Place} {key : Key} {n : Node}
  {ms : Members}

theorem Layout.gets_done : l.Gets values read (.done halt) ↔
    ∀ name ∈ l.names, read.need name string = .ok (values name) := by
  constructor
  · rintro ⟨fields, hread, hneed⟩
    rw [readMembers] at hread
    split at hread
    · cases hread
    · exact Except.ok.inj hread ▸ hneed
  · intro hneed
    have hnone : l.fields.find? (fun f ↦ f.required && (read.lookup f.name).isNone) = none := by
      rw [List.find?_eq_none]
      intro f hf
      obtain ⟨n, hn, -⟩ := need_iff.1 (hneed f.name (List.mem_map_of_mem hf))
      simp [hn]
    exact ⟨read, by rw [readMembers, hnone], hneed⟩

/-- A member of another name is passed over. -/
theorem Layout.OfTexts.gets_skip (hl : l.OfTexts) (hkey : key.name ∉ l.names)
    (hn : n.skip = .ok ()) :
    l.Gets values read (.member halt (.ok key) n ms) ↔ l.Gets values read ms := by
  have hfind : l.fields.find? (fun f ↦ f.name == key.name) = none := by
    rw [List.find?_eq_none]
    exact fun f hf heq ↦ hkey (beq_iff_eq.1 heq ▸ List.mem_map_of_mem hf)
  have hread : l.readMembers read (.member halt (.ok key) n ms) = l.readMembers read ms := by
    simp only [readMembers, bind, Except.bind, hfind, hl.unsealed, Bool.false_eq_true, if_false, hn]
  rw [Gets, Gets, hread]

/-- A member of the record is taken once, and only if it is a text. -/
theorem Layout.OfTexts.gets_take (hl : l.OfTexts) (hkey : key.name ∈ l.names) :
    l.Gets values read (.member halt (.ok key) n ms) ↔ read.lookup key.name = none ∧
      (∃ s, string n = .ok s) ∧ l.Gets values (read ++ [(key.name, n)]) ms := by
  obtain ⟨g, hg, hgname⟩ := List.mem_map.1 hkey
  cases hfind : l.fields.find? (fun f ↦ f.name == key.name) with
  | none => exact absurd (beq_iff_eq.2 hgname) (List.find?_eq_none.1 hfind g hg)
  | some f =>
    have hcheck := @check_text_iff f.name n
    rw [← hl.texts f (List.mem_of_find?_eq_some hfind)] at hcheck
    rw [← hcheck, Gets, Gets]
    simp only [readMembers, bind, Except.bind, hfind]
    cases hread : read.lookup key.name with
    | some m => simp
    | none => cases hn : f.check n <;> simp

end Objects

/-- The texts that a record gets from the members of an object. -/
theorem Layout.OfTexts.gets_iff (hl : l.OfTexts) (values : String → String) :
    ∀ {members : Grammar.Members} {depth : Nat} {ms : Members} {read : Fields},
    Grammar.ShowsMembers depth ms members →
      (l.Gets values read ms ↔ (∀ e ∈ members.entries, e.1 ≠ none) ∧
        ∀ name ∈ l.names, Comes read members name (values name))
  | .done _, _, _, read, h => by
    cases h
    simp [gets_done, comes_done, Grammar.Members.entries]
  | .member before after ps beforeColon afterColon v members, _, _, read, h => by
    cases h with
    | @member _ halt key n ms _ _ _ _ _ _ _ hkey hn hms =>
      cases key with
      | error f =>
        refine iff_of_false ?_ (fun h ↦ ?_)
        · rintro ⟨_, h, -⟩
          cases h
        · exact h.1 (Grammar.textOf? ps, v) List.mem_cons_self hkey.symm
      | ok key =>
        have hname : Grammar.textOf? ps = some key.name := hkey.symm
        have hentries : (∀ e ∈ (Grammar.Members.member before after ps beforeColon afterColon v
            members).entries, e.1 ≠ none) ↔ ∀ e ∈ members.entries, e.1 ≠ none := by
          simp [Grammar.Members.entries, hname]
        rw [hentries]
        by_cases hmem : key.name ∈ l.names
        · rw [hl.gets_take hmem, hl.gets_iff values hms]
          constructor
          · rintro ⟨hread, -, hnames, hcomes⟩
            refine ⟨hnames, fun name hname' ↦ ?_⟩
            by_cases hne : key.name = name
            · subst hne
              exact (comes_iff_of_text hname hread hn).2 (hcomes _ hname')
            · exact (comes_of_ne hname hne).2 ((comes_append_of_ne hne).1 (hcomes _ hname'))
          · rintro ⟨hnames, hcomes⟩
            obtain ⟨hread, hs⟩ := text_of_comes hname hn (hcomes _ hmem)
            refine ⟨hread, ⟨_, hs⟩, hnames, fun name hname' ↦ ?_⟩
            by_cases hne : key.name = name
            · subst hne
              exact (comes_iff_of_text hname hread hn).1 (hcomes _ hname')
            · exact (comes_append_of_ne hne).2 ((comes_of_ne hname hne).1 (hcomes _ hname'))
        · rw [hl.gets_skip hmem hn.skip, hl.gets_iff values hms]
          refine and_congr_right (fun _ ↦ forall₂_congr (fun name hname' ↦ ?_))
          exact (comes_of_ne hname (fun heq ↦ hmem (heq ▸ hname'))).symm

end PodInventory.Decode

namespace PodInventory.Http.Fault

open Decode Document

variable {kind message : String} {n : Node}

theorem layout_ofTexts : layout.OfTexts where
  texts f hf := by
    simp only [layout, List.mem_cons, List.not_mem_nil, or_false] at hf
    rcases hf with rfl | rfl <;> rfl
  unsealed := rfl

theorem decode_eq_ok_iff : decode n = .ok ⟨kind, message⟩ ↔ ∃ fields, layout.read n = .ok fields ∧
    fields.need "kind" string = .ok kind ∧ fields.need "message" string = .ok message := by
  rw [decode, bind_eq_ok_iff]
  refine exists_congr (fun fields ↦ and_congr_right (fun _ ↦ ?_))
  cases fields.need "kind" string with
  | error f => simp [bind, Except.bind]
  | ok k =>
    cases fields.need "message" string with
    | error f => simp [bind, Except.bind]
    | ok m => simp [bind, Except.bind, pure, Except.pure]

theorem skip_of_decode (h : decode n = .ok ⟨kind, message⟩) : n.skip = .ok () := by
  obtain ⟨fields, hread, -⟩ := decode_eq_ok_iff.1 h
  exact layout_ofTexts.skip_of_read hread

/-- The text that a fault has for a field. -/
def valueOf (kind message name : String) : String := if name = "kind" then kind else message

theorem forall_names_iff {P : String → String → Prop} :
    (∀ name ∈ layout.names, P name (valueOf kind message name)) ↔
      P "kind" kind ∧ P "message" message := by
  have hkind : valueOf kind message "kind" = kind := if_pos rfl
  have hmessage : valueOf kind message "message" = message := if_neg (by decide)
  simp [layout, Layout.names, Field.of, hkind, hmessage]

theorem comes_nil_iff {members : Grammar.Members} {name s : String} :
    Comes [] members name s ↔ ∃ v, members.valuesOf name = [v] ∧ v.IsText s := by
  simp [Comes]

theorem decode_object_iff {origin : Origin} {start : Option Place} {ms : Members} {depth : Nat}
    {members : Grammar.Members} (hms : Grammar.ShowsMembers depth ms members) :
    decode (.object origin start ms) = .ok ⟨kind, message⟩ ↔
      (Grammar.Value.object members).Tells kind message := by
  have hgets : decode (.object origin start ms) = .ok ⟨kind, message⟩ ↔
      layout.Gets (valueOf kind message) [] ms := by
    rw [decode_eq_ok_iff]
    refine exists_congr (fun fields ↦ and_congr_right (fun _ ↦ ?_))
    exact (forall_names_iff (P := fun name s ↦ fields.need name string = .ok s)).symm
  rw [hgets, layout_ofTexts.gets_iff _ hms, forall_names_iff (P := Comes [] members),
    comes_nil_iff, comes_nil_iff]
  constructor
  · rintro ⟨hnames, ⟨k, hkind, hk⟩, m, hmessage, hm⟩
    exact .object hnames hkind hk hmessage hm
  · rintro ⟨hnames, hkind, hk, hmessage, hm⟩
    exact ⟨hnames, ⟨_, hkind, hk⟩, _, hmessage, hm⟩

theorem tells_list_iff {items : Grammar.Items} :
    (Grammar.Value.list items).Tells kind message ↔
      ∃ k m, items.values = [k, m] ∧ k.IsText kind ∧ m.IsText message := by
  constructor
  · rintro (_ | ⟨hitems, hk, hm⟩)
    exact ⟨_, _, hitems, hk, hm⟩
  · rintro ⟨k, m, hitems, hk, hm⟩
    exact .list hitems hk hm

theorem decode_list_iff {start : Option Place} {is : Items} {depth : Nat} {items : Grammar.Items}
    (his : Grammar.ShowsItems depth is items) :
    decode (.list .text start is) = .ok ⟨kind, message⟩ ↔
      (Grammar.Value.list items).Tells kind message := by
  have hread : layout.read (.list .text start is) = layout.readItems .text layout.expectedLength
      [.of "kind" string, .of "message" string] [] is := rfl
  rw [decode_eq_ok_iff, hread, tells_list_iff]
  cases his with
  | done => exact iff_of_false (fun ⟨_, h, _⟩ ↦ nomatch h) (fun ⟨_, _, h, _⟩ ↦ nomatch h)
  | @item _ _ n _ k _ _ _ hn his =>
    simp only [Layout.readItems_text_iff]
    cases his with
    | done => exact iff_of_false (fun ⟨_, h, _⟩ ↦ nomatch h.2) (fun ⟨_, _, h, _⟩ ↦ nomatch h)
    | @item _ _ n' _ m _ _ _ hn' his =>
      simp only [Layout.readItems_text_iff]
      cases his with
      | item => exact iff_of_false (fun ⟨_, h, _⟩ ↦ nomatch h.2.2) (fun ⟨_, _, h, _⟩ ↦ nomatch h)
      | done =>
        constructor
        · rintro ⟨fields, ⟨-, -, h⟩, hkind, hmessage⟩
          obtain rfl := Except.ok.inj h
          exact ⟨k, m, rfl, (Grammar.string_iff hn).1 hkind, (Grammar.string_iff hn').1 hmessage⟩
        · rintro ⟨_, _, ⟨⟩, hk, hm⟩
          have hkind := (Grammar.string_iff hn).2 hk
          have hmessage := (Grammar.string_iff hn').2 hm
          exact ⟨_, ⟨⟨_, hkind⟩, ⟨_, hmessage⟩, rfl⟩, hkind, hmessage⟩

/-- The fault that a value stands for. -/
theorem decode_iff {v : Grammar.Value} (h : Grammar.Shows 0 n v) :
    decode n = .ok ⟨kind, message⟩ ↔ v.Tells kind message := by
  cases h with
  | list _ his => exact decode_list_iff his
  | object _ hms => exact decode_object_iff hms
  | fault hrefused =>
    refine iff_of_false (fun h ↦ nomatch h) ?_
    rintro (_ | _)
    · cases hrefused
    · cases hrefused
  | _ => exact iff_of_false (fun h ↦ nomatch h) (fun h ↦ nomatch h)

theorem ofText_iff {s : String} : Decode.ofText decode s = .ok ⟨kind, message⟩ ↔
    ∃ v, Grammar.Spells s v ∧ v.Tells kind message :=
  Grammar.ofText_eq_ok_iff (F := fun v f ↦ v.Tells f.kind f.message) skip_of_decode decode_iff

end PodInventory.Http.Fault
