import Mathlib.Data.List.Forall2
import PodInventory.Proofs.Json.Forms

namespace PodInventory

/-- The values of all members of one name. -/
def Json.valuesOf (members : List (String × Json)) (name : String) : List Json :=
  (members.filter (fun m ↦ m.1 == name)).map Prod.snd

namespace Json

theorem valuesOf_cons_self (members : List (String × Json)) (name : String) (v : Json) :
    valuesOf ((name, v) :: members) name = v :: valuesOf members name := by
  simp [valuesOf]

theorem valuesOf_cons_of_ne (members : List (String × Json)) {name other : String} (v : Json)
    (h : other ≠ name) : valuesOf ((other, v) :: members) name = valuesOf members name := by
  simp [valuesOf, h]

theorem mem_valuesOf {members : List (String × Json)} {name : String} {v : Json} :
    v ∈ valuesOf members name ↔ (name, v) ∈ members := by
  simp [valuesOf]

theorem valuesOf_zip {names : List String} (hnames : names.Nodup) {i : Nat} {name : String}
    (hname : names[i]? = some name) (js : List Json) :
    valuesOf (names.zip js) name = js[i]?.toList := by
  induction names generalizing i js with
  | nil => cases hname
  | cons k names ih =>
    obtain ⟨hnew, hnames⟩ := List.nodup_cons.1 hnames
    cases js with
    | nil => rfl
    | cons j js =>
      cases i with
      | zero =>
        obtain rfl := Option.some.inj hname
        have hnone : valuesOf (names.zip js) k = [] := by
          rw [List.eq_nil_iff_forall_not_mem]
          exact fun v hv ↦ hnew (List.of_mem_zip (mem_valuesOf.1 hv)).1
        rw [List.zip_cons_cons, valuesOf_cons_self, hnone]
        rfl
      | succ i =>
        have hne : k ≠ name := fun heq ↦ hnew (heq ▸ List.mem_of_getElem? hname)
        rw [List.zip_cons_cons, valuesOf_cons_of_ne _ _ hne, ih hnames hname]
        rfl

end Json

namespace Decode

open Document Json

variable {α : Type} {d : Decoder α} {F : Json → α → Prop}

/-- A reader accepts just the values of a format, and gets from each what it stands for. -/
def Exact (d : Decoder α) (F : Json → α → Prop) : Prop :=
  ∀ n j a, Holds n j → (d n = .ok a ↔ F j a)

section Scalars

theorem string_exact : Exact string (fun j s ↦ j = .text s) := by
  intro n j s hn
  constructor
  · intro h
    cases n with
    | text e t =>
      obtain rfl := Except.ok.inj h
      exact (Except.ok.inj hn).symm
    | _ => cases h
  · rintro rfl
    exact string_inverts s n hn

theorem of_natural {width k : Nat} {n : Node} (h : natural width n = .ok k) :
    k < 1 <<< width ∧ ∃ e, n = .number e (.integer k) := by
  cases n with
  | number e x =>
    cases x with
    | integer i =>
      rw [natural] at h
      split at h
      · rename_i hi
        obtain rfl := Except.ok.inj h
        exact ⟨hi.2, e, by rw [Int.toNat_of_nonneg hi.1]⟩
      · cases h
    | float x => cases h
  | _ => cases h

theorem natural_exact (width : Nat) :
    Exact (natural width) (fun j k ↦ j = .nat k ∧ k < 1 <<< width) := by
  intro n j k hn
  constructor
  · intro h
    obtain ⟨hk, e, rfl⟩ := of_natural h
    exact ⟨(Except.ok.inj hn).symm, hk⟩
  · rintro ⟨rfl, hk⟩
    exact natural_of_holds hk hn

/-- A word of a width is read from just the number that it is. -/
theorem word_exact {W : Type} {width : Nat} {ofNat : Nat → W} {toNat : W → Nat}
    (hlt : ∀ w, toNat w < 1 <<< width) (hof : ∀ w, ofNat (toNat w) = w)
    (hto : ∀ k < 1 <<< width, toNat (ofNat k) = k) :
    Exact (fun n ↦ (natural width n).map ofNat) (fun j w ↦ j = .nat (toNat w)) := by
  intro n j w hn
  constructor
  · intro h
    cases hk : natural width n with
    | error f =>
      simp only [hk, Except.map] at h
      cases h
    | ok k =>
      simp only [hk, Except.map] at h
      obtain rfl := Except.ok.inj h
      obtain ⟨rfl, hwidth⟩ := (natural_exact width n j k hn).1 hk
      exact congrArg nat (hto k hwidth).symm
  · rintro rfl
    have hk : natural width n = .ok (toNat w) := natural_of_holds (hlt w) hn
    simp only [hk, Except.map, hof]

theorem word32_exact : Exact word32 (fun j w ↦ j = .nat w.toNat) :=
  word_exact UInt32.toNat_lt (fun _ ↦ UInt32.ofNat_toNat) (fun _ h ↦ UInt32.toNat_ofNat_of_lt' h)

theorem word64_exact : Exact word64 (fun j w ↦ j = .nat w.toNat) :=
  word_exact UInt64.toNat_lt (fun _ ↦ UInt64.ofNat_toNat) (fun _ h ↦ UInt64.toNat_ofNat_of_lt' h)

end Scalars

section Lists

theorem list_of_holds {o : Origin} {p : Option Place} {is : Items} {j : Json}
    (h : Holds (.list o p is) j) : ∃ js, j = .list js ∧ jsonItems is = .ok js := by
  rw [Holds, json] at h
  cases his : jsonItems is with
  | error f =>
    rw [his] at h
    cases h
  | ok js =>
    rw [his] at h
    exact ⟨js, (Except.ok.inj h).symm, rfl⟩

theorem object_of_holds {o : Origin} {p : Option Place} {ms : Members} {j : Json}
    (h : Holds (.object o p ms) j) : ∃ kvs, j = .object kvs ∧ jsonMembers ms = .ok kvs := by
  rw [Holds, json] at h
  cases hms : jsonMembers ms with
  | error f =>
    rw [hms] at h
    cases h
  | ok kvs =>
    rw [hms] at h
    exact ⟨kvs, (Except.ok.inj h).symm, rfl⟩

theorem items_exact (h : Exact d F) {is : Items} {js : List Json} (his : jsonItems is = .ok js)
    (as : List α) : items d is = .ok as ↔ List.Forall₂ F js as := by
  induction js generalizing is as with
  | nil =>
    obtain ⟨halt, rfl⟩ := jsonItems_nil his
    rw [List.forall₂_nil_left_iff]
    exact ⟨fun h ↦ (Except.ok.inj h).symm, fun h ↦ congrArg Except.ok h.symm⟩
  | cons j js ih =>
    obtain ⟨halt, head, tail, rfl, hhead, htail⟩ := jsonItems_cons his
    rw [items, bind_eq_ok_iff, List.forall₂_cons_left_iff]
    constructor
    · rintro ⟨a, ha, hrest⟩
      obtain ⟨as', has', heq⟩ := bind_eq_ok_iff.1 hrest
      exact ⟨a, as', (h head j a hhead).1 ha, (ih htail as').1 has', (Except.ok.inj heq).symm⟩
    · rintro ⟨a, as', ha, has', rfl⟩
      exact ⟨a, (h head j a hhead).2 ha, bind_eq_ok_iff.2 ⟨as', (ih htail as').2 has', rfl⟩⟩

theorem list_exact (h : Exact d F) :
    Exact (list d) (fun j as ↦ ∃ js, j = .list js ∧ List.Forall₂ F js as) := by
  intro n j as hn
  constructor
  · intro hok
    cases n with
    | list o p is =>
      obtain ⟨js, rfl, his⟩ := list_of_holds hn
      exact ⟨js, rfl, (items_exact h his as).1 hok⟩
    | _ => cases hok
  · rintro ⟨js, rfl, has⟩
    obtain ⟨o, p, is, rfl, his⟩ := holds_list hn
    exact (items_exact h his as).2 has

theorem texts_exact : Exact (list string) (fun j ss ↦ j = .list (ss.map .text)) := by
  intro n j ss hn
  rw [list_exact string_exact n j ss hn]
  have hmap : ∀ js, List.Forall₂ (fun j s ↦ j = Json.text s) js ss ↔ js = ss.map .text := by
    intro js
    rw [← List.forall₂_eq_eq_eq, List.forall₂_map_right_iff]
  simp only [hmap, exists_eq_right]

end Lists

section Skipping

mutual

/-- A value without a fault is passed over. -/
theorem skip_of_holds : ∀ {n : Node} {j : Json}, Holds n j → n.skip = .ok ()
  | .null _, _, _ | .bool _ _, _, _ | .number _ _, _, _ | .text _ _, _, _ => rfl
  | .list _ _ is, _, h => by
    obtain ⟨js, -, his⟩ := list_of_holds h
    exact skip_of_jsonItems his
  | .object _ _ ms, _, h => by
    obtain ⟨kvs, -, hms⟩ := object_of_holds h
    exact skip_of_jsonMembers hms
  | .fault _ _ _, _, h => nomatch h

theorem skip_of_jsonItems : ∀ {is : Items} {js : List Json}, jsonItems is = .ok js →
    is.skip = .ok ()
  | .done _, _, _ => rfl
  | .cut _ _ _, _, h => nomatch h
  | .item _ head tail, [], h => nomatch jsonItems_nil h
  | .item _ head tail, j :: js, h => by
    obtain ⟨_, _, _, heq, hhead, htail⟩ := jsonItems_cons h
    cases heq
    simp only [Items.skip, skip_of_holds hhead, skip_of_jsonItems htail]

theorem skip_of_jsonMembers : ∀ {ms : Members} {kvs : List (String × Json)},
    jsonMembers ms = .ok kvs → ms.skip = .ok ()
  | .done _, _, _ => rfl
  | .cut _ _ _, _, h => nomatch h
  | .member _ _ _ _, [], h => nomatch jsonMembers_nil h
  | .member _ _ _ _, (k, v) :: kvs, h => by
    obtain ⟨_, _, _, _, heq, -, hvalue, htail⟩ := jsonMembers_cons h
    cases heq
    simp only [Members.skip, skip_of_holds hvalue, skip_of_jsonMembers htail]

end

/-- The value of a text, with the members of every object in order. -/
theorem value_ofText_iff {s : String} {reply : Json} : Decode.ofText Decode.value s = .ok reply ↔
    ∃ v, Grammar.Spells s v ∧ ∃ j, v.json? depthLimit = some j ∧ ordered j = reply := by
  refine Grammar.ofText_eq_ok_iff (F := fun v reply ↦ ∃ j, v.json? depthLimit = some j ∧ ordered j = reply)
    (fun h ↦ ?_) (fun h ↦ ?_)
  · rename_i n
    cases hn : json n with
    | ok j => exact skip_of_holds hn
    | error f =>
      rw [Decode.value, hn] at h
      cases h
  · rename_i n v
    have hjson := h.json (Nat.zero_le _)
    rw [Nat.sub_zero] at hjson
    rw [Decode.value, ← hjson]
    cases json n with
    | ok j => simp [Except.map, Except.toOption]
    | error f => simp [Except.map, Except.toOption]

end Skipping

section Layouts

variable {l : Layout} {fields : Fields} {kvs : List (String × Json)} {name : String}

/-- Items in the places of fields, of which those that stay empty need not be taken. -/
def InPlace (fs : List Field) (js : List Json) : Prop :=
  js.length ≤ fs.length ∧ ∀ f ∈ fs.drop js.length, f.placed = false

instance (fs : List Field) (js : List Json) : Decidable (InPlace fs js) :=
  inferInstanceAs (Decidable (_ ∧ _))

theorem InPlace.lt_length {fs : List Field} {js : List Json} (h : InPlace fs js) {i : Nat}
    {f : Field} (hf : fs[i]? = some f) (hplaced : f.placed = true) : i < js.length := by
  refine not_le.1 fun hle ↦ ?_
  have hmem : f ∈ fs.drop js.length := by
    refine List.mem_of_getElem? (i := i - js.length) ?_
    rw [List.getElem?_drop, Nat.add_sub_cancel' hle, hf]
  exact Bool.false_ne_true ((h.2 f hmem).symm.trans hplaced)

theorem InPlace.length_eq {fs : List Field} {js : List Json} (h : InPlace fs js)
    (hplaced : ∀ f ∈ fs, f.placed = true) : js.length = fs.length := by
  refine le_antisymm h.1 (not_lt.1 fun hlt ↦ ?_)
  exact lt_irrefl _ (h.lt_length (List.getElem?_eq_getElem hlt)
    (hplaced _ (List.getElem_mem hlt)))

/-- The members that a value gives to a record: those of an object, or the items of a list under the
names of the fields whose places they take. -/
def Layout.membersOf (l : Layout) : Json → Option (List (String × Json))
  | .object ms => some ms
  | .list js => if InPlace l.fields js then some (l.names.zip js) else none
  | _ => none

theorem Layout.membersOf_list {js : List Json} :
    l.membersOf (.list js) = some kvs ↔ InPlace l.fields js ∧ l.names.zip js = kvs := by
  simp [membersOf]

theorem Layout.exists_membersOf_iff {j : Json} {P : List (String × Json) → Prop} :
    (∃ ms, l.membersOf j = some ms ∧ P ms) ↔
      (∃ ms, j = .object ms ∧ P ms) ∨
        ∃ js, j = .list js ∧ InPlace l.fields js ∧ P (l.names.zip js) := by
  cases j with
  | object ms => simp [membersOf]
  | list js => simp [membersOf_list, and_assoc]
  | _ => simp [membersOf]

/-- What was read for a name: nothing where there is no member of it, and else the node of the only
one. -/
inductive Fields.Keep (fields : Fields) (kvs : List (String × Json)) (name : String) : Prop
  | absent (hkvs : valuesOf kvs name = []) (hfields : fields.lookup name = none)
  | present {v : Json} {n : Node} (hkvs : valuesOf kvs name = [v])
      (hfields : fields.lookup name = some n) (hn : Holds n v)

/-- A field finds what it wants: an acceptable value, or none if it is not required. -/
inductive Field.Fits (f : Field) (kvs : List (String × Json)) : Prop
  | absent (hkvs : valuesOf kvs f.name = []) (hrequired : f.required = false)
  | present {v : Json} (hkvs : valuesOf kvs f.name = [v]) (haccepts : f.Accepts (f.name, v))

/-- A value that stands in for a default. -/
inductive Optionally (F : Json → α → Prop) (default : α) : List Json → α → Prop
  | absent : Optionally F default [] default
  | present {v : Json} {a : α} (h : F v a) : Optionally F default [v] a

theorem optionally_singleton {default a : α} {v : Json} :
    Optionally F default [v] a ↔ F v a := by
  refine ⟨?_, .present⟩
  rintro ⟨⟩
  assumption

theorem Optionally.of_mem {default a : α} {vs : List Json} (h : Optionally F default vs a)
    {v : Json} (hv : v ∈ vs) : F v a := by
  cases h with
  | absent => cases hv
  | present h => exact List.mem_singleton.1 hv ▸ h

theorem Fields.Keep.congr {kvs' : List (String × Json)}
    (heq : valuesOf kvs name = valuesOf kvs' name) (h : fields.Keep kvs name) :
    fields.Keep kvs' name := by
  cases h with
  | absent hkvs hfields => exact .absent (heq ▸ hkvs) hfields
  | present hkvs hfields hn => exact .present (heq ▸ hkvs) hfields hn

theorem Field.Fits.congr {f : Field} {kvs' : List (String × Json)}
    (heq : valuesOf kvs f.name = valuesOf kvs' f.name) (h : f.Fits kvs) : f.Fits kvs' := by
  cases h with
  | absent hkvs hrequired => exact .absent (heq ▸ hkvs) hrequired
  | present hkvs haccepts => exact .present (heq ▸ hkvs) haccepts

theorem lookup_append_of_ne (read : Fields) {k : String} (n : Node) (hne : k ≠ name) :
    (read ++ [(k, n)]).lookup name = read.lookup name := by
  rw [List.lookup_append, List.lookup_cons, beq_eq_false_iff_ne.2 hne.symm]
  exact Option.or_none

theorem Fields.Keep.need_iff (h : fields.Keep kvs name) {encode : α → Json}
    (hd : Exact d (fun j a ↦ j = encode a)) {a : α} :
    fields.need name d = .ok a ↔ valuesOf kvs name = [encode a] := by
  cases h with
  | absent hkvs hfields => simp [need, hkvs, hfields]
  | @present v n hkvs hfields hn => simp [need, hkvs, hfields, hd n v a hn]

theorem Fields.Keep.getD_iff (h : fields.Keep kvs name) (hd : Exact d F) {default a : α} :
    fields.getD name d default = .ok a ↔ Optionally F default (valuesOf kvs name) a := by
  cases h with
  | absent hkvs hfields =>
    simp only [getD, hkvs, hfields]
    constructor
    · intro h
      obtain rfl := Except.ok.inj h
      exact .absent
    · rintro ⟨⟩
      rfl
  | @present v n hkvs hfields hn =>
    simp only [getD, hkvs, hfields, hd n v a hn, optionally_singleton]

theorem Field.accepts_of_exact (hd : Exact d F) {v : Json} {a : α} (h : F v a) :
    (Field.of name d).Accepts (name, v) :=
  Field.accepts_of name (fun n hn ↦ (hd n v a hn).2 h)

theorem Field.of_fits {encode : α → Json} (hd : Exact d (fun j a ↦ j = encode a)) {a : α}
    (h : valuesOf kvs name = [encode a]) : (Field.of name d).Fits kvs :=
  .present h (accepts_of_exact hd rfl)

theorem Field.defaulted_fits (hd : Exact d F) {default a : α}
    (h : Optionally F default (valuesOf kvs name) a) : (Field.defaulted name d).Fits kvs := by
  generalize hvs : valuesOf kvs name = vs at h
  cases h with
  | absent => exact .absent hvs rfl
  | present hv => exact .present hvs (accepts_of_exact hd hv)

section Objects

theorem Layout.readMembers_member {halt : Option Place} {key : Key} {value : Node} {tail : Members}
    {read : Fields} (hsealed : l.sealed = false)
    (h : l.readMembers read (.member halt (.ok key) value tail) = .ok fields) :
    (key.name ∉ l.names ∧ l.readMembers read tail = .ok fields) ∨
      (read.lookup key.name = none ∧
        l.readMembers (read ++ [(key.name, value)]) tail = .ok fields) := by
  simp only [readMembers, bind, Except.bind] at h
  split at h
  · rename_i hnone
    simp only [hsealed, Bool.false_eq_true, ↓reduceIte] at h
    split at h
    · cases h
    · refine .inl ⟨fun hmem ↦ ?_, h⟩
      obtain ⟨f, hf, hname⟩ := List.mem_map.1 hmem
      exact List.find?_eq_none.1 hnone f hf (beq_iff_eq.2 hname)
  · split at h
    · cases h
    · rename_i hread
      split at h
      · cases h
      · exact .inr ⟨Option.not_isSome_iff_eq_none.1 hread, h⟩

/-- Of a name that was met before there is no further member. -/
theorem Layout.readMembers_met (hsealed : l.sealed = false) (hname : name ∈ l.names) {ms : Members}
    (hms : jsonMembers ms = .ok kvs) {read : Fields} {n : Node}
    (hread : read.lookup name = some n) (h : l.readMembers read ms = .ok fields) :
    valuesOf kvs name = [] ∧ fields.lookup name = some n := by
  induction kvs generalizing ms read with
  | nil =>
    obtain ⟨halt, rfl⟩ := jsonMembers_nil hms
    rw [readMembers] at h
    split at h
    · cases h
    · obtain rfl := Except.ok.inj h
      exact ⟨rfl, hread⟩
  | cons kv kvs ih =>
    obtain ⟨k, v⟩ := kv
    obtain ⟨halt, key, value, tail, rfl, rfl, -, htail⟩ := jsonMembers_cons hms
    rcases readMembers_member hsealed h with ⟨hkey, h⟩ | ⟨hkey, h⟩
    · have hne : key.name ≠ name := fun heq ↦ hkey (heq ▸ hname)
      rw [valuesOf_cons_of_ne _ _ hne]
      exact ih htail hread h
    · have hne : key.name ≠ name := by
        rintro rfl
        rw [hread] at hkey
        cases hkey
      rw [valuesOf_cons_of_ne _ _ hne]
      exact ih htail (by rw [List.lookup_append, hread]; rfl) h

theorem Layout.readMembers_keep (hsealed : l.sealed = false) (hname : name ∈ l.names) {ms : Members}
    (hms : jsonMembers ms = .ok kvs) {read : Fields} (hread : read.lookup name = none)
    (h : l.readMembers read ms = .ok fields) : fields.Keep kvs name := by
  induction kvs generalizing ms read with
  | nil =>
    obtain ⟨halt, rfl⟩ := jsonMembers_nil hms
    rw [readMembers] at h
    split at h
    · cases h
    · obtain rfl := Except.ok.inj h
      exact .absent rfl hread
  | cons kv kvs ih =>
    obtain ⟨k, v⟩ := kv
    obtain ⟨halt, key, value, tail, rfl, rfl, hvalue, htail⟩ := jsonMembers_cons hms
    by_cases heq : key.name = name
    · obtain rfl := heq
      rcases readMembers_member hsealed h with ⟨hkey, -⟩ | ⟨hkey, h⟩
      · exact absurd hname hkey
      · have hnew : (read ++ [(key.name, value)]).lookup key.name = some value := by
          rw [List.lookup_append, hkey, List.lookup_cons_self]
          rfl
        obtain ⟨hnone, hfields⟩ := readMembers_met hsealed hname htail hnew h
        exact .present (by rw [valuesOf_cons_self, hnone]) hfields hvalue
    · refine Fields.Keep.congr (valuesOf_cons_of_ne _ _ heq).symm ?_
      rcases readMembers_member hsealed h with ⟨-, h⟩ | ⟨-, h⟩
      · exact ih htail hread h
      · exact ih htail ((lookup_append_of_ne read value heq).trans hread) h

/-- A field that still finds what it wants, or has found it. -/
def Field.Waits (f : Field) (read : Fields) (kvs : List (String × Json)) : Prop :=
  (read.lookup f.name = none ∧ f.Fits kvs) ∨
    ((read.lookup f.name).isSome = true ∧ valuesOf kvs f.name = [])

theorem Field.Waits.skip {f : Field} {read : Fields} {k : String} {v : Json}
    (h : f.Waits read ((k, v) :: kvs)) (hne : k ≠ f.name) : f.Waits read kvs := by
  rw [Waits, valuesOf_cons_of_ne _ _ hne] at h
  exact h.imp_left (And.imp_right (Fits.congr (valuesOf_cons_of_ne _ _ hne)))

theorem Field.Waits.take {f : Field} {read : Fields} {v : Json}
    (h : f.Waits read ((f.name, v) :: kvs)) :
    read.lookup f.name = none ∧ f.Accepts (f.name, v) ∧ valuesOf kvs f.name = [] := by
  rcases h with ⟨hread, hfits⟩ | ⟨-, hkvs⟩
  · cases hfits with
    | absent hkvs => simp [valuesOf_cons_self] at hkvs
    | @present w hkvs haccepts =>
      rw [valuesOf_cons_self, List.cons.injEq] at hkvs
      obtain ⟨rfl, hrest⟩ := hkvs
      exact ⟨hread, haccepts, hrest⟩
  · simp [valuesOf_cons_self] at hkvs

theorem Layout.readMembers_of_waits (hsealed : l.sealed = false) {ms : Members}
    (hms : jsonMembers ms = .ok kvs) {read : Fields} (h : ∀ f ∈ l.fields, f.Waits read kvs) :
    ∃ fields, l.readMembers read ms = .ok fields := by
  -- A member takes its field from those that still want a value to those that have one.
  induction kvs generalizing ms read with
  | nil =>
    obtain ⟨halt, rfl⟩ := jsonMembers_nil hms
    have hnone : l.fields.find? (fun f ↦ f.required && (read.lookup f.name).isNone) = none := by
      rw [List.find?_eq_none]
      intro f hf
      rcases h f hf with ⟨-, hfits⟩ | ⟨hread, -⟩
      · cases hfits with
        | absent _ hrequired => simp [hrequired]
        | present hkvs _ => cases hkvs
      · simp [Option.isSome_iff_ne_none.1 hread]
    exact ⟨read, by rw [readMembers, hnone]⟩
  | cons kv kvs ih =>
    obtain ⟨k, v⟩ := kv
    obtain ⟨halt, key, value, tail, rfl, rfl, hvalue, htail⟩ := jsonMembers_cons hms
    cases hfind : l.fields.find? (fun f ↦ f.name == key.name) with
    | none =>
      have hne : ∀ f ∈ l.fields, key.name ≠ f.name :=
        fun f hf heq ↦ List.find?_eq_none.1 hfind f hf (beq_iff_eq.2 heq.symm)
      obtain ⟨fields, hfields⟩ := ih htail (fun f hf ↦ (h f hf).skip (hne f hf))
      refine ⟨fields, ?_⟩
      simpa only [readMembers, bind, Except.bind, hfind, hsealed, Bool.false_eq_true, ↓reduceIte,
        skip_of_holds hvalue] using hfields
    | some f =>
      have hname : f.name = key.name := by simpa using List.find?_some hfind
      obtain ⟨hread, haccepts, -⟩ := (hname ▸ h f (List.mem_of_find?_eq_some hfind) :
        f.Waits read ((f.name, v) :: kvs)).take
      have hrest : ∀ g ∈ l.fields, g.Waits (read ++ [(key.name, value)]) kvs := by
        intro g hg
        by_cases heq : key.name = g.name
        · obtain ⟨hnone, -, hkvs⟩ := (heq ▸ h g hg : g.Waits read ((g.name, v) :: kvs)).take
          refine .inr ⟨?_, hkvs⟩
          rw [List.lookup_append, hnone, heq, List.lookup_cons_self]
          rfl
        · have hlookup := lookup_append_of_ne read value heq
          exact ((h g hg).skip heq).imp (And.imp_left hlookup.trans)
            (And.imp_left (fun hsome ↦ by rw [hlookup, hsome]))
      obtain ⟨fields, hfields⟩ := ih htail hrest
      refine ⟨fields, ?_⟩
      rw [hname] at hread
      simpa only [readMembers, bind, Except.bind, hfind, hread, Option.isSome_none,
        Bool.false_eq_true, ↓reduceIte, haccepts.2 value hvalue] using hfields

end Objects

section Places

theorem Layout.readItems_inverts (l : Layout) (origin : Origin) (expected : String)
    {fs : List Field} {read : Fields} {is : Items} {js : List Json} (his : jsonItems is = .ok js)
    (h : l.readItems origin expected fs read is = .ok fields) :
    InPlace fs js ∧ ∃ nodes, List.Forall₂ Holds nodes js ∧
      fields = read ++ (fs.map Field.name).zip nodes := by
  induction fs generalizing read is js with
  | nil =>
    cases js with
    | nil =>
      obtain ⟨halt, rfl⟩ := jsonItems_nil his
      obtain rfl := Except.ok.inj h
      exact ⟨⟨le_rfl, by simp⟩, [], .nil, by simp⟩
    | cons j js =>
      obtain ⟨halt, head, tail, rfl, -, -⟩ := jsonItems_cons his
      cases origin <;> cases h
  | cons f fs ih =>
    cases js with
    | nil =>
      obtain ⟨halt, rfl⟩ := jsonItems_nil his
      rw [readItems] at h
      split at h
      · cases h
      · rename_i hplaced
        obtain ⟨⟨-, hrest⟩, nodes, hnodes, heq⟩ := ih his h
        obtain rfl := List.forall₂_nil_right_iff.1 hnodes
        refine ⟨⟨Nat.zero_le _, ?_⟩, [], .nil, by simpa using heq⟩
        exact List.forall_mem_cons.2 ⟨Bool.eq_false_iff.2 hplaced, hrest⟩
    | cons j js =>
      obtain ⟨halt, head, tail, rfl, hhead, htail⟩ := jsonItems_cons his
      rw [readItems, bind_eq_ok_iff] at h
      obtain ⟨-, -, h⟩ := h
      obtain ⟨⟨hlength, hrest⟩, nodes, hnodes, heq⟩ := ih htail h
      exact ⟨⟨Nat.succ_le_succ hlength, hrest⟩, head :: nodes, .cons hhead hnodes,
        by simpa using heq⟩

theorem Layout.readItems_of_fits (l : Layout) (origin : Origin) (expected : String)
    {fs : List Field} {is : Items} {js : List Json} (his : jsonItems is = .ok js)
    (hplace : InPlace fs js) (hnames : (fs.map Field.name).Nodup)
    (h : ∀ f ∈ fs, f.Fits ((fs.map Field.name).zip js)) (read : Fields) :
    ∃ fields, l.readItems origin expected fs read is = .ok fields := by
  induction fs generalizing is js read with
  | nil =>
    obtain rfl := List.eq_nil_of_length_eq_zero (Nat.le_zero.1 hplace.1)
    obtain ⟨halt, rfl⟩ := jsonItems_nil his
    exact ⟨read, rfl⟩
  | cons f fs ih =>
    obtain ⟨hnew, hnames⟩ := List.nodup_cons.1 hnames
    cases js with
    | nil =>
      obtain ⟨halt, rfl⟩ := jsonItems_nil his
      obtain ⟨hf, hrest⟩ := List.forall_mem_cons.1 hplace.2
      rw [readItems, hf]
      exact ih his ⟨Nat.zero_le _, hrest⟩ hnames
        (fun g hg ↦ by simpa using h g (List.mem_cons_of_mem _ hg)) read
    | cons j js =>
      obtain ⟨halt, head, tail, rfl, hhead, htail⟩ := jsonItems_cons his
      have hrest : ∀ g ∈ fs, g.Fits ((fs.map Field.name).zip js) := by
        intro g hg
        have hne : f.name ≠ g.name := fun heq ↦ hnew (heq ▸ List.mem_map_of_mem hg)
        exact (h g (List.mem_cons_of_mem _ hg)).congr (valuesOf_cons_of_ne _ _ hne)
      obtain ⟨fields, hfields⟩ := ih htail ⟨Nat.le_of_succ_le_succ hplace.1, hplace.2⟩ hnames hrest
        (read ++ [(f.name, head)])
      have haccepts : f.Accepts (f.name, j) := by
        cases h f List.mem_cons_self with
        | absent hkvs _ => simp [valuesOf_cons_self] at hkvs
        | present hkvs haccepts =>
          simp only [List.map_cons, List.zip_cons_cons, valuesOf_cons_self, List.cons.injEq] at hkvs
          exact hkvs.1 ▸ haccepts
      refine ⟨fields, ?_⟩
      simpa only [readItems, bind, Except.bind, haccepts.2 head hhead] using hfields

theorem Fields.keep_zip {names : List String} (hnames : names.Nodup) {nodes : List Node}
    {js : List Json} (h : List.Forall₂ Holds nodes js) (name : String) :
    Fields.Keep (names.zip nodes) (names.zip js) name := by
  induction names generalizing nodes js with
  | nil => exact .absent rfl rfl
  | cons k names ih =>
    obtain ⟨hnew, hnames⟩ := List.nodup_cons.1 hnames
    cases h with
    | nil => exact .absent rfl rfl
    | @cons n j nodes js hhead hrest =>
      rw [List.zip_cons_cons, List.zip_cons_cons]
      by_cases heq : k = name
      · obtain rfl := heq
        have hnone : valuesOf (names.zip js) k = [] := by
          rw [List.eq_nil_iff_forall_not_mem]
          intro v hv
          exact hnew (List.of_mem_zip (mem_valuesOf.1 hv)).1
        exact .present (by rw [valuesOf_cons_self, hnone]) List.lookup_cons_self hhead
      · have hlookup : ∀ rest : Fields, ((k, n) :: rest).lookup name = rest.lookup name := by
          intro rest
          rw [List.lookup_cons, beq_eq_false_iff_ne.2 (Ne.symm heq)]
        refine Fields.Keep.congr (valuesOf_cons_of_ne _ _ heq).symm ?_
        cases ih hnames hrest with
        | absent hkvs hfields => exact .absent hkvs ((hlookup _).trans hfields)
        | present hkvs hfields hn => exact .present hkvs ((hlookup _).trans hfields) hn

end Places

/-- A record that takes both forms, refuses no member and names every field once. -/
structure Layout.Open (l : Layout) : Prop where
  unsealed : l.sealed = false
  positional : l.positional = true
  names : l.names.Nodup

theorem Layout.Open.read_inverts (hl : l.Open) {n : Node} {j : Json} (hn : Holds n j)
    (h : l.read n = .ok fields) :
    ∃ kvs, l.membersOf j = some kvs ∧ ∀ name ∈ l.names, fields.Keep kvs name := by
  cases n with
  | list o p is =>
    obtain ⟨js, rfl, his⟩ := list_of_holds hn
    rw [read, if_pos hl.positional] at h
    obtain ⟨hplace, nodes, hnodes, rfl⟩ := l.readItems_inverts o l.expectedLength his h
    exact ⟨_, membersOf_list.2 ⟨hplace, rfl⟩, fun name _ ↦ Fields.keep_zip hl.names hnodes name⟩
  | object o p ms =>
    obtain ⟨kvs, rfl, hms⟩ := object_of_holds hn
    exact ⟨kvs, rfl, fun name hname ↦ readMembers_keep hl.unsealed hname hms rfl h⟩
  | _ => cases h

theorem Layout.Open.read_of_fits (hl : l.Open) {n : Node} {j : Json} (hn : Holds n j)
    (hj : l.membersOf j = some kvs) (h : ∀ f ∈ l.fields, f.Fits kvs) :
    ∃ fields, l.read n = .ok fields := by
  cases j with
  | object ms =>
    obtain rfl := Option.some.inj hj
    obtain ⟨o, p, members, rfl, hms⟩ := holds_object hn
    exact readMembers_of_waits hl.unsealed hms (fun f hf ↦ .inl ⟨rfl, h f hf⟩)
  | list js =>
    obtain ⟨hplace, rfl⟩ := membersOf_list.1 hj
    obtain ⟨o, p, is, rfl, his⟩ := holds_list hn
    rw [read, if_pos hl.positional]
    exact l.readItems_of_fits o l.expectedLength his hplace hl.names h []
  | _ => cases hj

/-- What a record is made of decides whether it is read: once it is known what the fields that were
kept give, and that this is what they want, the reader takes just the values that spell it out. -/
theorem Layout.Open.exact (hl : l.Open) {make : Fields → Except Fault α}
    {Given : List (String × Json) → α → Prop}
    (hmake : ∀ fields kvs a, (∀ name ∈ l.names, fields.Keep kvs name) →
      (make fields = .ok a ↔ Given kvs a))
    (hfits : ∀ kvs a, Given kvs a → ∀ f ∈ l.fields, f.Fits kvs) :
    Exact (fun n ↦ l.read n >>= make)
      (fun j a ↦ ∃ kvs, l.membersOf j = some kvs ∧ Given kvs a) := by
  intro n j a hn
  rw [bind_eq_ok_iff]
  constructor
  · rintro ⟨fields, hread, ha⟩
    obtain ⟨kvs, hj, hkeep⟩ := hl.read_inverts hn hread
    exact ⟨kvs, hj, (hmake fields kvs a hkeep).1 ha⟩
  · rintro ⟨kvs, hj, hgiven⟩
    obtain ⟨fields, hread⟩ := hl.read_of_fits hn hj (hfits kvs a hgiven)
    -- What was read tells of some members, which can only be those that the value gives.
    obtain ⟨kvs', hj', hkeep⟩ := hl.read_inverts hn hread
    obtain rfl := Option.some.inj (hj'.symm.trans hj)
    exact ⟨fields, hread, (hmake fields kvs' a hkeep).2 hgiven⟩

end Layouts

end Decode

end PodInventory
