import PodInventory.Proofs.Json.Tokens

namespace PodInventory.Grammar

open Document Scan

/-- Whether a value has no meaning where it stands: a number out of range, a text with half of a
surrogate pair, or brackets at the depth limit. -/
def Value.Refused (depth : Nat) : Value → Prop
  | .null | .bool _ => False
  | .number n => n.value? = none
  | .text ps => textOf? ps = none
  | .list _ | .object _ => depth = depthLimit

mutual

/-- What a reader makes of a value at a depth. A value with no meaning is a fault only for a reader
that wants to keep it. -/
inductive Shows : Nat → Node → Value → Prop
  | null {depth : Nat} {e : Extent} : Shows depth (.null e) .null
  | bool {depth : Nat} {e : Extent} {b : Bool} : Shows depth (.bool e b) (.bool b)
  | number {depth : Nat} {e : Extent} {x : Number} {n : Numeral} (h : n.value? = some x) :
    Shows depth (.number e x) (.number n)
  | text {depth : Nat} {e : Extent} {s : String} {ps : List Piece} (h : textOf? ps = some s) :
    Shows depth (.text e s) (.text ps)
  | list {depth : Nat} {start : Option Place} {is : Document.Items} {items : Items}
    (hdepth : depth ≠ depthLimit) (h : ShowsItems (depth + 1) is items) :
    Shows depth (.list .text start is) (.list items)
  | object {depth : Nat} {start : Option Place} {ms : Document.Members} {members : Members}
    (hdepth : depth ≠ depthLimit) (h : ShowsMembers (depth + 1) ms members) :
    Shows depth (.object .text start ms) (.object members)
  | fault {depth : Nat} {strict nameless : Fault} {v : Value} (h : v.Refused depth) :
    Shows depth (.fault strict none nameless) v

inductive ShowsItems : Nat → Document.Items → Items → Prop
  | done {depth : Nat} {halt : Option Place} {before : Blanks} :
    ShowsItems depth (.done halt) (.done before)
  | item {depth : Nat} {halt : Option Place} {n : Node} {is : Document.Items} {v : Value}
    {items : Items} (before after : Blanks) (hn : Shows depth n v)
    (his : ShowsItems depth is items) :
    ShowsItems depth (.item halt n is) (.item before after v items)

inductive ShowsMembers : Nat → Document.Members → Members → Prop
  | done {depth : Nat} {halt : Option Place} {before : Blanks} :
    ShowsMembers depth (.done halt) (.done before)
  | member {depth : Nat} {halt : Option Place} {key : Except Fault Key} {n : Node}
    {ms : Document.Members} {name : List Piece} {v : Value} {members : Members}
    (before after beforeColon afterColon : Blanks)
    (hkey : key.toOption.map Key.name = textOf? name) (hn : Shows depth n v)
    (hms : ShowsMembers depth ms members) :
    ShowsMembers depth (.member halt key n ms)
      (.member before after name beforeColon afterColon v members)

end

mutual

/-- Every value can be passed over. -/
theorem Shows.skip {depth : Nat} {n : Node} : ∀ {v : Value}, Shows depth n v → n.skip = .ok ()
  | _, .null | _, .bool | _, .number _ | _, .text _ | _, .fault _ => rfl
  | _, .list _ his => his.skip
  | _, .object _ hms => hms.skip

theorem ShowsItems.skip {depth : Nat} {is : Document.Items} :
    ∀ {items : Items}, ShowsItems depth is items → is.skip = .ok ()
  | _, .done => rfl
  | _, .item _ _ hn his => by rw [Document.Items.skip, hn.skip, his.skip]

theorem ShowsMembers.skip {depth : Nat} {ms : Document.Members} :
    ∀ {members : Members}, ShowsMembers depth ms members → ms.skip = .ok ()
  | _, .done => rfl
  | _, .member _ _ _ _ _ hn hms => by rw [Document.Members.skip, hn.skip, hms.skip]

end

theorem toOption_map {ε α β : Type} (f : α → β) (x : Except ε α) :
    (x.map f).toOption = x.toOption.map f := by
  cases x <;> rfl

theorem json?_refused {depth : Nat} {v : Value} (h : v.Refused depth) :
    v.json? (depthLimit - depth) = none := by
  cases v with
  | null | bool b => cases h
  | number n => exact Option.map_eq_none_iff.2 h
  | text ps => exact Option.map_eq_none_iff.2 h
  | list is | object ms =>
    obtain rfl : depth = depthLimit := h
    rfl

mutual

/-- A reader that keeps a value gets what it stands for. -/
theorem Shows.json {depth : Nat} {n : Node} (hdepth : depth ≤ depthLimit) :
    ∀ {v : Value}, Shows depth n v → (Decode.json n).toOption = v.json? (depthLimit - depth)
  | _, .fault h => (json?_refused h).symm
  | _, .null => rfl
  | _, .bool => rfl
  | _, .number h => by rw [Value.json?, h]; rfl
  | _, .text h => by rw [Value.json?, h]; rfl
  | _, .list hne his => by
    have hroom : depthLimit - depth = depthLimit - (depth + 1) + 1 := by omega
    rw [hroom, Value.json?, Decode.json, toOption_map, his.jsons (by omega)]
  | _, .object hne hms => by
    have hroom : depthLimit - depth = depthLimit - (depth + 1) + 1 := by omega
    rw [hroom, Value.json?, Decode.json, toOption_map, hms.jsons (by omega)]

theorem ShowsItems.jsons {depth : Nat} {is : Document.Items} (hdepth : depth ≤ depthLimit) :
    ∀ {items : Items}, ShowsItems depth is items →
      (Decode.jsonItems is).toOption = items.jsons? (depthLimit - depth)
  | _, .done => rfl
  | _, @ShowsItems.item _ _ n is _ _ _ _ hn his => by
    rw [Items.jsons?, Decode.jsonItems, ← hn.json hdepth, ← his.jsons hdepth]
    cases Decode.json n with
    | error f => rfl
    | ok x => cases Decode.jsonItems is <;> rfl

theorem ShowsMembers.jsons {depth : Nat} {ms : Document.Members} (hdepth : depth ≤ depthLimit) :
    ∀ {members : Members}, ShowsMembers depth ms members →
      (Decode.jsonMembers ms).toOption = members.jsons? (depthLimit - depth)
  | _, .done => rfl
  | _, @ShowsMembers.member _ _ key n ms _ _ _ _ _ _ _ hkey hn hms => by
    simp only [Members.jsons?, Decode.jsonMembers, ← hn.json hdepth, ← hms.jsons hdepth, ← hkey]
    cases key with
    | error f => rfl
    | ok k =>
      cases Decode.json n with
      | error f => rfl
      | ok x => cases Decode.jsonMembers ms <;> rfl

end

section Blanks

/-- The characters that may begin a written value. -/
def Begins (c : Char) : Prop :=
  Cursor.isBlank c = false ∧ c ≠ ']' ∧ c ≠ '}' ∧ c ≠ ','

theorem begins_digitChar : ∀ d < 10, Begins (Nat.digitChar d) := by
  unfold Begins
  decide

theorem skip_cons {c : Char} (h : Cursor.isBlank c = false) (s : List Char) (p : Place) :
    Cursor.skip ⟨c :: s, p⟩ = ⟨c :: s, p⟩ := by
  simp [Cursor.skip, Cursor.skipBlanks, h]

variable {c : Char} {s rest : List Char}

theorem skip_blanks (before : Blanks) (hc : Cursor.isBlank c = false) (place : Place) :
    ∃ place', Cursor.skip ⟨before.chars ++ c :: s, place⟩ = ⟨c :: s, place'⟩ := by
  obtain ⟨blanks, hblank⟩ := before
  induction blanks generalizing place with
  | nil => exact ⟨place, skip_cons hc s place⟩
  | cons b blanks ih =>
    obtain ⟨hb, hblanks⟩ := List.forall_mem_cons.1 hblank
    obtain ⟨place', hskip⟩ := ih (place.after b) hblanks
    exact ⟨place', (if_pos hb).trans hskip⟩

def Blanks.append (before after : Blanks) : Blanks where
  chars := before.chars ++ after.chars
  blank c hc := (List.mem_append.1 hc).elim (before.blank c) (after.blank c)

theorem endsNumeral_blanks (before : Blanks) (hs : EndsNumeral s) :
    EndsNumeral (before.chars ++ s) := by
  intro c more h
  obtain ⟨blanks, hblank⟩ := before
  cases blanks with
  | nil => exact hs c more h
  | cons b blanks =>
    obtain rfl : b = c := (List.cons.inj h).1
    have hb := hblank b List.mem_cons_self
    simp only [Cursor.isBlank, Bool.or_eq_true, beq_iff_eq] at hb
    rcases hb with ((rfl | rfl) | rfl) | rfl <;> decide

theorem endsNumeral_cons (h : Text.digit? c = none ∧ c ≠ '.' ∧ c ≠ 'e' ∧ c ≠ 'E') :
    EndsNumeral (c :: s) := by
  intro c' more heq
  obtain rfl : c = c' := (List.cons.inj heq).1
  exact h

theorem endsNumeral_items (items : Items) : EndsNumeral (items.chars false ++ rest) := by
  cases items with
  | done before =>
    rw [Items.chars, List.append_assoc]
    exact endsNumeral_blanks before (endsNumeral_cons (by decide))
  | item before after v items =>
    simp only [Items.chars, List.append_assoc]
    exact endsNumeral_blanks before (endsNumeral_cons (by decide))

theorem endsNumeral_members (members : Members) : EndsNumeral (members.chars false ++ rest) := by
  cases members with
  | done before =>
    rw [Members.chars, List.append_assoc]
    exact endsNumeral_blanks before (endsNumeral_cons (by decide))
  | member before after name beforeColon afterColon v members =>
    simp only [Members.chars, List.append_assoc]
    exact endsNumeral_blanks before (endsNumeral_cons (by decide))

end Blanks

/-- Every value begins with a sign of its own. -/
theorem Value.chars_eq_cons (v : Value) : ∃ c s, v.chars = c :: s ∧ Begins c := by
  have hc {c : Char} (s : List Char) (h : Begins c) : ∃ c' s', c :: s = c' :: s' ∧ Begins c' :=
    ⟨c, s, rfl, h⟩
  cases v with
  | null => exact hc _ (by unfold Begins; decide)
  | bool b => cases b <;> exact hc _ (by unfold Begins; decide)
  | number n =>
    obtain ⟨d, more, hd, -, hchars⟩ := n.whole.exists_cons
    rw [Value.chars, Numeral.chars, hchars]
    cases n.negative with
    | true => exact hc _ (by unfold Begins; decide)
    | false => exact hc _ (begins_digitChar d hd)
  | text ps => exact hc _ (by unfold Begins; decide)
  | list items => exact hc _ (by unfold Begins; decide)
  | object members => exact hc _ (by unfold Begins; decide)

/-- A step of a reader passed over a value, and rests behind it. -/
def PassesValue (depth : Nat) (step : Step Node) (v : Value) (rest : List Char) : Prop :=
  ∃ n place, step = (n, some ⟨rest, place⟩) ∧ Shows depth n v

def PassesItems (depth : Nat) (step : Step Document.Items) (items : Items) (rest : List Char) :
    Prop :=
  ∃ is place, step = (is, some ⟨rest, place⟩) ∧ ShowsItems depth is items

def PassesMembers (depth : Nat) (step : Step Document.Members) (members : Members)
    (rest : List Char) : Prop :=
  ∃ ms place, step = (ms, some ⟨rest, place⟩) ∧ ShowsMembers depth ms members

section Scalars

variable {rest : List Char} {fuel depth : Nat}

/-- Blanks in front of a value make no difference to where a reader ends up. -/
theorem passesValue_blanks {v : Value} (before : Blanks)
    (hv : ∀ place, PassesValue depth (node fuel depth ⟨v.chars ++ rest, place⟩) v rest)
    (place : Place) :
    PassesValue depth (node fuel depth ⟨before.chars ++ (v.chars ++ rest), place⟩) v rest := by
  obtain ⟨c, s, hc, hblank, -⟩ := v.chars_eq_cons
  rw [hc, List.cons_append] at hv ⊢
  obtain ⟨place', hskip⟩ := skip_blanks (s := s ++ rest) before hblank place
  have hplace := hv place'
  cases fuel with
  | zero =>
    obtain ⟨n, place'', hn, -⟩ := hplace
    cases hn
  | succ fuel =>
    rw [node, skip_cons hblank] at hplace
    rw [node, hskip]
    exact hplace

theorem word_append (letters rest : List Char) (p : Place) :
    ∃ p', word letters ⟨letters ++ rest, p⟩ = .ok ⟨rest, p'⟩ := by
  induction letters generalizing p with
  | nil => exact ⟨p, rfl⟩
  | cons x letters ih =>
    obtain ⟨p', hp'⟩ := ih (p.after x)
    refine ⟨p', ?_⟩
    rw [List.cons_append, word, ← hp']
    simp only [↓reduceIte, Cursor.next]

theorem passesValue_word (letters : List Char) (start : Cursor) {place : Place}
    (hstart : start.next = ⟨letters ++ rest, place⟩) {build : Extent → Node} {v : Value}
    (hbuild : ∀ e, Shows depth (build e) v) :
    PassesValue depth (ofWord start letters build) v rest := by
  obtain ⟨place', hword⟩ := word_append letters rest place
  refine ⟨build ⟨some start.place, some place'⟩, place', ?_, hbuild _⟩
  rw [ofWord, hstart, hword]

/-- A token that stands for something is kept, and any other passed over. -/
theorem passesValue_token {α : Type} {start : Cursor} {isName : Bool} {build : Extent → α → Node}
    {token : Token α} {v : Value} (hrest : ∃ place, token.rest = .ok ⟨rest, place⟩)
    (hsome : ∀ e a, token.value.toOption = some a → Shows depth (build e a) v)
    (hnone : token.value.toOption = none → v.Refused depth) :
    PassesValue depth (ofToken start isName build token) v rest := by
  obtain ⟨place, hrest⟩ := hrest
  rw [ofToken, hrest]
  cases hvalue : token.value with
  | ok a => exact ⟨_, place, rfl, hsome _ a (by rw [hvalue]; rfl)⟩
  | error f => exact ⟨_, place, rfl, .fault (hnone (by rw [hvalue]; rfl))⟩

theorem passes_quotedChars (ps : List Piece) (rest : List Char) {fuel : Nat}
    (hf : ps.length < fuel) (place : Place) :
    (∃ place', (Scan.text fuel (.ok []) ⟨closing ps rest, place⟩).rest = .ok ⟨rest, place'⟩) ∧
      (Scan.text fuel (.ok []) ⟨closing ps rest, place⟩).value.toOption = textOf? ps :=
  passes_closing hf (.ok []) rest place

theorem length_le_written (ps : List Piece) : ps.length ≤ (written ps).length := by
  induction ps with
  | nil => exact Nat.le_refl _
  | cons p ps ih =>
    have hpos : 0 < p.chars.length := by cases p <;> simp [Piece.chars]
    rw [written, List.flatMap_cons, List.length_append, List.length_cons, ← written]
    omega

theorem quotedChars_append (ps : List Piece) (rest : List Char) :
    quotedChars ps ++ rest = '"' :: closing ps rest := by
  simp [quotedChars, closing]

theorem length_lt_closing (ps : List Piece) (rest : List Char) :
    ps.length < ('"' :: closing ps rest).length + 1 := by
  have h := length_le_written ps
  simp only [closing, List.length_cons, List.length_append]
  omega

theorem passesValue_text (ps : List Piece) (place : Place) :
    PassesValue depth (node (fuel + 1) depth ⟨(Value.text ps).chars ++ rest, place⟩) (.text ps)
      rest := by
  obtain ⟨hrest, hvalue⟩ :=
    passes_quotedChars ps rest (length_lt_closing ps rest) (place.after '"')
  rw [Value.chars, quotedChars_append, node, skip_cons (by decide)]
  refine passesValue_token hrest (fun e s hs ↦ .text ?_) (fun hnone ↦ ?_)
  · exact hvalue.symm.trans hs
  · exact hvalue.symm.trans hnone

theorem passesValue_number (n : Numeral) (hrest : EndsNumeral rest) (place : Place) :
    PassesValue depth (node (fuel + 1) depth ⟨(Value.number n).chars ++ rest, place⟩) (.number n)
      rest := by
  obtain ⟨hend, hvalue⟩ := number_chars n hrest place
  have hpasses : PassesValue depth (ofToken ⟨n.chars ++ rest, place⟩ false .number
      (Scan.number ⟨n.chars ++ rest, place⟩)) (.number n) rest := by
    refine passesValue_token hend (fun e x hx ↦ .number ?_) (fun hnone ↦ ?_)
    · exact hvalue.symm.trans hx
    · exact hvalue.symm.trans hnone
  obtain ⟨d, more, hd, -, hchars⟩ := n.whole.exists_cons
  obtain ⟨c, s, hc, hblank, hfirst, hw⟩ : ∃ c s, n.chars ++ rest = c :: s ∧
      Cursor.isBlank c = false ∧ (c = '-' ∨ c.isDigit = true) ∧
        c ≠ 'n' ∧ c ≠ 't' ∧ c ≠ 'f' ∧ c ≠ '"' ∧ c ≠ '[' ∧ c ≠ '{' := by
    rw [Numeral.chars, hchars]
    cases n.negative with
    | true => exact ⟨'-', _, rfl, by decide⟩
    | false =>
      have hdigit : ∀ d < 10, Cursor.isBlank (Nat.digitChar d) = false ∧
          (Nat.digitChar d = '-' ∨ (Nat.digitChar d).isDigit = true) ∧
          Nat.digitChar d ≠ 'n' ∧ Nat.digitChar d ≠ 't' ∧ Nat.digitChar d ≠ 'f' ∧
          Nat.digitChar d ≠ '"' ∧ Nat.digitChar d ≠ '[' ∧ Nat.digitChar d ≠ '{' := by decide
      exact ⟨Nat.digitChar d, _, rfl, hdigit d hd⟩
  obtain ⟨h₁, h₂, h₃, h₄, h₅, h₆⟩ := hw
  rw [hc] at hpasses
  rw [Value.chars, hc, node, skip_cons hblank]
  simp only [hfirst, if_true]
  exact hpasses

end Scalars

section Brackets

variable {rest : List Char} {fuel depth : Nat}

theorem passesValue_limited {start : Cursor} {n : Node} {v : Value} {place : Place}
    (hn : depth ≠ depthLimit → Shows depth n v) (hskip : n.skip = .ok ())
    (hv : depth = depthLimit → v.Refused depth) :
    PassesValue depth (limited depth start n, some ⟨rest, place⟩) v rest := by
  refine ⟨_, place, rfl, ?_⟩
  by_cases hdepth : depth = depthLimit
  · rw [limited, if_pos hdepth, hskip]
    exact .fault (hv hdepth)
  · rw [limited, if_neg hdepth]
    exact hn hdepth

theorem passesValue_list {items : Items} (place : Place)
    (h : PassesItems (depth + 1)
      (Document.items fuel (depth + 1) true ⟨items.chars true ++ rest, place.after '['⟩) items
      rest) :
    PassesValue depth (node (fuel + 1) depth ⟨(Value.list items).chars ++ rest, place⟩)
      (.list items) rest := by
  obtain ⟨is, place', his, hshows⟩ := h
  rw [Value.chars, List.cons_append, node, skip_cons (by decide)]
  simp only [Cursor.next, his]
  exact passesValue_limited (fun hdepth ↦ .list hdepth hshows) hshows.skip id

theorem passesValue_object {members : Members} (place : Place)
    (h : PassesMembers (depth + 1)
      (Document.members fuel (depth + 1) true ⟨members.chars true ++ rest, place.after '{'⟩)
      members rest) :
    PassesValue depth (node (fuel + 1) depth ⟨(Value.object members).chars ++ rest, place⟩)
      (.object members) rest := by
  obtain ⟨ms, place', hms, hshows⟩ := h
  rw [Value.chars, List.cons_append, node, skip_cons (by decide)]
  simp only [Cursor.next, hms]
  exact passesValue_limited (fun hdepth ↦ .object hdepth hshows) hshows.skip id

/-- A list from an item on. -/
def itemOn (halt : Option Place) (fuel depth : Nat) (c : Cursor) : Step Document.Items :=
  match node fuel depth c with
  | (head, none) => (.item halt head (.done none), none)
  | (head, some rest) =>
    let (tail, rest) := Document.items fuel depth false rest
    (.item halt head tail, rest)

/-- The value of a member from behind its name on. -/
def valueOn (fuel depth : Nat) (c : Cursor) : Step Node :=
  match colon c with
  | .error f => (broken f, none)
  | .ok c => node fuel depth c

/-- An object from the opening quote of a name on. -/
def memberOn (halt : Option Place) (fuel depth : Nat) (c : Cursor) : Step Document.Members :=
  let token := Scan.text (c.rest.length + 1) (.ok []) c.next
  match token.rest with
  | .error f =>
    (.cut halt (match token.value with | .error g => g | .ok _ => f) f, none)
  | .ok afterKey =>
    let key := token.value.map fun name ↦ ⟨name, some afterKey.place, objectHalt afterKey⟩
    let (value, rest) := valueOn fuel depth afterKey
    match rest with
    | none => (.member halt key value (.done none), none)
    | some rest =>
      let (tail, rest) := Document.members fuel depth false rest
      (.member halt key value tail, rest)

theorem items_item (fuel depth : Nat) {c : Char} (hblank : Cursor.isBlank c = false)
    (hbracket : c ≠ ']') (before after : Blanks) (first : Bool) (s : List Char) (place : Place) :
    ∃ halt place', Document.items (fuel + 1) depth first
      ⟨before.chars ++ comma first ++ after.chars ++ c :: s, place⟩ =
        itemOn halt fuel depth ⟨c :: s, place'⟩ := by
  refine ⟨listHalt ⟨before.chars ++ comma first ++ after.chars ++ c :: s, place⟩, ?_⟩
  cases first with
  | true =>
    obtain ⟨place', hskip⟩ := skip_blanks (before.append after) hblank (s := s) place
    refine ⟨place', ?_⟩
    rw [comma, if_pos rfl, List.append_nil]
    rw [Blanks.append] at hskip
    rw [Document.items, hskip]
    split
    · rename_i heq
      exact absurd heq (List.cons_ne_nil _ _)
    · rename_i heq
      exact absurd (List.cons.inj heq).1 hbracket
    · rfl
  | false =>
    rw [comma, if_neg Bool.false_ne_true, List.append_assoc, List.append_assoc,
      List.singleton_append]
    obtain ⟨place₁, hcomma⟩ :=
      skip_blanks (c := ',') (s := after.chars ++ c :: s) before (by decide) place
    obtain ⟨place₂, hskip⟩ := skip_blanks after hblank (s := s) (place₁.after ',')
    refine ⟨place₂, ?_⟩
    rw [Document.items, hcomma]
    split
    · rename_i heq
      exact absurd heq (List.cons_ne_nil _ _)
    · rename_i heq
      exact absurd (List.cons.inj heq).1 (by decide)
    · rename_i heq
      obtain ⟨rfl, -⟩ := List.cons.inj heq
      rw [if_neg Bool.false_ne_true, if_pos rfl, Cursor.next, hskip]
      dsimp only
      split
      · rename_i heq
        exact absurd heq (List.cons_ne_nil _ _)
      · rename_i heq
        exact absurd (List.cons.inj heq).1 hbracket
      · rfl

theorem members_member (fuel depth : Nat) (before after : Blanks) (first : Bool) (s : List Char)
    (place : Place) :
    ∃ halt place', Document.members (fuel + 1) depth first
      ⟨before.chars ++ comma first ++ after.chars ++ '"' :: s, place⟩ =
        memberOn halt fuel depth ⟨'"' :: s, place'⟩ := by
  have hblank : Cursor.isBlank '"' = false := by decide
  refine ⟨objectHalt ⟨before.chars ++ comma first ++ after.chars ++ '"' :: s, place⟩, ?_⟩
  cases first with
  | true =>
    obtain ⟨place', hskip⟩ := skip_blanks (before.append after) hblank (s := s) place
    refine ⟨place', ?_⟩
    rw [comma, if_pos rfl, List.append_nil]
    rw [Blanks.append] at hskip
    rw [Document.members, hskip]
    rfl
  | false =>
    rw [comma, if_neg Bool.false_ne_true, List.append_assoc, List.append_assoc,
      List.singleton_append]
    obtain ⟨place₁, hcomma⟩ :=
      skip_blanks (c := ',') (s := after.chars ++ '"' :: s) before (by decide) place
    obtain ⟨place₂, hskip⟩ := skip_blanks after hblank (s := s) (place₁.after ',')
    refine ⟨place₂, ?_⟩
    rw [Document.members, hcomma]
    simp only [Bool.false_eq_true, if_false, Cursor.next, hskip]
    rfl

theorem passesItems_done (before : Blanks) (first : Bool) (place : Place) :
    PassesItems depth
      (Document.items (fuel + 1) depth first ⟨(Items.done before).chars first ++ rest, place⟩)
      (.done before) rest := by
  obtain ⟨place', hskip⟩ := skip_blanks (c := ']') (s := rest) before (by decide) place
  rw [Items.chars, List.append_assoc, List.singleton_append, Document.items, hskip]
  exact ⟨_, _, rfl, .done⟩

theorem passesItems_item {v : Value} {items : Items} (before after : Blanks) (first : Bool)
    (hv : ∀ place, PassesValue depth
      (node fuel depth ⟨v.chars ++ (items.chars false ++ rest), place⟩) v
      (items.chars false ++ rest))
    (hitems : ∀ place, PassesItems depth
      (Document.items fuel depth false ⟨items.chars false ++ rest, place⟩) items rest)
    (place : Place) :
    PassesItems depth
      (Document.items (fuel + 1) depth first
        ⟨(Items.item before after v items).chars first ++ rest, place⟩)
      (.item before after v items) rest := by
  obtain ⟨c, s, hc, hblank, hbracket, -⟩ := v.chars_eq_cons
  have hchars : (Items.item before after v items).chars first ++ rest =
      before.chars ++ comma first ++ after.chars ++ c :: (s ++ (items.chars false ++ rest)) := by
    simp [Items.chars, hc]
  obtain ⟨halt, place₁, heq⟩ := items_item fuel depth hblank hbracket before after first
    (s ++ (items.chars false ++ rest)) place
  obtain ⟨n, place₂, hn, hshows⟩ := hv place₁
  obtain ⟨is, place₃, his, hmore⟩ := hitems place₂
  rw [hc, List.cons_append] at hn
  rw [hchars, heq, itemOn, hn]
  exact ⟨.item halt n is, place₃, by simp only [his], .item before after hshows hmore⟩

theorem passesMembers_done (before : Blanks) (first : Bool) (place : Place) :
    PassesMembers depth
      (Document.members (fuel + 1) depth first ⟨(Members.done before).chars first ++ rest, place⟩)
      (.done before) rest := by
  obtain ⟨place', hskip⟩ := skip_blanks (c := '}') (s := rest) before (by decide) place
  rw [Members.chars, List.append_assoc, List.singleton_append, Document.members, hskip]
  exact ⟨_, _, rfl, .done⟩

theorem colon_blanks (before : Blanks) (s : List Char) (place : Place) :
    ∃ place', colon ⟨before.chars ++ ':' :: s, place⟩ = .ok ⟨s, place'⟩ := by
  obtain ⟨place', hskip⟩ := skip_blanks (c := ':') (s := s) before (by decide) place
  exact ⟨place'.after ':', by rw [colon, hskip]; rfl⟩

theorem passesMembers_member {v : Value} {members : Members} (before after : Blanks)
    (name : List Piece) (beforeColon afterColon : Blanks) (first : Bool)
    (hv : ∀ place, PassesValue depth
      (node fuel depth ⟨v.chars ++ (members.chars false ++ rest), place⟩) v
      (members.chars false ++ rest))
    (hmembers : ∀ place, PassesMembers depth
      (Document.members fuel depth false ⟨members.chars false ++ rest, place⟩) members rest)
    (place : Place) :
    PassesMembers depth
      (Document.members (fuel + 1) depth first
        ⟨(Members.member before after name beforeColon afterColon v members).chars first ++ rest,
          place⟩)
      (.member before after name beforeColon afterColon v members) rest := by
  let behind := beforeColon.chars ++
    ':' :: (afterColon.chars ++ (v.chars ++ (members.chars false ++ rest)))
  have hchars : (Members.member before after name beforeColon afterColon v members).chars first ++
      rest = before.chars ++ comma first ++ after.chars ++ '"' :: closing name behind := by
    simp [Members.chars, quotedChars, closing, behind]
  obtain ⟨halt, place₁, heq⟩ := members_member fuel depth before after first
    (closing name behind) place
  obtain ⟨⟨place₂, hrest⟩, hvalue⟩ := passes_quotedChars name behind
    (length_lt_closing name behind) (place₁.after '"')
  obtain ⟨place₃, hcolon⟩ := colon_blanks beforeColon
    (afterColon.chars ++ (v.chars ++ (members.chars false ++ rest))) place₂
  obtain ⟨n, place₄, hn, hshows⟩ := passesValue_blanks afterColon hv place₃
  obtain ⟨ms, place₅, hms, hmore⟩ := hmembers place₄
  rw [hchars, heq, memberOn]
  simp only [Cursor.next, hrest, behind, valueOn, hcolon, hn, hms]
  refine ⟨_, place₅, rfl, .member before after beforeColon afterColon ?_ hshows hmore⟩
  rw [← hvalue, toOption_map, Option.map_map]
  exact Option.map_id'

end Brackets

theorem Value.length_pos (v : Value) : 0 < v.chars.length := by
  obtain ⟨c, s, hc, -⟩ := v.chars_eq_cons
  simp [hc]

theorem Items.length_pos (items : Items) (first : Bool) : 0 < (items.chars first).length := by
  cases items with
  | done before => simp [Items.chars]
  | item before after v items =>
    have hpos := v.length_pos
    simp only [Items.chars, List.length_append]
    omega

theorem Members.length_pos (members : Members) (first : Bool) :
    0 < (members.chars first).length := by
  cases members with
  | done before => simp [Members.chars]
  | member before after name beforeColon afterColon v members =>
    have hpos := v.length_pos
    simp only [Members.chars, List.length_append]
    omega

mutual

/-- Every value is passed over, whatever ends it. One step of fuel for each character is enough. -/
theorem passesValue_node : ∀ (v : Value) (fuel depth : Nat) (rest : List Char) (place : Place),
    v.chars.length ≤ fuel → EndsNumeral rest →
      PassesValue depth (node fuel depth ⟨v.chars ++ rest, place⟩) v rest
  | v, 0, _, _, _, hf, _ => by
    have hpos := v.length_pos
    omega
  | .null, fuel + 1, depth, rest, place, _, _ =>
    passesValue_word ['u', 'l', 'l'] ⟨Value.null.chars ++ rest, place⟩ rfl (fun _ ↦ .null)
  | .bool false, fuel + 1, depth, rest, place, _, _ =>
    passesValue_word ['a', 'l', 's', 'e'] ⟨(Value.bool false).chars ++ rest, place⟩ rfl
      (fun _ ↦ .bool)
  | .bool true, fuel + 1, depth, rest, place, _, _ =>
    passesValue_word ['r', 'u', 'e'] ⟨(Value.bool true).chars ++ rest, place⟩ rfl (fun _ ↦ .bool)
  | .number n, fuel + 1, depth, rest, place, _, hrest => passesValue_number n hrest place
  | .text ps, fuel + 1, depth, rest, place, _, _ => passesValue_text ps place
  | .list items, fuel + 1, depth, rest, place, hf, _ =>
    passesValue_list place (passesItems_items items fuel (depth + 1) true rest _
      (by simp only [Value.chars, List.length_cons] at hf; omega))
  | .object members, fuel + 1, depth, rest, place, hf, _ =>
    passesValue_object place (passesMembers_members members fuel (depth + 1) true rest _
      (by simp only [Value.chars, List.length_cons] at hf; omega))

theorem passesItems_items : ∀ (items : Items) (fuel depth : Nat) (first : Bool)
    (rest : List Char) (place : Place), (items.chars first).length ≤ fuel →
      PassesItems depth (Document.items fuel depth first ⟨items.chars first ++ rest, place⟩) items
        rest
  | items, 0, _, first, _, _, hf => by
    have hpos := items.length_pos first
    omega
  | .done before, fuel + 1, depth, first, rest, place, _ => passesItems_done before first place
  | .item before after v items, fuel + 1, depth, first, rest, place, hf => by
    have hv := v.length_pos
    have hitems := items.length_pos false
    simp only [Items.chars, List.length_append] at hf
    exact passesItems_item before after first
      (fun place ↦ passesValue_node v fuel depth _ place (by omega) (endsNumeral_items items))
      (fun place ↦ passesItems_items items fuel depth false rest place (by omega)) place

theorem passesMembers_members : ∀ (members : Members) (fuel depth : Nat) (first : Bool)
    (rest : List Char) (place : Place), (members.chars first).length ≤ fuel →
      PassesMembers depth (Document.members fuel depth first ⟨members.chars first ++ rest, place⟩)
        members rest
  | members, 0, _, first, _, _, hf => by
    have hpos := members.length_pos first
    omega
  | .done before, fuel + 1, depth, first, rest, place, _ => passesMembers_done before first place
  | .member before after name beforeColon afterColon v members, fuel + 1, depth, first, rest,
    place, hf => by
    have hv := v.length_pos
    have hmembers := members.length_pos false
    simp only [Members.chars, List.length_append] at hf
    exact passesMembers_member before after name beforeColon afterColon first
      (fun place ↦ passesValue_node v fuel depth _ place (by omega) (endsNumeral_members members))
      (fun place ↦ passesMembers_members members fuel depth false rest place (by omega)) place

end

end PodInventory.Grammar
