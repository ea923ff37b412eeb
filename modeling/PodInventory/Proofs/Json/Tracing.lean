import PodInventory.Proofs.Json.Parsing

namespace PodInventory.Grammar

open Document Scan

/-- What a step of a reader tells about the text in front of it. It passed over one of these forms,
or it stopped at a fault that stops a reader which keeps nothing as well. -/
inductive Traces {α : Type} (skip : α → Except Fault Unit) (forms : List Char → Prop)
    (text : List Char) : Step α → Prop
  | passed {a : α} {c : Cursor} {form : List Char} (hform : forms form)
    (htext : text = form ++ c.rest) : Traces skip forms text (a, some c)
  | stopped {a : α} {f : Fault} (hskip : skip a = .error f) : Traces skip forms text (a, none)

def IsValue (s : List Char) : Prop := ∃ (before : Blanks) (v : Value), s = before.chars ++ v.chars

def IsItems (first : Bool) (s : List Char) : Prop := ∃ items : Items, s = items.chars first

def IsMembers (first : Bool) (s : List Char) : Prop := ∃ members : Members, s = members.chars first

def noBlanks : Blanks := ⟨[], by simp⟩

theorem isValue_chars (v : Value) : IsValue v.chars := ⟨noBlanks, v, rfl⟩

theorem exists_blanks (c : Cursor) : ∃ before : Blanks, c.rest = before.chars ++ c.skip.rest := by
  obtain ⟨s, place⟩ := c
  induction s generalizing place with
  | nil => exact ⟨noBlanks, rfl⟩
  | cons x s ih =>
    rw [Cursor.skip, Cursor.skipBlanks]
    split
    · rename_i hx
      obtain ⟨before, hbefore⟩ := ih (place.after x)
      refine ⟨⟨x :: before.chars, List.forall_mem_cons.2 ⟨hx, before.blank⟩⟩, ?_⟩
      exact congrArg (x :: ·) hbefore
    · exact ⟨noBlanks, rfl⟩

theorem next_rest {c : Cursor} {x : Char} {s : List Char} (h : c.rest = x :: s) :
    c.next.rest = s := by
  rw [Cursor.next, h]

theorem rest_eq_of_word {letters : List Char} {c c' : Cursor} (h : word letters c = .ok c') :
    c.rest = letters ++ c'.rest := by
  induction letters generalizing c with
  | nil => exact congrArg Cursor.rest (Except.ok.inj h)
  | cons x letters ih =>
    rw [word] at h
    split at h
    · cases h
    · rename_i y more hrest
      split at h
      · rename_i hxy
        rw [hrest, ← hxy, List.cons_append, ← ih h, next_rest hrest]
      · cases h

section Values

variable {c : Cursor} {fuel depth : Nat} {s text : List Char}

theorem Traces.behind {step : Step Node} (before : Blanks)
    (h : Traces Node.skip IsValue text step) :
    Traces Node.skip IsValue (before.chars ++ text) step := by
  cases h with
  | passed hform htext =>
    obtain ⟨blanks, v, rfl⟩ := hform
    refine .passed ⟨before.append blanks, v, rfl⟩ ?_
    simp only [htext, Blanks.append, List.append_assoc]
  | stopped hskip => exact .stopped hskip

theorem traces_word (letters : List Char) (build : Extent → Node) {x : Char} (v : Value)
    (hv : v.chars = x :: letters) (hc : c.rest = x :: s) :
    Traces Node.skip IsValue c.rest (ofWord c letters build) := by
  rw [ofWord]
  split
  · rename_i c' hword
    refine .passed (isValue_chars v) ?_
    rw [hv, hc, List.cons_append, ← rest_eq_of_word hword, next_rest hc]
  · exact .stopped rfl

theorem traces_token {α : Type} {token : Token α} (start : Cursor) (isName : Bool)
    (build : Extent → α → Node)
    (htoken : ∀ c', token.rest = .ok c' → ∃ v : Value, text = v.chars ++ c'.rest) :
    Traces Node.skip IsValue text (ofToken start isName build token) := by
  rw [ofToken]
  split
  · rename_i c' _ hrest
    obtain ⟨v, hv⟩ := htoken c' hrest
    exact .passed (isValue_chars v) hv
  · exact .stopped rfl
  · rename_i c' _ hrest
    obtain ⟨v, hv⟩ := htoken c' hrest
    exact .passed (isValue_chars v) hv
  · exact .stopped rfl

theorem traces_limited {α : Type} {skip : α → Except Fault Unit} {forms : List Char → Prop}
    {start : Cursor} {step : Step α} {x : Char} (node : α → Node)
    (hskip : ∀ a, (node a).skip = skip a)
    (hforms : ∀ form, forms form → ∃ v : Value, v.chars = x :: form)
    (h : Traces skip forms s step) :
    Traces Node.skip IsValue (x :: s) (limited depth start (node step.1), step.2) := by
  cases h with
  | passed hform htext =>
    obtain ⟨v, hv⟩ := hforms _ hform
    exact .passed (isValue_chars v) (by rw [hv, htext]; rfl)
  | @stopped a f hstop =>
    refine .stopped (f := f) ?_
    have hnode := (hskip a).trans hstop
    rw [limited]
    split
    · rw [hnode]
      rfl
    · exact hnode

theorem traces_node
    (hitems : ∀ c, Traces Document.Items.skip (IsItems true) c.rest
      (Document.items fuel (depth + 1) true c))
    (hmembers : ∀ c, Traces Document.Members.skip (IsMembers true) c.rest
      (Document.members fuel (depth + 1) true c)) (c : Cursor) :
    Traces Node.skip IsValue c.rest (node (fuel + 1) depth c) := by
  obtain ⟨before, hbefore⟩ := exists_blanks c
  rw [hbefore]
  refine .behind before ?_
  rw [node]
  generalize c.skip = c
  dsimp only
  split
  · exact .stopped rfl
  · rename_i s hc
    exact traces_word ['u', 'l', 'l'] .null .null rfl hc
  · rename_i s hc
    exact traces_word ['r', 'u', 'e'] _ (.bool true) rfl hc
  · rename_i s hc
    exact traces_word ['a', 'l', 's', 'e'] _ (.bool false) rfl hc
  · rename_i s hc
    refine traces_token c true .text (fun c' hrest ↦ ?_)
    obtain ⟨ps, hps⟩ := closing_of_text hrest
    refine ⟨.text ps, ?_⟩
    rw [Value.chars, quotedChars_append, ← hps, hc, next_rest hc]
  · rename_i s hc
    rw [hc]
    have h := hitems c.next
    rw [next_rest hc] at h
    refine traces_limited (.list .text (some c.place)) (fun _ ↦ rfl) ?_ h
    rintro form ⟨items, rfl⟩
    exact ⟨.list items, rfl⟩
  · rename_i s hc
    rw [hc]
    have h := hmembers c.next
    rw [next_rest hc] at h
    refine traces_limited (.object .text (some c.place)) (fun _ ↦ rfl) ?_ h
    rintro form ⟨members, rfl⟩
    exact ⟨.object members, rfl⟩
  · split
    · refine traces_token c false .number (fun c' hrest ↦ ?_)
      obtain ⟨n, hn⟩ := of_number hrest
      exact ⟨.number n, hn⟩
    · exact .stopped rfl

end Values

section Brackets

variable {fuel depth : Nat}

theorem traces_itemOn {c : Cursor}
    (hnode : Traces Node.skip IsValue c.rest (node fuel depth c))
    (hitems : ∀ c, Traces Document.Items.skip (IsItems false) c.rest
      (Document.items fuel depth false c))
    (before after : Blanks) (first : Bool) (halt : Option Place) :
    Traces Document.Items.skip (IsItems first)
      (before.chars ++ comma first ++ after.chars ++ c.rest) (itemOn halt fuel depth c) := by
  rw [itemOn]
  generalize node fuel depth c = step at hnode
  cases hnode with
  | @stopped n f hstop =>
    refine .stopped (f := f) ?_
    rw [Document.Items.skip, hstop]
  | @passed n c' form hform htext =>
    obtain ⟨blanks, v, rfl⟩ := hform
    have htail := hitems c'
    dsimp only
    generalize Document.items fuel depth false c' = step at htail
    cases htail with
    | @stopped is f hstop =>
      cases hskip : n.skip with
      | error g => exact .stopped (f := g) (by rw [Document.Items.skip, hskip])
      | ok => exact .stopped (f := f) (by rw [Document.Items.skip, hskip, hstop])
    | @passed is c'' form hform hmore =>
      obtain ⟨items, rfl⟩ := hform
      refine .passed ⟨.item before (after.append blanks) v items, rfl⟩ ?_
      simp only [htext, hmore, Items.chars, Blanks.append, List.append_assoc]

theorem traces_items
    (hnode : ∀ c, Traces Node.skip IsValue c.rest (node fuel depth c))
    (hitems : ∀ c, Traces Document.Items.skip (IsItems false) c.rest
      (Document.items fuel depth false c))
    (first : Bool) (c : Cursor) :
    Traces Document.Items.skip (IsItems first) c.rest
      (Document.items (fuel + 1) depth first c) := by
  obtain ⟨before, hbefore⟩ := exists_blanks c
  rw [Document.items]
  generalize listHalt c = halt
  generalize c.skip = c' at hbefore
  dsimp only
  split
  · exact .stopped rfl
  · rename_i s hc
    refine .passed ⟨.done before, rfl⟩ ?_
    rw [hbefore, hc, next_rest hc, Items.chars, List.append_assoc, List.singleton_append]
  · rename_i x s _ hc
    cases first with
    | true =>
      have htext : c.rest = before.chars ++ comma true ++ noBlanks.chars ++ c'.rest := by
        simp [hbefore, comma, noBlanks]
      rw [htext]
      exact traces_itemOn (hnode c') hitems before noBlanks true halt
    | false =>
      rw [if_neg Bool.false_ne_true]
      split
      · rename_i hx
        subst hx
        obtain ⟨after, hafter⟩ := exists_blanks c'.next
        rw [next_rest hc] at hafter
        generalize c'.next.skip = c'' at hafter
        have htext : c.rest = before.chars ++ comma false ++ after.chars ++ c''.rest := by
          simp [hbefore, hc, hafter, comma]
        rw [htext]
        split
        · exact .stopped rfl
        · exact .stopped rfl
        · exact traces_itemOn (hnode c'') hitems before after false halt
      · exact .stopped rfl

theorem rest_eq_of_colon {c c' : Cursor} (h : colon c = .ok c') :
    ∃ before : Blanks, c.rest = before.chars ++ ':' :: c'.rest := by
  obtain ⟨before, hbefore⟩ := exists_blanks c
  refine ⟨before, ?_⟩
  rw [colon] at h
  split at h
  · cases h
  · rename_i s hc
    obtain rfl := Except.ok.inj h
    rw [hbefore, hc, next_rest hc]
  · cases h

theorem traces_valueOn (afterKey : Cursor)
    (hnode : ∀ c, Traces Node.skip IsValue c.rest (node fuel depth c)) :
    Traces Node.skip
      (fun form ↦ ∃ (beforeColon afterColon : Blanks) (v : Value),
        form = beforeColon.chars ++ ':' :: (afterColon.chars ++ v.chars))
      afterKey.rest (valueOn fuel depth afterKey) := by
  rw [valueOn]
  split
  · exact .stopped rfl
  · rename_i c hcolon
    obtain ⟨beforeColon, hbefore⟩ := rest_eq_of_colon hcolon
    have h := hnode c
    generalize node fuel depth c = step at h
    cases h with
    | stopped hstop => exact .stopped hstop
    | passed hform htext =>
      obtain ⟨afterColon, v, rfl⟩ := hform
      refine .passed ⟨beforeColon, afterColon, v, rfl⟩ ?_
      simp [hbefore, htext]

theorem traces_memberOn {c : Cursor} {s : List Char} (hc : c.rest = '"' :: s)
    (hnode : ∀ c, Traces Node.skip IsValue c.rest (node fuel depth c))
    (hmembers : ∀ c, Traces Document.Members.skip (IsMembers false) c.rest
      (Document.members fuel depth false c))
    (before after : Blanks) (first : Bool) (halt : Option Place) :
    Traces Document.Members.skip (IsMembers first)
      (before.chars ++ comma first ++ after.chars ++ c.rest) (memberOn halt fuel depth c) := by
  rw [memberOn]
  dsimp only
  split
  · exact .stopped rfl
  · rename_i afterKey hrest
    obtain ⟨name, hname⟩ := closing_of_text hrest
    rw [next_rest hc] at hname
    have hvalue := traces_valueOn afterKey hnode
    generalize valueOn fuel depth afterKey = step at hvalue
    cases hvalue with
    | @stopped n f hstop =>
      refine .stopped (f := f) ?_
      rw [Document.Members.skip, hstop]
    | @passed n c' form hform htext =>
      obtain ⟨beforeColon, afterColon, v, rfl⟩ := hform
      have htail := hmembers c'
      dsimp only
      generalize Document.members fuel depth false c' = step at htail
      cases htail with
      | @stopped ms f hstop =>
        cases hskip : n.skip with
        | error g => exact .stopped (f := g) (by rw [Document.Members.skip, hskip])
        | ok => exact .stopped (f := f) (by rw [Document.Members.skip, hskip, hstop])
      | @passed ms c'' form hform hmore =>
        obtain ⟨members, rfl⟩ := hform
        refine .passed ⟨.member before after name beforeColon afterColon v members, rfl⟩ ?_
        simp [Members.chars, quotedChars, hc, hname, closing, htext, hmore]

theorem traces_members
    (hnode : ∀ c, Traces Node.skip IsValue c.rest (node fuel depth c))
    (hmembers : ∀ c, Traces Document.Members.skip (IsMembers false) c.rest
      (Document.members fuel depth false c))
    (first : Bool) (c : Cursor) :
    Traces Document.Members.skip (IsMembers first) c.rest
      (Document.members (fuel + 1) depth first c) := by
  obtain ⟨before, hbefore⟩ := exists_blanks c
  rw [Document.members]
  generalize objectHalt c = halt
  generalize c.skip = c' at hbefore
  dsimp only
  split
  · exact .stopped rfl
  · rename_i s hc
    refine .passed ⟨.done before, rfl⟩ ?_
    rw [hbefore, hc, next_rest hc, Members.chars, List.append_assoc, List.singleton_append]
  · rename_i x s _ hc
    cases first with
    | true =>
      rw [if_pos rfl]
      split
      · rename_i hx
        subst hx
        have htext : c.rest = before.chars ++ comma true ++ noBlanks.chars ++ c'.rest := by
          simp [hbefore, comma, noBlanks]
        rw [htext]
        exact traces_memberOn hc hnode hmembers before noBlanks true halt
      · exact .stopped rfl
    | false =>
      rw [if_neg Bool.false_ne_true]
      split
      · rename_i hx
        subst hx
        obtain ⟨after, hafter⟩ := exists_blanks c'.next
        rw [next_rest hc] at hafter
        generalize c'.next.skip = c'' at hafter
        have htext : c.rest = before.chars ++ comma false ++ after.chars ++ c''.rest := by
          simp [hbefore, hc, hafter, comma]
        rw [htext]
        split
        · exact .stopped rfl
        · rename_i hquote
          exact traces_memberOn hquote hnode hmembers before after false halt
        · exact .stopped rfl
        · exact .stopped rfl
      · exact .stopped rfl

end Brackets

/-- Every reader tells about the text in front of it. The induction is on the fuel, which every
reader hands on to the next. -/
theorem traces_all (fuel : Nat) :
    (∀ depth c, Traces Node.skip IsValue c.rest (node fuel depth c)) ∧
      (∀ depth first c, Traces Document.Items.skip (IsItems first) c.rest
        (Document.items fuel depth first c)) ∧
      ∀ depth first c, Traces Document.Members.skip (IsMembers first) c.rest
        (Document.members fuel depth first c) := by
  induction fuel with
  | zero => exact ⟨fun _ _ ↦ .stopped rfl, fun _ _ _ ↦ .stopped rfl, fun _ _ _ ↦ .stopped rfl⟩
  | succ fuel ih =>
    obtain ⟨hnode, hitems, hmembers⟩ := ih
    refine ⟨fun depth ↦ ?_, fun depth ↦ ?_, fun depth ↦ ?_⟩
    · exact traces_node (hitems (depth + 1) true) (hmembers (depth + 1) true)
    · exact traces_items (hnode depth) (hitems depth false)
    · exact traces_members (hnode depth) (hmembers depth false)

end PodInventory.Grammar
