import PodInventory.Cli.Grammar
import PodInventory.Proofs.Text.Split

namespace PodInventory.Cli

/-- An option as it stands among arguments: by itself, with a value in the same argument, or with
one in the next. -/
inductive Word
  | flag (o : Opt)
  | attached (o : Opt) (value : String)
  | apart (o : Opt) (value : String)

namespace Word

def option : Word → Opt
  | .flag o | .attached o _ | .apart o _ => o

def value : Word → String
  | .flag _ => ""
  | .attached _ value | .apart _ value => value

def arguments : Word → List String
  | .flag o => ["--" ++ o.long]
  | .attached o value => ["--" ++ o.long ++ "=" ++ value]
  | .apart o value => ["--" ++ o.long, value]

/-- A value of its own must not look like an option. -/
inductive Fits (g : Grammar) : Word → Prop
  | flag {o : Opt} (known : g.options.find? (fun p ↦ p.long == o.long) = some o)
    (arity : o.arity = .flag) : Fits g (.flag o)
  | attached {o : Opt} (value : String)
    (known : g.options.find? (fun p ↦ p.long == o.long) = some o)
    (arity : Read.takesValue o = true) : Fits g (.attached o value)
  | apart {o : Opt} {value : String}
    (known : g.options.find? (fun p ↦ p.long == o.long) = some o)
    (arity : Read.takesValue o = true)
    (plain : ∀ c more, value.toList ≠ '-' :: c :: more) : Fits g (.apart o value)

theorem Fits.known {g : Grammar} {w : Word} (h : w.Fits g) :
    g.options.find? (fun p ↦ p.long == w.option.long) = some w.option := by
  cases h <;> assumption

/-- What is wrong with the value of a word. -/
def fault? (w : Word) : Option UsageError :=
  (w.option.check w.value).map (fun reason ↦ .badValue w.value w.option.shown reason)

end Word

/-- Options alone, each of them with a name that an equals sign can end. -/
structure Grammar.Plain (g : Grammar) : Prop where
  operand : g.operand = none
  commands : g.commands = []
  names : ∀ o ∈ g.options, o.long.toList ≠ [] ∧ '=' ∉ o.long.toList

namespace Read

/-- Takes a word whose value is looked at right away. -/
def take (r : Read) (w : Word) : Except Stop Read := r.accept w.option w.value

/-- What is known of a word as soon as it was passed. -/
def pass (r : Read) : Word → Except Stop Read
  | .apart o value => .ok { r with pending := some (o, some value) }
  | w => r.take w

variable {g : Grammar} {r r' : Read} {w : Word}

theorem settle_of_none (h : r.pending = none) : r.settle = .ok r := by
  rw [settle, h]

theorem pending_of_accept {o : Opt} {value : String} (h : r.accept o value = .ok r') :
    r'.pending = none := by
  rw [accept] at h
  split at h
  · cases h
  · split at h
    · cases h
    · obtain rfl := Except.ok.inj h
      rfl

theorem settle_pass (r : Read) (w : Word) : r.pass w >>= settle = r.take w := by
  have htake (w : Word) : r.take w >>= settle = r.take w := by
    cases hr : r.take w with
    | error stop => rfl
    | ok r' => exact settle_of_none (pending_of_accept hr)
  cases w with
  | flag o => exact htake (.flag o)
  | attached o value => exact htake (.attached o value)
  | apart o value => rfl

section Long

variable {o : Opt} (hg : g.Plain)
  (hknown : g.options.find? (fun p ↦ p.long == o.long) = some o)

include hg hknown

theorem long_name (r : Read) :
    r.long g o.long.toList = if takesValue o then r.await o else r.mark o := by
  obtain ⟨-, hname⟩ := hg.names o (List.mem_of_find?_eq_some hknown)
  rw [long, Text.splitFirst?_eq_none hname]
  simp only [String.ofList_toList, hknown]

theorem long_attached (r : Read) (value : String) (hvalue : takesValue o = true) :
    r.long g (o.long.toList ++ '=' :: value.toList) = r.attach o value := by
  obtain ⟨-, hname⟩ := hg.names o (List.mem_of_find?_eq_some hknown)
  rw [long, Text.splitFirst?_append hname]
  simp only [String.ofList_toList, hknown, hvalue, if_true]

end Long

section Arguments

variable (hg : g.Plain)

include hg

/-- An argument that begins with two dashes and goes on is an option. -/
theorem arguments_long {text : String} {c : Char} {more : List Char}
    (htext : text.toList = '-' :: '-' :: c :: more) (rest : List String) :
    arguments g r false (text :: rest) =
      r.long g (c :: more) >>= fun r ↦ arguments g r false rest := by
  rw [arguments, hg.commands, htext]
  simp

/-- Behind an option that waits for its value comes the value, unless it looks like an option. -/
theorem arguments_awaited {o : Opt} (hpending : r.pending = some (o, none)) {value : String}
    (hvalue : ∀ c more, value.toList ≠ '-' :: c :: more) (rest : List String) :
    arguments g r false (value :: rest) =
      arguments g { r with pending := some (o, some value) } false rest := by
  rw [arguments, hg.commands]
  simp only [Bool.false_eq_true, if_false, List.contains_nil, Bool.and_false]
  split
  · rename_i h
    exact absurd h (hvalue _ _)
  · rename_i h
    exact absurd h (hvalue _ _)
  · rename_i h
    exact absurd h (hvalue _ _)
  · simp only [hpending]

theorem arguments_word (hw : w.Fits g) (rest : List String) :
    arguments g r false (w.arguments ++ rest) =
      r.settle >>= fun r ↦ r.pass w >>= fun r ↦ arguments g r false rest := by
  obtain ⟨c, more, hname⟩ := List.exists_cons_of_ne_nil
    (hg.names _ (List.mem_of_find?_eq_some hw.known)).1
  cases hw with
  | @flag o known arity =>
    change o.long.toList = c :: more at hname
    have htext : ("--" ++ o.long).toList = '-' :: '-' :: c :: more := by simp [hname]
    have hflag : takesValue o = false := by simp [takesValue, arity]
    have hmark : r.mark o = r.settle >>= fun r ↦ r.accept o "" := by simp [mark, arity]
    have hlong := long_name hg known r
    rw [hflag, hname] at hlong
    refine (arguments_long hg htext rest).trans ?_
    rw [hlong, if_neg Bool.false_ne_true, hmark, bind_assoc]
    rfl
  | @attached o value known arity =>
    change o.long.toList = c :: more at hname
    have htext : ("--" ++ o.long ++ "=" ++ value).toList =
        '-' :: '-' :: c :: (more ++ '=' :: value.toList) := by simp [hname]
    have hlong := long_attached hg known r value arity
    rw [hname] at hlong
    refine (arguments_long hg htext rest).trans ?_
    rw [← List.cons_append, hlong, attach, bind_assoc]
    rfl
  | @apart o value known arity plain =>
    change o.long.toList = c :: more at hname
    have htext : ("--" ++ o.long).toList = '-' :: '-' :: c :: more := by simp [hname]
    have hlong := long_name hg known r
    rw [hname] at hlong
    refine (arguments_long hg htext (value :: rest)).trans ?_
    rw [hlong, if_pos arity, await, bind_assoc]
    refine bind_congr (fun r ↦ ?_)
    exact arguments_awaited hg (r := { r with pending := some (o, none) }) rfl plain rest

end Arguments

/-- Words that fit come to the same as their values one after the other. -/
theorem arguments_words (hg : g.Plain) {words : List Word} (hwords : ∀ w ∈ words, w.Fits g) :
    (arguments g r false (words.flatMap Word.arguments) >>= fun p ↦ p.1.settle) =
      r.settle >>= fun r ↦ words.foldlM take r := by
  induction words generalizing r with
  | nil =>
    change r.settle = r.settle >>= pure
    rw [bind_pure]
  | cons w words ih =>
    obtain ⟨hw, hwords⟩ := List.forall_mem_cons.1 hwords
    rw [List.flatMap_cons, arguments_word hg hw, bind_assoc]
    refine bind_congr (fun r ↦ ?_)
    rw [bind_assoc, List.foldlM_cons, ← settle_pass, bind_assoc]
    exact bind_congr (fun r ↦ ih hwords)

/-- An option that is not repeated stands in one place only. -/
def OnceEach (words : List Word) : Prop :=
  words.Pairwise (fun a b ↦ b.option.long = a.option.long → b.option.arity = .repeated)

theorem take_eq (hpending : r.pending = none)
    (honce : r.has w.option.long = true → w.option.arity = .repeated) :
    r.take w = match w.fault? with
      | some e => .error (.usage e)
      | none => .ok { r with given := r.given ++ [(w.option.long, w.value)] } := by
  have hfresh : ¬ (w.option.arity ≠ .repeated ∧ r.has w.option.long = true) :=
    fun h ↦ h.1 (honce h.2)
  rw [take, accept, if_neg hfresh, Word.fault?, ← hpending]
  cases w.option.check w.value <;> rfl

/-- Of several values that are wrong the first is told. -/
theorem foldlM_take {words : List Word} (hpending : r.pending = none) (honce : OnceEach words)
    (hgiven : ∀ w ∈ words, r.has w.option.long = true → w.option.arity = .repeated) :
    words.foldlM take r = match words.findSome? Word.fault? with
      | some e => .error (.usage e)
      | none =>
        .ok { r with given := r.given ++ words.map (fun w ↦ (w.option.long, w.value)) } := by
  induction words generalizing r with
  | nil =>
    simp only [List.findSome?_nil, List.map_nil, List.append_nil]
    rfl
  | cons w words ih =>
    obtain ⟨hw, honce⟩ := List.pairwise_cons.1 honce
    obtain ⟨hgivenw, hgiven⟩ := List.forall_mem_cons.1 hgiven
    rw [List.foldlM_cons, take_eq hpending hgivenw, List.findSome?_cons]
    cases w.fault? with
    | some e => rfl
    | none =>
      let next : Read := { r with given := r.given ++ [(w.option.long, w.value)] }
      refine (ih (r := next) hpending honce (fun v hv hhas ↦ ?_)).trans ?_
      · simp only [next, has, List.any_append, List.any_cons, List.any_nil, Bool.or_false,
          Bool.or_eq_true, beq_iff_eq] at hhas
        exact hhas.elim (hgiven v hv) (fun hlong ↦ hw v hv hlong.symm)
      · simp only [next, List.append_assoc, List.map_cons, List.singleton_append]

end Read

/-- Arguments that a command can be called with, their values aside. -/
structure Grammar.Takes (g : Grammar) (words : List Word) : Prop where
  fits : ∀ w ∈ words, w.Fits g
  once : Read.OnceEach words
  required : ∀ o ∈ g.options, o.required = true → ∃ w ∈ words, w.option.long = o.long

/-- What is known once all words were read. -/
def Read.ofWords (words : List Word) : Read where
  given := words.map (fun w ↦ (w.option.long, w.value))

theorem Grammar.Takes.missing_eq {g : Grammar} {words : List Word} (h : g.Takes words)
    (hg : g.Plain) : (Read.ofWords words).missing g = [] := by
  rw [Read.missing, hg.operand, List.append_eq_nil_iff, List.map_eq_nil_iff,
    List.filter_eq_nil_iff]
  refine ⟨fun o ho ↦ ?_, rfl⟩
  cases hrequired : o.required with
  | false => simp
  | true =>
    obtain ⟨w, hw, hlong⟩ := h.required o ho hrequired
    simp only [Read.ofWords, Read.has, List.any_map, Bool.true_and, Bool.not_eq_true,
      Bool.not_eq_false', List.any_eq_true]
    exact ⟨w, hw, beq_iff_eq.2 hlong⟩

theorem Read.complete_of_error {g : Grammar} {r : Read} {e : Stop} (h : r.settle = .error e) :
    r.complete g = .error e := by
  rw [complete, h]
  rfl

theorem Read.complete_of_ok {g : Grammar} {r s : Read} (h : r.settle = .ok s)
    (hmissing : s.missing g = []) : r.complete g = .ok s := by
  rw [complete, h]
  simp only [bind, Except.bind, hmissing]
  rfl

/-- What a command makes of its arguments: all values, or what is wrong with the first that its
option refuses. -/
theorem Grammar.read_words {g : Grammar} (hg : g.Plain) {words : List Word} (h : g.Takes words) :
    g.read (words.flatMap Word.arguments) = match words.findSome? Word.fault? with
      | some e => .error (.usage e)
      | none => .ok (.ofWords words) := by
  have hread := (Read.arguments_words (r := {}) hg h.fits).trans
    (Read.foldlM_take rfl h.once (fun _ _ hhas ↦ nomatch hhas))
  rw [Grammar.read]
  cases harguments : Read.arguments g {} false (words.flatMap Word.arguments) with
  | error e =>
    rw [harguments] at hread
    exact hread
  | ok p =>
    rw [harguments] at hread
    change p.1.complete g = _
    change p.1.settle = _ at hread
    cases hfault : words.findSome? Word.fault? with
    | some e =>
      rw [hfault] at hread
      exact Read.complete_of_error hread
    | none =>
      rw [hfault] at hread
      exact Read.complete_of_ok hread (h.missing_eq hg)

end PodInventory.Cli
