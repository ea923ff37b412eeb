import PodInventory.Cli.Run
import PodInventory.Proofs.Cli.Words
import PodInventory.Proofs.Dict
import PodInventory.Proofs.Store.Writes

namespace PodInventory

theorem Backing.create_of_ok {b : Backing} {id : PodId} {time : String} {pod : NewPod}
    {r : PodRecord} (h : (PodStore.create b id time pod).answer = .ok r) :
    r = .create id time pod := by
  cases b with
  | memory k =>
    change (k.create id time pod).answer = .ok r at h
    rw [KeyedStore.create] at h
    split at h
    · cases h
    · exact (Except.ok.inj h).symm
  | transient s => exact (TableStore.create_of_ok h).1
  | durable path t guards => exact (TableStore.create_of_ok h).1

/-- A service that says it created a pod has made its record from what it was asked for. -/
theorem Service.create_of_ok {s : Service} {pod : NewPod} {r : PodRecord}
    (h : (s.create pod).1 = .record (.ok r)) : r = .create s.nextId s.nextTime pod :=
  Backing.create_of_ok (Answer.record.inj h)

namespace Cli

/-- The first equals sign of a text stands behind the key. -/
structure IsSplit (s key value : String) : Prop where
  text : s = key ++ "=" ++ value
  key : '=' ∉ key.toList

/-- A text with an equals sign behind a key. -/
def IsPair (s : String) : Prop := ∃ key value, IsSplit s key value ∧ key ≠ ""

theorem isSplit_iff {s key value : String} :
    IsSplit s key value ↔ Text.splitFirst? '=' s.toList = some (key.toList, value.toList) := by
  rw [Text.splitFirst?_eq_some_iff]
  have htext : s = key ++ "=" ++ value ↔ s.toList = key.toList ++ '=' :: value.toList := by
    rw [← String.toList_inj]
    simp
  exact ⟨fun h ↦ ⟨h.key, htext.1 h.text⟩, fun h ↦ ⟨htext.2 h.2, h.1⟩⟩

theorem keyValue_eq_ok_iff {s key value : String} :
    keyValue s = .ok (key, value) ↔ IsSplit s key value ∧ key ≠ "" := by
  rw [isSplit_iff, keyValue]
  split
  · rename_i h
    simp [h]
  · rename_i h
    rw [h]
    simp only [reduceCtorEq, Option.some.injEq, Prod.mk.injEq, false_iff, not_and, not_not]
    exact fun hsplit ↦ String.toList_eq_nil_iff.1 hsplit.1.symm
  · rename_i front after hempty h
    rw [h]
    constructor
    · intro hok
      obtain ⟨rfl, rfl⟩ := Prod.mk.inj (Except.ok.inj hok)
      refine ⟨by simp only [String.toList_ofList], fun hkey ↦ ?_⟩
      exact hempty (String.ofList_eq_empty_iff.1 hkey)
    · rintro ⟨hsplit, -⟩
      obtain ⟨rfl, rfl⟩ := Prod.mk.inj (Option.some.inj hsplit)
      simp only [String.ofList_toList]

theorem isPair_iff {s : String} : IsPair s ↔ ∃ e, keyValue s = .ok e := by
  constructor
  · rintro ⟨key, value, h⟩
    exact ⟨(key, value), keyValue_eq_ok_iff.2 h⟩
  · rintro ⟨⟨key, value⟩, h⟩
    exact ⟨key, value, keyValue_eq_ok_iff.1 h⟩

theorem keyValueFault_eq_none_iff {s : String} : keyValueFault s = none ↔ IsPair s := by
  rw [isPair_iff, keyValueFault]
  cases keyValue s with
  | error reason => simp
  | ok e => simp

/-- The first entry with a key, among those that come of a list. -/
theorem lookup_filterMap {σ α : Type} (f : σ → Option (String × α)) (l : List σ) (k : String) :
    (l.filterMap f).lookup k =
      l.findSome? (fun s ↦ (f s).bind (fun e ↦ if k = e.1 then some e.2 else none)) := by
  induction l with
  | nil => rfl
  | cons s l ih =>
    rw [List.filterMap_cons, List.findSome?_cons]
    cases f s with
    | none => exact ih
    | some e =>
      rw [List.lookup_cons, ih, Option.bind_some]
      by_cases h : k = e.1
      · simp [h]
      · simp [h, beq_eq_false_iff_ne.2 h]

/-- The power parameters that an address and pairs stand for: the address under its own key, and
under any other key the value of the last pair with that key. -/
structure Stands (address : String) (params : List String) (d : Dict String) : Prop where
  address : d.get? "power_address" = some address
  others {key value : String} (h : key ≠ "power_address") : d.get? key = some value ↔
    ∃ before s after, params = before ++ s :: after ∧ IsSplit s key value ∧
      ∀ s' ∈ after, ∀ value', ¬ IsSplit s' key value'

/-- What a text says of a key. -/
def said? (key s : String) : Option String :=
  (keyValue s).toOption.bind (fun e ↦ if key = e.1 then some e.2 else none)

theorem said?_eq_some_iff {key s value : String} (h : IsPair s) :
    said? key s = some value ↔ IsSplit s key value := by
  obtain ⟨⟨key', value'⟩, hs⟩ := isPair_iff.1 h
  obtain ⟨hsplit, hne⟩ := keyValue_eq_ok_iff.1 hs
  have hsaid : said? key s = if key = key' then some value' else none := by
    rw [said?, hs]
    rfl
  rw [hsaid, Option.ite_none_right_eq_some, Option.some.injEq]
  constructor
  · rintro ⟨rfl, rfl⟩
    exact hsplit
  · intro hsplit'
    have heq := (isSplit_iff.1 hsplit).symm.trans (isSplit_iff.1 hsplit')
    obtain ⟨hkey, hvalue⟩ := Prod.mk.inj (Option.some.inj heq)
    exact ⟨(String.toList_inj.1 hkey).symm, String.toList_inj.1 hvalue⟩

theorem said?_eq_none_iff {key s : String} (h : IsPair s) :
    said? key s = none ↔ ∀ value, ¬ IsSplit s key value := by
  simp only [Option.eq_none_iff_forall_ne_some, ne_eq, said?_eq_some_iff h]

theorem stands_powerParameters (address : String) {params : List String}
    (h : ∀ s ∈ params, IsPair s) :
    Stands address params
      (powerParameters address (params.filterMap (fun s ↦ (keyValue s).toOption))) where
  address := Dict.get?_insert_self _ _ _
  others {key value} hkey := by
    have hget : (powerParameters address
        (params.filterMap (fun s ↦ (keyValue s).toOption))).get? key =
          params.reverse.findSome? (said? key) := by
      rw [powerParameters, Dict.get?_insert, if_neg hkey, Dict.get?_ofList,
        ← List.filterMap_reverse, lookup_filterMap]
      rfl
    rw [hget, List.findSome?_eq_some_iff]
    constructor
    · rintro ⟨after, s, before, hreverse, hs, hafter⟩
      have hparams : params = before.reverse ++ s :: after.reverse := by
        simpa using congrArg List.reverse hreverse
      rw [hparams] at h
      refine ⟨_, s, _, hparams, (said?_eq_some_iff (h s (by simp))).1 hs, fun s' hs' ↦ ?_⟩
      exact (said?_eq_none_iff (h s' (by simp_all))).1 (hafter s' (List.mem_reverse.1 hs'))
    · rintro ⟨before, s, after, rfl, hs, hafter⟩
      refine ⟨after.reverse, s, before.reverse, by simp,
        (said?_eq_some_iff (h s (by simp))).2 hs, fun s' hs' ↦ ?_⟩
      have hs' := List.mem_reverse.1 hs'
      exact (said?_eq_none_iff (h s' (by simp [hs']))).2 (hafter s' hs')

/-- The values that words give an option. -/
def valuesOf (words : List Word) (long : String) : List String :=
  (words.filter (fun w ↦ w.option.long == long)).map Word.value

theorem mem_valuesOf {words : List Word} {long s : String} :
    s ∈ valuesOf words long ↔ ∃ w ∈ words, w.option.long = long ∧ w.value = s := by
  simp only [valuesOf, List.mem_map, List.mem_filter, beq_iff_eq, and_assoc]

namespace Read

theorem value?_eq_head? (r : Read) (long : String) : r.value? long = (r.values long).head? := by
  rw [value?, values]
  induction r.given with
  | nil => rfl
  | cons e given ih =>
    rw [List.lookup_cons, List.filter_cons, ih]
    by_cases h : e.1 = long
    · simp [h]
    · simp [h, beq_eq_false_iff_ne.2 (Ne.symm h)]

theorem values_ofWords (words : List Word) (long : String) :
    (ofWords words).values long = valuesOf words long := by
  rw [values, ofWords, List.filter_map, List.map_map]
  rfl

end Read

/-- Options of which some take pairs and the others anything. -/
structure Grammar.Paired (g : Grammar) (longs : List String) : Prop where
  plain : g.Plain
  param : ∀ o ∈ g.options, o.long = "param" → o = paramOption
  checks : ∀ o ∈ g.options, o.check = if o.long ∈ longs then keyValueFault else fun _ ↦ none

namespace Grammar.Paired

variable {g : Grammar} {longs : List String} {words : List Word}

theorem fault?_eq_none_iff (hg : g.Paired longs) {w : Word} (hw : w.Fits g) :
    w.fault? = none ↔ (w.option.long ∈ longs → IsPair w.value) := by
  rw [Word.fault?, Option.map_eq_none_iff, hg.checks _ (List.mem_of_find?_eq_some hw.known)]
  split
  · rename_i h
    simp only [keyValueFault_eq_none_iff, h, true_imp_iff]
  · rename_i h
    simp only [h, false_imp_iff]

theorem read_eq_ok_iff (hg : g.Paired longs) (h : g.Takes words) {r : Read} :
    g.read (words.flatMap Word.arguments) = .ok r ↔
      r = .ofWords words ∧ ∀ w ∈ words, w.option.long ∈ longs → IsPair w.value := by
  have hfault : words.findSome? Word.fault? = none ↔
      ∀ w ∈ words, w.option.long ∈ longs → IsPair w.value :=
    List.findSome?_eq_none_iff.trans
      (forall₂_congr (fun w hw ↦ hg.fault?_eq_none_iff (h.fits w hw)))
  rw [g.read_words hg.plain h, ← hfault]
  cases words.findSome? Word.fault? with
  | none => simp [eq_comm]
  | some e => simp

theorem exists_of_read_error (hg : g.Paired longs) (h : g.Takes words) {stop : Stop}
    (hread : g.read (words.flatMap Word.arguments) = .error stop) :
    ∃ w ∈ words, w.option.long ∈ longs ∧ ¬ IsPair w.value ∧
      ∃ reason, stop = .usage (.badValue w.value w.option.shown reason) := by
  rw [g.read_words hg.plain h] at hread
  cases hfault : words.findSome? Word.fault? with
  | none =>
    rw [hfault] at hread
    cases hread
  | some e =>
    rw [hfault] at hread
    obtain rfl := Except.error.inj hread
    obtain ⟨w, hw, hfault⟩ := List.exists_of_findSome?_eq_some hfault
    have hpair : ¬ (w.option.long ∈ longs → IsPair w.value) := fun hpair ↦ by
      rw [(hg.fault?_eq_none_iff (h.fits w hw)).2 hpair] at hfault
      cases hfault
    obtain ⟨hlong, hpair⟩ := Classical.not_imp.1 hpair
    obtain ⟨reason, -, rfl⟩ := Option.map_eq_some_iff.1 hfault
    exact ⟨w, hw, hlong, hpair, reason, rfl⟩

end Grammar.Paired

theorem paired_create : createGrammar.Paired ["param"] where
  plain := ⟨rfl, rfl, by simp [createGrammar, nameOption, typeOption, addressOption, paramOption,
    helpOption]⟩
  param := by
    simp [createGrammar, nameOption, typeOption, addressOption, paramOption, helpOption]
  checks := by
    simp [createGrammar, nameOption, typeOption, addressOption, paramOption, helpOption]

theorem paired_discover : discoverGrammar.Paired ["param", "worker"] where
  plain := ⟨rfl, rfl, by simp [discoverGrammar, typeOption, addressOption, paramOption,
    workerOption, helpOption]⟩
  param := by
    simp [discoverGrammar, typeOption, addressOption, paramOption, workerOption, helpOption]
  checks := by
    simp [discoverGrammar, typeOption, addressOption, paramOption, workerOption, helpOption]

namespace Command

/-- The power parameters of a command that is given some. -/
def parameters? : Command → Option (Dict String)
  | .create pod => some pod.powerParameters
  | .discover _ request _ => some request.context
  | _ => none

/-- How a command deals with the texts of its power parameters. -/
structure Weighs (address : String) (params : List String) (outcome : Except Stop Command) :
    Prop where
  accepts : (∃ c, outcome = .ok c) ↔ ∀ s ∈ params, IsPair s
  refuses : ∀ stop, outcome = .error stop → ∃ s ∈ params, ¬ IsPair s ∧
    ∃ reason, stop = .usage (.badValue s paramOption.shown reason)
  stands : ∀ c, outcome = .ok c → ∃ d, c.parameters? = some d ∧ Stands address params d

section Weighs

variable {address : String} {params : List String} {words : List Word}
  (haddress : valuesOf words "power-address" = [address])
  (hparams : valuesOf words "param" = params)

include haddress hparams

theorem parametersOf_ofWords : parametersOf (.ofWords words) =
    powerParameters address (params.filterMap (fun s ↦ (keyValue s).toOption)) := by
  rw [parametersOf, textOf, Read.value?_eq_head?, pairs, Read.values_ofWords,
    Read.values_ofWords, haddress, hparams]
  rfl

theorem weighs_of_read {g : Grammar} {longs : List String} (hg : g.Paired ("param" :: longs))
    (h : g.Takes words) (hothers : ∀ long ∈ longs, ∀ s ∈ valuesOf words long, IsPair s)
    {f : Read → Command} (hf : ∀ r, (f r).parameters? = some (parametersOf r)) :
    Weighs address params ((g.read (words.flatMap Word.arguments)).map f) := by
  have hpairs : (∀ w ∈ words, w.option.long ∈ "param" :: longs → IsPair w.value) ↔
      ∀ s ∈ params, IsPair s := by
    subst hparams
    refine ⟨fun hall s hs ↦ ?_, fun hall w hw hlong ↦ ?_⟩
    · obtain ⟨w, hw, hlong, rfl⟩ := mem_valuesOf.1 hs
      exact hall w hw (hlong ▸ List.mem_cons_self)
    · rcases List.mem_cons.1 hlong with hlong | hlong
      · exact hall _ (mem_valuesOf.2 ⟨w, hw, hlong, rfl⟩)
      · exact hothers _ hlong _ (mem_valuesOf.2 ⟨w, hw, rfl, rfl⟩)
  have haccepted (r : Read) : g.read (words.flatMap Word.arguments) = .ok r ↔
      r = .ofWords words ∧ ∀ s ∈ params, IsPair s := by
    rw [hg.read_eq_ok_iff h, hpairs]
  cases hread : g.read (words.flatMap Word.arguments) with
  | ok r =>
    obtain ⟨rfl, hall⟩ := (haccepted r).1 hread
    refine ⟨⟨fun _ ↦ hall, fun _ ↦ ⟨_, rfl⟩⟩, fun stop hstop ↦ (nomatch hstop), fun c hc ↦ ?_⟩
    obtain rfl := Except.ok.inj hc
    exact ⟨_, (hf _).trans (congrArg some (parametersOf_ofWords haddress hparams)),
      stands_powerParameters address hall⟩
  | error stop =>
    have hsome : ¬ ∀ s ∈ params, IsPair s := fun hall ↦
      nomatch hread.symm.trans ((haccepted _).2 ⟨rfl, hall⟩)
    refine ⟨⟨fun ⟨c, hc⟩ ↦ (nomatch hc), fun hall ↦ absurd hall hsome⟩, fun stop' hstop ↦ ?_,
      fun c hc ↦ nomatch hc⟩
    obtain rfl := Except.error.inj hstop
    obtain ⟨w, hw, hlong, hpair, hreason⟩ := hg.exists_of_read_error h hread
    have hlong : w.option.long = "param" := by
      refine (List.mem_cons.1 hlong).resolve_right (fun hlong ↦ hpair ?_)
      exact hothers _ hlong _ (mem_valuesOf.2 ⟨w, hw, rfl, rfl⟩)
    rw [hg.param _ (List.mem_of_find?_eq_some (h.fits w hw).known) hlong] at hreason
    exact ⟨_, hparams ▸ mem_valuesOf.2 ⟨w, hw, hlong, rfl⟩, hpair, hreason⟩

end Weighs

/-- The command that the program is asked for. -/
def asked (name : String) (words : List Word) : Except Stop Command :=
  (Invocation.read (name :: words.flatMap Word.arguments)).map Invocation.command

theorem asked_eq {name : String} (h : name ∈ commandNames) (words : List Word) :
    asked name words = read name (words.flatMap Word.arguments) := by
  have hfound (rest : List String) :
      Read.arguments rootGrammar {} false (name :: rest) = .ok ({}, some (name, rest)) := by
    rw [Read.arguments, if_neg Bool.false_ne_true]
    exact if_pos (List.contains_iff_mem.2 h)
  simp only [asked, Invocation.read, hfound, bind, Except.bind]
  cases read name (words.flatMap Word.arguments) with
  | error stop => rfl
  | ok c => rfl

/-- Power parameters given to a command, its other arguments as they may: each text has to be a
pair, the address counts whatever the pairs say, and of pairs with one key the last one counts. A pod
that is created so has the IP address that the power address names. -/
theorem weighs_parameters {address : String} {params : List String} {words : List Word}
    (haddress : valuesOf words "power-address" = [address])
    (hparams : valuesOf words "param" = params) :
    (createGrammar.Takes words →
      Weighs address params (asked "create" words) ∧
      ∀ pod, asked "create" words = .ok (.create pod) →
        ∀ (s : Service) (r : PodRecord), (s.create pod).1 = .record (.ok r) →
          r.address = PowerAddress.ip? address ∧ r.powerParameters = pod.powerParameters) ∧
    (discoverGrammar.Takes words → (∀ s ∈ valuesOf words "worker", IsPair s) →
      Weighs address params (asked "discover" words)) := by
  refine ⟨fun h ↦ ?_, fun h hworkers ↦ ?_⟩
  · have hweighs : Weighs address params (asked "create" words) := by
      rw [asked_eq (by simp [commandNames])]
      exact weighs_of_read haddress hparams paired_create h (fun _ hlong ↦ nomatch hlong)
        (fun r ↦ rfl)
    refine ⟨hweighs, fun pod hpod s r hr ↦ ?_⟩
    obtain ⟨d, hd, hstands⟩ := hweighs.stands _ hpod
    obtain rfl := Option.some.inj hd
    obtain rfl := Service.create_of_ok hr
    refine ⟨?_, rfl⟩
    exact congrArg (Option.bind · PowerAddress.ip?) hstands.address
  · rw [asked_eq (by simp [commandNames])]
    refine weighs_of_read haddress hparams paired_discover h (fun long hlong ↦ ?_) (fun r ↦ rfl)
    obtain rfl := List.mem_singleton.1 hlong
    exact hworkers

/-- A key given twice, an empty value, a value with equals signs and the address among the pairs. -/
theorem weighs_parameters_repeated :
    Weighs "http://10.0.0.7/x" ["k=v=w", "power_address=zz", "k="] (asked "create"
      [.attached nameOption "a", .apart (typeOption "POD_TYPE") "kvm",
        .attached addressOption "http://10.0.0.7/x", .apart paramOption "k=v=w",
        .attached paramOption "power_address=zz", .attached paramOption "k="]) ∧
    (PodRecord.create (Service.start default).nextId (Service.start default).nextTime
      ⟨"a", "kvm", "default", "default",
        powerParameters "http://10.0.0.7/x" [("k", "")]⟩).address = some (.v4 10 0 0 7) ∧
    Weighs "http://10.0.0.7/x" ["k=v", "=v"] (asked "discover"
      [.apart paramOption "k=v", .attached addressOption "http://10.0.0.7/x",
        .apart workerOption "w=http://rack", .attached paramOption "=v",
        .attached (typeOption "TARGET_TYPE") "kvm"]) := by
  obtain ⟨hweighs, hcreated⟩ := (@weighs_parameters "http://10.0.0.7/x"
    ["k=v=w", "power_address=zz", "k="] [.attached nameOption "a",
      .apart (typeOption "POD_TYPE") "kvm", .attached addressOption "http://10.0.0.7/x",
      .apart paramOption "k=v=w", .attached paramOption "power_address=zz",
      .attached paramOption "k="] rfl rfl).1
    { fits := by
        simp only [List.forall_mem_cons]
        exact ⟨.attached _ rfl rfl, .apart rfl rfl (by simp), .attached _ rfl rfl,
          .apart rfl rfl (by simp), .attached _ rfl rfl, .attached _ rfl rfl, by simp⟩
      once := by
        simp [Read.OnceEach, Word.option, nameOption, typeOption, addressOption, paramOption]
      required := by
        simp [createGrammar, Word.option, nameOption, typeOption, addressOption, paramOption,
          helpOption] }
  refine ⟨hweighs, ?_, ?_⟩
  · refine ((hcreated _ (by decide +kernel) (Service.start default) _ rfl).1).trans ?_
    decide +kernel
  · exact (@weighs_parameters "http://10.0.0.7/x" ["k=v", "=v"] _ rfl rfl).2
      { fits := by
          simp only [List.forall_mem_cons]
          exact ⟨.apart rfl rfl (by simp), .attached _ rfl rfl, .apart rfl rfl (by simp),
            .attached _ rfl rfl, .attached _ rfl rfl, by simp⟩
        once := by
          simp [Read.OnceEach, Word.option, workerOption, typeOption, addressOption, paramOption]
        required := by
          simp [discoverGrammar, Word.option, workerOption, typeOption, addressOption,
            paramOption, helpOption] }
      (fun s hs ↦ by
        obtain rfl := List.mem_singleton.1 hs
        exact ⟨"w", "http://rack", ⟨rfl, by simp⟩, by simp⟩)

end Command

end Cli

end PodInventory
