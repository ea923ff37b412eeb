import PodInventory.Proofs.PowerAddress

namespace PodInventory

open Text

namespace Address

/-- One to four hexadecimal digits, of either case, with zeros in front or without. -/
structure Group (g : UInt16) (s : List Char) : Prop where
  short : s ≠ [] ∧ s.length ≤ 4
  value : ∃ ds, s.map hexDigit? = ds.map some ∧ g = (ofDigits 16 ds).toUInt16

/-- Groups with colons between them. The flag tells whether a dotted quad stands for the last two. -/
inductive Groups : List UInt16 → Bool → List Char → Prop
  | group {g : UInt16} {s : List Char} (hg : Group g s) : Groups [g] false s
  | quad (a b c d : UInt8) : Groups [pair a b, pair c d] true (quadText a b c d)
  | cons {g : UInt16} {gs : List UInt16} {quad : Bool} {s t : List Char} (hg : Group g s)
    (hgs : Groups gs quad t) : Groups (g :: gs) quad (s ++ ':' :: t)

/-- The groups on one side of a gap, which may be none. -/
inductive Side : List UInt16 → Bool → List Char → Prop
  | none : Side [] false []
  | some {gs : List UInt16} {quad : Bool} {s : List Char} (h : Groups gs quad s) : Side gs quad s

/-- The texts of an address: a dotted quad without leading zeros, or eight groups, where two colons
may stand for some groups of zeros. In front of such a gap there is no dotted quad. -/
inductive Literal : Address → List Char → Prop
  | quad (a b c d : UInt8) : Literal (v4 a b c d) (quadText a b c d)
  | groups {gs : List UInt16} {quad : Bool} {s : List Char} {a : Address} (h : Groups gs quad s)
    (ha : ofGroups? gs = some a) : Literal a s
  | gap {front back : List UInt16} {quad : Bool} {s t : List Char} {a : Address} (zeros : Nat)
    (hzeros : 0 < zeros) (hfront : Side front false s) (hback : Side back quad t)
    (ha : ofGroups? (front ++ List.replicate zeros 0 ++ back) = some a) :
    Literal a (s ++ [':', ':'] ++ t)

theorem of_octet? {s rest : List Char} {o : UInt8} (h : octet? s = some (o, rest)) :
    s = decimal o.toNat ++ rest := by
  rw [octet?] at h
  generalize htake : takeDigits digit? s = taken at h
  obtain ⟨ds, rest'⟩ := taken
  simp only at h
  split at h
  · cases h
  · rename_i hbound
    split at h
    · cases h
    · rename_i hzero
      obtain ⟨rfl, rfl⟩ := Prod.mk.inj (Option.some.inj h)
      simp only [not_or, not_lt] at hbound
      obtain ⟨hne, -, hle⟩ := hbound
      obtain ⟨rfl, hall⟩ := of_takeDigits_digit? htake
      have hvalue : (ofDigits 10 ds).toUInt8.toNat = ofDigits 10 ds := by
        rw [Nat.toUInt8_eq, UInt8.toNat_ofNat']
        omega
      rw [hvalue, decimal_eq_map, digitsOf_ofDigits (by decide) hall hne (fun hlong ↦ ?_)]
      exact fun hhead ↦ hzero ⟨hlong, hhead⟩

theorem of_dot? {s rest : List Char} (h : dot? s = some rest) : s = '.' :: rest := by
  unfold dot? at h
  split at h
  · cases h
    rfl
  · cases h

theorem of_quad? {s rest : List Char} {a b c d : UInt8}
    (h : quad? s = some ((a, b, c, d), rest)) : s = quadText a b c d ++ rest := by
  simp only [quad?, Option.bind_eq_bind, Option.pure_def, Option.bind_eq_some_iff, Prod.exists,
    Option.some.injEq, Prod.mk.injEq] at h
  obtain ⟨_, sa, ha, sa', hda, _, sb, hb, sb', hdb, _, sc, hc, sc', hdc, _, sd, hd, hsame, rfl⟩ := h
  obtain ⟨rfl, rfl, rfl, rfl⟩ := hsame
  rw [of_octet? ha, of_dot? hda, of_octet? hb, of_dot? hdb, of_octet? hc, of_dot? hdc, of_octet? hd]
  simp [quadText, joinWith]

theorem of_group? {s rest : List Char} {g : UInt16} (h : group? s = some (g, rest)) :
    ∃ t, s = t ++ rest ∧ Group g t := by
  rw [group?] at h
  generalize htake : takeDigits hexDigit? s = taken at h
  obtain ⟨ds, rest'⟩ := taken
  simp only at h
  split at h
  · cases h
  · rename_i hbound
    obtain ⟨rfl, rfl⟩ := Prod.mk.inj (Option.some.inj h)
    obtain ⟨hne, hlength⟩ := not_or.1 hbound
    obtain ⟨t, rfl, ht⟩ := of_takeDigits htake
    have hsame : t.length = ds.length := by simpa using congrArg List.length ht
    refine ⟨t, rfl, ⟨?_, by omega⟩, ds, ht, rfl⟩
    rintro rfl
    exact hne (List.length_eq_zero_iff.1 hsame.symm)

theorem of_afterColon? {first : Bool} {s body : List Char} (h : afterColon? first s = some body) :
    s = (if first then [] else [':']) ++ body := by
  unfold afterColon? at h
  cases first with
  | true =>
    cases h
    rfl
  | false =>
    simp only [Bool.false_eq_true, ↓reduceIte] at h ⊢
    split at h
    · cases h
      rfl
    · cases h

theorem length_groups_le (limit : Nat) (first : Bool) (s : List Char) :
    (groups limit first s).1.length ≤ limit := by
  fun_induction groups limit first s with
  | case1 => exact Nat.zero_le _
  | case2 => exact Nat.zero_le _
  | case3 limit first s body hbody a b c d rest hquad =>
    obtain ⟨hlimit, -⟩ := Option.ite_none_right_eq_some.1 hquad
    exact Nat.succ_le_succ hlimit
  | case4 => exact Nat.zero_le _
  | case5 limit first s body hbody hquad g behind hgroup more quad rest hmore ih =>
    rw [hmore] at ih
    exact Nat.succ_le_succ ih

/-- What is read as groups at the front of a text, and what is left behind them. -/
inductive Reads (first : Bool) (s : List Char) : List UInt16 → Bool → List Char → Prop
  | nothing : Reads first s [] false s
  | groups {gs : List UInt16} {quad : Bool} {t rest : List Char} (h : Groups gs quad t)
    (hs : s = (if first then [] else [':']) ++ t ++ rest) : Reads first s gs quad rest

theorem reads_groups (limit : Nat) (first : Bool) (s : List Char) :
    Reads first s (groups limit first s).1 (groups limit first s).2.1 (groups limit first s).2.2 := by
  fun_induction groups limit first s with
  | case1 => exact .nothing
  | case2 => exact .nothing
  | case3 limit first s body hbody a b c d rest hquad =>
    obtain ⟨-, hread⟩ := Option.ite_none_right_eq_some.1 hquad
    exact .groups (.quad a b c d) (by rw [of_afterColon? hbody, of_quad? hread, List.append_assoc])
  | case4 => exact .nothing
  | case5 limit first s body hbody hquad g behind hgroup more quad rest hmore ih =>
    obtain ⟨t, rfl, hg⟩ := of_group? hgroup
    rw [hmore] at ih
    cases ih with
    | nothing => exact .groups (.group hg) (by rw [of_afterColon? hbody, List.append_assoc])
    | groups hgs hs => exact .groups (.cons hg hgs) (by simp [of_afterColon? hbody, hs])

theorem side_of_groups {limit : Nat} {s rest : List Char} {gs : List UInt16} {quad : Bool}
    (h : groups limit true s = (gs, quad, rest)) :
    gs.length ≤ limit ∧ ∃ t, s = t ++ rest ∧ Side gs quad t := by
  have hlength := length_groups_le limit true s
  have hreads := reads_groups limit true s
  rw [h] at hlength hreads
  refine ⟨hlength, ?_⟩
  cases hreads with
  | nothing => exact ⟨[], rfl, .none⟩
  | groups hgs hs => exact ⟨_, hs, .some hgs⟩

theorem of_readV4? {s rest : List Char} {a : Address} (h : readV4? s = some (a, rest)) :
    ∃ t, s = t ++ rest ∧ Literal a t := by
  obtain ⟨⟨⟨a', b, c, d⟩, rest'⟩, hquad, heq⟩ := Option.map_eq_some_iff.1 h
  cases heq
  exact ⟨_, of_quad? hquad, .quad a' b c d⟩

theorem of_readV6? {s rest : List Char} {a : Address} (h : readV6? s = some (a, rest)) :
    ∃ t, s = t ++ rest ∧ Literal a t := by
  rw [readV6?] at h
  generalize hfront : groups 8 true s = read at h
  obtain ⟨front, quad, behind⟩ := read
  obtain ⟨hlength, t, rfl, hside⟩ := side_of_groups hfront
  simp only at h
  split at h
  -- all eight groups are there, so no gap is looked for
  · rename_i hfull
    obtain ⟨a', ha, heq⟩ := Option.map_eq_some_iff.1 h
    cases heq
    cases hside with
    | none => cases hfull
    | some hgs => exact ⟨t, rfl, .groups hgs ha⟩
  · rename_i hfull
    split at h
    · cases h
    · rename_i hquad
      obtain rfl := eq_false_of_ne_true hquad
      split at h
      · rename_i behind'
        generalize hback : groups (8 - (front.length + 1)) true behind' = read at h
        obtain ⟨back, quad', rest'⟩ := read
        obtain ⟨hlength', t', rfl, hside'⟩ := side_of_groups hback
        obtain ⟨a', ha, heq⟩ := Option.map_eq_some_iff.1 h
        cases heq
        refine ⟨_, ?_, .gap (8 - front.length - back.length) ?_ hside hside' ha⟩
        · simp
        · omega
      · cases h

theorem literal_of_parse? {s : List Char} {a : Address} (h : parse? s = some a) : Literal a s := by
  rw [parse?] at h
  split at h
  · rename_i a' hread
    cases h
    have hrest : ∃ t, s = t ++ [] ∧ Literal a t := by
      rcases Option.or_eq_some_iff.1 hread with hv4 | ⟨-, hv6⟩
      · exact of_readV4? hv4
      · exact of_readV6? hv6
    obtain ⟨t, rfl, ht⟩ := hrest
    rwa [List.append_nil]
  · cases h

end Address

namespace PowerAddress

open Address

theorem exists_withoutScheme (s : List Char) :
    ∃ front, s = front ++ withoutScheme s ∧ (front = [] ∨ "://".toList <:+ front) := by
  rw [withoutScheme]
  cases h : afterScheme? s with
  | none => exact ⟨[], rfl, .inl rfl⟩
  | some rest =>
    obtain ⟨scheme, hs⟩ := of_afterScheme? h
    exact ⟨_, hs, .inr ⟨scheme, rfl⟩⟩

theorem exists_authority (s : List Char) :
    ∃ tail, withoutScheme s = authority s ++ tail ∧ ∀ c ∈ tail.head?, c ∈ ['/', '?', '#'] := by
  refine ⟨_, List.takeWhile_append_dropWhile.symm, fun c hc ↦ ?_⟩
  have hends := List.head?_dropWhile_not (fun c ↦ !endsAuthority c) (withoutScheme s)
  rw [Option.mem_def.1 hc] at hends
  simp only [endsAuthority, Bool.not_eq_false', Bool.or_eq_true, beq_iff_eq, or_assoc] at hends
  simpa using hends

/-- In brackets or not, the host is a part of its own. -/
theorem of_host? {s host : List Char} (h : host? s = some host) :
    ∃ pre post, s = pre ++ host ++ post ∧
      (pre = ['['] ∧ post.head? = some ']' ∨ pre = [] ∧ ∀ c ∈ post.head?, c = ':') := by
  unfold host? at h
  split at h
  · rename_i inner
    obtain ⟨⟨host', after⟩, hsplit, heq⟩ := Option.map_eq_some_iff.1 h
    cases heq
    refine ⟨['['], ']' :: after, ?_, .inl ⟨rfl, rfl⟩⟩
    rw [of_splitFirst? hsplit]
    rfl
  · split at h
    · cases h
      exact ⟨[], [], (List.append_nil _).symm, .inr ⟨rfl, fun c hc ↦ nomatch hc⟩⟩
    · cases h
      refine ⟨[], _, List.takeWhile_append_dropWhile.symm, .inr ⟨rfl, fun c hc ↦ ?_⟩⟩
      have hends := List.head?_dropWhile_not (· != ':') s
      rw [Option.mem_def.1 hc] at hends
      simpa using hends

theorem exists_hostPort (s : List Char) :
    ∃ pre post, s = pre ++ hostPort s ++ post ∧
      (pre = [] ∨ "://".toList <:+ pre ∨ ['@'] <:+ pre) ∧ ∀ c ∈ post.head?, c ∈ ['/', '?', '#'] := by
  obtain ⟨front, hfront, hscheme⟩ := exists_withoutScheme s
  obtain ⟨tail, htail, hends⟩ := exists_authority s
  obtain ⟨info, hinfo, hat⟩ := exists_afterLast '@' (authority s)
  refine ⟨front ++ info, tail, ?_, ?_, hends⟩
  · rw [List.append_assoc front, hostPort, ← hinfo, List.append_assoc, ← htail]
    exact hfront
  · rcases hat with rfl | hat
    · rw [List.append_nil]
      exact hscheme.imp_right .inl
    · exact .inr (.inr (hat.trans (List.suffix_append front info)))

theorem getLast?_ne_bracket {pre : List Char}
    (h : pre = [] ∨ "://".toList <:+ pre ∨ ['@'] <:+ pre) : pre.getLast? ≠ some '[' := by
  rcases h with rfl | ⟨front, rfl⟩ | ⟨front, rfl⟩
  · decide
  · simp
  · simp

theorem exists_host {s host : List Char} (h : host? (hostPort s) = some host) :
    ∃ pre post, s = pre ++ host ++ post ∧
      (pre = [] ∨ ∃ mark ∈ ["://", "@", "["], mark.toList <:+ pre) ∧
      (∀ c ∈ post.head?, c ∈ [']', ':', '/', '?', '#']) ∧
      (pre.getLast? = some '[' ↔ post.head? = some ']') := by
  obtain ⟨pre, post, hs, hpre, hpost⟩ := exists_hostPort s
  obtain ⟨bracket, behind, hhost, ⟨rfl, hbehind⟩ | ⟨rfl, hbehind⟩⟩ := of_host? h
  · have hhead : (behind ++ post).head? = some ']' := by
      rw [List.head?_append, hbehind, Option.some_or]
    refine ⟨pre ++ ['['], behind ++ post, by rw [hs, hhost]; simp, ?_, ?_, ?_⟩
    · exact .inr ⟨"[", by simp, List.suffix_append pre ['[']⟩
    · rw [hhead]
      simp
    · exact iff_of_true List.getLast?_concat hhead
  · have hhead : ∀ c ∈ (behind ++ post).head?, c ∈ [':', '/', '?', '#'] := by
      intro c hc
      rw [List.head?_append, Option.mem_def, Option.or_eq_some_iff] at hc
      rcases hc with hc | ⟨-, hc⟩
      · rw [hbehind c hc]
        decide
      · exact List.mem_cons_of_mem _ (hpost c hc)
    refine ⟨pre, behind ++ post, by rw [hs, hhost]; simp, ?_, ?_, ?_⟩
    · exact hpre.imp_right (fun hmark ↦ hmark.elim (⟨"://", by simp, ·⟩) (⟨"@", by simp, ·⟩))
    · exact fun c hc ↦ List.mem_cons_of_mem _ (hhead c hc)
    · exact iff_of_false (getLast?_ne_bracket hpre) (fun hc ↦ absurd (hhead ']' hc) (by decide))

/-- An IP address that is found stands alone as the host: its text is neither a part of a longer
host nor a lenient reading of one. -/
theorem ip?_whole_host {s : String} {a : Address} (h : ip? s = some a) :
    ∃ pre host post : String, s = pre ++ host ++ post ∧ Literal a host.toList ∧
      (pre = "" ∨ ∃ mark ∈ ["://", "@", "["], mark.toList <:+ pre.toList) ∧
      (∀ c ∈ post.toList.head?, c ∈ [']', ':', '/', '?', '#']) ∧
      (pre.toList.getLast? = some '[' ↔ post.toList.head? = some ']') := by
  obtain ⟨host, hhost, hparse⟩ := Option.bind_eq_some_iff.1 h
  obtain ⟨pre, post, hs, hpre, hpost, hbrackets⟩ := exists_host hhost
  have hsplit : s = String.ofList pre ++ String.ofList host ++ String.ofList post := by
    rw [← String.ofList_append, ← String.ofList_append, ← hs, String.ofList_toList]
  refine ⟨.ofList pre, .ofList host, .ofList post, hsplit, ?_⟩
  simp only [String.toList_ofList]
  exact ⟨literal_of_parse? hparse, hpre.imp_left (congrArg String.ofList), hpost, hbrackets⟩

theorem ip?_whole_host_mapped :
    ip? "qemu+ssh://ops:a@b@[0:00::FFFF:10.0.0.1]:8443/system" =
        some (v6 0 0 0 0 0 0xffff 0x0a00 0x0001) ∧
      ∃ pre host post : String,
        "qemu+ssh://ops:a@b@[0:00::FFFF:10.0.0.1]:8443/system" = pre ++ host ++ post ∧
        Literal (v6 0 0 0 0 0 0xffff 0x0a00 0x0001) host.toList ∧
        (pre = "" ∨ ∃ mark ∈ ["://", "@", "["], mark.toList <:+ pre.toList) ∧
        (∀ c ∈ post.toList.head?, c ∈ [']', ':', '/', '?', '#']) ∧
        (pre.toList.getLast? = some '[' ↔ post.toList.head? = some ']') := by
  have h : ip? "qemu+ssh://ops:a@b@[0:00::FFFF:10.0.0.1]:8443/system" =
      some (v6 0 0 0 0 0 0xffff 0x0a00 0x0001) := by decide
  exact ⟨h, ip?_whole_host h⟩

end PowerAddress

end PodInventory
