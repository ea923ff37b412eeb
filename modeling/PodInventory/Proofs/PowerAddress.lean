import PodInventory.PowerAddress
import PodInventory.Proofs.Address
import PodInventory.Proofs.Text.Split

namespace PodInventory

open Text

namespace Address

theorem mem_joinWith {separator : List Char} {parts : List (List Char)} {c : Char}
    (h : c ∈ joinWith separator parts) : c ∈ separator ∨ ∃ part ∈ parts, c ∈ part := by
  induction parts with
  | nil => cases h
  | cons x xs ih =>
    cases xs with
    | nil => exact .inr ⟨x, List.mem_singleton_self x, h⟩
    | cons y ys =>
      rw [joinWith, List.append_assoc, List.mem_append, List.mem_append] at h
      · rcases h with h | h | h
        · exact .inr ⟨x, List.mem_cons_self, h⟩
        · exact .inl h
        · rcases ih h with hc | ⟨part, hpart, hc⟩
          · exact .inl hc
          · exact .inr ⟨part, List.mem_cons_of_mem x hpart, hc⟩
      · simp

/-- The characters of numerals of either base. -/
def IsFigure (c : Char) : Prop := ∃ d < 16, c = Nat.digitChar d

theorem isFigure_of_mem_decimal {n : Nat} {c : Char} (h : c ∈ decimal n) : IsFigure c := by
  rw [decimal_eq_map] at h
  obtain ⟨d, hd, rfl⟩ := List.mem_map.1 h
  have hlt := lt_of_mem_digitsOf (by decide : 1 < 10) n d hd
  exact ⟨d, by omega, rfl⟩

theorem isFigure_of_mem_hexadecimal {n : Nat} {c : Char} (h : c ∈ hexadecimal n) :
    IsFigure c := by
  rw [hexadecimal_eq_map] at h
  obtain ⟨d, hd, rfl⟩ := List.mem_map.1 h
  exact ⟨d, lt_of_mem_digitsOf (by decide) n d hd, rfl⟩

theorem of_mem_quadText {a b c d : UInt8} {x : Char} (h : x ∈ quadText a b c d) :
    x = '.' ∨ IsFigure x := by
  rcases mem_joinWith h with h | ⟨part, hpart, hx⟩
  · exact .inl (List.mem_singleton.1 h)
  · obtain ⟨o, -, rfl⟩ := List.mem_map.1 hpart
    exact .inr (isFigure_of_mem_decimal hx)

theorem of_mem_groupsText {gs : List UInt16} {x : Char} (h : x ∈ groupsText gs) :
    x = ':' ∨ IsFigure x := by
  rcases mem_joinWith h with h | ⟨part, hpart, hx⟩
  · exact .inl (List.mem_singleton.1 h)
  · obtain ⟨g, -, rfl⟩ := List.mem_map.1 hpart
    exact .inr (isFigure_of_mem_hexadecimal hx)

theorem of_mem_v6Text {gs : List UInt16} {x : Char} (h : x ∈ v6Text gs) :
    x = ':' ∨ IsFigure x := by
  unfold v6Text at h
  generalize longestRun gs = run at h
  simp only at h
  split at h
  · rcases List.mem_append.1 h with h | h
    · rcases List.mem_append.1 h with h | h
      · exact of_mem_groupsText h
      · exact .inl (by simpa using h)
    · exact of_mem_groupsText h
  · exact of_mem_groupsText h

/-- An address is written with figures, dots and colons alone. -/
theorem of_mem_text {a : Address} {x : Char} (h : x ∈ a.text) :
    x = '.' ∨ x = ':' ∨ IsFigure x := by
  cases a with
  | v4 a b c d => exact (of_mem_quadText h).imp_right .inr
  | v6 a b c d e f g h' =>
    rw [text] at h
    split at h
    · rcases List.mem_append.1 h with h | h
      · have hfront : ∀ y ∈ "::ffff:".toList, y = ':' ∨ y = 'f' := by simp
        rcases hfront x h with rfl | rfl
        · exact .inr (.inl rfl)
        · exact .inr (.inr ⟨15, by decide, rfl⟩)
      · exact (of_mem_quadText h).imp_right .inr
    · exact .inr (of_mem_v6Text h)

theorem digitChar_not_mem :
    ∀ d < 16, Nat.digitChar d ∉ ['/', '?', '#', '@', '[', ']', ':'] := by
  decide

theorem not_mem_text {c : Char} (hc : c ∈ ['/', '?', '#', '@', '[', ']']) (a : Address) :
    c ∉ a.text := by
  intro h
  rcases of_mem_text h with rfl | rfl | ⟨d, hd, rfl⟩
  · exact absurd hc (by decide)
  · exact absurd hc (by decide)
  · exact digitChar_not_mem d hd (List.mem_append_left [':'] hc)

theorem colon_not_mem_quadText (a b c d : UInt8) : ':' ∉ quadText a b c d := by
  intro h
  rcases of_mem_quadText h with h | ⟨d, hd, h⟩
  · exact absurd h (by decide)
  · exact digitChar_not_mem d hd (h ▸ by decide)

theorem length_le_count_colonText (gs : List UInt16) :
    gs.length ≤ (colonText gs).count ':' := by
  induction gs with
  | nil => exact Nat.le_refl _
  | cons g gs ih =>
    rw [colonText, List.flatMap_cons, List.cons_append, List.count_cons_self, List.count_append,
      List.length_cons]
    rw [colonText] at ih
    omega

/-- A version 6 address always shows at least two colons, which no address with a port does. -/
theorem one_lt_count_v6Text {gs : List UInt16} (hgs : gs.length = 8) :
    1 < (v6Text gs).count ':' := by
  unfold v6Text
  generalize longestRun gs = run
  simp only
  split
  · rw [List.count_append, List.count_append]
    have htwo : [':', ':'].count ':' = 2 := by decide
    omega
  · obtain ⟨g, gs, rfl⟩ := List.exists_cons_of_length_eq_add_one hgs
    have hcolons := length_le_count_colonText gs
    rw [groupsText_cons, List.count_append]
    simp only [List.length_cons] at hgs
    omega

theorem one_lt_count_text (a b c d e f g h : UInt16) :
    1 < (v6 a b c d e f g h).text.count ':' := by
  rw [text]
  split
  · have hfront : "::ffff:".toList.count ':' = 3 := by decide
    rw [List.count_append]
    omega
  · exact one_lt_count_v6Text rfl

theorem parse?_text (a : Address) : parse? a.text = some a := by
  have h := ofText?_toText a
  rwa [ofText?, toText, String.toList_ofList] at h

/-- An address as the host of a power address. One of version 6 stands in brackets. -/
def hostText : Address → String
  | v4 a b c d => (v4 a b c d).toText
  | v6 a b c d e f g h => "[" ++ (v6 a b c d e f g h).toText ++ "]"

end Address

namespace PowerAddress

open Address

/-- The address in what follows the scheme. -/
def located? (rest : List Char) : Option Address :=
  (host? (afterLast '@' (rest.takeWhile (fun c ↦ !endsAuthority c)))).bind Address.parse?

theorem ip?_append {scheme : String} (h : ¬ "://".toList <:+: scheme.toList) (rest : String) :
    ip? (scheme ++ "://" ++ rest) = located? rest.toList := by
  have hscheme : afterScheme? (scheme ++ "://" ++ rest).toList = some rest.toList := by
    rw [String.toList_append, String.toList_append, List.append_assoc]
    exact afterScheme?_append h rest.toList
  rw [ip?, hostPort, authority, withoutScheme, hscheme, Option.getD_some, located?]

theorem ip?_of_no_scheme {rest : String} (h : ¬ "://".toList <:+: rest.toList) :
    ip? rest = located? rest.toList := by
  have hnone := afterScheme?_eq_none h
  rw [ip?, hostPort, authority, withoutScheme, hnone, Option.getD_none, located?]

theorem endsAuthority_eq_false {c : Char} (h : c ∉ ['/', '?', '#']) : endsAuthority c = false := by
  simpa [endsAuthority, and_assoc] using h

theorem endsAuthority_of_head {tail : List Char} (h : ∀ c ∈ tail.head?, c ∈ ['/', '?', '#']) :
    tail = [] ∨ ∃ c rest, tail = c :: rest ∧ endsAuthority c = true := by
  cases tail with
  | nil => exact .inl rfl
  | cons c rest =>
    have hc := h c rfl
    exact .inr ⟨c, rest, rfl, by simpa [endsAuthority, or_assoc] using hc⟩

theorem located?_append {front tail : List Char} (hfront : ∀ c ∈ front, c ∉ ['/', '?', '#'])
    (htail : ∀ c ∈ tail.head?, c ∈ ['/', '?', '#']) :
    located? (front ++ tail) = (host? (afterLast '@' front)).bind Address.parse? := by
  have hall : ∀ c ∈ front, (!endsAuthority c) = true :=
    fun c hc ↦ congrArg not (endsAuthority_eq_false (hfront c hc))
  have htake : (front ++ tail).takeWhile (fun c ↦ !endsAuthority c) = front := by
    rcases endsAuthority_of_head htail with rfl | ⟨c, rest, rfl, hc⟩
    · rw [List.append_nil]
      exact List.takeWhile_eq_self_iff.2 hall
    · exact takeWhile_append_cons hall (congrArg not hc) rest
  rw [located?, htake]

theorem host?_of_no_bracket {s : List Char} (h : ∀ c ∈ s.head?, c ≠ '[') :
    host? s = if 1 < s.count ':' then some s else some (s.takeWhile (· != ':')) := by
  unfold host?
  split
  · exact absurd rfl (h '[' rfl)
  · rfl

/-- Brackets close in front of the port, whatever follows them. -/
theorem host?_brackets (a : Address) (rest : List Char) :
    (host? ('[' :: (a.text ++ ']' :: rest))).bind Address.parse? = some a := by
  have hsplit := splitFirst?_append (not_mem_text (c := ']') (by decide) a) rest
  rw [host?, hsplit, Option.map_some, Option.bind_some, parse?_text]

theorem head?_text_ne_bracket (a : Address) {port : List Char} (h : ∀ c ∈ port.head?, c = ':') :
    ∀ c ∈ (a.text ++ port).head?, c ≠ '[' := by
  intro c hc
  rw [List.head?_append, Option.mem_def, Option.or_eq_some_iff] at hc
  rcases hc with hc | ⟨-, hc⟩
  · rintro rfl
    exact not_mem_text (by decide) a (List.mem_of_head? hc)
  · rw [h c hc]
    decide

/-- Without colons in it an address ends where its port begins. -/
theorem host?_quad (a b c d : UInt8) {port : List Char}
    (hport : port = [] ∨ ∃ p, port = ':' :: p ∧ ':' ∉ p) :
    (host? ((v4 a b c d).text ++ port)).bind Address.parse? = some (v4 a b c d) := by
  have hcolon : ':' ∉ (v4 a b c d).text := colon_not_mem_quadText a b c d
  have hall : ∀ x ∈ (v4 a b c d).text, (x != ':') = true := by
    intro x hx
    rw [bne_iff_ne]
    rintro rfl
    exact hcolon hx
  have hcount : (v4 a b c d).text.count ':' = 0 := List.count_eq_zero.2 hcolon
  rcases hport with rfl | ⟨p, rfl, hp⟩
  · rw [host?_of_no_bracket (head?_text_ne_bracket _ (by simp)), List.append_nil,
      if_neg (by omega), List.takeWhile_eq_self_iff.2 hall, Option.bind_some, parse?_text]
  · have hone : ((v4 a b c d).text ++ ':' :: p).count ':' = 1 := by
      rw [List.count_append, List.count_cons_self, hcount, List.count_eq_zero.2 hp]
    rw [host?_of_no_bracket (head?_text_ne_bracket _ (by simp)), hone, if_neg (by decide),
      takeWhile_append_cons hall (by decide), Option.bind_some, parse?_text]

theorem host?_of_colons {a : Address} (h : 1 < a.text.count ':') :
    (host? a.text).bind Address.parse? = some a := by
  have hbracket : ∀ c ∈ (a.text ++ []).head?, c ≠ '[' := head?_text_ne_bracket a (by simp)
  rw [List.append_nil] at hbracket
  rw [host?_of_no_bracket hbracket, if_pos h, Option.bind_some, parse?_text]

theorem toList_hostText_v4 (a b c d : UInt8) :
    (v4 a b c d).hostText.toList = (v4 a b c d).text := String.toList_ofList

theorem toList_hostText_v6 (a b c d e f g h : UInt16) :
    (v6 a b c d e f g h).hostText.toList = '[' :: ((v6 a b c d e f g h).text ++ [']']) := by
  simp [hostText, toText]

/-- The ways to write an address where the user info ends, with a port or without one. -/
inductive Names (a : Address) : List Char → Prop
  | host : Names a a.hostText.toList
  | port (p : List Char) (hp : ∀ c ∈ p, c ∉ ['/', '?', '#', '@', ':']) :
    Names a (a.hostText.toList ++ ':' :: p)
  | bare : Names a a.toText.toList

theorem Names.host?_eq {a : Address} {s : List Char} (h : Names a s) :
    (host? s).bind Address.parse? = some a := by
  cases a with
  | v4 a b c d =>
    have halone := host?_quad a b c d (.inl rfl)
    rw [List.append_nil] at halone
    cases h with
    | host => rwa [toList_hostText_v4]
    | port p hp =>
      rw [toList_hostText_v4]
      exact host?_quad a b c d (.inr ⟨p, rfl, fun hmem ↦ hp ':' hmem (by decide)⟩)
    | bare => rwa [toText, String.toList_ofList]
  | v6 a b c d e f g h' =>
    cases h with
    | host =>
      rw [toList_hostText_v6]
      exact host?_brackets (v6 a b c d e f g h') []
    | port p hp =>
      rw [toList_hostText_v6, List.cons_append, List.append_assoc]
      exact host?_brackets (v6 a b c d e f g h') (':' :: p)
    | bare =>
      rw [toText, String.toList_ofList]
      exact host?_of_colons (one_lt_count_text a b c d e f g h')

theorem not_mem_toList_hostText {c : Char} (hc : c ∈ ['/', '?', '#', '@']) (a : Address) :
    c ∉ a.hostText.toList := by
  have htext : c ∉ a.text := not_mem_text (List.mem_append_left ['[', ']'] hc) a
  have hne : ∀ c ∈ ['/', '?', '#', '@'], c ≠ '[' ∧ c ≠ ']' := by simp
  cases a with
  | v4 a b c' d =>
    rw [toList_hostText_v4]
    exact htext
  | v6 a b c' d e f g h =>
    rw [toList_hostText_v6]
    simpa [hne c hc] using htext

theorem Names.not_mem {a : Address} {s : List Char} (h : Names a s) {c : Char}
    (hc : c ∈ ['/', '?', '#', '@']) : c ∉ s := by
  cases h with
  | host => exact not_mem_toList_hostText hc a
  | port p hp =>
    intro hmem
    rcases List.mem_append.1 hmem with hmem | hmem
    · exact not_mem_toList_hostText hc a hmem
    · rcases List.mem_cons.1 hmem with rfl | hmem
      · exact absurd hc (by decide)
      · exact hp c hmem (List.mem_append_left [':'] hc)
  | bare =>
    rw [toText, String.toList_ofList]
    exact not_mem_text (List.mem_append_left ['[', ']'] hc) a

/-- Only the last at sign ends the user info. -/
theorem Names.located? {a : Address} {s : List Char} (h : Names a s) {info tail : List Char}
    (hinfo : info = [] ∨ ∃ user, info = user ++ ['@'] ∧ ∀ c ∈ user, c ∉ ['/', '?', '#'])
    (htail : ∀ c ∈ tail.head?, c ∈ ['/', '?', '#']) :
    located? (info ++ s ++ tail) = some a := by
  have hs : ∀ c ∈ s, c ∉ ['/', '?', '#'] :=
    fun c hc hmem ↦ h.not_mem (List.mem_append_left ['@'] hmem) hc
  have hat : '@' ∉ s := h.not_mem (by decide)
  rcases hinfo with rfl | ⟨user, rfl, huser⟩
  · rw [List.nil_append, located?_append hs htail, afterLast_of_not_mem hat, h.host?_eq]
  · have hall : ∀ c ∈ user ++ ['@'] ++ s, c ∉ ['/', '?', '#'] := by
      intro c hc
      rcases List.mem_append.1 hc with hc | hc
      · rcases List.mem_append.1 hc with hc | hc
        · exact huser c hc
        · rw [List.mem_singleton.1 hc]
          decide
      · exact hs c hc
    rw [located?_append hall htail, List.append_assoc, List.singleton_append,
      afterLast_append user hat, h.host?_eq]

/-- The host of a power address is found wherever an address stands as the host, with its port or
bare, whatever the scheme, the user info and the tail look like. -/
theorem ip?_of_location (a : Address) (scheme user port tail : String)
    (hscheme : ¬ "://".toList <:+: scheme.toList) (huser : ∀ c ∈ user.toList, c ∉ ['/', '?', '#'])
    (hport : ∀ c ∈ port.toList, c ∉ ['/', '?', '#', '@', ':'])
    (htail : ∀ c ∈ tail.toList.head?, c ∈ ['/', '?', '#']) :
    ∀ info ∈ ["", user ++ "@"], ∀ host ∈ [a.hostText, a.hostText ++ ":" ++ port, a.toText],
      ip? (scheme ++ "://" ++ (info ++ host ++ tail)) = some a ∧
        (¬ "://".toList <:+: (info ++ host ++ tail).toList →
          ip? (info ++ host ++ tail) = some a) := by
  intro info hinfo host hhost
  have hnames : Names a host.toList := by
    simp only [List.mem_cons, List.not_mem_nil, or_false] at hhost
    rcases hhost with rfl | rfl | rfl
    · exact .host
    · rw [String.toList_append, String.toList_append, List.append_assoc]
      exact .port port.toList hport
    · exact .bare
  have hinfo' : info.toList = [] ∨
      ∃ user, info.toList = user ++ ['@'] ∧ ∀ c ∈ user, c ∉ ['/', '?', '#'] := by
    simp only [List.mem_cons, List.not_mem_nil, or_false] at hinfo
    rcases hinfo with rfl | rfl
    · exact .inl rfl
    · exact .inr ⟨user.toList, String.toList_append, huser⟩
  have hlocated := hnames.located? hinfo' htail
  rw [← String.toList_append, ← String.toList_append] at hlocated
  refine ⟨?_, fun hnone ↦ ?_⟩
  · rw [ip?_append hscheme, hlocated]
  · rw [ip?_of_no_scheme hnone, hlocated]

theorem ip?_of_location_mapped :
    let mapped := v6 0 0 0 0 0 0xffff 0x0a00 0x0001
    (¬ "://".toList <:+: "qemu+ssh".toList ∧ (∀ c ∈ "ops:a@b".toList, c ∉ ['/', '?', '#']) ∧
        (∀ c ∈ "8443".toList, c ∉ ['/', '?', '#', '@', ':']) ∧
        ∀ c ∈ "/system?x=@1".toList.head?, c ∈ ['/', '?', '#']) ∧
      ip? "qemu+ssh://ops:a@b@[::ffff:10.0.0.1]:8443/system?x=@1" = some mapped ∧
      ip? "ops:a@b@[::ffff:10.0.0.1]:8443/system?x=@1" = some mapped := by
  intro mapped
  have hinfo : ∀ c ∈ "ops:a@b".toList, c ∉ ['/', '?', '#'] := by simp
  have hport : ∀ c ∈ "8443".toList, c ∉ ['/', '?', '#', '@', ':'] := by simp
  have htail : ∀ c ∈ "/system?x=@1".toList.head?, c ∈ ['/', '?', '#'] := by simp
  have h := ip?_of_location mapped "qemu+ssh" "ops:a@b" "8443" "/system?x=@1" (by decide)
    hinfo hport htail ("ops:a@b" ++ "@") (by simp) (mapped.hostText ++ ":" ++ "8443") (by simp)
  have htext : "ops:a@b" ++ "@" ++ (mapped.hostText ++ ":" ++ "8443") ++ "/system?x=@1" =
      "ops:a@b@[::ffff:10.0.0.1]:8443/system?x=@1" := by decide
  rw [htext] at h
  exact ⟨⟨by decide, hinfo, hport, htail⟩, h.1, h.2 (by decide)⟩

/-- Whatever follows the authority makes no difference to a power address with a scheme, nor to one
without, unless a separator turns it into one with a scheme. -/
theorem ip?_ignores_tail (authority tail : String)
    (hauthority : ∀ c ∈ authority.toList, c ∉ ['/', '?', '#'])
    (htail : ∀ c ∈ tail.toList.head?, c ∈ ['/', '?', '#']) :
    (∀ scheme : String, ¬ "://".toList <:+: scheme.toList →
      ip? (scheme ++ "://" ++ (authority ++ tail)) = ip? (scheme ++ "://" ++ authority)) ∧
    (¬ "://".toList <:+: (authority ++ tail).toList → ip? (authority ++ tail) = ip? authority) := by
  have hbehind : located? (authority ++ tail).toList = located? authority.toList := by
    have halone : located? (authority.toList ++ []) =
        (host? (afterLast '@' authority.toList)).bind Address.parse? :=
      located?_append hauthority (by simp)
    rw [List.append_nil] at halone
    rw [String.toList_append, located?_append hauthority htail, halone]
  refine ⟨fun scheme hscheme ↦ ?_, fun hnone ↦ ?_⟩
  · rw [ip?_append hscheme, ip?_append hscheme, hbehind]
  · have hfront : ¬ "://".toList <:+: authority.toList := by
      rw [String.toList_append] at hnone
      exact fun hin ↦ hnone (hin.trans (List.prefix_append _ _).isInfix)
    rw [ip?_of_no_scheme hnone, ip?_of_no_scheme hfront, hbehind]

/-- Behind a scheme the tail may hold another address. -/
theorem ip?_ignores_tail_image :
    ((∀ c ∈ "ops@10.0.0.1:8443".toList, c ∉ ['/', '?', '#']) ∧
        ∀ tail ∈ ["/boot?image=http://10.0.0.2/", "#10.0.0.2"],
          ∀ c ∈ tail.toList.head?, c ∈ ['/', '?', '#']) ∧
      ip? "https://ops@10.0.0.1:8443/boot?image=http://10.0.0.2/" = some (v4 10 0 0 1) ∧
      ip? "ops@10.0.0.1:8443#10.0.0.2" = some (v4 10 0 0 1) := by
  have hauthority : ∀ c ∈ "ops@10.0.0.1:8443".toList, c ∉ ['/', '?', '#'] := by simp
  have htail : ∀ tail ∈ ["/boot?image=http://10.0.0.2/", "#10.0.0.2"],
      ∀ c ∈ tail.toList.head?, c ∈ ['/', '?', '#'] := by simp
  have hurl := (ip?_ignores_tail "ops@10.0.0.1:8443" "/boot?image=http://10.0.0.2/" hauthority
    (htail _ (by simp))).1 "https" (by decide)
  have hbare := (ip?_ignores_tail "ops@10.0.0.1:8443" "#10.0.0.2" hauthority
    (htail _ (by simp))).2 (by decide)
  have hurl' : "https" ++ "://" ++ ("ops@10.0.0.1:8443" ++ "/boot?image=http://10.0.0.2/") =
      "https://ops@10.0.0.1:8443/boot?image=http://10.0.0.2/" := by decide
  have hbare' : "ops@10.0.0.1:8443" ++ "#10.0.0.2" = "ops@10.0.0.1:8443#10.0.0.2" := by decide
  have hlocated : ip? ("https" ++ "://" ++ "ops@10.0.0.1:8443") = some (v4 10 0 0 1) := by decide
  have hlocated' : ip? "ops@10.0.0.1:8443" = some (v4 10 0 0 1) := by decide
  rw [hurl', hlocated] at hurl
  rw [hbare', hlocated'] at hbare
  exact ⟨⟨hauthority, htail⟩, hurl, hbare⟩

/-- A separator makes a scheme of all that stands in front of it, where it begins with the colon of
an authority and where it stands anywhere in a tail. -/
theorem ip?_follows_separator :
    (∀ authority ∈ ["https:", "10.0.0.1"], ∀ c ∈ authority.toList, c ∉ ['/', '?', '#']) ∧
      ip? ("https:" ++ "//10.1.1.1:8443") ≠ ip? "https:" ∧
      ip? ("10.0.0.1" ++ "/boot?image=http://10.0.0.2/") ≠ ip? "10.0.0.1" := by
  refine ⟨by simp, ?_, ?_⟩ <;> decide

end PowerAddress

end PodInventory
