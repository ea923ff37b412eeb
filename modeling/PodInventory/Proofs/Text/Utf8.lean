import Mathlib.Tactic.IntervalCases
import PodInventory.Proofs.Text.Order
import PodInventory.Text.Utf8

namespace PodInventory.Text

/-- The byte of six further bits. -/
def tail (n : Nat) : UInt8 := .ofNat (n + 0x80)

theorem tail_toNat {n : Nat} (h : n < 64) : (tail n).toNat = n + 0x80 := by
  rw [tail, UInt8.toNat_ofNat']
  omega

/-- The bits of further bytes are put together if they are in bounds. Only the first of them has
bounds of its own. -/
theorem further_tail {ns : List Nat} (hns : ∀ n ∈ ns, n < 64) {low high : UInt8}
    (hfirst : ∀ n ∈ ns.head?, low.toNat ≤ n + 0x80 ∧ n + 0x80 ≤ high.toNat) (code : Nat)
    (rest : List UInt8) : further ns.length low high code (ns.map tail ++ rest) =
      (some (ns.foldl (fun code n ↦ code * 64 + n) code), rest) := by
  induction ns generalizing low high code with
  | nil => rfl
  | cons n ns ih =>
    obtain ⟨hn, hns⟩ := List.forall_mem_cons.1 hns
    obtain ⟨hlow, hhigh⟩ := hfirst n rfl
    have htail := tail_toNat hn
    rw [List.length_cons, List.map_cons, List.cons_append, further,
      if_pos (by rw [UInt8.le_iff_toNat_le, UInt8.le_iff_toNat_le]; omega), htail,
      Nat.add_sub_cancel, ih hns (fun m hm ↦ ?_), List.foldl_cons]
    have hm := hns m (List.mem_of_mem_head? hm)
    simp only [UInt8.toNat_ofNat]
    omega

section Leads

variable {n : Nat}

theorem lead?_one (h : n < 128) : lead? (.ofNat n) = some ⟨n, 0, 0, 0⟩ := by
  simp only [lead?, UInt8.lt_iff_toNat_lt, UInt8.toNat_ofNat', UInt8.toNat_ofNat]
  rw [if_pos (by omega), Nat.mod_eq_of_lt (by omega)]

theorem lead?_two (hlow : 2 ≤ n) (hhigh : n < 32) :
    lead? (.ofNat (n + 0xc0)) = some ⟨n, 1, 0x80, 0xbf⟩ := by
  simp only [lead?, UInt8.lt_iff_toNat_lt, UInt8.toNat_ofNat', UInt8.toNat_ofNat]
  rw [if_neg (by omega), if_neg (by omega), if_pos (by omega), Nat.mod_eq_of_lt (by omega),
    Nat.add_sub_cancel]

theorem lead?_three (h : n < 16) : lead? (.ofNat (n + 0xe0)) =
    some ⟨n, 2, if n = 0 then 0xa0 else 0x80, if n = 13 then 0x9f else 0xbf⟩ := by
  interval_cases n <;> rfl

theorem lead?_four (h : n < 5) : lead? (.ofNat (n + 0xf0)) =
    some ⟨n, 3, if n = 0 then 0x90 else 0x80, if n = 4 then 0x8f else 0xbf⟩ := by
  interval_cases n <;> rfl

end Leads

theorem utf8Char_of_lead (ns : List Nat) {b : UInt8} {l : Lead} {c : Char}
    (hlead : lead? b = some l) (hmore : l.more = ns.length) (hns : ∀ n ∈ ns, n < 64)
    (hfirst : ∀ n ∈ ns.head?, l.low.toNat ≤ n + 0x80 ∧ n + 0x80 ≤ l.high.toNat)
    (hcode : ns.foldl (fun code n ↦ code * 64 + n) l.bits = c.toNat) (rest : List UInt8) :
    utf8Char b (ns.map tail ++ rest) = (some c, rest) := by
  rw [utf8Char, hlead]
  simp only [hmore, further_tail hns hfirst, hcode, Option.map_some, Char.ofNat_toNat]

/-- The bytes of a character give it back, whatever follows them. -/
theorem utf8Char_encode (c : Char) : ∃ b more, String.utf8EncodeChar c = b :: more ∧
    ∀ rest, utf8Char b (more ++ rest) = (some c, rest) := by
  have hvalid : c.toNat < 0xd800 ∨ 0xdfff < c.toNat ∧ c.toNat < 0x110000 := c.valid
  have hmod (n : Nat) : n % 64 < 64 := Nat.mod_lt n (by decide)
  rw [String.utf8EncodeChar, show c.val.toNat = c.toNat from rfl]
  generalize hv : c.toNat = v at hvalid
  split_ifs with h₁ h₂ h₃
  · exact ⟨_, _, rfl, utf8Char_of_lead [] (lead?_one (by omega)) rfl (by simp) (by simp) hv.symm⟩
  · refine ⟨_, _, rfl, utf8Char_of_lead [v % 64] (lead?_two (n := v / 64 % 32) (by omega)
      (by omega)) rfl (by simp [hmod]) ?_ ?_⟩
    · rintro n ⟨⟩
      simp only [UInt8.toNat_ofNat]
      omega
    · simp only [List.foldl]
      omega
  · refine ⟨_, _, rfl, utf8Char_of_lead [v / 64 % 64, v % 64] (lead?_three (n := v / 4096 % 16)
      (by omega)) rfl (by simp [hmod]) ?_ ?_⟩
    · rintro n ⟨⟩
      dsimp only
      split_ifs <;> simp only [UInt8.toNat_ofNat] <;> omega
    · simp only [List.foldl]
      omega
  · refine ⟨_, _, rfl, utf8Char_of_lead [v / 4096 % 64, v / 64 % 64, v % 64]
      (lead?_four (n := v / 262144 % 8) (by omega)) rfl (by simp [hmod]) ?_ ?_⟩
    · rintro n ⟨⟩
      dsimp only
      split_ifs <;> simp only [UInt8.toNat_ofNat] <;> omega
    · simp only [List.foldl]
      omega

theorem utf8Chars_flatMap (l : List Char) :
    utf8Chars (l.flatMap String.utf8EncodeChar) = l.map some := by
  induction l with
  | nil => rw [List.flatMap_nil, utf8Chars]; rfl
  | cons c l ih =>
    obtain ⟨b, more, hbytes, hchar⟩ := utf8Char_encode c
    rw [List.flatMap_cons, hbytes, List.cons_append, utf8Chars, hchar, ih, List.map_cons]

theorem utf8Chars_bytes (s : String) : utf8Chars (bytes s) = s.toList.map some := by
  rw [bytes_eq, utf8Chars_flatMap]

/-- A text is got back from its bytes. -/
theorem ofUtf8?_bytes (s : String) : ofUtf8? (bytes s) = some s := by
  have hmap (l : List Char) : (l.map some).mapM id = some l := by
    induction l with
    | nil => rfl
    | cons c l ih => simp [ih]
  rw [ofUtf8?, utf8Chars_bytes, hmap, Option.map_some, String.ofList_toList]

theorem ofUtf8Lossy_bytes (s : String) : ofUtf8Lossy (bytes s) = s := by
  rw [ofUtf8Lossy, utf8Chars_bytes, List.map_map]
  exact (congrArg String.ofList (List.map_id _)).trans String.ofList_toList

end PodInventory.Text
