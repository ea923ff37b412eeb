import Mathlib.Data.List.Basic
import Mathlib.Data.String.Basic
import Mathlib.Tactic.SplitIfs

namespace PodInventory.Text

/-- The bytes of a text in UTF-8. -/
def bytes (s : String) : List UInt8 := s.toUTF8.data.toList

theorem bytes_eq (s : String) : bytes s = s.toList.flatMap String.utf8EncodeChar := by
  have hs : s.toUTF8 = s.toList.utf8Encode := by
    have hofList := String.toByteArray_ofList (l := s.toList)
    rw [String.ofList_toList] at hofList
    exact hofList
  rw [bytes, hs, List.utf8Encode, List.data_toByteArray]

theorem cons_lt_cons_iff_toNat {a b : UInt8} {s t : List UInt8} :
    a :: s < b :: t ↔ a.toNat < b.toNat ∨ a.toNat = b.toNat ∧ s < t := by
  rw [List.cons_lt_cons_iff, UInt8.lt_iff_toNat_lt, UInt8.toNat_inj]

/-- The bytes of characters decide as the characters do, whatever follows them. -/
theorem utf8EncodeChar_append_lt {c d : Char} (h : c < d) (s t : List UInt8) :
    String.utf8EncodeChar c ++ s < String.utf8EncodeChar d ++ t := by
  have hlt : c.val.toNat < d.val.toNat := h
  have hmax : d.val.toNat < 1114112 := by
    have hvalid := d.valid
    simp only [UInt32.isValidChar, Nat.isValidChar] at hvalid
    omega
  have hbyte : ∀ n : Nat, (n % 64 + 128) % 256 = n % 64 + 128 := by omega
  -- Six bits and twelve bits further up are the same from below as from above.
  have hshift : ∀ n : Nat, n / 4096 = n / 64 / 64 ∧ n / 262144 = n / 64 / 64 / 64 := by omega
  simp only [String.utf8EncodeChar]
  split_ifs <;>
    simp only [List.cons_append, List.nil_append, cons_lt_cons_iff_toNat, UInt8.toNat_ofNat',
      Nat.reducePow, hbyte, hshift] <;>
    omega

theorem flatMap_utf8EncodeChar_lt {l m : List Char} (h : l < m) :
    l.flatMap String.utf8EncodeChar < m.flatMap String.utf8EncodeChar := by
  induction l generalizing m with
  | nil =>
    cases m with
    | nil => exact absurd h (List.lt_irrefl _)
    | cons d m =>
      rw [List.flatMap_nil, List.flatMap_cons]
      cases hbytes : String.utf8EncodeChar d with
      | nil => exact absurd hbytes String.utf8EncodeChar_ne_nil
      | cons b bytes => exact List.nil_lt_cons _ _
  | cons c l ih =>
    cases m with
    | nil => exact absurd h (List.not_lt_nil _)
    | cons d m =>
      rw [List.flatMap_cons, List.flatMap_cons]
      rcases List.cons_lt_cons_iff.1 h with hlt | ⟨rfl, hlt⟩
      · exact utf8EncodeChar_append_lt hlt _ _
      · exact List.append_left_lt (ih hlt)

/-- Texts are in the order of their bytes. -/
theorem bytes_lt_iff {s t : String} : bytes s < bytes t ↔ s < t := by
  have hlt {s t : String} (h : s < t) : bytes s < bytes t := by
    rw [bytes_eq, bytes_eq]
    exact flatMap_utf8EncodeChar_lt (String.lt_iff.1 h)
  refine ⟨fun h ↦ ?_, hlt⟩
  rcases String.le_total s t with hle | hle
  · refine (Std.le_iff_lt_or_eq.1 hle).resolve_right (fun heq ↦ ?_)
    rw [heq] at h
    exact List.lt_irrefl _ h
  · rcases Std.le_iff_lt_or_eq.1 hle with hgt | heq
    · exact absurd (hlt hgt) (List.lt_asymm h)
    · rw [heq] at h
      exact absurd h (List.lt_irrefl _)

end PodInventory.Text
