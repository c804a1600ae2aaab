import Mathlib.Algebra.Group.Nat.Defs
import TermSearch.Table

/-! The bytes of a larger character are larger where they first differ. -/

namespace TermSearch

def utf8Bytes (text : String) : List UInt8 := text.toUTF8.data.toList

theorem utf8Bytes_eq_flatMap (text : String) :
    utf8Bytes text = text.toList.flatMap String.utf8EncodeChar := by
  obtain ⟨cs, rfl⟩ : ∃ cs, text = .ofList cs := ⟨text.toList, String.ofList_toList.symm⟩
  rw [utf8Bytes, String.toUTF8_eq_toByteArray, String.toByteArray_ofList, String.toList_ofList]
  exact List.toList_data_toByteArray

def trailingCount (code : Nat) : Nat :=
  if code ≤ 0x7F then 0 else if code ≤ 0x7FF then 1 else if code ≤ 0xFFFF then 2 else 3

/-- The first byte tells how many bytes follow, and holds the bits that these do not. -/
def leadByte (code : Nat) : Nat :=
  (if code ≤ 0x7F then 0 else if code ≤ 0x7FF then 0xC0 else if code ≤ 0xFFFF then 0xE0 else 0xF0) +
    code / 64 ^ trailingCount code

/-- Each of the bytes that follow holds six bits. -/
def trailingBytes : Nat → Nat → List UInt8
  | 0, _ => []
  | n + 1, code => trailingBytes n (code / 64) ++ [.ofNat (code % 64 + 0x80)]

theorem code_lt (c : Char) : c.toNat < 0x110000 := by
  rcases c.valid with basic | ⟨-, beyond⟩
  · exact Nat.lt_trans basic (by decide)
  · exact beyond

theorem utf8EncodeChar_eq (c : Char) :
    String.utf8EncodeChar c =
      .ofNat (leadByte c.toNat) :: trailingBytes (trailingCount c.toNat) c.toNat := by
  have bound : c.val.toNat < 0x110000 := code_lt c
  unfold String.utf8EncodeChar leadByte trailingCount Char.toNat
  generalize c.val.toNat = code at bound ⊢
  dsimp only
  split
  · simp [trailingBytes]
  split
  · have fits : code / 64 < 32 := by omega
    simp [trailingBytes, Nat.mod_eq_of_lt fits, Nat.add_comm]
  split
  · have fits : code / 4096 < 16 := by omega
    simp [trailingBytes, Nat.mod_eq_of_lt fits, Nat.add_comm]
  · have fits : code / 262144 < 8 := by omega
    simp [trailingBytes, Nat.mod_eq_of_lt fits, Nat.add_comm, Nat.div_div_eq_div_mul]

theorem leadByte_lt {code : Nat} (bound : code < 0x110000) : leadByte code < 256 := by
  unfold leadByte trailingCount
  repeat' split
  all_goals omega

theorem toNat_leadByte (c : Char) :
    (UInt8.ofNat (leadByte c.toNat)).toNat = leadByte c.toNat := by
  rw [UInt8.toNat_ofNat', Nat.mod_eq_of_lt (leadByte_lt (code_lt c))]

theorem leadByte_lt_or {v w : Nat} (less : v < w) :
    leadByte v < leadByte w ∨
      leadByte v = leadByte w ∧ trailingCount v = trailingCount w ∧
        v / 64 ^ trailingCount v = w / 64 ^ trailingCount v := by
  unfold leadByte trailingCount
  repeat' split
  all_goals omega

theorem trailingBytes_lt (n : Nat) {v w : Nat} (less : v < w) (as bs : List UInt8) :
    v / 64 ^ n < w / 64 ^ n ∨
      v / 64 ^ n = w / 64 ^ n ∧ trailingBytes n v ++ as < trailingBytes n w ++ bs := by
  induction n generalizing v w as bs with
  | zero => exact .inl (by simpa using less)
  | succ n ih =>
    have shift (code : Nat) : code / 64 ^ (n + 1) = code / 64 / 64 ^ n := by
      rw [Nat.pow_succ', Nat.div_div_eq_div_mul]
    rw [shift, shift, trailingBytes, trailingBytes, List.append_assoc, List.append_assoc]
    by_cases high : v / 64 < w / 64
    · exact ih high _ _
    · have same : v / 64 = w / 64 := by omega
      have last : UInt8.ofNat (v % 64 + 0x80) < UInt8.ofNat (w % 64 + 0x80) := by
        rw [UInt8.lt_iff_toNat_lt, UInt8.toNat_ofNat', UInt8.toNat_ofNat']
        omega
      rw [same]
      exact .inr ⟨rfl, List.append_left_lt (List.cons_lt_cons_iff.mpr (.inl last))⟩

theorem utf8EncodeChar_lt {a b : Char} (less : a < b) (as bs : List UInt8) :
    String.utf8EncodeChar a ++ as < String.utf8EncodeChar b ++ bs := by
  have codes : a.toNat < b.toNat := less
  rw [utf8EncodeChar_eq, utf8EncodeChar_eq, List.cons_append, List.cons_append,
    List.cons_lt_cons_iff, UInt8.lt_iff_toNat_lt, toNat_leadByte, toNat_leadByte]
  rcases leadByte_lt_or codes with first | ⟨same, count, high⟩
  · exact .inl first
  · rcases trailingBytes_lt (trailingCount a.toNat) codes as bs with lower | ⟨-, rest⟩
    · omega
    · exact .inr ⟨by rw [same], count ▸ rest⟩

theorem flatMap_utf8EncodeChar_lt {as bs : List Char} (less : as < bs) :
    as.flatMap String.utf8EncodeChar < bs.flatMap String.utf8EncodeChar := by
  induction as generalizing bs with
  | nil =>
    cases bs with
    | nil => exact absurd less (List.lt_irrefl _)
    | cons b bs =>
      have first : String.utf8EncodeChar b ≠ [] := String.utf8EncodeChar_ne_nil
      obtain ⟨byte, bytes, encoded⟩ := List.exists_cons_of_ne_nil first
      rw [List.flatMap_nil, List.flatMap_cons, encoded, List.cons_append]
      exact List.nil_lt_cons byte _
  | cons a as ih =>
    cases bs with
    | nil => exact absurd less (List.not_lt_nil _)
    | cons b bs =>
      rw [List.flatMap_cons, List.flatMap_cons]
      rcases List.cons_lt_cons_iff.mp less with first | ⟨rfl, rest⟩
      · exact utf8EncodeChar_lt first _ _
      · exact List.append_left_lt (ih rest)

theorem lt_iff_utf8Bytes_lt {a b : String} : a < b ↔ utf8Bytes a < utf8Bytes b := by
  have forth {a b : String} (less : a < b) : utf8Bytes a < utf8Bytes b := by
    rw [utf8Bytes_eq_flatMap, utf8Bytes_eq_flatMap]
    exact flatMap_utf8EncodeChar_lt (String.lt_iff.mp less)
  refine ⟨forth, fun less => ?_⟩
  by_cases before : a < b
  · exact before
  by_cases behind : b < a
  · exact absurd less (List.lt_asymm (forth behind))
  · obtain rfl := Table.eq_of_not_lt before behind
    exact absurd less (List.lt_irrefl _)

/-- Comes before in the order of the UTF-8 bytes of the names. -/
def ListedBefore {α : Type} (a b : String × α) : Prop := utf8Bytes a.1 < utf8Bytes b.1

instance {α : Type} : DecidableRel (@ListedBefore α) :=
  fun a b => inferInstanceAs (Decidable (utf8Bytes a.1 < utf8Bytes b.1))

theorem listedBefore_iff {α : Type} {a b : String × α} : ListedBefore a b ↔ a.1 < b.1 :=
  lt_iff_utf8Bytes_lt.symm

end TermSearch
