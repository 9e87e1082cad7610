/-
KaniNetwork.Base.Text — the string operations of the source that Lean's
library has under other definitions.

`trim` is Rust's `str::trim`: it strips the characters of the Unicode
property White_Space from both ends.
-/
import Mathlib.Data.List.DropRight
import Mathlib.Data.String.Basic

namespace KaniNetwork

/-- The Unicode property White_Space. -/
def isWhitespace (c : Char) : Bool :=
  let n := c.toNat
  (9 ≤ n && n ≤ 13) || n = 0x20 || n = 0x85 || n = 0xA0 || n = 0x1680
    || (0x2000 ≤ n && n ≤ 0x200A) || n = 0x2028 || n = 0x2029
    || n = 0x202F || n = 0x205F || n = 0x3000

/-- `str::trim`. -/
def trim (s : String) : String :=
  String.ofList ((s.toList.dropWhile isWhitespace).reverse.dropWhile isWhitespace).reverse

/-- `starts_with`. -/
def startsWith (s start : String) : Bool := start.toList.isPrefixOf s.toList

/-- `strip_prefix`. -/
def stripPrefix (s start : String) : Option String :=
  if startsWith s start then some (String.ofList (s.toList.drop start.toList.length)) else none

/-- `rsplit_once`: what stands before and after the last `c`. -/
def rsplitOnce (s : String) (c : Char) : Option (String × String) :=
  let reversed := s.toList.reverse
  match reversed.dropWhile (· ≠ c) with
  | [] => none
  | _ :: before =>
    some (String.ofList before.reverse, String.ofList (reversed.takeWhile (· ≠ c)).reverse)

/-- `to_ascii_uppercase`. -/
def toAsciiUppercase (s : String) : String := String.ofList (s.toList.map Char.toUpper)

/-- `eq_ignore_ascii_case`. -/
def eqIgnoreAsciiCase (a b : String) : Bool := toAsciiUppercase a = toAsciiUppercase b

/-- The UTF-8 bytes of a string (`as_bytes`). -/
def utf8Bytes (s : String) : List UInt8 :=
  s.toUTF8.data.toList

theorem utf8Bytes_injective : Function.Injective utf8Bytes := by
  intro s s' h
  exact String.toByteArray_inj.mp (ByteArray.ext (Array.toList_inj.mp h))

theorem utf8Bytes_ofList (cs : List Char) :
    utf8Bytes (String.ofList cs) = cs.flatMap String.utf8EncodeChar := by
  rw [utf8Bytes, String.toUTF8_eq_toByteArray, String.toByteArray_ofList, List.utf8Encode,
    List.data_toByteArray]

theorem utf8EncodeChar_of_ascii {c : Char} (h : c.toNat < 128) :
    String.utf8EncodeChar c = [UInt8.ofNat c.toNat] := by
  have hle : c.val.toNat ≤ 0x7f := by
    have hval : c.toNat = c.val.toNat := rfl
    omega
  simp only [String.utf8EncodeChar, hle, if_true]
  rfl

/-- The bytes of a longer encoding are all 128 or more. -/
theorem zero_notMem_utf8EncodeChar {c : Char} (h : 128 ≤ c.toNat) :
    0 ∉ String.utf8EncodeChar c := by
  have hbyte : ∀ n k : Nat, 128 ≤ k → n + k < 256 → (0 : UInt8) ≠ UInt8.ofNat (n + k) := by
    intro n k hk hfits hzero
    have hval := congrArg UInt8.toNat hzero
    rw [UInt8.toNat_ofNat', UInt8.toNat_zero] at hval
    omega
  have hlong : ¬ c.val.toNat ≤ 0x7f := by
    have hval : c.toNat = c.val.toNat := rfl
    omega
  intro hzero
  simp only [String.utf8EncodeChar, hlong, if_false] at hzero
  split at hzero
  · simp only [List.mem_cons, List.not_mem_nil, or_false] at hzero
    rcases hzero with h | h <;> exact hbyte _ _ (by decide) (by omega) h
  · split at hzero
    · simp only [List.mem_cons, List.not_mem_nil, or_false] at hzero
      rcases hzero with h | h | h <;> exact hbyte _ _ (by decide) (by omega) h
    · simp only [List.mem_cons, List.not_mem_nil, or_false] at hzero
      rcases hzero with h | h | h | h <;> exact hbyte _ _ (by decide) (by omega) h

theorem zero_mem_utf8EncodeChar {c : Char} : 0 ∈ String.utf8EncodeChar c ↔ c = '\x00' := by
  constructor
  · intro h
    have hascii : c.toNat < 128 := by
      by_contra hlong
      exact zero_notMem_utf8EncodeChar (not_lt.mp hlong) h
    rw [utf8EncodeChar_of_ascii hascii, List.mem_singleton] at h
    have hval := congrArg UInt8.toNat h
    rw [UInt8.toNat_ofNat', UInt8.toNat_zero] at hval
    exact Char.toNat_inj.mp (show c.toNat = 0 by omega)
  · rintro rfl
    decide

theorem zero_mem_utf8Bytes {s : String} : 0 ∈ utf8Bytes s ↔ '\x00' ∈ s.toList := by
  rw [← String.ofList_toList (s := s), utf8Bytes_ofList, String.ofList_toList, List.mem_flatMap]
  simp only [zero_mem_utf8EncodeChar, exists_eq_right]

/-- A list cut at both ends has nothing left to cut in front: its first
element is the one the first cut stopped at. -/
theorem dropWhile_rdropWhile_dropWhile {α : Type} (p : α → Bool) (xs : List α) :
    ((xs.dropWhile p).rdropWhile p).dropWhile p = (xs.dropWhile p).rdropWhile p := by
  rw [List.dropWhile_eq_self_iff]
  intro hlen
  obtain ⟨rest, hrest⟩ := List.rdropWhile_prefix p (xs.dropWhile p)
  have happ : 0 < ((xs.dropWhile p).rdropWhile p ++ rest).length := by
    rw [List.length_append]
    omega
  have hlen' : 0 < (xs.dropWhile p).length := by rwa [hrest] at happ
  have hhead : ((xs.dropWhile p).rdropWhile p)[0] = (xs.dropWhile p)[0] := by
    have hleft : ((xs.dropWhile p).rdropWhile p ++ rest)[0] =
        ((xs.dropWhile p).rdropWhile p)[0] := List.getElem_append_left hlen
    rw [← hleft]
    simp only [hrest]
  rw [hhead]
  exact List.dropWhile_get_zero_not p xs hlen'

theorem toList_trim (s : String) :
    (trim s).toList = (s.toList.dropWhile isWhitespace).rdropWhile isWhitespace := by
  simp only [trim, String.toList_ofList, List.rdropWhile]

theorem mem_of_mem_trim {s : String} {c : Char} (h : c ∈ (trim s).toList) : c ∈ s.toList := by
  rw [toList_trim] at h
  exact (List.dropWhile_sublist _).mem ((List.rdropWhile_prefix _ _).mem h)

/-- Nothing is left to strip of what `trim` returns. -/
theorem trim_trim (s : String) : trim (trim s) = trim s := by
  refine String.toList_injective ?_
  rw [toList_trim (trim s), toList_trim s, dropWhile_rdropWhile_dropWhile,
    List.rdropWhile_idempotent]

/-- A text with a character that is not white space is not blank. -/
theorem trim_isEmpty_of_mem {s : String} {c : Char} (hc : c ∈ s.toList)
    (hw : isWhitespace c = false) : (trim s).isEmpty = false := by
  have hne : (trim s).toList ≠ [] := by
    rw [toList_trim, Ne, List.rdropWhile_eq_nil_iff]
    intro hall
    have hnil : s.toList.dropWhile isWhitespace = [] := by
      cases hdrop : s.toList.dropWhile isWhitespace with
      | nil => rfl
      | cons x xs =>
        have hlen : 0 < (s.toList.dropWhile isWhitespace).length := by simp [hdrop]
        have hx := List.dropWhile_get_zero_not isWhitespace s.toList hlen
        exact absurd (hall _ (List.get_mem _ _)) hx
    rw [List.dropWhile_eq_nil_iff] at hnil
    have hblank := hnil c hc
    rw [hw] at hblank
    cases hblank
  cases hempty : (trim s).isEmpty with
  | false => rfl
  | true => exact absurd (by simpa using hempty) hne

/-- A text is its own trim when neither end is white space. -/
theorem trim_eq_self_iff (s : String) :
    trim s = s ↔ s.toList.dropWhile isWhitespace = s.toList ∧
      s.toList.rdropWhile isWhitespace = s.toList := by
  rw [← String.toList_inj, toList_trim]
  constructor
  · intro h
    have hle : s.toList.length ≤ (s.toList.dropWhile isWhitespace).length :=
      calc s.toList.length
          = ((s.toList.dropWhile isWhitespace).rdropWhile isWhitespace).length := by rw [h]
        _ ≤ (s.toList.dropWhile isWhitespace).length := (List.rdropWhile_prefix _ _).length_le
    have hfront := (List.dropWhile_suffix isWhitespace (l := s.toList)).eq_of_length_le hle
    exact ⟨hfront, by rwa [hfront] at h⟩
  · rintro ⟨hfront, hback⟩
    rw [hfront, hback]

/-- Trimmed texts put together are trimmed. -/
theorem trim_append {a b : String} (ha : trim a = a) (hb : trim b = b) (hane : a ≠ "")
    (hbne : b ≠ "") : trim (a ++ b) = a ++ b := by
  have ha' : a.toList ≠ [] := by simpa using hane
  have hb' : b.toList ≠ [] := by simpa using hbne
  rw [trim_eq_self_iff] at ha hb ⊢
  rw [String.toList_append]
  constructor
  · rw [List.dropWhile_eq_self_iff]
    intro hlen
    have hfirst := List.dropWhile_eq_self_iff.mp ha.1 (List.length_pos_of_ne_nil ha')
    rwa [List.getElem_append_left]
  · rw [List.rdropWhile_eq_self_iff]
    intro hne
    have hlast := List.rdropWhile_eq_self_iff.mp hb.2 hb'
    rwa [List.getLast_append_of_ne_nil _ hb']

/-- Nothing is left of white space, and only of white space. -/
theorem trim_eq_empty_iff (s : String) :
    trim s = "" ↔ ∀ c ∈ s.toList, isWhitespace c = true := by
  constructor
  · intro h c hc
    cases hw : isWhitespace c with
    | true => rfl
    | false =>
      have hne := trim_isEmpty_of_mem hc hw
      rw [h] at hne
      cases hne
  · intro h
    have hnil : s.toList.dropWhile isWhitespace = [] := List.dropWhile_eq_nil_iff.mpr h
    rw [← String.toList_inj, toList_trim, hnil, List.rdropWhile_nil]
    rfl

theorem rdropWhile_append {α : Type} (p : α → Bool) (xs ys : List α) :
    (xs ++ ys).rdropWhile p =
      if (ys.rdropWhile p).isEmpty then xs.rdropWhile p else xs ++ ys.rdropWhile p := by
  simp only [List.rdropWhile, List.reverse_append, List.dropWhile_append, List.isEmpty_reverse]
  split
  · rfl
  · rw [List.reverse_append, List.reverse_reverse]

/-- More text does not make a text blank. -/
theorem trim_append_ne_empty {a : String} (h : trim a ≠ "") (b : String) : trim (a ++ b) ≠ "" := by
  intro hempty
  refine h ((trim_eq_empty_iff a).mpr fun c hc => ?_)
  refine (trim_eq_empty_iff (a ++ b)).mp hempty c ?_
  rw [String.toList_append]
  exact List.mem_append_left _ hc

/-- A text cut in two begins with the same trimmed text as long as the cut
leaves only white space behind. -/
theorem trim_append_eq_iff {a b : String} (h : trim (a ++ b) ≠ "") :
    trim a = trim (a ++ b) ↔ trim b = "" := by
  have hblank : (b.toList.rdropWhile isWhitespace).isEmpty = true ↔ trim b = "" := by
    rw [List.isEmpty_iff, List.rdropWhile_eq_nil_iff, trim_eq_empty_iff]
  constructor
  · intro heq
    have hcut : ¬ (a.toList.dropWhile isWhitespace).isEmpty = true := by
      intro hnil
      refine h ?_
      rw [← heq, ← String.toList_inj, toList_trim, List.isEmpty_iff.mp hnil, List.rdropWhile_nil]
      rfl
    have hlist := congrArg String.toList heq
    rw [toList_trim, toList_trim, String.toList_append, List.dropWhile_append, if_neg hcut,
      rdropWhile_append] at hlist
    split at hlist
    · rename_i hb
      exact hblank.mp hb
    · -- behind the cut there would be more text than is left
      rename_i hb
      have hlength := congrArg List.length hlist
      have hle := (List.rdropWhile_prefix isWhitespace (a.toList.dropWhile isWhitespace)).length_le
      rw [List.length_append] at hlength
      refine absurd (List.isEmpty_iff.mpr (List.eq_nil_of_length_eq_zero ?_)) hb
      omega
  · intro hb
    have hempty := hblank.mpr hb
    rw [← String.toList_inj, toList_trim, toList_trim, String.toList_append, List.dropWhile_append]
    split
    · rename_i hnil
      have hbnil : b.toList.dropWhile isWhitespace = [] :=
        List.dropWhile_eq_nil_iff.mpr ((trim_eq_empty_iff b).mp hb)
      rw [List.isEmpty_iff.mp hnil, hbnil]
    · rw [rdropWhile_append, if_pos hempty]

example : trim " K 1\n" = "K 1" := by decide

end KaniNetwork
