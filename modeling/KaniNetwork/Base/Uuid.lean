/-
KaniNetwork.Base.Uuid — uuids as text.

A uuid column writes a uuid one way, in lower-case hex digits with hyphens
after the bytes 4, 6, 8 and 10, and reads it in several: digits of either
case, hyphens after any two bytes or none, braces around the whole.
`uuidIn` is what the column makes of a text. What it writes it reads back
unchanged (`uuidIn_uuidText`).
-/
import KaniNetwork.Base.Text
import Mathlib.Data.String.Basic

namespace KaniNetwork

/-! ## Writing -/

def hexAlphabet : List Char :=
  ['0', '1', '2', '3', '4', '5', '6', '7', '8', '9', 'a', 'b', 'c', 'd', 'e', 'f']

/-- The hyphens stand where 12, 10, 8 and 6 bytes are left. -/
def hyphenAt (left : Nat) : Bool := left = 12 || left = 10 || left = 8 || left = 6

/-- The text of the last `left` bytes, two digits a byte. -/
def uuidChars : Nat → List Char → List Char
  | left + 1, a :: b :: digits =>
    a :: b :: if hyphenAt left then '-' :: uuidChars left digits else uuidChars left digits
  | _, _ => []

def uuidText (digits : List Char) : String := String.ofList (uuidChars 16 digits)

/-- The last `k` hex digits of a number. -/
def hexDigits : Nat → Nat → List Char
  | 0, _ => []
  | k + 1, n => hexDigits k (n / 16) ++ [Nat.digitChar (n % 16)]

/-- A uuid to run examples with: the one whose bytes spell the name. -/
def uuidNamed (name : String) : String :=
  uuidText (hexDigits 32 ((utf8Bytes name).foldl (fun n b => n * 256 + b.toNat) 0))

example : uuidNamed "b-0" = "00000000-0000-0000-0000-000000622d30" := by decide +kernel

/-! ## Reading -/

/-- A hyphen may follow every second byte but the last. -/
def skipHyphen (left : Nat) : List Char → List Char
  | '-' :: src => if left % 2 = 0 && 0 < left then src else '-' :: src
  | src => src

/-- The digits of the last `left` bytes, and what stands behind them. -/
def readUuidDigits : Nat → List Char → Option (List Char × List Char)
  | 0, src => some ([], src)
  | left + 1, a :: b :: src =>
    if a.toLower ∈ hexAlphabet && b.toLower ∈ hexAlphabet then
      (readUuidDigits left (skipHyphen left src)).map fun (digits, rest) =>
        (a.toLower :: b.toLower :: digits, rest)
    else none
  | _ + 1, _ => none

/-- The bytes of a text, each as the character with its number. -/
def byteChars (s : String) : List Char := (utf8Bytes s).map fun b => Char.ofNat b.toNat

/-- The uuid a text is read as, written back; none when it is not one. -/
def uuidIn (s : String) : Option String :=
  let (braces, src) := match byteChars s with
    | '{' :: src => (['}'], src)
    | src => ([], src)
  match readUuidDigits 16 src with
  | some (digits, rest) => if rest = braces then some (uuidText digits) else none
  | none => none

example : uuidIn "{00000000000000000000-0000-00622D30}" =
    some "00000000-0000-0000-0000-000000622d30" := by decide +kernel

example : uuidIn "cred-1" = none := by decide +kernel

/-! ## Reading what was written -/

/-- A test of the sixteen digits. -/
theorem of_mem_hexAlphabet (p : Char → Bool) (hall : hexAlphabet.all p = true) {c : Char}
    (h : c ∈ hexAlphabet) : p c = true :=
  List.all_eq_true.mp hall c h

theorem toLower_of_mem_hexAlphabet {c : Char} (h : c ∈ hexAlphabet) : c.toLower = c :=
  of_decide_eq_true (of_mem_hexAlphabet (fun c => c.toLower = c) (by decide) h)

theorem byteChars_ofList {cs : List Char} (h : ∀ c ∈ cs, c.toNat < 128) :
    byteChars (String.ofList cs) = cs := by
  rw [byteChars, utf8Bytes_ofList]
  induction cs with
  | nil => rfl
  | cons c cs ih =>
    have hc := h c List.mem_cons_self
    rw [List.flatMap_cons, utf8EncodeChar_of_ascii hc, List.map_append,
      ih fun c hc => h c (List.mem_cons_of_mem _ hc)]
    have hbyte : (UInt8.ofNat c.toNat).toNat = c.toNat := by
      rw [UInt8.toNat_ofNat']
      omega
    simp [hbyte]

theorem ne_of_mem_hexAlphabet {c : Char} (h : c ∈ hexAlphabet) : c ≠ '-' ∧ c ≠ '{' :=
  of_decide_eq_true (of_mem_hexAlphabet (fun c => c ≠ '-' ∧ c ≠ '{') (by decide) h)

/-- A text of digits starts with no hyphen. -/
theorem skipHyphen_uuidChars {digits : List Char} (h : ∀ c ∈ digits, c ∈ hexAlphabet)
    (left left' : Nat) : skipHyphen left (uuidChars left' digits) = uuidChars left' digits := by
  fun_cases uuidChars left' digits with
  | case1 left' a b digits =>
    have ha := (ne_of_mem_hexAlphabet (h a List.mem_cons_self)).1
    unfold skipHyphen
    split
    · rename_i heq
      exact absurd (List.cons.inj heq).1 ha
    · rfl
  | case2 => rfl

/-- The digits of `left` bytes are read as they were written. -/
theorem readUuidDigits_uuidChars {left : Nat} {digits : List Char}
    (hlength : digits.length = 2 * left) (h : ∀ c ∈ digits, c ∈ hexAlphabet) :
    readUuidDigits left (uuidChars left digits) = some (digits, []) := by
  fun_induction uuidChars left digits with
  | case1 left a b digits ih =>
    have ha := h a List.mem_cons_self
    have hb := h b (List.mem_cons_of_mem _ List.mem_cons_self)
    have hrest : ∀ c ∈ digits, c ∈ hexAlphabet := fun c hc =>
      h c (List.mem_cons_of_mem _ (List.mem_cons_of_mem _ hc))
    have hskip : skipHyphen left (if hyphenAt left then '-' :: uuidChars left digits
        else uuidChars left digits) = uuidChars left digits := by
      split
      · rename_i hhyphen
        have hleft : left % 2 = 0 ∧ 0 < left := by
          simp only [hyphenAt, Bool.or_eq_true, decide_eq_true_eq] at hhyphen
          omega
        simp [skipHyphen, hleft]
      · exact skipHyphen_uuidChars hrest left left
    have hlength' : digits.length = 2 * left := by
      simp only [List.length_cons] at hlength
      omega
    simp only [readUuidDigits, toLower_of_mem_hexAlphabet ha, toLower_of_mem_hexAlphabet hb, ha, hb,
      hskip, ih hlength' hrest, decide_true, Bool.and_self, if_true, Option.map_some]
  | case2 left digits hshort =>
    cases left with
    | zero =>
      rw [List.length_eq_zero_iff.mp hlength]
      rfl
    | succ left =>
      rcases digits with _ | ⟨a, _ | ⟨b, digits⟩⟩
      · simp at hlength
      · simp only [List.length_cons, List.length_nil] at hlength
        omega
      · exact absurd rfl (hshort left a b digits rfl)

theorem mem_uuidChars {left : Nat} {digits : List Char} {c : Char}
    (h : c ∈ uuidChars left digits) : c ∈ digits ∨ c = '-' := by
  fun_induction uuidChars left digits with
  | case1 left a b digits ih =>
    have hrest : c ∈ a :: b :: '-' :: uuidChars left digits := by
      split at h
      · exact h
      · simp only [List.mem_cons] at h ⊢
        tauto
    simp only [List.mem_cons] at hrest ⊢
    tauto
  | case2 => cases h

/-- A uuid column keeps the texts it writes. -/
theorem uuidIn_uuidText {digits : List Char} (hlength : digits.length = 32)
    (h : ∀ c ∈ digits, c ∈ hexAlphabet) : uuidIn (uuidText digits) = some (uuidText digits) := by
  have hread : readUuidDigits 16 (uuidChars 16 digits) = some (digits, []) :=
    readUuidDigits_uuidChars hlength h
  have hplain : ∀ src, uuidChars 16 digits ≠ '{' :: src := by
    intro src heq
    rcases digits with _ | ⟨a, _ | ⟨b, digits⟩⟩
    · cases heq
    · cases heq
    · exact (ne_of_mem_hexAlphabet (h a List.mem_cons_self)).2 (List.cons.inj heq).1
  have hascii : ∀ c ∈ uuidChars 16 digits, c.toNat < 128 := by
    intro c hc
    rcases mem_uuidChars hc with hdigit | rfl
    · exact of_decide_eq_true (of_mem_hexAlphabet (·.toNat < 128) (by decide) (h c hdigit))
    · decide
  unfold uuidIn
  rw [uuidText, byteChars_ofList hascii]
  split
  rename_i braces src heq
  split at heq
  · exact absurd ‹_› (hplain _)
  · cases heq
    simp [hread, uuidText]

theorem hexDigits_length (k n : Nat) : (hexDigits k n).length = k := by
  induction k generalizing n with
  | zero => rfl
  | succ k ih => rw [hexDigits, List.length_append, ih, List.length_singleton]

theorem mem_hexAlphabet_of_mem_hexDigits {k n : Nat} {c : Char} (h : c ∈ hexDigits k n) :
    c ∈ hexAlphabet := by
  induction k generalizing n with
  | zero => cases h
  | succ k ih =>
    rcases List.mem_append.mp h with hinit | hlast
    · exact ih hinit
    · rw [List.mem_singleton.mp hlast]
      have hdigit : ∀ d < 16, Nat.digitChar d ∈ hexAlphabet := by decide
      exact hdigit _ (Nat.mod_lt n (by decide))

/-- A uuid has nothing but hex digits and hyphens. -/
theorem mem_uuidNamed {name : String} {c : Char} (h : c ∈ (uuidNamed name).toList) :
    c ∈ hexAlphabet ∨ c = '-' := by
  rw [uuidNamed, uuidText, String.toList_ofList] at h
  exact (mem_uuidChars h).imp_left mem_hexAlphabet_of_mem_hexDigits

theorem mem_hexAlphabet_of_readUuidDigits {left : Nat} {src digits rest : List Char}
    (h : readUuidDigits left src = some (digits, rest)) : ∀ c ∈ digits, c ∈ hexAlphabet := by
  fun_induction readUuidDigits left src generalizing digits rest with
  | case1 src =>
    cases h
    exact fun c hc => absurd hc List.not_mem_nil
  | case2 left a b src hdigits ih =>
    obtain ⟨⟨digits', rest'⟩, hread, heq⟩ := Option.map_eq_some_iff.mp h
    cases heq
    simp only [Bool.and_eq_true, decide_eq_true_eq] at hdigits
    exact List.forall_mem_cons.mpr ⟨hdigits.1, List.forall_mem_cons.mpr ⟨hdigits.2, ih hread⟩⟩
  | case3 => cases h
  | case4 => cases h

/-- Nor has the text a uuid column writes for another. -/
theorem mem_of_uuidIn {s t : String} (h : uuidIn s = some t) {c : Char} (hc : c ∈ t.toList) :
    c ∈ hexAlphabet ∨ c = '-' := by
  unfold uuidIn at h
  split at h
  rename_i braces src heq
  split at h
  · rename_i digits rest hread
    split at h
    · cases h
      rw [uuidText, String.toList_ofList] at hc
      exact (mem_uuidChars hc).imp_left (mem_hexAlphabet_of_readUuidDigits hread c)
    · cases h
  · cases h

theorem uuidIn_uuidNamed (name : String) : uuidIn (uuidNamed name) = some (uuidNamed name) :=
  uuidIn_uuidText (hexDigits_length _ _) fun _ => mem_hexAlphabet_of_mem_hexDigits

end KaniNetwork
