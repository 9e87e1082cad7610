/-
KaniNetwork.Base.Decimal — decimal texts of numbers.

A list of digits is canonical when it is not empty and does not begin with
a superfluous zero. The canonical lists are the texts of the natural
numbers: `Nat.toDigits 10` writes nothing else (`canonical_toDigits`), and
writing what was read from such a list gives the list back
(`toDigits_ofDigitChars`).
-/
import Mathlib.Data.List.Basic

namespace KaniNetwork

/-- Decimal digits, the first of them no zero unless it is the only one. -/
structure CanonicalDigits (digits : List Char) : Prop where
  nonempty : digits ≠ []
  isDigit : ∀ c ∈ digits, c.isDigit = true
  noLeadingZero : digits.head? = some '0' → digits.length ≤ 1

theorem toNat_of_isDigit {c : Char} (h : c.isDigit = true) : 48 ≤ c.toNat ∧ c.toNat ≤ 57 := by
  simp only [Char.isDigit, Bool.and_eq_true, decide_eq_true_eq] at h
  exact ⟨UInt32.le_iff_toNat_le.mp h.1, UInt32.le_iff_toNat_le.mp h.2⟩

/-- The character of a digit's value is the digit. -/
theorem digitChar_toNat_sub {c : Char} (h : c.isDigit = true) :
    Nat.digitChar (c.toNat - '0'.toNat) = c := by
  have hzero : '0'.toNat = 48 := rfl
  have hbounds := toNat_of_isDigit h
  refine Char.toNat_inj.mp ?_
  rw [Nat.toNat_digitChar_of_lt_ten (by omega)]
  omega

theorem toNat_sub_lt_ten {c : Char} (h : c.isDigit = true) : c.toNat - '0'.toNat < 10 := by
  have hzero : '0'.toNat = 48 := rfl
  have hbounds := toNat_of_isDigit h
  omega

/-! ## Reading and writing -/

/-- Digits read on top of a positive number are its digits and these. -/
theorem toDigits_ofDigitChars_append {cs : List Char} (h : ∀ c ∈ cs, c.isDigit = true) {n : Nat}
    (hn : 0 < n) : Nat.toDigits 10 (Nat.ofDigitChars 10 cs n) = Nat.toDigits 10 n ++ cs := by
  induction cs generalizing n with
  | nil => rw [Nat.ofDigitChars_nil, List.append_nil]
  | cons c cs ih =>
    have hc : c.isDigit = true := h c List.mem_cons_self
    have hlt := toNat_sub_lt_ten hc
    have hstep := ih (fun d hd => h d (List.mem_cons_of_mem c hd))
      (show 0 < 10 * n + (c.toNat - '0'.toNat) by omega)
    rw [Nat.ofDigitChars_cons, hstep, ← Nat.toDigits_append_toDigits (by decide) hn hlt,
      Nat.toDigits_of_lt_base hlt, digitChar_toNat_sub hc, List.append_assoc,
      List.singleton_append]

/-- Writing what was read gives the digits back. -/
theorem toDigits_ofDigitChars {digits : List Char} (h : CanonicalDigits digits) :
    Nat.toDigits 10 (Nat.ofDigitChars 10 digits 0) = digits := by
  cases digits with
  | nil => exact absurd rfl h.nonempty
  | cons c cs =>
    have hc : c.isDigit = true := h.isDigit c List.mem_cons_self
    have hchar := digitChar_toNat_sub hc
    have hfirst : Nat.toDigits 10 (c.toNat - '0'.toNat) = [c] := by
      rw [Nat.toDigits_of_lt_base (toNat_sub_lt_ten hc), hchar]
    rw [Nat.ofDigitChars_cons, Nat.mul_zero, Nat.zero_add]
    by_cases hzero : c.toNat - '0'.toNat = 0
    · -- a zero in front stands alone
      have hcs : cs = [] := by
        have hc0 : c = '0' := by
          rw [← hchar, hzero]
          rfl
        have hle := h.noLeadingZero (by rw [hc0]; rfl)
        simpa using hle
      rw [hcs, Nat.ofDigitChars_nil, hfirst]
    · rw [toDigits_ofDigitChars_append (fun d hd => h.isDigit d (List.mem_cons_of_mem c hd))
        (Nat.pos_of_ne_zero hzero), hfirst, List.singleton_append]

/-- The digits of a positive number begin with no zero. -/
theorem toDigits_head_ne_zero {n : Nat} (h : 0 < n) : (Nat.toDigits 10 n).head? ≠ some '0' := by
  induction n using Nat.strongRecOn with
  | ind n ih =>
    by_cases hlt : n < 10
    · rw [Nat.toDigits_of_lt_base hlt]
      simp only [List.head?_cons, ne_eq, Option.some.injEq, Nat.digitChar_eq_zero]
      omega
    · have hhead := ih (n / 10) (by omega) (by omega)
      rw [Nat.toDigits_of_base_le (by decide) (by omega), List.head?_append]
      cases hfirst : (Nat.toDigits 10 (n / 10)).head? with
      | none => exact absurd (List.head?_eq_none_iff.mp hfirst) Nat.toDigits_ne_nil
      | some c =>
        rw [hfirst] at hhead
        exact hhead

/-- The digits of a number are canonical. -/
theorem canonical_toDigits (n : Nat) : CanonicalDigits (Nat.toDigits 10 n) where
  nonempty := Nat.toDigits_ne_nil
  isDigit _ hc := Nat.isDigit_of_mem_toDigits (by decide) (by decide) hc
  noLeadingZero hhead := by
    by_cases h : n = 0
    · rw [h, Nat.toDigits_zero]
      exact Nat.le_refl 1
    · exact absurd hhead (toDigits_head_ne_zero (Nat.pos_of_ne_zero h))

/-! ## Texts of integers -/

theorem toList_toString_nat (n : Nat) : (toString n).toList = Nat.toDigits 10 n := by
  rw [Nat.toString_eq_repr, Nat.toList_repr]

/-- A natural number and the integer it is have one text. -/
theorem toString_natCast (n : Nat) : toString (n : Int) = toString n := by
  rw [Int.toString_eq_repr, Nat.toString_eq_repr]
  rfl

theorem toList_toString_ofNat (n : Nat) :
    (toString (Int.ofNat n)).toList = Nat.toDigits 10 n := by
  have htext : toString (Int.ofNat n) = toString n := toString_natCast n
  rw [htext, toList_toString_nat]

theorem toList_toString_negSucc (n : Nat) :
    (toString (Int.negSucc n)).toList = '-' :: Nat.toDigits 10 (n + 1) := by
  have htext : toString (Int.negSucc n) = "-" ++ Nat.repr (n + 1) := Int.toString_eq_repr
  rw [htext, String.toList_append, Nat.toList_repr]
  rfl

/-- The text of an integer has digits in it, and a sign perhaps. -/
theorem isDigit_or_of_mem_toString {n : Int} {c : Char} (h : c ∈ (toString n).toList) :
    c.isDigit = true ∨ c = '-' := by
  cases n with
  | ofNat n =>
    rw [toList_toString_ofNat] at h
    exact .inl ((canonical_toDigits n).isDigit c h)
  | negSucc n =>
    rw [toList_toString_negSucc, List.mem_cons] at h
    rcases h with hsign | hdigit
    · exact .inr hsign
    · exact .inl ((canonical_toDigits (n + 1)).isDigit c hdigit)

theorem toString_ne_empty (n : Int) : toString n ≠ "" := by
  intro hempty
  have hlist := congrArg String.toList hempty
  cases n with
  | ofNat n =>
    rw [toList_toString_ofNat] at hlist
    exact Nat.toDigits_ne_nil hlist
  | negSucc n =>
    rw [toList_toString_negSucc] at hlist
    cases hlist

/-- A text is the text of one number. -/
theorem toString_int_injective {m n : Int} (h : toString m = toString n) : m = n := by
  have hread {m n : Nat} (h : Nat.toDigits 10 m = Nat.toDigits 10 n) : m = n := by
    rw [← @Nat.ofDigitChars_ten_toDigits m, h, Nat.ofDigitChars_ten_toDigits]
  -- only one of two numbers can have a sign
  have hsign (m n : Nat) : Nat.toDigits 10 m ≠ '-' :: Nat.toDigits 10 (n + 1) := by
    intro heq
    have hdigit := (canonical_toDigits m).isDigit '-' (by rw [heq]; exact List.mem_cons_self)
    cases hdigit
  have hlist := congrArg String.toList h
  cases m with
  | ofNat m =>
    rw [toList_toString_ofNat] at hlist
    cases n with
    | ofNat n =>
      rw [toList_toString_ofNat] at hlist
      rw [hread hlist]
    | negSucc n =>
      rw [toList_toString_negSucc] at hlist
      exact absurd hlist (hsign m n)
  | negSucc m =>
    rw [toList_toString_negSucc] at hlist
    cases n with
    | ofNat n =>
      rw [toList_toString_ofNat] at hlist
      exact absurd hlist.symm (hsign n m)
    | negSucc n =>
      rw [toList_toString_negSucc, List.cons.injEq] at hlist
      have hsucc := hread hlist.2
      rw [Nat.succ.inj hsucc]

end KaniNetwork
