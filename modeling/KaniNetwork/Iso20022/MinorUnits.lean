/-
KaniNetwork.Iso20022.MinorUnits — the amounts a message may carry.

`parse_minor_units` filters the trimmed text before it reads it: what is
left are canonical decimal digits, and `parse::<i128>` fails past the
largest value of the type. So the accepted texts are the numbers from one
to `i128::MAX` as they are printed, with white space around them, and
nothing else (`parseMinorUnits_eq_ok_iff`).
-/
import KaniNetwork.Base.Decimal
import KaniNetwork.Iso20022.Pacs008

namespace KaniNetwork

/-- `parse::<i128>` of digits is their value, where the type has it. -/
theorem parseI128_eq_some_iff {digits : List Char} {n : Int} :
    parseI128 digits = some n ↔
      n = Nat.ofDigitChars 10 digits 0 ∧ Nat.ofDigitChars 10 digits 0 < 2 ^ 127 := by
  simp only [parseI128, ← Nat.ofDigitChars_eq_foldl]
  split
  · rename_i hlt
    simp only [Option.some.injEq, hlt, and_true]
    exact eq_comm
  · rename_i hge
    simp only [hge, and_false, reduceCtorEq]

/-- The texts that pass the filter of `parse_minor_units`. -/
theorem filtered_iff (digits : List Char) :
    ¬ (digits.isEmpty ∨ ¬ digits.all Char.isDigit ∨
      (digits.head? = some '0' ∧ 1 < digits.length)) ↔ CanonicalDigits digits := by
  constructor
  · intro h
    simp only [not_or, not_not, not_and, not_lt] at h
    obtain ⟨hne, hall, hzero⟩ := h
    exact ⟨by simpa using hne, List.all_eq_true.mp hall, hzero⟩
  · intro h
    simp only [not_or, not_not, not_and, not_lt]
    exact ⟨by simpa using h.nonempty, List.all_eq_true.mpr h.isDigit, h.noLeadingZero⟩

theorem parseMinorUnits_eq_ok {value : String} {n : Int} :
    parseMinorUnits value = .ok n ↔ CanonicalDigits (trim value).toList ∧
      parseI128 (trim value).toList = some n ∧ 0 < n := by
  rw [← filtered_iff]
  simp only [parseMinorUnits]
  split
  · rename_i hrefused
    simp only [reduceCtorEq, hrefused, not_true_eq_false, false_and]
  · rename_i hfiltered
    simp only [hfiltered, not_false_eq_true, true_and]
    cases parseI128 (trim value).toList with
    | none => simp only [reduceCtorEq, false_and]
    | some amount =>
      simp only [Option.some.injEq]
      split
      · rename_i hle
        simp only [reduceCtorEq, false_iff, not_and]
        intro heq
        omega
      · rename_i hpos
        simp only [Except.ok.injEq]
        constructor
        · intro heq
          exact ⟨heq, by omega⟩
        · intro h
          exact h.1

/-- No text is refused for another reason. -/
theorem parseMinorUnits_error {value : String} {e : Iso20022Error}
    (h : parseMinorUnits value = .error e) : e = .invalidAmount := by
  simp only [parseMinorUnits] at h
  split at h
  · cases h
    rfl
  · split at h
    · cases h
      rfl
    · split at h
      · cases h
        rfl
      · cases h

/-- A text is read as a number when it is that number printed, and the
number is positive and within the type. -/
theorem parseMinorUnits_eq_ok_iff (value : String) (n : Int) :
    parseMinorUnits value = .ok n ↔ 1 ≤ n ∧ n ≤ 2 ^ 127 - 1 ∧ trim value = toString n := by
  rw [parseMinorUnits_eq_ok, parseI128_eq_some_iff]
  constructor
  · intro h
    obtain ⟨hcanonical, ⟨hn, hlt⟩, hpos⟩ := h
    have hbound : n ≤ 2 ^ 127 - 1 := by
      rw [hn]
      omega
    refine ⟨hpos, hbound, String.toList_injective ?_⟩
    rw [hn, toString_natCast, toList_toString_nat, toDigits_ofDigitChars hcanonical]
  · intro h
    obtain ⟨hpos, hbound, htrim⟩ := h
    obtain ⟨m, rfl⟩ := Int.eq_ofNat_of_zero_le (show 0 ≤ n by omega)
    have hdigits : (trim value).toList = Nat.toDigits 10 m := by
      rw [htrim, toString_natCast, toList_toString_nat]
    rw [hdigits, Nat.ofDigitChars_ten_toDigits]
    exact ⟨canonical_toDigits m, ⟨rfl, by omega⟩, hpos⟩

/-- A digit is not white space. -/
theorem isWhitespace_of_isDigit {c : Char} (h : c.isDigit = true) : isWhitespace c = false := by
  have hbounds := toNat_of_isDigit h
  simp only [isWhitespace, Bool.or_eq_false_iff, Bool.and_eq_false_iff, decide_eq_false_iff_not]
  omega

/-- The text of a natural number is trimmed. -/
theorem trim_toString (m : Nat) : trim (toString m) = toString m := by
  have hdigit : ∀ c ∈ (toString m).toList, isWhitespace c = false := by
    intro c hc
    rw [toList_toString_nat] at hc
    exact isWhitespace_of_isDigit ((canonical_toDigits m).isDigit c hc)
  rw [trim_eq_self_iff]
  constructor
  · rw [List.dropWhile_eq_self_iff]
    intro hlen
    exact Bool.eq_false_iff.mp (hdigit _ (List.getElem_mem hlen))
  · rw [List.rdropWhile_eq_self_iff]
    intro hne
    exact Bool.eq_false_iff.mp (hdigit _ (List.getLast_mem hne))

/-- What a reader of amounts in minor units has to do: accept the positive
`i128`s as they are printed, with white space around them, and refuse every
other text as no amount. -/
structure ReadsMinorUnits (parse : String → Except Iso20022Error Int) : Prop where
  accepts_iff : ∀ s n, parse s = .ok n ↔ 1 ≤ n ∧ n ≤ 2 ^ 127 - 1 ∧ trim s = toString n
  refuses : ∀ s, (¬ ∃ n : Int, 1 ≤ n ∧ n ≤ 2 ^ 127 - 1 ∧ trim s = toString n) →
    parse s = .error .invalidAmount
  printed : ∀ n : Int, 1 ≤ n → n ≤ 2 ^ 127 - 1 → parse (toString n) = .ok n
  injective : ∀ s s' n, parse s = .ok n → parse s' = .ok n → trim s = trim s'

/-- **The amount parser accepts exactly the canonical positive integers**
of the type, and two different texts never give one amount. -/
theorem parseMinorUnits_reads : ReadsMinorUnits parseMinorUnits where
  accepts_iff := parseMinorUnits_eq_ok_iff
  refuses s hs := by
    cases hparse : parseMinorUnits s with
    | ok n => exact absurd ⟨n, (parseMinorUnits_eq_ok_iff s n).mp hparse⟩ hs
    | error e => rw [parseMinorUnits_error hparse]
  printed n hpos hbound := by
    refine (parseMinorUnits_eq_ok_iff _ n).mpr ⟨hpos, hbound, ?_⟩
    obtain ⟨m, rfl⟩ := Int.eq_ofNat_of_zero_le (show 0 ≤ n by omega)
    rw [toString_natCast]
    exact trim_toString m
  injective s s' n hs hs' := by
    have htrim := ((parseMinorUnits_eq_ok_iff s n).mp hs).2.2
    have htrim' := ((parseMinorUnits_eq_ok_iff s' n).mp hs').2.2
    rw [htrim, htrim']

example : parseMinorUnits " 170141183460469231731687303715884105727\n" = .ok (2 ^ 127 - 1) := by
  decide +kernel

example : parseMinorUnits "170141183460469231731687303715884105728" = .error .invalidAmount := by
  decide +kernel

end KaniNetwork
