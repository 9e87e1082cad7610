/-
KaniNetwork.Base.Separators — texts joined by a separator, and the way
back.

A separator whose first character does not occur in it again cannot
overlap with itself. Two joins are then equal only if their parts are, or
if a text between two separators is read as the end of the first part by
one and as the beginning of the second by the other (`Overlap`,
`joined_eq_iff`). The way back, `rsplit_once`, cuts at the last separator (`rsplitOnce_joined`),
`strip_prefix` at the front.
-/
import KaniNetwork.Base.Text

namespace KaniNetwork

/-- The first character of the text does not occur in it again. -/
def IsSeparator (sep : String) : Prop := ∃ c r, sep.toList = c :: r ∧ c ∉ r

/-- The first part `x` is `x'` with a separator and more text, and that
text with a separator is in front of `y` in the second part `y'`. -/
def Crosses (sep x y x' y' : String) : Prop :=
  ∃ w, x = x' ++ sep ++ w ∧ y' = w ++ sep ++ y

/-- The two pairs are equal, or one crosses into the other. -/
def Overlap (sep x y x' y' : String) : Prop :=
  (x = x' ∧ y = y') ∨ Crosses sep x y x' y' ∨ Crosses sep x' y' x y

/-! ## Joins -/

/-- A separator behind a text, in a text that begins with one: the text is
empty, or it begins with the separator as well. -/
theorem separator_overlap {c : Char} {r w y y' : List Char} (hc : c ∉ r)
    (h : c :: r ++ y = w ++ (c :: r ++ y')) : w = [] ∨ ∃ v, w = c :: r ++ v := by
  rcases List.append_eq_append_iff.mp h with ⟨v, hw, -⟩ | ⟨v, hsep, hv⟩
  · exact .inr ⟨v, hw⟩
  · cases w with
    | nil => exact .inl rfl
    | cons d w =>
      rw [List.cons_append, List.cons.injEq] at hsep
      obtain ⟨rfl, hr⟩ := hsep
      cases v with
      | nil =>
        refine .inr ⟨[], ?_⟩
        rw [hr, List.append_nil, List.append_nil]
      | cons e v =>
        -- the second separator would begin within the first
        rw [List.cons_append, List.cons_append, List.cons.injEq] at hv
        refine absurd ?_ hc
        rw [hr, hv.1]
        exact List.mem_append_right w List.mem_cons_self

/-- One join begins with the first part of the other. -/
theorem joined_overlap {sep x y x' y' : String} (hsep : IsSeparator sep) {w : List Char}
    (hx : x'.toList = x.toList ++ w) (hy : sep.toList ++ y.toList = w ++ (sep.toList ++ y'.toList)) :
    (x = x' ∧ y = y') ∨ Crosses sep x' y' x y := by
  obtain ⟨c, r, htext, hc⟩ := hsep
  have hoverlap := hy
  rw [htext] at hoverlap
  rcases separator_overlap hc hoverlap with rfl | ⟨v, rfl⟩
  · left
    rw [List.append_nil] at hx
    rw [List.nil_append] at hy
    exact ⟨(String.toList_injective hx).symm,
      String.toList_injective (List.append_cancel_left hy)⟩
  · right
    rw [← htext] at hx hy
    rw [List.append_assoc] at hy
    refine ⟨String.ofList v, String.toList_injective ?_, String.toList_injective ?_⟩
    · simp only [String.toList_append, String.toList_ofList, hx, List.append_assoc]
    · simp only [String.toList_append, String.toList_ofList, List.append_cancel_left hy,
        List.append_assoc]

theorem joined_eq_iff {sep : String} (hsep : IsSeparator sep) (x y x' y' : String) :
    x ++ sep ++ y = x' ++ sep ++ y' ↔ Overlap sep x y x' y' := by
  constructor
  · intro h
    have h : x.toList ++ (sep.toList ++ y.toList) = x'.toList ++ (sep.toList ++ y'.toList) := by
      simpa using congrArg String.toList h
    rcases List.append_eq_append_iff.mp h with ⟨w, hx, hy⟩ | ⟨w, hx, hy⟩
    · rcases joined_overlap hsep hx hy with heq | hcross
      · exact .inl heq
      · exact .inr (.inr hcross)
    · rcases joined_overlap hsep hx hy with ⟨hx, hy⟩ | hcross
      · exact .inl ⟨hx.symm, hy.symm⟩
      · exact .inr (.inl hcross)
  · intro h
    rcases h with ⟨rfl, rfl⟩ | ⟨w, rfl, rfl⟩ | ⟨w, rfl, rfl⟩
    · rfl
    · simp only [String.append_assoc]
    · simp only [String.append_assoc]

/-- Nothing crosses into a part that has no separator in it. -/
theorem not_crosses_of_notMem {sep : String} {c : Char} (hc : c ∈ sep.toList)
    {x y x' y' : String} (h : c ∉ y'.toList) : ¬ Crosses sep x y x' y' := by
  intro hcross
  obtain ⟨w, -, rfl⟩ := hcross
  refine h ?_
  simp only [String.toList_append, List.mem_append]
  exact .inl (.inr hc)

/-- Where neither pair has a separator's character in the part that would
be cut, only equal pairs overlap. -/
theorem overlap_of_notMem {sep : String} {c : Char} (hc : c ∈ sep.toList) {x y x' y' : String}
    (hy : c ∉ y.toList) (hy' : c ∉ y'.toList) : Overlap sep x y x' y' ↔ x = x' ∧ y = y' := by
  have hcross : ¬ Crosses sep x y x' y' := not_crosses_of_notMem hc hy'
  have hcross' : ¬ Crosses sep x' y' x y := not_crosses_of_notMem hc hy
  simp only [Overlap, hcross, hcross', or_false]

/-! ## Back from a join -/

theorem stripPrefix_append (start s : String) : stripPrefix (start ++ s) start = some s := by
  have hstart : startsWith (start ++ s) start = true := by
    simp only [startsWith, String.toList_append, List.isPrefixOf_iff_prefix]
    exact List.prefix_append _ _
  rw [stripPrefix, if_pos hstart, String.toList_append, List.drop_left, String.ofList_toList]

theorem stripPrefix_eq_some {s start rest : String} (h : stripPrefix s start = some rest) :
    s = start ++ rest := by
  unfold stripPrefix at h
  split at h
  · rename_i hstart
    obtain ⟨tail, htail⟩ := List.isPrefixOf_iff_prefix.mp hstart
    rw [Option.some.injEq] at h
    refine String.toList_injective ?_
    rw [← h, ← htail, List.drop_left, String.toList_append, String.toList_ofList, htail]
  · cases h

/-- `rsplit_once` cuts at the last separator: none is left behind it. -/
theorem rsplitOnce_joined {y : String} {c : Char} (h : c ∉ y.toList) (x : String) :
    rsplitOnce (x ++ String.singleton c ++ y) c = some (x, y) := by
  have hreverse : (x ++ String.singleton c ++ y).toList.reverse =
      y.toList.reverse ++ c :: x.toList.reverse := by
    simp
  have hbehind : ∀ d ∈ y.toList.reverse, decide (d ≠ c) = true := by
    intro d hd
    simp only [decide_eq_true_eq]
    intro hdc
    exact h (hdc ▸ List.mem_reverse.mp hd)
  simp only [rsplitOnce, hreverse]
  rw [List.dropWhile_append_of_pos hbehind, List.takeWhile_append_of_pos hbehind,
    List.dropWhile_cons_of_neg (by simp), List.takeWhile_cons_of_neg (by simp)]
  simp

/-- A text with separators has a last one. -/
theorem exists_last_separator {y : String} {c : Char} (h : c ∈ y.toList) :
    ∃ a b, y = a ++ String.singleton c ++ b ∧ c ∉ b.toList := by
  obtain ⟨before, after, hy, hc⟩ := List.eq_append_cons_of_mem (List.mem_reverse.mpr h)
  refine ⟨String.ofList after.reverse, String.ofList before.reverse, String.toList_injective ?_, ?_⟩
  · have hreverse := congrArg List.reverse hy
    rw [List.reverse_reverse] at hreverse
    simp [hreverse]
  · simpa using hc

theorem rsplitOnce_eq_some {s a b : String} {c : Char} (h : rsplitOnce s c = some (a, b)) :
    s = a ++ String.singleton c ++ b ∧ c ∉ b.toList := by
  by_cases hc : c ∈ s.toList
  · obtain ⟨a', b', rfl, hb'⟩ := exists_last_separator hc
    rw [rsplitOnce_joined hb', Option.some.injEq, Prod.mk.injEq] at h
    obtain ⟨rfl, rfl⟩ := h
    exact ⟨rfl, hb'⟩
  · have hnone : s.toList.reverse.dropWhile (· ≠ c) = [] := by
      rw [List.dropWhile_eq_nil_iff]
      intro d hd
      simp only [decide_eq_true_eq]
      rintro rfl
      exact hc (List.mem_reverse.mp hd)
    simp only [rsplitOnce, hnone] at h
    cases h

end KaniNetwork
