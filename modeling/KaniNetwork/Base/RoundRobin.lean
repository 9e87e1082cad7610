/-
KaniNetwork.Base.RoundRobin — windows on a ring of positions.

`ring n start len` lists `len` consecutive positions of a ring of `n`, from
`start` on. A window no longer than the ring has each position once, and
over one turn of the start every position is in exactly `len` of the
windows (`count_ring`).

The second part is about a labelling `f` of the positions. When two
positions may carry one label, windows that begin at the first position of
a label can repeat a label. For windows of at least two thirds of the ring
none of them does only when the labels are distinct, or on a ring of three
whose ends carry one label (`distinct_windows_iff`).
-/
import Mathlib.Data.Nat.Count
import Mathlib.Data.Nat.ModEq
import Mathlib.Order.Interval.Finset.Nat

namespace KaniNetwork

/-- `len` positions of a ring of `n` from `start` on. -/
def ring (n start len : Nat) : List Nat :=
  (List.range len).map fun offset => (start + offset) % n

@[simp] theorem length_ring (n start len : Nat) : (ring n start len).length = len := by
  simp [ring]

theorem mem_ring {n start len i : Nat} :
    i ∈ ring n start len ↔ ∃ offset < len, (start + offset) % n = i := by
  simp [ring]

theorem ring_mod (n start len : Nat) : ring n (start % n) len = ring n start len := by
  simp [ring]

theorem lt_of_mem_ring {n start len i : Nat} (hn : 0 < n) (h : i ∈ ring n start len) : i < n := by
  obtain ⟨offset, -, rfl⟩ := mem_ring.mp h
  exact Nat.mod_lt _ hn

/-- Steps of less than a turn end at different positions. -/
theorem add_mod_inj {n start o o' : Nat} (ho : o < n) (ho' : o' < n)
    (h : (start + o) % n = (start + o') % n) : o = o' := by
  have hmod : o % n = o' % n := Nat.ModEq.add_left_cancel' start h
  rwa [Nat.mod_eq_of_lt ho, Nat.mod_eq_of_lt ho'] at hmod

/-! ## Counting -/

/-- A turn counts the same from anywhere. -/
theorem count_turn {n : Nat} {p : Nat → Prop} [DecidablePred p] (hp : ∀ k, p (k + n) ↔ p k)
    (start : Nat) : Nat.count (fun k => p (start + k)) n = Nat.count p n := by
  induction start with
  | zero => simp only [Nat.zero_add]
  | succ start ih =>
    rw [← ih]
    have hlast := Nat.count_succ (fun k => p (start + k)) n
    have hfirst := Nat.count_succ' (fun k => p (start + k)) n
    have hshift : (fun k => p (start + 1 + k)) = fun k => p (start + (k + 1)) := by
      funext k
      rw [Nat.add_right_comm, Nat.add_assoc]
    have hends : p (start + n) ↔ p (start + 0) := hp start
    simp only [hends] at hlast
    simp only [hshift]
    omega

/-- Over one turn of the start, every position is in `len` windows. -/
theorem count_ring {n len i : Nat} (hlen : len ≤ n) (hi : i < n) (start : Nat) :
    Nat.count (fun k => i ∈ ring n (start + k) len) n = len := by
  have hperiod : ∀ k, i ∈ ring n (k + n) len ↔ i ∈ ring n k len := by
    intro k
    rw [← ring_mod, Nat.add_mod_right, ring_mod]
  -- begin the turn just after `i`, so that a window meets `i` once at most
  have hafter : ∀ k < n, i ∈ ring n (i + 1 + k) len ↔ n - len ≤ k := by
    intro k hk
    rw [mem_ring]
    constructor
    · intro ⟨offset, hoffset, hmod⟩
      by_contra hlt
      have hsmall : offset + 1 + k < n := by omega
      have hsum : i + 1 + k + offset = i + (offset + 1 + k) := by omega
      have hzero : (i + (offset + 1 + k)) % n = (i + 0) % n := by
        rw [← hsum, hmod, Nat.add_zero, Nat.mod_eq_of_lt hi]
      have := add_mod_inj hsmall (by omega) hzero
      omega
    · intro hle
      refine ⟨n - 1 - k, by omega, ?_⟩
      have hturn : i + 1 + k + (n - 1 - k) = i + n := by omega
      rw [hturn, Nat.add_mod_right, Nat.mod_eq_of_lt hi]
  have hcount : Nat.count (fun k => i ∈ ring n (i + 1 + k) len) n = len := by
    rw [Nat.count_eq_card_filter_range]
    have hfilter : (Finset.range n).filter (fun k => i ∈ ring n (i + 1 + k) len) =
        Finset.Ico (n - len) n := by
      ext k
      rw [Finset.mem_filter, Finset.mem_range, Finset.mem_Ico]
      constructor
      · intro ⟨hk, hmem⟩
        exact ⟨(hafter k hk).mp hmem, hk⟩
      · intro ⟨hle, hk⟩
        exact ⟨hk, (hafter k hk).mpr hle⟩
    rw [hfilter, Nat.card_Ico]
    omega
  have hstart := count_turn (p := fun k => i ∈ ring n k len) hperiod start
  have hi' := count_turn (p := fun k => i ∈ ring n k len) hperiod (i + 1)
  rw [hstart, ← hi']
  exact hcount

/-! ## Labels -/

section

variable {α : Type} {f : Nat → α} {n len : Nat}

/-- No two positions below `n` carry one label. -/
def Distinct (f : Nat → α) (n : Nat) : Prop := ∀ i < n, ∀ j < n, f i = f j → i = j

/-- `p` is the first position of its label. -/
def IsFirst (f : Nat → α) (p : Nat) : Prop := ∀ j < p, f j ≠ f p

theorem nodup_map_ring {start : Nat} :
    ((ring n start len).map f).Nodup ↔
      ∀ o < len, ∀ o' < len, f ((start + o) % n) = f ((start + o') % n) → o = o' := by
  unfold ring
  rw [List.map_map, List.nodup_map_iff_inj_on List.nodup_range]
  simp only [List.mem_range, Function.comp]

theorem nodup_ring_of_distinct (h : Distinct f n) (hn : 0 < n) (hlen : len ≤ n) (start : Nat) :
    ((ring n start len).map f).Nodup := by
  rw [nodup_map_ring]
  intro o ho o' ho' heq
  have hpos := h _ (Nat.mod_lt _ hn) _ (Nat.mod_lt _ hn) heq
  exact add_mod_inj (by omega) (by omega) hpos

/-- Where labels are not distinct, some position is the first to repeat one. -/
theorem exists_first_repeat (h : ¬ Distinct f n) :
    ∃ p q, p < q ∧ q < n ∧ f p = f q ∧ ∀ i < q, IsFirst f i := by
  have hex : ∃ q, q < n ∧ ∃ p < q, f p = f q := by
    simp only [Distinct, not_forall] at h
    obtain ⟨i, hi, j, hj, heq, hne⟩ := h
    rcases Nat.lt_or_gt_of_ne hne with hlt | hgt
    · exact ⟨j, hj, i, hlt, heq⟩
    · exact ⟨i, hi, j, hgt, heq.symm⟩
  classical
  obtain ⟨hq, p, hp, heq⟩ := Nat.find_spec hex
  refine ⟨p, Nat.find hex, hp, hq, heq, ?_⟩
  intro i hi j hj hij
  exact Nat.find_min hex hi ⟨by omega, j, hj, hij⟩

/-- When no window from a first position repeats a label, a repeated label
is at the two ends of a ring of three: from its first position the second is
out of reach, and so is the first from just before the second. -/
theorem ends_of_windows (hn : 3 ≤ n) (hlow : 2 * n ≤ 3 * len)
    (h : ∀ p < n, IsFirst f p → ((ring n p len).map f).Nodup) (hnot : ¬ Distinct f n) :
    n = 3 ∧ len = 2 ∧ f 0 = f 2 ∧ f 0 ≠ f 1 := by
  obtain ⟨p, q, hpq, hq, heq, hfirst⟩ := exists_first_repeat hnot
  have hforward : len ≤ q - p := by
    by_contra hlt
    have hwindow := nodup_map_ring.mp (h p (by omega) (hfirst p hpq)) 0 (by omega) (q - p) (by omega)
    rw [Nat.add_zero, Nat.add_sub_cancel' hpq.le, Nat.mod_eq_of_lt hq,
      Nat.mod_eq_of_lt (hpq.trans hq)] at hwindow
    have := hwindow heq
    omega
  have hbackward : len ≤ n + 1 - (q - p) := by
    by_contra hlt
    have hwindow := nodup_map_ring.mp (h (q - 1) (by omega) (hfirst (q - 1) (by omega)))
      1 (by omega) (n + 1 - (q - p)) (by omega)
    have hone : (q - 1 + 1) % n = q := by rw [Nat.sub_add_cancel (by omega), Nat.mod_eq_of_lt hq]
    have hwrap : (q - 1 + (n + 1 - (q - p))) % n = p := by
      have hsum : q - 1 + (n + 1 - (q - p)) = p + n := by omega
      rw [hsum, Nat.add_mod_right, Nat.mod_eq_of_lt (hpq.trans hq)]
    rw [hone, hwrap] at hwindow
    have := hwindow heq.symm
    omega
  obtain ⟨rfl, rfl, rfl, rfl⟩ : n = 3 ∧ len = 2 ∧ p = 0 ∧ q = 2 := by omega
  exact ⟨rfl, rfl, heq, hfirst 1 (by omega) 0 (by omega)⟩

/-- The windows from first positions repeat no label exactly when no two
positions share one, or the two ends of a ring of three alone do and windows
have two positions. -/
theorem distinct_windows_iff (hn : 3 ≤ n) (hlow : 2 * n ≤ 3 * len) (hhigh : len ≤ n) :
    (∀ p < n, IsFirst f p → ((ring n p len).map f).Nodup) ↔
      Distinct f n ∨ (n = 3 ∧ len = 2 ∧ f 0 = f 2 ∧ f 0 ≠ f 1) := by
  constructor
  · intro h
    by_cases hdistinct : Distinct f n
    · exact .inl hdistinct
    · exact .inr (ends_of_windows hn hlow h hdistinct)
  · intro h p hp hfirst
    rcases h with hdistinct | ⟨rfl, rfl, hends, hne⟩
    · exact nodup_ring_of_distinct hdistinct (by omega) hhigh p
    · have hcases : p = 0 ∨ p = 1 := by
        by_contra hnot
        have htwo : p = 2 := by omega
        subst htwo
        exact hfirst 0 (by omega) hends
      rcases hcases with rfl | rfl
      · simpa [ring, List.range_succ] using hne
      · have hne' : ¬ f 1 = f 2 := fun h => hne (hends.trans h.symm)
        simpa [ring, List.range_succ] using hne'

end

end KaniNetwork
