/-
KaniNetwork.Base.Reading — texts that can be read in one way only.

A text is `Readable` when, in front of any other text, it determines the
value it was written from and where it ends. A text that a delimiter ends is
readable as far as the delimiter (`append_delimiter_inj`); a list of
readable items is readable when what stands behind it does not begin like
another item (`readable_flatMap`).
-/
import Mathlib.Data.List.Basic

namespace KaniNetwork

section

variable {α β : Type}

/-- Of the values that meet `p`, only one can have been written in front of
a text. -/
def Readable (p : α → Prop) (w : α → List β) : Prop :=
  ∀ ⦃a b⦄, p a → p b → ∀ r r', w a ++ r = w b ++ r' → a = b ∧ r = r'

/-- A text without the delimiter is read up to the delimiter. -/
theorem append_delimiter_inj {d : β} {xs ys : List β} (hx : d ∉ xs) (hy : d ∉ ys) {r r' : List β} :
    xs ++ d :: r = ys ++ d :: r' ↔ xs = ys ∧ r = r' := by
  constructor
  · intro h
    induction xs generalizing ys with
    | nil =>
      cases ys with
      | nil => exact ⟨rfl, (List.cons.inj h).2⟩
      | cons y ys => exact absurd (List.cons.inj h).1 (fun hd => hy (hd ▸ List.mem_cons_self))
    | cons x xs ih =>
      cases ys with
      | nil => exact absurd (List.cons.inj h).1 (fun hd => hx (hd ▸ List.mem_cons_self))
      | cons y ys =>
        rw [List.cons_append, List.cons_append, List.cons.injEq] at h
        obtain ⟨rfl, hrest⟩ := h
        obtain ⟨rfl, rfl⟩ := ih (fun hd => hx (List.mem_cons_of_mem x hd))
          (fun hd => hy (List.mem_cons_of_mem x hd)) hrest
        exact ⟨rfl, rfl⟩
  · rintro ⟨rfl, rfl⟩
    rfl

/-- Items are read one after the other, up to a text that begins like
none. -/
theorem readable_flatMap {p : α → Prop} {w : α → List β} (hw : Readable p w) {stop : List β}
    (hstop : ∀ a r r', w a ++ r ≠ stop ++ r') :
    Readable (fun xs => ∀ x ∈ xs, p x) (fun xs : List α => xs.flatMap w ++ stop) := by
  intro xs ys hx hy r r' h
  simp only [List.append_assoc] at h
  induction xs generalizing ys with
  | nil =>
    cases ys with
    | nil => exact ⟨rfl, List.append_cancel_left h⟩
    | cons y ys =>
      rw [List.flatMap_nil, List.nil_append, List.flatMap_cons, List.append_assoc] at h
      exact absurd h.symm (hstop y _ _)
  | cons x xs ih =>
    cases ys with
    | nil =>
      rw [List.flatMap_nil, List.nil_append, List.flatMap_cons, List.append_assoc] at h
      exact absurd h (hstop x _ _)
    | cons y ys =>
      rw [List.flatMap_cons, List.flatMap_cons, List.append_assoc, List.append_assoc] at h
      obtain ⟨rfl, hrest⟩ := hw (hx x List.mem_cons_self) (hy y List.mem_cons_self) _ _ h
      obtain ⟨rfl, rfl⟩ := ih (fun z hz => hx z (List.mem_cons_of_mem x hz))
        (fun z hz => hy z (List.mem_cons_of_mem x hz)) hrest
      exact ⟨rfl, rfl⟩

end

end KaniNetwork
