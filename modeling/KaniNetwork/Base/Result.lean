/-
KaniNetwork.Base.Result — taking a `Result` computation apart.

The `?` of the source is the bind of `Except`: a chain that ends in `ok`
had every step end in `ok`. `FailsIn` says which errors a computation may
end in, `Agree` that two computations end in the same error or in related
values; both go through a chain step by step.
-/
import Mathlib.Data.List.Basic
import Mathlib.Data.List.Forall2
import Mathlib.Logic.Basic

namespace KaniNetwork

/-- A sequence succeeds when its first step does and the rest does on the
first result. -/
theorem bind_eq_ok_iff {ε α β : Type} {x : Except ε α} {f : α → Except ε β} {b : β} :
    (x >>= f) = .ok b ↔ ∃ a, x = .ok a ∧ f a = .ok b := by
  cases x with
  | error e => simp [bind, Except.bind]
  | ok a => simp [bind, Except.bind]

theorem mapError_eq_ok_iff {ε ε' α : Type} {g : ε → ε'} {x : Except ε α} {a : α} :
    x.mapError g = .ok a ↔ x = .ok a := by
  cases x <;> simp [Except.mapError]

@[simp] theorem pure_eq_ok {ε α : Type} (a : α) : (pure a : Except ε α) = .ok a := rfl

@[simp] theorem ok_bind {ε α β : Type} (a : α) (f : α → Except ε β) :
    ((.ok a : Except ε α) >>= f) = f a := rfl

@[simp] theorem error_bind {ε α β : Type} (e : ε) (f : α → Except ε β) :
    ((.error e : Except ε α) >>= f) = .error e := rfl

theorem eq_ok_some_of_isSome {ε α : Type} {x : Except ε (Option α)}
    (h : x.toOption.join.isSome = true) : ∃ a, x = .ok (some a) := by
  cases x with
  | error e => cases h
  | ok o =>
    obtain ⟨a, ha⟩ := Option.isSome_iff_exists.mp h
    exact ⟨a, congrArg Except.ok ha⟩

/-- A map succeeds, with values as told, when it succeeds on every element. -/
theorem mapM_forall₂ {ε α β : Type} {f : α → Except ε β} {P : α → β → Prop} {xs : List α}
    (h : ∀ a ∈ xs, ∃ b, f a = .ok b ∧ P a b) : ∃ bs, xs.mapM f = .ok bs ∧ List.Forall₂ P xs bs := by
  induction xs with
  | nil => exact ⟨[], rfl, .nil⟩
  | cons a xs ih =>
    rw [List.forall_mem_cons] at h
    obtain ⟨⟨b, hb, hP⟩, hrest⟩ := h
    obtain ⟨bs, hbs, hall⟩ := ih hrest
    exact ⟨b :: bs, by simp [hb, hbs], .cons hP hall⟩

/-! ## Which errors -/

/-- Every error the computation can end in satisfies `P`. -/
def FailsIn {ε α : Type} (P : ε → Prop) (x : Except ε α) : Prop := ∀ e, x = .error e → P e

namespace FailsIn

variable {ε ε' α β : Type} {P : ε → Prop}

theorem ok (a : α) : FailsIn P (.ok a : Except ε α) := by
  intro e h
  cases h

theorem error {e : ε} (h : P e) : FailsIn P (.error e : Except ε α) := by
  rintro _ ⟨⟩
  exact h

theorem bind {x : Except ε α} {f : α → Except ε β} (hx : FailsIn P x)
    (hf : ∀ a, FailsIn P (f a)) : FailsIn P (x >>= f) := by
  cases x with
  | error e => exact error (hx e rfl)
  | ok a => exact hf a

theorem ite {c : Prop} [Decidable c] {x y : Except ε α} (hx : FailsIn P x) (hy : FailsIn P y) :
    FailsIn P (if c then x else y) := by
  split
  · exact hx
  · exact hy

theorem mapError {P : ε' → Prop} {g : ε → ε'} (x : Except ε α) (h : ∀ e, P (g e)) :
    FailsIn P (x.mapError g) := by
  cases x with
  | error e => exact error (h e)
  | ok a => exact ok a

theorem mapM {f : α → Except ε β} (hf : ∀ a, FailsIn P (f a)) (xs : List α) :
    FailsIn P (xs.mapM f) := by
  induction xs with
  | nil => exact ok []
  | cons x xs ih =>
    rw [List.mapM_cons]
    exact bind (hf x) fun _ => bind ih fun _ => ok _

end FailsIn

/-! ## Two computations -/

/-- Both end in the same error, or in values that are related. -/
inductive Agree {ε α β : Type} (R : α → β → Prop) : Except ε α → Except ε β → Prop where
  | ok {a : α} {b : β} (h : R a b) : Agree R (.ok a) (.ok b)
  | error (e : ε) : Agree R (.error e) (.error e)

namespace Agree

variable {ε α β γ δ : Type} {R : α → β → Prop} {S : γ → δ → Prop}

theorem bind {x : Except ε α} {y : Except ε β} {f : α → Except ε γ} {g : β → Except ε δ}
    (h : Agree R x y) (hf : ∀ a b, R a b → Agree S (f a) (g b)) : Agree S (x >>= f) (y >>= g) := by
  cases h with
  | ok h => exact hf _ _ h
  | error e => exact .error e

/-- Computations of the same value. -/
theorem of_eq {x y : Except ε α} (h : x = y) : Agree Eq x y := by
  subst h
  cases x with
  | error e => exact .error e
  | ok a => exact .ok rfl

theorem eq {x y : Except ε α} (h : Agree Eq x y) : x = y := by
  cases h with
  | ok h => rw [h]
  | error e => rfl

end Agree

end KaniNetwork
