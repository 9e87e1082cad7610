/-
KaniNetwork.Base.Method — methods on a mutable receiver that may fail.

A `Method σ ε α` is a Rust method `fn(&mut self) -> Result<α, ε>`: it
takes the receiver `σ` and returns the receiver it leaves behind with the
outcome, so a failing method has a final state too. The bind is `?`.

`bind_eq_ok_iff` takes a successful run apart. `Commits` is the discipline
most such methods follow, everything fallible first, then the writes; its
consequence is that a failed call changed nothing. `Ends` is for the calls
that write along the way: a condition on the receiver and the outcome of
the call, put together part by part.
-/
import KaniNetwork.Base.Result

namespace KaniNetwork

/-- A fallible method on a receiver `σ`. -/
def Method (σ ε α : Type) : Type := σ → σ × Except ε α

namespace Method

variable {σ ε ε' α β : Type}

instance : Monad (Method σ ε) where
  pure a := fun s => (s, .ok a)
  bind m f := fun s =>
    match m s with
    | (s', .ok a) => f a s'
    | (s', .error e) => (s', .error e)

/-- Read the receiver. -/
def get : Method σ ε σ := fun s => (s, .ok s)

/-- Replace the receiver. -/
def set (s : σ) : Method σ ε Unit := fun _ => (s, .ok ())

/-- Update the receiver. -/
def modify (f : σ → σ) : Method σ ε Unit := fun s => (f s, .ok ())

/-- Return `Err(e)`. -/
def throw (e : ε) : Method σ ε α := fun s => (s, .error e)

/-- A result computed without touching the receiver. -/
def ofExcept (x : Except ε α) : Method σ ε α := fun s => (s, x)

/-- Translate the error (`map_err`, or the `From` behind `?`). -/
def mapError (g : ε → ε') (m : Method σ ε α) : Method σ ε' α := fun s =>
  ((m s).1, (m s).2.mapError g)

@[simp] theorem throw_run (e : ε) (s : σ) : (throw e : Method σ ε α) s = (s, .error e) := rfl
@[simp] theorem get_bind (f : σ → Method σ ε α) (s : σ) : (get >>= f) s = f s s := rfl
@[simp] theorem set_bind (s' : σ) (f : Unit → Method σ ε α) (s : σ) :
    (set s' >>= f) s = f () s' := rfl
@[simp] theorem modify_bind (g : σ → σ) (f : Unit → Method σ ε α) (s : σ) :
    (modify g >>= f) s = f () (g s) := rfl
@[simp] theorem ofExcept_ok_bind (a : α) (f : α → Method σ ε β) (s : σ) :
    (ofExcept (.ok a) >>= f) s = f a s := rfl
@[simp] theorem ofExcept_error_bind (e : ε) (f : α → Method σ ε β) (s : σ) :
    (ofExcept (.error e) >>= f) s = (s, .error e) := rfl

theorem ofExcept_bind (x : Except ε α) (f : α → Except ε β) :
    (ofExcept (x >>= f) : Method σ ε β) = (ofExcept x >>= fun a => ofExcept (f a)) := by
  cases x <;> rfl

/-- A sequence succeeds when its first part does and the rest does from
where that ends. -/
theorem bind_eq_ok_iff {m : Method σ ε α} {f : α → Method σ ε β} {s s' : σ} {b : β} :
    (m >>= f) s = (s', .ok b) ↔ ∃ s₁ a, m s = (s₁, .ok a) ∧ f a s₁ = (s', .ok b) := by
  show (match m s with
    | (s', .ok a) => f a s'
    | (s', .error e) => (s', .error e)) = _ ↔ _
  rcases hm : m s with ⟨s₁, r⟩
  cases r with
  | error e => simp
  | ok a =>
    constructor
    · exact fun h => ⟨s₁, a, rfl, h⟩
    · rintro ⟨_, _, ⟨rfl, rfl⟩, h⟩
      exact h

/-- A sequence whose first part succeeds goes on from there. -/
theorem bind_eq_of_ok {m : Method σ ε α} (f : α → Method σ ε β) {s s' : σ} {a : α}
    (h : m s = (s', .ok a)) : (m >>= f) s = f a s' := by
  show (match m s with
    | (s', .ok a) => f a s'
    | (s', .error e) => (s', .error e)) = _
  rw [h]

/-- A sequence whose first part fails, fails with it. -/
theorem bind_eq_error {m : Method σ ε α} (f : α → Method σ ε β) {s s' : σ} {e : ε}
    (h : m s = (s', .error e)) : (m >>= f) s = (s', .error e) := by
  show (match m s with
    | (s', .ok a) => f a s'
    | (s', .error e) => (s', .error e)) = _
  rw [h]

theorem ofExcept_eq_ok_iff {x : Except ε α} {s s' : σ} {a : α} :
    ofExcept x s = (s', .ok a) ↔ s = s' ∧ x = .ok a := by
  simp only [ofExcept, Prod.mk.injEq]

theorem mapError_eq_ok_iff {g : ε → ε'} {m : Method σ ε α} {s s' : σ} {a : α} :
    mapError g m s = (s', .ok a) ↔ m s = (s', .ok a) := by
  rcases hm : m s with ⟨s₁, r⟩
  cases r <;> simp [mapError, hm, Except.mapError]

/-! ## Failing before writing -/

/-- A failed call left the receiver as it was. -/
def Commits (m : Method σ ε α) : Prop := ∀ s s' e, m s = (s', .error e) → s' = s

/-- So an invariant that successful calls keep is kept by every call. -/
theorem Commits.preserves {m : Method σ ε α} (hm : m.Commits) {I : σ → Prop} {s : σ} (h : I s)
    (hok : ∀ s' a, m s = (s', .ok a) → I s') : I (m s).1 := by
  rcases hrun : m s with ⟨s', r⟩
  cases r with
  | error e =>
    rw [hm s s' e hrun]
    exact h
  | ok a => exact hok s' a hrun

theorem Commits.ofExcept (x : Except ε α) : (ofExcept x : Method σ ε α).Commits := by
  intro s s' e h
  simp only [Method.ofExcept, Prod.mk.injEq] at h
  exact h.1.symm

theorem Commits.throw (e : ε) : (Method.throw e : Method σ ε α).Commits := by
  intro s s' e' h
  simp only [throw_run, Prod.mk.injEq] at h
  exact h.1.symm

theorem Commits.get_bind {f : σ → Method σ ε α} (h : ∀ s, (f s).Commits) :
    (get >>= f).Commits := by
  intro s s' e hrun
  rw [Method.get_bind] at hrun
  exact h s s s' e hrun

theorem Commits.ofExcept_bind {x : Except ε α} {f : α → Method σ ε β}
    (h : ∀ a, (f a).Commits) : (Method.ofExcept x >>= f).Commits := by
  cases x with
  | error e => exact Commits.throw e
  | ok a => exact h a

/-- Writes that cannot fail may come last. -/
theorem Commits.of_ok {m : Method σ ε α} (h : ∀ s, ∃ a, (m s).2 = .ok a) : m.Commits := by
  intro s s' e hrun
  obtain ⟨a, ha⟩ := h s
  rw [hrun] at ha
  cases ha

/-! ## Where a call ends -/

/-- The call from `s` ends in a value and a receiver that satisfy `onOk`, or
in an error and a receiver that satisfy `onError`. The call is not run when
the condition is compared with another. -/
@[irreducible] def Ends (m : Method σ ε α) (s : σ) (onOk : α → σ → Prop) (onError : ε → σ → Prop) : Prop :=
  match m s with
  | (s', .ok a) => onOk a s'
  | (s', .error e) => onError e s'

section

variable {m : Method σ ε α} {f : α → Method σ ε β} {s : σ} {onOk : α → σ → Prop}
  {onError : ε → σ → Prop}

theorem Ends.pure {a : α} (h : onOk a s) : (pure a : Method σ ε α).Ends s onOk onError := by
  unfold Ends
  exact h

theorem Ends.throw {e : ε} (h : onError e s) : (throw e : Method σ ε α).Ends s onOk onError := by
  unfold Ends
  exact h

theorem Ends.modify {g : σ → σ} {onOk : Unit → σ → Prop} (h : onOk () (g s)) :
    (modify g : Method σ ε Unit).Ends s onOk onError := by
  unfold Ends
  exact h

theorem Ends.ofExcept {x : Except ε α} (hok : ∀ a, x = .ok a → onOk a s)
    (herror : ∀ e, x = .error e → onError e s) : (Method.ofExcept x).Ends s onOk onError := by
  unfold Ends
  cases x with
  | ok a => exact hok a rfl
  | error e => exact herror e rfl

/-- The rest of a sequence runs from where its first part ends. -/
theorem Ends.bind {onOk' : β → σ → Prop} (hm : m.Ends s onOk onError)
    (hf : ∀ a s', onOk a s' → (f a).Ends s' onOk' onError) : (m >>= f).Ends s onOk' onError := by
  unfold Ends at hm ⊢
  show (match (match m s with
    | (s', .ok a) => f a s'
    | (s', .error e) => (s', .error e)) with
    | (s', .ok b) => onOk' b s'
    | (s', .error e) => onError e s')
  rcases hrun : m s with ⟨s', r⟩
  rw [hrun] at hm
  cases r with
  | ok a =>
    have hrest := hf a s' hm
    unfold Ends at hrest
    exact hrest
  | error e => exact hm

theorem Ends.ofExcept_bind {x : Except ε α} {onOk : β → σ → Prop}
    (herror : ∀ e, x = .error e → onError e s)
    (hok : ∀ a, x = .ok a → (f a).Ends s onOk onError) :
    (Method.ofExcept x >>= f).Ends s onOk onError := by
  cases x with
  | ok a =>
    have hrest := hok a rfl
    unfold Ends at hrest ⊢
    exact hrest
  | error e =>
    unfold Ends
    exact herror e rfl

theorem Ends.modify_bind {g : σ → σ} {f : Unit → Method σ ε α} (h : (f ()).Ends (g s) onOk onError) :
    (Method.modify g >>= f).Ends s onOk onError := by
  unfold Ends at h ⊢
  exact h

theorem Ends.get_bind {f : σ → Method σ ε α} (h : (f s).Ends s onOk onError) :
    (get >>= f).Ends s onOk onError := by
  unfold Ends at h ⊢
  exact h

theorem Ends.mono {onOk' : α → σ → Prop} {onError' : ε → σ → Prop} (h : m.Ends s onOk onError)
    (hok : ∀ a s', onOk a s' → onOk' a s') (herror : ∀ e s', onError e s' → onError' e s') :
    m.Ends s onOk' onError' := by
  unfold Ends at h ⊢
  rcases hrun : m s with ⟨s', r⟩
  rw [hrun] at h
  cases r with
  | ok a => exact hok a s' h
  | error e => exact herror e s' h

/-- Nothing has to be known of a first part after which the rest ends well
from anywhere. -/
theorem Ends.bind_of_forall {onOk' : β → σ → Prop} (herror : ∀ e s', onError e s')
    (hf : ∀ a s', (f a).Ends s' onOk' onError) : (m >>= f).Ends s onOk' onError := by
  have hm : m.Ends s (fun _ _ => True) onError := by
    unfold Ends
    rcases m s with ⟨s', r⟩
    cases r with
    | ok a => trivial
    | error e => exact herror e s'
  exact hm.bind fun a s' _ => hf a s'

theorem Ends.mapError {g : ε → ε'} {onError' : ε' → σ → Prop} (h : m.Ends s onOk onError)
    (herror : ∀ e s', onError e s' → onError' (g e) s') :
    (m.mapError g).Ends s onOk onError' := by
  unfold Ends at h ⊢
  rcases hrun : m s with ⟨s', r⟩
  rw [hrun] at h
  simp only [Method.mapError, hrun]
  cases r with
  | ok a => exact h
  | error e => exact herror e s' h

/-- A condition on the receiver alone is met by the receiver left behind. -/
theorem Ends.final {P : σ → Prop} (h : m.Ends s (fun _ => P) (fun _ => P)) : P (m s).1 := by
  unfold Ends at h
  rcases hrun : m s with ⟨s', r⟩
  rw [hrun] at h
  cases r <;> exact h

/-- A call that commits ends where it succeeds, or where it began. -/
theorem Commits.ends (hm : m.Commits) (hok : ∀ s' a, m s = (s', .ok a) → onOk a s')
    (herror : ∀ e, onError e s) : m.Ends s onOk onError := by
  unfold Ends
  rcases hrun : m s with ⟨s', r⟩
  cases r with
  | ok a => exact hok s' a hrun
  | error e =>
    rw [hm s s' e hrun]
    exact herror e

theorem Commits.mapError {g : ε → ε'} (hm : m.Commits) : (m.mapError g).Commits := by
  intro s s' e h
  rcases hrun : m s with ⟨s₁, r⟩
  simp only [Method.mapError, hrun, Prod.mk.injEq] at h
  cases r with
  | ok a => cases h.2
  | error e' =>
    rw [← h.1]
    exact hm s s₁ e' hrun

end

end Method

end KaniNetwork
