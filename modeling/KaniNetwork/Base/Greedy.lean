/-
KaniNetwork.Base.Greedy — sequences of steps that may fail, and the greedy
choice among them.

`runSteps` takes every element of a list in turn and stops at the first
error. `greedy` skips the elements whose step fails and goes on: it gives
every element a verdict, the error or `none` for an element that was kept,
and `greedyState` is where it ends. A kept element was possible after the
kept ones before it, a skipped one was not (`greedy_verdict`), and the kept
elements by themselves are a run that ends in the same state
(`runSteps_kept`). Both functions compose over `++`, so a list that is
judged in pieces is judged as a whole.
-/
import KaniNetwork.Base.Result

namespace KaniNetwork

variable {σ ε α : Type}

/-- The error of a step, `none` for one that succeeds. -/
def verdict {β : Type} : Except ε β → Option ε
  | .ok _ => none
  | .error e => some e

/-- The elements with the verdict `none`, in order. -/
def kept (vs : List (α × Option ε)) : List α :=
  (vs.filter fun v => v.2.isNone).map Prod.fst

@[simp] theorem kept_nil : kept ([] : List (α × Option ε)) = [] := rfl

@[simp] theorem kept_cons_none (a : α) (vs : List (α × Option ε)) :
    kept ((a, none) :: vs) = a :: kept vs := rfl

@[simp] theorem kept_cons_some (a : α) (e : ε) (vs : List (α × Option ε)) :
    kept ((a, some e) :: vs) = kept vs := rfl

@[simp] theorem kept_append (vs vs' : List (α × Option ε)) :
    kept (vs ++ vs') = kept vs ++ kept vs' := by
  simp only [kept, List.filter_append, List.map_append]

theorem kept_sublist (vs : List (α × Option ε)) : (kept vs).Sublist (vs.map Prod.fst) :=
  List.filter_sublist.map Prod.fst

section

variable (step : α → σ → Except ε σ)

/-- Take every step, up to the first that fails. -/
def runSteps : List α → σ → Except ε σ
  | [], s => .ok s
  | a :: as, s => step a s >>= runSteps as

/-- The verdicts of the greedy choice. -/
def greedy : List α → σ → List (α × Option ε)
  | [], _ => []
  | a :: as, s =>
    match step a s with
    | .ok s' => (a, none) :: greedy as s'
    | .error e => (a, some e) :: greedy as s

/-- Where the greedy choice ends. -/
def greedyState : List α → σ → σ
  | [], s => s
  | a :: as, s =>
    match step a s with
    | .ok s' => greedyState as s'
    | .error _ => greedyState as s

end

variable {step : α → σ → Except ε σ}

theorem runSteps_append (as bs : List α) (s : σ) :
    runSteps step (as ++ bs) s = runSteps step as s >>= runSteps step bs := by
  induction as generalizing s with
  | nil => rfl
  | cons a as ih =>
    simp only [List.cons_append, runSteps]
    cases step a s with
    | error e => rfl
    | ok s' => exact ih s'

theorem runSteps_singleton (a : α) (s : σ) : runSteps step [a] s = step a s := by
  simp only [runSteps]
  cases step a s <;> rfl

/-! ## The greedy choice -/

theorem map_fst_greedy (as : List α) (s : σ) : (greedy step as s).map Prod.fst = as := by
  induction as generalizing s with
  | nil => rfl
  | cons a as ih =>
    rw [greedy]
    cases step a s with
    | ok s' => exact congrArg (a :: ·) (ih s')
    | error e => exact congrArg (a :: ·) (ih s)

/-- What is kept is a run of its own. -/
theorem runSteps_kept (as : List α) (s : σ) :
    runSteps step (kept (greedy step as s)) s = .ok (greedyState step as s) := by
  induction as generalizing s with
  | nil => rfl
  | cons a as ih =>
    rw [greedy, greedyState]
    cases h : step a s with
    | ok s' =>
      simp only [kept_cons_none, runSteps, h, ok_bind]
      exact ih s'
    | error e => exact ih s

theorem greedy_append (as bs : List α) (s : σ) :
    greedy step (as ++ bs) s = greedy step as s ++ greedy step bs (greedyState step as s) := by
  induction as generalizing s with
  | nil => rfl
  | cons a as ih =>
    rw [List.cons_append, greedy, greedy, greedyState]
    cases step a s with
    | ok s' => exact congrArg ((a, none) :: ·) (ih s')
    | error e => exact congrArg ((a, some e) :: ·) (ih s)

theorem greedyState_append (as bs : List α) (s : σ) :
    greedyState step (as ++ bs) s = greedyState step bs (greedyState step as s) := by
  induction as generalizing s with
  | nil => rfl
  | cons a as ih =>
    rw [List.cons_append, greedyState, greedyState]
    cases step a s with
    | ok s' => exact ih s'
    | error e => exact ih s

/-- Every verdict is that of the step in the state the kept elements before
it lead to. -/
theorem greedy_verdict {as : List α} {s : σ} {before after : List (α × Option ε)} {a : α}
    {v : Option ε} (h : greedy step as s = before ++ (a, v) :: after) :
    ∃ s', runSteps step (kept before) s = .ok s' ∧ verdict (step a s') = v := by
  induction as generalizing s before with
  | nil => cases before <;> cases h
  | cons b as ih =>
    rw [greedy] at h
    cases hstep : step b s with
    | ok s₁ =>
      rw [hstep] at h
      cases before with
      | nil =>
        cases h
        exact ⟨s, rfl, congrArg verdict hstep⟩
      | cons c before =>
        injection h with hc hrest
        subst hc
        obtain ⟨s', hrun, hv⟩ := ih hrest
        refine ⟨s', ?_, hv⟩
        simp only [kept_cons_none, runSteps, hstep, ok_bind]
        exact hrun
    | error e =>
      rw [hstep] at h
      cases before with
      | nil =>
        cases h
        exact ⟨s, rfl, congrArg verdict hstep⟩
      | cons c before =>
        injection h with hc hrest
        subst hc
        obtain ⟨s', hrun, hv⟩ := ih hrest
        exact ⟨s', hrun, hv⟩

end KaniNetwork
