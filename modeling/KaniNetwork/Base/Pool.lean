/-
KaniNetwork.Base.Pool — any number of programs interleaved on one store.

A `Pool` is a store and, for each slot `i : ι`, the call `c : C` the slot
serves with what is left of its program (`body i c`). A step either
starts a call in an unused slot or issues the next command of a running
slot, so a run is an arbitrary interleaving of atomic commands of an
arbitrary number of calls. `ok` restricts the commands a run may issue;
`fun _ _ => True` leaves every run in.

`Outline` collects what a rely-guarantee proof has to supply: a store
invariant, what each slot tolerates and promises, and that every call is
`Prog.Safe` from every store that satisfies the invariant.
`Outline.sound` then gives the invariant in every reachable pool together
with the safety of what is left of every slot, and `Outline.monotone`
turns a two-store property of single commands into one of runs.
`OnceOutline` is an outline for calls that bring something of their own to
the store, such as a fresh identifier: a slot serves one call, so what the
other slots leave untouched is untouched when it starts.
`Pool.run` executes a given schedule; `reaches_run` places its result
among the reachable pools.
-/
import Mathlib.Logic.Function.Basic
import Mathlib.Logic.Relation
import KaniNetwork.Base.Prog

namespace KaniNetwork

/-- A store and the calls in flight on it. -/
structure Pool (ι C Q : Type) (R : Q → Type) (ε α σ : Type) where
  store : σ
  slots : ι → Option (C × Prog Q R ε α)

namespace Pool

variable {ι C Q : Type} {R : Q → Type} {ε α σ : Type}

/-- A store on which no call has started yet. -/
def idle (s : σ) : Pool ι C Q R ε α σ where
  store := s
  slots := fun _ => none

/-- What a slot has returned, if its call has ended. -/
def result? (P : Pool ι C Q R ε α σ) (i : ι) : Option (Except ε α) :=
  match P.slots i with
  | some (_, .ok a) => some (.ok a)
  | some (_, .fail e) => some (.error e)
  | _ => none

@[simp] theorem idle_store (s : σ) : (idle s : Pool ι C Q R ε α σ).store = s := rfl

variable (sem : (q : Q) → σ → σ × R q) (body : ι → C → Prog Q R ε α) (ok : Q → σ → Prop)

/-! ## Proof outlines -/

/-- What a rely-guarantee proof of a pool supplies. -/
structure Outline where
  inv : σ → Prop
  rely : ι → σ → σ → Prop
  guar : ι → σ → σ → Prop
  post : ι → C → Except ε α → σ → Prop
  rely_refl : ∀ i s, rely i s s
  rely_trans : ∀ i s s' s'', rely i s s' → rely i s' s'' → rely i s s''
  guar_rely : ∀ i j s s', i ≠ j → inv s → guar i s s' → rely j s s'
  guar_inv : ∀ i s s', inv s → guar i s s' → inv s'
  body_safe : ∀ i c s, inv s → (body i c).Safe sem (rely i) (guar i) ok (post i c) s

section

variable {sem body ok}

/-- The same invariant, rely and guarantee for other calls on the store. -/
def Outline.rebase {C' Q' : Type} {R' : Q' → Type} {ε' α' : Type}
    {sem' : (q : Q') → σ → σ × R' q} {body' : ι → C' → Prog Q' R' ε' α'} {ok' : Q' → σ → Prop}
    (O : Outline sem body ok)
    (hsafe : ∀ i c s, O.inv s →
      (body' i c).Safe sem' (O.rely i) (O.guar i) ok' (fun _ _ => True) s) :
    Outline sem' body' ok' where
  inv := O.inv
  rely := O.rely
  guar := O.guar
  post := fun _ _ _ _ => True
  rely_refl := O.rely_refl
  rely_trans := O.rely_trans
  guar_rely := O.guar_rely
  guar_inv := O.guar_inv
  body_safe := hsafe

/-- The invariant together with the safety of every slot. -/
def Outline.Holds (O : Outline sem body ok) (P : Pool ι C Q R ε α σ) : Prop :=
  O.inv P.store ∧ ∀ i c p, P.slots i = some (c, p) →
    p.Safe sem (O.rely i) (O.guar i) ok (O.post i c) P.store

theorem Outline.holds_idle (O : Outline sem body ok) {s : σ} (h : O.inv s) :
    O.Holds (idle s : Pool ι C Q R ε α σ) := by
  refine ⟨h, ?_⟩
  intro i c p hslot
  cases hslot

/-- The command a safe slot issues stays within the slot's guarantee. -/
theorem Outline.guar_of_issue (O : Outline sem body ok) {P : Pool ι C Q R ε α σ}
    (h : O.Holds P) {i : ι} {c : C} {q : Q} {next : R q → Prog Q R ε α}
    (hslot : P.slots i = some (c, .call q next)) (hok : ok q P.store) :
    O.guar i P.store (sem q P.store).1 :=
  (h.2 i c _ hslot P.store (O.rely_refl i _) hok).1

end

/-! ## Slots that are used once -/

/-- An outline whose calls may rely on what holds while their slot is unused:
`unused i` is kept by whatever the other slots do, and the call of slot `i`
starts from it. -/
structure OnceOutline where
  inv : σ → Prop
  rely : ι → σ → σ → Prop
  guar : ι → σ → σ → Prop
  post : ι → C → Except ε α → σ → Prop
  unused : ι → σ → Prop
  rely_refl : ∀ i s, rely i s s
  rely_trans : ∀ i s s' s'', rely i s s' → rely i s' s'' → rely i s s''
  guar_rely : ∀ i j s s', i ≠ j → inv s → guar i s s' → rely j s s'
  guar_inv : ∀ i s s', inv s → guar i s s' → inv s'
  unused_rely : ∀ i s s', unused i s → rely i s s' → unused i s'
  body_safe : ∀ i c s, inv s → unused i s →
    (body i c).Safe sem (rely i) (guar i) ok (post i c) s

section

variable {sem body ok}

/-- The invariant, what holds for unused slots, and the safety of the used
ones. -/
def OnceOutline.Holds (O : OnceOutline sem body ok) (P : Pool ι C Q R ε α σ) : Prop :=
  O.inv P.store ∧ (∀ i, P.slots i = none → O.unused i P.store) ∧
    ∀ i c p, P.slots i = some (c, p) →
      p.Safe sem (O.rely i) (O.guar i) ok (O.post i c) P.store

theorem OnceOutline.holds_idle (O : OnceOutline sem body ok) {s : σ} (h : O.inv s)
    (hunused : ∀ i, O.unused i s) : O.Holds (idle s : Pool ι C Q R ε α σ) := by
  refine ⟨h, fun i _ => hunused i, ?_⟩
  intro i c p hslot
  cases hslot

/-- What a slot has returned satisfies its post-condition. -/
theorem OnceOutline.post_of_result (O : OnceOutline sem body ok) {P : Pool ι C Q R ε α σ}
    (h : O.Holds P) {i : ι} {r : Except ε α} (hr : P.result? i = some r) :
    ∃ c, O.post i c r P.store := by
  unfold result? at hr
  split at hr
  · rename_i c a hslot
    cases hr
    exact ⟨c, h.2.2 i c _ hslot P.store (O.rely_refl i _)⟩
  · rename_i c e hslot
    cases hr
    exact ⟨c, h.2.2 i c _ hslot P.store (O.rely_refl i _)⟩
  · cases hr

/-- A proof outline whose calls ask nothing of unused slots. -/
def Outline.once (O : Outline sem body ok) : OnceOutline sem body ok where
  inv := O.inv
  rely := O.rely
  guar := O.guar
  post := O.post
  unused := fun _ _ => True
  rely_refl := O.rely_refl
  rely_trans := O.rely_trans
  guar_rely := O.guar_rely
  guar_inv := O.guar_inv
  unused_rely := fun _ _ _ _ _ => trivial
  body_safe := fun i c s h _ => O.body_safe i c s h

theorem Outline.once_holds (O : Outline sem body ok) {P : Pool ι C Q R ε α σ} (h : O.Holds P) :
    O.once.Holds P :=
  ⟨h.1, fun _ _ => trivial, h.2⟩

theorem OnceOutline.Holds.outline {O : Outline sem body ok} {P : Pool ι C Q R ε α σ}
    (h : O.once.Holds P) : O.Holds P :=
  ⟨h.1, h.2.2⟩

end

/-! ## Runs -/

variable [DecidableEq ι]

/-- Put a program in a slot and set the store. -/
def set (P : Pool ι C Q R ε α σ) (s : σ) (i : ι) (c : C) (p : Prog Q R ε α) :
    Pool ι C Q R ε α σ where
  store := s
  slots := Function.update P.slots i (some (c, p))

@[simp] theorem set_store (P : Pool ι C Q R ε α σ) (s : σ) (i : ι) (c : C)
    (p : Prog Q R ε α) : (P.set s i c p).store = s := rfl

theorem set_slots (P : Pool ι C Q R ε α σ) (s : σ) (i j : ι) (c : C) (p : Prog Q R ε α) :
    (P.set s i c p).slots j = if j = i then some (c, p) else P.slots j := by
  simp [set, Function.update_apply]

/-- One step of a pool: a call starts, or a running call issues its next
command. -/
inductive Step : Pool ι C Q R ε α σ → Pool ι C Q R ε α σ → Prop where
  | start {P : Pool ι C Q R ε α σ} (i : ι) (c : C) (hidle : P.slots i = none) :
      Step P (P.set P.store i c (body i c))
  | issue {P : Pool ι C Q R ε α σ} (i : ι) (c : C) (q : Q) (next : R q → Prog Q R ε α)
      (hslot : P.slots i = some (c, .call q next)) (hok : ok q P.store) :
      Step P (P.set (sem q P.store).1 i c (next (sem q P.store).2))

/-- A run of any length. -/
def Reaches : Pool ι C Q R ε α σ → Pool ι C Q R ε α σ → Prop :=
  Relation.ReflTransGen (Step sem body ok)

namespace OnceOutline

variable {sem body ok}

theorem holds_step (O : OnceOutline sem body ok) {P P' : Pool ι C Q R ε α σ} (h : O.Holds P)
    (hstep : Step sem body ok P P') : O.Holds P' := by
  obtain ⟨hinv, hunused, hsafe⟩ := h
  cases hstep with
  | start i c hidle =>
    refine ⟨hinv, ?_, ?_⟩
    · intro j hj
      rw [set_slots] at hj
      split at hj
      · cases hj
      · exact hunused j hj
    · intro j c' p hslot
      rw [set_slots] at hslot
      split at hslot
      · rename_i hji
        cases hslot
        rw [hji]
        exact O.body_safe i c _ hinv (hunused i hidle)
      · exact hsafe j c' p hslot
  | issue i c q next hslot hok =>
    obtain ⟨hguar, hnext⟩ := hsafe i c _ hslot P.store (O.rely_refl i _) hok
    -- the other slots see the command as interference
    have hrely : ∀ j, j ≠ i → O.rely j P.store (sem q P.store).1 := fun j hji =>
      O.guar_rely i j _ _ (Ne.symm hji) hinv hguar
    refine ⟨O.guar_inv i _ _ hinv hguar, ?_, ?_⟩
    · intro j hj
      rw [set_slots] at hj
      split at hj
      · cases hj
      · rename_i hji
        exact O.unused_rely j _ _ (hunused j hj) (hrely j hji)
    · intro j c' p hj
      rw [set_slots] at hj
      split at hj
      · rename_i hji
        cases hj
        rw [hji]
        exact hnext
      · rename_i hji
        exact (hsafe j c' p hj).of_rely (O.rely_trans j) (hrely j hji)

/-- An outline holds in every reachable pool. -/
theorem sound (O : OnceOutline sem body ok) {P P' : Pool ι C Q R ε α σ} (h : O.Holds P)
    (hrun : Reaches sem body ok P P') : O.Holds P' := by
  induction hrun with
  | refl => exact h
  | tail _ hstep ih => exact O.holds_step ih hstep

end OnceOutline

namespace Outline

variable {sem body ok}

theorem holds_step (O : Outline sem body ok) {P P' : Pool ι C Q R ε α σ} (h : O.Holds P)
    (hstep : Step sem body ok P P') : O.Holds P' :=
  (O.once.holds_step (O.once_holds h) hstep).outline

/-- A proof outline holds in every reachable pool. -/
theorem sound (O : Outline sem body ok) {P P' : Pool ι C Q R ε α σ} (h : O.Holds P)
    (hrun : Reaches sem body ok P P') : O.Holds P' := by
  induction hrun with
  | refl => exact h
  | tail _ hstep ih => exact O.holds_step ih hstep

/-- A preorder on stores that contains every guaranteed command contains
every run. -/
theorem monotone (O : Outline sem body ok) {M : σ → σ → Prop} (hMrefl : ∀ s, M s s)
    (hMtrans : ∀ s s' s'', M s s' → M s' s'' → M s s'')
    (hM : ∀ i s s', O.inv s → O.guar i s s' → M s s')
    {P P' : Pool ι C Q R ε α σ} (h : O.Holds P) (hrun : Reaches sem body ok P P') :
    M P.store P'.store := by
  induction hrun with
  | refl => exact hMrefl _
  | tail hpre hstep ih =>
    have hmid := O.sound h hpre
    cases hstep with
    | start i c hidle => exact ih
    | issue i c q next hslot hok =>
      exact hMtrans _ _ _ ih (hM i _ _ hmid.1 (O.guar_of_issue hmid hslot hok))

end Outline

section

variable {sem body ok}

/-- A running slot issues only the commands its call may issue. -/
theorem only_of_reaches {A : C → Q → Prop} (hbody : ∀ i c, (body i c).Only (A c))
    {P P' : Pool ι C Q R ε α σ} (h : ∀ i c p, P.slots i = some (c, p) → p.Only (A c))
    (hrun : Reaches sem body ok P P') : ∀ i c p, P'.slots i = some (c, p) → p.Only (A c) := by
  induction hrun with
  | refl => exact h
  | tail _ hstep ih =>
    intro j c' p hj
    cases hstep with
    | start i c hidle =>
      rw [set_slots] at hj
      split at hj
      · cases hj
        exact hbody _ _
      · exact ih j c' p hj
    | issue i c q next hslot hok =>
      rw [set_slots] at hj
      split at hj
      · cases hj
        exact (ih _ _ _ hslot).2 _
      · exact ih j c' p hj

end

/-! ## Running a schedule -/

/-- One entry of a schedule: start a call in a slot, or let a slot issue
its next command. -/
inductive Event (ι C : Type) where
  | start (i : ι) (c : C)
  | tick (i : ι)

section

variable [∀ q s, Decidable (ok q s)]

/-- Fire one schedule entry; an entry that does not apply, or whose command
`ok` excludes, changes nothing. -/
def fire (P : Pool ι C Q R ε α σ) : Event ι C → Pool ι C Q R ε α σ
  | .start i c =>
    match P.slots i with
    | none => P.set P.store i c (body i c)
    | some _ => P
  | .tick i =>
    match P.slots i with
    | some (c, .call q next) =>
      if ok q P.store then P.set (sem q P.store).1 i c (next (sem q P.store).2) else P
    | _ => P

/-- The slot has a command to issue. -/
def running (P : Pool ι C Q R ε α σ) (i : ι) : Bool :=
  match P.slots i with
  | some (_, .call _ _) => true
  | _ => false

/-- A tick of a running slot is a step. -/
theorem step_tick {P : Pool ι C Q R ε α σ} {i : ι} (h : P.running i = true)
    (hok : ∀ q s, ok q s) : Step sem body ok P (P.fire sem body ok (.tick i)) := by
  cases hs : P.slots i with
  | none =>
    rw [running, hs] at h
    cases h
  | some x =>
    obtain ⟨c, p⟩ := x
    cases p with
    | ok a =>
      rw [running, hs] at h
      cases h
    | fail e =>
      rw [running, hs] at h
      cases h
    | call q next =>
      simp only [fire, hs, if_pos (hok q P.store)]
      exact .issue i c q next hs (hok q _)

/-- Run a schedule. -/
def run (P : Pool ι C Q R ε α σ) (es : List (Event ι C)) : Pool ι C Q R ε α σ :=
  es.foldl (fun P e => P.fire sem body ok e) P

theorem reaches_fire (P : Pool ι C Q R ε α σ) (e : Event ι C) :
    Reaches sem body ok P (P.fire sem body ok e) := by
  cases e with
  | start i c =>
    cases hs : P.slots i with
    | none =>
      simp only [fire, hs]
      exact .single (.start i c hs)
    | some x =>
      simp only [fire, hs]
      exact .refl
  | tick i =>
    cases hs : P.slots i with
    | none =>
      simp only [fire, hs]
      exact .refl
    | some x =>
      obtain ⟨c, p⟩ := x
      cases p with
      | ok a =>
        simp only [fire, hs]
        exact .refl
      | fail e =>
        simp only [fire, hs]
        exact .refl
      | call q next =>
        simp only [fire, hs]
        split
        · rename_i hok
          exact .single (.issue i c q next hs hok)
        · exact .refl

/-- A schedule ends in a reachable pool. -/
theorem reaches_run (P : Pool ι C Q R ε α σ) (es : List (Event ι C)) :
    Reaches sem body ok P (P.run sem body ok es) := by
  induction es generalizing P with
  | nil => exact .refl
  | cons e rest ih => exact (reaches_fire sem body ok P e).trans (ih _)

end

end Pool

end KaniNetwork
