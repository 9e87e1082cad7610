/-
KaniNetwork.Base.Prog — programs that issue atomic commands against a
shared store.

A `Prog Q R ε α` is a tree: it ends with a result (`ok`) or an error
(`fail`), or issues a command `q : Q` and goes on with the reply `R q`.
The tree is the program between two of its atomic accesses to the store,
so one definition serves every reading of it: `exec` runs it alone,
`states` lists the stores it passes through, and `Base/Pool.lean`
interleaves any number of programs.

`Prog.Safe` is the rule of reasoning. `Safe rely guar ok post p s` says:
from the store `s`, whatever other parties do within `rely` before each
command, every command of `p` issued while `ok` holds stays within
`guar`, and `p` ends in a store that satisfies `post`. It is defined by
recursion on the tree, so it needs no program counters, and it composes
along `bind` (`Safe.bind`). With `rely` the identity it is the logic of a
sequential run (`Safe.exec`, `Safe.states`).
-/
import Mathlib.Data.List.Chain

namespace KaniNetwork

/-- A program that issues commands `q : Q`, each answered by an `R q`. -/
inductive Prog (Q : Type) (R : Q → Type) (ε α : Type) where
  | ok (a : α)
  | fail (e : ε)
  | call (q : Q) (next : R q → Prog Q R ε α)

namespace Prog

variable {Q : Type} {R : Q → Type} {ε ε' α β : Type}

/-- Run `p`, then `f` on its result; an error ends the whole program. -/
def bind : Prog Q R ε α → (α → Prog Q R ε β) → Prog Q R ε β
  | .ok a, f => f a
  | .fail e, _ => .fail e
  | .call q next, f => .call q (fun r => (next r).bind f)

instance : Monad (Prog Q R ε) where
  pure := .ok
  bind := bind

@[simp] theorem pure_eq (a : α) : (pure a : Prog Q R ε α) = .ok a := rfl
@[simp] theorem ok_bind (a : α) (f : α → Prog Q R ε β) : (.ok a >>= f) = f a := rfl
@[simp] theorem fail_bind (e : ε) (f : α → Prog Q R ε β) :
    ((.fail e : Prog Q R ε α) >>= f) = .fail e := rfl
@[simp] theorem call_bind (q : Q) (next : R q → Prog Q R ε α) (f : α → Prog Q R ε β) :
    (.call q next >>= f) = .call q (fun r => next r >>= f) := rfl

theorem bind_assoc {γ : Type} (p : Prog Q R ε α) (f : α → Prog Q R ε β)
    (g : β → Prog Q R ε γ) : ((p >>= f) >>= g) = (p >>= fun a => f a >>= g) := by
  induction p with
  | ok a => rfl
  | fail e => rfl
  | call q next ih => exact congrArg (Prog.call q) (funext fun r => ih r)

/-- Issue one command and return its reply. -/
def issue (q : Q) : Prog Q R ε (R q) := .call q .ok

@[simp] theorem issue_bind (q : Q) (f : R q → Prog Q R ε β) :
    (issue q >>= f) = .call q f := rfl

/-- A result that is already decided. -/
def ofExcept : Except ε α → Prog Q R ε α
  | .ok a => .ok a
  | .error e => .fail e

@[simp] theorem ofExcept_ok (a : α) :
    (ofExcept (.ok a) : Prog Q R ε α) = .ok a := rfl
@[simp] theorem ofExcept_error (e : ε) :
    (ofExcept (.error e) : Prog Q R ε α) = .fail e := rfl

/-- Translate the error of a program (`map_err`, or the `From` behind `?`). -/
def mapError (g : ε → ε') : Prog Q R ε α → Prog Q R ε' α
  | .ok a => .ok a
  | .fail e => .fail (g e)
  | .call q next => .call q (fun r => (next r).mapError g)

/-- Run a program to its end and hand over its outcome, error or not. -/
def attempt : Prog Q R ε α → Prog Q R ε' (Except ε α)
  | .ok a => .ok (.ok a)
  | .fail e => .ok (.error e)
  | .call q next => .call q (fun r => (next r).attempt)

/-! ## Running alone -/

section

variable {σ : Type} (sem : (q : Q) → σ → σ × R q)

/-- Run a program with nobody else on the store. -/
def exec : Prog Q R ε α → σ → σ × Except ε α
  | .ok a, s => (s, .ok a)
  | .fail e, s => (s, .error e)
  | .call q next, s => (next (sem q s).2).exec (sem q s).1

/-- The stores after each command of a run alone. -/
def states : Prog Q R ε α → σ → List σ
  | .ok _, _ => []
  | .fail _, _ => []
  | .call q next, s => (sem q s).1 :: (next (sem q s).2).states (sem q s).1

@[simp] theorem exec_ok (a : α) (s : σ) :
    (.ok a : Prog Q R ε α).exec sem s = (s, .ok a) := rfl
@[simp] theorem exec_fail (e : ε) (s : σ) :
    (.fail e : Prog Q R ε α).exec sem s = (s, .error e) := rfl
@[simp] theorem exec_call (q : Q) (next : R q → Prog Q R ε α) (s : σ) :
    (Prog.call q next).exec sem s = (next (sem q s).2).exec sem (sem q s).1 := rfl

/-- A run of `p >>= f` is the run of `p` followed by that of `f`. -/
theorem exec_bind (p : Prog Q R ε α) (f : α → Prog Q R ε β) (s : σ) :
    (p >>= f).exec sem s =
      match p.exec sem s with
      | (s', .ok a) => (f a).exec sem s'
      | (s', .error e) => (s', .error e) := by
  induction p generalizing s with
  | ok a => rfl
  | fail e => rfl
  | call q next ih => exact ih _ _

theorem exec_attempt (p : Prog Q R ε α) (s : σ) :
    (p.attempt : Prog Q R ε' _).exec sem s = ((p.exec sem s).1, .ok (p.exec sem s).2) := by
  induction p generalizing s with
  | ok a => rfl
  | fail e => rfl
  | call q next ih => exact ih _ _

/-! ## Rely and guarantee -/

/-- From `s`, with interference within `rely` before every command and
before the end: each command issued while `ok` holds moves the store
within `guar`, and the end satisfies `post`. -/
def Safe (rely guar : σ → σ → Prop) (ok : Q → σ → Prop) (post : Except ε α → σ → Prop) :
    Prog Q R ε α → σ → Prop
  | .ok a, s => ∀ s', rely s s' → post (.ok a) s'
  | .fail e, s => ∀ s', rely s s' → post (.error e) s'
  | .call q next, s => ∀ s', rely s s' → ok q s' →
      guar s' (sem q s').1 ∧
        (next (sem q s').2).Safe rely guar ok post (sem q s').1

variable {sem} {rely guar : σ → σ → Prop} {ok : Q → σ → Prop}
  {post : Except ε α → σ → Prop}

/-- Interference before the program starts is interference. -/
theorem Safe.of_rely (htrans : ∀ s s' s'', rely s s' → rely s' s'' → rely s s'')
    {p : Prog Q R ε α} {s s' : σ} (h : p.Safe sem rely guar ok post s) (hr : rely s s') :
    p.Safe sem rely guar ok post s' := by
  cases p with
  | ok a => exact fun s'' hr' => h s'' (htrans _ _ _ hr hr')
  | fail e => exact fun s'' hr' => h s'' (htrans _ _ _ hr hr')
  | call q next => exact fun s'' hr' => h s'' (htrans _ _ _ hr hr')

/-- Weakening: less interference, a looser guarantee, a stronger issuing
condition and a weaker end. -/
theorem Safe.mono {rely' guar' : σ → σ → Prop} {ok' : Q → σ → Prop}
    {post' : Except ε α → σ → Prop}
    (hr : ∀ s s', rely' s s' → rely s s') (hg : ∀ s s', guar s s' → guar' s s')
    (ho : ∀ q s, ok' q s → ok q s) (hp : ∀ r s, post r s → post' r s)
    {p : Prog Q R ε α} {s : σ} (h : p.Safe sem rely guar ok post s) :
    p.Safe sem rely' guar' ok' post' s := by
  induction p generalizing s with
  | ok a => exact fun s' hs => hp _ _ (h s' (hr _ _ hs))
  | fail e => exact fun s' hs => hp _ _ (h s' (hr _ _ hs))
  | call q next ih =>
    intro s' hs hok
    obtain ⟨hguar, hnext⟩ := h s' (hr _ _ hs) (ho _ _ hok)
    exact ⟨hg _ _ hguar, ih _ hnext⟩

/-- Sequencing: what `p` ends in is what `f` starts from. -/
theorem Safe.bind {post' : Except ε β → σ → Prop} {p : Prog Q R ε α}
    {f : α → Prog Q R ε β} {s : σ}
    (h : p.Safe sem rely guar ok
      (fun r s' => match r with
        | .ok a => (f a).Safe sem rely guar ok post' s'
        | .error e => ∀ s'', rely s' s'' → post' (.error e) s'') s)
    (hrefl : ∀ s, rely s s) :
    (p >>= f).Safe sem rely guar ok post' s := by
  induction p generalizing s with
  | ok a => exact h s (hrefl s)
  | fail e => exact h s (hrefl s)
  | call q next ih =>
    intro s' hs hok
    obtain ⟨hguar, hnext⟩ := h s' hs hok
    exact ⟨hguar, ih _ hnext⟩

/-- A decided result: an error ends the program, a value goes on. -/
theorem Safe.ofExcept_bind {post' : Except ε β → σ → Prop} {x : Except ε α}
    {f : α → Prog Q R ε β} {s : σ}
    (herror : ∀ e, x = .error e → ∀ s', rely s s' → post' (.error e) s')
    (hok : ∀ a, x = .ok a → (f a).Safe sem rely guar ok post' s) :
    (ofExcept x >>= f).Safe sem rely guar ok post' s := by
  cases x with
  | error e => exact herror e rfl
  | ok a => exact hok a rfl

theorem Safe.mapError {g : ε → ε'} {post' : Except ε' α → σ → Prop} {p : Prog Q R ε α} {s : σ}
    (h : p.Safe sem rely guar ok (fun r s' => post' (r.mapError g) s') s) :
    (p.mapError g).Safe sem rely guar ok post' s := by
  induction p generalizing s with
  | ok a => exact h
  | fail e => exact h
  | call q next ih =>
    intro s' hs hok
    obtain ⟨hguar, hnext⟩ := h s' hs hok
    exact ⟨hguar, ih _ hnext⟩

theorem Safe.attempt {post' : Except ε' (Except ε α) → σ → Prop} {p : Prog Q R ε α} {s : σ}
    (h : p.Safe sem rely guar ok (fun r s' => post' (.ok r) s') s) :
    (p.attempt : Prog Q R ε' _).Safe sem rely guar ok post' s := by
  induction p generalizing s with
  | ok a => exact h
  | fail e => exact h
  | call q next ih =>
    intro s' hs hok
    obtain ⟨hguar, hnext⟩ := h s' hs hok
    exact ⟨hguar, ih _ hnext⟩

/-! ## Which commands a program issues -/

/-- Every command the program may issue satisfies `P`. -/
def Only (P : Q → Prop) : Prog Q R ε α → Prop
  | .ok _ => True
  | .fail _ => True
  | .call q next => P q ∧ ∀ r, (next r).Only P

theorem Only.ofExcept {P : Q → Prop} (x : Except ε α) :
    (Prog.ofExcept x : Prog Q R ε α).Only P := by
  cases x <;> trivial

theorem Only.bind {P : Q → Prop} {p : Prog Q R ε α} {f : α → Prog Q R ε β}
    (h : p.Only P) (hf : ∀ a, (f a).Only P) : (p >>= f).Only P := by
  induction p with
  | ok a => exact hf a
  | fail e => trivial
  | call q next ih => exact ⟨h.1, fun r => ih r (h.2 r)⟩

theorem Only.of_bind {P : Q → Prop} {p : Prog Q R ε α} {f : α → Prog Q R ε β}
    (h : (p >>= f).Only P) : p.Only P := by
  induction p with
  | ok a => trivial
  | fail e => trivial
  | call q next ih => exact ⟨h.1, fun r => ih r (h.2 r)⟩

theorem Only.attempt {P : Q → Prop} {p : Prog Q R ε α} (h : p.Only P) :
    (p.attempt : Prog Q R ε' _).Only P := by
  induction p with
  | ok a => trivial
  | fail e => trivial
  | call q next ih => exact ⟨h.1, fun r => ih r (h.2 r)⟩

theorem Only.mapError {P : Q → Prop} {g : ε → ε'} {p : Prog Q R ε α} (h : p.Only P) :
    (p.mapError g).Only P := by
  induction p with
  | ok a => trivial
  | fail e => trivial
  | call q next ih => exact ⟨h.1, fun r => ih r (h.2 r)⟩

theorem Only.mono {A B : Q → Prop} {p : Prog Q R ε α} (h : p.Only A) (hAB : ∀ q, A q → B q) :
    p.Only B := by
  induction p with
  | ok a => trivial
  | fail e => trivial
  | call q next ih => exact ⟨hAB q h.1, fun r => ih r (h.2 r)⟩

theorem only_of_forall {A : Q → Prop} (h : ∀ q, A q) (p : Prog Q R ε α) : p.Only A := by
  induction p with
  | ok a => trivial
  | fail e => trivial
  | call q next ih => exact ⟨h q, ih⟩

/-- A program is safe when each of its commands is, whatever the store. -/
theorem Safe.of_only {P : Q → Prop} {p : Prog Q R ε α} {s : σ} (h : p.Only P)
    (hguar : ∀ q s, P q → guar s (sem q s).1) (hpost : ∀ r s, post r s) :
    p.Safe sem rely guar ok post s := by
  induction p generalizing s with
  | ok a => exact fun s' _ => hpost _ _
  | fail e => exact fun s' _ => hpost _ _
  | call q next ih => exact fun s' _ _ => ⟨hguar q s' h.1, ih _ (h.2 _)⟩

/-- What every command of a program keeps holds all along a run alone. -/
theorem Safe.of_only_inv {P : Q → Prop} {I : σ → Prop} {p : Prog Q R ε α} {s : σ}
    (h : p.Only P) (hkept : ∀ q s, P q → I s → I (sem q s).1) (hinv : I s) :
    p.Safe sem Eq (fun _ s' => I s') ok (fun _ s' => I s') s := by
  induction p generalizing s with
  | ok a =>
    rintro s' rfl
    exact hinv
  | fail e =>
    rintro s' rfl
    exact hinv
  | call q next ih =>
    rintro s' rfl _
    have hnext := hkept q s h.1 hinv
    exact ⟨hnext, ih _ (h.2 _) hnext⟩

/-! ## How many commands a program issues -/

/-- The program ends after at most `n` commands, whatever their replies. -/
def EndsWithin : Prog Q R ε α → Nat → Prop
  | .ok _, _ => True
  | .fail _, _ => True
  | .call _ next, n => 0 < n ∧ ∀ r, (next r).EndsWithin (n - 1)

theorem EndsWithin.ofExcept (x : Except ε α) (n : Nat) :
    (Prog.ofExcept x : Prog Q R ε α).EndsWithin n := by
  cases x <;> trivial

theorem EndsWithin.mono {p : Prog Q R ε α} {m n : Nat} (h : p.EndsWithin m) (hmn : m ≤ n) :
    p.EndsWithin n := by
  induction p generalizing m n with
  | ok a => trivial
  | fail e => trivial
  | call q next ih => exact ⟨by have := h.1; omega, fun r => ih r (h.2 r) (by omega)⟩

theorem EndsWithin.bind {p : Prog Q R ε α} {f : α → Prog Q R ε β} {m n : Nat}
    (h : p.EndsWithin m) (hf : ∀ a, (f a).EndsWithin n) : (p >>= f).EndsWithin (m + n) := by
  induction p generalizing m with
  | ok a => exact (hf a).mono (by omega)
  | fail e => trivial
  | call q next ih =>
    have hpos := h.1
    refine ⟨by omega, fun r => ?_⟩
    have hnext := ih r (h.2 r)
    rwa [← Nat.sub_add_comm hpos] at hnext

theorem EndsWithin.mapError {g : ε → ε'} {p : Prog Q R ε α} {n : Nat} (h : p.EndsWithin n) :
    (p.mapError g).EndsWithin n := by
  induction p generalizing n with
  | ok a => trivial
  | fail e => trivial
  | call q next ih => exact ⟨h.1, fun r => ih r (h.2 r)⟩

/-! ## Reading a system that moves -/

/-- A program that only reads, run amid a system `S` that goes on while it
reads: before each command the system `moves`, which may depend on the
command awaited, and the command is answered by the system as it is then. -/
inductive ReadsAmid {S : Type} (answer : (q : Q) → S → R q) (moves : Option Q → S → S → Prop) :
    Prog Q R ε α → S → Except ε α → S → Prop where
  | ok {a : α} {s s' : S} (h : moves none s s') : ReadsAmid answer moves (.ok a) s (.ok a) s'
  | fail {e : ε} {s s' : S} (h : moves none s s') :
    ReadsAmid answer moves (.fail e) s (.error e) s'
  | call {q : Q} {next : R q → Prog Q R ε α} {s s' s'' : S} {r : Except ε α}
    (h : moves (some q) s s') (hnext : ReadsAmid answer moves (next (answer q s')) s' r s'') :
    ReadsAmid answer moves (.call q next) s r s''

theorem ReadsAmid.call_inv {S : Type} {answer : (q : Q) → S → R q}
    {moves : Option Q → S → S → Prop} {q : Q} {next : R q → Prog Q R ε α} {s s'' : S}
    {r : Except ε α} (h : ReadsAmid answer moves (.call q next) s r s'') :
    ∃ s', moves (some q) s s' ∧ ReadsAmid answer moves (next (answer q s')) s' r s'' := by
  cases h with
  | call hmoves hnext => exact ⟨_, hmoves, hnext⟩

theorem ReadsAmid.ok_inv {S : Type} {answer : (q : Q) → S → R q}
    {moves : Option Q → S → S → Prop} {a : α} {s s' : S} {r : Except ε α}
    (h : ReadsAmid answer moves (.ok a) s r s') : r = .ok a ∧ moves none s s' := by
  cases h with
  | ok hmoves => exact ⟨rfl, hmoves⟩

/-! ## Sequential runs -/

/-- Alone on the store, a safe program ends within its post-condition. -/
theorem Safe.exec {p : Prog Q R ε α} {s : σ}
    (h : p.Safe sem Eq guar (fun _ _ => True) post s) :
    post (p.exec sem s).2 (p.exec sem s).1 := by
  induction p generalizing s with
  | ok a => exact h s rfl
  | fail e => exact h s rfl
  | call q next ih => exact ih _ (h s rfl trivial).2

/-- Alone on the store, a safe program moves it from state to state
within its guarantee; what follows its end may continue the chain. -/
theorem Safe.states_append {p : Prog Q R ε α} {s : σ}
    (h : p.Safe sem Eq guar (fun _ _ => True) post s) {rest : List σ}
    (hrest : List.IsChain guar ((p.exec sem s).1 :: rest)) :
    List.IsChain guar (s :: (p.states sem s ++ rest)) := by
  induction p generalizing s with
  | ok a => exact hrest
  | fail e => exact hrest
  | call q next ih =>
    obtain ⟨hguar, hnext⟩ := h s rfl trivial
    exact List.isChain_cons_cons.mpr ⟨hguar, ih _ hnext hrest⟩

/-- Alone on the store, a program whose commands keep an invariant stays in
it. -/
theorem Safe.states_inv {inv : σ → Prop} {p : Prog Q R ε α} {s : σ}
    (h : p.Safe sem Eq (fun s s' => inv s → inv s') (fun _ _ => True) post s) (hinv : inv s) :
    (∀ s' ∈ p.states sem s, inv s') ∧ inv (p.exec sem s).1 := by
  induction p generalizing s with
  | ok a => exact ⟨nofun, hinv⟩
  | fail e => exact ⟨nofun, hinv⟩
  | call q next ih =>
    obtain ⟨hguar, hnext⟩ := h s rfl trivial
    obtain ⟨hstates, hend⟩ := ih _ hnext (hguar hinv)
    refine ⟨fun s' hs' => ?_, hend⟩
    rcases List.mem_cons.mp hs' with rfl | hs'
    · exact hguar hinv
    · exact hstates s' hs'

end

/-! ## Sequences of calls -/

section

variable {σ C : Type} (sem : (q : Q) → σ → σ × R q) (body : C → Prog Q R ε α)

/-- Run calls one after the other, whatever they return. -/
def execAll (cs : List C) (s : σ) : σ :=
  cs.foldl (fun s c => ((body c).exec sem s).1) s

/-- The stores after each command of a sequence of calls. -/
def statesAll : List C → σ → List σ
  | [], _ => []
  | c :: cs, s => (body c).states sem s ++ statesAll cs ((body c).exec sem s).1

/-- `P` holds of every call of a sequence and the store it starts from. -/
def Along (P : C → σ → Prop) : List C → σ → Prop
  | [], _ => True
  | c :: cs, s => P c s ∧ Along P cs ((body c).exec sem s).1

variable {sem body} {guar : σ → σ → Prop} {inv : σ → Prop} {P : C → σ → Prop}
  {post : C → σ → Except ε α → σ → Prop}

/-- Calls that are safe from where they start move the store within their
guarantee all along the sequence. -/
theorem statesAll_isChain
    (hsafe : ∀ c s, inv s → P c s → (body c).Safe sem Eq guar (fun _ _ => True) (post c s) s)
    (hinv : ∀ c s r s', inv s → post c s r s' → inv s')
    {cs : List C} {s : σ} (h : inv s) (hP : Along sem body P cs s) :
    List.IsChain guar (s :: statesAll sem body cs s) := by
  induction cs generalizing s with
  | nil => exact List.isChain_singleton s
  | cons c cs ih =>
    have hc := hsafe c s h hP.1
    exact hc.states_append (ih (hinv c s _ _ h hc.exec) hP.2)

/-- Calls whose commands keep an invariant stay in it all along the sequence. -/
theorem statesAll_inv
    (hsafe : ∀ c s, inv s → P c s →
      (body c).Safe sem Eq (fun s s' => inv s → inv s') (fun _ _ => True) (post c s) s)
    {cs : List C} {s : σ} (h : inv s) (hP : Along sem body P cs s) :
    ∀ s' ∈ s :: statesAll sem body cs s, inv s' := by
  induction cs generalizing s with
  | nil =>
    intro s' hs'
    rwa [List.mem_singleton.mp hs']
  | cons c cs ih =>
    obtain ⟨hstates, hend⟩ := (hsafe c s h hP.1).states_inv h
    intro s' hs'
    rcases List.mem_cons.mp hs' with rfl | hs'
    · exact h
    · rcases List.mem_append.mp hs' with hs' | hs'
      · exact hstates s' hs'
      · exact ih hend hP.2 s' (List.mem_cons_of_mem _ hs')

/-- Each call of such a sequence ends within its post-condition. -/
theorem along_post
    (hsafe : ∀ c s, inv s → P c s → (body c).Safe sem Eq guar (fun _ _ => True) (post c s) s)
    (hinv : ∀ c s r s', inv s → post c s r s' → inv s')
    {cs : List C} {s : σ} (h : inv s) (hP : Along sem body P cs s) :
    Along sem body
      (fun c s => post c s ((body c).exec sem s).2 ((body c).exec sem s).1) cs s := by
  induction cs generalizing s with
  | nil => trivial
  | cons c cs ih =>
    have hc := (hsafe c s h hP.1).exec
    exact ⟨hc, ih (hinv c s _ _ h hc) hP.2⟩

end

end Prog

end KaniNetwork
