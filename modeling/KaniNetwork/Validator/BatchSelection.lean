/-
KaniNetwork.Validator.BatchSelection — which pending transactions a pass
takes.

The selection loop tries every pending transaction together with all it has
taken so far, from the ledger it loaded. `verdicts` is what that amounts to:
the greedy choice among the steps of the ledger, where each transaction is
judged in the state the ones taken before it lead to. `selectBatch_eq` says
that the loop carries these verdicts out, and nothing else.

A greedy choice may be made in pieces. `Batched` selects a pending list
batch by batch, with a block applied after each batch that is not empty; the
steps of the ledger read its accounts only, which a block leaves alone, so
the pieces fit together (`Batched.eq_greedy`).
-/
import KaniNetwork.Ledger.DryRun
import KaniNetwork.Validator.Runtime

namespace KaniNetwork

open InMemoryLedger

/-- The verdicts on a list of pending transactions. -/
def InMemoryLedger.verdicts (ar : Arith) (l : InMemoryLedger) (pending : List Transaction) :
    List (Transaction × Option LedgerError) :=
  greedy (l.settle ar) pending l.working.state

/-! ## The loop -/

namespace ValidatorRuntime

/-- Write the rejections among the verdicts, in order. -/
def carryOut (v : ValidatorRuntime) :
    Draws → List (Transaction × Option LedgerError) → StoreProg NodeError Unit
  | _, [] => return ()
  | d, (_, none) :: vs => v.carryOut (d.sub 2) vs
  | d, (tx, some error) :: vs => do
    v.rejectPendingTransaction (d.sub 1) tx error.message
    v.carryOut (d.sub 2) vs

/-- The loop, by induction on what is pending: the state `s` is where the
transactions taken so far lead. -/
theorem selectBatch_eq_greedy {v : ValidatorRuntime} {l : InMemoryLedger}
    {accepted : List Transaction}
    {s : HashMap (String × String) Int × HashMap String Int × HashMap String Int}
    (h : runSteps (l.settle v.host.arith) accepted l.working.state = .ok s)
    (d : Draws) (pending : List Transaction) :
    v.selectBatch l d accepted pending =
      (v.carryOut d (greedy (l.settle v.host.arith) pending s) >>= fun _ =>
        return accepted ++ kept (greedy (l.settle v.host.arith) pending s)) := by
  induction pending generalizing d accepted s with
  | nil => simp [ValidatorRuntime.selectBatch, greedy, carryOut]
  | cons tx pending ih =>
    have hcandidate : runSteps (l.settle v.host.arith) (accepted ++ [tx]) l.working.state =
        l.settle v.host.arith tx s := by
      rw [runSteps_append, h, ok_bind, runSteps_singleton]
    rw [ValidatorRuntime.selectBatch, validateTransactionsForNextBlock_eq, hcandidate, greedy]
    cases hstep : l.settle v.host.arith tx s with
    | error e =>
      simp only [Except.map, carryOut, kept_cons_some, Prog.bind_assoc]
      rw [ih h]
    | ok s' =>
      rw [hstep] at hcandidate
      simp only [Except.map, carryOut, kept_cons_none]
      rw [ih hcandidate, List.append_assoc, List.singleton_append]

/-- The loop rejects what the verdicts reject, and returns what they take. -/
theorem selectBatch_eq (v : ValidatorRuntime) (l : InMemoryLedger) (d : Draws)
    (pending : List Transaction) :
    v.selectBatch l d [] pending =
      (v.carryOut d (l.verdicts v.host.arith pending) >>= fun _ =>
        return kept (l.verdicts v.host.arith pending)) :=
  selectBatch_eq_greedy rfl d pending

end ValidatorRuntime

/-! ## The verdicts -/

namespace InMemoryLedger

/-- A verdict is that of validation after the transactions taken before. -/
theorem verdicts_eq_append {ar : Arith} {l : InMemoryLedger} {pending : List Transaction}
    {before after : List (Transaction × Option LedgerError)} {tx : Transaction}
    {e : Option LedgerError} (h : l.verdicts ar pending = before ++ (tx, e) :: after) (d : Draws)
    (height : Int) :
    ∃ w, l.applyTransactions ar height d (kept before) l.working = .ok w ∧
      verdict (l.validateTransaction tx w.balances w.nonces w.issued) = e := by
  obtain ⟨s, hrun, hverdict⟩ := greedy_verdict h
  obtain ⟨w, hw, rfl⟩ := applyTransactions_of_runSteps hrun d height
  rw [settle_verdict] at hverdict
  exact ⟨w, hw, hverdict⟩

theorem verdicts_append (ar : Arith) (l : InMemoryLedger) (xs ys : List Transaction) :
    l.verdicts ar (xs ++ ys) = l.verdicts ar xs ++
      greedy (l.settle ar) ys (greedyState (l.settle ar) xs l.working.state) :=
  greedy_append xs ys l.working.state

/-- The transactions taken are accepted together. -/
theorem accepts_kept (ar : Arith) (l : InMemoryLedger) (pending : List Transaction) :
    Accepts ar l (kept (l.verdicts ar pending)) :=
  accepts_iff_runSteps.mpr ⟨_, runSteps_kept _ _⟩

end InMemoryLedger

/-! ## Batches -/

/-- From the ledger `l` the batches are selected one after the other, each
against the ledger with the blocks of the batches before it, with the
verdicts `vs`; a batch of which nothing is taken makes no block. -/
inductive Batched (ar : Arith) : InMemoryLedger → List (List Transaction) →
    List (Transaction × Option LedgerError) → InMemoryLedger → Prop where
  | done (l : InMemoryLedger) : Batched ar l [] [] l
  | skip {l l' : InMemoryLedger} {batch : List Transaction} {batches : List (List Transaction)}
      {vs : List (Transaction × Option LedgerError)}
      (hnone : kept (l.verdicts ar batch) = []) (hrest : Batched ar l batches vs l') :
      Batched ar l (batch :: batches) (l.verdicts ar batch ++ vs) l'
  | block {l l₁ l' : InMemoryLedger} {batch : List Transaction}
      {batches : List (List Transaction)} {vs : List (Transaction × Option LedgerError)}
      {d : Draws} {block : Block} {records : List PaymentRecord}
      (hsome : kept (l.verdicts ar batch) ≠ []) (htxs : block.txs = kept (l.verdicts ar batch))
      (happ : applyBlock ar d block l = (l₁, .ok records)) (hrest : Batched ar l₁ batches vs l') :
      Batched ar l (batch :: batches) (l.verdicts ar batch ++ vs) l'

namespace Batched

variable {ar : Arith} {l l' : InMemoryLedger} {batches : List (List Transaction)}
  {vs : List (Transaction × Option LedgerError)}

/-- A block of the transactions taken ends where the greedy choice does. -/
theorem state_of_block {d : Draws} {block : Block} {records : List PaymentRecord}
    {batch : List Transaction} (htxs : block.txs = kept (l.verdicts ar batch))
    (happ : applyBlock ar d block l = (l', .ok records)) :
    l'.settle ar = l.settle ar ∧
      l'.working.state = greedyState (l.settle ar) batch l.working.state := by
  have happlied := applyBlock_eq_ok happ
  refine ⟨settle_congr happlied.accounts_eq, ?_⟩
  have hrun := runSteps_of_applyTransactions happlied.batch
  rw [htxs, InMemoryLedger.verdicts, runSteps_kept] at hrun
  exact (Except.ok.inj hrun).symm

/-- Selecting in batches is one greedy choice over all of them. -/
theorem eq_greedy (h : Batched ar l batches vs l') :
    vs = l.verdicts ar batches.flatten ∧
      l'.working.state = greedyState (l.settle ar) batches.flatten l.working.state := by
  induction h with
  | done l => exact ⟨rfl, rfl⟩
  | @skip l l' batch batches vs hnone hrest ih =>
    -- nothing was taken, so the choice ends where it began
    have hstate : greedyState (l.settle ar) batch l.working.state = l.working.state := by
      have hrun : runSteps (l.settle ar) (kept (l.verdicts ar batch)) l.working.state = _ :=
        runSteps_kept _ _
      rw [hnone] at hrun
      exact (Except.ok.inj hrun).symm
    obtain ⟨hvs, hl'⟩ := ih
    rw [List.flatten_cons, greedyState_append, verdicts_append, hstate]
    exact ⟨congrArg _ hvs, hl'⟩
  | @block l l₁ l' batch batches vs d block records hsome htxs happ hrest ih =>
    obtain ⟨hsettle, hstate⟩ := state_of_block htxs happ
    obtain ⟨hvs, hl'⟩ := ih
    rw [InMemoryLedger.verdicts, hsettle, hstate] at hvs
    rw [hsettle, hstate] at hl'
    rw [List.flatten_cons, greedyState_append, verdicts_append]
    exact ⟨congrArg _ hvs, hl'⟩

/-- The transactions taken of a batch make a block that can be applied. -/
theorem exists_block (ar : Arith) (l : InMemoryLedger) (batch : List Transaction) :
    ∃ (d : Draws) (block : Block) (l₁ : InMemoryLedger) (records : List PaymentRecord),
      block.txs = kept (l.verdicts ar batch) ∧ applyBlock ar d block l = (l₁, .ok records) := by
  have hextends : l.Extends ⟨l.nextHeight, l.lastHash, kept (l.verdicts ar batch), "", [], "hash",
      [], 0⟩ := ⟨show "hash" ≠ "" by decide, rfl, rfl⟩
  obtain ⟨l₁, records, happ⟩ := hextends.applies (accepts_kept ar l batch) fun _ => ⟨"", 0⟩
  exact ⟨_, _, l₁, records, rfl, happ⟩

/-- Any list of batches can be selected. -/
theorem exists_run (ar : Arith) (l : InMemoryLedger) (batches : List (List Transaction)) :
    ∃ vs l', Batched ar l batches vs l' := by
  induction batches generalizing l with
  | nil => exact ⟨[], l, .done l⟩
  | cons batch batches ih =>
    by_cases hnone : kept (l.verdicts ar batch) = []
    · obtain ⟨vs, l', hrest⟩ := ih l
      exact ⟨_, l', .skip hnone hrest⟩
    · obtain ⟨d, block, l₁, records, htxs, happ⟩ := exists_block ar l batch
      obtain ⟨vs, l', hrest⟩ := ih l₁
      exact ⟨_, l', .block hnone htxs happ hrest⟩

end Batched

/-- **Batch selection.** The selection loop of a pass carries out one
verdict for each pending transaction: rejected with the error of validation
in the state the transactions taken before it lead to, or taken when
validation has none. What is taken is in the order of the pending list and
accepted by the dry run as a whole. Any division of the pending list into
batches can be selected batch by batch, each against the ledger with the
blocks of the batches before it, and gives the same verdicts, and the same
balances, nonces and issued amounts, as the list selected at once. -/
theorem batch_selection (v : ValidatorRuntime) (l : InMemoryLedger) (pending : List Transaction) :
    let ar := v.host.arith
    let vs := l.verdicts ar pending
    (∀ d, v.selectBatch l d [] pending = (v.carryOut d vs >>= fun _ => return kept vs)) ∧
      (∀ before tx e after, vs = before ++ (tx, e) :: after → ∀ d,
        ∃ w, l.applyTransactions ar l.nextHeight d (kept before) l.working = .ok w ∧
          verdict (l.validateTransaction tx w.balances w.nonces w.issued) = e) ∧
      vs.map Prod.fst = pending ∧ (kept vs).Sublist pending ∧ Accepts ar l (kept vs) ∧
      ∀ batches, batches.flatten = pending →
        (∃ vs' l', Batched ar l batches vs' l') ∧
          ∀ vs' l', Batched ar l batches vs' l' → ∀ vs₁ l₁, Batched ar l [pending] vs₁ l₁ →
            vs₁ = vs ∧ vs' = vs ∧ l'.balances = l₁.balances ∧ l'.nonces = l₁.nonces ∧
              l'.issued = l₁.issued := by
  intro ar vs
  have hpending : vs.map Prod.fst = pending := map_fst_greedy _ _
  refine ⟨fun d => v.selectBatch_eq l d pending, ?_, hpending, ?_, accepts_kept ar l pending, ?_⟩
  · intro before tx e after hvs d
    exact verdicts_eq_append hvs d l.nextHeight
  · have hsublist := kept_sublist vs
    rwa [hpending] at hsublist
  · intro batches hflatten
    refine ⟨Batched.exists_run ar l batches, ?_⟩
    intro vs' l' hrun vs₁ l₁ hone
    obtain ⟨hvs', hl'⟩ := hrun.eq_greedy
    obtain ⟨hvs₁, hl₁⟩ := hone.eq_greedy
    rw [hflatten] at hvs' hl'
    rw [List.flatten_singleton] at hvs₁ hl₁
    have hstate : l'.working.state = l₁.working.state := hl'.trans hl₁.symm
    simp only [Working.state, working, Prod.mk.injEq] at hstate
    exact ⟨hvs₁, hvs', hstate.1, hstate.2.1, hstate.2.2⟩

end KaniNetwork
