/-
KaniNetwork.Ledger.DryRun — `apply_block` against its dry run.

`validate_transactions_for_next_block` and `apply_block` each run a loop of
their own over working copies. Both loops are runs of the same steps, so a
block whose header fits is applied exactly when the dry run accepts its
transactions, and refused with the error of the dry run
(`applyBlock_unit`). A step fails only where validation does
(`settle_verdict`). Whatever the reason, a refused block leaves the ledger
as it was: the working copies are moved into it after the last check.
-/
import KaniNetwork.Ledger.InMemoryTheorems

namespace KaniNetwork

namespace InMemoryLedger

/-! ## One transaction -/

/-- What validation lets through can be applied. -/
theorem Admissible.applies {l : InMemoryLedger} {tx : Transaction} {w : Working}
    (h : l.Admissible tx w.balances w.nonces w.issued) (ar : Arith) (d : Draws) (height : Int) :
    ∃ w', applyTransaction ar d tx height w = .ok w' := by
  have hdebit : tx.kind ≠ .mint → ∃ balances,
      debit ar w.balances tx.fromAccount tx.asset tx.amount = .ok balances := by
    intro hkind
    exact ⟨_, debit_eq_ok_iff.mpr ⟨h.funded hkind, rfl⟩⟩
  unfold applyTransaction
  cases hkind : tx.kind with
  | mint => exact ⟨_, rfl⟩
  | transfer =>
    obtain ⟨balances, hdebit⟩ := hdebit (by simp [hkind])
    simp only [hdebit, ok_bind]
    exact ⟨_, rfl⟩
  | burn =>
    obtain ⟨balances, hdebit⟩ := hdebit (by simp [hkind])
    simp only [hdebit, ok_bind]
    exact ⟨_, rfl⟩

/-- So a step fails as validation does. -/
theorem settle_verdict (ar : Arith) (l : InMemoryLedger) (tx : Transaction) (w : Working) :
    verdict (l.settle ar tx w.state) =
      verdict (l.validateTransaction tx w.balances w.nonces w.issued) := by
  simp only [settle, Working.state]
  cases hval : l.validateTransaction tx w.balances w.nonces w.issued with
  | error e => rfl
  | ok u =>
    have hadm : l.Admissible tx w.balances w.nonces w.issued :=
      validateTransaction_eq_ok_iff.mp hval
    obtain ⟨w', happ⟩ := Admissible.applies (w := ⟨w.balances, w.nonces, w.issued, []⟩) hadm ar
      (fun _ => ⟨"", 0⟩) 0
    rw [ok_bind, happ]
    rfl

/-! ## Blocks -/

/-- The header of a block that may come next. -/
structure Extends (l : InMemoryLedger) (block : Block) : Prop where
  hash_set : block.hash ≠ ""
  height_next : block.height = l.nextHeight
  prev_last : block.prevHash = l.lastHash

/-- With the header in order, a block is applied as its dry run goes. -/
theorem applyBlock_unit {l : InMemoryLedger} {block : Block} (h : l.Extends block) (ar : Arith)
    (d d' : Draws) :
    ((applyBlock ar d block l).2.map fun _ => ()) =
      l.validateTransactionsForNextBlock ar d' block.txs := by
  have hhash : ¬ block.hash.isEmpty = true := by
    rw [String.isEmpty_iff]
    exact h.hash_set
  rw [validateTransactionsForNextBlock_eq, ← applyTransactions_unit ar l (d.sub 0) block.height]
  simp only [applyBlock, Method.get_bind]
  rw [if_neg hhash, if_neg (not_not.mpr h.height_next), if_neg (not_not.mpr h.prev_last)]
  cases l.applyTransactions ar block.height (d.sub 0) block.txs l.working with
  | error e => rfl
  | ok w => rfl

/-- A block that extends the ledger by an accepted batch is applied. -/
theorem Extends.applies {l : InMemoryLedger} {block : Block} {ar : Arith} (h : l.Extends block)
    (hacc : Accepts ar l block.txs) (d : Draws) :
    ∃ l' records, applyBlock ar d block l = (l', .ok records) := by
  have hunit := applyBlock_unit h ar d d
  rw [hacc d] at hunit
  rcases hrun : applyBlock ar d block l with ⟨l', r⟩
  rw [hrun] at hunit
  cases r with
  | error e => cases hunit
  | ok records => exact ⟨l', records, rfl⟩

/-- **All or nothing.** A block that is refused leaves every field of the
ledger as it was. A block with a hash, the next height and the last hash as
its parent is applied exactly when the dry run accepts its transactions, and
is refused with an error exactly when the dry run ends in that error. -/
theorem applyBlock_all_or_nothing (ar : Arith) (l : InMemoryLedger) (block : Block)
    (d d' : Draws) :
    (∀ l' e, applyBlock ar d block l = (l', .error e) → l' = l) ∧
      (block.hash ≠ "" → block.height = l.nextHeight → block.prevHash = l.lastHash →
        ((∃ l' records, applyBlock ar d block l = (l', .ok records)) ↔
            l.validateTransactionsForNextBlock ar d' block.txs = .ok ()) ∧
          ∀ e, (∃ l', applyBlock ar d block l = (l', .error e)) ↔
            l.validateTransactionsForNextBlock ar d' block.txs = .error e) := by
  constructor
  · intro l' e hrun
    exact applyBlock_commits ar d block l l' e hrun
  · intro hhash hheight hprev
    have hunit := applyBlock_unit ⟨hhash, hheight, hprev⟩ ar d d'
    rw [← hunit]
    rcases applyBlock ar d block l with ⟨l', r⟩
    cases r with
    | error e => simp [Except.map]
    | ok records => simp [Except.map]

end InMemoryLedger

end KaniNetwork
