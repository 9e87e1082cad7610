/-
KaniNetwork.Ledger.SettlementOrder — the order of a batch does not show in
what it settles.

`Books.tally` is what a collection of transactions adds to the books when
nobody says in which order: deltas add up, and the highest nonce of each
account stays. It is the same for every permutation. Posting the
transactions one by one ends in the tally only when the nonces of each
account rise along the way, which is what validation insists on: a batch
that is accepted is its tally (`applyTransactions_tally`), whichever order it
was accepted in.
-/
import KaniNetwork.Ledger.Replay
import KaniNetwork.Ledger.ReplayProtection

namespace KaniNetwork

open InMemoryLedger

namespace Books

/-- What a collection of transactions adds to the books. -/
def tally (b : Books) (txs : List Transaction) : Books where
  balance a s := b.balance a s + (txs.map fun tx => tx.balanceDelta a s).sum
  issued s := b.issued s + (txs.map fun tx => tx.issuedDelta s).sum
  nonce a := (noncesOf a txs).foldl max (b.nonce a)

/-- The tally does not depend on the order. -/
theorem tally_perm (b : Books) {xs ys : List Transaction} (h : xs.Perm ys) :
    b.tally xs = b.tally ys := by
  ext a s
  · have hsum := (h.map fun tx => tx.balanceDelta a s).sum_eq
    simp only [tally, hsum]
  · have hsum := (h.map fun tx => tx.issuedDelta a).sum_eq
    simp only [tally, hsum]
  · have hnonces : (noncesOf a xs).Perm (noncesOf a ys) :=
      (h.filter fun tx : Transaction => tx.fromAccount = a).map Transaction.nonce
    simp only [tally, hnonces.foldl_eq]

@[simp] theorem tally_nil (b : Books) : b.tally [] = b := by
  ext a s <;> simp [tally, noncesOf]

/-- A transaction with a nonce above the last one may be posted first. -/
theorem tally_post {b : Books} {tx : Transaction} (hfresh : b.nonce tx.fromAccount < tx.nonce)
    (txs : List Transaction) : (b.post tx).tally txs = b.tally (tx :: txs) := by
  ext a s
  · simp only [tally, post, List.map_cons, List.sum_cons]
    omega
  · simp only [tally, post, List.map_cons, List.sum_cons]
    omega
  · by_cases ha : tx.fromAccount = a
    · subst ha
      have hmax : max (b.nonce tx.fromAccount) tx.nonce = tx.nonce := by omega
      simp [tally, post, noncesOf, hmax]
    · have ha' : ¬ a = tx.fromAccount := fun h => ha h.symm
      simp [tally, post, noncesOf, ha, ha']

end Books

/-- An accepted batch leaves the tally of its transactions: each of its
transactions has a nonce above those of its account before it. -/
theorem applyTransactions_tally {l : InMemoryLedger} {height : Int} {d : Draws}
    {txs : List Transaction} {w w' : Working}
    (h : l.applyTransactions .exact height d txs w = .ok w') :
    w'.books = w.books.tally txs := by
  have hinv := applyTransactions_induct
    (P := fun rest u => u.books.tally rest = w.books.tally txs) ?_ h rfl
  · rwa [Books.tally_nil] at hinv
  · intro d tx rest u u' hadm happ hu
    have hfresh : u.books.nonce tx.fromAccount < tx.nonce := hadm.nonce_fresh
    rw [(applyTransaction_exact happ).books, Books.tally_post hfresh]
    exact hu

/-- **Settlement order.** When the dry run accepts two orders of the same
transactions, applying either ends in the same balance of every account and
asset, the same issued amount of every asset and the same nonce of every
account, with amounts read as integers. -/
theorem settlement_order {l : InMemoryLedger} {xs ys : List Transaction} (hperm : xs.Perm ys)
    (hxs : Accepts .exact l xs) (hys : Accepts .exact l ys) (d d' : Draws) (height height' : Int) :
    ∃ w w', l.applyTransactions .exact height d xs l.working = .ok w ∧
      l.applyTransactions .exact height' d' ys l.working = .ok w' ∧
      (∀ a s, w.balance a s = w'.balance a s) ∧ (∀ s, w.issuedOf s = w'.issuedOf s) ∧
      ∀ a, w.nonce a = w'.nonce a := by
  obtain ⟨s, hs⟩ := accepts_iff_runSteps.mp hxs
  obtain ⟨s', hs'⟩ := accepts_iff_runSteps.mp hys
  obtain ⟨w, hw, -⟩ := applyTransactions_of_runSteps hs d height
  obtain ⟨w', hw', -⟩ := applyTransactions_of_runSteps hs' d' height'
  have hbooks : w.books = w'.books := by
    rw [applyTransactions_tally hw, applyTransactions_tally hw', Books.tally_perm _ hperm]
  refine ⟨w, w', hw, hw', ?_, ?_, ?_⟩
  · intro a s
    exact congrFun (congrFun (congrArg Books.balance hbooks) a) s
  · intro s
    exact congrFun (congrArg Books.issued hbooks) s
  · intro a
    exact congrFun (congrArg Books.nonce hbooks) a

/-- Two funded accounts that pay each other. -/
def exampleCounterparties : InMemoryLedger :=
  { sandbox (.numbered "s" 0) with
    balances := HashMap.ofPairs
      [((SANDBOX_CORP_A_ACCOUNT, KCAD_TEST), 10), ((SANDBOX_CORP_B_ACCOUNT, KCAD_TEST), 10)] }

/-- A payment from `CORP_A`, and one back. -/
def exampleExchange : List Transaction :=
  [.newTransfer ⟨"t1", 1⟩ SANDBOX_CORP_A_ACCOUNT SANDBOX_CORP_B_ACCOUNT KCAD_TEST 4 1,
    .newTransfer ⟨"t2", 2⟩ SANDBOX_CORP_B_ACCOUNT SANDBOX_CORP_A_ACCOUNT KCAD_TEST 9 3]

/-- Either account may pay first. -/
theorem settlement_order_example :
    exampleExchange ≠ exampleExchange.reverse ∧
      ∃ w w', exampleCounterparties.applyTransactions .exact 1 (.numbered "a" 0) exampleExchange
          exampleCounterparties.working = .ok w ∧
        exampleCounterparties.applyTransactions .exact 2 (.numbered "b" 0) exampleExchange.reverse
          exampleCounterparties.working = .ok w' ∧
        (∀ a s, w.balance a s = w'.balance a s) ∧ (∀ s, w.issuedOf s = w'.issuedOf s) ∧
        ∀ a, w.nonce a = w'.nonce a := by
  have hforth : Accepts .exact exampleCounterparties exampleExchange := by
    rw [accepts_iff (.numbered "" 0)]
    decide +kernel
  have hback : Accepts .exact exampleCounterparties exampleExchange.reverse := by
    rw [accepts_iff (.numbered "" 0)]
    decide +kernel
  refine ⟨by decide, ?_⟩
  exact settlement_order (List.reverse_perm _).symm hforth hback _ _ _ _

end KaniNetwork
