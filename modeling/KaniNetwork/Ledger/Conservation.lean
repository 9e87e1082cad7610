/-
KaniNetwork.Ledger.Conservation — money is neither created nor destroyed.

The invariant `Conserved` relates the balance and the issuance map over
the accounts the ledger knows: the balances of an asset add up to its
issued amount, no balance is negative, and an account the ledger does not
know holds nothing. The last part is what lets an account be added later
without moving the sum. It is stated for the working copies, so it also
speaks about a batch that fails half way.

`conserved_applyTransaction` is the step, for one accepted transaction;
`conserved_step` goes over the operations, `conservation` over runs.
-/
import Mathlib.Algebra.BigOperators.Group.Finset.Basic
import Mathlib.Algebra.BigOperators.Group.Finset.Piecewise
import Mathlib.Algebra.Order.BigOperators.Group.Finset
import KaniNetwork.Ledger.InMemoryTheorems
import KaniNetwork.Ledger.Operations

namespace KaniNetwork

open InMemoryLedger

/-- The ids of the accounts of a ledger. -/
def InMemoryLedger.accountIds (l : InMemoryLedger) : Finset String :=
  l.accounts.keys.toFinset

/-- Balances and issuance agree over the accounts `ids`. -/
structure Conserved (ids : Finset String) (w : Working) : Prop where
  total : ∀ s, ∑ a ∈ ids, w.balance a s = w.issuedOf s
  nonneg : ∀ a s, 0 ≤ w.balance a s
  known : ∀ a s, w.balance a s ≠ 0 → a ∈ ids

theorem Conserved.issued_nonneg {ids : Finset String} {w : Working} (h : Conserved ids w)
    (s : String) : 0 ≤ w.issuedOf s := by
  rw [← h.total s]
  exact Finset.sum_nonneg fun a _ => h.nonneg a s

/-- A further account holds nothing yet, so it does not move the sum. -/
theorem Conserved.addAccount {ids : Finset String} {w : Working} (h : Conserved ids w)
    (id : String) : Conserved (insert id ids) w := by
  refine ⟨fun s => ?_, h.nonneg, fun a s hne => Finset.mem_insert_of_mem (h.known a s hne)⟩
  rw [← h.total s]
  refine Finset.sum_insert_of_eq_zero_if_notMem fun hid => ?_
  exact not_not.mp fun hne => hid (h.known id s hne)

/-- No account holds more than was issued. -/
theorem Conserved.balance_le_issued {ids : Finset String} {w : Working} (h : Conserved ids w)
    (a s : String) : w.balance a s ≤ w.issuedOf s := by
  have h' := h.addAccount a
  rw [← h'.total s]
  exact Finset.single_le_sum (f := fun b => w.balance b s) (fun b _ => h'.nonneg b s)
    (Finset.mem_insert_self a ids)

/-- Nor do two accounts together. -/
theorem Conserved.pair_le_issued {ids : Finset String} {w : Working} (h : Conserved ids w)
    {a b : String} (hab : a ≠ b) (s : String) :
    w.balance a s + w.balance b s ≤ w.issuedOf s := by
  have h' := (h.addAccount b).addAccount a
  have hsub : ({a, b} : Finset String) ⊆ insert a (insert b ids) := by
    intro c hc
    simp only [Finset.mem_insert, Finset.mem_singleton] at hc ⊢
    exact hc.imp_right Or.inl
  rw [← h'.total s, ← Finset.sum_pair (f := fun c => w.balance c s) hab]
  exact Finset.sum_le_sum_of_subset_of_nonneg hsub fun c _ _ => h'.nonneg c s

/-! ## One transaction -/

/-- Over accounts that include both ends, what a transaction adds to the
balances is what it adds to the issuance. -/
theorem sum_balanceDelta {ids : Finset String} {tx : Transaction}
    (hfrom : tx.fromAccount ∈ ids) (hto : tx.toAccount ∈ ids) (s : String) :
    ∑ a ∈ ids, tx.balanceDelta a s = tx.issuedDelta s := by
  have hpoint : ∀ (c : String) (n : Int), c ∈ ids → ∑ a ∈ ids, (if a = c then n else 0) = n := by
    intro c n hc
    rw [Finset.sum_ite_eq' ids c (fun _ => n), if_pos hc]
  unfold Transaction.balanceDelta Transaction.issuedDelta
  rw [Finset.sum_add_distrib]
  by_cases hs : s = tx.asset
  · cases hk : tx.kind <;> simp [hs, hpoint, hfrom, hto]
  · simp [hs]

theorem mem_accountIds {l : InMemoryLedger} {id : String} {a : Account}
    (h : l.accounts.lookup id = some a) : id ∈ l.accountIds :=
  List.mem_toFinset.mpr (HashMap.mem_keys_of_lookup h)

/-- An accepted transaction keeps the invariant. -/
theorem conserved_applyTransaction {l : InMemoryLedger} {d : Draws} {tx : Transaction}
    {height : Int} {w w' : Working} (hadm : l.Admissible tx w.balances w.nonces w.issued)
    (happ : applyTransaction .exact d tx height w = .ok w') (h : Conserved l.accountIds w) :
    Conserved l.accountIds w' := by
  have heff := applyTransaction_exact happ
  obtain ⟨_, hfrom, _⟩ := hadm.from_known
  obtain ⟨_, hto, _⟩ := hadm.to_known
  have hfrom := mem_accountIds hfrom
  have hto := mem_accountIds hto
  refine ⟨?_, ?_, ?_⟩
  · intro s
    rw [heff.issued, ← h.total s, ← sum_balanceDelta hfrom hto s, ← Finset.sum_add_distrib]
    exact Finset.sum_congr rfl fun a _ => heff.balance a s
  · intro a s
    -- only the debited account can fall, and it was funded
    have hfund : tx.kind ≠ .mint → tx.amount ≤ w.balance tx.fromAccount tx.asset := hadm.funded
    have hpos := hadm.amount_pos
    have hold := h.nonneg a s
    rw [heff.balance, Transaction.balanceDelta]
    split
    · rename_i hdebit
      obtain ⟨hk, rfl, rfl⟩ := hdebit
      have := hfund hk
      split <;> omega
    · split <;> omega
  · intro a s hne
    rw [heff.balance, Transaction.balanceDelta] at hne
    by_cases hafrom : a = tx.fromAccount
    · exact hafrom ▸ hfrom
    · by_cases hato : a = tx.toAccount
      · exact hato ▸ hto
      · simp only [hafrom, hato, false_and, and_false, if_false, add_zero] at hne
        exact h.known a s hne

/-- So does an accepted batch, at every point of it. -/
theorem conserved_applyTransactions {l : InMemoryLedger} {height : Int} {d : Draws}
    {txs : List Transaction} {w w' : Working} (h : Conserved l.accountIds w)
    (hrun : l.applyTransactions .exact height d txs w = .ok w') : Conserved l.accountIds w' :=
  applyTransactions_induct (P := fun _ u => Conserved l.accountIds u)
    (fun _ _ _ _ _ hadm happ hP => conserved_applyTransaction hadm happ hP) hrun h

/-! ## Operations -/

/-- The ledger invariant: conserved values, and accounts filed under
their own ids. -/
structure Sound (l : InMemoryLedger) : Prop where
  conserved : Conserved l.accountIds l.working
  keyed : ∀ k a, l.accounts.lookup k = some a → a.id = k

/-- `Conserved` reads the balances and the issuance only. -/
theorem Conserved.congr {ids : Finset String} {w w' : Working} (h : Conserved ids w)
    (hb : ∀ a s, w'.balance a s = w.balance a s) (hi : ∀ s, w'.issuedOf s = w.issuedOf s) :
    Conserved ids w' := by
  refine ⟨fun s => ?_, fun a s => ?_, fun a s hne => ?_⟩
  · rw [hi, ← h.total s]
    exact Finset.sum_congr rfl fun a _ => hb a s
  · rw [hb]
    exact h.nonneg a s
  · rw [hb] at hne
    exact h.known a s hne

/-- An operation that touches neither accounts, balances nor issuance. -/
theorem Sound.frame {l l' : InMemoryLedger} (h : Sound l) (ha : l'.accounts = l.accounts)
    (hb : l'.balances = l.balances) (hi : l'.issued = l.issued) : Sound l' := by
  refine ⟨?_, ?_⟩
  · have hids : l'.accountIds = l.accountIds := by simp only [accountIds, ha]
    rw [hids]
    exact h.conserved.congr (fun a s => by simp only [Working.balance, working, hb])
      (fun s => by simp only [Working.issuedOf, working, hi])
  · rw [ha]
    exact h.keyed

theorem sound_empty : Sound InMemoryLedger.empty := by
  refine ⟨⟨fun s => rfl, fun a s => Int.le_refl 0, fun a s hne => absurd rfl hne⟩, ?_⟩
  intro k a h
  cases h

theorem sound_upsertAccount {l : InMemoryLedger} (h : Sound l) (account : Account) :
    Sound (l.upsertAccount account) := by
  refine ⟨?_, ?_⟩
  · have hids : (l.upsertAccount account).accountIds = insert account.id l.accountIds :=
      HashMap.toFinset_keys_insert _ _ _
    rw [hids]
    exact h.conserved.addAccount account.id
  · exact HashMap.FiledUnder.insert h.keyed account

theorem sound_ensureBalanceRow {l : InMemoryLedger} (h : Sound l) (a s : String) :
    Sound (l.ensureBalanceRow a s) := by
  refine ⟨?_, h.keyed⟩
  exact h.conserved.congr (ensureBalanceRow_balance l a s) fun _ => rfl

theorem sound_sandbox (d : Draws) : Sound (sandbox d) := by
  unfold sandbox
  simp only
  repeat' first
    | apply sound_ensureBalanceRow
    | apply sound_upsertAccount
  exact sound_empty.frame rfl rfl rfl

theorem sound_applyBlock {l l' : InMemoryLedger} {d : Draws} {block : Block}
    {records : List PaymentRecord} (h : Sound l)
    (happ : applyBlock .exact d block l = (l', .ok records)) : Sound l' := by
  have hApplied := applyBlock_eq_ok happ
  refine ⟨?_, ?_⟩
  · have hids : l'.accountIds = l.accountIds := by simp only [accountIds, hApplied.accounts_eq]
    rw [hids]
    exact conserved_applyTransactions h.conserved hApplied.batch
  · rw [hApplied.accounts_eq]
    exact h.keyed

theorem sound_reload {l : InMemoryLedger} (h : Sound l) : Sound (fromSnapshot l.snapshot) := by
  have hlookup := HashMap.FiledUnder.lookup_ofPairs_values h.keyed (.refl _)
  refine ⟨?_, fun k a hk => h.keyed k a ((hlookup k).symm.trans hk)⟩
  have hids : (fromSnapshot l.snapshot).accountIds = l.accountIds := by
    ext k
    simp only [accountIds, List.mem_toFinset, HashMap.mem_keys_iff]
    rw [show (fromSnapshot l.snapshot).accounts.lookup k = _ from hlookup k]
  rw [hids]
  exact h.conserved.congr (fromSnapshot_snapshot_balance l) fun _ => rfl

/-- Every operation keeps the ledger invariant. -/
theorem sound_step {l : InMemoryLedger} (op : LedgerOp) (h : Sound l) :
    Sound (l.step .exact op) := by
  cases step_effect .exact l op with
  | added account heq =>
    rw [heq]
    exact sound_upsertAccount h account
  | applied d block records happ => exact sound_applyBlock h happ
  | reloaded heq =>
    rw [heq]
    exact sound_reload h
  | same hsame =>
    exact h.frame hsame.accounts (congrArg Working.balances hsame.working)
      (congrArg Working.issued hsame.working)

/-- Every ledger reached from the sandbox by public operations satisfies
the ledger invariant. -/
theorem sound_run (d : Draws) (ops : List LedgerOp) : Sound ((sandbox d).run .exact ops) :=
  run_induct (fun _ op h => sound_step op h) (sound_sandbox d) ops

/-! ## The issuance check -/

/-- Where balances and issuance agree, every `InsufficientFunds` of
`validate_transaction` is raised by `ensure_sufficient_balance`: a burn
that its account can pay is covered by the issuance. -/
theorem insufficientFunds_of_balance {l : InMemoryLedger} {tx : Transaction} {w : Working}
    (h : Conserved l.accountIds w) {a s : String} {available required : Int}
    (herr : l.validateTransaction tx w.balances w.nonces w.issued =
      .error (.insufficientFunds a s available required)) :
    ensureSufficientBalance w.balances tx.fromAccount tx.asset tx.amount =
      .error (.insufficientFunds a s available required) := by
  unfold validateTransaction at herr
  split at herr
  · cases herr
  split at herr
  · cases herr
  split at herr
  · cases herr
  · cases herr
  split at herr
  · cases herr
  split at herr
  · exact herr
  · split at herr <;> cases herr
  · split at herr
    · cases herr
    cases hbal : ensureSufficientBalance w.balances tx.fromAccount tx.asset tx.amount with
    | error e =>
      rw [hbal] at herr
      exact herr
    | ok u =>
      -- the account can pay, so the issuance covers the burn
      have hfund := ensureSufficientBalance_eq_ok_iff.mp hbal
      have hissued : tx.amount ≤ w.issued.getOr tx.asset 0 :=
        hfund.trans (h.balance_le_issued tx.fromAccount tx.asset)
      rw [hbal, ok_bind, if_neg (by omega)] at herr
      cases herr

/-- **Conservation of value.** In every ledger reached from the sandbox by
public operations, with amounts read as integers: the balances of every
asset add up to its issued amount, nothing is negative, and at no point of
a batch, accepted so far, does validation fail for want of issuance; every
`InsufficientFunds` is the one of the sender's balance. -/
theorem conservation (d : Draws) (ops : List LedgerOp) :
    let l := (sandbox d).run .exact ops
    (∀ s, ∑ a ∈ l.accountIds, l.balance a s = l.issuedOf s) ∧
      (∀ a s, 0 ≤ l.balance a s) ∧ (∀ s, 0 ≤ l.issuedOf s) ∧
      ∀ height d' txs w, l.applyTransactions .exact height d' txs l.working = .ok w →
        ∀ tx a s available required,
          l.validateTransaction tx w.balances w.nonces w.issued =
            .error (.insufficientFunds a s available required) →
          ensureSufficientBalance w.balances tx.fromAccount tx.asset tx.amount =
            .error (.insufficientFunds a s available required) := by
  intro l
  have hsound : Sound l := sound_run d ops
  refine ⟨hsound.conserved.total, hsound.conserved.nonneg, hsound.conserved.issued_nonneg, ?_⟩
  intro height d' txs w hbatch tx a s available required herr
  exact insufficientFunds_of_balance (conserved_applyTransactions hsound.conserved hbatch) herr

end KaniNetwork
