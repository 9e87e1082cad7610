/-
KaniNetwork.Ledger.ReplayProtection — no transaction is applied twice.

Transaction ids are never checked. What protects the chain is the nonce
check: each accepted transaction has a nonce above the last one of its
account, and becomes the last one, also between two transactions of one
batch. `NonceRecord` relates the nonces of a ledger to the transactions of
its chain in order, and one accepted transaction extends it.
-/
import KaniNetwork.Ledger.Nonces
import KaniNetwork.Ledger.Operations

namespace KaniNetwork

open InMemoryLedger

/-- The nonces of the outgoing transactions of the account `a`, in order. -/
def noncesOf (a : String) (txs : List Transaction) : List Int :=
  (txs.filter fun tx => tx.fromAccount = a).map Transaction.nonce

/-- What a nonce is spent on. -/
def Transaction.nonceKey (tx : Transaction) : String × Int := (tx.fromAccount, tx.nonce)

/-- The nonces of `txs` increase account by account, and `nonces` has the last
one of each account. -/
structure NonceRecord (nonces : HashMap String Int) (txs : List Transaction) : Prop where
  increasing : txs.Pairwise fun x y => x.fromAccount = y.fromAccount → x.nonce < y.nonce
  positive : ∀ x ∈ txs, 0 < x.nonce
  bounded : ∀ x ∈ txs, x.nonce ≤ nonces.getOr x.fromAccount 0
  last : ∀ a, nonces.lookup a = (noncesOf a txs).getLast?

theorem noncesOf_append_singleton (a : String) (txs : List Transaction) (tx : Transaction) :
    noncesOf a (txs ++ [tx]) =
      if tx.fromAccount = a then noncesOf a txs ++ [tx.nonce] else noncesOf a txs := by
  unfold noncesOf
  rw [List.filter_append, List.filter_singleton]
  split <;> simp_all

namespace NonceRecord

variable {nonces : HashMap String Int} {txs : List Transaction}

theorem nil : NonceRecord ∅ [] where
  increasing := .nil
  positive := fun _ hx => absurd hx List.not_mem_nil
  bounded := fun _ hx => absurd hx List.not_mem_nil
  last := fun _ => rfl

/-- The last nonce of an account is not negative. -/
theorem nonneg (h : NonceRecord nonces txs) (a : String) : 0 ≤ nonces.getOr a 0 := by
  unfold HashMap.getOr
  cases hlookup : nonces.lookup a with
  | none => exact le_rfl
  | some n =>
    have hn : n ∈ noncesOf a txs := List.mem_of_getLast? ((h.last a).symm.trans hlookup)
    obtain ⟨x, hx, rfl⟩ := List.mem_map.mp hn
    exact (h.positive x (List.mem_of_mem_filter hx)).le

/-- One accepted transaction extends the record. -/
theorem append (h : NonceRecord nonces txs) {tx : Transaction}
    (hfresh : nonces.getOr tx.fromAccount 0 < tx.nonce) :
    NonceRecord (nonces.insert tx.fromAccount tx.nonce) (txs ++ [tx]) := by
  refine ⟨?_, ?_, ?_, ?_⟩
  · rw [List.pairwise_append]
    refine ⟨h.increasing, List.pairwise_singleton _ _, ?_⟩
    intro x hx y hy hfrom
    rw [List.mem_singleton] at hy
    subst hy
    exact lt_of_le_of_lt (hfrom ▸ h.bounded x hx) hfresh
  · intro x hx
    rcases List.mem_append.mp hx with hx | hx
    · exact h.positive x hx
    · rw [List.mem_singleton] at hx
      subst hx
      exact lt_of_le_of_lt (h.nonneg _) hfresh
  · intro x hx
    rw [HashMap.getOr_insert]
    rcases List.mem_append.mp hx with hx | hx
    · split
      · rename_i hfrom
        exact (lt_of_le_of_lt (hfrom ▸ h.bounded x hx) hfresh).le
      · exact h.bounded x hx
    · rw [List.mem_singleton] at hx
      subst hx
      rw [if_pos rfl]
  · intro a
    rw [HashMap.lookup_insert_eq, noncesOf_append_singleton]
    by_cases ha : tx.fromAccount = a
    · rw [if_pos ha.symm, if_pos ha, List.getLast?_concat]
    · rw [if_neg (Ne.symm ha), if_neg ha]
      exact h.last a

/-- A batch that the loop accepts extends the record by its transactions. -/
theorem applyTransactions {ar : Arith} {l : InMemoryLedger} {height : Int} {d : Draws}
    {batch : List Transaction} {w w' : Working} (h : NonceRecord w.nonces txs)
    (hrun : l.applyTransactions ar height d batch w = .ok w') :
    NonceRecord w'.nonces (txs ++ batch) := by
  induction batch generalizing txs d w with
  | nil =>
    cases hrun
    simpa using h
  | cons tx batch ih =>
    simp only [InMemoryLedger.applyTransactions, bind_eq_ok_iff] at hrun
    obtain ⟨_, hval, w₁, happ, hrest⟩ := hrun
    have hnext := h.append (validateTransaction_eq_ok_iff.mp hval).nonce_fresh
    rw [← applyTransaction_nonces happ] at hnext
    rw [List.append_cons]
    exact ih hnext hrest

theorem noncesOf_pairwise (h : NonceRecord nonces txs) (a : String) :
    (noncesOf a txs).Pairwise (· < ·) := by
  rw [noncesOf, List.pairwise_map, List.pairwise_filter]
  refine h.increasing.imp ?_
  intro x y hlt hx hy
  rw [decide_eq_true_eq] at hx hy
  exact hlt (hx.trans hy.symm)

theorem noncesOf_positive (h : NonceRecord nonces txs) {a : String} {n : Int}
    (hn : n ∈ noncesOf a txs) : 0 < n := by
  obtain ⟨x, hx, rfl⟩ := List.mem_map.mp hn
  exact h.positive x (List.mem_of_mem_filter hx)

/-- No nonce of an account is spent twice. -/
theorem nodup_keys (h : NonceRecord nonces txs) : (txs.map Transaction.nonceKey).Nodup := by
  rw [List.Nodup, List.pairwise_map]
  refine h.increasing.imp ?_
  intro x y hlt hkey
  obtain ⟨hfrom, hnonce⟩ := Prod.mk.inj hkey
  exact absurd hnonce (hlt hfrom).ne

end NonceRecord

/-! ## Ledgers -/

/-- The transactions of the chain, in order. -/
def InMemoryLedger.chainTransactions (l : InMemoryLedger) : List Transaction :=
  l.blocks.flatMap Block.txs

/-- An applied block extends the chain by its transactions. -/
theorem InMemoryLedger.Applied.chainTransactions {ar : Arith} {d : Draws} {l l' : InMemoryLedger}
    {block : Block} {records : List PaymentRecord} (h : Applied ar d l block l' records) :
    l'.chainTransactions = l.chainTransactions ++ block.txs := by
  simp [InMemoryLedger.chainTransactions, h.blocks_eq]

theorem nonceRecord_applied {ar : Arith} {d : Draws} {l l' : InMemoryLedger} {block : Block}
    {records : List PaymentRecord} (h : NonceRecord l.nonces l.chainTransactions)
    (happ : Applied ar d l block l' records) : NonceRecord l'.nonces l'.chainTransactions := by
  rw [happ.chainTransactions]
  exact NonceRecord.applyTransactions h happ.batch

/-- Every public operation keeps the record. -/
theorem nonceRecord_step {ar : Arith} {l : InMemoryLedger} (op : LedgerOp)
    (h : NonceRecord l.nonces l.chainTransactions) :
    NonceRecord (l.step ar op).nonces (l.step ar op).chainTransactions := by
  cases step_effect ar l op with
  | added account heq =>
    rw [heq]
    exact h
  | applied d block records happ => exact nonceRecord_applied h (applyBlock_eq_ok happ)
  | reloaded heq =>
    rw [heq]
    exact h
  | same hsame =>
    have hnonces : (l.step ar op).nonces = l.nonces := congrArg Working.nonces hsame.working
    rw [chainTransactions, hsame.blocks, hnonces]
    exact h

theorem nonceRecord_run (ar : Arith) (d : Draws) (ops : List LedgerOp) :
    NonceRecord ((sandbox d).run ar ops).nonces ((sandbox d).run ar ops).chainTransactions :=
  run_induct (P := fun l => NonceRecord l.nonces l.chainTransactions)
    (fun _ op h => nonceRecord_step op h) NonceRecord.nil ops

/-- **Replay protection.** In every ledger reached from the sandbox by
`apply_block` with arbitrary blocks, and by any other public operations in
between, the nonces of the outgoing transactions of each account increase
along the chain from a positive one, and the nonces of the ledger are the
last of each. So no pair of account and nonce, and no transaction, stands
in the chain twice, and no block that would repeat one is accepted. -/
theorem replay_protection (ar : Arith) (d : Draws) (ops : List LedgerOp) :
    let l := (sandbox d).run ar ops
    (∀ a, (noncesOf a l.chainTransactions).Pairwise (· < ·) ∧
        (∀ n ∈ noncesOf a l.chainTransactions, 0 < n) ∧
        l.nonces.lookup a = (noncesOf a l.chainTransactions).getLast?) ∧
      (l.chainTransactions.map Transaction.nonceKey).Nodup ∧ l.chainTransactions.Nodup ∧
      ∀ d' block l' records, applyBlock ar d' block l = (l', .ok records) →
        (block.txs.map Transaction.nonceKey).Nodup ∧
        ∀ tx ∈ block.txs, tx.nonceKey ∉ l.chainTransactions.map Transaction.nonceKey := by
  intro l
  have h : NonceRecord l.nonces l.chainTransactions := nonceRecord_run ar d ops
  refine ⟨?_, h.nodup_keys, h.nodup_keys.of_map, ?_⟩
  · intro a
    exact ⟨h.noncesOf_pairwise a, fun n => h.noncesOf_positive, h.last a⟩
  · intro d' block l' records happ
    have hApplied := applyBlock_eq_ok happ
    have hnodup := (nonceRecord_applied h hApplied).nodup_keys
    rw [hApplied.chainTransactions, List.map_append, List.nodup_append] at hnodup
    obtain ⟨-, hblock, hdisjoint⟩ := hnodup
    refine ⟨hblock, ?_⟩
    intro tx htx hmem
    exact hdisjoint _ hmem _ (List.mem_map_of_mem htx) rfl

end KaniNetwork
