/-
KaniNetwork.Ledger.Alike — what validation reads of a ledger.

`validate_transactions_for_next_block` reads the types of the accounts,
the balances, the last nonces and the issued amounts; a key that is missing
reads like a zero. Two ledgers that agree on these are `Alike`, whatever
else differs between them, and give every batch the same answer.
-/
import KaniNetwork.Ledger.InMemoryTheorems

namespace KaniNetwork

/-- Working copies that read the same. -/
structure Working.Alike (w v : Working) : Prop where
  balance : ∀ a s, w.balance a s = v.balance a s
  nonce : ∀ a, w.nonce a = v.nonce a
  issued : ∀ s, w.issuedOf s = v.issuedOf s

/-- Ledgers that validation cannot tell apart. -/
structure InMemoryLedger.Alike (l l' : InMemoryLedger) : Prop where
  accounts : ∀ a, (l.accounts.lookup a).map Account.accountType =
    (l'.accounts.lookup a).map Account.accountType
  working : l.working.Alike l'.working

/-- Balances that read the same. -/
def SameBalances (b b' : HashMap (String × String) Int) : Prop :=
  ∀ a s, balanceFrom b a s = balanceFrom b' a s

section

variable {b b' : HashMap (String × String) Int}

theorem SameBalances.insert (h : SameBalances b b') (a s : String) {n n' : Int} (hn : n = n') :
    SameBalances (b.insert (a, s) n) (b'.insert (a, s) n') := by
  intro a' s'
  rw [balanceFrom_insert, balanceFrom_insert, h a' s', hn]

theorem ensureSufficientBalance_alike (h : SameBalances b b') (a s : String) (amount : Int) :
    ensureSufficientBalance b a s amount = ensureSufficientBalance b' a s amount := by
  simp only [ensureSufficientBalance, h a s]

theorem debit_alike (ar : Arith) (h : SameBalances b b') (a s : String) (amount : Int) :
    Agree SameBalances (debit ar b a s amount) (debit ar b' a s amount) := by
  refine .bind (.of_eq (ensureSufficientBalance_alike h a s amount)) fun _ _ _ => .ok ?_
  exact h.insert a s (by rw [h a s])

theorem credit_alike (ar : Arith) (h : SameBalances b b') (a s : String) (amount : Int) :
    SameBalances (credit ar b a s amount) (credit ar b' a s amount) :=
  h.insert a s (by rw [h a s])

end

/-- Maps that read the same, a missing key as zero. -/
def SameReads (m m' : HashMap String Int) : Prop := ∀ k, m.getOr k 0 = m'.getOr k 0

theorem SameReads.insert {m m' : HashMap String Int} (h : SameReads m m') (k : String) {n n' : Int}
    (hn : n = n') : SameReads (m.insert k n) (m'.insert k n') := by
  intro k'
  rw [HashMap.getOr_insert, HashMap.getOr_insert, h k', hn]

/-- An applied transaction keeps working copies alike. -/
theorem applyTransaction_alike (ar : Arith) (d d' : Draws) (tx : Transaction) (height height' : Int)
    {w v : Working} (h : w.Alike v) :
    Agree Working.Alike (applyTransaction ar d tx height w)
      (applyTransaction ar d' tx height' v) := by
  have hbalances : SameBalances w.balances v.balances := h.balance
  have hnonces : SameReads w.nonces v.nonces := h.nonce
  have hissued : SameReads w.issued v.issued := h.issued
  unfold applyTransaction
  cases tx.kind with
  | transfer =>
    refine .bind (debit_alike ar hbalances _ _ _) fun b b' hb => .ok ?_
    exact ⟨credit_alike ar hb _ _ _, hnonces.insert _ rfl, hissued⟩
  | mint =>
    refine .ok ⟨credit_alike ar hbalances _ _ _, hnonces.insert _ rfl, hissued.insert _ ?_⟩
    rw [hissued]
  | burn =>
    refine .bind (debit_alike ar hbalances _ _ _) fun b b' hb => .ok ?_
    refine ⟨hb, hnonces.insert _ rfl, hissued.insert _ ?_⟩
    rw [hissued]

namespace InMemoryLedger

variable {l l' : InMemoryLedger}

theorem validateTransaction_alike
    (haccounts : ∀ a, (l.accounts.lookup a).map Account.accountType =
      (l'.accounts.lookup a).map Account.accountType)
    {w v : Working} (h : w.Alike v) (tx : Transaction) :
    l.validateTransaction tx w.balances w.nonces w.issued =
      l'.validateTransaction tx v.balances v.nonces v.issued := by
  have hfrom := haccounts tx.fromAccount
  have hto := haccounts tx.toAccount
  have hnonce : w.nonces.getOr tx.fromAccount 0 = v.nonces.getOr tx.fromAccount 0 := h.nonce _
  have hissued : w.issued.getOr tx.asset 0 = v.issued.getOr tx.asset 0 := h.issued _
  unfold validateTransaction
  rw [ensureSufficientBalance_alike h.balance, hnonce, hissued]
  generalize l.accounts.lookup tx.fromAccount = a at hfrom
  generalize l'.accounts.lookup tx.fromAccount = a' at hfrom
  generalize l.accounts.lookup tx.toAccount = b at hto
  generalize l'.accounts.lookup tx.toAccount = b' at hto
  cases a with
  | none =>
    cases a' with
    | none => rfl
    | some a' => cases hfrom
  | some a =>
    cases a' with
    | none => cases hfrom
    | some a' =>
      cases b with
      | none =>
        cases b' with
        | none => rfl
        | some b' => cases hto
      | some b =>
        cases b' with
        | none => cases hto
        | some b' =>
          have hfrom : a.accountType = a'.accountType := Option.some.inj hfrom
          have hto : b.accountType = b'.accountType := Option.some.inj hto
          simp only [hfrom, hto]

theorem applyTransactions_alike (ar : Arith)
    (haccounts : ∀ a, (l.accounts.lookup a).map Account.accountType =
      (l'.accounts.lookup a).map Account.accountType)
    (d d' : Draws) (height height' : Int) (txs : List Transaction) {w v : Working} (h : w.Alike v) :
    Agree Working.Alike (l.applyTransactions ar height d txs w)
      (l'.applyTransactions ar height' d' txs v) := by
  induction txs generalizing d d' w v with
  | nil => exact .ok h
  | cons tx txs ih =>
    refine .bind (.of_eq (validateTransaction_alike haccounts h tx)) fun _ _ _ => ?_
    exact .bind (applyTransaction_alike ar _ _ tx height height' h) fun w v hwv => ih _ _ hwv

/-- Ledgers that are alike give every batch the same answer. -/
theorem Alike.validateTransactionsForNextBlock (h : l.Alike l') (ar : Arith) (d d' : Draws)
    (txs : List Transaction) :
    l.validateTransactionsForNextBlock ar d txs = l'.validateTransactionsForNextBlock ar d' txs := by
  refine Agree.eq (.bind (applyTransactions_alike ar h.accounts d d' _ _ txs h.working) ?_)
  exact fun _ _ _ => .ok rfl

end InMemoryLedger

end KaniNetwork
