/-
KaniNetwork.Ledger.Nonces — when a batch refuses a transaction for its
nonce.

Validation keeps the last nonce of every account and asks each transaction
for a larger one. `applyTransactions_failsIn_nonce`: a transaction whose
nonce is above that of its account in the ledger and above those of the
same account before it in the batch is refused for other reasons only.
-/
import KaniNetwork.Ledger.InMemoryTheorems

namespace KaniNetwork

theorem head?_append {s t : String} {c : Char} (h : s.toList.head? = some c) :
    (s ++ t).toList.head? = some c := by
  rw [String.toList_append, List.head?_append, h]
  rfl

/-- The text of the nonce error is its own: no other starts with a `t`. -/
theorem LedgerError.message_ne_invalidNonce {e : LedgerError} (h : e ≠ .invalidNonce) :
    e.message ≠ LedgerError.invalidNonce.message := by
  have hnonce : LedgerError.invalidNonce.message.toList.head? = some 't' := by decide
  have hother : ∃ c, c ≠ 't' ∧ e.message.toList.head? = some c := by
    cases e with
    | invalidNonce => exact absurd rfl h
    | unknownAccount id => exact ⟨'a', by decide, head?_append (head?_append (by decide))⟩
    | unknownInstitution id => exact ⟨'i', by decide, head?_append (head?_append (by decide))⟩
    | unknownPayment id => exact ⟨'p', by decide, head?_append (head?_append (by decide))⟩
    | unknownComplianceCase id => exact ⟨'c', by decide, head?_append (head?_append (by decide))⟩
    | terminalComplianceCase caseId status =>
      exact ⟨'c', by decide, head?_append (head?_append (head?_append (by decide)))⟩
    | missingAsset => exact ⟨'a', by decide, by decide⟩
    | invalidAmount => exact ⟨'a', by decide, by decide⟩
    | insufficientFunds accountId asset available required =>
      exact ⟨'a', by decide, head?_append (head?_append (head?_append (head?_append
        (head?_append (head?_append (head?_append (by decide)))))))⟩
    | mintRequiresTreasury => exact ⟨'m', by decide, by decide⟩
    | burnRequiresTreasury => exact ⟨'b', by decide, by decide⟩
    | invalidBlockHeight expected actual =>
      exact ⟨'b', by decide, head?_append (head?_append (head?_append (by decide)))⟩
    | invalidPrevHash expected actual =>
      exact ⟨'b', by decide, head?_append (head?_append (head?_append (by decide)))⟩
    | missingBlockHash => exact ⟨'b', by decide, by decide⟩
  obtain ⟨c, hc, hhead⟩ := hother
  intro hmessage
  rw [hmessage, hnonce] at hhead
  exact hc (Option.some.inj hhead).symm

theorem applyTransaction_nonces {ar : Arith} {d : Draws} {tx : Transaction} {height : Int}
    {w w' : Working} (h : applyTransaction ar d tx height w = .ok w') :
    w'.nonces = w.nonces.insert tx.fromAccount tx.nonce := by
  unfold applyTransaction at h
  cases hkind : tx.kind with
  | transfer =>
    simp only [hkind, bind_eq_ok_iff, debit_eq_ok_iff, pure_eq_ok, Except.ok.injEq] at h
    obtain ⟨_, ⟨_, rfl⟩, _, rfl, rfl⟩ := h
    rfl
  | mint =>
    simp only [hkind, bind_eq_ok_iff, pure_eq_ok, Except.ok.injEq] at h
    obtain ⟨_, rfl, rfl⟩ := h
    rfl
  | burn =>
    simp only [hkind, bind_eq_ok_iff, debit_eq_ok_iff, pure_eq_ok, Except.ok.injEq] at h
    obtain ⟨_, ⟨_, rfl⟩, _, rfl, rfl⟩ := h
    rfl

theorem ensureSufficientBalance_failsIn (balances : HashMap (String × String) Int)
    (accountId asset : String) (amount : Int) :
    FailsIn (· ≠ .invalidNonce) (ensureSufficientBalance balances accountId asset amount) :=
  .ite (.error nofun) (.ok _)

theorem applyTransaction_failsIn (ar : Arith) (d : Draws) (tx : Transaction) (height : Int)
    (w : Working) : FailsIn (· ≠ .invalidNonce) (applyTransaction ar d tx height w) := by
  have hdebit : FailsIn (· ≠ .invalidNonce) (debit ar w.balances tx.fromAccount tx.asset tx.amount) :=
    .bind (ensureSufficientBalance_failsIn _ _ _ _) fun _ => .ok _
  unfold applyTransaction
  cases tx.kind with
  | transfer => exact .bind hdebit fun _ => .ok _
  | mint => exact .bind (.ok _) fun _ => .ok _
  | burn => exact .bind hdebit fun _ => .ok _

namespace InMemoryLedger

theorem validateTransaction_failsIn {l : InMemoryLedger} {tx : Transaction}
    {balances : HashMap (String × String) Int} {nonces issued : HashMap String Int}
    (h : nonces.getOr tx.fromAccount 0 < tx.nonce) :
    FailsIn (· ≠ .invalidNonce) (l.validateTransaction tx balances nonces issued) := by
  unfold validateTransaction
  refine .ite (.error nofun) (.ite (.error nofun) ?_)
  split
  · exact .error nofun
  · exact .error nofun
  · rw [if_neg (by omega)]
    have hfunds := ensureSufficientBalance_failsIn balances tx.fromAccount tx.asset tx.amount
    cases tx.kind with
    | transfer => exact hfunds
    | mint => exact .ite (.error nofun) (.ok _)
    | burn => exact .ite (.error nofun) (.bind hfunds fun _ => .ite (.error nofun) (.ok _))

/-- By induction on the accepted part of the batch: each of its transactions
raises the nonce of its account, and stays below `tx` where it is of the same
account. -/
theorem applyTransactions_failsIn_nonce {ar : Arith} {l : InMemoryLedger} {height : Int}
    {d : Draws} {tx : Transaction} {xs : List Transaction} {w w' : Working}
    (h : l.applyTransactions ar height d xs w = .ok w') (hw : w.nonce tx.fromAccount < tx.nonce)
    (hxs : ∀ x ∈ xs, x.fromAccount = tx.fromAccount → x.nonce < tx.nonce) :
    FailsIn (· ≠ .invalidNonce) (l.applyTransactions ar height d (xs ++ [tx]) w) := by
  induction xs generalizing d w with
  | nil =>
    exact .bind (validateTransaction_failsIn hw) fun _ =>
      .bind (applyTransaction_failsIn _ _ _ _ _) fun _ => .ok _
  | cons x xs ih =>
    simp only [applyTransactions, bind_eq_ok_iff] at h
    obtain ⟨_, hval, w₁, happ, hrest⟩ := h
    simp only [List.cons_append, applyTransactions, hval, happ, ok_bind]
    refine ih hrest ?_ fun y hy => hxs y (List.mem_cons_of_mem _ hy)
    rw [Working.nonce, applyTransaction_nonces happ, HashMap.getOr_insert]
    split
    · rename_i hfrom
      exact hxs x List.mem_cons_self hfrom.symm
    · exact hw

/-- What the dry run refuses after an accepted batch, with a nonce above all
that came before, it refuses for another reason. -/
theorem refused_not_for_nonce {ar : Arith} {l : InMemoryLedger} {accepted : List Transaction}
    {tx : Transaction} {e : LedgerError} (hacc : Accepts ar l accepted)
    (hl : l.nonces.getOr tx.fromAccount 0 < tx.nonce)
    (haccepted : ∀ x ∈ accepted, x.fromAccount = tx.fromAccount → x.nonce < tx.nonce)
    {d : Draws} (h : l.validateTransactionsForNextBlock ar d (accepted ++ [tx]) = .error e) :
    e ≠ .invalidNonce := by
  obtain ⟨w, hw, -⟩ := bind_eq_ok_iff.mp (hacc d)
  exact FailsIn.bind (applyTransactions_failsIn_nonce hw hl haccepted) (fun _ => .ok _) e h

end InMemoryLedger

end KaniNetwork
