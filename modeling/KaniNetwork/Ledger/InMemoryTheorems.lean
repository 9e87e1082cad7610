/-
KaniNetwork.Ledger.InMemoryTheorems — what each ledger operation does.

One specification per function, which later modules cite instead of
unfolding it: `validateTransaction_eq_ok_iff` lists the conditions of
acceptance (`Admissible`), `applyTransaction_exact` gives the effect of an
accepted transaction on balances, nonces and issuance as deltas,
`applyTransactions_induct` is the loop rule, `runSteps_of_applyTransactions`
reads the loop as a run of `settle`, and `applyBlock_eq_ok` inverts an
accepted block.
-/
import KaniNetwork.Base.Greedy
import KaniNetwork.Ledger.InMemory

namespace KaniNetwork

/-! ## Balances -/

theorem balanceFrom_insert (balances : HashMap (String × String) Int) (a s a' s' : String)
    (n : Int) :
    balanceFrom (balances.insert (a, s) n) a' s' =
      if a' = a ∧ s' = s then n else balanceFrom balances a' s' := by
  simp only [balanceFrom, HashMap.getOr_insert, Prod.mk.injEq]

theorem ensureSufficientBalance_eq_ok_iff {balances : HashMap (String × String) Int}
    {a s : String} {amount : Int} :
    ensureSufficientBalance balances a s amount = .ok () ↔ amount ≤ balanceFrom balances a s := by
  unfold ensureSufficientBalance
  split
  · rename_i h
    simp only [reduceCtorEq, false_iff]
    omega
  · rename_i h
    simp only [true_iff]
    omega

theorem debit_eq_ok_iff {ar : Arith} {balances balances' : HashMap (String × String) Int}
    {a s : String} {amount : Int} :
    debit ar balances a s amount = .ok balances' ↔
      amount ≤ balanceFrom balances a s ∧
        balances' = balances.insert (a, s) (ar.norm (balanceFrom balances a s - amount)) := by
  rw [← ensureSufficientBalance_eq_ok_iff]
  unfold debit
  simp only [bind_eq_ok_iff, pure_eq_ok, Except.ok.injEq]
  constructor
  · rintro ⟨_, h, rfl⟩
    exact ⟨h, rfl⟩
  · rintro ⟨h, rfl⟩
    exact ⟨(), h, rfl⟩

/-! ## The effect of a transaction -/

/-- Normal forms may be taken late. -/
theorem Arith.norm_add (ar : Arith) (m n : Int) : ar.norm (ar.norm m + n) = ar.norm (m + n) := by
  cases ar with
  | exact => rfl
  | wrapping => exact Int.bmod_add_bmod

@[simp] theorem Arith.norm_norm (ar : Arith) (n : Int) : ar.norm (ar.norm n) = ar.norm n := by
  simpa using ar.norm_add n 0

theorem Arith.norm_le (ar : Arith) {n : Int} (h : 0 ≤ n) : ar.norm n ≤ n := by
  cases ar with
  | exact => exact le_refl n
  | wrapping =>
    simp only [Arith.norm, Int.bmod_def]
    split <;> omega

/-- Numbers far below `i128::MAX` are stored as they are. -/
theorem Arith.norm_of_lt (ar : Arith) {n : Int} (h : 0 ≤ n) (hlt : n < 10 ^ 38) : ar.norm n = n := by
  cases ar with
  | exact => rfl
  | wrapping =>
    simp only [Arith.norm, Int.bmod_def]
    split <;> omega

namespace Transaction

/-- What a transaction adds to the balance of `a` in the asset `s`. -/
def balanceDelta (tx : Transaction) (a s : String) : Int :=
  (if tx.kind ≠ .mint ∧ a = tx.fromAccount ∧ s = tx.asset then -tx.amount else 0) +
    (if tx.kind ≠ .burn ∧ a = tx.toAccount ∧ s = tx.asset then tx.amount else 0)

/-- What a transaction adds to the issued amount of the asset `s`. -/
def issuedDelta (tx : Transaction) (s : String) : Int :=
  if s = tx.asset then
    match tx.kind with
    | .mint => tx.amount
    | .burn => -tx.amount
    | .transfer => 0
  else 0

/-- Only a debit takes from a balance, and only what it debits. -/
theorem balanceDelta_cases {tx : Transaction} (hpos : 0 < tx.amount) (a s : String) :
    0 ≤ tx.balanceDelta a s ∨
      (tx.kind ≠ .mint ∧ a = tx.fromAccount ∧ s = tx.asset ∧ tx.balanceDelta a s = -tx.amount) := by
  unfold balanceDelta
  split
  · rename_i hdebit
    split
    · left
      omega
    · exact .inr ⟨hdebit.1, hdebit.2.1, hdebit.2.2, by omega⟩
  · left
    split <;> omega

end Transaction

namespace Working

def balance (w : Working) (a s : String) : Int := balanceFrom w.balances a s
def issuedOf (w : Working) (s : String) : Int := w.issued.getOr s 0
def nonce (w : Working) (a : String) : Int := w.nonces.getOr a 0

end Working

/-- What an applied transaction does to the working copies when amounts
are exact. -/
structure Effect (tx : Transaction) (w w' : Working) : Prop where
  balance : ∀ a s, w'.balance a s = w.balance a s + tx.balanceDelta a s
  issued : ∀ s, w'.issuedOf s = w.issuedOf s + tx.issuedDelta s
  nonces : w'.nonces = w.nonces.insert tx.fromAccount tx.nonce

theorem applyTransaction_exact {d : Draws} {tx : Transaction} {height : Int} {w w' : Working}
    (h : applyTransaction .exact d tx height w = .ok w') : Effect tx w w' := by
  unfold applyTransaction at h
  cases hkind : tx.kind with
  | transfer =>
    simp only [hkind, bind_eq_ok_iff, debit_eq_ok_iff, pure_eq_ok, Except.ok.injEq,
      Arith.norm_exact] at h
    obtain ⟨_, ⟨_, rfl⟩, _, rfl, rfl⟩ := h
    refine ⟨fun a s => ?_, fun s => ?_, rfl⟩
    · simp only [Working.balance, credit, balanceFrom_insert, Transaction.balanceDelta, hkind,
        Arith.norm_exact]
      grind
    · simp [Working.issuedOf, Transaction.issuedDelta, hkind]
  | mint =>
    simp only [hkind, bind_eq_ok_iff, pure_eq_ok, Except.ok.injEq, Arith.norm_exact] at h
    obtain ⟨_, rfl, rfl⟩ := h
    refine ⟨fun a s => ?_, fun s => ?_, rfl⟩
    · simp only [Working.balance, credit, balanceFrom_insert, Transaction.balanceDelta, hkind,
        Arith.norm_exact]
      grind
    · simp only [Working.issuedOf, HashMap.getOr_insert, Transaction.issuedDelta, hkind]
      grind
  | burn =>
    simp only [hkind, bind_eq_ok_iff, debit_eq_ok_iff, pure_eq_ok, Except.ok.injEq,
      Arith.norm_exact] at h
    obtain ⟨_, ⟨_, rfl⟩, _, rfl, rfl⟩ := h
    refine ⟨fun a s => ?_, fun s => ?_, rfl⟩
    · simp only [Working.balance, balanceFrom_insert, Transaction.balanceDelta, hkind]
      grind
    · simp only [Working.issuedOf, HashMap.getOr_insert, Transaction.issuedDelta, hkind]
      grind

/-- What an applied transaction does to normal balances. -/
theorem applyTransaction_balance {ar : Arith} {d : Draws} {tx : Transaction} {height : Int}
    {w w' : Working} (h : applyTransaction ar d tx height w = .ok w')
    (hnormal : ∀ a s, ar.norm (w.balance a s) = w.balance a s) (a s : String) :
    w'.balance a s = ar.norm (w.balance a s + tx.balanceDelta a s) := by
  have hb := hnormal a s
  have hadd : ∀ n, ar.norm (ar.norm (w.balance a s - tx.amount) + n) =
      ar.norm (w.balance a s - tx.amount + n) := fun n => ar.norm_add _ n
  unfold applyTransaction at h
  cases hkind : tx.kind with
  | transfer =>
    simp only [hkind, bind_eq_ok_iff, debit_eq_ok_iff, pure_eq_ok, Except.ok.injEq] at h
    obtain ⟨_, ⟨_, rfl⟩, _, rfl, rfl⟩ := h
    simp only [Working.balance, credit, balanceFrom_insert, Transaction.balanceDelta, hkind] at *
    grind
  | mint =>
    simp only [hkind, bind_eq_ok_iff, pure_eq_ok, Except.ok.injEq] at h
    obtain ⟨_, rfl, rfl⟩ := h
    simp only [Working.balance, credit, balanceFrom_insert, Transaction.balanceDelta, hkind] at *
    grind
  | burn =>
    simp only [hkind, bind_eq_ok_iff, debit_eq_ok_iff, pure_eq_ok, Except.ok.injEq] at h
    obtain ⟨_, ⟨_, rfl⟩, _, rfl, rfl⟩ := h
    simp only [Working.balance, balanceFrom_insert, Transaction.balanceDelta, hkind] at *
    grind

/-- What a batch computes besides its journal. -/
def Working.state (w : Working) :
    HashMap (String × String) Int × HashMap String Int × HashMap String Int :=
  (w.balances, w.nonces, w.issued)

/-- Uuids, clock and height reach the journal only. -/
theorem applyTransaction_draws (ar : Arith) (d d' : Draws) (tx : Transaction) (h h' : Int)
    {w v : Working} (hwv : w.state = v.state) :
    (applyTransaction ar d tx h w).map Working.state =
      (applyTransaction ar d' tx h' v).map Working.state := by
  obtain ⟨b, n, i, j⟩ := w
  obtain ⟨b', n', i', j'⟩ := v
  simp only [Working.state, Prod.mk.injEq] at hwv
  obtain ⟨rfl, rfl, rfl⟩ := hwv
  cases hk : tx.kind with
  | mint => simp [applyTransaction, hk, Except.map, Working.state]
  | transfer =>
    simp only [applyTransaction, hk]
    cases debit ar b tx.fromAccount tx.asset tx.amount <;> rfl
  | burn =>
    simp only [applyTransaction, hk]
    cases debit ar b tx.fromAccount tx.asset tx.amount <;> rfl

namespace InMemoryLedger

/-! ## The sandbox -/

@[simp] theorem sandbox_blocks (d : Draws) : (sandbox d).blocks = [] := rfl
@[simp] theorem sandbox_payments (d : Draws) : (sandbox d).payments = ∅ := rfl
@[simp] theorem sandbox_complianceCases (d : Draws) : (sandbox d).complianceCases = ∅ := rfl
@[simp] theorem sandbox_nonces (d : Draws) : (sandbox d).nonces = ∅ := rfl
@[simp] theorem sandbox_issued (d : Draws) : (sandbox d).issued = ∅ := rfl

/-- A new balance row reads zero, as the missing one did. -/
theorem ensureBalanceRow_balance (l : InMemoryLedger) (a s a' s' : String) :
    (l.ensureBalanceRow a s).balance a' s' = l.balance a' s' := by
  simp only [balance, ensureBalanceRow]
  split
  · rfl
  · rename_i hnone
    have hzero : balanceFrom l.balances a s = 0 := by
      simp only [balanceFrom, HashMap.getOr, hnone]
      rfl
    rw [balanceFrom_insert]
    split
    · rename_i hkey
      rw [hkey.1, hkey.2, hzero]
    · rfl

/-- A reload keeps every balance. -/
theorem fromSnapshot_snapshot_balance (l : InMemoryLedger) (a s : String) :
    (fromSnapshot l.snapshot).balance a s = l.balance a s := by
  simp only [balance, fromSnapshot, snapshot, List.map_map, balanceFrom, HashMap.getOr]
  have hpairs : l.balances.pairs.map ((fun b : Balance => ((b.accountId, b.asset), b.amount)) ∘
      fun e => ⟨e.1.1, e.1.2, e.2⟩) = l.balances.pairs :=
    List.map_id _
  rw [hpairs, HashMap.lookup_ofPairs_pairs]

/-! ## Acceptance -/

/-- The conditions `validate_transaction` checks, in its order. -/
structure Admissible (l : InMemoryLedger) (tx : Transaction)
    (balances : HashMap (String × String) Int) (nonces issued : HashMap String Int) : Prop where
  amount_pos : 0 < tx.amount
  asset_named : (trim tx.asset).isEmpty = false
  from_known : ∃ a, l.accounts.lookup tx.fromAccount = some a ∧
    (tx.kind = .mint → a.accountType = .treasury)
  to_known : ∃ a, l.accounts.lookup tx.toAccount = some a ∧
    (tx.kind = .burn → a.accountType = .treasury)
  nonce_fresh : nonces.getOr tx.fromAccount 0 < tx.nonce
  funded : tx.kind ≠ .mint → tx.amount ≤ balanceFrom balances tx.fromAccount tx.asset
  issued_covers : tx.kind = .burn → tx.amount ≤ issued.getOr tx.asset 0

/-- `validate_transaction` accepts exactly the admissible transactions. -/
theorem validateTransaction_eq_ok_iff {l : InMemoryLedger} {tx : Transaction}
    {balances : HashMap (String × String) Int} {nonces issued : HashMap String Int} :
    l.validateTransaction tx balances nonces issued = .ok () ↔
      l.Admissible tx balances nonces issued := by
  constructor
  · intro h
    unfold validateTransaction at h
    split at h
    · cases h
    rename_i hpos
    split at h
    · cases h
    rename_i hasset
    split at h
    · cases h
    · cases h
    rename_i fromAcc toAcc hfrom hto
    split at h
    · cases h
    rename_i hnonce
    have hamount : 0 < tx.amount := by omega
    have hnamed : (trim tx.asset).isEmpty = false := by simpa using hasset
    have hfresh : nonces.getOr tx.fromAccount 0 < tx.nonce := by omega
    split at h
    · rename_i hk
      have hfund := ensureSufficientBalance_eq_ok_iff.mp h
      exact ⟨hamount, hnamed, ⟨_, hfrom, by simp [hk]⟩, ⟨_, hto, by simp [hk]⟩, hfresh,
        fun _ => hfund, by simp [hk]⟩
    · rename_i hk
      split at h
      · cases h
      rename_i htreas
      exact ⟨hamount, hnamed, ⟨_, hfrom, fun _ => by simpa using htreas⟩,
        ⟨_, hto, by simp [hk]⟩, hfresh, by simp [hk], by simp [hk]⟩
    · rename_i hk
      split at h
      · cases h
      rename_i htreas
      simp only [bind_eq_ok_iff] at h
      obtain ⟨_, hbal, h⟩ := h
      have hfund := ensureSufficientBalance_eq_ok_iff.mp hbal
      split at h
      · cases h
      rename_i hcover
      exact ⟨hamount, hnamed, ⟨_, hfrom, by simp [hk]⟩,
        ⟨_, hto, fun _ => by simpa using htreas⟩, hfresh, fun _ => hfund, fun _ => by omega⟩
  · rintro ⟨hpos, hasset, ⟨fromAcc, hfrom, htreas⟩, ⟨toAcc, hto, hburn⟩, hnonce, hfund, hiss⟩
    unfold validateTransaction
    rw [if_neg (by omega), if_neg (by simpa using hasset), hfrom, hto]
    simp only
    rw [if_neg (by omega)]
    split
    · rename_i hk
      exact ensureSufficientBalance_eq_ok_iff.mpr (hfund (by simp [hk]))
    · rename_i hk
      simp [htreas hk]
    · rename_i hk
      have hbal := ensureSufficientBalance_eq_ok_iff.mpr (hfund (by simp [hk]))
      have hissued := hiss hk
      simp only [hburn hk, hbal, ok_bind, ne_eq, not_true_eq_false, if_false]
      rw [if_neg (by omega)]

/-! ## The loop -/

/-- The accepted steps of the loop preserve whatever each accepted step
preserves; `P` speaks about the working copies and what is left of the
batch. -/
theorem applyTransactions_induct {ar : Arith} {l : InMemoryLedger} {height : Int}
    {P : List Transaction → Working → Prop}
    (hstep : ∀ (d : Draws) (tx : Transaction) (txs : List Transaction) (w w' : Working),
      l.Admissible tx w.balances w.nonces w.issued →
      applyTransaction ar d tx height w = .ok w' → P (tx :: txs) w → P txs w')
    {d : Draws} {txs : List Transaction} {w w' : Working}
    (h : l.applyTransactions ar height d txs w = .ok w') (hP : P txs w) : P [] w' := by
  induction txs generalizing d w with
  | nil =>
    cases h
    exact hP
  | cons tx txs ih =>
    simp only [applyTransactions, bind_eq_ok_iff] at h
    obtain ⟨_, hval, w₁, happ, hrest⟩ := h
    exact ih hrest (hstep _ tx txs w w₁ (validateTransaction_eq_ok_iff.mp hval) happ hP)

/-- An accepted batch adds up the deltas of its transactions, and takes the
normal form once. -/
theorem applyTransactions_norm {ar : Arith} {l : InMemoryLedger} {height : Int} {d : Draws}
    {txs : List Transaction} {w w' : Working} (h : l.applyTransactions ar height d txs w = .ok w')
    (hnormal : ∀ a s, ar.norm (w.balance a s) = w.balance a s) (a s : String) :
    w'.balance a s = ar.norm (w.balance a s + (txs.map fun tx => tx.balanceDelta a s).sum) := by
  have hinv := applyTransactions_induct
    (P := fun rest u => (∀ a s, ar.norm (u.balance a s) = u.balance a s) ∧ ∀ a s,
      ar.norm (u.balance a s + (rest.map fun tx => tx.balanceDelta a s).sum) =
        ar.norm (w.balance a s + (txs.map fun tx => tx.balanceDelta a s).sum))
    ?_ h ⟨hnormal, fun _ _ => rfl⟩
  · have hsum := hinv.2 a s
    rwa [List.map_nil, List.sum_nil, Int.add_zero, hinv.1] at hsum
  · rintro d tx rest u u' _ happ ⟨hu, hsum⟩
    have hstep := applyTransaction_balance happ hu
    refine ⟨fun a s => by rw [hstep, Arith.norm_norm], fun a s => ?_⟩
    rw [hstep, Arith.norm_add, ← hsum, List.map_cons, List.sum_cons, Int.add_assoc]

/-- The deltas of an accepted batch take no balance below zero, whatever wraps
around on the way: a debit is covered by what is stored, which is at most what
the deltas add up to. -/
theorem applyTransactions_sum_nonneg {ar : Arith} {l : InMemoryLedger} {height : Int} {d : Draws}
    {txs : List Transaction} {w w' : Working} (h : l.applyTransactions ar height d txs w = .ok w')
    (hnormal : ∀ a s, ar.norm (w.balance a s) = w.balance a s)
    (hnonneg : ∀ a s, 0 ≤ w.balance a s) (a s : String) :
    0 ≤ w.balance a s + (txs.map fun tx => tx.balanceDelta a s).sum := by
  -- `total` is what the deltas so far add up to
  have hinv := applyTransactions_induct
    (P := fun rest u => ∃ total : String → String → Int, ∀ a s,
      u.balance a s = ar.norm (total a s) ∧ 0 ≤ total a s ∧
        total a s + (rest.map fun tx => tx.balanceDelta a s).sum =
          w.balance a s + (txs.map fun tx => tx.balanceDelta a s).sum)
    ?_ h ⟨w.balance, fun a s => ⟨(hnormal a s).symm, hnonneg a s, rfl⟩⟩
  · obtain ⟨total, htotal⟩ := hinv
    obtain ⟨-, hle, hsum⟩ := htotal a s
    rw [List.map_nil, List.sum_nil, Int.add_zero] at hsum
    rwa [← hsum]
  · rintro d tx rest u u' hadm happ ⟨total, htotal⟩
    have hu : ∀ a s, ar.norm (u.balance a s) = u.balance a s := by
      intro a s
      rw [(htotal a s).1, Arith.norm_norm]
    refine ⟨fun a s => total a s + tx.balanceDelta a s, fun a s => ?_⟩
    obtain ⟨hbalance, hle, hsum⟩ := htotal a s
    refine ⟨?_, ?_, ?_⟩
    · rw [applyTransaction_balance happ hu, hbalance, Arith.norm_add]
    · show 0 ≤ total a s + tx.balanceDelta a s
      rcases tx.balanceDelta_cases hadm.amount_pos a s with hdelta | ⟨hkind, rfl, rfl, hdelta⟩
      · omega
      · have hfund : tx.amount ≤ u.balance tx.fromAccount tx.asset := hadm.funded hkind
        have hnorm := ar.norm_le hle
        omega
    · rw [← hsum, List.map_cons, List.sum_cons, Int.add_assoc]

/-- A batch journals amounts of its transactions. -/
theorem applyTransactions_journal {ar : Arith} {l : InMemoryLedger} {height : Int} {d : Draws}
    {txs : List Transaction} {w w' : Working} (h : l.applyTransactions ar height d txs w = .ok w')
    {e : JournalEntry} (he : e ∈ w'.journal) :
    e ∈ w.journal ∨ ∃ tx ∈ txs, e.amount = tx.amount := by
  have hinv := applyTransactions_induct
    (P := fun rest u => rest ⊆ txs ∧ ∀ e ∈ u.journal, e ∈ w.journal ∨ ∃ tx ∈ txs, e.amount = tx.amount)
    ?_ h ⟨List.Subset.refl txs, fun e he => .inl he⟩
  · exact hinv.2 e he
  · rintro d tx rest u u' - happ ⟨hsub, hu⟩
    have htx : tx ∈ txs := hsub List.mem_cons_self
    refine ⟨fun t ht => hsub (List.mem_cons_of_mem _ ht), fun e he => ?_⟩
    unfold applyTransaction at happ
    cases hkind : tx.kind with
    | transfer =>
      simp only [hkind, bind_eq_ok_iff, debit_eq_ok_iff, pure_eq_ok, Except.ok.injEq] at happ
      obtain ⟨_, ⟨_, rfl⟩, _, rfl, rfl⟩ := happ
      simp only [List.mem_append, List.mem_cons, List.not_mem_nil, or_false] at he
      rcases he with he | rfl | rfl
      · exact hu e he
      · exact .inr ⟨tx, htx, rfl⟩
      · exact .inr ⟨tx, htx, rfl⟩
    | mint =>
      simp only [hkind, bind_eq_ok_iff, pure_eq_ok, Except.ok.injEq] at happ
      obtain ⟨_, rfl, rfl⟩ := happ
      simp only [List.mem_append, List.mem_singleton] at he
      rcases he with he | rfl
      · exact hu e he
      · exact .inr ⟨tx, htx, rfl⟩
    | burn =>
      simp only [hkind, bind_eq_ok_iff, debit_eq_ok_iff, pure_eq_ok, Except.ok.injEq] at happ
      obtain ⟨_, ⟨_, rfl⟩, _, rfl, rfl⟩ := happ
      simp only [List.mem_append, List.mem_singleton] at he
      rcases he with he | rfl
      · exact hu e he
      · exact .inr ⟨tx, htx, rfl⟩

/-- A batch adds balance rows and loses none. -/
theorem applyTransactions_keeps_rows {ar : Arith} {l : InMemoryLedger} {height : Int} {d : Draws}
    {txs : List Transaction} {w w' : Working}
    (h : l.applyTransactions ar height d txs w = .ok w') {k : String × String}
    (hk : k ∈ w.balances.keys) : k ∈ w'.balances.keys := by
  refine applyTransactions_induct (P := fun _ u => k ∈ u.balances.keys) ?_ h hk
  intro d tx rest u u' _ happ hu
  unfold applyTransaction at happ
  cases hkind : tx.kind with
  | transfer =>
    simp only [hkind, bind_eq_ok_iff, debit_eq_ok_iff, pure_eq_ok, Except.ok.injEq] at happ
    obtain ⟨_, ⟨_, rfl⟩, _, rfl, rfl⟩ := happ
    exact HashMap.keys_insert_mem.mpr (.inr (HashMap.keys_insert_mem.mpr (.inr hu)))
  | mint =>
    simp only [hkind, bind_eq_ok_iff, pure_eq_ok, Except.ok.injEq] at happ
    obtain ⟨_, rfl, rfl⟩ := happ
    exact HashMap.keys_insert_mem.mpr (.inr hu)
  | burn =>
    simp only [hkind, bind_eq_ok_iff, debit_eq_ok_iff, pure_eq_ok, Except.ok.injEq] at happ
    obtain ⟨_, ⟨_, rfl⟩, _, rfl, rfl⟩ := happ
    exact HashMap.keys_insert_mem.mpr (.inr hu)

/-! ## A batch as a sequence of steps -/

/-- One transaction of a batch, its journal entries left out. -/
def settle (ar : Arith) (l : InMemoryLedger) (tx : Transaction)
    (s : HashMap (String × String) Int × HashMap String Int × HashMap String Int) :
    Except LedgerError (HashMap (String × String) Int × HashMap String Int × HashMap String Int) := do
  l.validateTransaction tx s.1 s.2.1 s.2.2
  (applyTransaction ar (fun _ => ⟨"", 0⟩) tx 0 ⟨s.1, s.2.1, s.2.2, []⟩).map Working.state

/-- The loop is a run of steps; uuids, clock and height reach the journal
only. -/
theorem applyTransactions_state (ar : Arith) (l : InMemoryLedger) (d : Draws) (h : Int)
    (txs : List Transaction) (w : Working) :
    (l.applyTransactions ar h d txs w).map Working.state =
      runSteps (l.settle ar) txs w.state := by
  induction txs generalizing d w with
  | nil => rfl
  | cons tx txs ih =>
    have hstep := applyTransaction_draws ar (d.sub 0) (fun _ => ⟨"", 0⟩) tx h 0
      (w := w) (v := ⟨w.balances, w.nonces, w.issued, []⟩) rfl
    simp only [applyTransactions, runSteps, settle, Working.state]
    cases l.validateTransaction tx w.balances w.nonces w.issued with
    | error e => rfl
    | ok u =>
      simp only [ok_bind]
      rw [← hstep]
      cases applyTransaction ar (d.sub 0) tx h w with
      | error e => rfl
      | ok w' => exact ih _ w'

/-- An accepted batch is a run of steps to where the loop ends. -/
theorem runSteps_of_applyTransactions {ar : Arith} {l : InMemoryLedger} {h : Int} {d : Draws}
    {txs : List Transaction} {w w' : Working} (hrun : l.applyTransactions ar h d txs w = .ok w') :
    runSteps (l.settle ar) txs w.state = .ok w'.state := by
  rw [← applyTransactions_state ar l d h txs w, hrun]
  rfl

/-- And a run of steps is an accepted batch, under any draws and height. -/
theorem applyTransactions_of_runSteps {ar : Arith} {l : InMemoryLedger} {txs : List Transaction}
    {w : Working} {s : HashMap (String × String) Int × HashMap String Int × HashMap String Int}
    (hrun : runSteps (l.settle ar) txs w.state = .ok s) (d : Draws) (h : Int) :
    ∃ w', l.applyTransactions ar h d txs w = .ok w' ∧ w'.state = s := by
  rw [← applyTransactions_state ar l d h txs w] at hrun
  cases hloop : l.applyTransactions ar h d txs w with
  | error e =>
    rw [hloop] at hrun
    cases hrun
  | ok w' =>
    rw [hloop] at hrun
    exact ⟨w', rfl, Except.ok.inj hrun⟩

/-- What the loop ends in, in success or in which error, is decided by the
steps. -/
theorem applyTransactions_unit (ar : Arith) (l : InMemoryLedger) (d : Draws) (h : Int)
    (txs : List Transaction) (w : Working) :
    (l.applyTransactions ar h d txs w).map (fun _ => ()) =
      (runSteps (l.settle ar) txs w.state).map (fun _ => ()) := by
  rw [← applyTransactions_state ar l d h txs w]
  cases l.applyTransactions ar h d txs w <;> rfl

theorem validateTransactionsForNextBlock_eq (ar : Arith) (d : Draws) (l : InMemoryLedger)
    (txs : List Transaction) :
    l.validateTransactionsForNextBlock ar d txs =
      (runSteps (l.settle ar) txs l.working.state).map fun _ => () := by
  rw [← applyTransactions_unit ar l d l.nextHeight]
  unfold validateTransactionsForNextBlock
  cases l.applyTransactions ar l.nextHeight d txs l.working <;> rfl

theorem validateTransactionsForNextBlock_draws (ar : Arith) (d d' : Draws) (l : InMemoryLedger)
    (txs : List Transaction) :
    l.validateTransactionsForNextBlock ar d txs = l.validateTransactionsForNextBlock ar d' txs := by
  rw [validateTransactionsForNextBlock_eq, validateTransactionsForNextBlock_eq]

/-- The dry run accepts the batch. -/
def Accepts (ar : Arith) (l : InMemoryLedger) (txs : List Transaction) : Prop :=
  ∀ d, l.validateTransactionsForNextBlock ar d txs = .ok ()

theorem accepts_iff {ar : Arith} {l : InMemoryLedger} {txs : List Transaction} (d : Draws) :
    Accepts ar l txs ↔ l.validateTransactionsForNextBlock ar d txs = .ok () :=
  ⟨fun h => h d, fun h d' => (validateTransactionsForNextBlock_draws ar d' d l txs).trans h⟩

instance (ar : Arith) (l : InMemoryLedger) (txs : List Transaction) : Decidable (Accepts ar l txs) :=
  decidable_of_iff _ (accepts_iff fun _ => ⟨"", 0⟩).symm

theorem accepts_iff_runSteps {ar : Arith} {l : InMemoryLedger} {txs : List Transaction} :
    Accepts ar l txs ↔ ∃ s, runSteps (l.settle ar) txs l.working.state = .ok s := by
  rw [accepts_iff fun _ => ⟨"", 0⟩, validateTransactionsForNextBlock_eq]
  cases runSteps (l.settle ar) txs l.working.state with
  | error e => simp [Except.map]
  | ok s => simp [Except.map]

theorem Accepts.of_append {ar : Arith} {l : InMemoryLedger} {xs ys : List Transaction}
    (h : Accepts ar l (xs ++ ys)) : Accepts ar l xs := by
  obtain ⟨s, hs⟩ := accepts_iff_runSteps.mp h
  rw [runSteps_append] at hs
  obtain ⟨s', hxs, -⟩ := bind_eq_ok_iff.mp hs
  exact accepts_iff_runSteps.mpr ⟨s', hxs⟩

/-- A step reads the accounts of the ledger and nothing else of it. -/
theorem settle_congr {ar : Arith} {l l' : InMemoryLedger} (haccounts : l'.accounts = l.accounts) :
    l'.settle ar = l.settle ar := by
  funext tx s
  simp only [settle, validateTransaction, haccounts]

theorem Accepts.congr {ar : Arith} {l l' : InMemoryLedger} {txs : List Transaction}
    (h : Accepts ar l txs) (haccounts : l'.accounts = l.accounts)
    (hworking : l'.working.state = l.working.state) : Accepts ar l' txs := by
  rw [accepts_iff_runSteps] at h ⊢
  rwa [settle_congr haccounts, hworking]

/-! ## Blocks -/

theorem finalizedRecords_transactions (height : Int) (hash : String) (d : Draws)
    (txs : List Transaction) :
    (finalizedRecords height hash d txs).map PaymentRecord.transaction = txs := by
  induction txs generalizing d with
  | nil => rfl
  | cons tx txs ih => exact congrArg (tx :: ·) (ih _)

/-- Every record of a finalized batch is `finalized` of a batch transaction. -/
theorem mem_finalizedRecords {height : Int} {hash : String} {d : Draws}
    {txs : List Transaction} {r : PaymentRecord} (h : r ∈ finalizedRecords height hash d txs) :
    ∃ tx ∈ txs, ∃ now, r = .finalized now tx height hash := by
  induction txs generalizing d with
  | nil => cases h
  | cons tx txs ih =>
    rcases List.mem_cons.mp h with rfl | h
    · exact ⟨tx, List.mem_cons_self, _, rfl⟩
    · obtain ⟨tx', hmem, now, rfl⟩ := ih h
      exact ⟨tx', List.mem_cons_of_mem _ hmem, now, rfl⟩

/-- Storing records: an id in the batch reads the last record of that id,
any other id what it read before. -/
theorem lookup_insertPayments (payments : HashMap String PaymentRecord)
    (rs : List PaymentRecord) (id : String) :
    (insertPayments payments rs).lookup id =
      ((rs.reverse.find? fun r => r.transaction.id = id).or (payments.lookup id)) := by
  induction rs generalizing payments with
  | nil => simp [insertPayments]
  | cons r rs ih =>
    have hstep : insertPayments payments (r :: rs) =
        insertPayments (payments.insert r.transaction.id r) rs := rfl
    rw [hstep, ih, HashMap.lookup_insert_eq, List.reverse_cons, List.find?_append, Option.or_assoc]
    by_cases hid : id = r.transaction.id
    · simp [hid]
    · have hid' : ¬ r.transaction.id = id := fun h => hid h.symm
      simp [hid, hid']

/-- What an accepted block did. -/
structure Applied (ar : Arith) (d : Draws) (l : InMemoryLedger) (block : Block)
    (l' : InMemoryLedger) (records : List PaymentRecord) : Prop where
  hash_set : block.hash.isEmpty = false
  height_next : block.height = l.nextHeight
  prev_last : block.prevHash = l.lastHash
  batch : l.applyTransactions ar block.height (d.sub 0) block.txs l.working = .ok l'.working
  records_eq : records = finalizedRecords block.height block.hash (d.sub 1) block.txs
  payments_eq : l'.payments = insertPayments l.payments records
  blocks_eq : l'.blocks = l.blocks ++ [block]
  audit_eq : ∃ event : AuditEvent, event.eventType = "BLOCK_FINALIZED" ∧
    event.blockHeight = some block.height ∧
    l'.auditEvents = l.auditEvents ++ finalizationEvents block.height (d.sub 2) records ++ [event]
  accounts_eq : l'.accounts = l.accounts
  institutions_eq : l'.institutions = l.institutions
  credentials_eq : l'.institutionCredentials = l.institutionCredentials
  limits_eq : l'.institutionLimits = l.institutionLimits
  cases_eq : l'.complianceCases = l.complianceCases

theorem applyBlock_eq_ok {ar : Arith} {d : Draws} {l l' : InMemoryLedger} {block : Block}
    {records : List PaymentRecord} (h : applyBlock ar d block l = (l', .ok records)) :
    Applied ar d l block l' records := by
  simp only [applyBlock, Method.get_bind] at h
  split at h
  · cases h
  rename_i hhash
  split at h
  · cases h
  rename_i hheight
  split at h
  · cases h
  rename_i hprev
  simp only [Method.bind_eq_ok_iff, Method.ofExcept_eq_ok_iff] at h
  obtain ⟨_, w, ⟨rfl, hw⟩, _, _, hset, hret⟩ := h
  cases hset
  cases hret
  exact {
    hash_set := by simpa using hhash
    height_next := by simpa using hheight
    prev_last := by simpa using hprev
    batch := hw
    records_eq := rfl
    payments_eq := rfl
    blocks_eq := rfl
    audit_eq := ⟨_, rfl, rfl, rfl⟩
    accounts_eq := rfl
    institutions_eq := rfl
    credentials_eq := rfl
    limits_eq := rfl
    cases_eq := rfl }

/-- A block that extends the ledger and passes the dry run can only be
refused for want of a hash. -/
theorem applyBlock_error_of_accepts {ar : Arith} {d : Draws} {l l' : InMemoryLedger}
    {block : Block} {e : LedgerError} (hvalid : Accepts ar l block.txs)
    (hheight : block.height = l.nextHeight) (hprev : block.prevHash = l.lastHash)
    (h : applyBlock ar d block l = (l', .error e)) : e = .missingBlockHash := by
  simp only [applyBlock, Method.get_bind] at h
  split at h
  · cases h
    rfl
  rw [if_neg (not_not.mpr hheight), if_neg (not_not.mpr hprev)] at h
  obtain ⟨w, hw, -⟩ := bind_eq_ok_iff.mp (hvalid (d.sub 0))
  rw [hheight, hw] at h
  cases h

theorem applyBlock_commits (ar : Arith) (d : Draws) (block : Block) :
    (applyBlock ar d block).Commits := by
  refine .get_bind fun l => ?_
  split
  · exact .throw _
  split
  · exact .throw _
  split
  · exact .throw _
  exact .ofExcept_bind fun w => .of_ok fun _ => ⟨_, rfl⟩

/-! ## Administration and compliance -/

theorem getInstitution_eq_ok_iff {l : InMemoryLedger} {id : String} {i : Institution} :
    l.getInstitution id = .ok i ↔ l.institutions.lookup id = some i := by
  unfold getInstitution
  cases l.institutions.lookup id <;> simp

theorem getPayment_eq_ok_iff {l : InMemoryLedger} {id : String} {p : PaymentRecord} :
    l.getPayment id = .ok p ↔ l.payments.lookup id = some p := by
  unfold getPayment
  cases l.payments.lookup id <;> simp

theorem getComplianceCase_eq_ok_iff {l : InMemoryLedger} {id : String} {c : ComplianceCase} :
    l.getComplianceCase id = .ok c ↔ l.complianceCases.lookup id = some c := by
  unfold getComplianceCase
  cases l.complianceCases.lookup id <;> simp

theorem ensureCaseNotTerminal_eq_ok_iff {c : ComplianceCase} {u : Unit} :
    ensureCaseNotTerminal c = .ok u ↔ c.status.isTerminal = false := by
  unfold ensureCaseNotTerminal
  split <;> simp_all

theorem suspendInstitution_commits (now : DateTime) (id : String) :
    (suspendInstitution now id).Commits :=
  .get_bind fun _ => .ofExcept_bind fun _ => .of_ok fun _ => ⟨_, rfl⟩

theorem upsertInstitutionLimit_commits (limit : InstitutionLimit) :
    (upsertInstitutionLimit limit).Commits :=
  .get_bind fun _ => .ofExcept_bind fun _ => .of_ok fun _ => ⟨_, rfl⟩

theorem addInstitutionCredential_commits (credential : InstitutionCredential) :
    (addInstitutionCredential credential).Commits :=
  .get_bind fun _ => .ofExcept_bind fun _ => .of_ok fun _ => ⟨_, rfl⟩

theorem approveComplianceCase_commits (d : Draws) (id : String)
    (reviewer reason : Option String) : (approveComplianceCase d id reviewer reason).Commits :=
  .get_bind fun _ => .ofExcept_bind fun _ => .ofExcept_bind fun _ => .ofExcept_bind fun _ =>
    .of_ok fun _ => ⟨_, rfl⟩

theorem rejectComplianceCase_commits (d : Draws) (id : String)
    (reviewer reason : Option String) : (rejectComplianceCase d id reviewer reason).Commits :=
  .get_bind fun _ => .ofExcept_bind fun _ => .ofExcept_bind fun _ => .ofExcept_bind fun _ =>
    .of_ok fun _ => ⟨_, rfl⟩

theorem suspendInstitution_eq_ok {now : DateTime} {id : String} {l l' : InMemoryLedger}
    {i : Institution} (h : suspendInstitution now id l = (l', .ok i)) :
    ∃ old, l.institutions.lookup id = some old ∧ i = old.suspended now ∧
      l' = l.upsertInstitution i := by
  simp only [suspendInstitution, Method.get_bind, Method.bind_eq_ok_iff,
    Method.ofExcept_eq_ok_iff, getInstitution_eq_ok_iff] at h
  obtain ⟨_, old, ⟨rfl, hold⟩, _, _, hmod, hret⟩ := h
  cases hmod
  cases hret
  exact ⟨old, hold, rfl, rfl⟩

theorem upsertInstitutionLimit_eq_ok {limit limit' : InstitutionLimit} {l l' : InMemoryLedger}
    (h : upsertInstitutionLimit limit l = (l', .ok limit')) :
    (∃ i, l.institutions.lookup limit.institutionId = some i) ∧ limit' = limit ∧
      l' = { l with
        institutionLimits :=
          l.institutionLimits.insert (limit.institutionId, limit.asset) limit } := by
  simp only [upsertInstitutionLimit, Method.get_bind, Method.bind_eq_ok_iff,
    Method.ofExcept_eq_ok_iff, getInstitution_eq_ok_iff] at h
  obtain ⟨_, i, ⟨rfl, hi⟩, _, _, hmod, hret⟩ := h
  cases hmod
  cases hret
  exact ⟨⟨i, hi⟩, rfl, rfl⟩

theorem addInstitutionCredential_eq_ok {c c' : InstitutionCredential} {l l' : InMemoryLedger}
    (h : addInstitutionCredential c l = (l', .ok c')) :
    (∃ i, l.institutions.lookup c.institutionId = some i) ∧ c' = c ∧
      l' = { l with institutionCredentials := l.institutionCredentials.insert c.id c } := by
  simp only [addInstitutionCredential, Method.get_bind, Method.bind_eq_ok_iff,
    Method.ofExcept_eq_ok_iff, getInstitution_eq_ok_iff] at h
  obtain ⟨_, i, ⟨rfl, hi⟩, _, _, hmod, hret⟩ := h
  cases hmod
  cases hret
  exact ⟨⟨i, hi⟩, rfl, rfl⟩

/-- An approval found an open case and its payment. -/
theorem approveComplianceCase_eq_ok {l l' : InMemoryLedger} {d : Draws} {id : String}
    {reviewer reason : Option String} {r : ComplianceCase × PaymentRecord}
    (h : approveComplianceCase d id reviewer reason l = (l', .ok r)) :
    ∃ c p, l.complianceCases.lookup id = some c ∧ c.status.isTerminal = false ∧
      l.payments.lookup c.paymentId = some p ∧
      r = (c.approved (d.sub 1).stamp.now reviewer reason, p.markPending (d.sub 0).stamp.now) ∧
      l' = l.filePaymentAndCase r.2 r.1 := by
  simp only [approveComplianceCase, Method.get_bind, Method.bind_eq_ok_iff,
    Method.ofExcept_eq_ok_iff, getComplianceCase_eq_ok_iff, getPayment_eq_ok_iff] at h
  obtain ⟨_, c, ⟨rfl, hc⟩, _, _, ⟨rfl, hopen⟩, _, p, ⟨rfl, hp⟩, _, _, hmod, hret⟩ := h
  cases hmod
  cases hret
  exact ⟨c, p, hc, ensureCaseNotTerminal_eq_ok_iff.mp hopen, hp, rfl, rfl⟩

/-- A rejection found an open case and its payment. -/
theorem rejectComplianceCase_eq_ok {l l' : InMemoryLedger} {d : Draws} {id : String}
    {reviewer reason : Option String} {r : ComplianceCase × PaymentRecord}
    (h : rejectComplianceCase d id reviewer reason l = (l', .ok r)) :
    ∃ c p, l.complianceCases.lookup id = some c ∧ c.status.isTerminal = false ∧
      l.payments.lookup c.paymentId = some p ∧
      r = (c.rejected (d.sub 1).stamp.now reviewer reason,
        p.markRejected (d.sub 0).stamp.now (reason.getD "compliance case rejected")) ∧
      l' = l.filePaymentAndCase r.2 r.1 := by
  simp only [rejectComplianceCase, Method.get_bind, Method.bind_eq_ok_iff,
    Method.ofExcept_eq_ok_iff, getComplianceCase_eq_ok_iff, getPayment_eq_ok_iff] at h
  obtain ⟨_, c, ⟨rfl, hc⟩, _, _, ⟨rfl, hopen⟩, _, p, ⟨rfl, hp⟩, _, _, hmod, hret⟩ := h
  cases hmod
  cases hret
  exact ⟨c, p, hc, ensureCaseNotTerminal_eq_ok_iff.mp hopen, hp, rfl, rfl⟩

end InMemoryLedger

end KaniNetwork
