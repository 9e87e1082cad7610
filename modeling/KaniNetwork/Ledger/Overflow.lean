/-
KaniNetwork.Ledger.Overflow — when `i128` arithmetic stays exact.

A release build wraps: no check bounds an amount or an accumulated total,
so a mint can push the issued amount and the balance it credits past
`i128::MAX`, and the stored value turns negative. Nothing else can. Where
every mint fits on top of what is already issued of its asset
(`MintsFit`), every other addition is bounded by the issuance, because no
account holds more than was issued (`Conserved.balance_le_issued`).

`arithmetic_inRange_iff` is the step, `batchInRange_iff` the loop of a
block, `runInRange_iff` the run of blocks.
-/
import KaniNetwork.Ledger.Conservation

namespace KaniNetwork

open InMemoryLedger

def I128_MAX : Int := 2 ^ 127 - 1

/-- The values of the type `i128`. -/
def InI128 (n : Int) : Prop := -2 ^ 127 ≤ n ∧ n ≤ I128_MAX

instance (n : Int) : Decidable (InI128 n) := inferInstanceAs (Decidable (_ ∧ _))

/-- In range, wrapping arithmetic is exact. -/
theorem Arith.norm_wrapping {n : Int} (h : InI128 n) : Arith.wrapping.norm n = n := by
  unfold InI128 I128_MAX at h
  exact Int.bmod_eq_of_le_mul_two (by omega) (by omega)

/-- The integer results of the additions and subtractions that
`apply_transaction` does on the stored values, in its order. -/
def Transaction.arithmetic (tx : Transaction) (w : Working) : List Int :=
  match tx.kind with
  | .transfer =>
    let debited := w.balance tx.fromAccount tx.asset - tx.amount
    let balances := w.balances.insert (tx.fromAccount, tx.asset) (Arith.wrapping.norm debited)
    [debited, balanceFrom balances tx.toAccount tx.asset + tx.amount]
  | .mint => [w.balance tx.toAccount tx.asset + tx.amount, w.issuedOf tx.asset + tx.amount]
  | .burn => [w.balance tx.fromAccount tx.asset - tx.amount, w.issuedOf tx.asset - tx.amount]

/-- No operation of the transaction leaves the range. -/
def Transaction.InRange (tx : Transaction) (w : Working) : Prop :=
  ∀ n ∈ tx.arithmetic w, InI128 n

/-- No operation of a batch leaves the range, each transaction read on the
values the wrapping arithmetic stored before it. -/
def BatchInRange (height : Int) : Draws → List Transaction → Working → Prop
  | _, [], _ => True
  | d, tx :: txs, w => tx.InRange w ∧
    ∀ w', applyTransaction .wrapping (d.sub 0) tx height w = .ok w' →
      BatchInRange height (d.sub 1) txs w'

/-- Apply a sequence of blocks, all of which have to be accepted. -/
def InMemoryLedger.acceptBlocks (ar : Arith) (l : InMemoryLedger) :
    List (Draws × Block) → Except LedgerError InMemoryLedger
  | [] => .ok l
  | (d, block) :: rest =>
    match applyBlock ar d block l with
    | (l', .ok _) => l'.acceptBlocks ar rest
    | (_, .error e) => .error e

/-- No operation of a run of blocks leaves the range. -/
def RunInRange : InMemoryLedger → List (Draws × Block) → Prop
  | _, [] => True
  | l, (d, block) :: rest => BatchInRange block.height (d.sub 0) block.txs l.working ∧
    ∀ l' records, applyBlock .wrapping d block l = (l', .ok records) → RunInRange l' rest

/-! ## Totals -/

/-- The issued amount a history of transactions adds up to. -/
def issuedTotal (txs : List Transaction) (s : String) : Int :=
  (txs.map fun tx => tx.issuedDelta s).sum

/-- The balance a history of transactions adds up to. -/
def balanceTotal (txs : List Transaction) (a s : String) : Int :=
  (txs.map fun tx => tx.balanceDelta a s).sum

/-- Every mint of `txs` fits on top of what is issued before it. -/
def MintsFit : List Transaction → List Transaction → Prop
  | _, [] => True
  | past, tx :: txs =>
    (tx.kind = .mint → issuedTotal past tx.asset + tx.amount ≤ I128_MAX) ∧
      MintsFit (past ++ [tx]) txs

theorem mintsFit_append (past xs ys : List Transaction) :
    MintsFit past (xs ++ ys) ↔ MintsFit past xs ∧ MintsFit (past ++ xs) ys := by
  induction xs generalizing past with
  | nil => simp [MintsFit]
  | cons tx xs ih =>
    simp only [List.cons_append, MintsFit, ih, and_assoc, List.append_assoc, List.nil_append]

/-- The stored values are the exact sums of the history `past`, and no
issued amount is out of range. -/
structure Exact (ids : Finset String) (past : List Transaction) (w : Working) : Prop where
  conserved : Conserved ids w
  balance : ∀ a s, w.balance a s = balanceTotal past a s
  issued : ∀ s, w.issuedOf s = issuedTotal past s
  bounded : ∀ s, issuedTotal past s ≤ I128_MAX

/-! ## One transaction -/

/-- Where no operation leaves the range, wrapping arithmetic is exact. -/
theorem applyTransaction_of_inRange {tx : Transaction} {w : Working} (h : tx.InRange w)
    (d : Draws) (height : Int) :
    applyTransaction .wrapping d tx height w = applyTransaction .exact d tx height w := by
  unfold Transaction.InRange Transaction.arithmetic at h
  unfold applyTransaction
  cases hk : tx.kind with
  | transfer =>
    simp only [hk, List.mem_cons, List.not_mem_nil, or_false, forall_eq_or_imp,
      forall_eq, Working.balance] at h
    obtain ⟨hdebit, hcredit⟩ := h
    rw [Arith.norm_wrapping hdebit] at hcredit
    simp only [debit, credit, Arith.norm_wrapping hdebit, bind_assoc, pure_bind, Arith.norm_exact,
      Arith.norm_wrapping hcredit]
  | mint =>
    simp only [hk, List.mem_cons, List.not_mem_nil, or_false, forall_eq_or_imp,
      forall_eq, Working.balance, Working.issuedOf] at h
    simp only [credit, Arith.norm_wrapping h.1, Arith.norm_wrapping h.2, Arith.norm_exact]
  | burn =>
    simp only [hk, List.mem_cons, List.not_mem_nil, or_false, forall_eq_or_imp,
      forall_eq, Working.balance, Working.issuedOf] at h
    simp only [debit, Arith.norm_wrapping h.1, Arith.norm_wrapping h.2, Arith.norm_exact]

/-- An accepted transaction on exactly stored values stays in range exactly
when it is not a mint that overflows the issuance. -/
theorem arithmetic_inRange_iff {l : InMemoryLedger} {past : List Transaction} {tx : Transaction}
    {w : Working} (hadm : l.Admissible tx w.balances w.nonces w.issued)
    (h : Exact l.accountIds past w) :
    tx.InRange w ↔ (tx.kind = .mint → issuedTotal past tx.asset + tx.amount ≤ I128_MAX) := by
  have hpos := hadm.amount_pos
  have hfund : tx.kind ≠ .mint → tx.amount ≤ w.balance tx.fromAccount tx.asset := hadm.funded
  have hcover : tx.kind = .burn → tx.amount ≤ w.issuedOf tx.asset := hadm.issued_covers
  have hbound := h.bounded tx.asset
  have hissued := h.issued tx.asset
  have hfrom := h.conserved.balance_le_issued tx.fromAccount tx.asset
  have hto := h.conserved.balance_le_issued tx.toAccount tx.asset
  have hto0 := h.conserved.nonneg tx.toAccount tx.asset
  have hiss0 := h.conserved.issued_nonneg tx.asset
  unfold Transaction.InRange Transaction.arithmetic
  cases hk : tx.kind with
  | mint =>
    simp only [List.mem_cons, List.not_mem_nil, or_false, forall_eq_or_imp, forall_eq, InI128,
      true_imp_iff]
    omega
  | burn =>
    have hamount := hfund (by simp [hk])
    have hburn := hcover hk
    simp only [List.mem_cons, List.not_mem_nil, or_false, forall_eq_or_imp, forall_eq, InI128,
      reduceCtorEq, false_imp_iff, iff_true]
    omega
  | transfer =>
    have hamount := hfund (by simp [hk])
    have hdebit : InI128 (w.balance tx.fromAccount tx.asset - tx.amount) := by
      unfold InI128
      omega
    have hcredit : InI128 (balanceFrom (w.balances.insert (tx.fromAccount, tx.asset)
        (w.balance tx.fromAccount tx.asset - tx.amount)) tx.toAccount tx.asset + tx.amount) := by
      unfold InI128
      rw [balanceFrom_insert]
      split
      · omega
      · rename_i hne
        have hpair := h.conserved.pair_le_issued (a := tx.fromAccount) (b := tx.toAccount)
          (fun heq => hne ⟨heq.symm, rfl⟩) tx.asset
        have htoeq : balanceFrom w.balances tx.toAccount tx.asset =
          w.balance tx.toAccount tx.asset := rfl
        omega
    simp only [List.mem_cons, List.not_mem_nil, or_false, forall_eq_or_imp, forall_eq, reduceCtorEq,
      false_imp_iff, iff_true, Arith.norm_wrapping hdebit]
    exact ⟨hdebit, hcredit⟩

/-- A transaction in range keeps the stored values exact. -/
theorem exact_applyTransaction {l : InMemoryLedger} {past : List Transaction} {d : Draws}
    {tx : Transaction} {height : Int} {w w' : Working}
    (hadm : l.Admissible tx w.balances w.nonces w.issued) (h : Exact l.accountIds past w)
    (hrange : tx.InRange w) (happ : applyTransaction .wrapping d tx height w = .ok w') :
    Exact l.accountIds (past ++ [tx]) w' := by
  have hfit := (arithmetic_inRange_iff hadm h).mp hrange
  rw [applyTransaction_of_inRange hrange] at happ
  have heff := applyTransaction_exact happ
  refine ⟨conserved_applyTransaction hadm happ h.conserved, fun a s => ?_, fun s => ?_, fun s => ?_⟩
  · simp [heff.balance, h.balance, balanceTotal]
  · simp [heff.issued, h.issued, issuedTotal]
  · have hbound := h.bounded s
    have hpos := hadm.amount_pos
    simp only [issuedTotal, List.map_append, List.sum_append, List.map_cons, List.map_nil,
      List.sum_cons, List.sum_nil, add_zero, Transaction.issuedDelta] at hbound hfit ⊢
    split
    · rename_i hs
      subst hs
      cases hk : tx.kind with
      | mint => exact hfit hk
      | burn => simp only; omega
      | transfer => simp only; omega
    · omega

/-! ## One block -/

/-- On exactly stored values a batch stays in range exactly when its mints
fit, and then it stores exact values, the ones exact arithmetic stores. -/
theorem batchInRange_iff {l : InMemoryLedger} {height : Int} {past txs : List Transaction}
    {d : Draws} {w w' : Working} (h : Exact l.accountIds past w)
    (hrun : l.applyTransactions .wrapping height d txs w = .ok w') :
    (BatchInRange height d txs w ↔ MintsFit past txs) ∧
      (MintsFit past txs → Exact l.accountIds (past ++ txs) w') := by
  induction txs generalizing past d w with
  | nil =>
    cases hrun
    exact ⟨Iff.rfl, fun _ => by rwa [List.append_nil]⟩
  | cons tx txs ih =>
    simp only [applyTransactions, bind_eq_ok_iff] at hrun
    obtain ⟨_, hval, w₁, happ, hrest⟩ := hrun
    have hadm := validateTransaction_eq_ok_iff.mp hval
    have hfit := arithmetic_inRange_iff hadm h
    refine ⟨⟨?_, ?_⟩, ?_⟩
    · rintro ⟨hrange, htail⟩
      have h₁ := exact_applyTransaction hadm h hrange happ
      exact ⟨hfit.mp hrange, (ih h₁ hrest).1.mp (htail _ happ)⟩
    · rintro ⟨hmint, htail⟩
      have hrange := hfit.mpr hmint
      refine ⟨hrange, fun w₂ happ' => ?_⟩
      have hw : w₁ = w₂ := Except.ok.inj (happ.symm.trans happ')
      subst hw
      exact (ih (exact_applyTransaction hadm h hrange happ) hrest).1.mpr htail
    · rintro ⟨hmint, htail⟩
      have h₁ := exact_applyTransaction hadm h (hfit.mpr hmint) happ
      have := (ih h₁ hrest).2 htail
      rwa [List.append_assoc] at this

/-! ## Runs of blocks -/

/-- The transactions of a run, in order. -/
def runTransactions (run : List (Draws × Block)) : List Transaction :=
  run.flatMap fun e => e.2.txs

/-- The same for a run of accepted blocks. -/
theorem runInRange_iff {l l' : InMemoryLedger} {past : List Transaction}
    {run : List (Draws × Block)} (h : Exact l.accountIds past l.working)
    (haccept : l.acceptBlocks .wrapping run = .ok l') :
    (RunInRange l run ↔ MintsFit past (runTransactions run)) ∧
      (MintsFit past (runTransactions run) →
        Exact l'.accountIds (past ++ runTransactions run) l'.working) := by
  induction run generalizing past l with
  | nil =>
    cases haccept
    exact ⟨Iff.rfl, fun _ => by simpa [runTransactions] using h⟩
  | cons e rest ih =>
    obtain ⟨d, block⟩ := e
    simp only [acceptBlocks] at haccept
    split at haccept
    · rename_i l₁ records happ
      have hApplied := applyBlock_eq_ok happ
      have hids : l₁.accountIds = l.accountIds := by simp only [accountIds, hApplied.accounts_eq]
      obtain ⟨hbatch, hexact⟩ := batchInRange_iff h hApplied.batch
      have htxs : runTransactions ((d, block) :: rest) = block.txs ++ runTransactions rest := rfl
      rw [htxs, mintsFit_append]
      have htail : MintsFit past block.txs →
          (RunInRange l₁ rest ↔ MintsFit (past ++ block.txs) (runTransactions rest)) ∧
            (MintsFit (past ++ block.txs) (runTransactions rest) →
              Exact l'.accountIds (past ++ block.txs ++ runTransactions rest) l'.working) := by
        intro hfit
        have hexact' := hexact hfit
        rw [← hids] at hexact'
        exact ih hexact' haccept
      refine ⟨⟨?_, ?_⟩, ?_⟩
      · rintro ⟨hin, hrun⟩
        have hfit := hbatch.mp hin
        exact ⟨hfit, (htail hfit).1.mp (hrun l₁ records happ)⟩
      · rintro ⟨hfit, hrun⟩
        refine ⟨hbatch.mpr hfit, fun l₂ records' happ' => ?_⟩
        have hl : l₁ = l₂ := congrArg Prod.fst (happ.symm.trans happ')
        subst hl
        exact (htail hfit).1.mpr hrun
      · rintro ⟨hfit, hrun⟩
        rw [← List.append_assoc]
        exact (htail hfit).2 hrun
    · cases haccept

theorem exact_sandbox (d : Draws) : Exact (sandbox d).accountIds [] (sandbox d).working := by
  have hsound := sound_sandbox d
  have hissued : ∀ s, (sandbox d).working.issuedOf s = 0 := by
    intro s
    simp [Working.issuedOf, working]
  have hbound : (0 : Int) ≤ I128_MAX := by decide
  refine ⟨hsound.conserved, fun a s => ?_, hissued, fun s => hbound⟩
  -- nothing is issued, so nobody holds anything
  have hle := hsound.conserved.balance_le_issued a s
  have hnonneg := hsound.conserved.nonneg a s
  rw [hissued] at hle
  exact Int.le_antisymm hle hnonneg

/-- Every operation of the run is exact: none leaves the range, the stored
values are the integer sums of the run, and nothing is negative. -/
structure RunExact (l : InMemoryLedger) (run : List (Draws × Block)) (l' : InMemoryLedger) :
    Prop where
  in_range : RunInRange l run
  balance : ∀ a s, l'.balance a s = balanceTotal (runTransactions run) a s
  issued : ∀ s, l'.issuedOf s = issuedTotal (runTransactions run) s
  balance_nonneg : ∀ a s, 0 ≤ l'.balance a s
  issued_nonneg : ∀ s, 0 ≤ l'.issuedOf s

/-- A run of accepted blocks from the sandbox is exact if and only if each
of its mints fits on top of what the run has issued of its asset before. -/
theorem runExact_iff {d : Draws} {run : List (Draws × Block)} {l : InMemoryLedger}
    (haccept : (sandbox d).acceptBlocks .wrapping run = .ok l) :
    RunExact (sandbox d) run l ↔ MintsFit [] (runTransactions run) := by
  obtain ⟨hiff, hexact⟩ := runInRange_iff (exact_sandbox d) haccept
  constructor
  · exact fun h => hiff.mp h.in_range
  · intro hfit
    have h := hexact hfit
    exact {
      in_range := hiff.mpr hfit
      balance := h.balance
      issued := h.issued
      balance_nonneg := h.conserved.nonneg
      issued_nonneg := h.conserved.issued_nonneg }

/-- A block that mints `amount` of `KCAD_TEST` to `CORP_A`. -/
def mintBlock (height : Int) (prevHash hash : String) (amount : Int) : Block where
  height := height
  prevHash := prevHash
  txs := [.newMint ⟨hash ++ "-tx", height⟩ SANDBOX_TREASURY_ACCOUNT SANDBOX_CORP_A_ACCOUNT
    KCAD_TEST amount height]
  validator := "validator-a"
  signature := []
  hash := hash
  finalizedBy := []
  createdAt := height

/-- Two mints, the second of `amount`, after one of `first`. -/
def twoMints (first amount : Int) : List (Draws × Block) :=
  [(.numbered "b1" 1, mintBlock 1 GENESIS_HASH "h1" first),
    (.numbered "b2" 2, mintBlock 2 "h1" "h2" amount)]

/-- The balance of `CORP_A` after an accepted run. -/
def corpABalanceAfter (run : List (Draws × Block)) : Option Int :=
  ((sandbox (.numbered "s" 0)).acceptBlocks .wrapping run).toOption.map fun l =>
    l.balance SANDBOX_CORP_A_ACCOUNT KCAD_TEST

/-- `i128::MAX` and then one more: both mints are accepted, and the balance
and the issued amount are `i128::MIN`. -/
theorem mint_past_max : ∃ l,
    (sandbox (.numbered "s" 0)).acceptBlocks .wrapping (twoMints I128_MAX 1) = .ok l ∧
      (∀ tx ∈ runTransactions (twoMints I128_MAX 1), 0 < tx.amount ∧ InI128 tx.amount) ∧
      l.balance SANDBOX_CORP_A_ACCOUNT KCAD_TEST = -2 ^ 127 ∧
      ¬ RunExact (sandbox (.numbered "s" 0)) (twoMints I128_MAX 1) l := by
  have hbal : corpABalanceAfter (twoMints I128_MAX 1) = some (-2 ^ 127) := by decide +kernel
  unfold corpABalanceAfter at hbal
  cases hrun : (sandbox (.numbered "s" 0)).acceptBlocks .wrapping (twoMints I128_MAX 1) with
  | error e => simp [hrun, Except.toOption] at hbal
  | ok l =>
    simp only [hrun, Except.toOption, Option.map_some, Option.some.injEq] at hbal
    refine ⟨l, rfl, by decide +kernel, hbal, fun hexact => ?_⟩
    have hnonneg := hexact.balance_nonneg SANDBOX_CORP_A_ACCOUNT KCAD_TEST
    omega

/-- Two small mints fit, so the run is exact. -/
theorem small_mints_exact : ∃ l,
    (sandbox (.numbered "s" 0)).acceptBlocks .wrapping (twoMints 100 1) = .ok l ∧
      RunExact (sandbox (.numbered "s" 0)) (twoMints 100 1) l := by
  have hok : (corpABalanceAfter (twoMints 100 1)).isSome := by decide +kernel
  unfold corpABalanceAfter at hok
  cases hrun : (sandbox (.numbered "s" 0)).acceptBlocks .wrapping (twoMints 100 1) with
  | error e => simp [hrun, Except.toOption] at hok
  | ok l => exact ⟨l, rfl, (runExact_iff hrun).mpr ⟨by decide, by decide, trivial⟩⟩

end KaniNetwork
