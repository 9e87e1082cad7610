/-
KaniNetwork.Validator.PoisonBlock — whether a block that was applied can be
stored.

The ledger computes in `i128`, the columns hold less. What a pass saves
beside the balances of its block comes from rows or from the queue, and
those are in range; so a save is refused for a number only when a credited
balance outgrows its column (`BlockFits`). In a run without such a save no
pass ends with a number refused (`no_poison_block`). Where one is refused
the transactions stay PENDING, and the next pass of the leader selects and
saves them again (`poison_block`).
-/
import KaniNetwork.Validator.ChainInvariant

namespace KaniNetwork

open InMemoryLedger

/-! ## Blocks that fit -/

/-- Every account the block credits keeps a balance below `10 ^ 38`. -/
def BlockFits (block : Block) (db : Database) : Prop :=
  ∀ tx ∈ block.txs, db.balance tx.toAccount tx.asset +
    (block.txs.map fun t => t.balanceDelta tx.toAccount tx.asset).sum < 10 ^ 38

instance (block : Block) (db : Database) : Decidable (BlockFits block db) :=
  inferInstanceAs (Decidable (∀ tx ∈ block.txs, _ < _))

/-- A save writes its last block where it fits; the other commands are free. -/
def SavesFit (c : Sql) (db : Database) : Prop :=
  ∀ snapshot ∈ c.saved?, ∀ block ∈ snapshot.blocks.getLast?, BlockFits block db

instance (c : Sql) (db : Database) : Decidable (SavesFit c db) :=
  inferInstanceAs (Decidable (∀ snapshot ∈ c.saved?, ∀ block ∈ snapshot.blocks.getLast?, _))

theorem Database.InRange.balance_ok {db : Database} (h : db.InRange) (a s : String) :
    BalanceOk (db.balance a s) := by
  unfold Database.balance
  cases hb : db.balances.find? (a, s) with
  | none => exact ⟨le_refl 0, by decide⟩
  | some b => exact h.balances.find? hb

/-- What does not credit an account takes from it. -/
theorem sum_balanceDelta_nonpos {txs : List Transaction} (hpos : ∀ tx ∈ txs, 0 < tx.amount)
    {a s : String} (h : ∀ tx ∈ txs, ¬ (a = tx.toAccount ∧ s = tx.asset)) :
    (txs.map fun tx => tx.balanceDelta a s).sum ≤ 0 := by
  induction txs with
  | nil => exact le_refl 0
  | cons tx txs ih =>
    have hrest := ih (fun t ht => hpos t (List.mem_cons_of_mem _ ht))
      fun t ht => h t (List.mem_cons_of_mem _ ht)
    have hamount := hpos tx List.mem_cons_self
    have hdelta : tx.balanceDelta a s ≤ 0 := by
      unfold Transaction.balanceDelta
      rw [if_neg fun hcredit : tx.kind ≠ .burn ∧ a = tx.toAccount ∧ s = tx.asset =>
        h tx List.mem_cons_self hcredit.2]
      split <;> omega
    rw [List.map_cons, List.sum_cons]
    omega

/-- A block that fits leaves no balance above the range. -/
theorem BlockFits.balance_lt {block : Block} {db : Database} (h : BlockFits block db)
    (hdb : db.InRange) (hpos : ∀ tx ∈ block.txs, 0 < tx.amount) (a s : String) :
    db.balance a s + (block.txs.map fun tx => tx.balanceDelta a s).sum < 10 ^ 38 := by
  by_cases hcredit : ∃ tx ∈ block.txs, a = tx.toAccount ∧ s = tx.asset
  · obtain ⟨tx, htx, rfl, rfl⟩ := hcredit
    exact h tx htx
  · have hsum := sum_balanceDelta_nonpos hpos fun tx htx heq => hcredit ⟨tx, htx, heq⟩
    have hstored := (hdb.balance_ok a s).2
    omega

/-! ## What a pass loads and saves -/

/-- What a loaded snapshot carries beside its balances. -/
structure LoadedInRange (snapshot : LedgerSnapshot) : Prop where
  limits : ∀ l ∈ snapshot.institutionLimits, l.InRange
  payments : ∀ p ∈ snapshot.payments, AmountOk p.transaction.amount
  journalEntries : ∀ e ∈ snapshot.journalEntries, AmountOk e.amount

theorem loadedInRange_of_load {ar : Arith} {P : Database → Prop} {snapshot : LedgerSnapshot}
    (h : LoadedFrom ar P snapshot) (hP : ∀ u, P u → u.InRange) : LoadedInRange snapshot := by
  obtain ⟨u, hu, hlimits⟩ := h.institutionLimits
  obtain ⟨w, hw, hpayments⟩ := h.payments
  obtain ⟨x, hx, hjournal⟩ := h.journalEntries
  refine ⟨?_, ?_, ?_⟩
  · intro l hl
    rw [hlimits, Database.limitRows, List.mem_insertionSort] at hl
    exact (hP u hu).limits l hl
  · intro p hp
    rw [hpayments] at hp
    obtain ⟨r, hr, rfl⟩ := Database.mem_payments.mp hp
    exact (hP w hw).transactions r hr
  · intro e he
    rw [hjournal, Database.journalRows, List.mem_insertionSort] at he
    exact (hP x hx).journalEntries e he

namespace SavePoint

variable {ar : Arith} {v : ValidatorRuntime} {snapshot : LedgerSnapshot} {accepted : List Transaction}
  {block : Block} {final : InMemoryLedger} {db : Database}
  (h : SavePoint ar v snapshot accepted block final db) (hdb : db.InRange)
  (hrange : LoadedInRange snapshot)

include h hdb in
theorem amountOk {tx : Transaction} (htx : tx ∈ accepted) : AmountOk tx.amount := by
  obtain ⟨r, hr, rfl, -⟩ := h.selected.rows tx htx
  exact hdb.transactions.find? hr

include h hdb in
/-- A saved balance is the stored one and what the block adds. -/
theorem final_balance (a s : String) :
    final.balance a s =
        ar.norm (db.balance a s + (accepted.map fun tx => tx.balanceDelta a s).sum) ∧
      0 ≤ db.balance a s + (accepted.map fun tx => tx.balanceDelta a s).sum := by
  obtain ⟨draws, records, happ⟩ := h.block.applied
  have hbatch := happ.batch
  rw [h.arith, h.block.txs] at hbatch
  have hworking : ∀ a s, (fromSnapshot snapshot).working.balance a s = db.balance a s :=
    h.loaded.balances
  have hnormal : ∀ a s, ar.norm ((fromSnapshot snapshot).working.balance a s) =
      (fromSnapshot snapshot).working.balance a s := by
    intro a s
    rw [hworking, h.sound.balances, Arith.norm_norm]
  have hnonneg : ∀ a s, 0 ≤ (fromSnapshot snapshot).working.balance a s := by
    intro a s
    rw [hworking]
    exact (hdb.balance_ok a s).1
  rw [← hworking]
  exact ⟨applyTransactions_norm hbatch hnormal a s,
    applyTransactions_sum_nonneg hbatch hnormal hnonneg a s⟩

include h hdb hrange in
/-- Of the numbers a pass saves only the balances can be out of range. -/
theorem inRange_iff_balances :
    final.snapshot.InRange ↔ ∀ b ∈ final.snapshot.balances, BalanceOk b.amount := by
  refine ⟨fun hfinal => hfinal.balances, fun hbalances => ⟨?_, hbalances, ?_, ?_⟩⟩
  · intro l hl
    obtain ⟨draws, records, happ⟩ := h.block.applied
    obtain ⟨k, hk⟩ := HashMap.mem_values.mp hl
    rw [happ.limits_eq] at hk
    obtain ⟨l', hl', heq⟩ := List.mem_map.mp (HashMap.mem_of_lookup_ofPairs hk)
    cases heq
    exact hrange.limits l hl'
  · intro p hp
    obtain ⟨id, hid⟩ := HashMap.mem_values.mp hp
    rcases h.block.lookup_payments id with ⟨tx, htx, -, now, hlook⟩ | ⟨-, hlook⟩
    · rw [hid] at hlook
      cases hlook
      exact h.amountOk hdb htx
    · rw [hid] at hlook
      obtain ⟨p', hp', heq⟩ := List.mem_map.mp (HashMap.mem_of_lookup_ofPairs hlook.symm)
      cases heq
      exact hrange.payments p hp'
  · intro e he
    obtain ⟨draws, records, happ⟩ := h.block.applied
    have hbatch := happ.batch
    rw [h.block.txs] at hbatch
    rcases applyTransactions_journal hbatch he with hold | ⟨tx, htx, hamount⟩
    · exact hrange.journalEntries e hold
    · rw [hamount]
      exact h.amountOk hdb htx

include h hdb hrange in
/-- Where the block fits, every number the pass saves is in range. -/
theorem inRange_of_fits (hfits : BlockFits block db) : final.snapshot.InRange := by
  refine (h.inRange_iff_balances hdb hrange).mpr fun b hb => ?_
  obtain ⟨e, he, rfl⟩ := List.mem_map.mp hb
  have hlook : final.balances.lookup e.1 = some e.2 := HashMap.mem_pairs.mp he
  have hvalue : final.balance e.1.1 e.1.2 = e.2 := by
    simp only [InMemoryLedger.balance, balanceFrom, HashMap.getOr, hlook, Option.getD_some]
  obtain ⟨hbalance, hle⟩ := h.final_balance hdb e.1.1 e.1.2
  have hlt := hfits.balance_lt hdb
    (fun tx htx => (h.amountOk hdb (h.block.txs ▸ htx)).1) e.1.1 e.1.2
  rw [h.block.txs] at hlt
  rw [ar.norm_of_lt hle hlt, hvalue] at hbalance
  exact ⟨hbalance ▸ hle, hbalance ▸ hlt⟩

include hdb hrange in
/-- With exact amounts the condition is exact. -/
theorem inRange_iff_fits (h : SavePoint .exact v snapshot accepted block final db) :
    final.snapshot.InRange ↔ BlockFits block db := by
  refine ⟨fun hfinal tx _ => ?_, h.inRange_of_fits hdb hrange⟩
  have hbalance := (h.final_balance hdb tx.toAccount tx.asset).1
  rw [Arith.norm_exact] at hbalance
  rw [h.block.txs, ← hbalance]
  cases hlook : final.balances.lookup (tx.toAccount, tx.asset) with
  | none =>
    simp only [InMemoryLedger.balance, balanceFrom, HashMap.getOr, hlook, Option.getD_none]
    decide
  | some n =>
    have hmem : (⟨tx.toAccount, tx.asset, n⟩ : Balance) ∈ final.snapshot.balances :=
      List.mem_map.mpr ⟨_, HashMap.mem_pairs.mpr hlook, rfl⟩
    simp only [InMemoryLedger.balance, balanceFrom, HashMap.getOr, hlook, Option.getD_some]
    exact (hfinal.balances _ hmem).2

end SavePoint

/-! ## The network -/

/-- An error that refuses a number. -/
def NodeError.refusesNumber : NodeError → Bool
  | .storage (.sqlx e) => e.ofRange
  | _ => false

/-- The tables stay in range, and where blocks fit no number is refused. -/
def rangeInvariant (ar : Arith) : ChainInvariant ar (fun v => v.host.arith = ar) SavesFit where
  inv := Database.InRange
  loaded := LoadedInRange
  batch := fun _ => True
  failed := fun e => e.refusesNumber = false
  arith := fun _ h => h
  bookkeeping := fun _ _ _ h => h.of_eq rfl rfl rfl rfl
  lock := fun _ _ h => h.of_eq rfl rfl rfl rfl
  reject := fun _ _ _ _ h => Database.updatePayment_inRange _ _ _ _ _ h
  api := fun c _ _ _ h => Database.inRange_exec c h
  load := fun _ _ => loadedInRange_of_load
  take := fun _ _ _ => trivial
  sublist := fun _ _ _ h => h
  save := fun _ _ _ _ _ _ _ _ _ hinv _ _ _ hsave => Database.saveSnapshot_inRange hsave hinv
  failedLocal := by
    intro e hlocal
    unfold NodeError.refusesNumber
    split
    · exact absurd hlocal not_false
    · rfl
  failedReference := fun _ => rfl
  failedText := rfl
  failedSave := by
    intro v snapshot accepted block final db e _ hpoint hinv hloaded _ hok hsave
    have hlast : block ∈ final.snapshot.blocks.getLast? := by
      show final.blocks.getLast? = some block
      rw [(hpoint.block.continues hpoint.loaded).2.2, List.getLast?_concat]
    exact Database.saveSnapshot_failsIn
      (hpoint.inRange_of_fits hinv hloaded (hok _ rfl block hlast)) db e hsave

/-! ## No poison block -/

/-- Over a seeded database, in every run of validators, requests and starting
processes in which every block fits where it is saved, no pass ends with a
number refused, and the tables stay in range. -/
theorem no_poison_block {settings : Settings} {ar : Arith} {d : Draws} {db : Database}
    (hseed : (Database.empty settings).saveSnapshot (sandbox d).snapshot = .ok db)
    {P : UniformNetwork ar}
    (hrun : Pool.Reaches Sql.exec (UniformCall.body ar) SavesFit (.idle db) P) :
    (∀ i v d' hv e, P.slots i = some (⟨.pass v d', hv⟩, .fail e) → e.refusesNumber = false) ∧
      P.store.InRange := by
  have hdb : db.InRange := Database.saveSnapshot_inRange hseed (Database.inRange_empty settings)
  have hcall : ∀ (c : UniformCall ar) v d, c.1 = .pass v d → v.host.arith = ar := by
    rintro ⟨_, harith⟩ v d rfl
    exact harith
  obtain ⟨-, hinv, hfailed⟩ := (rangeInvariant ar).sound Subtype.val hcall hseed hdb hrun
  exact ⟨fun i v d' hv e hslot => hfailed i _ v d' e rfl hslot, hinv⟩

/-- Two mints of the same amount to CORP_A, and `n` passes of the leader one
after the other. -/
def exampleMints (amount : Int) (n : Nat) : List (Pool.Event Session (UniformCall .exact)) :=
  let mint (i : Nat) (name : String) : List (Pool.Event Session (UniformCall .exact)) :=
    [.start i ⟨.request ⟨.sample, phase1Engine, .hybridPqcV1⟩ (.mintSandbox (.numbered name (1000 * i))
      SANDBOX_TREASURY_ACCOUNT SANDBOX_CORP_A_ACCOUNT KCAD_TEST amount), trivial⟩, .tick i, .tick i]
  let pass (i : Nat) : List (Pool.Event Session (UniformCall .exact)) :=
    .start i ⟨.pass (.connect .sample "validator-a") (.numbered "pass" (1000 * i)),
      Host.sample_arith⟩ :: List.replicate 29 (.tick i)
  mint 1 "first" ++ mint 2 "second" ++ (List.range n).flatMap fun k => pass (3 + k)

/-- Two storable amounts whose sum is not: the block of the two mints is built,
verified and applied, its save is refused, and the queue is as it was, so the
next pass ends the same way. -/
theorem poison_block :
    let P := Pool.run Sql.exec (UniformCall.body .exact) (fun _ _ => True)
      (.idle (.seeded (.numbered "seed" 0))) (exampleMints (6 * 10 ^ 37) 2)
    Pool.Reaches Sql.exec (UniformCall.body .exact) (fun _ _ => True)
        (.idle (.seeded (.numbered "seed" 0))) P ∧
      P.result? 3 = some (.error (.storage (.sqlx .numericOverflow))) ∧
      P.result? 4 = P.result? 3 ∧
      (P.store.pendingTransactions 25 0).map Transaction.amount = [6 * 10 ^ 37, 6 * 10 ^ 37] ∧
      P.store.chain = [] ∧ P.store.blockProductionLock = none := by
  intro P
  refine ⟨Pool.reaches_run _ _ _ _ _, ?_⟩
  decide +kernel

/-- Smaller mints are stored. -/
theorem no_poison_block_example :
    let P := Pool.run Sql.exec (UniformCall.body .exact) SavesFit
      (.idle (.seeded (.numbered "seed" 0))) (exampleMints (4 * 10 ^ 37) 1)
    P.store.balance SANDBOX_CORP_A_ACCOUNT KCAD_TEST = 8 * 10 ^ 37 ∧
      (∀ i v d' hv e, P.slots i = some (⟨.pass v d', hv⟩, .fail e) → e.refusesNumber = false) ∧
      P.store.InRange := by
  intro P
  have hrun : Pool.Reaches Sql.exec (UniformCall.body .exact) SavesFit
      (.idle (.seeded (.numbered "seed" 0))) P := Pool.reaches_run _ _ _ _ _
  exact ⟨by decide +kernel, no_poison_block Database.seeded_numbered hrun⟩

end KaniNetwork
