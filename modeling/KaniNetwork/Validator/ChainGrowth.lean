/-
KaniNetwork.Validator.ChainGrowth — a committed pass appends one block.

`LoadedChain` is what a pass may rely on as long as nobody else saves: the
snapshot in its hands has the chain and the balances of the database, and
every payment it loaded is where it was. `Selected` says of the batch that
its transactions are payments in no block. From the two, the save of the
pass makes the chain one block longer, the block has the transactions of
the batch, and a sound chain stays sound.
-/
import KaniNetwork.Store.Chain
import KaniNetwork.Validator.SavedBlock

namespace KaniNetwork

open InMemoryLedger

/-! ## Balances -/

theorem lookup_fromSnapshot_balances {snapshot : LedgerSnapshot} {u : Database}
    (h : snapshot.balances = u.balanceRows) (k : String × String) :
    (fromSnapshot snapshot).balances.lookup k = (u.balances.find? k).map Balance.amount := by
  have hrows : snapshot.balances.Perm u.balances.rows := by
    rw [h]
    exact List.perm_insertionSort _ _
  exact u.balances.lookup_ofPairs_rows hrows Balance.amount k

theorem balance_fromSnapshot {snapshot : LedgerSnapshot} {u : Database}
    (h : snapshot.balances = u.balanceRows) (a s : String) :
    (fromSnapshot snapshot).balance a s = u.balance a s := by
  simp only [balance, balanceFrom, HashMap.getOr, lookup_fromSnapshot_balances h, Database.balance]

/-- The save writes every balance of the ledger. -/
theorem balance_saveSnapshot {l : InMemoryLedger} {db db' : Database}
    (h : db.saveSnapshot l.snapshot = .ok db') (a s : String) :
    db'.balance a s = (l.balances.lookup (a, s)).getD (db.balance a s) := by
  have hnd : (l.snapshot.balances.map Balance.key).Nodup := by
    have hkeys : l.snapshot.balances.map Balance.key = l.balances.keys := by
      rw [← HashMap.pairs_keys, snapshot, List.map_map]
      rfl
    rw [hkeys]
    exact l.balances.keys_nodup
  have hlook : ∀ (k : String × String) (e : (String × String) × Int),
      ((l.balances.lookup k).map fun n => (k, n)) = some e ↔
        e ∈ l.balances.pairs ∧ Balance.key ⟨e.1.1, e.1.2, e.2⟩ = k := by
    intro k e
    rw [Option.map_eq_some_iff]
    constructor
    · rintro ⟨n, hn, rfl⟩
      exact ⟨HashMap.mem_pairs.mpr hn, rfl⟩
    · rintro ⟨he, rfl⟩
      exact ⟨e.2, HashMap.mem_pairs.mp he, rfl⟩
  have hbalances : l.snapshot.balances =
      l.balances.pairs.map fun e => (⟨e.1.1, e.1.2, e.2⟩ : Balance) := rfl
  rw [hbalances] at hnd
  rw [Database.balance, (Database.saveSnapshot_eq_ok h).balances, hbalances,
    Table.find?_upsertAll_map _ hnd hlook]
  cases l.balances.lookup (a, s) with
  | none => rfl
  | some n =>
    simp only [Option.map_some, Option.getD_some]
    cases db.balances.find? (a, s) <;> rfl

/-- The tables have the balances of the ledger when what it has no row for
reads zero there. -/
theorem balance_of_saved {l : InMemoryLedger} {db db' : Database}
    (h : db.saveSnapshot l.snapshot = .ok db') {a s : String}
    (hnone : l.balances.lookup (a, s) = none → db.balance a s = 0) :
    db'.balance a s = l.balance a s := by
  rw [balance_saveSnapshot h]
  simp only [InMemoryLedger.balance, balanceFrom, HashMap.getOr]
  cases hlook : l.balances.lookup (a, s) with
  | none => exact hnone hlook
  | some n => rfl

/-! ## What a pass has in its hands -/

/-- The snapshot has the chain and the balances of the database, and its
payments are where they were. -/
structure LoadedChain (snapshot : LedgerSnapshot) (db : Database) : Prop where
  blocks : snapshot.blocks = db.chain
  balances : ∀ a s, (fromSnapshot snapshot).balance a s = db.balance a s
  payments : ∃ u, snapshot.payments = u.payments ∧ SameChain u db

theorem LoadedChain.step {snapshot : LedgerSnapshot} {db db' : Database}
    (h : LoadedChain snapshot db) (hs : SameChain db db') : LoadedChain snapshot db' := by
  obtain ⟨hblocks, hbalances, u, hu, hsame⟩ := h
  exact ⟨hblocks.trans hs.chain_eq.symm, fun a s => (hbalances a s).trans (hs.balances a s).symm,
    u, hu, hsame.trans hs⟩

/-- The transactions are payments in no block, each of them once. -/
structure Selected (txs : List Transaction) (db : Database) : Prop where
  rows : ∀ tx ∈ txs, ∃ r, db.transactions.find? tx.id = some r ∧ r.toTransaction = tx ∧
    r.blockHeight = none
  nodup : (txs.map Transaction.id).Nodup

theorem Selected.step {txs : List Transaction} {db db' : Database} (h : Selected txs db)
    (hs : SameChain db db') : Selected txs db' := by
  refine ⟨fun tx htx => ?_, h.nodup⟩
  obtain ⟨r, hr, htx', hblock⟩ := h.rows tx htx
  obtain ⟨r', hr', htx'', hblock', -⟩ := hs.kept tx.id r hr
  exact ⟨r', hr', htx''.trans htx', hblock'.trans hblock⟩

theorem Selected.sublist {txs txs' : List Transaction} {db : Database} (h : Selected txs db)
    (hsub : txs'.Sublist txs) : Selected txs' db :=
  ⟨fun tx htx => h.rows tx (hsub.subset htx), h.nodup.sublist (hsub.map _)⟩

/-! ## Heights -/

namespace ChainSound

variable {ar : Arith} {db : Database}

/-- The heights stored are those from one to the length of the chain. -/
theorem height_le (h : ChainSound ar db) {k : Int} {b : BlockRow} (hb : db.blocks.find? k = some b) :
    1 ≤ k ∧ k ≤ db.chain.length := by
  have hkey : b.height = k := Table.key_of_find? hb
  subst hkey
  obtain ⟨i, hi, hget⟩ := List.getElem_of_mem (Database.mem_blockRows.mpr hb)
  have hlen : db.chain.length = db.blockRows.length := List.length_map _
  have hchain : db.chain[i]? = some (b.toBlock (txsAt db.payments b.height)) := by
    rw [Database.chain, chainOf, List.getElem?_map, List.getElem?_eq_getElem hi, hget]
    rfl
  have hheight : b.height = i + 1 := (h.linked i _ hchain).1
  omega

/-- The next height is free, and no payment names it. -/
theorem next_free (h : ChainSound ar db) : db.blocks.find? (db.chain.length + 1) = none := by
  cases hb : db.blocks.find? (db.chain.length + 1) with
  | none => rfl
  | some b =>
    have := h.height_le hb
    omega

end ChainSound

/-! ## The save -/

section

variable {ar : Arith} {v : ValidatorRuntime} {snapshot : LedgerSnapshot} {accepted : List Transaction}
  {block : Block} {final : InMemoryLedger} {db d : Database}
  (hs : ChainSound ar db) (h : PassBlock v (fromSnapshot snapshot) accepted block final)
  (hload : LoadedChain snapshot db) (hsel : Selected accepted db)
  (hsave : db.saveSnapshot final.snapshot = .ok d)

include h hload in
/-- The block continues the chain of the database. -/
theorem PassBlock.continues : block.height = db.chain.length + 1 ∧
    block.prevHash = prevHashAt db.chain db.chain.length ∧ final.blocks = db.chain ++ [block] := by
  obtain ⟨draws, records, happ⟩ := h.applied
  have hblocks : (fromSnapshot snapshot).blocks = db.chain := hload.blocks
  refine ⟨?_, ?_, ?_⟩
  · rw [happ.height_next, nextHeight, hblocks]
  · rw [happ.prev_last, ← prevHashAt_length, hblocks]
  · rw [happ.blocks_eq, hblocks]

include hs h hload hsave in
/-- One block row more. -/
theorem find?_saved_blocks (k : Int) : d.blocks.find? k =
    if block.height = k then some (BlockRow.ofBlock block) else db.blocks.find? k := by
  obtain ⟨hheight, -, hblocks⟩ := h.continues hload
  have hrows : final.snapshot.blocks = db.chain ++ [block] := hblocks
  rw [(Database.saveSnapshot_eq_ok hsave).blocks, Table.find?_insertIgnoreAll, hrows]
  cases hk : db.blocks.find? k with
  | some b =>
    have hle := (hs.height_le hk).2
    rw [if_neg (by omega)]
    rfl
  | none =>
    have hnone : (db.chain.map BlockRow.ofBlock).find? (fun r => r.height = k) = none := by
      refine List.find?_eq_none.mpr fun r hr => ?_
      obtain ⟨b, hb, rfl⟩ := List.mem_map.mp hr
      obtain ⟨row, hrow, rfl⟩ := Database.mem_chain.mp hb
      simp only [decide_eq_true_eq]
      intro heq
      have hrow' : db.blocks.find? k = some row := heq ▸ hrow
      rw [hk] at hrow'
      cases hrow'
    rw [List.map_append, List.find?_append, hnone]
    by_cases heq : block.height = k
    · simp [BlockRow.ofBlock, heq]
    · simp [BlockRow.ofBlock, heq]

include hs h hload hsave in
theorem blockRows_saved : d.blockRows = db.blockRows ++ [BlockRow.ofBlock block] := by
  obtain ⟨hheight, -, -⟩ := h.continues hload
  have hsorted : (db.blockRows ++ [BlockRow.ofBlock block]).Pairwise
      fun a b => a.height < b.height := by
    refine List.pairwise_append.mpr ⟨db.blockRows_pairwise, List.pairwise_singleton _ _, ?_⟩
    intro a ha b hb
    cases List.mem_singleton.mp hb
    have hle := (hs.height_le (Database.mem_blockRows.mp ha)).2
    show a.height < block.height
    omega
  refine d.blockRows_pairwise.eq_of_mem_iff hsorted fun r => ?_
  rw [Database.mem_blockRows, find?_saved_blocks hs h hload hsave, List.mem_append,
    Database.mem_blockRows, List.mem_singleton]
  constructor
  · intro hr
    split at hr
    · exact .inr (Option.some.inj hr).symm
    · exact .inl hr
  · rintro (hr | rfl)
    · have hle := (hs.height_le hr).2
      rw [if_neg (by omega)]
      exact hr
    · exact if_pos rfl

/-- Where a payment is: what it asks for, its block, and whether it is final. -/
def TransactionRow.place (r : TransactionRow) : Transaction × Option Int × Bool :=
  (r.toTransaction, r.blockHeight, r.status = .finalized)

theorem TransactionRow.place_eq_iff {r : TransactionRow} {tx : Transaction} {height : Option Int}
    {final : Bool} : r.place = (tx, height, final) ↔
      r.toTransaction = tx ∧ r.blockHeight = height ∧ decide (r.status = .finalized) = final := by
  simp only [place, Prod.mk.injEq]

theorem TransactionRow.place_inj {r r' : TransactionRow} (h : r.place = r'.place) :
    r.toTransaction = r'.toTransaction ∧ r.blockHeight = r'.blockHeight ∧
      (r.status = .finalized ↔ r'.status = .finalized) := by
  simpa only [place, Prod.mk.injEq, decide_eq_decide] using h

include h hload hsel hsave in
/-- The batch is finalized in the block; every other payment stays where it is. -/
theorem place_saved (id : String) :
    (∃ tx ∈ accepted, tx.id = id ∧ (d.transactions.find? id).map TransactionRow.place =
        some (tx, some block.height, true)) ∨
      ((∀ tx ∈ accepted, tx.id ≠ id) ∧ (d.transactions.find? id).map TransactionRow.place =
        (db.transactions.find? id).map TransactionRow.place) := by
  obtain ⟨u, hu, hsame⟩ := hload.payments
  have hfate := h.savedPayment hu hsave id
  generalize d.transactions.find? id = row' at hfate ⊢
  cases hfate with
  | finalized tx now htx hid =>
    subst hid
    obtain ⟨r, hr, htx', -⟩ := hsel.rows tx htx
    refine .inl ⟨tx, htx, rfl, ?_⟩
    rw [hr, Option.map_some, ← htx']
    rfl
  | restored row hrow hother =>
    obtain ⟨r, hr, htx, hblock, hfin⟩ := hsame.kept id row hrow
    refine .inr ⟨hother, ?_⟩
    rw [hr, Option.map_some, Option.map_some]
    have hplace : (TransactionRow.ofPayment (u.joinBlock row)).over (some r) =
        r.merge (TransactionRow.ofPayment (u.joinBlock row)) := rfl
    rw [hplace, Option.some.injEq]
    simp only [TransactionRow.place, Prod.mk.injEq, decide_eq_decide]
    exact ⟨rfl, hblock.symm, hfin.symm⟩
  | untouched hnew hother => exact .inr ⟨hother, rfl⟩

theorem mem_txsAt_iff_place {db : Database} {height : Int} {tx : Transaction} :
    tx ∈ txsAt db.payments height ↔
      ∃ fin, (db.transactions.find? tx.id).map TransactionRow.place = some (tx, some height, fin) := by
  rw [Database.mem_txsAt]
  constructor
  · rintro ⟨r, hr, htx, hblock⟩
    refine ⟨decide (r.status = .finalized), ?_⟩
    rw [hr, Option.map_some, TransactionRow.place, htx, hblock]
  · rintro ⟨fin, hplace⟩
    obtain ⟨r, hr, heq⟩ := Option.map_eq_some_iff.mp hplace
    obtain ⟨htx, hblock, -⟩ := TransactionRow.place_eq_iff.mp heq
    exact ⟨r, hr, htx, hblock⟩

include hs h hload hsel hsave in
/-- The new block has the transactions of the batch. -/
theorem mem_txsAt_saved (tx : Transaction) :
    tx ∈ txsAt d.payments block.height ↔ tx ∈ accepted := by
  rw [mem_txsAt_iff_place]
  constructor
  · rintro ⟨fin, hplace⟩
    rcases place_saved h hload hsel hsave tx.id with ⟨tx', htx', -, hnew⟩ | ⟨-, hold⟩
    · rw [hnew] at hplace
      cases hplace
      exact htx'
    · -- no payment was at that height before
      rw [hold] at hplace
      obtain ⟨r, hr, heq⟩ := Option.map_eq_some_iff.mp hplace
      have hblock := (TransactionRow.place_eq_iff.mp heq).2.1
      have hstored := hs.placed _ r _ hr hblock
      rw [(h.continues hload).1, hs.next_free] at hstored
      cases hstored
  · intro htx
    rcases place_saved h hload hsel hsave tx.id with ⟨tx', htx', hid, hnew⟩ | ⟨hother, -⟩
    · rw [List.inj_on_of_nodup_map hsel.nodup htx' htx hid] at hnew
      exact ⟨true, hnew⟩
    · exact absurd rfl (hother tx htx)

include h hload hsel hsave in
/-- The other blocks keep theirs. -/
theorem txsAt_saved {height : Int} (hne : height ≠ block.height) :
    txsAt d.payments height = txsAt db.payments height := by
  refine Database.txsAt_eq fun tx => ?_
  rw [mem_txsAt_iff_place, mem_txsAt_iff_place]
  rcases place_saved h hload hsel hsave tx.id with ⟨tx', htx', hid, hnew⟩ | ⟨-, hold⟩
  · rw [hnew]
    obtain ⟨r, hr, -, hblock⟩ := hsel.rows tx' htx'
    rw [hid] at hr
    rw [hr]
    constructor
    · rintro ⟨fin, heq⟩
      cases heq
      exact absurd rfl hne
    · rintro ⟨fin, heq⟩
      have hsome := (TransactionRow.place_eq_iff.mp (Option.some.inj heq)).2.1
      rw [hblock] at hsome
      cases hsome
  · rw [hold]

include hs h hload hsel hsave in
/-- The chain grows by one block. -/
theorem chain_saved : d.chain = db.chain ++
    [(BlockRow.ofBlock block).toBlock (txsAt d.payments block.height)] := by
  rw [Database.chain, chainOf, blockRows_saved hs h hload hsave, List.map_append]
  congr 1
  refine List.map_congr_left fun r hr => ?_
  have hle := (hs.height_le (Database.mem_blockRows.mp hr)).2
  have hne : r.height ≠ block.height := by
    rw [(h.continues hload).1]
    omega
  rw [txsAt_saved h hload hsel hsave hne]

include h hload hsave in
/-- The balances in the tables are those of the saved ledger. -/
theorem balance_final (a s : String) : d.balance a s = final.balance a s := by
  obtain ⟨draws, records, happ⟩ := h.applied
  refine balance_of_saved hsave fun hlook => ?_
  -- a balance the ledger does not have was not loaded either
  have hrow : (fromSnapshot snapshot).balances.lookup (a, s) = none := by
    cases hold : (fromSnapshot snapshot).balances.lookup (a, s) with
    | none => rfl
    | some n =>
      have hkey := applyTransactions_keeps_rows happ.batch (HashMap.mem_keys_of_lookup hold)
      obtain ⟨n', hn'⟩ := HashMap.mem_keys_iff.mp hkey
      rw [show final.working.balances = final.balances from rfl, hlook] at hn'
      cases hn'
  rw [← hload.balances]
  simp only [InMemoryLedger.balance, balanceFrom, HashMap.getOr, hrow, Option.getD_none]

include hs h hload hsel hsave in
/-- The balances are those of the longer chain. -/
theorem balance_saved (harith : v.host.arith = ar) (a s : String) :
    d.balance a s = ar.norm ((Books.replay (d.chain.flatMap Block.txs)).balance a s) := by
  have hperm : (txsAt d.payments block.height).Perm accepted :=
    (List.perm_ext_iff_of_nodup (Database.txsAt_pairwise d _).nodup hsel.nodup.of_map).mpr
      (mem_txsAt_saved hs h hload hsel hsave)
  have hreplay : (Books.replay (d.chain.flatMap Block.txs)).balance a s =
      (Books.replay (db.chain.flatMap Block.txs)).balance a s +
        (accepted.map fun tx => tx.balanceDelta a s).sum := by
    rw [chain_saved hs h hload hsel hsave, List.flatMap_append, Books.replay_balance,
      List.map_append, List.sum_append, ← Books.replay_balance,
      ← (hperm.map fun tx => tx.balanceDelta a s).sum_eq]
    simp [BlockRow.toBlock]
  obtain ⟨draws, records, happ⟩ := h.applied
  have hbatch := happ.batch
  rw [harith, h.txs] at hbatch
  have hnormal : ∀ a s, ar.norm ((fromSnapshot snapshot).working.balance a s) =
      (fromSnapshot snapshot).working.balance a s := by
    intro a s
    rw [show (fromSnapshot snapshot).working.balance a s = db.balance a s from hload.balances a s,
      hs.balances, Arith.norm_norm]
  have hfinal : final.balance a s =
      ar.norm (db.balance a s + (accepted.map fun tx => tx.balanceDelta a s).sum) := by
    rw [← hload.balances]
    exact applyTransactions_norm hbatch hnormal a s
  rw [hs.balances, Arith.norm_add, ← hreplay] at hfinal
  rw [← hfinal, balance_final h hload hsave]

include hs h hload hsel hsave in
/-- A sound chain stays sound. -/
theorem sound_saved (harith : v.host.arith = ar) : ChainSound ar d := by
  have hchain := chain_saved hs h hload hsel hsave
  obtain ⟨hheight, hprev, -⟩ := h.continues hload
  refine ⟨?_, ?_, ?_, balance_saved hs h hload hsel hsave harith⟩
  · intro i b hb
    rw [hchain] at hb ⊢
    rcases lt_or_ge i db.chain.length with hi | hi
    · rw [List.getElem?_append_left hi] at hb
      rw [prevHashAt_append _ _ (le_of_lt hi)]
      exact hs.linked i b hb
    · rw [List.getElem?_append_right hi] at hb
      obtain ⟨hlast, rfl⟩ := List.getElem?_eq_some_iff.mp hb
      have hi' : i = db.chain.length := by
        simp only [List.length_singleton] at hlast
        omega
      subst hi'
      simp only [Nat.sub_self, List.getElem_cons_zero]
      rw [prevHashAt_append _ _ le_rfl]
      exact ⟨hheight, hprev⟩
  · intro id r' hr'
    rcases place_saved h hload hsel hsave id with ⟨tx, -, -, hnew⟩ | ⟨-, hold⟩
    · rw [hr', Option.map_some, Option.some.injEq] at hnew
      obtain ⟨-, hblock, hfin⟩ := TransactionRow.place_eq_iff.mp hnew
      simp [hblock, of_decide_eq_true hfin]
    · rw [hr', Option.map_some] at hold
      obtain ⟨r, hr, heq⟩ := Option.map_eq_some_iff.mp hold.symm
      obtain ⟨-, hblock, hfin⟩ := TransactionRow.place_inj heq
      rw [← hblock, ← hfin]
      exact hs.finalized id r hr
  · intro id r' height hr' hblock'
    rw [find?_saved_blocks hs h hload hsave]
    split
    · rfl
    rename_i hne
    rcases place_saved h hload hsel hsave id with ⟨tx, -, -, hnew⟩ | ⟨-, hold⟩
    · rw [hr', Option.map_some, Option.some.injEq] at hnew
      have hblock := (TransactionRow.place_eq_iff.mp hnew).2.1
      rw [hblock'] at hblock
      exact absurd (Option.some.inj hblock).symm hne
    · rw [hr', Option.map_some] at hold
      obtain ⟨r, hr, heq⟩ := Option.map_eq_some_iff.mp hold.symm
      exact hs.placed id r height hr ((TransactionRow.place_inj heq).2.1.trans hblock')

end

end KaniNetwork
