/-
KaniNetwork.Store.Chain — the chain as the tables hold it.

`load_snapshot` puts a block together from its row and from the payments
that name its height, in the order of the queue. `Database.chain` is what
it returns when nobody writes in between. `ChainSound` says what a chain in
the tables is to satisfy, and `SameChain` what a statement does that is not
the save of a block: it leaves blocks, balances and the place of every
payment alone, so the chain stays as it is.
-/
import KaniNetwork.Ledger.Replay
import KaniNetwork.Node.ChainIntegrity
import KaniNetwork.Store.ApiStep
import KaniNetwork.Store.Snapshot

namespace KaniNetwork

/-! ## Blocks from rows and payments -/

/-- The transactions of the payments that name a height. -/
def txsAt (payments : List PaymentRecord) (height : Int) : List Transaction :=
  (payments.filter fun p => p.blockHeight = some height).map PaymentRecord.transaction

theorem txsAt_append (ps qs : List PaymentRecord) (height : Int) :
    txsAt (ps ++ qs) height = txsAt ps height ++ txsAt qs height := by
  simp [txsAt]

theorem PaymentIndex.txsByBlock_add (ar : Arith) (ix : PaymentIndex) (p : PaymentRecord)
    (height : Int) : (ix.add ar p).txsByBlock.getOr height [] =
      ix.txsByBlock.getOr height [] ++ txsAt [p] height := by
  have hfinal : (if p.status = .finalized then ix.addFinalized ar p.transaction else ix).txsByBlock
      = ix.txsByBlock := by
    split <;> rfl
  unfold add
  generalize (if p.status = .finalized then ix.addFinalized ar p.transaction else ix) = ix'
    at hfinal ⊢
  cases hp : p.blockHeight with
  | none => simp [txsAt, hp, hfinal]
  | some h =>
    simp only [addToBlock, hfinal, HashMap.getOr_insert]
    by_cases hh : height = h
    · simp [txsAt, hp, hh]
    · simp [txsAt, hp, hh, Ne.symm hh]

theorem PaymentIndex.txsByBlock_ofPayments (ar : Arith) (payments : List PaymentRecord)
    (height : Int) :
    (ofPayments ar payments).txsByBlock.getOr height [] = txsAt payments height := by
  induction payments using List.reverseRecOn with
  | nil => exact HashMap.getOr_empty _ _
  | append_singleton ps p ih =>
    have hstep : ofPayments ar (ps ++ [p]) = (ofPayments ar ps).add ar p := by
      simp [ofPayments]
    rw [hstep, txsByBlock_add, ih, txsAt_append]

/-- The chain of some block rows and some payments. -/
def chainOf (payments : List PaymentRecord) (rows : List BlockRow) : List Block :=
  rows.map fun r => r.toBlock (txsAt payments r.height)

theorem PaymentIndex.blocks_ofPayments (ar : Arith) (payments : List PaymentRecord)
    (rows : List BlockRow) : (ofPayments ar payments).blocks rows = chainOf payments rows := by
  simp only [blocks, chainOf, txsByBlock_ofPayments]

/-- The order of the queue, strictly. -/
def Transaction.Before (tx tx' : Transaction) : Prop :=
  tx.createdAt < tx'.createdAt ∨ (tx.createdAt = tx'.createdAt ∧ tx.id < tx'.id)

instance : Std.Irrefl Transaction.Before where
  irrefl tx h := by
    rcases h with h | ⟨-, h⟩
    · exact lt_irrefl _ h
    · exact lt_irrefl _ h

instance : Std.Antisymm Transaction.Before where
  antisymm tx tx' h h' := by
    rcases h with h | ⟨heq, h⟩
    · rcases h' with h' | ⟨heq', -⟩
      · exact absurd h' (lt_asymm h)
      · exact absurd heq'.symm (ne_of_lt h)
    · rcases h' with h' | ⟨-, h'⟩
      · exact absurd heq.symm (ne_of_lt h')
      · exact absurd h' (lt_asymm h)

instance : Std.Total TransactionRow.Before where
  total r r' := by
    rcases lt_trichotomy r.createdAt r'.createdAt with h | h | h
    · exact .inl (.inl h)
    · exact (le_total r.id r'.id).imp (fun hid => .inr ⟨h, hid⟩) fun hid => .inr ⟨h.symm, hid⟩
    · exact .inr (.inl h)

instance : IsTrans TransactionRow TransactionRow.Before where
  trans a b c hab hbc := by
    rcases hab with hab | ⟨hab, hid⟩
    · rcases hbc with hbc | ⟨hbc, -⟩
      · exact .inl (lt_trans hab hbc)
      · exact .inl (hbc ▸ hab)
    · rcases hbc with hbc | ⟨hbc, hid'⟩
      · exact .inl (hab ▸ hbc)
      · exact .inr ⟨hab.trans hbc, le_trans hid hid'⟩

namespace Database

/-- The chain `load_snapshot` returns. -/
def chain (db : Database) : List Block := chainOf db.payments db.blockRows

/-- A stored balance; a missing row reads zero. -/
def balance (db : Database) (accountId asset : String) : Int :=
  ((db.balances.find? (accountId, asset)).map Balance.amount).getD 0

theorem balance_congr {db db' : Database} (h : db'.balances = db.balances) (a s : String) :
    db'.balance a s = db.balance a s := by
  rw [balance, balance, h]

theorem readSnapshot_blocks (ar : Arith) (db : Database) : (readSnapshot ar db).blocks = db.chain :=
  PaymentIndex.blocks_ofPayments ar db.payments db.blockRows

theorem mem_txsAt {db : Database} {height : Int} {tx : Transaction} :
    tx ∈ txsAt db.payments height ↔
      ∃ r, db.transactions.find? tx.id = some r ∧ r.toTransaction = tx ∧
        r.blockHeight = some height := by
  simp only [txsAt, List.mem_map, List.mem_filter, mem_payments, decide_eq_true_eq]
  constructor
  · rintro ⟨_, ⟨⟨r, hr, rfl⟩, hblock⟩, rfl⟩
    exact ⟨r, Table.mem_rows_iff.mp hr, rfl, hblock⟩
  · rintro ⟨r, hr, rfl, hblock⟩
    exact ⟨db.joinBlock r, ⟨⟨r, Table.mem_of_find? hr, rfl⟩, hblock⟩, rfl⟩

/-- `ORDER BY created_at, id` leaves no ties. -/
theorem insertionSort_pairwise {rows : List TransactionRow}
    (hnd : (rows.map TransactionRow.id).Nodup) :
    (rows.insertionSort TransactionRow.Before).Pairwise
      fun r r' => r.toTransaction.Before r'.toTransaction := by
  have hsorted := List.pairwise_insertionSort TransactionRow.Before rows
  have hnodup : (rows.insertionSort TransactionRow.Before).Pairwise fun r r' => r.id ≠ r'.id :=
    List.pairwise_map.mp ((((List.perm_insertionSort _ _).map _).nodup_iff).mpr hnd)
  refine (hsorted.and hnodup).imp ?_
  rintro r r' ⟨hbefore, hne⟩
  exact hbefore.imp_right (And.imp_right fun hid => lt_of_le_of_ne hid hne)

theorem txsAt_pairwise (db : Database) (height : Int) :
    (txsAt db.payments height).Pairwise Transaction.Before := by
  rw [txsAt, payments, List.pairwise_map]
  exact .filter _ (List.pairwise_map.mpr (insertionSort_pairwise db.transactions.nodup))

/-- The queue comes in the same order. -/
theorem pendingTransactions_pairwise (db : Database) (limit offset : Nat) :
    (db.pendingTransactions limit offset).Pairwise Transaction.Before := by
  have hnd : ((db.transactions.rows.filter fun r => r.status = .pending).map
      TransactionRow.id).Nodup := db.transactions.nodup.sublist (List.filter_sublist.map _)
  rw [pendingTransactions, List.pairwise_map]
  exact (insertionSort_pairwise hnd).sublist ((List.take_sublist _ _).trans (List.drop_sublist _ _))

/-- The transactions of a block are known by what they are. -/
theorem txsAt_eq {db db' : Database} {height height' : Int}
    (h : ∀ tx, tx ∈ txsAt db'.payments height' ↔ tx ∈ txsAt db.payments height) :
    txsAt db'.payments height' = txsAt db.payments height :=
  (txsAt_pairwise db' height').eq_of_mem_iff (txsAt_pairwise db height) h

/-! ## Block rows -/

theorem mem_blockRows {db : Database} {r : BlockRow} :
    r ∈ db.blockRows ↔ db.blocks.find? r.height = some r := by
  rw [blockRows, List.mem_insertionSort, Table.mem_rows_iff]

/-- The block rows come by height, each height once. -/
theorem blockRows_pairwise (db : Database) :
    db.blockRows.Pairwise fun a b => a.height < b.height := by
  have hsorted : db.blockRows.Pairwise fun a b => a.height ≤ b.height := by
    have : Std.Total fun a b : BlockRow => a.height ≤ b.height := ⟨fun a b => le_total _ _⟩
    have : IsTrans BlockRow fun a b => a.height ≤ b.height := ⟨fun a b c => le_trans⟩
    exact List.pairwise_insertionSort _ _
  have hnodup : db.blockRows.Pairwise fun a b => a.height ≠ b.height :=
    List.pairwise_map.mp ((((List.perm_insertionSort _ _).map _).nodup_iff).mpr db.blocks.nodup)
  exact (hsorted.and hnodup).imp fun ⟨hle, hne⟩ => lt_of_le_of_ne hle hne

instance : Std.Irrefl fun a b : BlockRow => a.height < b.height := ⟨fun _ => lt_irrefl _⟩

instance : Std.Antisymm fun a b : BlockRow => a.height < b.height :=
  ⟨fun _ _ h h' => absurd h' (lt_asymm h)⟩

theorem mem_chain {db : Database} {b : Block} : b ∈ db.chain ↔
    ∃ r, db.blocks.find? r.height = some r ∧ b = r.toBlock (txsAt db.payments r.height) := by
  simp only [chain, chainOf, List.mem_map, mem_blockRows, eq_comm]

/-- A transaction of the chain is a payment in a stored block. -/
theorem mem_chainTxs {db : Database} {tx : Transaction} :
    tx ∈ db.chain.flatMap Block.txs ↔
      ∃ r height, db.transactions.find? tx.id = some r ∧ r.toTransaction = tx ∧
        r.blockHeight = some height ∧ (db.blocks.find? height).isSome := by
  simp only [List.mem_flatMap, mem_chain]
  constructor
  · rintro ⟨_, ⟨b, hb, rfl⟩, htx⟩
    obtain ⟨r, hr, htx, hblock⟩ := mem_txsAt.mp htx
    exact ⟨r, b.height, hr, htx, hblock, by simp [hb]⟩
  · rintro ⟨r, height, hr, htx, hblock, hstored⟩
    obtain ⟨b, hb⟩ := Option.isSome_iff_exists.mp hstored
    have hheight := Table.key_of_find? hb
    subst hheight
    exact ⟨_, ⟨b, hb, rfl⟩, mem_txsAt.mpr ⟨r, hr, htx, hblock⟩⟩

/-- No transaction is in the chain twice. -/
theorem chainTxs_nodup (db : Database) : (db.chain.flatMap Block.txs).Nodup := by
  rw [chain, chainOf, List.flatMap_map, List.nodup_flatMap]
  refine ⟨fun r _ => (txsAt_pairwise db r.height).nodup, (blockRows_pairwise db).imp ?_⟩
  intro a b hlt tx ha hb
  obtain ⟨r, hr, -, hblock⟩ := mem_txsAt.mp ha
  obtain ⟨r', hr', -, hblock'⟩ := mem_txsAt.mp hb
  rw [hr] at hr'
  cases hr'
  rw [hblock] at hblock'
  exact absurd (Option.some.inj hblock') (ne_of_lt hlt)

end Database

/-! ## A sound chain -/

/-- The chain in the tables is a chain: blocks are numbered from one and
linked, the finalized payments are those in a block, every block they name
is stored, and the balances are the replay of the blocks from zero, in the
arithmetic of the processes. -/
structure ChainSound (ar : Arith) (db : Database) : Prop where
  linked : ∀ (i : Nat) b, db.chain[i]? = some b →
    b.height = i + 1 ∧ b.prevHash = prevHashAt db.chain i
  finalized : ∀ id r, db.transactions.find? id = some r →
    (r.status = .finalized ↔ r.blockHeight ≠ none)
  placed : ∀ id r height, db.transactions.find? id = some r → r.blockHeight = some height →
    (db.blocks.find? height).isSome
  balances : ∀ a s, db.balance a s =
    ar.norm ((Books.replay (db.chain.flatMap Block.txs)).balance a s)

/-- Blocks, balances and places stay; what is new waits. -/
structure SameChain (db db' : Database) : Prop where
  balances : ∀ a s, db'.balance a s = db.balance a s
  blocks : db'.blocks = db.blocks
  kept : ∀ id r, db.transactions.find? id = some r →
    ∃ r', db'.transactions.find? id = some r' ∧ r'.toTransaction = r.toTransaction ∧
      r'.blockHeight = r.blockHeight ∧ (r'.status = .finalized ↔ r.status = .finalized)
  fresh : ∀ id r', db'.transactions.find? id = some r' → db.transactions.find? id = none →
    r'.blockHeight = none ∧ r'.status ≠ .finalized

theorem SameChain.refl (db : Database) : SameChain db db := by
  refine ⟨fun _ _ => rfl, rfl, fun _ r hr => ⟨r, hr, rfl, rfl, Iff.rfl⟩, ?_⟩
  intro id r hr hnone
  rw [hr] at hnone
  cases hnone

theorem SameChain.trans {db db' db'' : Database} (h : SameChain db db') (h' : SameChain db' db'') :
    SameChain db db'' := by
  refine ⟨fun a s => (h'.balances a s).trans (h.balances a s), h'.blocks.trans h.blocks, ?_, ?_⟩
  · intro id r hr
    obtain ⟨r', hr', htx, hblock, hfin⟩ := h.kept id r hr
    obtain ⟨r'', hr'', htx', hblock', hfin'⟩ := h'.kept id r' hr'
    exact ⟨r'', hr'', htx'.trans htx, hblock'.trans hblock, hfin'.trans hfin⟩
  · intro id r'' hr'' hnone
    cases hr' : db'.transactions.find? id with
    | none => exact h'.fresh id r'' hr'' hr'
    | some r' =>
      obtain ⟨hblock, hfin⟩ := h.fresh id r' hr' hnone
      obtain ⟨r₂, hr₂, -, hblock', hfin'⟩ := h'.kept id r' hr'
      rw [hr''] at hr₂
      cases hr₂
      exact ⟨hblock'.trans hblock, fun h => hfin (hfin'.mp h)⟩

namespace SameChain

variable {db db' : Database}

/-- A row after the statement is the row before it, or waits. -/
theorem back (h : SameChain db db') {id : String} {r' : TransactionRow}
    (hr' : db'.transactions.find? id = some r') :
    (∃ r, db.transactions.find? id = some r ∧ r'.toTransaction = r.toTransaction ∧
      r'.blockHeight = r.blockHeight ∧ (r'.status = .finalized ↔ r.status = .finalized)) ∨
      (r'.blockHeight = none ∧ r'.status ≠ .finalized) := by
  cases hr : db.transactions.find? id with
  | none => exact .inr (h.fresh id r' hr' hr)
  | some r =>
    obtain ⟨r₁, hr₁, hkept⟩ := h.kept id r hr
    rw [hr'] at hr₁
    cases hr₁
    exact .inl ⟨r, rfl, hkept⟩

theorem txsAt_eq (h : SameChain db db') (height : Int) :
    txsAt db'.payments height = txsAt db.payments height := by
  refine Database.txsAt_eq fun tx => ?_
  rw [Database.mem_txsAt, Database.mem_txsAt]
  constructor
  · rintro ⟨r', hr', htx, hblock⟩
    rcases h.back hr' with ⟨r, hr, htx', hblock', -⟩ | ⟨hnone, -⟩
    · exact ⟨r, hr, htx'.symm.trans htx, hblock'.symm.trans hblock⟩
    · rw [hnone] at hblock
      cases hblock
  · rintro ⟨r, hr, htx, hblock⟩
    obtain ⟨r', hr', htx', hblock', -⟩ := h.kept tx.id r hr
    exact ⟨r', hr', htx'.trans htx, hblock'.trans hblock⟩

theorem blockRows_eq (h : SameChain db db') : db'.blockRows = db.blockRows := by
  unfold Database.blockRows
  rw [h.blocks]

theorem chain_eq (h : SameChain db db') : db'.chain = db.chain := by
  unfold Database.chain chainOf
  rw [h.blockRows_eq]
  exact List.map_congr_left fun r _ => by rw [h.txsAt_eq]

theorem sound {ar : Arith} (h : SameChain db db') (hs : ChainSound ar db) : ChainSound ar db' := by
  refine ⟨?_, ?_, ?_, ?_⟩
  · rw [h.chain_eq]
    exact hs.linked
  · intro id r' hr'
    rcases h.back hr' with ⟨r, hr, -, hblock, hfin⟩ | ⟨hblock, hfin⟩
    · rw [hfin, hblock]
      exact hs.finalized id r hr
    · simp [hblock, hfin]
  · intro id r' height hr' hblock'
    rw [h.blocks]
    rcases h.back hr' with ⟨r, hr, -, hblock, -⟩ | ⟨hnone, -⟩
    · exact hs.placed id r height hr (hblock.symm.trans hblock')
    · rw [hnone] at hblock'
      cases hblock'
  · intro a s
    rw [h.chain_eq, h.balances]
    exact hs.balances a s

/-- A change of other tables. -/
theorem of_eq (hbalances : db'.balances = db.balances) (hblocks : db'.blocks = db.blocks)
    (htxs : db'.transactions = db.transactions) : SameChain db db' := by
  have h := SameChain.refl db
  exact ⟨Database.balance_congr hbalances, hblocks, fun id r hr => ⟨r, htxs ▸ hr, rfl, rfl, Iff.rfl⟩,
    fun id r hr hnone => h.fresh id r (htxs ▸ hr) hnone⟩

/-- `reject_transaction`. -/
theorem of_reject (db : Database) (id reason : String) (now : DateTime) :
    SameChain db (db.rejectTransaction id reason now) := by
  have hfind := Database.find?_updatePayment id .pending .rejected (some reason) now db
  refine ⟨fun _ _ => rfl, rfl, ?_, ?_⟩
  · intro id' r hr
    refine ⟨_, (hfind id').trans (congrArg _ hr), ?_⟩
    dsimp only
    split
    · rename_i hpending
      simp only [Bool.and_eq_true, decide_eq_true_eq] at hpending
      exact ⟨rfl, rfl, by simp [hpending.2]⟩
    · exact ⟨rfl, rfl, Iff.rfl⟩
  · intro id' r' hr' hnone
    have hr' := (hfind id').symm.trans hr'
    rw [hnone] at hr'
    cases hr'

/-- A statement of the API. -/
theorem of_api (h : ApiStep db db') : SameChain db db' := by
  refine ⟨Database.balance_congr h.balances, h.blocks, ?_, ?_⟩
  · intro id r hr
    have hrow := h.rows id
    rw [hr] at hrow
    generalize db'.transactions.find? id = row' at hrow
    cases hrow with
    | same => exact ⟨r, rfl, rfl, rfl, Iff.rfl⟩
    | reviewed _ status _ _ hheld hstatus =>
      refine ⟨_, rfl, rfl, rfl, ?_⟩
      rcases hstatus with rfl | rfl <;> simp [hheld]
  · intro id r' hr' hnone
    have hrow := h.rows id
    rw [hr', hnone] at hrow
    cases hrow with
    | inserted _ hstatus hblock =>
      refine ⟨hblock, ?_⟩
      rcases hstatus with hst | hst <;> simp [hst]

end SameChain

end KaniNetwork
