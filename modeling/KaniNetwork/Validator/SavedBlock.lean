/-
KaniNetwork.Validator.SavedBlock — what a committed block leaves behind.

A pass saves the whole ledger it loaded, with its block applied, over a
database that may have moved on. `save_snapshot` upserts every row of every
table it writes, so what a row is afterwards depends on three things: the
block, the state the snapshot was read from (`u` below) and the row as it is
now. The lemmas here say it table by table, keyed by the primary key.
-/
import KaniNetwork.Validator.PassOutline

namespace KaniNetwork

open InMemoryLedger

/-! ## Records of a loaded ledger -/

/-- Records are filed under the id of their transaction. -/
def PaymentsFiled (payments : HashMap String PaymentRecord) : Prop :=
  ∀ id p, payments.lookup id = some p → p.transaction.id = id

theorem lookup_fromSnapshot_payments {snapshot : LedgerSnapshot} {u : Database}
    (h : snapshot.payments = u.payments) (id : String) :
    (fromSnapshot snapshot).payments.lookup id = (u.transactions.find? id).map u.joinBlock := by
  have hrows := List.perm_insertionSort TransactionRow.Before u.transactions.rows
  have hpairs : snapshot.payments.map (fun p => (p.transaction.id, p)) =
      (u.transactions.rows.insertionSort TransactionRow.Before).map
        fun r => (r.id, u.joinBlock r) := by
    rw [h, Database.payments, List.map_map]
    rfl
  rw [fromSnapshot, hpairs]
  exact u.transactions.lookup_ofPairs_rows hrows u.joinBlock id

theorem paymentsFiled_fromSnapshot (snapshot : LedgerSnapshot) :
    PaymentsFiled (fromSnapshot snapshot).payments :=
  HashMap.filedUnder_ofPairs _ _

namespace PassBlock

variable {v : ValidatorRuntime} {ledger final : InMemoryLedger} {accepted : List Transaction}
  {block : Block}

/-- The transactions of the block pass the dry run. -/
theorem accepts (h : PassBlock v ledger accepted block final) :
    Accepts v.host.arith ledger accepted := by
  obtain ⟨d, records, happ⟩ := h.applied
  rw [accepts_iff (d.sub 0)]
  have hbatch := happ.batch
  rw [happ.height_next, h.txs] at hbatch
  exact bind_eq_ok_iff.mpr ⟨_, hbatch, rfl⟩

/-- The block files a finalized record for each of its transactions and
leaves every other record alone. -/
theorem lookup_payments (h : PassBlock v ledger accepted block final) (id : String) :
    (∃ tx ∈ accepted, tx.id = id ∧ ∃ now,
        final.payments.lookup id = some (.finalized now tx block.height block.hash)) ∨
      ((∀ tx ∈ accepted, tx.id ≠ id) ∧ final.payments.lookup id = ledger.payments.lookup id) := by
  obtain ⟨d, records, happ⟩ := h.applied
  have hrec := happ.records_eq
  rw [h.txs] at hrec
  rw [happ.payments_eq, lookup_insertPayments]
  cases hf : records.reverse.find? fun r => r.transaction.id = id with
  | some r =>
    have hid : r.transaction.id = id := by simpa using List.find?_some hf
    have hmem := List.mem_reverse.mp (List.mem_of_find?_eq_some hf)
    rw [hrec] at hmem
    obtain ⟨tx, htx, now, rfl⟩ := mem_finalizedRecords hmem
    exact .inl ⟨tx, htx, hid, now, rfl⟩
  | none =>
    refine .inr ⟨fun tx htx hid => ?_, rfl⟩
    rw [← finalizedRecords_transactions block.height block.hash (d.sub 1) accepted, ← hrec] at htx
    obtain ⟨r, hr, rfl⟩ := List.mem_map.mp htx
    have := List.find?_eq_none.mp hf r (List.mem_reverse.mpr hr)
    simp [hid] at this

theorem paymentsFiled (h : PassBlock v ledger accepted block final)
    (hfiled : PaymentsFiled ledger.payments) : PaymentsFiled final.payments := by
  obtain ⟨_, records, happ⟩ := h.applied
  rw [happ.payments_eq]
  exact HashMap.FiledUnder.insertAll hfiled records

end PassBlock

/-! ## Payment rows -/

/-- The row an upsert leaves for a key: the new row merged into the one
there, if any. -/
def TransactionRow.over (new : TransactionRow) (old : Option TransactionRow) : TransactionRow :=
  (old.map fun r => r.merge new).getD new

@[simp] theorem TransactionRow.over_status (new : TransactionRow) (old : Option TransactionRow) :
    (new.over old).status = new.status := by
  cases old <;> rfl

@[simp] theorem TransactionRow.over_blockHeight (new : TransactionRow)
    (old : Option TransactionRow) : (new.over old).blockHeight = new.blockHeight := by
  cases old <;> rfl

@[simp] theorem TransactionRow.over_failureReason (new : TransactionRow)
    (old : Option TransactionRow) : (new.over old).failureReason = new.failureReason := by
  cases old <;> rfl

/-- Every record of the saved ledger is written over its row. -/
theorem find?_saveSnapshot_transactions {l : InMemoryLedger} {db db' : Database}
    (hfiled : PaymentsFiled l.payments) (h : db.saveSnapshot l.snapshot = .ok db') (id : String) :
    db'.transactions.find? id =
      match l.payments.lookup id with
      | some p => some ((TransactionRow.ofPayment p).over (db.transactions.find? id))
      | none => db.transactions.find? id := by
  rw [(Database.saveSnapshot_eq_ok h).transactions, Table.find?_upsertAll_map l.payments.lookup]
  · cases l.payments.lookup id <;> rfl
  · rw [List.map_map]
    exact HashMap.nodup_map_values hfiled
  · intro k p
    rw [show l.snapshot.payments = l.payments.values from rfl, HashMap.mem_values]
    constructor
    · exact fun hp => ⟨⟨k, hp⟩, hfiled k p hp⟩
    · rintro ⟨⟨k', hp⟩, rfl⟩
      have hk : p.transaction.id = k' := hfiled k' p hp
      rw [TransactionRow.ofPayment_id, hk]
      exact hp

/-- What the save of a block makes of the payment `id`: its own transactions
are finalized in it, the loaded ones get back the status they were loaded
with, the others are not touched. -/
inductive SavedPayment (u db : Database) (accepted : List Transaction) (block : Block) (id : String) :
    Option TransactionRow → Prop where
  | finalized (tx : Transaction) (now : DateTime) (htx : tx ∈ accepted) (hid : tx.id = id) :
    SavedPayment u db accepted block id
      (some ((TransactionRow.ofPayment (.finalized now tx block.height block.hash)).over
        (db.transactions.find? id)))
  | restored (row : TransactionRow) (hrow : u.transactions.find? id = some row)
      (hother : ∀ tx ∈ accepted, tx.id ≠ id) :
    SavedPayment u db accepted block id
      (some ((TransactionRow.ofPayment (u.joinBlock row)).over (db.transactions.find? id)))
  | untouched (hnew : u.transactions.find? id = none) (hother : ∀ tx ∈ accepted, tx.id ≠ id) :
    SavedPayment u db accepted block id (db.transactions.find? id)

theorem PassBlock.savedPayment {v : ValidatorRuntime} {snapshot : LedgerSnapshot}
    {accepted : List Transaction} {block : Block} {final : InMemoryLedger} {u db db' : Database}
    (h : PassBlock v (fromSnapshot snapshot) accepted block final)
    (hload : snapshot.payments = u.payments) (hsave : db.saveSnapshot final.snapshot = .ok db')
    (id : String) : SavedPayment u db accepted block id (db'.transactions.find? id) := by
  rw [find?_saveSnapshot_transactions (h.paymentsFiled (paymentsFiled_fromSnapshot _)) hsave]
  rcases h.lookup_payments id with ⟨tx, htx, hid, now, hlook⟩ | ⟨hother, hlook⟩
  · rw [hlook]
    exact .finalized tx now htx hid
  · rw [hlook, lookup_fromSnapshot_payments hload]
    cases hrow : u.transactions.find? id with
    | some row => exact .restored row hrow hother
    | none => exact .untouched hrow hother

end KaniNetwork
