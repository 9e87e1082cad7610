/-
KaniNetwork.Store.Nonces — the nonce of a payment request in the database.

`next_nonce_for_account` reads one more than the largest nonce of the
account, so the nonce is unused when it is read. `NonceCurrent` says that
it still is the next one when the row is inserted; then the index
`UNIQUE (from_account, nonce)` has no objection, and a row that passes the
checks of its columns is stored.

`NonceOrder` is what holds when one request follows another and time moves
on: an account's payments were created in the order of their nonces, and
none that waits has a nonce below one that is finalized.
-/
import KaniNetwork.Store.Idempotency
import KaniNetwork.Store.Snapshot

namespace KaniNetwork

/-- The error of an insert whose nonce is taken. -/
def SqlxError.nonceTaken : SqlxError := .unique "transactions (from_account, nonce)"

/-- The nonce of the row is the one its account gets next; a row whose key is
taken is not inserted and needs no nonce. -/
def Database.NonceCurrent (db : Database) (row : TransactionRow) : Prop :=
  db.hasReference row.clientReferenceId = true ∨ row.nonce = db.nextNonce row.fromAccount

instance (db : Database) (row : TransactionRow) : Decidable (db.NonceCurrent row) :=
  inferInstanceAs (Decidable (_ ∨ _))

/-- Each row that is inserted has a current nonce. -/
def Sql.InsertsCurrent : Sql → Database → Prop
  | .write (.insertPending row), db => db.NonceCurrent row
  | .write (.holdPayment row _), db => db.NonceCurrent row
  | _, _ => True

instance (q : Sql) (db : Database) : Decidable (q.InsertsCurrent db) := by
  unfold Sql.InsertsCurrent
  split <;> infer_instance

namespace Database

/-- Every payment of an account has a smaller nonce than the next. -/
theorem nonce_lt_nextNonce {db : Database} {r : TransactionRow} (h : r ∈ db.transactions.rows) :
    r.nonce < db.nextNonce r.fromAccount := by
  have hmem : r.nonce ∈ (db.transactions.rows.filter fun r' =>
      r'.fromAccount = r.fromAccount).map TransactionRow.nonce :=
    List.mem_map_of_mem (List.mem_filter.mpr ⟨h, by simp⟩)
  unfold nextNonce
  cases hmax : ((db.transactions.rows.filter fun r' =>
      r'.fromAccount = r.fromAccount).map TransactionRow.nonce).max? with
  | none =>
    rw [List.max?_eq_none_iff] at hmax
    rw [hmax] at hmem
    cases hmem
  | some m =>
    have hle : r.nonce ≤ m := (List.max?_eq_some_iff.mp hmax).2 _ hmem
    simp only [hmax, Option.getD_some]
    omega

theorem checkNonceUnused_next {db : Database} {row : TransactionRow}
    (h : row.nonce = db.nextNonce row.fromAccount) : db.checkNonceUnused row = .ok () := by
  simp only [checkNonceUnused, enforce_eq_ok_iff, List.all_eq_true]
  intro r hr
  by_cases hfrom : r.fromAccount = row.fromAccount
  · have hlt := nonce_lt_nextNonce hr
    rw [hfrom, ← h] at hlt
    simp only [Bool.or_eq_true, decide_eq_true_eq]
    right
    omega
  · simp [hfrom]

/-! ## Inserting -/

/-- A row that passes the checks of its columns. -/
structure RowOk (row : TransactionRow) (settings : Settings) (accounts : Table Account.id) :
    Prop where
  texts : row.textOk settings = true
  amountPositive : 0 < row.amount
  amountFits : row.amount < 10 ^ 38
  asset : assetCodeOk row.asset = true
  noBlock : row.blockHeight = none
  fromAccount : (accounts.find? row.fromAccount).isSome = true
  toAccount : (accounts.find? row.toAccount).isSome = true

theorem RowOk.checkTransactionRow {row : TransactionRow} {settings : Settings}
    {accounts : Table Account.id} (h : RowOk row settings accounts) :
    checkTransactionRow row = .ok () := by
  have hlow : (-10 ^ 38 : Int) < row.amount := by
    have := h.amountPositive
    omega
  have hnumeric : numericOk row.amount = true := by
    simp only [numericOk, Bool.and_eq_true, decide_eq_true_eq]
    exact ⟨hlow, h.amountFits⟩
  simp [Database.checkTransactionRow, enforce, hnumeric, h.amountPositive, h.asset]

theorem RowOk.checkTransactionReferences {row : TransactionRow} {db : Database}
    (h : RowOk row db.settings db.accounts) : db.checkTransactionReferences row = .ok () := by
  simp [Database.checkTransactionReferences, checkBlockReference, h.noBlock, enforce, h.fromAccount,
    h.toAccount]

/-- A row with a fresh key, a fresh id and the next nonce is stored. -/
theorem insertTransaction_ok {row : TransactionRow} {db : Database}
    (hok : RowOk row db.settings db.accounts)
    (hkey : db.hasReference row.clientReferenceId = false)
    (hid : db.transactions.find? row.id = none) (hnonce : db.NonceCurrent row) :
    ∃ t, db.transactions.insert? row = some t ∧
      insertTransaction row db = .ok ({ db with transactions := t }, true) := by
  have hnext : row.nonce = db.nextNonce row.fromAccount := by
    rcases hnonce with htaken | hnext
    · rw [hkey] at htaken
      cases htaken
    · exact hnext
  have hins : db.transactions.insert? row = some (db.transactions.insertNew row hid) := by
    simp only [Table.insert?, hid, dite_true]
  refine ⟨_, hins, ?_⟩
  simp only [insertTransaction, hok.texts, enforce, hok.checkTransactionRow, hkey,
    checkNonceUnused_next hnext, hins, hok.checkTransactionReferences, ok_bind, Bool.false_eq_true,
    if_true, if_false]
  rfl

/-- A payment with a fresh case is held. -/
theorem holdPayment_ok {row : TransactionRow} {c : ComplianceCase} {db : Database}
    (hok : RowOk row db.settings db.accounts) (hkey : db.hasReference row.clientReferenceId = false)
    (hid : db.transactions.find? row.id = none) (hnonce : db.NonceCurrent row)
    (htext : c.textOk = true) (hpayment : c.paymentId = row.id)
    (hcase : db.complianceCases.find? c.id = none) :
    ∃ db', holdPayment row c db = .ok (db', true) := by
  obtain ⟨t, ht, hins⟩ := insertTransaction_ok hok hkey hid hnonce
  have hrow : t.find? c.paymentId = some row := by
    rw [(Table.insert?_eq_some ht).2, hpayment]
    exact if_pos rfl
  have hstored : db.complianceCases.find? c.stored.id = none := hcase
  have hopen : ∃ db', insertComplianceCase c { db with transactions := t } = .ok db' := by
    simp only [insertComplianceCase, htext, enforce, if_true, ok_bind]
    split
    · exact ⟨_, rfl⟩
    · simp only [hrow, Option.isSome_some, if_true, ok_bind, Table.insert?, hstored, dite_true]
      exact ⟨_, rfl⟩
  obtain ⟨db', hdb'⟩ := hopen
  refine ⟨db', ?_⟩
  simp only [holdPayment, hins, ok_bind, if_true, hdb']
  rfl

/-! ## Failing -/

theorem checkTransactionRow_notTaken (row : TransactionRow) :
    FailsIn (· ≠ .nonceTaken) (checkTransactionRow row) := by
  unfold checkTransactionRow enforce
  refine .bind (.ite (.ok _) (.error nofun)) fun _ => .bind ?_ fun _ => ?_
  · exact .ite (.ok _) (.error (by decide))
  · exact .ite (.ok _) (.error (by decide))

theorem checkTransactionReferences_notTaken (row : TransactionRow) (db : Database) :
    FailsIn (· ≠ .nonceTaken) (db.checkTransactionReferences row) := by
  unfold checkTransactionReferences checkBlockReference enforce
  refine .bind ?_ fun _ => .bind (.ite (.ok _) (.error nofun)) fun _ =>
    .ite (.ok _) (.error nofun)
  split
  · exact .ok _
  · exact .ite (.ok _) (.error nofun)

/-- With a current nonce an insert may fail, but not on the nonce. -/
theorem insertTransaction_notTaken {row : TransactionRow} {db : Database}
    (hnonce : db.NonceCurrent row) : FailsIn (· ≠ .nonceTaken) (insertTransaction row db) := by
  unfold insertTransaction
  refine .bind (enforce_refuses (by decide)) fun _ => ?_
  refine .bind (checkTransactionRow_notTaken row) fun _ => ?_
  split
  · exact .ok _
  · rename_i hkey
    have hnext : row.nonce = db.nextNonce row.fromAccount := hnonce.resolve_left hkey
    rw [checkNonceUnused_next hnext, ok_bind]
    split
    · exact .error (by decide)
    · exact .bind (checkTransactionReferences_notTaken row db) fun _ => .ok _

theorem insertComplianceCase_notTaken (c : ComplianceCase) (db : Database) :
    FailsIn (· ≠ .nonceTaken) (insertComplianceCase c db) := by
  unfold insertComplianceCase
  refine .bind (enforce_refuses (by decide)) fun _ => ?_
  refine .ite (.ok _) (.bind (enforce_refuses nofun) fun _ => ?_)
  split
  · exact .error (by decide)
  · exact .ok _

theorem holdPayment_notTaken {row : TransactionRow} {db : Database} (c : ComplianceCase)
    (hnonce : db.NonceCurrent row) : FailsIn (· ≠ .nonceTaken) (holdPayment row c db) :=
  .bind (insertTransaction_notTaken hnonce) fun _ =>
    .ite (.bind (insertComplianceCase_notTaken c _) fun _ => .ok _) (.ok _)

end Database

/-! ## The nonces of a loaded ledger -/

/-- The nonce of an account is below `n` when those of its finalized payments
are. -/
theorem PaymentIndex.nonces_lt {ar : Arith} {payments : List PaymentRecord} {a : String} {n : Int}
    (hpos : 0 < n) (h : ∀ p ∈ payments, p.status = .finalized → p.transaction.fromAccount = a →
      p.transaction.nonce < n) : (ofPayments ar payments).nonces.getOr a 0 < n := by
  have hfold : ∀ ix : PaymentIndex, ix.nonces.getOr a 0 < n →
      (payments.foldl (add ar) ix).nonces.getOr a 0 < n := by
    induction payments with
    | nil => exact fun ix hix => hix
    | cons p payments ih =>
      intro ix hix
      refine ih (fun q hq => h q (List.mem_cons_of_mem _ hq)) _ ?_
      have hadd : (ix.add ar p).nonces =
          if p.status = .finalized then (ix.addFinalized ar p.transaction).nonces else ix.nonces := by
        unfold add
        split <;> split <;> rfl
      rw [hadd]
      split
      · rename_i hfin
        rw [addFinalized, HashMap.getOr_insert]
        split
        · rename_i ha
          have hp := h p List.mem_cons_self hfin ha.symm
          rw [← ha]
          exact max_lt hix hp
        · exact hix
      · exact hix
  exact hfold empty (by simpa [empty] using hpos)

/-! ## Nonces in order -/

namespace TransactionRow.SameRequest

variable {r r' : TransactionRow} (h : r.SameRequest r')

include h

theorem id : r'.id = r.id := congrArg Transaction.id h.transaction
theorem fromAccount : r'.fromAccount = r.fromAccount := congrArg Transaction.fromAccount h.transaction
theorem nonce : r'.nonce = r.nonce := congrArg Transaction.nonce h.transaction
theorem createdAt : r'.createdAt = r.createdAt := congrArg Transaction.createdAt h.transaction

end TransactionRow.SameRequest

/-- `r` was asked for before `r'`. -/
def TransactionRow.Precedes (r r' : TransactionRow) : Prop :=
  r.nonce < r'.nonce ∧ r.createdAt < r'.createdAt

/-- Payments of one account follow each other, and what waits comes after
what is finalized. -/
structure NonceOrder (db : Database) : Prop where
  positive : ∀ r ∈ db.transactions.rows, 0 < r.nonce
  ordered : ∀ r ∈ db.transactions.rows, ∀ r' ∈ db.transactions.rows,
    r.fromAccount = r'.fromAccount → r.id ≠ r'.id → r.Precedes r' ∨ r'.Precedes r
  pending : ∀ r ∈ db.transactions.rows, r.status = .pending → ∀ r' ∈ db.transactions.rows,
    r'.status = .finalized → r'.fromAccount = r.fromAccount → r'.nonce < r.nonce

/-- The same payments with the same requests, whatever became of them. -/
def SamePayments (db db' : Database) : Prop :=
  ∀ id, Option.Rel TransactionRow.SameRequest (db.transactions.find? id) (db'.transactions.find? id)

theorem SamePayments.refl (db : Database) : SamePayments db db := by
  intro id
  cases db.transactions.find? id with
  | none => exact .none
  | some r => exact .some (.refl r)

theorem SamePayments.of_eq {db db' : Database} (h : db'.transactions = db.transactions) :
    SamePayments db db' := by
  intro id
  rw [h]
  exact SamePayments.refl db id

theorem SamePayments.trans {db db' db'' : Database} (h : SamePayments db db')
    (h' : SamePayments db' db'') : SamePayments db db'' := by
  intro id
  have hid := h id
  have hid' := h' id
  generalize db.transactions.find? id = a at hid ⊢
  generalize db'.transactions.find? id = b at hid hid'
  generalize db''.transactions.find? id = c at hid' ⊢
  cases hid with
  | none => exact hid'
  | some hsame =>
    cases hid' with
    | some hsame' => exact .some (hsame.trans hsame')

/-- Every row was there before. -/
theorem SamePayments.row {db db' : Database} (h : SamePayments db db') {r' : TransactionRow}
    (hr' : r' ∈ db'.transactions.rows) :
    ∃ r ∈ db.transactions.rows, db.transactions.find? r'.id = some r ∧ r.SameRequest r' := by
  have hid := h r'.id
  rw [Table.mem_rows_iff.mp hr'] at hid
  cases hdb : db.transactions.find? r'.id with
  | none =>
    rw [hdb] at hid
    cases hid
  | some r =>
    rw [hdb] at hid
    cases hid with
    | some hsame => exact ⟨r, Table.mem_of_find? hdb, rfl, hsame⟩

theorem SamePayments.updatePayment (id : String) (expected status : TransactionStatus)
    (failureReason : Option String) (now : DateTime) (db : Database) :
    SamePayments db (db.updatePayment id expected status failureReason now) := by
  intro id'
  rw [Database.find?_updatePayment]
  cases db.transactions.find? id' with
  | none => exact .none
  | some r =>
    refine .some ?_
    dsimp only
    split
    · exact ⟨rfl, rfl, rfl⟩
    · exact .refl r

namespace NonceOrder

theorem of_empty {db : Database} (h : db.transactions.rows = []) : NonceOrder db := by
  have hnone : ∀ r, r ∉ db.transactions.rows := by
    intro r
    rw [h]
    exact List.not_mem_nil
  exact ⟨fun r hr => absurd hr (hnone r), fun r hr => absurd hr (hnone r),
    fun r hr => absurd hr (hnone r)⟩

/-- The order is one of requests; only what waits has to be looked at again. -/
theorem of_same {db db' : Database} (h : NonceOrder db) (hsame : SamePayments db db')
    (hpending : ∀ r ∈ db'.transactions.rows, r.status = .pending →
      ∀ r' ∈ db'.transactions.rows, r'.status = .finalized → r'.fromAccount = r.fromAccount →
        r'.nonce < r.nonce) : NonceOrder db' := by
  refine ⟨fun r hr => ?_, fun r hr r' hr' hfrom hid => ?_, hpending⟩
  · obtain ⟨q, hq, -, hs⟩ := hsame.row hr
    rw [hs.nonce]
    exact h.positive q hq
  · obtain ⟨q, hq, -, hs⟩ := hsame.row hr
    obtain ⟨q', hq', -, hs'⟩ := hsame.row hr'
    rw [hs.fromAccount, hs'.fromAccount] at hfrom
    rw [hs.id, hs'.id] at hid
    have hord := h.ordered q hq q' hq' hfrom hid
    simp only [TransactionRow.Precedes, hs.nonce, hs'.nonce, hs.createdAt, hs'.createdAt]
    exact hord

theorem of_eq {db db' : Database} (h : NonceOrder db) (heq : db'.transactions = db.transactions) :
    NonceOrder db' := by
  refine h.of_same (.of_eq heq) ?_
  rw [heq]
  exact h.pending

/-- A payment that leaves the queue for good disturbs nothing. -/
theorem rejectTransaction {db : Database} (h : NonceOrder db) (id reason : String) (now : DateTime) :
    NonceOrder (db.rejectTransaction id reason now) := by
  have hback : ∀ r ∈ (db.rejectTransaction id reason now).transactions.rows,
      r.status ≠ .rejected → r ∈ db.transactions.rows := by
    intro r hr hne
    rw [Table.mem_rows_iff, Database.rejectTransaction, Database.find?_updatePayment,
      Option.map_eq_some_iff] at hr
    obtain ⟨q, hq, hqr⟩ := hr
    split at hqr
    · subst hqr
      exact absurd rfl hne
    · subst hqr
      exact Table.mem_of_find? hq
  refine h.of_same (.updatePayment _ _ _ _ _ _) fun r hr hst r' hr' hst' => ?_
  exact h.pending r (hback r hr (by simp [hst])) hst r' (hback r' hr' (by simp [hst'])) hst'

theorem nextNonce_pos {db : Database} (h : NonceOrder db) (a : String) : 0 < db.nextNonce a := by
  unfold Database.nextNonce
  cases hmax : ((db.transactions.rows.filter fun r => r.fromAccount = a).map
      TransactionRow.nonce).max? with
  | none =>
    simp only [hmax]
    decide
  | some m =>
    obtain ⟨hmem, -⟩ := List.max?_eq_some_iff.mp hmax
    obtain ⟨r, hr, rfl⟩ := List.mem_map.mp hmem
    have hpos := h.positive r (List.mem_filter.mp hr).1
    simp only [hmax, Option.getD_some]
    omega

/-- A new payment with the next nonce comes after all others. -/
theorem insert {db db' : Database} {row : TransactionRow} (h : NonceOrder db)
    (hins : db.transactions.insert? row = some db'.transactions)
    (hnonce : row.nonce = db.nextNonce row.fromAccount)
    (htime : ∀ r ∈ db.transactions.rows, r.fromAccount = row.fromAccount →
      r.createdAt < row.createdAt)
    (hstatus : row.status ≠ .finalized) : NonceOrder db' := by
  obtain ⟨-, hfind⟩ := Table.insert?_eq_some hins
  have hmem : ∀ r ∈ db'.transactions.rows, r = row ∨ r ∈ db.transactions.rows := by
    intro r hr
    rw [Table.mem_rows_iff, hfind] at hr
    split at hr
    · exact .inl (Option.some.inj hr).symm
    · exact .inr (Table.mem_of_find? hr)
  have hlast : ∀ r ∈ db.transactions.rows, r.fromAccount = row.fromAccount → r.Precedes row := by
    intro r hr hfrom
    have hlt := Database.nonce_lt_nextNonce hr
    rw [hfrom, ← hnonce] at hlt
    exact ⟨hlt, htime r hr hfrom⟩
  refine ⟨fun r hr => ?_, fun r hr r' hr' hfrom hid => ?_, fun r hr hst r' hr' hst' hfrom => ?_⟩
  · rcases hmem r hr with rfl | hr
    · rw [hnonce]
      exact h.nextNonce_pos _
    · exact h.positive r hr
  · rcases hmem r hr with rfl | hr
    · rcases hmem r' hr' with rfl | hr'
      · exact absurd rfl hid
      · exact .inr (hlast r' hr' hfrom.symm)
    · rcases hmem r' hr' with rfl | hr'
      · exact .inl (hlast r hr hfrom)
      · exact h.ordered r hr r' hr' hfrom hid
  · rcases hmem r' hr' with rfl | hr'
    · exact absurd hst' hstatus
    · rcases hmem r hr with rfl | hr
      · exact (hlast r' hr' hfrom).1
      · exact h.pending r hr hst r' hr' hst' hfrom

end NonceOrder

end KaniNetwork
