/-
KaniNetwork.Validator.NonceOrder — whether a payment is refused for its
nonce.

Nonces are given out when payments are requested, and validation asks that
they grow in the order of finalization. One account's payments reach the
queue in that order unless one of them is held: approved after a later one
was finalized, it is refused (`approved_too_late`), although its review
released it. The other way to get there is a batch from which a payment is
refused and a later one of the account accepted, for the save puts the
refused one back into the queue.

`approved_not_refused` is about any sequence of submissions, approvals and
passes, one after the other, the requests of an account created at later and
later times: where neither happens, no pass refuses a payment for its nonce.
-/
import KaniNetwork.Ledger.Nonces
import KaniNetwork.Node.NonceRace
import KaniNetwork.Store.Chain
import KaniNetwork.Validator.Rejection

namespace KaniNetwork

open InMemoryLedger PostgresLedgerStore

/-- A payment that was rejected with the text of the nonce error. -/
def TransactionRow.NonceRejected (r : TransactionRow) : Prop :=
  r.status = .rejected ∧ r.failureReason = some LedgerError.invalidNonce.message

/-- Nonces are in order, and none was the reason of a rejection. -/
structure NonceClean (db : Database) : Prop where
  order : NonceOrder db
  notRejected : ∀ r ∈ db.transactions.rows, ¬ r.NonceRejected

theorem NonceClean.of_eq {db db' : Database} (h : NonceClean db)
    (heq : db'.transactions = db.transactions) : NonceClean db' := by
  refine ⟨h.order.of_eq heq, ?_⟩
  rw [heq]
  exact h.notRejected

/-! ## Requests -/

theorem NonceClean.insert {db db' : Database} {row : TransactionRow} (h : NonceClean db)
    (hins : db.transactions.insert? row = some db'.transactions)
    (hnonce : row.nonce = db.nextNonce row.fromAccount)
    (htime : ∀ r ∈ db.transactions.rows, r.fromAccount = row.fromAccount →
      r.createdAt < row.createdAt)
    (hstatus : row.status = .pending ∨ row.status = .held) : NonceClean db' := by
  have hne : row.status ≠ .finalized ∧ row.status ≠ .rejected := by
    rcases hstatus with hst | hst
    all_goals simp [hst]
  refine ⟨h.order.insert hins hnonce htime hne.1, fun r hr hrej => ?_⟩
  rw [Table.mem_rows_iff, (Table.insert?_eq_some hins).2] at hr
  split at hr
  · cases hr
    exact hne.2 hrej.1
  · exact h.notRejected r (Table.mem_of_find? hr) hrej

/-- A row that is about to be inserted: it comes next, or it is there. -/
def InsertedOnce (db : Database) (row : TransactionRow) (s : Database) : Prop :=
  NonceClean s ∧ (s = db ∨ (s.transactions.find? row.id).isSome = true)

/-- Inserting a row that comes next keeps the order, the first time and ever
after. -/
theorem InsertedOnce.insert {db s s' : Database} {row : TransactionRow}
    (h : InsertedOnce db row s) (hins : s.transactions.insert? row = some s'.transactions)
    (hnonce : row.nonce = db.nextNonce row.fromAccount)
    (htime : ∀ r ∈ db.transactions.rows, r.fromAccount = row.fromAccount →
      r.createdAt < row.createdAt)
    (hstatus : row.status = .pending ∨ row.status = .held) : InsertedOnce db row s' := by
  obtain ⟨hclean, hwhere⟩ := h
  obtain ⟨hnone, hfind⟩ := Table.insert?_eq_some hins
  rcases hwhere with rfl | hthere
  · refine ⟨hclean.insert hins hnonce htime hstatus, .inr ?_⟩
    rw [hfind, if_pos rfl]
    rfl
  · rw [hnone] at hthere
    cases hthere

/-- The clock reading that becomes the `created_at` of the payment. -/
def Submission.clock : Submission → DateTime
  | .holdPaymentForReview d .. => ((d.sub 1).sub 0).stamp.now
  | c => (c.draws.sub 1).stamp.now

/-- Every command of the program keeps the order, alone on the database. -/
abbrev KeepsNonces {ε α : Type} (p : StoreProg ε α) (db : Database) : Prop :=
  p.Safe Sql.exec Eq (fun s s' => NonceClean s → NonceClean s') (fun _ _ => True)
    (fun _ _ => True) db

theorem KeepsNonces.bind_pure {ε α β : Type} {p : StoreProg ε α} {db : Database}
    (h : KeepsNonces p db) (g : α → β) : KeepsNonces (p >>= fun a => pure (g a)) db := by
  refine .bind (h.mono (fun _ _ h => h) (fun _ _ h => h) (fun _ _ h => h) fun r s _ => ?_)
    fun _ => rfl
  cases r with
  | ok a => exact fun _ _ => trivial
  | error e => exact fun _ _ => trivial

theorem keepsNonces_of_reads {ε α : Type} {p : StoreProg ε α}
    (honly : p.Only fun c => ∀ w, c ≠ .write w) (db : Database) : KeepsNonces p db := by
  refine .of_only honly (fun c s hc hs => ?_) fun _ _ => trivial
  rcases c.exec_cases s with heq | ⟨w, reply, rfl, -⟩
  · rwa [heq]
  · exact absurd rfl (hc w)

/-- A program that sends nothing but one insert. -/
theorem keepsNonces_of_insert {ε α : Type} {p : StoreProg ε α} {w : Statement} {db : Database}
    (row : TransactionRow)
    (honly : p.Only fun c => ∀ w', c = .write w' → w' = w)
    (hrun : ∀ s s' reply, w.run s = .ok (s', reply) →
      s' = s ∨ s.transactions.insert? row = some s'.transactions)
    (h : NonceClean db) (hnonce : row.nonce = db.nextNonce row.fromAccount)
    (htime : ∀ r ∈ db.transactions.rows, r.fromAccount = row.fromAccount →
      r.createdAt < row.createdAt)
    (hstatus : row.status = .pending ∨ row.status = .held) : KeepsNonces p db := by
  have hguar : ∀ s s', InsertedOnce db row s' → NonceClean s → NonceClean s' := fun _ _ hs' _ => hs'.1
  refine (Prog.Safe.of_only_inv (I := InsertedOnce db row) honly ?_ ⟨h, .inl rfl⟩).mono
    (fun _ _ h => h) hguar (fun _ _ h => h) fun _ _ _ => trivial
  intro c s hc hs
  rcases c.exec_cases s with heq | ⟨w', reply, rfl, hw'⟩
  · rwa [heq]
  · obtain rfl := hc w' rfl
    rcases hrun _ _ _ hw' with heq | hins
    · rwa [heq]
    · exact hs.insert hins hnonce htime hstatus

/-- The payment is created later than all payments of its account. -/
def Submission.CreatedLast (c : Submission) (db : Database) : Prop :=
  ∀ r ∈ db.transactions.rows, r.fromAccount = c.request.fromAccount →
    r.createdAt < timestamptz c.clock

instance (c : Submission) (db : Database) : Decidable (c.CreatedLast db) :=
  inferInstanceAs (Decidable (∀ r ∈ _, _))

theorem enqueuePendingTransaction_inOrder {now : DateTime} {tx : Transaction}
    (key fingerprint : Option String) {db : Database} (h : NonceClean db)
    (hnonce : tx.nonce = db.nextNonce tx.fromAccount)
    (htime : ∀ r ∈ db.transactions.rows, r.fromAccount = tx.fromAccount →
      r.createdAt < timestamptz now) :
    KeepsNonces (enqueuePendingTransaction now tx key fingerprint) db := by
  refine keepsNonces_of_insert (.ofPayment (.enqueued now tx key fingerprint))
    (enqueuePendingTransaction_only (fun q w hw => by cases hw) now tx key fingerprint
      fun w hw => (Sql.write.inj hw).symm) (fun s s' reply hrun => ?_) h hnonce htime (.inl rfl)
  rcases Database.insertTransaction_eq_ok hrun with ⟨-, rfl, -⟩ | ⟨-, -, t, ht, rfl⟩
  · exact .inl rfl
  · exact .inr ht

theorem holdPaymentForReview_inOrder {d : Draws} {tx : Transaction} (key fingerprint : Option String)
    (caseOpen : ComplianceCaseOpen) {db : Database} (h : NonceClean db)
    (hnonce : tx.nonce = db.nextNonce tx.fromAccount)
    (htime : ∀ r ∈ db.transactions.rows, r.fromAccount = tx.fromAccount →
      r.createdAt < timestamptz (d.sub 0).stamp.now) :
    KeepsNonces (holdPaymentForReview d tx key fingerprint caseOpen) db := by
  refine keepsNonces_of_insert
    (.ofPayment (.onHold (d.sub 0).stamp.now tx caseOpen.reason key fingerprint))
    (holdPaymentForReview_only (fun q w hw => by cases hw) d tx key fingerprint caseOpen
      fun w hw => (Sql.write.inj hw).symm) (fun s s' reply hrun => ?_) h hnonce htime (.inr rfl)
  rcases Database.holdPayment_eq_ok hrun with ⟨-, rfl, -⟩ | ⟨-, -, t, u, ht, rfl, -⟩
  · exact .inl rfl
  · exact .inr ht

/-- A submission that is created after everything of its account keeps the
order. -/
theorem Submission.inOrder (n : KaniNode) (c : Submission) {db : Database} (h : NonceClean db)
    (htime : c.CreatedLast db) : KeepsNonces (c.body n) db := by
  have hquery : ∀ {α : Type} {a : String} {f : Int → StoreProg NodeError α},
      KeepsNonces (f (db.nextNonce a)) db → KeepsNonces (query (.nextNonce a) >>= f) db := by
    intro α a f hf
    refine safe_query (fun _ hs => hs) fun s hs => ?_
    cases hs
    exact hf
  cases c with
  | submitPayment d f t a amount key =>
    refine hquery (.mapError (enqueuePendingTransaction_inOrder key _ h ?_ ?_))
    · cases key <;> rfl
    · cases key <;> exact htime
  | holdPaymentForReview d f t a amount key caseOpen =>
    refine KeepsNonces.bind_pure (hquery (.mapError (holdPaymentForReview_inOrder key _ _ h ?_ ?_))) _
    · cases key <;> rfl
    · cases key <;> exact htime
  | mintSandbox d treasury t a amount =>
    exact hquery (.mapError (enqueuePendingTransaction_inOrder none _ h rfl htime))
  | burnSandbox d f treasury a amount =>
    exact hquery (.mapError (enqueuePendingTransaction_inOrder none _ h rfl htime))

/-! ## Approvals -/

/-- No payment of the account that is finalized has a nonce above that of the
payment the case holds. -/
def NothingLater (caseId : String) (db : Database) : Prop :=
  ∀ id c r, uuidIn caseId = some id → db.complianceCases.find? id = some c →
    db.transactions.find? c.paymentId = some r →
    r.status = .held → ∀ r' ∈ db.transactions.rows, r'.status = .finalized →
      r'.fromAccount = r.fromAccount → r'.nonce < r.nonce

theorem NothingLater.of_none {caseId : String} {db : Database}
    (h : ∀ r ∈ db.transactions.rows, r.status ≠ .finalized) : NothingLater caseId db :=
  fun _ _ _ _ _ _ _ r hr hfin => absurd hfin (h r hr)

/-- Releasing a payment that comes after everything finalized. -/
theorem NonceClean.approveCase {db : Database} (h : NonceClean db) {caseId : String}
    (hlater : NothingLater caseId db) {id : String} (hid : uuidIn caseId = some id)
    {c : ComplianceCase} (hc : db.complianceCases.find? id = some c) (resolvedAt now : DateTime)
    (reviewer reason : Option String) :
    NonceClean (Database.approveCase (c.approved resolvedAt reviewer reason) now db) := by
  have hfind : ∀ id, (Database.approveCase (c.approved resolvedAt reviewer reason) now
      db).transactions.find? id = (db.transactions.find? id).map fun r =>
        if r.id = c.paymentId && r.status = .held then
          { r with
            status := .pending
            failureReason := none
            updatedAt := timestamptz now }
        else r := fun id => Database.find?_updatePayment _ _ _ _ _ _ _
  have hsame : SamePayments db (Database.approveCase (c.approved resolvedAt reviewer reason) now db) :=
    SamePayments.updatePayment _ _ _ _ _ _
  -- a row is as it was, or it is the released payment
  have hrow : ∀ r ∈ (Database.approveCase (c.approved resolvedAt reviewer reason) now
      db).transactions.rows, r ∈ db.transactions.rows ∨
        (r.status = .pending ∧ ∃ q, db.transactions.find? c.paymentId = some q ∧ q.status = .held ∧
          q.SameRequest r) := by
    intro r hr
    rw [Table.mem_rows_iff, hfind, Option.map_eq_some_iff] at hr
    obtain ⟨q, hq, hqr⟩ := hr
    split at hqr
    · rename_i hheld
      simp only [Bool.and_eq_true, decide_eq_true_eq] at hheld
      subst hqr
      rw [← hheld.1]
      exact .inr ⟨rfl, q, Table.mem_rows_iff.mp (Table.mem_of_find? hq), hheld.2, rfl, rfl, rfl⟩
    · subst hqr
      exact .inl (Table.mem_of_find? hq)
  refine ⟨h.order.of_same hsame fun r hr hst r' hr' hst' hfrom => ?_, fun r hr hrej => ?_⟩
  · rcases hrow r' hr' with hr' | ⟨hpending, -⟩
    · rcases hrow r hr with hr | ⟨-, q, hq, hheld, hs⟩
      · exact h.order.pending r hr hst r' hr' hst' hfrom
      · rw [hs.nonce]
        exact hlater id c q hid hc hq hheld r' hr' hst' (hfrom.trans hs.fromAccount)
    · rw [hst'] at hpending
      cases hpending
  · rcases hrow r hr with hr | ⟨hpending, -⟩
    · exact h.notRejected r hr hrej
    · rw [hrej.1] at hpending
      cases hpending

theorem approveComplianceCase_inOrder (d : Draws) {caseId : String} (reviewer reason : Option String)
    {db : Database} (h : NonceClean db) (hlater : NothingLater caseId db) :
    KeepsNonces (approveComplianceCase d caseId reviewer reason) db := by
  rw [PostgresLedgerStore.approveComplianceCase, complianceCase, Prog.bind_assoc]
  refine .ofExcept_bind (fun _ _ _ _ => trivial) fun id hid => ?_
  refine safe_query (fun _ hs => hs) fun s hs => ?_
  cases hs
  cases hc : Query.eval db (.complianceCase id) with
  | none => exact fun _ _ => trivial
  | some c =>
    refine .ofExcept_bind (fun _ _ _ _ => trivial) fun _ _ => ?_
    refine safe_execute (fun _ hs => hs) (fun _ _ _ _ _ => trivial) fun s s' reply hs _ hrun => ?_
    cases hs
    obtain ⟨-, rfl⟩ := Statement.approveCase_eq_ok hrun
    refine ⟨fun _ => h.approveCase hlater (uuidParam_eq_ok_iff.mp hid) hc _ _ _ _, ?_⟩
    refine keepsNonces_of_reads (.bind (payment_only (fun q w hw => by cases hw) _) fun p => ?_) _
    trivial

/-! ## Passes -/

namespace Pass

/-- The batch the pass would accept from `pending` after `accepted`. -/
def selectFrom (c : Pass) (db : Database) : List Transaction → List Transaction → List Transaction
  | accepted, [] => accepted
  | accepted, tx :: pending =>
    if Accepts c.runtime.host.arith (c.ledger db) (accepted ++ [tx]) then
      c.selectFrom db (accepted ++ [tx]) pending
    else c.selectFrom db accepted pending

/-- What validation accepts of the batch, one transaction after the other. -/
def selection (c : Pass) (db : Database) : List Transaction := c.selectFrom db [] (c.batch db)

/-- In the batch of a leader, what is refused comes after what is accepted of
the same account. -/
def RefusesLast (c : Pass) (db : Database) : Prop :=
  c.Leads db → ∀ tx ∈ c.batch db, tx ∉ c.selection db → ∀ tx' ∈ c.selection db,
    tx'.fromAccount = tx.fromAccount → tx'.nonce < tx.nonce

end Pass

theorem Pass.RefusesLast.of_all {c : Pass} {db : Database} (h : c.selection db = c.batch db) :
    c.RefusesLast db :=
  fun _ _ htx hout => absurd (h ▸ htx) hout

/-- Of two payments of one account the one that was created first has the
smaller nonce. -/
theorem NonceOrder.nonce_lt {db : Database} (h : NonceOrder db) {r r' : TransactionRow}
    (hr : r ∈ db.transactions.rows) (hr' : r' ∈ db.transactions.rows)
    (hfrom : r.fromAccount = r'.fromAccount)
    (hbefore : r.toTransaction.Before r'.toTransaction) : r.nonce < r'.nonce := by
  have hid : r.id ≠ r'.id := by
    intro hid
    obtain rfl := Table.eq_of_key_eq hr hr' hid
    rcases hbefore with hlt | ⟨-, hlt⟩
    · exact lt_irrefl _ hlt
    · exact lt_irrefl _ hlt
  rcases h.ordered r hr r' hr' hfrom hid with hprec | hprec
  · exact hprec.1
  · have hlt : r'.createdAt < r.createdAt := hprec.2
    rcases hbefore with hlt' | ⟨heq, -⟩
    · exact absurd (lt_trans hlt hlt') (lt_irrefl _)
    · exact absurd hlt (not_lt_of_ge heq.le)

/-- What waits and is not in the batch comes after the batch. -/
theorem Database.before_of_not_mem_pendingTransactions {db : Database} {limit : Nat}
    {r : TransactionRow} (hr : r ∈ db.transactions.rows) (hst : r.status = .pending)
    (hout : r.toTransaction ∉ db.pendingTransactions limit 0) {tx : Transaction}
    (htx : tx ∈ db.pendingTransactions limit 0) : tx.Before r.toTransaction := by
  obtain ⟨q, hq, rfl⟩ := List.mem_map.mp htx
  have hnd : ((db.transactions.rows.filter fun r => r.status = .pending).map
      TransactionRow.id).Nodup := db.transactions.nodup.sublist (List.filter_sublist.map _)
  have hsorted := insertionSort_pairwise hnd
  have hmem : r ∈ (db.transactions.rows.filter fun r => r.status = .pending).insertionSort
      TransactionRow.Before :=
    (List.mem_insertionSort _).mpr (List.mem_filter.mpr ⟨hr, by simp [hst]⟩)
  rw [List.drop_zero] at hq
  rw [← List.take_append_drop limit (List.insertionSort _ _)] at hsorted hmem
  rcases List.mem_append.mp hmem with hin | hin
  · exact absurd (List.mem_map_of_mem hin) hout
  · exact (List.pairwise_append.mp hsorted).2.2 q hq r hin

/-- What holds at each place of the pass `c` that starts in `db`. -/
def Pass.orderAt (c : Pass) (db : Database) : Phase → Database → Prop
  | .idle, s | .locked, s => SameLedger db s
  | .loaded snapshot, s => SameLedger db s ∧ LoadedAs c.runtime.host.arith db snapshot
  | .selecting snapshot accepted pending, s =>
    LoadedAs c.runtime.host.arith db snapshot ∧ SamePayments db s ∧
      Accepts c.runtime.host.arith (c.ledger db) accepted ∧
      (accepted ++ pending).Sublist (c.batch db) ∧
      c.selectFrom db accepted pending = c.selection db
  | .failing _, _ => True
  | .saved _, _ => True

section

variable {c : Pass} {db s : Database}

/-- A transaction of the batch is a row that waits. -/
theorem Pass.row_of_mem_batch {tx : Transaction} (h : tx ∈ c.batch db) :
    ∃ r ∈ db.transactions.rows, r.status = .pending ∧ r.toTransaction = tx := by
  obtain ⟨r, hr, hst, htx⟩ := Database.of_mem_pendingTransactions h
  exact ⟨r, Table.mem_of_find? hr, hst, htx⟩

/-- A transaction the selection refuses is refused for another reason than
its nonce. -/
theorem Pass.refused {snapshot : LedgerSnapshot} {accepted pending : List Transaction}
    {tx : Transaction} {e : LedgerError} (hdb : NonceOrder db)
    (h : c.orderAt db (.selecting snapshot accepted (tx :: pending)) s)
    (herror : ∀ d, (fromSnapshot snapshot).validateTransactionsForNextBlock c.runtime.host.arith d
      (accepted ++ [tx]) = .error e) : e ≠ .invalidNonce := by
  obtain ⟨hload, -, hacc, hsub, -⟩ := h
  have hmem : tx ∈ c.batch db := hsub.subset (by simp)
  obtain ⟨r, hr, hst, rfl⟩ := Pass.row_of_mem_batch hmem
  refine refused_not_for_nonce ((hload.accepts_iff accepted).mpr hacc) ?_ ?_
    (herror fun _ => ⟨"", 0⟩)
  · -- the nonces of the ledger are those of the finalized rows
    obtain ⟨u, hu, rfl⟩ := hload
    refine PaymentIndex.nonces_lt (hdb.positive r hr) fun p hp hfin hfrom => ?_
    obtain ⟨q, hq, rfl⟩ := Database.mem_payments.mp hp
    rw [hu.transactions] at hq
    exact hdb.pending r hr hst q hq hfin hfrom
  · intro x hx hfrom
    obtain ⟨q, hq, -, rfl⟩ := Pass.row_of_mem_batch (c := c) (hsub.subset (List.mem_append_left _ hx))
    have hsorted := (db.pendingTransactions_pairwise _ _).sublist hsub
    exact hdb.nonce_lt hq hr hfrom
      ((List.pairwise_append.mp hsorted).2.2 _ hx _ List.mem_cons_self)

/-- The rows after the save of a block: its transactions are finalized, all
other payments are as they were when the pass started. -/
theorem Pass.saved_row {snapshot : LedgerSnapshot} {accepted : List Transaction} {block : Block}
    {final : InMemoryLedger} {s' : Database}
    (h : c.orderAt db (.selecting snapshot accepted []) s)
    (hblock : PassBlock c.runtime (fromSnapshot snapshot) accepted block final)
    (hsave : s.saveSnapshot final.snapshot = .ok s') :
    SamePayments db s' ∧ ∀ r' ∈ s'.transactions.rows, ∃ r ∈ db.transactions.rows,
      r.SameRequest r' ∧
        ((r.toTransaction ∈ accepted ∧ r'.status = .finalized) ∨
          (r.toTransaction ∉ accepted ∧ r'.status = r.status ∧
            r'.failureReason = r.failureReason)) := by
  obtain ⟨⟨u, hu, rfl⟩, hsame, -, hsub, -⟩ := h
  rw [List.append_nil] at hsub
  have hsaved := hblock.savedPayment (u := u) rfl hsave
  have hfate : ∀ id, (db.transactions.find? id = none ∧ s'.transactions.find? id = none) ∨
      ∃ r r', db.transactions.find? id = some r ∧ s'.transactions.find? id = some r' ∧
        r.SameRequest r' ∧
        ((r.toTransaction ∈ accepted ∧ r'.status = .finalized) ∨
          (r.toTransaction ∉ accepted ∧ r'.status = r.status ∧
            r'.failureReason = r.failureReason)) := by
    intro id
    have hid := hsaved id
    have hs := hsame id
    generalize s'.transactions.find? id = row' at hid
    cases hid with
    | finalized tx now htx hid =>
      subst hid
      obtain ⟨r, hr, -, htx'⟩ := Database.of_mem_pendingTransactions (hsub.subset htx)
      rw [hr] at hs
      generalize s.transactions.find? tx.id = old at hs ⊢
      cases hs with
      | some hs => exact .inr ⟨r, _, hr, rfl, hs.trans (.merge _ _), .inl ⟨htx' ▸ htx, rfl⟩⟩
    | restored row hrow hother =>
      rw [hu.transactions] at hrow
      rw [hrow] at hs
      generalize s.transactions.find? id = old at hs ⊢
      cases hs with
      | some hs =>
        have hid : row.id = id := Table.key_of_find? hrow
        exact .inr ⟨row, _, hrow, rfl, hs.trans (.merge _ _),
          .inr ⟨fun hin => hother _ hin hid, rfl, rfl⟩⟩
    | untouched hnew hother =>
      rw [hu.transactions] at hnew
      rw [hnew] at hs
      generalize s.transactions.find? id = old at hs ⊢
      cases hs with
      | none => exact .inl ⟨hnew, rfl⟩
  refine ⟨fun id => ?_, fun r' hr' => ?_⟩
  · rcases hfate id with ⟨hdb, hs'⟩ | ⟨r, r', hdb, hs', hreq, -⟩
    · rw [hdb, hs']
      exact .none
    · rw [hdb, hs']
      exact .some hreq
  · rcases hfate r'.id with ⟨-, hs'⟩ | ⟨r, q, hdb, hs', hreq, hst⟩
    · rw [Table.mem_rows_iff.mp hr'] at hs'
      cases hs'
    · rw [Table.mem_rows_iff.mp hr'] at hs'
      cases hs'
      exact ⟨r, Table.mem_of_find? hdb, hreq, hst⟩

/-- The save keeps the order: a payment that is refused and back in the queue
comes after what the block finalizes. -/
theorem Pass.save_clean {snapshot : LedgerSnapshot} {accepted : List Transaction} {block : Block}
    {final : InMemoryLedger} {s' : Database} (hdb : NonceClean db) (hlast : c.RefusesLast db)
    (h : c.orderAt db (.selecting snapshot accepted []) s)
    (hblock : PassBlock c.runtime (fromSnapshot snapshot) accepted block final)
    (hsave : s.saveSnapshot final.snapshot = .ok s') : NonceClean s' := by
  obtain ⟨hsame, hrows⟩ := Pass.saved_row h hblock hsave
  obtain ⟨hload, -, -, hsub, hsel⟩ := h
  rw [List.append_nil] at hsub
  have hselection : c.selection db = accepted := hsel.symm
  have hleads : c.Leads db := hblock.leads hload
  refine ⟨hdb.order.of_same hsame fun r hr hst r' hr' hst' hfrom => ?_, fun r hr hrej => ?_⟩
  · obtain ⟨q, hq, hs, hfate⟩ := hrows r hr
    obtain ⟨q', hq', hs', hfate'⟩ := hrows r' hr'
    rw [hs.nonce, hs'.nonce]
    rw [hs.fromAccount, hs'.fromAccount] at hfrom
    rcases hfate with ⟨-, hfin⟩ | ⟨hout, hpending, -⟩
    · rw [hst] at hfin
      cases hfin
    rw [hst] at hpending
    rcases hfate' with ⟨hin, -⟩ | ⟨-, hfinalized, -⟩
    · by_cases hbatch : q.toTransaction ∈ c.batch db
      · exact hlast hleads _ hbatch (hselection ▸ hout) _ (hselection ▸ hin) hfrom
      · exact hdb.order.nonce_lt hq' hq hfrom
          (Database.before_of_not_mem_pendingTransactions hq hpending.symm hbatch (hsub.subset hin))
    · rw [hst'] at hfinalized
      exact hdb.order.pending q hq hpending.symm q' hq' hfinalized.symm hfrom
  · obtain ⟨q, hq, -, hfate⟩ := hrows r hr
    rcases hfate with ⟨-, hfin⟩ | ⟨-, hst, hreason⟩
    · rw [hrej.1] at hfin
      cases hfin
    · exact hdb.notRejected q hq ⟨hst.symm.trans hrej.1, hreason.symm.trans hrej.2⟩

theorem NonceClean.rejectTransaction (h : NonceClean s) (id : String) {e : LedgerError}
    (he : e ≠ .invalidNonce) (now : DateTime) :
    NonceClean (s.rejectTransaction id e.message now) := by
  refine ⟨h.order.rejectTransaction id _ now, fun r hr hrej => ?_⟩
  rw [Table.mem_rows_iff, Database.rejectTransaction, Database.find?_updatePayment,
    Option.map_eq_some_iff] at hr
  obtain ⟨q, hq, hqr⟩ := hr
  split at hqr
  · subst hqr
    exact LedgerError.message_ne_invalidNonce he (Option.some.inj hrej.2)
  · subst hqr
    exact h.notRejected q (Table.mem_of_find? hq) hrej

end

theorem missingBlockHash_ne : LedgerError.missingBlockHash ≠ .invalidNonce := nofun

/-- The assertions of `Pass.orderAt` along a pass that runs alone. -/
def Pass.orderOutline (c : Pass) (db : Database) (hdb : NonceClean db) (hlast : c.RefusesLast db) :
    PassOutline .plain c.runtime c.session Eq (fun s s' => NonceClean s → NonceClean s')
      (fun _ _ => True) where
  holds := c.orderAt db
  rely_refl := fun _ => rfl
  rely_trans := fun _ _ _ => Eq.trans
  guar_refl := fun _ h => h
  stable := fun ph s s' h hs => hs ▸ h
  bookkeeping := by
    intro ph s t u h
    refine ⟨fun hs => hs.of_eq rfl, ?_⟩
    cases ph with
    | idle => exact SameLedger.withBookkeeping h t u
    | locked => exact SameLedger.withBookkeeping h t u
    | loaded snapshot => exact ⟨h.1.withBookkeeping t u, h.2⟩
    | selecting snapshot accepted pending => exact ⟨h.1, h.2.1, h.2.2⟩
    | failing txs => trivial
    | saved block => trivial
  lock := fun s h _ => ⟨fun hs => hs.of_eq rfl, SameLedger.withLock h _⟩
  load := by
    rintro s s' snapshot h rfl hload
    refine ⟨h, s, h, hload.eq_readSnapshot ?_⟩
    rintro _ ⟨w, -, rfl, rfl⟩
    rfl
  take := by
    rintro s snapshot ⟨hsame, hload⟩
    have hbatch : (DbView.plain.db s).pendingTransactions c.runtime.maxTransactionsPerBlock 0 =
        c.batch db := hsame.batch c
    rw [hbatch]
    exact ⟨hload, .of_eq hsame.transactions, fun _ => rfl, List.Sublist.refl _, rfl⟩
  accept := by
    rintro s snapshot accepted tx pending ⟨hload, hsame, -, hsub, hsel⟩ haccepts
    have hacc := (hload.accepts_iff _).mp haccepts
    rw [Pass.selectFrom, if_pos hacc] at hsel
    rw [List.append_cons] at hsub
    exact ⟨hload, hsame, hacc, hsub, hsel⟩
  reject := by
    intro s snapshot accepted tx pending e now h herror
    have he := Pass.refused hdb.order h herror
    obtain ⟨hload, hsame, hacc, hsub, hsel⟩ := h
    have hrefused : ¬ Accepts c.runtime.host.arith (c.ledger db) (accepted ++ [tx]) := by
      intro haccepts
      have hok := (hload.accepts_iff _).mpr haccepts fun _ => ⟨"", 0⟩
      rw [herror] at hok
      cases hok
    rw [Pass.selectFrom, if_neg hrefused] at hsel
    refine ⟨fun hs => hs.rejectTransaction tx.id he now, hload, ?_, hacc, ?_, hsel⟩
    · exact hsame.trans (.updatePayment _ _ _ _ _ _)
    · exact (List.Sublist.append_left (List.sublist_cons_self tx pending) accepted).trans hsub
  save := fun s s' snapshot accepted block final h _ hblock _ hsave =>
    ⟨fun _ => Pass.save_clean hdb hlast h hblock hsave, trivial⟩
  fail := fun _ _ _ _ => trivial
  failReject := fun s tx txs now _ =>
    ⟨fun hs => hs.rejectTransaction tx.id missingBlockHash_ne now, trivial⟩
  unlock := fun s _ hs => hs.of_eq rfl
  savedUnlock := fun block s h => h

/-! ## Sequences of calls -/

/-- A call of the node or a pass of a validator. -/
inductive SequentialCall where
  | submission (n : KaniNode) (c : Submission)
  | approve (d : Draws) (caseId : String) (reviewer reason : Option String)
  | pass (c : Pass)

namespace SequentialCall

/-- The program of a call, its result dropped. -/
def body : SequentialCall → StoreProg NodeError Unit
  | .submission n c => do
    let _ ← c.body n
  | .approve d caseId reviewer reason => do
    let _ ← (PostgresLedgerStore.approveComplianceCase d caseId reviewer reason).mapError .storage
  | .pass c => do
    let _ ← c.body

/-- A request is created later than all payments of its account, an approval
releases nothing that a later payment has overtaken, and a pass refuses
nothing before what it accepts of the same account. -/
def InOrder : SequentialCall → Database → Prop
  | .submission _ c, db => c.CreatedLast db
  | .approve _ caseId _ _, db => NothingLater caseId db
  | .pass c, db => c.RefusesLast db

theorem keepsNonces (c : SequentialCall) {db : Database} (hdb : NonceClean db) (h : c.InOrder db) :
    KeepsNonces c.body db := by
  cases c with
  | submission n c => exact (c.inOrder n hdb h).bind_pure fun _ => ()
  | approve d caseId reviewer reason =>
    exact KeepsNonces.bind_pure (.mapError (approveComplianceCase_inOrder d reviewer reason hdb h))
      fun _ => ()
  | pass c =>
    have hpass : KeepsNonces c.body db :=
      ((c.orderOutline db hdb h).safe_runOnce (SameLedger.refl db)).mono
        (fun _ _ h => h) (fun _ _ h => h) (fun _ _ h => h) fun _ _ _ => trivial
    exact hpass.bind_pure fun _ => ()

end SequentialCall

/-- In every sequence of submissions, approvals and passes over a seeded
database whose calls are in order, no pass rejects a payment for its nonce:
no state on the way has a row with that reason. -/
theorem approved_not_refused {settings : Settings} {d : Draws} {db : Database}
    (hseed : (Database.empty settings).saveSnapshot (sandbox d).snapshot = .ok db)
    {calls : List SequentialCall}
    (h : Prog.Along Sql.exec SequentialCall.body SequentialCall.InOrder calls db) :
    ∀ s ∈ db :: Prog.statesAll Sql.exec SequentialCall.body calls db,
      ∀ r ∈ s.transactions.rows, ¬ r.NonceRejected := by
  have hrows : db.transactions.rows = [] := by
    rw [(Database.saveSnapshot_eq_ok hseed).transactions]
    rfl
  have hdb : NonceClean db := by
    refine ⟨.of_empty hrows, ?_⟩
    rw [hrows]
    exact fun r hr => absurd hr List.not_mem_nil
  have hsafe : ∀ c s, NonceClean s → SequentialCall.InOrder c s →
      (SequentialCall.body c).Safe Sql.exec Eq (fun s s' => NonceClean s → NonceClean s')
        (fun _ _ => True) (fun _ _ => True) s := fun c s hclean hc => c.keepsNonces hclean hc
  exact fun s hs => (Prog.statesAll_inv hsafe hdb h s hs).notRejected

/-! ## A review that takes too long -/

/-- Funds for corporation A, and a payment of it that is held. -/
def exampleHeldLate : List SequentialCall :=
  let node : KaniNode := ⟨.sample, phase1Engine, .hybridPqcV1⟩
  [.submission node (.mintSandbox (.numbered "mint" 1000) SANDBOX_TREASURY_ACCOUNT
      SANDBOX_CORP_A_ACCOUNT KCAD_TEST 100),
    .submission node (.holdPaymentForReview (.numbered "hold" 2000) SANDBOX_CORP_A_ACCOUNT
      SANDBOX_CORP_B_ACCOUNT KCAD_TEST 5 none ⟨"", "policy", "rule", "review", ""⟩)]

/-- Another payment of the account. -/
def exampleLater : SequentialCall :=
  .submission ⟨.sample, phase1Engine, .hybridPqcV1⟩ (.submitPayment (.numbered "pay" 3000)
    SANDBOX_CORP_A_ACCOUNT SANDBOX_CORP_B_ACCOUNT KCAD_TEST 5 none)

def exampleApproval : SequentialCall :=
  .approve (.numbered "approve" 5000) (uuidNamed "hold-1-1") none none

def exampleSequentialPass (validatorId : String) (now : DateTime) : SequentialCall :=
  .pass ⟨.connect .sample validatorId, 0, .numbered validatorId now⟩

/-- Time moves on from request to request. -/
def SequentialCall.InTime : SequentialCall → Database → Prop
  | .submission _ c, db => c.CreatedLast db
  | _, _ => True

/-- The later payment is finalized while the first is held; the review then
releases the first, and the next pass rejects it for its nonce. -/
theorem approved_too_late :
    let db := Database.seeded (.numbered "seed" 0)
    let calls := exampleHeldLate ++ [exampleLater, exampleSequentialPass "validator-a" 4000, exampleApproval,
      exampleSequentialPass "validator-b" 6000]
    Prog.Along Sql.exec SequentialCall.body SequentialCall.InTime calls db ∧
      ∃ r ∈ (Prog.execAll Sql.exec SequentialCall.body calls db).transactions.rows,
        r.id = (uuidNamed "hold-0") ∧ r.NonceRejected := by
  intro db calls
  refine ⟨⟨?_, ?_, ?_, trivial, trivial, trivial, trivial⟩, ?_⟩
  · show Submission.CreatedLast _ _
    decide +kernel
  · show Submission.CreatedLast _ _
    decide +kernel
  · show Submission.CreatedLast _ _
    decide +kernel
  · unfold TransactionRow.NonceRejected
    decide +kernel

/-- A review in time. -/
theorem approved_not_refused_example :
    let db := Database.seeded (.numbered "seed" 0)
    let calls := exampleHeldLate ++
      [exampleLater, exampleApproval, exampleSequentialPass "validator-a" 6000]
    (Prog.execAll Sql.exec SequentialCall.body calls db).paymentStatus (uuidNamed "hold-0") =
        some .finalized ∧
      ∀ s ∈ db :: Prog.statesAll Sql.exec SequentialCall.body calls db,
        ∀ r ∈ s.transactions.rows, ¬ r.NonceRejected := by
  intro db calls
  refine ⟨by decide +kernel, approved_not_refused Database.seeded_numbered
    ⟨?_, ?_, ?_, ?_, ?_, trivial⟩⟩
  · show Submission.CreatedLast _ _
    decide +kernel
  · show Submission.CreatedLast _ _
    decide +kernel
  · show Submission.CreatedLast _ _
    decide +kernel
  · exact NothingLater.of_none (by decide +kernel)
  · exact Pass.RefusesLast.of_all (by decide +kernel)

end KaniNetwork
