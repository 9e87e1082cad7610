/-
KaniNetwork.Store.CaseResolution — the in-memory ledger and the database
resolve a case.

Both write the case. `InMemoryLedger` then writes the status of the payment
whatever it was; `PostgresLedgerStore` writes it `WHERE status = 'HELD'`. A
ledger can hold an open case whose payment is no longer held: a block that
contains the held transaction finalizes the payment and does not look at
the cases. There the in-memory approval takes a finalized payment back to
`PENDING` (`not_stores_resolve_alike`). The columns also refuse a reviewer
or a reason that is no text. `stores_resolve_alike_iff` says exactly where
the two agree.
-/
import KaniNetwork.Ledger.SnapshotRoundTrip
import KaniNetwork.Store.CaseRaces

namespace KaniNetwork

/-! ## The two stores -/

/-- Status, failure reason and block height of a payment. -/
abbrev PaymentOutcome := TransactionStatus × Option String × Option Int

def PaymentRecord.outcome (p : PaymentRecord) : PaymentOutcome :=
  (p.status, p.failureReason, p.blockHeight)

def TransactionRow.outcome (r : TransactionRow) : PaymentOutcome :=
  (r.status, r.failureReason, r.blockHeight)

def InMemoryLedger.paymentOutcome (l : InMemoryLedger) (id : String) : Option PaymentOutcome :=
  (l.payments.lookup id).map PaymentRecord.outcome

def Database.paymentOutcome (db : Database) (id : String) : Option PaymentOutcome :=
  (db.transactions.find? id).map TransactionRow.outcome

def InMemoryLedger.caseStatus (l : InMemoryLedger) (id : String) : Option ComplianceCaseStatus :=
  (l.complianceCases.lookup id).map ComplianceCase.status

def Database.caseStatus (db : Database) (id : String) : Option ComplianceCaseStatus :=
  (db.complianceCases.find? id).map ComplianceCase.status

/-- The rows of the database are those of the payments and cases of the
ledger, the cases in a column of uuids. -/
structure SameCases (l : InMemoryLedger) (db : Database) : Prop where
  uuids : ∀ id c, db.complianceCases.find? id = some c → uuidOk id = true
  payments : ∀ id, db.transactions.find? id = (l.payments.lookup id).map TransactionRow.ofPayment
  cases : ∀ id, db.complianceCases.find? id =
    (l.complianceCases.lookup id).map ComplianceCase.stored

namespace ReviewCall

def caseId : ReviewCall → String
  | approve _ caseId _ _ => caseId
  | reject _ caseId _ _ => caseId

/-- The same call on the in-memory ledger. -/
def inMemory :
    ReviewCall → Method InMemoryLedger LedgerError (ComplianceCase × PaymentRecord)
  | approve d caseId reviewer reason =>
    InMemoryLedger.approveComplianceCase d caseId reviewer reason
  | reject d caseId reviewer reason =>
    InMemoryLedger.rejectComplianceCase d caseId reviewer reason

/-- The status the call gives to the case. -/
def verdict : ReviewCall → ComplianceCaseStatus
  | approve .. => .approved
  | reject .. => .rejected

/-- The status the call gives to the payment, and the failure reason. -/
def target : ReviewCall → TransactionStatus × Option String
  | approve .. => (.pending, none)
  | reject _ _ _ reason => (.rejected, some (reason.getD "compliance case rejected"))

/-- The columns take the reviewer and the reason. -/
def textOk : ReviewCall → Bool
  | approve _ _ reviewer reason | reject _ _ reviewer reason =>
    reviewer.all isText && reason.all isText

/-- What the call makes of the case. -/
def resolve : ReviewCall → ComplianceCase → ComplianceCase
  | approve d _ reviewer reason => (·.approved (d.sub 0).stamp.now reviewer reason)
  | reject d _ reviewer reason => (·.rejected (d.sub 0).stamp.now reviewer reason)

/-- The transaction the call commits. -/
def statement : ReviewCall → ComplianceCase → Statement
  | approve d _ _ _ => (.approveCase · (d.sub 1).stamp.now)
  | reject d _ _ reason =>
    (.rejectCase · (reason.getD "compliance case rejected") (d.sub 1).stamp.now)

theorem body_eq (call : ReviewCall) : call.body =
    (do
      let current ← PostgresLedgerStore.complianceCase call.caseId
      .ofExcept (PostgresLedgerStore.ensureStorageCaseNotTerminal current)
      let _ ← execute (call.statement (call.resolve current))
      reviewed (call.resolve current)) := by
  cases call <;> rfl

/-- The ledger after the call. -/
def ledgerAfter (call : ReviewCall) (l : InMemoryLedger) : InMemoryLedger := (call.inMemory l).1

/-- The database after the call. -/
def databaseAfter (call : ReviewCall) (db : Database) : Database :=
  (call.body.exec Sql.exec db).1

end ReviewCall

/-- The two stores leave the case `c` and its payment alike, and neither
changes the status of a payment that is not held. -/
structure ResolvesAlike (call : ReviewCall) (l : InMemoryLedger) (db : Database)
    (c : ComplianceCase) : Prop where
  case_alike : (call.ledgerAfter l).caseStatus call.caseId =
    (call.databaseAfter db).caseStatus call.caseId
  payment_alike : (call.ledgerAfter l).paymentOutcome c.paymentId =
    (call.databaseAfter db).paymentOutcome c.paymentId
  unheld_kept : ∀ p, l.payments.lookup c.paymentId = some p → p.status ≠ .held →
    (call.ledgerAfter l).paymentOutcome c.paymentId = some p.outcome

/-- What the unguarded write of the in-memory ledger needs to be harmless:
the case is terminal, or its payment exists and is held, or has already the
status and the failure reason the call writes. A review whose texts the
columns refuse has to fail in the ledger too, for want of the payment. -/
def ReviewCall.Harmless (call : ReviewCall) (l : InMemoryLedger) (c : ComplianceCase) : Prop :=
  c.status.isTerminal = true ∨
    (call.textOk = true ∧ ∃ p, l.payments.lookup c.paymentId = some p ∧
      (p.status = .held ∨ (p.status, p.failureReason) = call.target)) ∨
    (call.textOk = false ∧ l.payments.lookup c.paymentId = none)

/-! ## Records under their ids -/

/-- Payments and cases are filed under their ids. -/
structure Filed (l : InMemoryLedger) : Prop where
  payments : ∀ id p, l.payments.lookup id = some p → p.transaction.id = id
  cases : ∀ id c, l.complianceCases.lookup id = some c → c.id = id

theorem filed_run (ar : Arith) (d : Draws) (ops : List LedgerOp) :
    Filed ((InMemoryLedger.sandbox d).run ar ops) :=
  have hkeys := InMemoryLedger.keysCoherent_run ar d ops
  ⟨hkeys.payments, hkeys.complianceCases⟩

/-! ## One call on each store -/

section

variable {call : ReviewCall} {l : InMemoryLedger} {db : Database} {c : ComplianceCase}

/-- The ledger writes only after it found an open case and its payment. -/
theorem ledgerAfter_kept (hkept : ∀ c p, l.complianceCases.lookup call.caseId = some c →
    c.status.isTerminal = false → l.payments.lookup c.paymentId ≠ some p) :
    call.ledgerAfter l = l := by
  cases call with
  | approve d id reviewer reason =>
    refine (InMemoryLedger.approveComplianceCase_commits d id reviewer reason).preserves
      (I := (· = l)) rfl ?_
    intro l' r hok
    obtain ⟨c, p, hc, hopen, hp, -⟩ := InMemoryLedger.approveComplianceCase_eq_ok hok
    exact absurd hp (hkept c p hc hopen)
  | reject d id reviewer reason =>
    refine (InMemoryLedger.rejectComplianceCase_commits d id reviewer reason).preserves
      (I := (· = l)) rfl ?_
    intro l' r hok
    obtain ⟨c, p, hc, hopen, hp, -⟩ := InMemoryLedger.rejectComplianceCase_eq_ok hok
    exact absurd hp (hkept c p hc hopen)

/-- A case that is already terminal is left alone. -/
theorem ledgerAfter_terminal (hc : l.complianceCases.lookup call.caseId = some c)
    (hdone : c.status.isTerminal = true) : call.ledgerAfter l = l := by
  refine ledgerAfter_kept ?_
  intro c' p hc' hopen
  rw [hc] at hc'
  cases hc'
  rw [hdone] at hopen
  cases hopen

/-- Without its payment an open case is left alone by the ledger. -/
theorem ledgerAfter_missing (hc : l.complianceCases.lookup call.caseId = some c)
    (hp : l.payments.lookup c.paymentId = none) : call.ledgerAfter l = l := by
  refine ledgerAfter_kept ?_
  intro c' p hc' _ hp'
  rw [hc] at hc'
  cases hc'
  rw [hp] at hp'
  cases hp'

/-- The ledger writes an open case and its payment, whatever its status. -/
theorem ledgerAfter_open (hfiled : Filed l) (hc : l.complianceCases.lookup call.caseId = some c)
    (hopen : c.status.isTerminal = false) {p : PaymentRecord}
    (hp : l.payments.lookup c.paymentId = some p) :
    (call.ledgerAfter l).caseStatus call.caseId = some call.verdict ∧
      (call.ledgerAfter l).paymentOutcome c.paymentId =
        some (call.target.1, call.target.2, p.blockHeight) := by
  have hget : l.getComplianceCase call.caseId = .ok c :=
    InMemoryLedger.getComplianceCase_eq_ok_iff.mpr hc
  have hensure : InMemoryLedger.ensureCaseNotTerminal c = .ok () :=
    InMemoryLedger.ensureCaseNotTerminal_eq_ok_iff.mpr hopen
  have hpayment : l.getPayment c.paymentId = .ok p := InMemoryLedger.getPayment_eq_ok_iff.mpr hp
  have hcaseId := hfiled.cases _ c hc
  have hpaymentId := hfiled.payments _ p hp
  -- the two calls file a record of the payment and one of the case
  have hwrite : ∀ (p' : PaymentRecord) (c' : ComplianceCase), p'.transaction = p.transaction →
      c'.id = c.id → call.ledgerAfter l = l.filePaymentAndCase p' c' →
      (call.ledgerAfter l).caseStatus call.caseId = some c'.status ∧
        (call.ledgerAfter l).paymentOutcome c.paymentId = some p'.outcome := by
    intro p' c' htx hid hafter
    rw [hafter, InMemoryLedger.caseStatus, InMemoryLedger.paymentOutcome,
      InMemoryLedger.filePaymentAndCase]
    simp only [HashMap.lookup_insert_eq, htx, hid, hcaseId, hpaymentId, if_true, Option.map_some,
      and_self]
  cases call with
  | approve d id reviewer reason =>
    simp only [ReviewCall.caseId] at hget
    refine hwrite (p.markPending (d.sub 0).stamp.now)
      (c.approved (d.sub 1).stamp.now reviewer reason) rfl rfl ?_
    simp only [ReviewCall.ledgerAfter, ReviewCall.inMemory, InMemoryLedger.approveComplianceCase,
      Method.get_bind, hget, Method.ofExcept_ok_bind, hensure, hpayment, Method.modify_bind]
    rfl
  | reject d id reviewer reason =>
    simp only [ReviewCall.caseId] at hget
    refine hwrite (p.markRejected (d.sub 0).stamp.now (reason.getD "compliance case rejected"))
      (c.rejected (d.sub 1).stamp.now reviewer reason) rfl rfl ?_
    simp only [ReviewCall.ledgerAfter, ReviewCall.inMemory, InMemoryLedger.rejectComplianceCase,
      Method.get_bind, hget, Method.ofExcept_ok_bind, hensure, hpayment, Method.modify_bind]
    rfl

/-- The read of a case by an id the column wrote. -/
theorem exec_complianceCase {id : String} (hid : uuidOk id = true)
    (hc : db.complianceCases.find? id = some c) :
    (PostgresLedgerStore.complianceCase id).exec Sql.exec db = (db, .ok c) := by
  have huuid : PostgresLedgerStore.uuidParam id = .ok id :=
    PostgresLedgerStore.uuidParam_eq_ok_iff.mpr (of_decide_eq_true hid)
  simp only [PostgresLedgerStore.complianceCase, huuid, Prog.ofExcept_ok, Prog.ok_bind, query,
    Prog.exec_bind, Prog.exec_call, Prog.exec_ok, Sql.exec_read, Query.eval, hc, Prog.pure_eq]

variable (hid : uuidOk call.caseId = true)

include hid

/-- A case that is already terminal is left alone by the database. -/
theorem databaseAfter_terminal (hc : db.complianceCases.find? call.caseId = some c)
    (hdone : c.status.isTerminal = true) : call.databaseAfter db = db := by
  have hensure : PostgresLedgerStore.ensureStorageCaseNotTerminal c =
      .error (.terminalComplianceCase c.id c.status.toDb) := if_pos hdone
  rw [ReviewCall.databaseAfter, ReviewCall.body_eq, Prog.exec_bind, exec_complianceCase hid hc]
  simp only [hensure, Prog.ofExcept_error, Prog.fail_bind, Prog.exec_fail]

omit hid in
/-- Reading the payment at the end leaves the database as it is. -/
theorem exec_reviewed_fst (db : Database) (c : ComplianceCase) :
    ((reviewed c).exec Sql.exec db).1 = db := by
  rw [reviewed, PostgresLedgerStore.payment]
  cases PostgresLedgerStore.uuidParam c.paymentId with
  | error e => rfl
  | ok id =>
    simp only [Prog.ofExcept_ok, Prog.ok_bind, query, Prog.exec_bind, Prog.exec_call, Prog.exec_ok,
      Sql.exec_read]
    cases Query.eval db (.payment id) with
    | none => rfl
    | some p => rfl

omit hid in
/-- The transaction is rolled back where a column refuses a text. -/
theorem exec_statement_fst (db : Database) (c : ComplianceCase) :
    ∃ now, ((do
      let _ ← execute (call.statement (call.resolve c))
      reviewed (call.resolve c)).exec Sql.exec db).1 =
        if call.textOk then
          (db.updateComplianceCase (call.resolve c)).updatePayment c.paymentId .held call.target.1
            call.target.2 now
        else db := by
  cases call with
  | approve d id reviewer reason =>
    refine ⟨(d.sub 1).stamp.now, ?_⟩
    have hrun := Statement.run_approveCase (c.approved (d.sub 0).stamp.now reviewer reason)
      (d.sub 1).stamp.now db
    have htexts : (c.approved (d.sub 0).stamp.now reviewer reason).verdictTextOk =
        ReviewCall.textOk (.approve d id reviewer reason) := rfl
    rw [htexts] at hrun
    rw [Prog.exec_bind]
    cases htext : ReviewCall.textOk (.approve d id reviewer reason) with
    | true =>
      rw [if_pos htext] at hrun
      simp only [ReviewCall.statement, ReviewCall.resolve, exec_execute_ok hrun]
      exact exec_reviewed_fst _ _
    | false =>
      rw [if_neg (by rw [htext]; simp)] at hrun
      simp only [ReviewCall.statement, ReviewCall.resolve, exec_execute_error hrun]
      rfl
  | reject d id reviewer reason =>
    refine ⟨(d.sub 1).stamp.now, ?_⟩
    have hrun := Statement.run_rejectCase (c.rejected (d.sub 0).stamp.now reviewer reason)
      (reason.getD "compliance case rejected") (d.sub 1).stamp.now db
    have htexts : ((c.rejected (d.sub 0).stamp.now reviewer reason).verdictTextOk &&
        isText (reason.getD "compliance case rejected")) =
          ReviewCall.textOk (.reject d id reviewer reason) := by
      have hdefault : isText "compliance case rejected" = true := by decide
      cases reason with
      | none => exact (congrArg _ hdefault).trans (Bool.and_true _)
      | some reason =>
        show ((_ && isText reason) && isText reason) = (_ && isText reason)
        rw [Bool.and_assoc, Bool.and_self]
        rfl
    rw [htexts] at hrun
    rw [Prog.exec_bind]
    cases htext : ReviewCall.textOk (.reject d id reviewer reason) with
    | true =>
      rw [if_pos htext] at hrun
      simp only [ReviewCall.statement, ReviewCall.resolve, exec_execute_ok hrun]
      exact exec_reviewed_fst _ _
    | false =>
      rw [if_neg (by rw [htext]; simp)] at hrun
      simp only [ReviewCall.statement, ReviewCall.resolve, exec_execute_error hrun]
      rfl

/-- What a resolution does to the database. -/
theorem databaseAfter_eq (hc : db.complianceCases.find? call.caseId = some c)
    (hopen : c.status.isTerminal = false) :
    ∃ now, call.databaseAfter db = if call.textOk then
      (db.updateComplianceCase (call.resolve c)).updatePayment c.paymentId .held call.target.1
        call.target.2 now
      else db := by
  have hensure : PostgresLedgerStore.ensureStorageCaseNotTerminal c = .ok () :=
    if_neg (by rw [hopen]; simp)
  rw [ReviewCall.databaseAfter, ReviewCall.body_eq, Prog.exec_bind, exec_complianceCase hid hc]
  simp only [hensure, Prog.ofExcept_ok, Prog.ok_bind]
  exact exec_statement_fst db c

/-- A review whose texts are refused changes nothing. -/
theorem databaseAfter_refused (hc : db.complianceCases.find? call.caseId = some c)
    (hopen : c.status.isTerminal = false) (htext : call.textOk = false) :
    call.databaseAfter db = db := by
  obtain ⟨now, hafter⟩ := databaseAfter_eq hid hc hopen
  rwa [htext] at hafter

/-- The database writes an open case, and its payment if it is held. -/
theorem databaseAfter_open (hc : db.complianceCases.find? call.caseId = some c)
    (hopen : c.status.isTerminal = false) (htext : call.textOk = true) :
    (call.databaseAfter db).caseStatus call.caseId = some call.verdict ∧
      (call.databaseAfter db).paymentOutcome c.paymentId =
        (db.paymentOutcome c.paymentId).map fun outcome =>
          if outcome.1 = .held then (call.target.1, call.target.2, outcome.2.2) else outcome := by
  obtain ⟨now, hafter⟩ := databaseAfter_eq hid hc hopen
  rw [if_pos htext] at hafter
  have hresolved : (call.resolve c).id = c.id ∧ (call.resolve c).status = call.verdict := by
    cases call <;> exact ⟨rfl, rfl⟩
  obtain ⟨hkept, hstatus⟩ := hresolved
  rw [hafter]
  constructor
  · have hcases : ∀ (db : Database) target reason,
        (db.updatePayment c.paymentId .held target reason now).caseStatus call.caseId =
          db.caseStatus call.caseId := fun _ _ _ => rfl
    rw [hcases, Database.caseStatus, Database.find?_updateComplianceCase, hc, Option.map_some,
      if_pos hkept.symm, Option.map_some, ← hstatus]
    rfl
  · have hpayments : (db.updateComplianceCase (call.resolve c)).transactions = db.transactions := rfl
    rw [Database.paymentOutcome, Database.find?_updatePayment, hpayments, Database.paymentOutcome,
      Option.map_map, Option.map_map]
    cases hr : db.transactions.find? c.paymentId with
    | none => rfl
    | some r =>
      have hrid := Table.key_of_find? hr
      simp only [Option.map_some, Function.comp_apply, hrid, TransactionRow.outcome]
      by_cases hheld : r.status = .held
      · simp [hheld]
      · simp [hheld]

end

/-! ## Agreement -/

theorem SameCases.paymentOutcome {l : InMemoryLedger} {db : Database} (h : SameCases l db)
    (id : String) : db.paymentOutcome id = l.paymentOutcome id := by
  rw [Database.paymentOutcome, h.payments, Option.map_map]
  rfl

theorem SameCases.caseStatus {l : InMemoryLedger} {db : Database} (h : SameCases l db)
    (id : String) : db.caseStatus id = l.caseStatus id := by
  rw [Database.caseStatus, h.cases, Option.map_map]
  rfl

/-- An open case with its payment: the write of the ledger is harmless where
the database writes too, or where it changes nothing. -/
theorem resolvesAlike_iff_of_payment {call : ReviewCall} {l : InMemoryLedger} {db : Database}
    {c : ComplianceCase} {p : PaymentRecord} (hfiled : Filed l) (hsame : SameCases l db)
    (hc : l.complianceCases.lookup call.caseId = some c) (hopen : c.status.isTerminal = false)
    (htext : call.textOk = true) (hp : l.payments.lookup c.paymentId = some p) :
    ResolvesAlike call l db c ↔
      p.status = .held ∨ (p.status, p.failureReason) = call.target := by
  have hrow : db.complianceCases.find? call.caseId = some c.stored := by
    rw [hsame.cases, hc, Option.map_some]
  obtain ⟨hcase_db, hpayment_db⟩ :=
    databaseAfter_open (c := c.stored) (hsame.uuids _ _ hrow) hrow hopen htext
  obtain ⟨hcase, hpayment⟩ := ledgerAfter_open hfiled hc hopen hp
  have hpid : c.stored.paymentId = c.paymentId := rfl
  have hbefore : l.paymentOutcome c.paymentId = some p.outcome := by
    rw [InMemoryLedger.paymentOutcome, hp, Option.map_some]
  rw [hpid, hsame.paymentOutcome, hbefore, Option.map_some] at hpayment_db
  constructor
  · intro halike
    by_cases hheld : p.status = .held
    · exact .inl hheld
    · have hkept := halike.unheld_kept p hp hheld
      rw [hpayment, Option.some.injEq] at hkept
      simp only [PaymentRecord.outcome, Prod.mk.injEq] at hkept
      exact .inr (Prod.ext hkept.1.symm hkept.2.1.symm)
  · intro hharmless
    have hsame_outcome : p.status ≠ .held →
        (call.target.1, call.target.2, p.blockHeight) = p.outcome := by
      intro hheld
      rcases hharmless with hheld' | htarget
      · exact absurd hheld' hheld
      · rw [← htarget]
        rfl
    refine ⟨hcase.trans hcase_db.symm, ?_, ?_⟩
    · rw [hpayment, hpayment_db]
      by_cases hheld : p.status = .held
      · have houtcome : p.outcome.1 = .held := hheld
        rw [if_pos houtcome]
        rfl
      · have houtcome : p.outcome.1 ≠ .held := hheld
        rw [if_neg houtcome, hsame_outcome hheld]
    · intro p' hp' hheld
      rw [hp] at hp'
      cases hp'
      rw [hpayment, hsame_outcome hheld]

/-- On a ledger with its records filed and a database with the same rows,
the two stores resolve a case alike exactly when the unguarded write is
harmless. -/
theorem resolvesAlike_iff {call : ReviewCall} {l : InMemoryLedger} {db : Database}
    {c : ComplianceCase} (hfiled : Filed l) (hsame : SameCases l db)
    (hc : l.complianceCases.lookup call.caseId = some c) :
    ResolvesAlike call l db c ↔ call.Harmless l c := by
  have hrow : db.complianceCases.find? call.caseId = some c.stored := by
    rw [hsame.cases, hc, Option.map_some]
  have hid := hsame.uuids _ _ hrow
  have hsameAfter : call.ledgerAfter l = l → call.databaseAfter db = db → ResolvesAlike call l db c := by
    intro hledger hdatabase
    refine ⟨?_, ?_, ?_⟩
    · rw [hledger, hdatabase, hsame.caseStatus]
    · rw [hledger, hdatabase, hsame.paymentOutcome]
    · intro p hp _
      rw [hledger, InMemoryLedger.paymentOutcome, hp, Option.map_some]
  -- a resolved case and the open one differ in their status
  have hresolved : c.status.isTerminal = false → c.status ≠ call.verdict := by
    intro hopen hverdict
    rw [hverdict] at hopen
    cases call <;> cases hopen
  unfold ReviewCall.Harmless
  cases hdone : c.status.isTerminal with
  | true =>
    exact iff_of_true (hsameAfter (ledgerAfter_terminal hc hdone)
      (databaseAfter_terminal (c := c.stored) hid hrow hdone)) (.inl rfl)
  | false =>
    cases htext : call.textOk with
    | true =>
      cases hp : l.payments.lookup c.paymentId with
      | none =>
        -- the ledger refuses, the database resolves the case
        have hledger := ledgerAfter_missing hc hp
        have hcase_db := (databaseAfter_open (c := c.stored) hid hrow hdone htext).1
        refine iff_of_false ?_ (by simp)
        intro halike
        have hcase := halike.case_alike
        rw [hledger, hcase_db, InMemoryLedger.caseStatus, hc, Option.map_some,
          Option.some.injEq] at hcase
        exact hresolved hdone hcase
      | some p =>
        rw [resolvesAlike_iff_of_payment hfiled hsame hc hdone htext hp]
        simp
    | false =>
      have hdatabase := databaseAfter_refused (c := c.stored) hid hrow hdone htext
      cases hp : l.payments.lookup c.paymentId with
      | none => exact iff_of_true (hsameAfter (ledgerAfter_missing hc hp) hdatabase) (by simp)
      | some p =>
        -- the ledger resolves the case, the database refuses
        refine iff_of_false ?_ (by simp)
        intro halike
        have hcase := halike.case_alike
        rw [(ledgerAfter_open hfiled hc hdone hp).1, hdatabase, hsame.caseStatus,
          InMemoryLedger.caseStatus, hc, Option.map_some, Option.some.injEq] at hcase
        exact hresolved hdone hcase.symm

/-- A database with the payments and the cases of the ledger. -/
def Database.ofCases (l : InMemoryLedger) : Database :=
  { Database.empty .plain with
    transactions := Table.empty.insertIgnoreAll (l.payments.values.map TransactionRow.ofPayment)
    complianceCases := Table.empty.insertIgnoreAll
      (l.complianceCases.values.map ComplianceCase.stored) }

/-- Every ledger that files its records, the cases under uuids, has a database
with the same rows. -/
theorem sameCases_ofCases {l : InMemoryLedger} (h : Filed l)
    (huuids : ∀ c ∈ l.complianceCases.values, uuidOk c.id = true) : SameCases l (.ofCases l) := by
  have hcases : ∀ id, (Database.ofCases l).complianceCases.find? id =
      (l.complianceCases.lookup id).map ComplianceCase.stored := by
    intro id
    show (Table.empty.insertIgnoreAll _).find? id = _
    rw [Table.find?_insertIgnoreAll, List.find?_map]
    exact congrArg (Option.map ComplianceCase.stored) (HashMap.find?_values h.cases id)
  refine ⟨fun id c hc => ?_, fun id => ?_, hcases⟩
  · obtain ⟨c', hc', rfl⟩ := Option.map_eq_some_iff.mp ((hcases id).symm.trans hc)
    rw [← h.cases id c' hc']
    exact huuids c' (HashMap.mem_values.mpr ⟨id, hc'⟩)
  · show (Table.empty.insertIgnoreAll _).find? id = _
    rw [Table.find?_insertIgnoreAll, List.find?_map]
    exact congrArg (Option.map TransactionRow.ofPayment) (HashMap.find?_values h.payments id)

/-- **When the two stores resolve a case alike.** For every ledger reached
by public operations, every database with the same payments and cases and
every case: the two leave the case and its payment alike exactly when the
case is terminal, or the review is made of texts and its payment exists and
is held, or has already what the call writes, or the review is not made of
texts and its payment does not exist. -/
theorem stores_resolve_alike_iff (ar : Arith) (d₀ : Draws) (ops : List LedgerOp) {db : Database}
    {call : ReviewCall} {c : ComplianceCase}
    (hsame : SameCases ((InMemoryLedger.sandbox d₀).run ar ops) db)
    (hc : ((InMemoryLedger.sandbox d₀).run ar ops).complianceCases.lookup call.caseId = some c) :
    ResolvesAlike call ((InMemoryLedger.sandbox d₀).run ar ops) db c ↔
      call.Harmless ((InMemoryLedger.sandbox d₀).run ar ops) c :=
  resolvesAlike_iff (filed_run ar d₀ ops) hsame hc

/-- A payment of the sandbox to hold, its case, and the blocks around it. -/
def examplePaymentTx : Transaction :=
  .newTransfer ⟨uuidNamed "p-1", 1⟩ SANDBOX_CORP_A_ACCOUNT SANDBOX_CORP_B_ACCOUNT KCAD_TEST 5 1

def exampleHoldOps : List LedgerOp :=
  [.applyBlock (.numbered "b1" 1) ((Block.newUnsealed 1 1 GENESIS_HASH
      [.newMint ⟨uuidNamed "m-1", 1⟩ SANDBOX_TREASURY_ACCOUNT SANDBOX_CORP_A_ACCOUNT KCAD_TEST 100 1]
      "validator-a").sealed "hash-1" [] []),
    .holdPaymentForReview ⟨uuidNamed "case-1", 2⟩ (.held 2 examplePaymentTx "manual review")
      ⟨uuidNamed "p-1", "policy-1", "R1", "manual review", SANDBOX_CORP_A_INSTITUTION⟩]

/-- The block that contains the held transaction. -/
def exampleSettleOp : LedgerOp :=
  .applyBlock (.numbered "b2" 3)
    ((Block.newUnsealed 3 2 "hash-1" [examplePaymentTx] "validator-b").sealed "hash-2" [] [])

def exampleApproveCall : ReviewCall := .approve (.numbered "a" 4) (uuidNamed "case-1") none none

/-- The approval of the held payment is the same on both. -/
theorem stores_resolve_alike_iff_example :
    ∃ c, ((InMemoryLedger.sandbox (.numbered "s" 0)).run .exact exampleHoldOps).complianceCases.lookup
        (uuidNamed "case-1") = some c ∧
      ResolvesAlike exampleApproveCall
        ((InMemoryLedger.sandbox (.numbered "s" 0)).run .exact exampleHoldOps)
        (.ofCases ((InMemoryLedger.sandbox (.numbered "s" 0)).run .exact exampleHoldOps)) c := by
  have hcase : (((InMemoryLedger.sandbox (.numbered "s" 0)).run .exact
      exampleHoldOps).complianceCases.lookup (uuidNamed "case-1")).map ComplianceCase.paymentId =
        some (uuidNamed "p-1") := by decide +kernel
  have hpayment : (((InMemoryLedger.sandbox (.numbered "s" 0)).run .exact
      exampleHoldOps).payments.lookup (uuidNamed "p-1")).map PaymentRecord.status = some .held := by
    decide +kernel
  obtain ⟨c, hc, hpay⟩ := Option.map_eq_some_iff.mp hcase
  obtain ⟨p, hp, hheld⟩ := Option.map_eq_some_iff.mp hpayment
  have hiff := @stores_resolve_alike_iff .exact (.numbered "s" 0) exampleHoldOps _ exampleApproveCall c
    (sameCases_ofCases (filed_run _ _ _) (by decide +kernel)) hc
  exact ⟨c, hc, hiff.mpr (.inr (.inl ⟨by decide, p, hpay.symm ▸ hp, .inl hheld⟩))⟩

/-- After a block with the held transaction, the in-memory approval turns
the finalized payment into a pending one. -/
theorem not_stores_resolve_alike :
    ¬ ∀ (ar : Arith) (d₀ : Draws) (ops : List LedgerOp) (db : Database) (call : ReviewCall)
      (c : ComplianceCase), SameCases ((InMemoryLedger.sandbox d₀).run ar ops) db →
        ((InMemoryLedger.sandbox d₀).run ar ops).complianceCases.lookup call.caseId = some c →
          ResolvesAlike call ((InMemoryLedger.sandbox d₀).run ar ops) db c := by
  intro hall
  have hcase : (((InMemoryLedger.sandbox (.numbered "s" 0)).run .exact
      (exampleHoldOps ++ [exampleSettleOp])).complianceCases.lookup (uuidNamed "case-1")).map
        ComplianceCase.paymentId = some (uuidNamed "p-1") := by decide +kernel
  have hbefore : ((InMemoryLedger.sandbox (.numbered "s" 0)).run .exact
      (exampleHoldOps ++ [exampleSettleOp])).paymentOutcome (uuidNamed "p-1") =
        some (.finalized, none, some 2) := by decide +kernel
  have hafter : (exampleApproveCall.ledgerAfter ((InMemoryLedger.sandbox (.numbered "s" 0)).run .exact
      (exampleHoldOps ++ [exampleSettleOp]))).paymentOutcome (uuidNamed "p-1") =
        some (.pending, none, some 2) := by decide +kernel
  obtain ⟨c, hc, hpay⟩ := Option.map_eq_some_iff.mp hcase
  obtain ⟨p, hp, houtcome⟩ := Option.map_eq_some_iff.mp hbefore
  have hheld : p.status ≠ .held := by
    rw [show p.status = .finalized from congrArg Prod.fst houtcome]
    simp
  have halike := hall .exact (.numbered "s" 0) _ _ exampleApproveCall c
    (sameCases_ofCases (filed_run _ _ _) (by decide +kernel)) hc
  have hkept := halike.unheld_kept p (hpay.symm ▸ hp) hheld
  rw [hpay, hafter, houtcome] at hkept
  cases hkept

end KaniNetwork
