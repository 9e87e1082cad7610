/-
KaniNetwork.Store.Database — the tables of `migrations/` and what the SQL
statements of `PostgresLedgerStore` do to them.

A statement is a function to `Except SqlxError Database`: it checks the
constraints the migrations declare and then rewrites its table. An error
carries no database, so a failed statement, and a failed transaction of
several statements, leaves no trace by construction. Constraints are
checked in the order PostgreSQL checks them: the values on their own, then
the row, then the conflict target, then the other unique indexes, then
references. Values are checked where a request brings them; what
`save_snapshot` and the rejections of a pass write has been read from the
tables or comes from the validator itself.

`blockProductionLock` is the session that holds the advisory lock
`BLOCK_PRODUCTION_LOCK_ID`. Columns no query reads (`balances.updated_at`)
are left out. The `settings` of the database say how texts are sorted and
which long ones an index takes; uuids, all of one shape, are sorted alike by
any collation.
-/
import KaniNetwork.Base.Table
import KaniNetwork.Ledger.Error
import KaniNetwork.Store.Rows

namespace KaniNetwork

/-- A database session; advisory locks belong to sessions. -/
abbrev Session := Nat

def Balance.key (b : Balance) : String × String := (b.accountId, b.asset)

def InstitutionLimit.key (l : InstitutionLimit) : String × String := (l.institutionId, l.asset)

structure Database where
  accounts : Table Account.id
  balances : Table Balance.key
  blocks : Table BlockRow.height
  transactions : Table TransactionRow.id
  journalEntries : Table JournalEntry.id
  auditEvents : Table AuditEvent.id
  validatorStatus : Table ValidatorStatus.validatorId
  institutions : Table Institution.id
  institutionCredentials : Table InstitutionCredential.id
  institutionLimits : Table InstitutionLimit.key
  complianceCases : Table ComplianceCase.id
  blockProductionLock : Option Session
  settings : Settings

/-- The database after the migrations. -/
def Database.empty (settings : Settings) : Database :=
  ⟨.empty, .empty, .empty, .empty, .empty, .empty, .empty, .empty, .empty, .empty, .empty, none,
    settings⟩

/-- One constraint of a statement. -/
def enforce (holds : Bool) (e : SqlxError) : Except SqlxError Unit :=
  if holds then .ok () else .error e

/-! ## The `DO UPDATE SET` lists -/

def Account.merge (old new : Account) : Account :=
  { old with accountType := new.accountType, institutionId := new.institutionId }

def Institution.merge (old new : Institution) : Institution :=
  { new with id := old.id, createdAt := old.createdAt }

def InstitutionLimit.merge (old new : InstitutionLimit) : InstitutionLimit :=
  { old with
    dailyLimit := new.dailyLimit
    perTransactionLimit := new.perTransactionLimit
    updatedAt := new.updatedAt }

def Balance.merge (old new : Balance) : Balance :=
  { old with amount := new.amount }

def TransactionRow.merge (old new : TransactionRow) : TransactionRow :=
  { old with
    blockHeight := new.blockHeight
    status := new.status
    failureReason := new.failureReason
    updatedAt := new.updatedAt }

def ComplianceCase.merge (old new : ComplianceCase) : ComplianceCase :=
  { old with
    status := new.status
    assignedTo := new.assignedTo
    reviewer := new.reviewer
    resolutionReason := new.resolutionReason
    updatedAt := new.updatedAt
    resolvedAt := new.resolvedAt }

/-- The update list of the heartbeat. -/
def ValidatorStatus.mergeSeen (old new : ValidatorStatus) : ValidatorStatus :=
  { old with lastSeenAt := new.lastSeenAt }

/-- The update list of `record_validator_finalized_block`. -/
def ValidatorStatus.merge (old new : ValidatorStatus) : ValidatorStatus :=
  { new with validatorId := old.validatorId }

theorem Account.merge_id (old new : Account) : (old.merge new).id = old.id := rfl
theorem Institution.merge_id (old new : Institution) : (old.merge new).id = old.id := rfl
theorem InstitutionLimit.merge_key (old new : InstitutionLimit) :
    (old.merge new).key = old.key := rfl
theorem Balance.merge_key (old new : Balance) : (old.merge new).key = old.key := rfl
theorem TransactionRow.merge_id (old new : TransactionRow) : (old.merge new).id = old.id := rfl
theorem ComplianceCase.merge_id (old new : ComplianceCase) : (old.merge new).id = old.id := rfl
theorem ValidatorStatus.mergeSeen_id (old new : ValidatorStatus) :
    (old.mergeSeen new).validatorId = old.validatorId := rfl
theorem ValidatorStatus.merge_id (old new : ValidatorStatus) :
    (old.merge new).validatorId = old.validatorId := rfl

namespace Database

/-! ## Statements of `save_snapshot` -/

/-- `INSERT INTO institutions … ON CONFLICT (id) DO UPDATE`, also
`upsert_institution`. -/
def upsertInstitution (i : Institution) (db : Database) : Except SqlxError Database := do
  enforce (i.textOk db.settings) .invalidText
  enforce (db.institutions.rows.all fun r => r.id = i.id || r.institutionCode ≠ i.institutionCode)
    (.unique "institutions (institution_code)")
  return { db with
    institutions := db.institutions.upsert Institution.merge Institution.merge_id i.stored }

/-- The constraints of a row of `institution_credentials`. -/
def checkCredential (c : InstitutionCredential) (db : Database) : Except SqlxError Unit := do
  enforce (db.institutionCredentials.rows.all fun r =>
      r.institutionId ≠ c.institutionId || r.credentialType ≠ c.credentialType
        || r.fingerprint ≠ c.fingerprint)
    (.unique "institution_credentials (institution_id, credential_type, fingerprint)")
  enforce (db.institutions.find? c.institutionId).isSome
    (.foreignKey "institution_credentials (institution_id)")

def saveCredential (c : InstitutionCredential) (db : Database) : Except SqlxError Database := do
  if (db.institutionCredentials.find? c.id).isNone then db.checkCredential c
  return { db with
    institutionCredentials := db.institutionCredentials.insertIgnore c.stored }

/-- `INSERT INTO institution_limits … ON CONFLICT (institution_id, asset) DO
UPDATE`, also `upsert_institution_limit`. -/
def upsertInstitutionLimit (l : InstitutionLimit) (db : Database) : Except SqlxError Database := do
  enforce (l.textOk db.settings) .invalidText
  enforce (numericOk l.dailyLimit && numericOk l.perTransactionLimit) .numericOverflow
  enforce (0 ≤ l.dailyLimit) (.check "institution_limits (daily_limit)")
  enforce (0 ≤ l.perTransactionLimit) (.check "institution_limits (per_transaction_limit)")
  if (db.institutionLimits.find? l.key).isNone then
    enforce (db.institutions.find? l.institutionId).isSome
      (.foreignKey "institution_limits (institution_id)")
  return { db with
    institutionLimits :=
      db.institutionLimits.upsert InstitutionLimit.merge InstitutionLimit.merge_key l.stored }

def saveAccount (a : Account) (db : Database) : Except SqlxError Database :=
  return { db with accounts := db.accounts.upsert Account.merge Account.merge_id a.stored }

def saveBalance (b : Balance) (db : Database) : Except SqlxError Database := do
  enforce (numericOk b.amount) .numericOverflow
  enforce (0 ≤ b.amount) (.check "balances (amount)")
  enforce (assetCodeOk b.asset) (.check "balances_asset_code_format")
  if (db.balances.find? b.key).isNone then
    enforce (db.accounts.find? b.accountId).isSome (.foreignKey "balances (account_id)")
  return { db with balances := db.balances.upsert Balance.merge Balance.merge_key b }

def saveBlock (b : Block) (db : Database) : Except SqlxError Database := do
  if (db.blocks.find? b.height).isNone then
    enforce (db.blocks.rows.all fun r => r.hash ≠ b.hash) (.unique "blocks (hash)")
  return { db with blocks := db.blocks.insertIgnore (.ofBlock b) }

/-- The constraints a row of `transactions` satisfies on its own. -/
def checkTransactionRow (r : TransactionRow) : Except SqlxError Unit := do
  enforce (numericOk r.amount) .numericOverflow
  enforce (0 < r.amount) (.check "transactions (amount)")
  enforce (assetCodeOk r.asset) (.check "transactions_asset_code_format")

/-- A row of `transactions` carries the key. -/
def hasReference (db : Database) (clientReferenceId : Option String) : Bool :=
  clientReferenceId.isSome &&
    db.transactions.rows.any fun r => r.clientReferenceId = clientReferenceId

def checkNonceUnused (r : TransactionRow) (db : Database) : Except SqlxError Unit :=
  enforce (db.transactions.rows.all fun r' =>
      r'.fromAccount ≠ r.fromAccount || r'.nonce ≠ r.nonce)
    (.unique "transactions (from_account, nonce)")

def checkBlockReference (blockHeight : Option Int) (db : Database) : Except SqlxError Unit :=
  match blockHeight with
  | none => .ok ()
  | some height =>
    enforce (db.blocks.find? height).isSome (.foreignKey "transactions (block_height)")

/-- The references of a row of `transactions`. -/
def checkTransactionReferences (r : TransactionRow) (db : Database) : Except SqlxError Unit := do
  db.checkBlockReference r.blockHeight
  enforce (db.accounts.find? r.fromAccount).isSome (.foreignKey "transactions (from_account)")
  enforce (db.accounts.find? r.toAccount).isSome (.foreignKey "transactions (to_account)")

def savePayment (p : PaymentRecord) (db : Database) : Except SqlxError Database := do
  let row := TransactionRow.ofPayment p
  checkTransactionRow row
  if (db.transactions.find? row.id).isSome then db.checkBlockReference row.blockHeight
  else
    db.checkNonceUnused row
    enforce (!db.hasReference row.clientReferenceId) (.unique "transactions (client_reference_id)")
    db.checkTransactionReferences row
  return { db with
    transactions := db.transactions.upsert TransactionRow.merge TransactionRow.merge_id row }

def saveComplianceCase (c : ComplianceCase) (db : Database) : Except SqlxError Database := do
  if (db.complianceCases.find? c.id).isNone then
    enforce (db.complianceCases.rows.all fun r => r.paymentId ≠ c.paymentId)
      (.unique "compliance_cases (payment_id)")
    enforce (db.transactions.find? c.paymentId).isSome (.foreignKey "compliance_cases (payment_id)")
  return { db with
    complianceCases := db.complianceCases.upsert ComplianceCase.merge ComplianceCase.merge_id c.stored }

def saveJournalEntry (e : JournalEntry) (db : Database) : Except SqlxError Database := do
  enforce (numericOk e.amount) .numericOverflow
  enforce (0 < e.amount) (.check "journal_entries (amount)")
  enforce (assetCodeOk e.asset) (.check "journal_entries_asset_code_format")
  if (db.journalEntries.find? e.id).isNone then
    enforce (db.transactions.find? e.transactionId).isSome
      (.foreignKey "journal_entries (transaction_id)")
    enforce (db.accounts.find? e.accountId).isSome (.foreignKey "journal_entries (account_id)")
    enforce (db.blocks.find? e.blockHeight).isSome (.foreignKey "journal_entries (block_height)")
  return { db with journalEntries := db.journalEntries.insertIgnore e.stored }

/-- `insert_audit_event`, also in `save_snapshot`. -/
def insertAuditEvent (e : AuditEvent) (db : Database) : Except SqlxError Database := do
  if (db.auditEvents.find? e.id).isNone then
    enforce (e.blockHeight.all fun height => (db.blocks.find? height).isSome)
      (.foreignKey "audit_events (block_height)")
    enforce (e.transactionId.all fun id => (db.transactions.find? id).isSome)
      (.foreignKey "audit_events (transaction_id)")
  return { db with auditEvents := db.auditEvents.insertIgnore e.stored }

/-- Run one statement for each item of a list. -/
def each {α : Type} (statement : α → Database → Except SqlxError Database) (items : List α)
    (db : Database) : Except SqlxError Database :=
  items.foldlM (fun db item => statement item db) db

/-- `save_snapshot`, one transaction. -/
def saveSnapshot (s : LedgerSnapshot) (db : Database) : Except SqlxError Database :=
  each upsertInstitution s.institutions db
    >>= each saveCredential s.institutionCredentials
    >>= each upsertInstitutionLimit s.institutionLimits
    >>= each saveAccount s.accounts
    >>= each saveBalance s.balances
    >>= each saveBlock s.blocks
    >>= each savePayment s.payments
    >>= each saveComplianceCase s.complianceCases
    >>= each saveJournalEntry s.journalEntries
    >>= each insertAuditEvent s.auditEvents

/-- A migrated database after `ensure_sandbox_seed`. -/
def seeded (d : Draws) : Database :=
  match saveSnapshot (InMemoryLedger.sandbox d).snapshot (.empty .plain) with
  | .ok db => db
  | .error _ => .empty .plain

theorem seeded_eq_ok {d : Draws}
    (h : (saveSnapshot (InMemoryLedger.sandbox d).snapshot (.empty .plain)).isOk = true) :
    saveSnapshot (InMemoryLedger.sandbox d).snapshot (.empty .plain) = .ok (seeded d) := by
  unfold seeded
  cases hsave : saveSnapshot (InMemoryLedger.sandbox d).snapshot (.empty .plain) with
  | ok db => rfl
  | error e =>
    rw [hsave] at h
    cases h

/-- The seeding the examples start from. -/
theorem seeded_numbered :
    saveSnapshot (InMemoryLedger.sandbox (.numbered "seed" 0)).snapshot (.empty .plain) =
      .ok (seeded (.numbered "seed" 0)) :=
  seeded_eq_ok (by decide +kernel)

example : (seeded (.numbered "seed" 0)).accounts.rows.length = 4 := by decide +kernel

/-! ## Statements of the API -/

/-- The `INSERT INTO transactions … ON CONFLICT (client_reference_id) DO
NOTHING` of `enqueue_pending_transaction` and `hold_payment_for_review`;
`false` when no row was inserted. -/
def insertTransaction (r : TransactionRow) (db : Database) :
    Except SqlxError (Database × Bool) := do
  enforce (r.textOk db.settings) .invalidText
  checkTransactionRow r
  if db.hasReference r.clientReferenceId then return (db, false)
  else
    db.checkNonceUnused r
    match db.transactions.insert? r with
    | none => .error (.unique "transactions (id)")
    | some transactions =>
      db.checkTransactionReferences r
      return ({ db with transactions := transactions }, true)

/-- `INSERT INTO compliance_cases … ON CONFLICT (payment_id) DO NOTHING`. -/
def insertComplianceCase (c : ComplianceCase) (db : Database) : Except SqlxError Database := do
  enforce c.textOk .invalidText
  if db.complianceCases.rows.any fun r => r.paymentId = c.paymentId then return db
  else
    enforce (db.transactions.find? c.paymentId).isSome (.foreignKey "compliance_cases (payment_id)")
    match db.complianceCases.insert? c.stored with
    | none => .error (.unique "compliance_cases (id)")
    | some complianceCases => return { db with complianceCases := complianceCases }

/-- The transaction of `hold_payment_for_review`: it is rolled back when the
payment row was not inserted. -/
def holdPayment (r : TransactionRow) (c : ComplianceCase) (db : Database) :
    Except SqlxError (Database × Bool) := do
  let (db', inserted) ← db.insertTransaction r
  if inserted then
    let db'' ← db'.insertComplianceCase c
    return (db'', true)
  else return (db, false)

/-- `UPDATE transactions SET … WHERE id = … AND status = …`. -/
def updatePayment (id : String) (expected status : TransactionStatus)
    (failureReason : Option String) (now : DateTime) (db : Database) : Database :=
  { db with
    transactions := db.transactions.modify (fun r => r.id = id && r.status = expected)
      (fun r => { r with
        status := status
        failureReason := failureReason
        updatedAt := timestamptz now })
      (fun _ => rfl) }

/-- `update_compliance_case_in_transaction`; the `WHERE` names the id only. -/
def updateComplianceCase (c : ComplianceCase) (db : Database) : Database :=
  { db with
    complianceCases := db.complianceCases.modify (fun r => r.id = c.id)
      (fun r => r.merge c.stored) (fun r => r.merge_id _) }

/-- The transaction of `approve_compliance_case`. -/
def approveCase (c : ComplianceCase) (now : DateTime) (db : Database) : Database :=
  (db.updateComplianceCase c).updatePayment c.paymentId .held .pending none now

/-- The transaction of `reject_compliance_case`. -/
def rejectCase (c : ComplianceCase) (rejectionReason : String) (now : DateTime)
    (db : Database) : Database :=
  (db.updateComplianceCase c).updatePayment c.paymentId .held .rejected (some rejectionReason) now

/-- `reject_transaction`. -/
def rejectTransaction (id reason : String) (now : DateTime) (db : Database) : Database :=
  db.updatePayment id .pending .rejected (some reason) now

/-- `insert_institution_credential`; the column spells the id its own way. -/
def insertCredential (c : InstitutionCredential) (db : Database) : Except SqlxError Database := do
  enforce (c.textOk db.settings) .invalidText
  match uuidIn c.id with
  | none => .error .invalidText
  | some id =>
    match db.institutionCredentials.insert? { c.stored with id := id } with
    | none => .error (.unique "institution_credentials (id)")
    | some institutionCredentials =>
      db.checkCredential c
      return { db with institutionCredentials := institutionCredentials }

/-- `suspend_institution`; the first suspension time is kept. -/
def suspendInstitution (id : String) (now : DateTime) (db : Database) : Database :=
  { db with
    institutions := db.institutions.modify (fun i => i.id = id)
      (fun i => { i with
        status := .suspended
        suspendedAt := some (i.suspendedAt.getD (timestamptz now))
        updatedAt := timestamptz now })
      (fun _ => rfl) }

/-! ## Statements of the validator -/

/-- `record_validator_heartbeat`. -/
def recordHeartbeat (validatorId : String) (now : DateTime) (db : Database) : Database :=
  { db with
    validatorStatus := db.validatorStatus.upsert ValidatorStatus.mergeSeen ValidatorStatus.mergeSeen_id
      ⟨validatorId, timestamptz now, none, none, none⟩ }

/-- `record_validator_finalized_block`. -/
def recordFinalizedBlock (validatorId : String) (block : Block) (now : DateTime)
    (db : Database) : Except SqlxError Database := do
  enforce (db.blocks.find? block.height).isSome
    (.foreignKey "validator_status (last_finalized_height)")
  return { db with
    validatorStatus := db.validatorStatus.upsert ValidatorStatus.merge ValidatorStatus.merge_id
      ⟨validatorId, timestamptz now, some block.height, some block.hash, some (timestamptz now)⟩ }

/-- `pg_try_advisory_lock`: a session that holds the lock gets it again. -/
def tryLock (session : Session) (db : Database) : Database × Bool :=
  match db.blockProductionLock with
  | none => ({ db with blockProductionLock := some session }, true)
  | some holder => (db, holder = session)

/-- `pg_advisory_unlock`: false when the session does not hold the lock. -/
def unlock (session : Session) (db : Database) : Database × Bool :=
  if db.blockProductionLock = some session then ({ db with blockProductionLock := none }, true)
  else (db, false)

/-! ## Queries -/

/-- `SELECT … FROM transactions t LEFT JOIN blocks b`. -/
def joinBlock (db : Database) (r : TransactionRow) : PaymentRecord :=
  r.toPayment ((r.blockHeight.bind db.blocks.find?).map BlockRow.hash)

/-- The payments, `ORDER BY created_at, id`. -/
def payments (db : Database) : List PaymentRecord :=
  (db.transactions.rows.insertionSort TransactionRow.Before).map db.joinBlock

/-- `payment_by_client_reference_id`. -/
def paymentByClientReferenceId (db : Database) (clientReferenceId : String) :
    Option PaymentRecord :=
  (db.transactions.rows.find? fun r => r.clientReferenceId = some clientReferenceId).map
    db.joinBlock

/-- `pending_transactions`. -/
def pendingTransactions (db : Database) (limit offset : Nat) : List Transaction :=
  ((((db.transactions.rows.filter fun r => r.status = .pending).insertionSort
    TransactionRow.Before).drop offset).take limit).map TransactionRow.toTransaction

/-- `next_nonce_for_account`, `COALESCE(MAX(nonce), 0) + 1`. -/
def nextNonce (db : Database) (accountId : String) : Int :=
  let nonces := (db.transactions.rows.filter fun r => r.fromAccount = accountId).map
    TransactionRow.nonce
  nonces.max?.getD 0 + 1

/-- The order of `ORDER BY created_at, id` on compliance cases. -/
def caseBefore (c c' : ComplianceCase) : Prop :=
  c.createdAt < c'.createdAt ∨ (c.createdAt = c'.createdAt ∧ c.id ≤ c'.id)

instance : DecidableRel caseBefore := fun _ _ => inferInstanceAs (Decidable (_ ∨ _))

/-- `compliance_cases`. -/
def complianceCasePage (db : Database) (limit offset : Nat) : List ComplianceCase :=
  ((db.complianceCases.rows.insertionSort caseBefore).drop offset).take limit

/-- `compliance_case_by_payment_id`. -/
def complianceCaseByPaymentId (db : Database) (paymentId : String) : Option ComplianceCase :=
  db.complianceCases.rows.find? fun c => c.paymentId = paymentId

/-- The block rows, `ORDER BY height`. -/
def blockRows (db : Database) : List BlockRow :=
  db.blocks.rows.insertionSort fun a b => a.height ≤ b.height

/-- `institutions`, `ORDER BY id`. -/
def institutionRows (db : Database) : List Institution :=
  db.institutions.rows.insertionSort fun a b => db.settings.collation a.id b.id

/-- `ORDER BY created_at, id` on credentials. -/
def credentialRows (db : Database) : List InstitutionCredential :=
  db.institutionCredentials.rows.insertionSort fun a b => a.createdAt < b.createdAt ∨
    (a.createdAt = b.createdAt ∧ a.id ≤ b.id)

/-- `ORDER BY institution_id, asset` on limits. -/
def limitRows (db : Database) : List InstitutionLimit :=
  db.institutionLimits.rows.insertionSort fun a b => db.settings.collation.pair a.key b.key

/-- `ORDER BY id` on accounts. -/
def accountRows (db : Database) : List Account :=
  db.accounts.rows.insertionSort fun a b => db.settings.collation a.id b.id

/-- `ORDER BY account_id, asset` on balances. -/
def balanceRows (db : Database) : List Balance :=
  db.balances.rows.insertionSort fun a b => db.settings.collation.pair a.key b.key

/-- `ORDER BY created_at, id` on journal entries. -/
def journalRows (db : Database) : List JournalEntry :=
  db.journalEntries.rows.insertionSort fun a b => a.createdAt < b.createdAt ∨
    (a.createdAt = b.createdAt ∧ a.id ≤ b.id)

/-- `ORDER BY created_at, id` on audit events. -/
def auditRows (db : Database) : List AuditEvent :=
  db.auditEvents.rows.insertionSort fun a b => a.createdAt < b.createdAt ∨
    (a.createdAt = b.createdAt ∧ a.id ≤ b.id)

end Database

end KaniNetwork
