/-
KaniNetwork.Store.ApiStep — what the API does to the database.

`Statement.OfApi` lists the statements the node sends for its requests,
with the rows they carry. `ApiStep` is what any of them does: blocks,
balances, accounts, journal and lock stay as they are, a payment is new
and waits, or is a held payment that a review released or refused, or
stays as it is. Proofs about the chain need no more of the API.
-/
import KaniNetwork.Store.Postgres

namespace KaniNetwork

/-- The statements behind the requests. -/
inductive Statement.OfApi : Statement → Prop where
  | enqueue (now : DateTime) (tx : Transaction) (key fingerprint : Option String) :
      OfApi (.insertPending (.ofPayment (.enqueued now tx key fingerprint)))
  | hold (now : DateTime) (tx : Transaction) (s : Stamp) (caseOpen : ComplianceCaseOpen)
      (key fingerprint : Option String) (hcase : caseOpen.paymentId = tx.id) :
      OfApi (.holdPayment (.ofPayment (.onHold now tx caseOpen.reason key fingerprint))
        (.opened s caseOpen))
  | approve (current : ComplianceCase) (resolvedAt now : DateTime)
      (reviewer reason : Option String) :
      OfApi (.approveCase (current.approved resolvedAt reviewer reason) now)
  | reject (current : ComplianceCase) (resolvedAt now : DateTime)
      (reviewer reason : Option String) (rejectionReason : String) :
      OfApi (.rejectCase (current.rejected resolvedAt reviewer reason) rejectionReason now)
  | upsertInstitution (institution : Institution) : OfApi (.upsertInstitution institution)
  | upsertInstitutionLimit (limit : InstitutionLimit) : OfApi (.upsertInstitutionLimit limit)
  | insertCredential (credential : InstitutionCredential) : OfApi (.insertCredential credential)
  | suspendInstitution (institutionId : String) (now : DateTime) :
      OfApi (.suspendInstitution institutionId now)
  | insertAuditEvent (event : AuditEvent) : OfApi (.insertAuditEvent event)

/-- Approving is the one statement that rests on what was read before it. -/
def Statement.approves : Statement → Bool
  | .approveCase _ _ => true
  | _ => false

/-- A command of a request, of an approval or of any other. -/
def Sql.OfApi (approving : Bool) (c : Sql) : Prop :=
  ∀ w, c = .write w → w.OfApi ∧ (w.approves = true → approving = true)

theorem Sql.ofApi_read {approving : Bool} (q : Query) : (Sql.read q).OfApi approving := by
  intro w h
  cases h

theorem Sql.ofApi_write {approving : Bool} {w : Statement} (h : w.OfApi)
    (happrove : w.approves = true → approving = true) : (Sql.write w).OfApi approving := by
  rintro _ ⟨⟩
  exact ⟨h, happrove⟩

/-- What a request does to the row of a payment. -/
inductive ApiRow : Option TransactionRow → Option TransactionRow → Prop where
  | same (row : Option TransactionRow) : ApiRow row row
  | inserted (row : TransactionRow) (hstatus : row.status = .pending ∨ row.status = .held)
      (hblock : row.blockHeight = none) : ApiRow none (some row)
  | reviewed (row : TransactionRow) (status : TransactionStatus) (failureReason : Option String)
      (now : DateTime) (hheld : row.status = .held)
      (hstatus : status = .pending ∨ status = .rejected) :
      ApiRow (some row) (some { row with
        status := status
        failureReason := failureReason
        updatedAt := timestamptz now })

/-- What a request does to the database. -/
structure ApiStep (db db' : Database) : Prop where
  accounts : db'.accounts = db.accounts
  balances : db'.balances = db.balances
  blocks : db'.blocks = db.blocks
  journalEntries : db'.journalEntries = db.journalEntries
  blockProductionLock : db'.blockProductionLock = db.blockProductionLock
  rows : ∀ id, ApiRow (db.transactions.find? id) (db'.transactions.find? id)
  cases : ∀ id c, db.complianceCases.find? id = some c →
    ∃ c', db'.complianceCases.find? id = some c' ∧ c'.paymentId = c.paymentId

theorem ApiStep.refl (db : Database) : ApiStep db db :=
  ⟨rfl, rfl, rfl, rfl, rfl, fun _ => .same _, fun _ c hc => ⟨c, hc, rfl⟩⟩

theorem ApiRow.of_insert {t t' : Table TransactionRow.id} {row : TransactionRow}
    (h : t.insert? row = some t') (hstatus : row.status = .pending ∨ row.status = .held)
    (hblock : row.blockHeight = none) (id : String) : ApiRow (t.find? id) (t'.find? id) := by
  obtain ⟨hnone, hfind⟩ := Table.insert?_eq_some h
  rw [hfind]
  split
  · rename_i hid
    subst hid
    rw [hnone]
    exact .inserted row hstatus hblock
  · exact .same _

theorem ApiStep.of_review (c : ComplianceCase) {status : TransactionStatus}
    (hstatus : status = .pending ∨ status = .rejected) (failureReason : Option String)
    (now : DateTime) (db : Database) :
    ApiStep db ((db.updateComplianceCase c).updatePayment c.paymentId .held status failureReason
      now) := by
  refine ⟨rfl, rfl, rfl, rfl, rfl, ?_, ?_⟩
  · intro id
    have hrow := Database.find?_updatePayment c.paymentId .held status failureReason now
      (db.updateComplianceCase c) id
    rw [hrow]
    show ApiRow (db.transactions.find? id) ((db.transactions.find? id).map _)
    cases db.transactions.find? id with
    | none => exact .same _
    | some row =>
      rw [Option.map_some]
      split
      · rename_i hheld
        simp only [Bool.and_eq_true, decide_eq_true_eq] at hheld
        exact .reviewed row status failureReason now hheld.2 hstatus
      · exact .same _
  · intro id k hk
    have hcase : ((db.updateComplianceCase c).updatePayment c.paymentId .held status failureReason
        now).complianceCases = (db.updateComplianceCase c).complianceCases := rfl
    rw [hcase, Database.find?_updateComplianceCase, hk, Option.map_some]
    refine ⟨_, rfl, ?_⟩
    split <;> rfl

/-- Every statement of the API that succeeds is such a step. -/
theorem apiStep_of_run {w : Statement} (hw : w.OfApi) {db db' : Database} {reply : w.Reply}
    (h : w.run db = .ok (db', reply)) : ApiStep db db' := by
  cases hw with
  | enqueue now tx key fingerprint =>
    rcases Database.insertTransaction_eq_ok h with ⟨-, rfl, -⟩ | ⟨-, -, t, ht, rfl⟩
    · exact .refl _
    · exact ⟨rfl, rfl, rfl, rfl, rfl, ApiRow.of_insert ht (.inl rfl) rfl, fun _ c hc => ⟨c, hc, rfl⟩⟩
  | hold now tx s caseOpen key fingerprint hcase =>
    rcases Database.holdPayment_eq_ok h with ⟨-, rfl, -⟩ | ⟨-, -, t, u, ht, rfl, hu⟩
    · exact .refl _
    refine ⟨rfl, rfl, rfl, rfl, rfl, ApiRow.of_insert ht (.inr rfl) rfl, ?_⟩
    intro id c hc
    refine ⟨c, ?_, rfl⟩
    rcases hu with rfl | hu
    · exact hc
    · exact Table.find?_insert?_of_some hu hc
  | approve current resolvedAt now reviewer reason =>
    obtain ⟨-, rfl⟩ := Statement.approveCase_eq_ok h
    exact .of_review _ (.inl rfl) none now db
  | reject current resolvedAt now reviewer reason rejectionReason =>
    obtain ⟨-, rfl⟩ := Statement.rejectCase_eq_ok h
    exact .of_review _ (.inr rfl) (some rejectionReason) now db
  | upsertInstitution i =>
    rw [Database.upsertInstitution_eq_ok (of_unit_eq_ok h)]
    exact ⟨rfl, rfl, rfl, rfl, rfl, fun _ => .same _, fun _ c hc => ⟨c, hc, rfl⟩⟩
  | upsertInstitutionLimit l =>
    rw [Database.upsertInstitutionLimit_eq_ok (of_unit_eq_ok h)]
    exact ⟨rfl, rfl, rfl, rfl, rfl, fun _ => .same _, fun _ c hc => ⟨c, hc, rfl⟩⟩
  | insertCredential c =>
    obtain ⟨t, rfl⟩ := Database.insertCredential_eq_ok (of_unit_eq_ok h)
    exact ⟨rfl, rfl, rfl, rfl, rfl, fun _ => .same _, fun _ c hc => ⟨c, hc, rfl⟩⟩
  | suspendInstitution id now =>
    cases h
    exact ⟨rfl, rfl, rfl, rfl, rfl, fun _ => .same _, fun _ c hc => ⟨c, hc, rfl⟩⟩
  | insertAuditEvent e =>
    rw [Database.insertAuditEvent_eq_ok (Statement.insertAuditEvent_eq_ok h).2]
    exact ⟨rfl, rfl, rfl, rfl, rfl, fun _ => .same _, fun _ c hc => ⟨c, hc, rfl⟩⟩

end KaniNetwork
