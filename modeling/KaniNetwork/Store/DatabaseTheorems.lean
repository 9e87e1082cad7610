/-
KaniNetwork.Store.DatabaseTheorems — what a successful statement did.

One lemma per statement says which table changed and how, without the
constraints; `Saved` puts those of `save_snapshot` together, table by
table. The lemmas at the end are about the columns of a payment row that
no statement rewrites.
-/
import KaniNetwork.Base.Result
import KaniNetwork.Store.Database

namespace KaniNetwork

@[simp] theorem enforce_eq_ok_iff {b : Bool} {e : SqlxError} {u : Unit} :
    enforce b e = .ok u ↔ b = true := by
  cases b <;> simp [enforce]

theorem enforce_holds {P : SqlxError → Prop} {b : Bool} {e : SqlxError} (h : b = true) :
    FailsIn P (enforce b e) := by
  rw [h]
  exact .ok _

theorem enforce_refuses {P : SqlxError → Prop} {b : Bool} {e : SqlxError} (h : P e) :
    FailsIn P (enforce b e) := by
  cases b with
  | true => exact .ok _
  | false => exact .error h

namespace Database

/-! ## Loops of statements -/

/-- What every successful statement of a loop keeps, the loop keeps. -/
theorem each_induct {α : Type} {statement : α → Database → Except SqlxError Database}
    {P : Database → Prop} {items : List α} {db db' : Database}
    (hstep : ∀ x ∈ items, ∀ db₁ db₂, statement x db₁ = .ok db₂ → P db₁ → P db₂)
    (h : each statement items db = .ok db') (hP : P db) : P db' := by
  induction items generalizing db with
  | nil =>
    cases h
    exact hP
  | cons x items ih =>
    simp only [each, List.foldlM_cons, bind_eq_ok_iff] at h
    obtain ⟨db₁, hx, hrest⟩ := h
    exact ih (fun y hy => hstep y (List.mem_cons_of_mem _ hy)) hrest
      (hstep x List.mem_cons_self _ _ hx hP)

/-- A loop of statements that each rewrite one table by `f` rewrites it by
all of them in turn; `get` and `set` are the table's field. -/
theorem each_table {α τ : Type} {statement : α → Database → Except SqlxError Database}
    (get : Database → τ) (set : τ → Database → Database) (f : τ → α → τ)
    (hget : ∀ t db, get (set t db) = t) (hset : ∀ t t' db, set t (set t' db) = set t db)
    (hself : ∀ db, set (get db) db = db)
    (hstep : ∀ x db db', statement x db = .ok db' → db' = set (f (get db) x) db)
    {items : List α} {db db' : Database} (h : each statement items db = .ok db') :
    db' = set (items.foldl f (get db)) db := by
  induction items generalizing db with
  | nil =>
    cases h
    exact (hself _).symm
  | cons x items ih =>
    simp only [each, List.foldlM_cons, bind_eq_ok_iff] at h
    obtain ⟨db₁, hx, hrest⟩ := h
    rw [ih hrest, hstep x db db₁ hx, hget, hset, List.foldl_cons]

/-! ## The statements of `save_snapshot` -/

/-- Its texts and the unique index on the code are the only reasons to refuse
an institution. -/
theorem upsertInstitution_eq_ok_iff {i : Institution} {db db' : Database} :
    upsertInstitution i db = .ok db' ↔ i.textOk db.settings = true ∧
      (∀ id other, db.institutions.find? id = some other → id ≠ i.id →
        other.institutionCode ≠ i.institutionCode) ∧
      db' = { db with
        institutions := db.institutions.upsert Institution.merge Institution.merge_id i.stored } := by
  have hcodes : (db.institutions.rows.all fun r =>
      r.id = i.id || r.institutionCode ≠ i.institutionCode) = true ↔
        ∀ id other, db.institutions.find? id = some other → id ≠ i.id →
          other.institutionCode ≠ i.institutionCode := by
    rw [Table.all_rows_iff]
    refine forall₃_congr fun id other hother => ?_
    rw [Table.key_of_find? hother, Bool.or_eq_true, decide_eq_true_eq, decide_eq_true_eq,
      or_iff_not_imp_left]
  simp only [upsertInstitution, bind_eq_ok_iff, enforce_eq_ok_iff, hcodes, pure_eq_ok,
    Except.ok.injEq, exists_and_left, exists_const, eq_comm (a := db')]

theorem upsertInstitution_eq_ok {i : Institution} {db db' : Database}
    (h : upsertInstitution i db = .ok db') :
    db' = { db with
      institutions := db.institutions.upsert Institution.merge Institution.merge_id i.stored } :=
  (upsertInstitution_eq_ok_iff.mp h).2.2

theorem saveCredential_eq_ok {c : InstitutionCredential} {db db' : Database}
    (h : saveCredential c db = .ok db') :
    db' = { db with
      institutionCredentials := db.institutionCredentials.insertIgnore c.stored } := by
  simp only [saveCredential] at h
  split at h
  all_goals
    simp only [bind_eq_ok_iff, pure_eq_ok, Except.ok.injEq] at h
    obtain ⟨_, _, rfl⟩ := h
    rfl

theorem upsertInstitutionLimit_eq_ok {l : InstitutionLimit} {db db' : Database}
    (h : upsertInstitutionLimit l db = .ok db') :
    db' = { db with
      institutionLimits :=
        db.institutionLimits.upsert InstitutionLimit.merge InstitutionLimit.merge_key l.stored } := by
  simp only [upsertInstitutionLimit, bind_eq_ok_iff] at h
  obtain ⟨_, _, _, _, _, _, _, _, h⟩ := h
  split at h
  all_goals
    simp only [bind_eq_ok_iff, pure_eq_ok, Except.ok.injEq] at h
    obtain ⟨_, _, rfl⟩ := h
    rfl

theorem saveAccount_eq_ok {a : Account} {db db' : Database} (h : saveAccount a db = .ok db') :
    db' = { db with accounts := db.accounts.upsert Account.merge Account.merge_id a.stored } := by
  cases h
  rfl

theorem saveBalance_eq_ok {b : Balance} {db db' : Database} (h : saveBalance b db = .ok db') :
    db' = { db with balances := db.balances.upsert Balance.merge Balance.merge_key b } := by
  simp only [saveBalance, bind_eq_ok_iff] at h
  obtain ⟨_, _, _, _, _, _, h⟩ := h
  split at h
  all_goals
    simp only [bind_eq_ok_iff, pure_eq_ok, Except.ok.injEq] at h
    obtain ⟨_, _, rfl⟩ := h
    rfl

theorem saveBlock_eq_ok {b : Block} {db db' : Database} (h : saveBlock b db = .ok db') :
    db' = { db with blocks := db.blocks.insertIgnore (.ofBlock b) } := by
  simp only [saveBlock] at h
  split at h
  all_goals
    simp only [bind_eq_ok_iff, pure_eq_ok, Except.ok.injEq] at h
    obtain ⟨_, _, rfl⟩ := h
    rfl

/-- A saved payment rewrites its row; a row it creates has a new key and a
new nonce. -/
theorem savePayment_eq_ok {p : PaymentRecord} {db db' : Database}
    (h : savePayment p db = .ok db') :
    db' = { db with
        transactions :=
          db.transactions.upsert TransactionRow.merge TransactionRow.merge_id (.ofPayment p) } ∧
      (db.transactions.find? p.transaction.id = none →
        db.hasReference p.clientReferenceId = false) := by
  simp only [savePayment, bind_eq_ok_iff] at h
  obtain ⟨_, _, h⟩ := h
  split at h
  · rename_i hsome
    simp only [bind_eq_ok_iff, pure_eq_ok, Except.ok.injEq] at h
    obtain ⟨_, _, rfl⟩ := h
    refine ⟨rfl, fun hnone => ?_⟩
    simp only [TransactionRow.ofPayment_id, hnone, Option.isSome_none, Bool.false_eq_true] at hsome
  · simp only [bind_eq_ok_iff, pure_eq_ok, Except.ok.injEq, enforce_eq_ok_iff] at h
    obtain ⟨_, _, _, hkey, _, _, rfl⟩ := h
    exact ⟨rfl, fun _ => by simpa [TransactionRow.ofPayment] using hkey⟩

theorem saveComplianceCase_eq_ok {c : ComplianceCase} {db db' : Database}
    (h : saveComplianceCase c db = .ok db') :
    db' = { db with
      complianceCases :=
        db.complianceCases.upsert ComplianceCase.merge ComplianceCase.merge_id c.stored } := by
  simp only [saveComplianceCase] at h
  split at h
  · simp only [bind_eq_ok_iff, pure_eq_ok, Except.ok.injEq] at h
    obtain ⟨_, _, _, _, rfl⟩ := h
    rfl
  · simp only [pure_eq_ok, Except.ok.injEq] at h
    exact h.symm

theorem saveJournalEntry_eq_ok {e : JournalEntry} {db db' : Database}
    (h : saveJournalEntry e db = .ok db') :
    db' = { db with journalEntries := db.journalEntries.insertIgnore e.stored } := by
  simp only [saveJournalEntry, bind_eq_ok_iff] at h
  obtain ⟨_, _, _, _, _, _, h⟩ := h
  split at h
  · simp only [bind_eq_ok_iff, pure_eq_ok, Except.ok.injEq] at h
    obtain ⟨_, _, _, _, _, _, rfl⟩ := h
    rfl
  · simp only [pure_eq_ok, Except.ok.injEq] at h
    exact h.symm

theorem insertAuditEvent_eq_ok {e : AuditEvent} {db db' : Database}
    (h : insertAuditEvent e db = .ok db') :
    db' = { db with auditEvents := db.auditEvents.insertIgnore e.stored } := by
  simp only [insertAuditEvent] at h
  split at h
  · simp only [bind_eq_ok_iff, pure_eq_ok, Except.ok.injEq] at h
    obtain ⟨_, _, _, _, rfl⟩ := h
    rfl
  · simp only [pure_eq_ok, Except.ok.injEq] at h
    exact h.symm

/-! ## `save_snapshot` -/

/-- What a committed `save_snapshot` did, table by table. -/
structure Saved (s : LedgerSnapshot) (db db' : Database) : Prop where
  institutions : db'.institutions = db.institutions.upsertAll Institution.merge Institution.merge_id
    (s.institutions.map Institution.stored)
  institutionCredentials : db'.institutionCredentials = db.institutionCredentials.insertIgnoreAll
    (s.institutionCredentials.map InstitutionCredential.stored)
  institutionLimits : db'.institutionLimits = db.institutionLimits.upsertAll InstitutionLimit.merge
    InstitutionLimit.merge_key (s.institutionLimits.map InstitutionLimit.stored)
  accounts : db'.accounts = db.accounts.upsertAll Account.merge Account.merge_id
    (s.accounts.map Account.stored)
  balances : db'.balances = db.balances.upsertAll Balance.merge Balance.merge_key s.balances
  blocks : db'.blocks = db.blocks.insertIgnoreAll (s.blocks.map BlockRow.ofBlock)
  transactions : db'.transactions = db.transactions.upsertAll TransactionRow.merge
    TransactionRow.merge_id (s.payments.map TransactionRow.ofPayment)
  complianceCases : db'.complianceCases = db.complianceCases.upsertAll ComplianceCase.merge
    ComplianceCase.merge_id (s.complianceCases.map ComplianceCase.stored)
  journalEntries : db'.journalEntries = db.journalEntries.insertIgnoreAll
    (s.journalEntries.map JournalEntry.stored)
  auditEvents : db'.auditEvents = db.auditEvents.insertIgnoreAll
    (s.auditEvents.map AuditEvent.stored)
  validatorStatus : db'.validatorStatus = db.validatorStatus
  blockProductionLock : db'.blockProductionLock = db.blockProductionLock
  settings : db'.settings = db.settings

theorem saveSnapshot_eq_ok {s : LedgerSnapshot} {db db' : Database}
    (h : saveSnapshot s db = .ok db') : Saved s db db' := by
  simp only [saveSnapshot, bind_eq_ok_iff] at h
  obtain ⟨db₉, ⟨db₈, ⟨db₇, ⟨db₆, ⟨db₅, ⟨db₄, ⟨db₃, ⟨db₂, ⟨db₁, h₁, h₂⟩, h₃⟩, h₄⟩, h₅⟩, h₆⟩, h₇⟩,
    h₈⟩, h₉⟩, h⟩ := h
  have e₁ := each_table institutions (fun t db => { db with institutions := t })
    (fun t i => t.upsert Institution.merge Institution.merge_id i.stored)
    (fun _ _ => rfl) (fun _ _ _ => rfl) (fun _ => rfl) (fun _ _ _ hx => upsertInstitution_eq_ok hx) h₁
  have e₂ := each_table institutionCredentials (fun t db => { db with institutionCredentials := t })
    (fun t c => t.insertIgnore c.stored)
    (fun _ _ => rfl) (fun _ _ _ => rfl) (fun _ => rfl) (fun _ _ _ hx => saveCredential_eq_ok hx) h₂
  have e₃ := each_table institutionLimits (fun t db => { db with institutionLimits := t })
    (fun t l => t.upsert InstitutionLimit.merge InstitutionLimit.merge_key l.stored)
    (fun _ _ => rfl) (fun _ _ _ => rfl) (fun _ => rfl)
    (fun _ _ _ hx => upsertInstitutionLimit_eq_ok hx) h₃
  have e₄ := each_table accounts (fun t db => { db with accounts := t })
    (fun t a => t.upsert Account.merge Account.merge_id a.stored)
    (fun _ _ => rfl) (fun _ _ _ => rfl) (fun _ => rfl) (fun _ _ _ hx => saveAccount_eq_ok hx) h₄
  have e₅ := each_table balances (fun t db => { db with balances := t })
    (fun t b => t.upsert Balance.merge Balance.merge_key b)
    (fun _ _ => rfl) (fun _ _ _ => rfl) (fun _ => rfl) (fun _ _ _ hx => saveBalance_eq_ok hx) h₅
  have e₆ := each_table blocks (fun t db => { db with blocks := t })
    (fun t b => t.insertIgnore (.ofBlock b))
    (fun _ _ => rfl) (fun _ _ _ => rfl) (fun _ => rfl) (fun _ _ _ hx => saveBlock_eq_ok hx) h₆
  have e₇ := each_table transactions (fun t db => { db with transactions := t })
    (fun t p => t.upsert TransactionRow.merge TransactionRow.merge_id (.ofPayment p))
    (fun _ _ => rfl) (fun _ _ _ => rfl) (fun _ => rfl) (fun _ _ _ hx => (savePayment_eq_ok hx).1) h₇
  have e₈ := each_table complianceCases (fun t db => { db with complianceCases := t })
    (fun t c => t.upsert ComplianceCase.merge ComplianceCase.merge_id c.stored)
    (fun _ _ => rfl) (fun _ _ _ => rfl) (fun _ => rfl) (fun _ _ _ hx => saveComplianceCase_eq_ok hx) h₈
  have e₉ := each_table journalEntries (fun t db => { db with journalEntries := t })
    (fun t e => t.insertIgnore e.stored)
    (fun _ _ => rfl) (fun _ _ _ => rfl) (fun _ => rfl) (fun _ _ _ hx => saveJournalEntry_eq_ok hx) h₉
  have e := each_table auditEvents (fun t db => { db with auditEvents := t })
    (fun t e => t.insertIgnore e.stored)
    (fun _ _ => rfl) (fun _ _ _ => rfl) (fun _ => rfl) (fun _ _ _ hx => insertAuditEvent_eq_ok hx) h
  subst e₁ e₂ e₃ e₄ e₅ e₆ e₇ e₈ e₉ e
  constructor <;> simp only [Table.upsertAll, Table.insertIgnoreAll, List.foldl_map]

/-! ## The statements of the API -/

/-- `INSERT … ON CONFLICT (client_reference_id) DO NOTHING` inserts the row,
or finds one that carries its key. -/
theorem insertTransaction_eq_ok {r : TransactionRow} {db db' : Database} {inserted : Bool}
    (h : insertTransaction r db = .ok (db', inserted)) :
    (inserted = false ∧ db' = db ∧ db.hasReference r.clientReferenceId = true) ∨
      (inserted = true ∧ db.hasReference r.clientReferenceId = false ∧
        ∃ t, db.transactions.insert? r = some t ∧ db' = { db with transactions := t }) := by
  simp only [insertTransaction, bind_eq_ok_iff] at h
  obtain ⟨_, _, _, _, h⟩ := h
  split at h
  · rename_i hkey
    cases h
    exact .inl ⟨rfl, rfl, hkey⟩
  · rename_i hkey
    simp only [bind_eq_ok_iff] at h
    obtain ⟨_, _, h⟩ := h
    split at h
    · cases h
    · rename_i t ht
      simp only [bind_eq_ok_iff, pure_eq_ok, Except.ok.injEq, Prod.mk.injEq] at h
      obtain ⟨_, _, rfl, rfl⟩ := h
      exact .inr ⟨rfl, by simpa using hkey, t, ht, rfl⟩

theorem insertComplianceCase_eq_ok {c : ComplianceCase} {db db' : Database}
    (h : insertComplianceCase c db = .ok db') :
    ∃ t, db' = { db with complianceCases := t } ∧
      (t = db.complianceCases ∨ db.complianceCases.insert? c.stored = some t) := by
  simp only [insertComplianceCase, bind_eq_ok_iff] at h
  obtain ⟨_, _, h⟩ := h
  split at h
  · cases h
    exact ⟨_, rfl, .inl rfl⟩
  · simp only [bind_eq_ok_iff] at h
    obtain ⟨_, _, h⟩ := h
    split at h
    · cases h
    · rename_i t ht
      cases h
      exact ⟨t, rfl, .inr ht⟩

/-- A payment is held with its case, or nothing happens. -/
theorem holdPayment_eq_ok {r : TransactionRow} {c : ComplianceCase} {db db' : Database}
    {inserted : Bool} (h : holdPayment r c db = .ok (db', inserted)) :
    (inserted = false ∧ db' = db ∧ db.hasReference r.clientReferenceId = true) ∨
      (inserted = true ∧ db.hasReference r.clientReferenceId = false ∧
        ∃ t u, db.transactions.insert? r = some t ∧
          db' = { db with transactions := t, complianceCases := u } ∧
          (u = db.complianceCases ∨ db.complianceCases.insert? c.stored = some u)) := by
  simp only [holdPayment, bind_eq_ok_iff] at h
  obtain ⟨⟨db₁, b⟩, hins, h⟩ := h
  split at h
  · rename_i hb
    simp only [bind_eq_ok_iff, pure_eq_ok, Except.ok.injEq, Prod.mk.injEq] at h
    obtain ⟨db₂, hcase, rfl, rfl⟩ := h
    rcases insertTransaction_eq_ok hins with ⟨rfl, -, -⟩ | ⟨-, hkey, t, ht, rfl⟩
    · cases hb
    obtain ⟨u, rfl, hu⟩ := insertComplianceCase_eq_ok hcase
    exact .inr ⟨rfl, hkey, t, u, ht, rfl, hu⟩
  · rename_i hb
    cases h
    rcases insertTransaction_eq_ok hins with ⟨-, -, hkey⟩ | ⟨rfl, -⟩
    · exact .inl ⟨rfl, rfl, hkey⟩
    · exact absurd rfl hb

theorem insertCredential_eq_ok_iff {c : InstitutionCredential} {db db' : Database} :
    insertCredential c db = .ok db' ↔ c.textOk db.settings = true ∧ ∃ id, uuidIn c.id = some id ∧
      db.checkCredential c = .ok () ∧
      ∃ t, db.institutionCredentials.insert? { c.stored with id := id } = some t ∧
        db' = { db with institutionCredentials := t } := by
  simp only [insertCredential, bind_eq_ok_iff, enforce_eq_ok_iff, exists_const]
  refine and_congr_right fun _ => ?_
  cases hid : uuidIn c.id with
  | none => simp
  | some id =>
    simp only [Option.some.injEq, exists_eq_left']
    cases ht : db.institutionCredentials.insert? { c.stored with id := id } with
    | none => simp
    | some t => simp [bind_eq_ok_iff, Unique.exists_iff, eq_comm (a := db')]

theorem insertCredential_eq_ok {c : InstitutionCredential} {db db' : Database}
    (h : insertCredential c db = .ok db') : ∃ t, db' = { db with institutionCredentials := t } := by
  obtain ⟨-, _, -, -, t, -, rfl⟩ := insertCredential_eq_ok_iff.mp h
  exact ⟨t, rfl⟩

theorem recordFinalizedBlock_eq_ok {id : String} {b : Block} {now : DateTime} {db db' : Database}
    (h : recordFinalizedBlock id b now db = .ok db') :
    ∃ t, db' = { db with validatorStatus := t } := by
  simp only [recordFinalizedBlock, bind_eq_ok_iff, pure_eq_ok, Except.ok.injEq] at h
  obtain ⟨_, _, rfl⟩ := h
  exact ⟨_, rfl⟩

/-- Taking the lock changes nothing else, and fails exactly while another
session holds it. -/
theorem tryLock_eq {session : Session} {db db' : Database} {acquired : Bool}
    (h : tryLock session db = (db', acquired)) :
    (acquired = true ∧
        (db.blockProductionLock = none ∨ db.blockProductionLock = some session) ∧
        db' = { db with blockProductionLock := some session }) ∨
      (acquired = false ∧ db' = db ∧
        ∃ holder, db.blockProductionLock = some holder ∧ holder ≠ session) := by
  unfold tryLock at h
  cases hlock : db.blockProductionLock with
  | none =>
    rw [hlock] at h
    cases h
    exact .inl ⟨rfl, .inl rfl, rfl⟩
  | some holder =>
    rw [hlock] at h
    cases h
    by_cases hs : holder = session
    · subst hs
      refine .inl ⟨by simp, .inr rfl, ?_⟩
      cases db
      simp only at hlock
      simp [hlock]
    · exact .inr ⟨by simp [hs], rfl, holder, rfl, hs⟩

theorem unlock_eq {session : Session} {db db' : Database} {released : Bool}
    (h : unlock session db = (db', released)) :
    (released = true ∧ db.blockProductionLock = some session ∧
        db' = { db with blockProductionLock := none }) ∨
      (released = false ∧ db.blockProductionLock ≠ some session ∧ db' = db) := by
  unfold unlock at h
  split at h
  · rename_i hlock
    cases h
    exact .inl ⟨rfl, hlock, rfl⟩
  · rename_i hlock
    cases h
    exact .inr ⟨rfl, hlock, rfl⟩

/-! ## `UPDATE transactions` -/

theorem find?_updatePayment (id : String) (expected status : TransactionStatus)
    (failureReason : Option String) (now : DateTime) (db : Database) (id' : String) :
    (db.updatePayment id expected status failureReason now).transactions.find? id' =
      (db.transactions.find? id').map fun r =>
        if r.id = id && r.status = expected then
          { r with
            status := status
            failureReason := failureReason
            updatedAt := timestamptz now }
        else r := by
  simp only [updatePayment, Table.find?_modify]

/-- The status of a payment, if it is stored. -/
def paymentStatus (db : Database) (id : String) : Option TransactionStatus :=
  (db.transactions.find? id).map TransactionRow.status

/-- `UPDATE … WHERE id = … AND status = …` moves one payment out of one
status. -/
theorem paymentStatus_updatePayment (id : String) (expected status : TransactionStatus)
    (failureReason : Option String) (now : DateTime) (db : Database) (id' : String) :
    (db.updatePayment id expected status failureReason now).paymentStatus id' =
      if id' = id ∧ db.paymentStatus id' = some expected then some status
      else db.paymentStatus id' := by
  by_cases h : id' = id ∧ db.paymentStatus id' = some expected
  · rw [if_pos h]
    obtain ⟨rfl, hst⟩ := h
    obtain ⟨r, hr, rfl⟩ := Option.map_eq_some_iff.mp hst
    simp [paymentStatus, find?_updatePayment, hr, Table.key_of_find? hr]
  · rw [if_neg h]
    unfold paymentStatus at h ⊢
    cases hr : db.transactions.find? id' with
    | none => simp [find?_updatePayment, hr]
    | some r =>
      have hid := Table.key_of_find? hr
      have hr' : ¬ (r.id = id ∧ r.status = expected) := by
        rw [hr, Option.map_some, Option.some.injEq] at h
        rwa [hid]
      simp only [find?_updatePayment, hr, Option.map_some, Bool.and_eq_true, decide_eq_true_eq]
      rw [if_neg hr']

theorem find?_updateComplianceCase (c : ComplianceCase) (db : Database) (id : String) :
    (db.updateComplianceCase c).complianceCases.find? id =
      (db.complianceCases.find? id).map fun r => if r.id = c.id then r.merge c.stored else r := by
  simp only [updateComplianceCase, Table.find?_modify, decide_eq_true_eq]

/-! ## Queries -/

@[simp] theorem joinBlock_id (db : Database) (r : TransactionRow) :
    (db.joinBlock r).transaction.id = r.id := rfl
@[simp] theorem joinBlock_status (db : Database) (r : TransactionRow) :
    (db.joinBlock r).status = r.status := rfl
@[simp] theorem joinBlock_transaction (db : Database) (r : TransactionRow) :
    (db.joinBlock r).transaction = r.toTransaction := rfl

theorem mem_payments {db : Database} {p : PaymentRecord} :
    p ∈ db.payments ↔ ∃ r ∈ db.transactions.rows, db.joinBlock r = p := by
  simp only [payments, List.mem_map, List.mem_insertionSort]

theorem payments_nodup (db : Database) :
    (db.payments.map fun p => p.transaction.id).Nodup := by
  have hids : db.payments.map (fun p => p.transaction.id) =
      (db.transactions.rows.insertionSort TransactionRow.Before).map TransactionRow.id := by
    simp only [payments, List.map_map]
    rfl
  rw [hids]
  exact (((List.perm_insertionSort _ _).map _).nodup_iff).mpr db.transactions.nodup

/-- A transaction of the queue is a PENDING row. -/
theorem of_mem_pendingTransactions {db : Database} {limit offset : Nat} {tx : Transaction}
    (h : tx ∈ db.pendingTransactions limit offset) :
    ∃ r, db.transactions.find? tx.id = some r ∧ r.status = .pending ∧ r.toTransaction = tx := by
  obtain ⟨r, hr, rfl⟩ := List.mem_map.mp h
  have hmem := (List.mem_insertionSort _).mp (List.mem_of_mem_drop (List.mem_of_mem_take hr))
  obtain ⟨hmem, hst⟩ := List.mem_filter.mp hmem
  exact ⟨r, Table.mem_rows_iff.mp hmem, by simpa using hst, rfl⟩

theorem pendingTransactions_nodup (db : Database) (limit offset : Nat) :
    ((db.pendingTransactions limit offset).map Transaction.id).Nodup := by
  have hids : (db.pendingTransactions limit offset).map Transaction.id =
      ((((db.transactions.rows.filter fun r => r.status = .pending).insertionSort
        TransactionRow.Before).drop offset).take limit).map TransactionRow.id := by
    simp only [pendingTransactions, List.map_map]
    rfl
  rw [hids]
  have hsorted : (((db.transactions.rows.filter fun r => r.status = .pending).insertionSort
      TransactionRow.Before).map TransactionRow.id).Nodup :=
    (((List.perm_insertionSort _ _).map _).nodup_iff).mpr
      (db.transactions.nodup.sublist ((List.filter_sublist).map _))
  exact hsorted.sublist (((List.take_sublist _ _).trans (List.drop_sublist _ _)).map _)

end Database

end KaniNetwork
