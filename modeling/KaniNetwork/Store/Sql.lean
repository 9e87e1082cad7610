/-
KaniNetwork.Store.Sql — the commands `PostgresLedgerStore` sends.

A command is a `Query`, which reads, or a `Statement`, which writes and
may fail; a transaction of several SQL statements is one `Statement`. The
methods of the store are programs over these commands
(`Base/Prog.lean`), so between two commands of one program any other may
commit.

`exec_write` and the two `Safe` rules are all a proof about a program
needs to know of `Sql.exec`: a query changes nothing, a failed statement
changes nothing, and a successful one does what `Statement.run` says.
-/
import KaniNetwork.Base.Prog
import KaniNetwork.Store.DatabaseTheorems

namespace KaniNetwork

inductive Query where
  | accounts
  | institutions
  | institution (institutionId : String)
  | institutionCredentials
  | institutionLimits
  | balances
  | payments
  | complianceCases (limit offset : Nat)
  | blocks
  | journalEntries
  | auditEvents
  | pendingTransactions (limit offset : Nat)
  | nextNonce (accountId : String)
  | payment (paymentId : String)
  | paymentByClientReferenceId (clientReferenceId : String)
  | complianceCase (caseId : String)
  | complianceCaseByPaymentId (paymentId : String)
  deriving DecidableEq

@[reducible] def Query.Reply : Query → Type
  | .accounts => List Account
  | .institutions => List Institution
  | .institution _ => Option Institution
  | .institutionCredentials => List InstitutionCredential
  | .institutionLimits => List InstitutionLimit
  | .balances => List Balance
  | .payments => List PaymentRecord
  | .complianceCases _ _ => List ComplianceCase
  | .blocks => List BlockRow
  | .journalEntries => List JournalEntry
  | .auditEvents => List AuditEvent
  | .pendingTransactions _ _ => List Transaction
  | .nextNonce _ => Int
  | .payment _ => Option PaymentRecord
  | .paymentByClientReferenceId _ => Option PaymentRecord
  | .complianceCase _ => Option ComplianceCase
  | .complianceCaseByPaymentId _ => Option ComplianceCase

def Query.eval (db : Database) : (q : Query) → q.Reply
  | .accounts => db.accountRows
  | .institutions => db.institutionRows
  | .institution institutionId => db.institutions.find? institutionId
  | .institutionCredentials => db.credentialRows
  | .institutionLimits => db.limitRows
  | .balances => db.balanceRows
  | .payments => db.payments
  | .complianceCases limit offset => db.complianceCasePage limit offset
  | .blocks => db.blockRows
  | .journalEntries => db.journalRows
  | .auditEvents => db.auditRows
  | .pendingTransactions limit offset => db.pendingTransactions limit offset
  | .nextNonce accountId => db.nextNonce accountId
  | .payment paymentId => (db.transactions.find? paymentId).map db.joinBlock
  | .paymentByClientReferenceId clientReferenceId =>
    db.paymentByClientReferenceId clientReferenceId
  | .complianceCase caseId => db.complianceCases.find? caseId
  | .complianceCaseByPaymentId paymentId => db.complianceCaseByPaymentId paymentId

inductive Statement where
  | insertPending (row : TransactionRow)
  | holdPayment (row : TransactionRow) (complianceCase : ComplianceCase)
  | approveCase (complianceCase : ComplianceCase) (now : DateTime)
  | rejectCase (complianceCase : ComplianceCase) (reason : String) (now : DateTime)
  | upsertInstitution (institution : Institution)
  | upsertInstitutionLimit (limit : InstitutionLimit)
  | insertCredential (credential : InstitutionCredential)
  | suspendInstitution (institutionId : String) (now : DateTime)
  | rejectTransaction (transactionId reason : String) (now : DateTime)
  | insertAuditEvent (event : AuditEvent)
  | recordHeartbeat (validatorId : String) (now : DateTime)
  | recordFinalizedBlock (validatorId : String) (block : Block) (now : DateTime)
  | saveSnapshot (snapshot : LedgerSnapshot)
  | tryLock (session : Session)
  | unlock (session : Session)

/-- What a statement reports: whether it inserted a row or got the lock, or
the row it returns. -/
@[reducible] def Statement.Reply : Statement → Type
  | .insertPending _ | .holdPayment _ _ | .tryLock _ | .unlock _ => Bool
  | .suspendInstitution _ _ => Option Institution
  | _ => Unit

open Database in
def Statement.run (db : Database) : (w : Statement) → Except SqlxError (Database × w.Reply)
  | .insertPending row => insertTransaction row db
  | .holdPayment row complianceCase => Database.holdPayment row complianceCase db
  | .approveCase complianceCase now => do
    enforce complianceCase.verdictTextOk .invalidText
    return (Database.approveCase complianceCase now db, ())
  | .rejectCase complianceCase reason now => do
    enforce (complianceCase.verdictTextOk && isText reason) .invalidText
    return (Database.rejectCase complianceCase reason now db, ())
  | .upsertInstitution institution => (·, ()) <$> Database.upsertInstitution institution db
  | .upsertInstitutionLimit limit => (·, ()) <$> Database.upsertInstitutionLimit limit db
  | .insertCredential credential => (·, ()) <$> Database.insertCredential credential db
  | .suspendInstitution institutionId now =>
    let db := Database.suspendInstitution institutionId now db
    .ok (db, db.institutions.find? institutionId)
  | .rejectTransaction transactionId reason now =>
    .ok (Database.rejectTransaction transactionId reason now db, ())
  | .insertAuditEvent event => do
    enforce event.textOk .invalidText
    (·, ()) <$> Database.insertAuditEvent event db
  | .recordHeartbeat validatorId now => .ok (Database.recordHeartbeat validatorId now db, ())
  | .recordFinalizedBlock validatorId block now =>
    (·, ()) <$> Database.recordFinalizedBlock validatorId block now db
  | .saveSnapshot snapshot => (·, ()) <$> Database.saveSnapshot snapshot db
  | .tryLock session => .ok (Database.tryLock session db)
  | .unlock session => .ok (Database.unlock session db)

theorem of_unit_eq_ok {x : Except SqlxError Database} {db' : Database} {u : Unit}
    (h : (·, ()) <$> x = .ok (db', u)) : x = .ok db' := by
  cases x with
  | error e => cases h
  | ok s =>
    cases h
    rfl

/-- A review is carried out when its texts are taken. -/
theorem Statement.run_approveCase (c : ComplianceCase) (now : DateTime) (db : Database) :
    Statement.run db (.approveCase c now) =
      if c.verdictTextOk then .ok (db.approveCase c now, ()) else .error .invalidText := by
  simp only [Statement.run, enforce]
  cases c.verdictTextOk <;> rfl

theorem Statement.run_rejectCase (c : ComplianceCase) (reason : String) (now : DateTime)
    (db : Database) : Statement.run db (.rejectCase c reason now) =
      if c.verdictTextOk && isText reason then .ok (db.rejectCase c reason now, ())
      else .error .invalidText := by
  simp only [Statement.run, enforce]
  cases c.verdictTextOk && isText reason <;> rfl

theorem Statement.approveCase_eq_ok {c : ComplianceCase} {now : DateTime} {db db' : Database}
    {u : Unit} (h : Statement.run db (.approveCase c now) = .ok (db', u)) :
    c.verdictTextOk = true ∧ db' = db.approveCase c now := by
  rw [run_approveCase] at h
  split at h
  · cases h
    exact ⟨‹_›, rfl⟩
  · cases h

theorem Statement.rejectCase_eq_ok {c : ComplianceCase} {reason : String} {now : DateTime}
    {db db' : Database} {u : Unit} (h : Statement.run db (.rejectCase c reason now) = .ok (db', u)) :
    (c.verdictTextOk && isText reason) = true ∧ db' = db.rejectCase c reason now := by
  rw [run_rejectCase] at h
  split at h
  · cases h
    exact ⟨‹_›, rfl⟩
  · cases h

theorem Statement.insertAuditEvent_eq_ok {e : AuditEvent} {db db' : Database} {u : Unit}
    (h : Statement.run db (.insertAuditEvent e) = .ok (db', u)) :
    e.textOk = true ∧ Database.insertAuditEvent e db = .ok db' := by
  simp only [Statement.run, bind_eq_ok_iff, enforce_eq_ok_iff] at h
  obtain ⟨_, htext, h⟩ := h
  exact ⟨htext, of_unit_eq_ok h⟩

theorem of_unit_eq_error {x : Except SqlxError Database} {e : SqlxError}
    (h : (·, ()) <$> x = .error e) : x = .error e := by
  cases x with
  | error e' =>
    cases h
    rfl
  | ok s => cases h

/-- A command to the database. -/
inductive Sql where
  | read (query : Query)
  | write (statement : Statement)

/-- The command is the query `q`. -/
def Sql.asks (q : Query) : Sql → Bool
  | .read q' => decide (q' = q)
  | .write _ => false

theorem Sql.asks_iff {q : Query} {c : Sql} : c.asks q = true ↔ c = .read q := by
  cases c with
  | read q' => simp [asks]
  | write w => simp [asks]

/-- The snapshot a command saves, if it saves one. -/
def Sql.saved? : Sql → Option LedgerSnapshot
  | .write (.saveSnapshot snapshot) => some snapshot
  | _ => none

@[reducible] def Sql.Reply : Sql → Type
  | .read q => q.Reply
  | .write w => Except SqlxError w.Reply

/-- What a command does; a failed statement is rolled back. -/
def Sql.exec : (c : Sql) → Database → Database × c.Reply
  | .read q, db => (db, q.eval db)
  | .write w, db =>
    match w.run db with
    | .ok (db', reply) => (db', .ok reply)
    | .error e => (db, .error e)

@[simp] theorem Sql.exec_read (q : Query) (db : Database) :
    Sql.exec (.read q) db = (db, q.eval db) := rfl

theorem Sql.exec_write_ok {w : Statement} {db db' : Database} {reply : w.Reply}
    (h : w.run db = .ok (db', reply)) : Sql.exec (.write w) db = (db', .ok reply) := by
  simp only [exec, h]

theorem Sql.exec_write_error {w : Statement} {db : Database} {e : SqlxError}
    (h : w.run db = .error e) : Sql.exec (.write w) db = (db, .error e) := by
  simp only [exec, h]

/-- A command leaves the database alone or is a statement that succeeds. -/
theorem Sql.exec_cases (c : Sql) (db : Database) :
    (c.exec db).1 = db ∨
      ∃ w reply, c = .write w ∧ w.run db = .ok ((c.exec db).1, reply) := by
  cases c with
  | read q => exact .inl rfl
  | write w =>
    cases h : w.run db with
    | error e =>
      left
      rw [exec_write_error h]
    | ok r =>
      right
      refine ⟨w, r.2, rfl, ?_⟩
      rw [exec_write_ok h]
      exact h

/-! ## Programs of the store -/

/-- The errors a failed statement turns into behind `?`. -/
class FromSqlx (ε : Type) where
  fromSqlx : SqlxError → ε

instance : FromSqlx LedgerStorageError := ⟨.sqlx⟩

/-- A method that talks to the database. -/
abbrev StoreProg (ε α : Type) := Prog Sql Sql.Reply ε α

/-- Run a query. -/
def query {ε : Type} (q : Query) : StoreProg ε q.Reply := .call (.read q) .ok

/-- Run a statement; an error ends the method. -/
def execute {ε : Type} [FromSqlx ε] (w : Statement) : StoreProg ε w.Reply :=
  .call (.write w) fun reply => .ofExcept (reply.mapError FromSqlx.fromSqlx)

theorem exec_execute_ok {ε : Type} [FromSqlx ε] {w : Statement} {db db' : Database}
    {reply : w.Reply} (h : w.run db = .ok (db', reply)) :
    (execute w : StoreProg ε w.Reply).exec Sql.exec db = (db', .ok reply) := by
  simp only [execute, Prog.exec_call, Sql.exec_write_ok h]
  rfl

theorem exec_execute_error {ε : Type} [FromSqlx ε] {w : Statement} {db : Database} {e : SqlxError}
    (h : w.run db = .error e) :
    (execute w : StoreProg ε w.Reply).exec Sql.exec db = (db, .error (FromSqlx.fromSqlx e)) := by
  simp only [execute, Prog.exec_call, Sql.exec_write_error h]
  rfl

theorem only_query {ε : Type} {P : Sql → Prop} {q : Query} (h : P (.read q)) :
    (query q : StoreProg ε q.Reply).Only P :=
  ⟨h, fun _ => trivial⟩

theorem only_execute {ε : Type} [FromSqlx ε] {P : Sql → Prop} {w : Statement} (h : P (.write w)) :
    (execute w : StoreProg ε w.Reply).Only P :=
  ⟨h, fun _ => .ofExcept _⟩

/-- The statements of a validator pass. -/
def Statement.ofPass : Statement → Bool
  | .rejectTransaction _ _ _ | .insertAuditEvent _ | .recordHeartbeat _ _
  | .recordFinalizedBlock _ _ _ | .saveSnapshot _ | .tryLock _ | .unlock _ => true
  | _ => false

/-- A store with a database in it. What stands beside the database may follow
the commands of the API and the saves, but nothing else a pass does. -/
structure DbView (σ : Type) where
  sem : (c : Sql) → σ → σ × c.Reply
  db : σ → Database
  put : Database → σ → σ
  save : LedgerSnapshot → Database → σ → σ := fun _ d s => put d s
  put_db : ∀ s, put (db s) s = s
  read : ∀ q s, sem (.read q) s = (s, q.eval (db s))
  write : ∀ w s, w.ofPass = true → sem (.write w) s =
    match w.run (db s) with
    | .ok (d, reply) =>
      (match (Sql.write w).saved? with
        | some snapshot => save snapshot d s
        | none => put d s, .ok reply)
    | .error e => (s, .error e)

/-- The store after a statement of a pass. -/
def DbView.commit {σ : Type} (V : DbView σ) (w : Statement) (d : Database) (s : σ) : σ :=
  match (Sql.write w).saved? with
  | some snapshot => V.save snapshot d s
  | none => V.put d s

/-- The database alone. -/
def DbView.plain : DbView Database where
  sem := Sql.exec
  db := id
  put := fun d _ => d
  put_db := fun _ => rfl
  read := fun _ _ => rfl
  write := by
    intro w s hw
    simp only [Sql.exec, id_eq]
    cases w.run s with
    | error e => rfl
    | ok r => cases (Sql.write w).saved? <;> rfl

section

variable {γ : Type} (note : (w : Statement) → w.Reply → γ → γ)

/-- A command on a database with a record beside it: a statement that
commits is noted in the record. -/
def Sql.execBeside (c : Sql) (s : Database × γ) : (Database × γ) × c.Reply :=
  match c with
  | .read q => (s, q.eval s.1)
  | .write w =>
    match w.run s.1 with
    | .ok (d, reply) => ((d, note w reply s.2), .ok reply)
    | .error e => (s, .error e)

/-- A command changes nothing or is a statement that commits. -/
theorem Sql.execBeside_cases (c : Sql) (s : Database × γ) :
    (c.execBeside note s).1 = s ∨
      ∃ w d reply, c = .write w ∧ w.run s.1 = .ok (d, reply) ∧
        (c.execBeside note s).1 = (d, note w reply s.2) := by
  cases c with
  | read q => exact .inl rfl
  | write w =>
    simp only [execBeside]
    cases h : w.run s.1 with
    | error e => exact .inl rfl
    | ok r => exact .inr ⟨w, r.1, r.2, rfl, h, rfl⟩

/-- A statement beside a record is safe when its commit is, with what it notes. -/
theorem Sql.safe_executeBeside {ε α : Type} [FromSqlx ε]
    {rely guar : Database × γ → Database × γ → Prop} {ok : Sql → Database × γ → Prop}
    {post : Except ε α → Database × γ → Prop} {w : Statement} {f : w.Reply → StoreProg ε α}
    {s₀ : Database × γ} (hguar : ∀ s, guar s s) (hpost : ∀ e s, post (.error e) s)
    (h : ∀ s d reply, rely s₀ s → w.run s.1 = .ok (d, reply) →
      guar s (d, note w reply s.2) ∧
        (f reply).Safe (Sql.execBeside note) rely guar ok post (d, note w reply s.2)) :
    (execute w >>= f).Safe (Sql.execBeside note) rely guar ok post s₀ := by
  intro s hs _
  simp only [execBeside]
  cases hrun : w.run s.1 with
  | error e => exact ⟨hguar s, fun _ _ => hpost _ _⟩
  | ok r => exact h s r.1 r.2 hs hrun

/-- A record that passes do not write. -/
def DbView.beside (hpass : ∀ (w : Statement) (reply : w.Reply) (g : γ), w.ofPass = true →
    note w reply g = g) : DbView (Database × γ) where
  sem := Sql.execBeside note
  db := Prod.fst
  put := fun d s => (d, s.2)
  put_db := fun _ => rfl
  read := fun _ _ => rfl
  write := by
    intro w s hw
    simp only [Sql.execBeside]
    cases w.run s.1 with
    | error e => rfl
    | ok r =>
      simp only [hpass _ _ _ hw]
      cases (Sql.write w).saved? <;> rfl

end

section

variable {σ ε α : Type} {rely guar : σ → σ → Prop} {ok : Sql → σ → Prop}
  {post : Except ε α → σ → Prop} {s₀ : σ}

/-- A query is safe when the rest is, with what the query reads. -/
theorem DbView.safe_query (V : DbView σ) {q : Query} {f : q.Reply → StoreProg ε α}
    (hguar : ∀ s, guar s s)
    (h : ∀ s, rely s₀ s → (f (q.eval (V.db s))).Safe V.sem rely guar ok post s) :
    (query q >>= f).Safe V.sem rely guar ok post s₀ := by
  intro s hs _
  rw [V.read]
  exact ⟨hguar s, h s hs⟩

/-- A statement is safe when its failure may be reported and when its success
stays within the guarantee and is followed by something safe. -/
theorem DbView.safe_execute_run (V : DbView σ) [FromSqlx ε] {w : Statement}
    {f : w.Reply → StoreProg ε α} (hw : w.ofPass = true) (hguar : ∀ s, guar s s)
    (herror : ∀ e s, rely s₀ s → ok (.write w) s → w.run (V.db s) = .error e →
      ∀ s', rely s s' → post (.error (FromSqlx.fromSqlx e)) s')
    (h : ∀ s d reply, rely s₀ s → ok (.write w) s → w.run (V.db s) = .ok (d, reply) →
      guar s (V.commit w d s) ∧ (f reply).Safe V.sem rely guar ok post (V.commit w d s)) :
    (execute w >>= f).Safe V.sem rely guar ok post s₀ := by
  intro s hs hok
  rw [V.write w s hw]
  cases hrun : w.run (V.db s) with
  | error e => exact ⟨hguar s, herror e s hs hok hrun⟩
  | ok r => exact h s r.1 r.2 hs hok hrun

/-- The same where any failure may be reported. -/
theorem DbView.safe_execute (V : DbView σ) [FromSqlx ε] {w : Statement}
    {f : w.Reply → StoreProg ε α} (hw : w.ofPass = true) (hguar : ∀ s, guar s s)
    (herror : ∀ e s, rely s₀ s → ∀ s', rely s s' → post (.error (FromSqlx.fromSqlx e)) s')
    (h : ∀ s d reply, rely s₀ s → ok (.write w) s → w.run (V.db s) = .ok (d, reply) →
      guar s (V.commit w d s) ∧ (f reply).Safe V.sem rely guar ok post (V.commit w d s)) :
    (execute w >>= f).Safe V.sem rely guar ok post s₀ :=
  V.safe_execute_run hw hguar (fun e s hs _ _ => herror e s hs) h

end

section

variable {ε α : Type} {rely guar : Database → Database → Prop} {ok : Sql → Database → Prop}
  {post : Except ε α → Database → Prop} {db : Database}

/-- `DbView.safe_query` on the database alone. -/
theorem safe_query {q : Query} {f : q.Reply → StoreProg ε α} (hguar : ∀ s, guar s s)
    (h : ∀ s, rely db s → (f (q.eval s)).Safe Sql.exec rely guar ok post s) :
    (query q >>= f).Safe Sql.exec rely guar ok post db :=
  DbView.plain.safe_query hguar h

/-- `DbView.safe_execute_run` on the database alone, where it holds of every
statement. -/
theorem safe_execute_run [FromSqlx ε] {w : Statement} {f : w.Reply → StoreProg ε α}
    (hguar : ∀ s, guar s s)
    (herror : ∀ e s, rely db s → ok (.write w) s → w.run s = .error e →
      ∀ s', rely s s' → post (.error (FromSqlx.fromSqlx e)) s')
    (h : ∀ s s' reply, rely db s → ok (.write w) s → w.run s = .ok (s', reply) →
      guar s s' ∧ (f reply).Safe Sql.exec rely guar ok post s') :
    (execute w >>= f).Safe Sql.exec rely guar ok post db := by
  intro s hs hok
  cases hrun : w.run s with
  | error e =>
    rw [Sql.exec_write_error hrun]
    exact ⟨hguar s, herror e s hs hok hrun⟩
  | ok r =>
    rw [Sql.exec_write_ok hrun]
    exact h s r.1 r.2 hs hok hrun

/-- The same where any failure may be reported. -/
theorem safe_execute [FromSqlx ε] {w : Statement} {f : w.Reply → StoreProg ε α}
    (hguar : ∀ s, guar s s)
    (herror : ∀ e s, rely db s → ∀ s', rely s s' → post (.error (FromSqlx.fromSqlx e)) s')
    (h : ∀ s s' reply, rely db s → ok (.write w) s → w.run s = .ok (s', reply) →
      guar s s' ∧ (f reply).Safe Sql.exec rely guar ok post s') :
    (execute w >>= f).Safe Sql.exec rely guar ok post db :=
  safe_execute_run hguar (fun e s hs _ _ => herror e s hs) h

end

end KaniNetwork
