/-
KaniNetwork.Store.Numeric — the ranges of the `NUMERIC(38, 0)` columns.

The migrations bound every amount: a balance or a limit is at least zero, a
payment or a journal entry is positive, and all are below `10 ^ 38`. A
statement checks what it writes, so the rows of a database are in range
whatever the programs do (`inRange_of_run`). A snapshot carries numbers the
programs computed; `saveSnapshot_failsIn` says that a snapshot whose numbers
are in range is never refused for a number.
-/
import KaniNetwork.Store.Sql

namespace KaniNetwork

/-- The range of a balance and of a limit. -/
def BalanceOk (n : Int) : Prop := 0 ≤ n ∧ n < 10 ^ 38

/-- The range of the amount of a payment and of a journal entry. -/
def AmountOk (n : Int) : Prop := 0 < n ∧ n < 10 ^ 38

/-- The `CHECK` constraints on numbers. -/
def rangeChecks : List String :=
  ["institution_limits (daily_limit)", "institution_limits (per_transaction_limit)",
    "balances (amount)", "transactions (amount)", "journal_entries (amount)"]

/-- A number was refused. -/
def SqlxError.ofRange : SqlxError → Bool
  | .invalidText => false
  | .numericOverflow => true
  | .check constraint => constraint ∈ rangeChecks
  | .unique _ => false
  | .foreignKey _ => false

def InstitutionLimit.InRange (l : InstitutionLimit) : Prop :=
  BalanceOk l.dailyLimit ∧ BalanceOk l.perTransactionLimit

/-- Every number a snapshot writes is in the range of its column. -/
structure LedgerSnapshot.InRange (s : LedgerSnapshot) : Prop where
  limits : ∀ l ∈ s.institutionLimits, l.InRange
  balances : ∀ b ∈ s.balances, BalanceOk b.amount
  payments : ∀ p ∈ s.payments, AmountOk p.transaction.amount
  journalEntries : ∀ e ∈ s.journalEntries, AmountOk e.amount

/-- Every number in the tables is in the range of its column. -/
structure Database.InRange (db : Database) : Prop where
  limits : db.institutionLimits.All InstitutionLimit.InRange
  balances : db.balances.All fun b => BalanceOk b.amount
  transactions : db.transactions.All fun r => AmountOk r.amount
  journalEntries : db.journalEntries.All fun e => AmountOk e.amount

/-! ## Rows stay in range -/

theorem balanceOk_of_checks {n : Int} (hnum : numericOk n = true) (hpos : decide (0 ≤ n) = true) :
    BalanceOk n := by
  simp only [numericOk, Bool.and_eq_true, decide_eq_true_eq] at hnum hpos
  exact ⟨hpos, hnum.2⟩

theorem amountOk_of_checks {n : Int} (hnum : numericOk n = true) (hpos : decide (0 < n) = true) :
    AmountOk n := by
  simp only [numericOk, Bool.and_eq_true, decide_eq_true_eq] at hnum hpos
  exact ⟨hpos, hnum.2⟩

theorem BalanceOk.numericOk {n : Int} (h : BalanceOk n) : numericOk n = true := by
  simp only [KaniNetwork.numericOk, Bool.and_eq_true, decide_eq_true_eq]
  exact ⟨by have := h.1; omega, h.2⟩

theorem AmountOk.balanceOk {n : Int} (h : AmountOk n) : BalanceOk n := ⟨le_of_lt h.1, h.2⟩

namespace Database

variable {db db' : Database}

/-- A change of other tables. -/
theorem InRange.of_eq (h : db.InRange) (hlimits : db'.institutionLimits = db.institutionLimits)
    (hbalances : db'.balances = db.balances) (htxs : db'.transactions = db.transactions)
    (hjournal : db'.journalEntries = db.journalEntries) : db'.InRange :=
  ⟨hlimits ▸ h.limits, hbalances ▸ h.balances, htxs ▸ h.transactions, hjournal ▸ h.journalEntries⟩

theorem inRange_empty (settings : Settings) : InRange (.empty settings) := by
  refine ⟨?_, ?_, ?_, ?_⟩ <;> exact fun _ hr => by cases hr

theorem upsertInstitutionLimit_inRange {l : InstitutionLimit}
    (hrun : upsertInstitutionLimit l db = .ok db') (h : db.InRange) : db'.InRange := by
  rw [upsertInstitutionLimit_eq_ok hrun]
  simp only [upsertInstitutionLimit, bind_eq_ok_iff, enforce_eq_ok_iff, Bool.and_eq_true] at hrun
  obtain ⟨_, -, _, ⟨hdaily, hper⟩, _, hdaily', _, hper', -⟩ := hrun
  have hl : l.InRange := ⟨balanceOk_of_checks hdaily hdaily', balanceOk_of_checks hper hper'⟩
  exact ⟨h.limits.upsert hl fun _ _ => hl, h.balances, h.transactions, h.journalEntries⟩

theorem saveBalance_inRange {b : Balance} (hrun : saveBalance b db = .ok db') (h : db.InRange) :
    db'.InRange := by
  rw [saveBalance_eq_ok hrun]
  simp only [saveBalance, bind_eq_ok_iff, enforce_eq_ok_iff] at hrun
  obtain ⟨_, hnum, _, hpos, -⟩ := hrun
  have hb : BalanceOk b.amount := balanceOk_of_checks hnum hpos
  exact ⟨h.limits, h.balances.upsert hb fun _ _ => hb, h.transactions, h.journalEntries⟩

theorem amountOk_of_checkTransactionRow {r : TransactionRow} {u : Unit}
    (h : checkTransactionRow r = .ok u) : AmountOk r.amount := by
  simp only [checkTransactionRow, bind_eq_ok_iff, enforce_eq_ok_iff] at h
  obtain ⟨_, hnum, _, hpos, -⟩ := h
  exact amountOk_of_checks hnum hpos

theorem savePayment_inRange {p : PaymentRecord} (hrun : savePayment p db = .ok db')
    (h : db.InRange) : db'.InRange := by
  rw [(savePayment_eq_ok hrun).1]
  simp only [savePayment, bind_eq_ok_iff] at hrun
  obtain ⟨_, hrow, -⟩ := hrun
  have hp : AmountOk (TransactionRow.ofPayment p).amount := amountOk_of_checkTransactionRow hrow
  exact ⟨h.limits, h.balances, h.transactions.upsert hp fun _ hold => hold, h.journalEntries⟩

theorem saveJournalEntry_inRange {e : JournalEntry} (hrun : saveJournalEntry e db = .ok db')
    (h : db.InRange) : db'.InRange := by
  rw [saveJournalEntry_eq_ok hrun]
  simp only [saveJournalEntry, bind_eq_ok_iff, enforce_eq_ok_iff] at hrun
  obtain ⟨_, hnum, _, hpos, -⟩ := hrun
  have he : AmountOk e.stored.amount := amountOk_of_checks hnum hpos
  exact ⟨h.limits, h.balances, h.transactions, h.journalEntries.insertIgnore he⟩

theorem saveSnapshot_inRange {s : LedgerSnapshot} (hrun : saveSnapshot s db = .ok db')
    (h : db.InRange) : db'.InRange := by
  simp only [saveSnapshot, bind_eq_ok_iff] at hrun
  obtain ⟨db₉, ⟨db₈, ⟨db₇, ⟨db₆, ⟨db₅, ⟨db₄, ⟨db₃, ⟨db₂, ⟨db₁, h₁, h₂⟩, h₃⟩, h₄⟩, h₅⟩, h₆⟩, h₇⟩,
    h₈⟩, h₉⟩, h₁₀⟩ := hrun
  have r₁ : db₁.InRange := each_induct (fun _ _ _ _ hx hr => by
    rw [upsertInstitution_eq_ok hx]
    exact hr.of_eq rfl rfl rfl rfl) h₁ h
  have r₂ : db₂.InRange := each_induct (fun _ _ _ _ hx hr => by
    rw [saveCredential_eq_ok hx]
    exact hr.of_eq rfl rfl rfl rfl) h₂ r₁
  have r₃ : db₃.InRange := each_induct (fun _ _ _ _ => upsertInstitutionLimit_inRange) h₃ r₂
  have r₄ : db₄.InRange := each_induct (fun _ _ _ _ hx hr => by
    rw [saveAccount_eq_ok hx]
    exact hr.of_eq rfl rfl rfl rfl) h₄ r₃
  have r₅ : db₅.InRange := each_induct (fun _ _ _ _ => saveBalance_inRange) h₅ r₄
  have r₆ : db₆.InRange := each_induct (fun _ _ _ _ hx hr => by
    rw [saveBlock_eq_ok hx]
    exact hr.of_eq rfl rfl rfl rfl) h₆ r₅
  have r₇ : db₇.InRange := each_induct (fun _ _ _ _ => savePayment_inRange) h₇ r₆
  have r₈ : db₈.InRange := each_induct (fun _ _ _ _ hx hr => by
    rw [saveComplianceCase_eq_ok hx]
    exact hr.of_eq rfl rfl rfl rfl) h₈ r₇
  have r₉ : db₉.InRange := each_induct (fun _ _ _ _ => saveJournalEntry_inRange) h₉ r₈
  refine each_induct (fun _ _ _ _ hx hr => ?_) h₁₀ r₉
  rw [insertAuditEvent_eq_ok hx]
  exact hr.of_eq rfl rfl rfl rfl

theorem insertTransaction_inRange {r : TransactionRow} {inserted : Bool}
    (hrun : insertTransaction r db = .ok (db', inserted)) (h : db.InRange) : db'.InRange := by
  rcases insertTransaction_eq_ok hrun with ⟨-, rfl, -⟩ | ⟨-, -, t, ht, rfl⟩
  · exact h
  · simp only [insertTransaction, bind_eq_ok_iff] at hrun
    obtain ⟨_, -, _, hrow, -⟩ := hrun
    exact ⟨h.limits, h.balances, h.transactions.insert? (amountOk_of_checkTransactionRow hrow) ht,
      h.journalEntries⟩

theorem holdPayment_inRange {r : TransactionRow} {c : ComplianceCase} {inserted : Bool}
    (hrun : holdPayment r c db = .ok (db', inserted)) (h : db.InRange) : db'.InRange := by
  simp only [holdPayment, bind_eq_ok_iff] at hrun
  obtain ⟨⟨db₁, b⟩, hins, hrest⟩ := hrun
  split at hrest
  · simp only [bind_eq_ok_iff, pure_eq_ok, Except.ok.injEq, Prod.mk.injEq] at hrest
    obtain ⟨db₂, hcase, rfl, -⟩ := hrest
    obtain ⟨u, rfl, -⟩ := insertComplianceCase_eq_ok hcase
    exact (insertTransaction_inRange hins h).of_eq rfl rfl rfl rfl
  · cases hrest
    exact h

theorem updatePayment_inRange (id : String) (expected status : TransactionStatus)
    (failureReason : Option String) (now : DateTime) (h : db.InRange) :
    (db.updatePayment id expected status failureReason now).InRange := by
  refine ⟨h.limits, h.balances, ?_, h.journalEntries⟩
  simp only [updatePayment]
  refine h.transactions.modify _ ?_
  exact fun _ hr => hr

/-- Whatever a program sends, the rows stay in range. -/
theorem inRange_of_run {w : Statement} {reply : w.Reply} (hrun : w.run db = .ok (db', reply))
    (h : db.InRange) : db'.InRange := by
  cases w with
  | insertPending row => exact insertTransaction_inRange hrun h
  | holdPayment row c => exact holdPayment_inRange hrun h
  | approveCase c now =>
    obtain ⟨-, rfl⟩ := Statement.approveCase_eq_ok hrun
    exact updatePayment_inRange _ _ _ _ _ (h.of_eq rfl rfl rfl rfl)
  | rejectCase c reason now =>
    obtain ⟨-, rfl⟩ := Statement.rejectCase_eq_ok hrun
    exact updatePayment_inRange _ _ _ _ _ (h.of_eq rfl rfl rfl rfl)
  | upsertInstitution i =>
    rw [upsertInstitution_eq_ok (of_unit_eq_ok hrun)]
    exact h.of_eq rfl rfl rfl rfl
  | upsertInstitutionLimit l => exact upsertInstitutionLimit_inRange (of_unit_eq_ok hrun) h
  | insertCredential c =>
    obtain ⟨t, rfl⟩ := insertCredential_eq_ok (of_unit_eq_ok hrun)
    exact h.of_eq rfl rfl rfl rfl
  | suspendInstitution id now =>
    cases hrun
    exact h.of_eq rfl rfl rfl rfl
  | rejectTransaction id reason now =>
    cases hrun
    exact updatePayment_inRange _ _ _ _ _ h
  | insertAuditEvent e =>
    rw [insertAuditEvent_eq_ok (Statement.insertAuditEvent_eq_ok hrun).2]
    exact h.of_eq rfl rfl rfl rfl
  | recordHeartbeat id now =>
    cases hrun
    exact h.of_eq rfl rfl rfl rfl
  | recordFinalizedBlock id block now =>
    obtain ⟨t, rfl⟩ := recordFinalizedBlock_eq_ok (of_unit_eq_ok hrun)
    exact h.of_eq rfl rfl rfl rfl
  | saveSnapshot s => exact saveSnapshot_inRange (of_unit_eq_ok hrun) h
  | tryLock session =>
    rcases tryLock_eq (Except.ok.inj hrun) with ⟨-, -, rfl⟩ | ⟨-, rfl, -⟩
    · exact h.of_eq rfl rfl rfl rfl
    · exact h
  | unlock session =>
    rcases unlock_eq (Except.ok.inj hrun) with ⟨-, -, rfl⟩ | ⟨-, -, rfl⟩
    · exact h.of_eq rfl rfl rfl rfl
    · exact h

theorem inRange_exec (c : Sql) (h : db.InRange) : (c.exec db).1.InRange := by
  rcases Sql.exec_cases c db with hsame | ⟨w, reply, -, hrun⟩
  · rw [hsame]
    exact h
  · exact inRange_of_run hrun h

/-! ## Snapshots in range are not refused for a number -/

/-- The statement may fail, but not for a number. -/
abbrev NumbersPass {α : Type} (x : Except SqlxError α) : Prop :=
  FailsIn (fun e => e.ofRange = false) x

theorem each_failsIn {P : SqlxError → Prop} {α : Type}
    {statement : α → Database → Except SqlxError Database} {items : List α}
    (h : ∀ x ∈ items, ∀ db, FailsIn P (statement x db)) (db : Database) :
    FailsIn P (each statement items db) := by
  induction items generalizing db with
  | nil => exact .ok db
  | cons x items ih =>
    rw [each, List.foldlM_cons]
    exact (h x List.mem_cons_self db).bind fun db' =>
      ih (fun y hy => h y (List.mem_cons_of_mem _ hy)) db'

theorem checkTransactionRow_failsIn {r : TransactionRow} (h : AmountOk r.amount) :
    NumbersPass (checkTransactionRow r) := by
  unfold checkTransactionRow
  refine .bind (enforce_holds h.balanceOk.numericOk) fun _ => ?_
  refine .bind (enforce_holds (decide_eq_true h.1)) fun _ => ?_
  exact enforce_refuses rfl

theorem upsertInstitution_failsIn (i : Institution) (db : Database) :
    NumbersPass (upsertInstitution i db) := by
  unfold upsertInstitution
  exact .bind (enforce_refuses rfl) fun _ => .bind (enforce_refuses rfl) fun _ => .ok _

theorem saveCredential_failsIn (c : InstitutionCredential) (db : Database) :
    NumbersPass (saveCredential c db) := by
  have hcheck : NumbersPass (db.checkCredential c) := by
    unfold checkCredential
    exact .bind (enforce_refuses rfl) fun _ => enforce_refuses rfl
  unfold saveCredential
  exact .ite (.bind hcheck fun _ => .ok _) (.ok _)

theorem upsertInstitutionLimit_failsIn {l : InstitutionLimit} (h : l.InRange) (db : Database) :
    NumbersPass (upsertInstitutionLimit l db) := by
  have hnum : (numericOk l.dailyLimit && numericOk l.perTransactionLimit) = true := by
    rw [h.1.numericOk, h.2.numericOk, Bool.and_self]
  unfold upsertInstitutionLimit
  refine .bind (enforce_refuses rfl) fun _ => ?_
  refine .bind (enforce_holds hnum) fun _ => ?_
  refine .bind (enforce_holds (decide_eq_true h.1.1)) fun _ => ?_
  refine .bind (enforce_holds (decide_eq_true h.2.1)) fun _ => ?_
  exact .ite (.bind (enforce_refuses rfl) fun _ => .ok _) (.ok _)

theorem saveBalance_failsIn {b : Balance} (h : BalanceOk b.amount) (db : Database) :
    NumbersPass (saveBalance b db) := by
  unfold saveBalance
  refine .bind (enforce_holds h.numericOk) fun _ => ?_
  refine .bind (enforce_holds (decide_eq_true h.1)) fun _ => ?_
  refine .bind (enforce_refuses rfl) fun _ => ?_
  exact .ite (.bind (enforce_refuses rfl) fun _ => .ok _) (.ok _)

theorem saveBlock_failsIn (b : Block) (db : Database) : NumbersPass (saveBlock b db) := by
  unfold saveBlock
  exact .ite (.bind (enforce_refuses rfl) fun _ => .ok _) (.ok _)

theorem savePayment_failsIn {p : PaymentRecord} (h : AmountOk p.transaction.amount)
    (db : Database) : NumbersPass (savePayment p db) := by
  have hblock : ∀ height, NumbersPass (db.checkBlockReference height) := by
    intro height
    cases height with
    | none => exact .ok _
    | some k => exact enforce_refuses rfl
  have hrow : NumbersPass (checkTransactionRow (.ofPayment p)) := checkTransactionRow_failsIn h
  unfold savePayment checkNonceUnused checkTransactionReferences
  refine .bind hrow fun _ => .ite (.bind (hblock _) fun _ => .ok _) ?_
  refine .bind (enforce_refuses rfl) fun _ => ?_
  refine .bind (enforce_refuses rfl) fun _ => ?_
  refine .bind (.bind (hblock _) fun _ => ?_) fun _ => .ok _
  exact .bind (enforce_refuses rfl) fun _ => enforce_refuses rfl

theorem saveComplianceCase_failsIn (c : ComplianceCase) (db : Database) :
    NumbersPass (saveComplianceCase c db) := by
  unfold saveComplianceCase
  refine .ite (.bind (enforce_refuses rfl) fun _ => ?_) (.ok _)
  exact .bind (enforce_refuses rfl) fun _ => .ok _

theorem saveJournalEntry_failsIn {e : JournalEntry} (h : AmountOk e.amount) (db : Database) :
    NumbersPass (saveJournalEntry e db) := by
  unfold saveJournalEntry
  refine .bind (enforce_holds h.balanceOk.numericOk) fun _ => ?_
  refine .bind (enforce_holds (decide_eq_true h.1)) fun _ => ?_
  refine .bind (enforce_refuses rfl) fun _ => ?_
  refine .ite (.bind (enforce_refuses rfl) fun _ => ?_) (.ok _)
  refine .bind (enforce_refuses rfl) fun _ => ?_
  exact .bind (enforce_refuses rfl) fun _ => .ok _

/-- An audit event is refused for a reference only. -/
theorem insertAuditEvent_failsIn (e : AuditEvent) (db : Database) :
    FailsIn (fun x => ∃ constraint, x = .foreignKey constraint) (insertAuditEvent e db) := by
  unfold insertAuditEvent
  refine .ite (.bind (enforce_refuses ⟨_, rfl⟩) fun _ => ?_) (.ok _)
  exact .bind (enforce_refuses ⟨_, rfl⟩) fun _ => .ok _

/-- As a statement, for its texts too. -/
theorem insertAuditEvent_eq_error {e : AuditEvent} {db : Database} {x : SqlxError}
    (h : Statement.run db (.insertAuditEvent e) = .error x) :
    x = .invalidText ∨ ∃ constraint, x = .foreignKey constraint := by
  rw [Statement.run] at h
  cases htext : e.textOk with
  | false =>
    rw [htext] at h
    cases h
    exact .inl rfl
  | true =>
    rw [htext] at h
    exact .inr (insertAuditEvent_failsIn e db x (of_unit_eq_error h))

/-- The status of a validator is refused for a reference only. -/
theorem recordFinalizedBlock_failsIn (id : String) (block : Block) (now : DateTime) (db : Database) :
    FailsIn (fun x => ∃ constraint, x = .foreignKey constraint)
      (recordFinalizedBlock id block now db) := by
  unfold recordFinalizedBlock
  exact .bind (enforce_refuses ⟨_, rfl⟩) fun _ => .ok _

/-- A snapshot in range may be refused, but not for a number. -/
theorem saveSnapshot_failsIn {s : LedgerSnapshot} (h : s.InRange) (db : Database) :
    NumbersPass (saveSnapshot s db) := by
  unfold saveSnapshot
  refine .bind (.bind (.bind (.bind (.bind (.bind (.bind (.bind (.bind ?_ ?_) ?_) ?_) ?_) ?_) ?_) ?_)
    ?_) ?_
  · exact each_failsIn (fun i _ => upsertInstitution_failsIn i) db
  · exact each_failsIn fun c _ => saveCredential_failsIn c
  · exact each_failsIn fun l hl => upsertInstitutionLimit_failsIn (h.limits l hl)
  · exact each_failsIn fun _ _ _ => .ok _
  · exact each_failsIn fun b hb => saveBalance_failsIn (h.balances b hb)
  · exact each_failsIn fun b _ => saveBlock_failsIn b
  · exact each_failsIn fun p hp => savePayment_failsIn (h.payments p hp)
  · exact each_failsIn fun c _ => saveComplianceCase_failsIn c
  · exact each_failsIn fun e he => saveJournalEntry_failsIn (h.journalEntries e he)
  · refine each_failsIn fun e _ db x hx => ?_
    obtain ⟨constraint, rfl⟩ := insertAuditEvent_failsIn e db x hx
    rfl

end Database

end KaniNetwork
