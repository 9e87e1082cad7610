/-
KaniNetwork.Store.Selects — the queries that only answer requests
(`kani-ledger`).

`Store/Sql.lean` has the commands of the payment paths and of the
validators. The rest of what `PostgresLedgerStore` sends are searches and
pages behind reading endpoints; a `StoreSql` is a command of either kind.
A method of the store or of a validator runs over `StoreSql` as it does
over `Sql` (`lift`).

`lower` is the function of that name in the collation of the database.
Limits and offsets are those of validated pages, never negative. A
timestamp is bound as a `TIMESTAMPTZ`.
-/
import KaniNetwork.Base.History
import KaniNetwork.Ledger.Search
import KaniNetwork.Store.Chain

namespace KaniNetwork

inductive Select where
  | credentialsOf (institutionId : String)
  | limitsOf (institutionId : String)
  | journalEntries (search : JournalEntrySearch)
  | auditEvents (search : AuditEventSearch)
  | blockPage (limit offset : Nat)
  | blockTransactions (heights : List Int)
  | validatorStatuses

@[reducible] def Select.Reply : Select → Type
  | .credentialsOf _ => List InstitutionCredential
  | .limitsOf _ => List InstitutionLimit
  | .journalEntries _ => List JournalEntry
  | .auditEvents _ => List AuditEvent
  | .blockPage _ _ => List BlockRow
  | .blockTransactions _ => List (Int × Transaction)
  | .validatorStatuses => List ValidatorStatus

namespace Database

/-- `institution_credentials`, `ORDER BY created_at, id`. -/
def credentialRowsOf (db : Database) (institutionId : String) : List InstitutionCredential :=
  (db.institutionCredentials.rows.filter fun c => c.institutionId = institutionId).insertionSort
    fun a b => a.createdAt < b.createdAt ∨ (a.createdAt = b.createdAt ∧ a.id ≤ b.id)

/-- `institution_limits`, `ORDER BY asset`. -/
def limitRowsOf (db : Database) (institutionId : String) : List InstitutionLimit :=
  (db.institutionLimits.rows.filter fun l => l.institutionId = institutionId).insertionSort
    fun a b => db.settings.collation a.asset b.asset

/-- `query_journal_entries`. -/
def journalPage (db : Database) (search : JournalEntrySearch) : List JournalEntry :=
  page search.limit.toNat search.offset.toNat
    ((db.journalEntries.rows.filter fun e =>
        e.accountId = search.accountId && search.asset.all fun asset => e.asset = asset).insertionSort
      fun a b => a.createdAt < b.createdAt ∨ (a.createdAt = b.createdAt ∧ a.id ≤ b.id))

/-- The `WHERE` of `query_audit_events`; a missing key is `NULL`. -/
def auditWhere (lower : String → String) (search : AuditEventSearch) (e : AuditEvent) : Bool :=
  (search.eventType.all fun eventType => lower e.eventType = lower eventType)
    && (search.decision.all fun decision =>
      (e.metadata.get "decision").any fun value => lower value = lower decision)
    && (search.institutionId.all fun institutionId =>
      e.metadata.get "institution_id" = some institutionId)
    && (search.createdFrom.all fun createdFrom => timestamptz createdFrom ≤ e.createdAt)
    && (search.createdTo.all fun createdTo => e.createdAt ≤ timestamptz createdTo)

/-- `query_audit_events`. -/
def auditPage (lower : String → String) (db : Database) (search : AuditEventSearch) :
    List AuditEvent :=
  page search.limit.toNat search.offset.toNat
    ((db.auditEvents.rows.filter (auditWhere lower search)).insertionSort
      fun a b => a.createdAt < b.createdAt ∨ (a.createdAt = b.createdAt ∧ a.id ≤ b.id))

/-- The rows of `load_transactions_for_blocks`, `ORDER BY block_height,
created_at, id`. -/
def transactionsOfBlocks (db : Database) (heights : List Int) : List (Int × Transaction) :=
  ((db.transactions.rows.filterMap fun r => r.blockHeight.map fun height => (height, r)).filter
      fun x => heights.contains x.1).insertionSort
    (fun x y => x.1 < y.1 ∨ (x.1 = y.1 ∧ x.2.Before y.2))
  |>.map fun x => (x.1, x.2.toTransaction)

/-- `validator_statuses`, `ORDER BY validator_id`. -/
def statusRows (db : Database) : List ValidatorStatus :=
  db.validatorStatus.rows.insertionSort fun a b => db.settings.collation a.validatorId b.validatorId

end Database

def Select.eval (lower : String → String) (db : Database) : (q : Select) → q.Reply
  | .credentialsOf institutionId => db.credentialRowsOf institutionId
  | .limitsOf institutionId => db.limitRowsOf institutionId
  | .journalEntries search => db.journalPage search
  | .auditEvents search => db.auditPage lower search
  | .blockPage limit offset => page limit offset db.blockRows
  | .blockTransactions heights => db.transactionsOfBlocks heights
  | .validatorStatuses => db.statusRows

/-- A command to the database, of a request or of a validator. -/
inductive StoreSql where
  | sql (command : Sql)
  | select (q : Select)

@[reducible] def StoreSql.Reply : StoreSql → Type
  | .sql c => c.Reply
  | .select q => q.Reply

/-- A command on a store with a database in it. -/
def StoreSql.execOn {σ : Type} (V : DbView σ) (lower : String → String) :
    (c : StoreSql) → σ → σ × c.Reply
  | .sql c, s => V.sem c s
  | .select q, s => (s, q.eval lower (V.db s))

def StoreSql.exec (lower : String → String) : (c : StoreSql) → Database → Database × c.Reply :=
  StoreSql.execOn .plain lower

@[simp] theorem StoreSql.exec_sql (lower : String → String) (c : Sql) (db : Database) :
    StoreSql.exec lower (.sql c) db = c.exec db := rfl

@[simp] theorem StoreSql.exec_select (lower : String → String) (q : Select) (db : Database) :
    StoreSql.exec lower (.select q) db = (db, q.eval lower db) := rfl

/-- A method over the commands of the whole store. -/
abbrev FullStoreProg (ε α : Type) := Prog StoreSql StoreSql.Reply ε α

/-- Run a query of a request. -/
def select {ε : Type} (q : Select) : FullStoreProg ε q.Reply := .call (.select q) .ok

/-- A method that needs only the commands of `Store/Sql.lean`. -/
def lift {ε α : Type} (p : StoreProg ε α) : FullStoreProg ε α :=
  p.expand fun c => .call (.sql c) .ok

/-- Lifting does not change what a method may rely on. -/
theorem safe_lift {σ ε α : Type} {V : DbView σ} {lower : String → String} {p : StoreProg ε α}
    {rely guar : σ → σ → Prop} {ok : Sql → σ → Prop} {ok' : StoreSql → σ → Prop}
    {post : Except ε α → σ → Prop} {s : σ} (hok : ∀ c s, ok' (.sql c) s → ok c s)
    (h : p.Safe V.sem rely guar ok post s) :
    (lift p).Safe (StoreSql.execOn V lower) rely guar ok' post s := by
  induction p generalizing s with
  | ok a => exact h
  | fail e => exact h
  | call c next ih =>
    intro s' hs hc
    obtain ⟨hguar, hnext⟩ := h s' hs (hok c s' hc)
    exact ⟨hguar, ih _ hnext⟩

theorem only_lift {ε α : Type} {P : Sql → Prop} {P' : StoreSql → Prop} {p : StoreProg ε α}
    (hP : ∀ c, P c → P' (.sql c)) (h : p.Only P) : (lift p).Only P' := by
  induction p with
  | ok a => trivial
  | fail e => trivial
  | call c next ih => exact ⟨hP c h.1, fun r => ih r (h.2 r)⟩

/-! ## Pages of blocks -/

namespace PostgresLedgerStore

variable {ε : Type}

/-- `load_transactions_for_blocks`. -/
def loadTransactionsForBlocks (heights : List Int) :
    FullStoreProg ε (HashMap Int (List Transaction)) :=
  if heights.isEmpty then return ∅
  else do
    let rows ← select (.blockTransactions heights)
    return rows.foldl (fun txs row => txs.insert row.1 (txs.getOr row.1 [] ++ [row.2])) ∅

/-- `query_blocks`; heights are distinct, so taking a block's transactions
out of the map reads them. -/
def queryBlocks (search : BlockSearch) : FullStoreProg ε (List Block) := do
  let rows ← select (.blockPage search.limit.toNat search.offset.toNat)
  let txs ← loadTransactionsForBlocks (rows.map BlockRow.height)
  return rows.map fun row => row.toBlock (txs.getOr row.height [])

end PostgresLedgerStore

end KaniNetwork
