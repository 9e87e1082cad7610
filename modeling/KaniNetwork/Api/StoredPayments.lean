/-
KaniNetwork.Api.StoredPayments — what is stored, somebody was entitled to
ask for (`kani-api` over `PostgresLedgerStore`).

Any process may write to the table of payments, and a request checks and
stores in separate commands. `Stores` says of a command of the run that it
inserted the row of a payment for a request that may have it: the
authenticated institution owned the paying account and was approved, each
in the tables at some moment before; the permission was recorded, and so
was the screening of a transfer. `stored_with_authority` says that every
row of the table came from such a command, whatever else ran.

Rows come from requests alone (`Validator/StoredRows.lean`), and no command
changes what a payment says (`Store/Requests.lean`).
-/
import KaniNetwork.Api.Service
import KaniNetwork.Api.Settlement
import KaniNetwork.Store.AuditTrail

namespace KaniNetwork

open PostgresLedgerStore

/-! ## Inserted rows -/

/-- The command inserts the row, if it succeeds. -/
def StoreSql.Inserts : StoreSql → TransactionRow → Prop
  | .sql (.write (.insertPending row)), r => r = row
  | .sql (.write (.holdPayment row _)), r => r = row
  | _, _ => False

/-- The row of the payment an operation is for. -/
inductive NodeOp.Enqueues : NodeOp → TransactionRow → Prop where
  | submitted {d : Draws} {f t a : String} {amount : Int} {key : Option String}
      {row : TransactionRow} (hpayment : row.toTransaction.compliancePayment = ⟨f, t, a, amount⟩)
      (hkind : row.kind = .transfer) (hstatus : row.status = .pending) :
      Enqueues (.submitPayment d f t a amount key) row
  | held {d : Draws} {f t a : String} {amount : Int} {key : Option String}
      {caseOpen : ComplianceCaseOpen} {row : TransactionRow}
      (hpayment : row.toTransaction.compliancePayment = ⟨f, t, a, amount⟩)
      (hkind : row.kind = .transfer) (hstatus : row.status = .held) :
      Enqueues (.holdPaymentForReview d f t a amount key caseOpen) row
  | minted {d : Draws} {treasury t a : String} {amount : Int} {row : TransactionRow}
      (hpayment : row.toTransaction.compliancePayment = ⟨treasury, t, a, amount⟩)
      (hkind : row.kind = .mint) (hstatus : row.status = .pending) :
      Enqueues (.mintSandbox d treasury t a amount) row
  | burned {d : Draws} {f treasury a : String} {amount : Int} {row : TransactionRow} :
      Enqueues (.burnSandbox d f treasury a amount) row

/-- The rows an operation of `n` inserts. -/
inductive NodeOp.InsertsRow (n : KaniNode) : NodeOp → TransactionRow → Prop where
  | submitted {d : Draws} {f t a : String} {amount : Int} {key : Option String} (now : DateTime)
      (stamp : Stamp) (nonce : Int) :
      InsertsRow n (.submitPayment d f t a amount key) (.ofPayment (.enqueued now
        ((Transaction.newTransfer stamp f t a amount nonce).withRequestMetadata key
          (n.requestFingerprint .transfer f t a amount))
        key (some (n.requestFingerprint .transfer f t a amount))))
  | held {d : Draws} {f t a : String} {amount : Int} {key : Option String}
      {caseOpen : ComplianceCaseOpen} (now : DateTime) (stamp : Stamp) (nonce : Int)
      (reason : String) :
      InsertsRow n (.holdPaymentForReview d f t a amount key caseOpen) (.ofPayment (.onHold now
        ((Transaction.newTransfer stamp f t a amount nonce).withRequestMetadata key
          (n.requestFingerprint .transfer f t a amount))
        reason key (some (n.requestFingerprint .transfer f t a amount))))
  | minted {d : Draws} {treasury t a : String} {amount : Int} (now : DateTime) (stamp : Stamp)
      (nonce : Int) :
      InsertsRow n (.mintSandbox d treasury t a amount)
        (.ofPayment (.enqueued now (.newMint stamp treasury t a amount nonce) none none))
  | burned {d : Draws} {f treasury a : String} {amount : Int} (now : DateTime) (stamp : Stamp)
      (nonce : Int) :
      InsertsRow n (.burnSandbox d f treasury a amount)
        (.ofPayment (.enqueued now (.newBurn stamp f treasury a amount nonce) none none))

/-- They are rows of the payment it is for. -/
theorem NodeOp.InsertsRow.enqueues {n : KaniNode} {op : NodeOp} {row : TransactionRow}
    (h : op.InsertsRow n row) : op.Enqueues row := by
  cases h with
  | submitted now stamp nonce =>
    exact .submitted (Transaction.compliancePayment_withRequestMetadata _ _ _)
      (Transaction.withRequestMetadata_kind _ _ _) rfl
  | held now stamp nonce reason =>
    exact .held (Transaction.compliancePayment_withRequestMetadata _ _ _)
      (Transaction.withRequestMetadata_kind _ _ _) rfl
  | minted now stamp nonce => exact .minted rfl rfl rfl
  | burned now stamp nonce => exact .burned

/-- An operation inserts these rows only. -/
theorem act_inserts (n : KaniNode) (op : NodeOp) :
    (KaniNode.Postgres.act n op).Only fun c =>
      ∀ row, (StoreSql.sql c).Inserts row → op.InsertsRow n row := by
  cases op with
  | submitPayment d f t a amount key =>
    refine .bind (only_query fun _ => False.elim) fun nonce => .mapError ?_
    refine enqueuePendingTransaction_only (fun _ _ => False.elim) _ _ _ _ ?_
    rintro _ rfl
    exact .submitted _ _ _
  | holdPaymentForReview d f t a amount key caseOpen =>
    refine .bind (only_query fun _ => False.elim) fun nonce => .mapError ?_
    refine holdPaymentForReview_only (fun _ _ => False.elim) _ _ _ _ _ ?_
    rintro _ rfl
    exact .held _ _ _ _
  | mintSandbox d treasury t a amount =>
    refine .bind (only_query fun _ => False.elim) fun nonce => .mapError ?_
    refine enqueuePendingTransaction_only (fun _ _ => False.elim) _ _ _ _ ?_
    rintro _ rfl
    exact .minted _ _ _
  | burnSandbox d f treasury a amount =>
    refine .bind (only_query fun _ => False.elim) fun nonce => .mapError ?_
    refine enqueuePendingTransaction_only (fun _ _ => False.elim) _ _ _ _ ?_
    rintro _ rfl
    exact .burned _ _ _
  | approveComplianceCase d id reviewer reason =>
    exact .mapError (approveComplianceCase_only (fun _ _ => False.elim) d id reviewer reason
      fun _ _ => False.elim)
  | rejectComplianceCase d id reviewer reason =>
    exact .mapError (rejectComplianceCase_only (fun _ _ => False.elim) d id reviewer reason
      fun _ _ => False.elim)
  | upsertInstitution institution =>
    exact .mapError (.bind (only_execute fun _ => False.elim) fun _ => trivial)
  | suspendInstitution now id =>
    refine .bind (.mapError (only_execute fun _ => False.elim)) fun found => ?_
    cases found <;> trivial
  | addInstitutionCredential credential =>
    refine .bind (.bind (.mapError (only_query fun _ => False.elim)) fun found => ?_) fun _ => ?_
    · cases found <;> trivial
    · exact .mapError (.bind (only_execute fun _ => False.elim) fun _ => trivial)
  | upsertInstitutionLimit limit =>
    refine .bind (.bind (.mapError (only_query fun _ => False.elim)) fun found => ?_) fun _ => ?_
    · cases found <;> trivial
    · exact .mapError (.bind (only_execute fun _ => False.elim) fun _ => trivial)
  | recordAuditEvent event => exact .mapError (only_execute fun _ => False.elim)

/-- So does a node call. -/
theorem NodeCall.onStore_inserts (n : KaniNode) (q : NodeCall) :
    (q.onStore n).Only fun c => ∀ row, c.Inserts row → ∃ op, q = .act op ∧ op.InsertsRow n row := by
  cases q with
  | read r =>
    refine (read_reads r).mono fun c hc row hrow => ?_
    rcases c with (q | w) | q
    · exact hrow.elim
    · exact hc.elim
    · exact hrow.elim
  | act op => exact only_lift (fun _ hc row hrow => ⟨op, rfl, hc row hrow⟩) (act_inserts n op)

/-- A row that is there after an insert. -/
theorem row_of_insert {t t' : Table TransactionRow.id} {row r' : TransactionRow} {id : String}
    (h : t.insert? row = some t') (hr' : t'.find? id = some r') : t.find? id ≠ none ∨ r' = row := by
  rw [(Table.insert?_eq_some h).2] at hr'
  split at hr'
  · exact .inr (Option.some.inj hr').symm
  · exact .inl (by simp [hr'])

/-- A payment that is there after a statement of a request was there before,
or the statement inserted it. -/
theorem Statement.OfApi.row_cases {w : Statement} (hw : w.OfApi) {db db' : Database}
    {reply : w.Reply} (h : w.run db = .ok (db', reply)) {id : String} {r' : TransactionRow}
    (hr' : db'.transactions.find? id = some r') :
    db.transactions.find? id ≠ none ∨ (StoreSql.sql (.write w)).Inserts r' := by
  have hthere : db'.transactions.find? id ≠ none := by simp [hr']
  cases hw with
  | enqueue now tx key fingerprint =>
    rcases Database.insertTransaction_eq_ok h with ⟨-, rfl, -⟩ | ⟨-, -, t, ht, rfl⟩
    · exact .inl hthere
    · exact row_of_insert ht hr'
  | hold now tx s caseOpen key fingerprint hcase =>
    rcases Database.holdPayment_eq_ok h with ⟨-, rfl, -⟩ | ⟨-, -, t, u, ht, rfl, -⟩
    · exact .inl hthere
    · exact row_of_insert ht hr'
  | approve current resolvedAt now reviewer reason =>
    obtain ⟨-, rfl⟩ := approveCase_eq_ok h
    exact .inl (rowsWithin_updatePayment _ .held .pending none now
      (db.updateComplianceCase _) id hthere)
  | reject current resolvedAt now reviewer reason rejectionReason =>
    obtain ⟨-, rfl⟩ := rejectCase_eq_ok h
    exact .inl (rowsWithin_updatePayment _ .held .rejected (some rejectionReason) now
      (db.updateComplianceCase _) id hthere)
  | upsertInstitution i =>
    rw [Database.upsertInstitution_eq_ok (of_unit_eq_ok h)] at hthere
    exact .inl hthere
  | upsertInstitutionLimit l =>
    rw [Database.upsertInstitutionLimit_eq_ok (of_unit_eq_ok h)] at hthere
    exact .inl hthere
  | insertCredential c =>
    obtain ⟨t, rfl⟩ := Database.insertCredential_eq_ok (of_unit_eq_ok h)
    exact .inl hthere
  | suspendInstitution id now =>
    cases h
    exact .inl hthere
  | insertAuditEvent e =>
    rw [Database.insertAuditEvent_eq_ok (insertAuditEvent_eq_ok h).2] at hthere
    exact .inl hthere

/-- The same of the commands a request sends. -/
theorem StoreSql.OfApi.row_cases {lower : String → String} {c : StoreSql} (hc : c.OfApi)
    {db : Database} {id : String} {r' : TransactionRow}
    (hr' : (c.exec lower db).1.transactions.find? id = some r') :
    db.transactions.find? id ≠ none ∨ c.Inserts r' := by
  cases c with
  | select q =>
    rw [exec_select] at hr'
    exact .inl (by simp [hr'])
  | sql c =>
    rw [exec_sql] at hr'
    rcases Sql.exec_cases c db with hsame | ⟨w, reply, rfl, hrun⟩
    · rw [hsame] at hr'
      exact .inl (by simp [hr'])
    · exact (hc w rfl).1.row_cases hrun hr'

/-! ## Authority -/

abbrev ServiceLog := List (Pool.Issued Session ServiceCall StoreSql Database)

/-- At moments of the slot, the account was the institution's and the
institution approved. -/
structure OperatedIn (log : ServiceLog) (i : Session) (auth : AuthenticatedInstitution)
    (account : Account) : Prop where
  found : ∃ e ∈ log, e.slot = i ∧ account ∈ e.store.accounts.rows
  owner : account.institutionId = some auth.institutionId
  approved : ∃ e ∈ log, e.slot = i ∧ ∃ institution,
    e.store.institutions.find? auth.institutionId = some institution ∧ institution.status = .approved

/-- The slot has sent the event, and the table has an event of its id. -/
structure AttestedIn (log : ServiceLog) (i : Session) (db : Database) (event : AuditEvent) :
    Prop where
  sent : ∃ e ∈ log, e.slot = i ∧ e.command = .sql (.write (.insertAuditEvent event))
  stored : db.auditEvents.find? event.id ≠ none

/-- The command that stores a payment: a payment to be made, or one on hold
with its case. -/
inductive StoredBy (row : TransactionRow) : StoreSql → Prop where
  | enqueued (hstatus : row.status = .pending) : StoredBy row (.sql (.write (.insertPending row)))
  | held (c : ComplianceCase) (hstatus : row.status = .held) (hcase : c.paymentId = row.id) :
    StoredBy row (.sql (.write (.holdPayment row c)))

/-- How a request may store a payment, given the events it has recorded. -/
inductive AppState.MayStore (state : AppState) (x : Exchange) (auth : AuthenticatedInstitution)
    (demand : Demand) (account : Account) (recorded : AuditEvent → Prop) (row : TransactionRow) :
    Prop where
  | allowed (hkind : row.kind = .transfer) (hstatus : row.status = .pending)
      (hasked : state.AsksFor x.request row.toTransaction.compliancePayment)
      (hdecision : state.decision row.toTransaction.compliancePayment = .allow)
      (hscreened : recorded (state.screeningEvent x auth demand row.toTransaction.compliancePayment))
  | review (hkind : row.kind = .transfer) (hstatus : row.status = .held)
      (hasked : state.AsksFor x.request row.toTransaction.compliancePayment)
      (hdecision : state.decision row.toTransaction.compliancePayment = .review)
      (hscreened : recorded (state.screeningEvent x auth demand row.toTransaction.compliancePayment))
  | issued (hkind : row.kind = .mint) (hstatus : row.status = .pending)
      (htreasury : account.accountType = .treasury)

/-- What entitles a request to store a payment: a known caller, the paying
account, the recorded permission. -/
structure AppState.Authorises (state : AppState) (x : Exchange)
    (operated : AuthenticatedInstitution → Account → Prop) (recorded : AuditEvent → Prop)
    (row : TransactionRow) : Prop where
  authority : ∃ auth demand account, state.auth.authenticate x.headers = .ok auth ∧
    state.demand x.request = .ok (some demand) ∧ account.id = row.fromAccount ∧
    operated auth account ∧
    recorded (authorizationAllowed (x.draws.sub 0).stamp x.headers auth demand.action
      demand.resource) ∧
    state.MayStore x auth demand account recorded row

/-- The command `e`, after the commands of `log`, inserted the row for a
request that may store it. -/
structure Stores (lower : String → String) (log : ServiceLog)
    (e : Pool.Issued Session ServiceCall StoreSql Database) (row : TransactionRow) : Prop where
  sent : StoredBy row e.command
  fresh : e.store.transactions.find? row.id = none
  inserted : (e.after (StoreSql.exec lower)).transactions.find? row.id = some row
  authorised : ∃ state x, e.call = .exchange state x ∧
    state.Authorises x (OperatedIn log e.slot) (AttestedIn log e.slot e.store) row

/-- A command of the run stored the row. -/
def StoredIn (lower : String → String) (log : ServiceLog) (row : TransactionRow) : Prop :=
  ∃ before e after, log = before ++ e :: after ∧ Stores lower before e row

theorem StoredIn.snoc {lower : String → String} {log : ServiceLog} {row : TransactionRow}
    (h : StoredIn lower log row) (e : Pool.Issued Session ServiceCall StoreSql Database) :
    StoredIn lower (log ++ [e]) row := by
  obtain ⟨before, e', after, rfl, hstores⟩ := h
  exact ⟨before, e', after ++ [e], by simp, hstores⟩

section

variable {state : AppState} {x : Exchange}

theorem AppState.MayStore.mono {auth : AuthenticatedInstitution} {demand : Demand}
    {account : Account} {A B : AuditEvent → Prop} {row : TransactionRow}
    (h : state.MayStore x auth demand account A row) (hAB : ∀ event, A event → B event) :
    state.MayStore x auth demand account B row := by
  cases h with
  | allowed hkind hstatus hasked hdecision hscreened =>
    exact .allowed hkind hstatus hasked hdecision (hAB _ hscreened)
  | review hkind hstatus hasked hdecision hscreened =>
    exact .review hkind hstatus hasked hdecision (hAB _ hscreened)
  | issued hkind hstatus htreasury => exact .issued hkind hstatus htreasury

theorem AppState.Authorises.mono {A A' : AuthenticatedInstitution → Account → Prop}
    {B B' : AuditEvent → Prop} {row : TransactionRow} (h : state.Authorises x A B row)
    (hA : ∀ auth account, A auth account → A' auth account) (hB : ∀ event, B event → B' event) :
    state.Authorises x A' B' row := by
  obtain ⟨auth, demand, account, hauth, hdemand, hid, hoperated, hallowed, hstore⟩ := h.authority
  exact ⟨auth, demand, account, hauth, hdemand, hid, hA _ _ hoperated, hB _ hallowed,
    hstore.mono hB⟩

/-- A passed gate and a recorded screening entitle a request to a transfer,
whatever the decision was. -/
theorem AppState.ScreenedAs.authorises {h : CallHistory} {row : TransactionRow}
    {auth : AuthenticatedInstitution} {f t a : String} {amount : Int}
    {decision : ComplianceDecision} (hscreened : state.ScreenedAs x auth h ⟨f, t, a, amount⟩ decision)
    (hpassed : state.Passed x auth h) (hshown : (Right.debit f).ShownIn h auth)
    (hpayment : row.toTransaction.compliancePayment = ⟨f, t, a, amount⟩)
    (hstore : ∀ demand account, state.decision row.toTransaction.compliancePayment = decision →
      state.AsksFor x.request row.toTransaction.compliancePayment →
      AuditedIn h (state.screeningEvent x auth demand row.toTransaction.compliancePayment) →
      state.MayStore x auth demand account (AuditedIn h) row) :
    state.Authorises x (Operates h) (AuditedIn h) row := by
  obtain ⟨account, hid, hoperates⟩ := hshown
  obtain ⟨hasked, hdecision, demand, hdemand, hrecorded⟩ := hscreened
  obtain ⟨demand', hdemand', -, hallowed⟩ := hpassed.allowed
  rw [hdemand] at hdemand'
  cases hdemand'
  rw [← hpayment] at hasked hdecision hrecorded
  have hfrom : f = row.fromAccount := (congrArg CompliancePayment.fromAccount hpayment).symm
  exact ⟨auth, demand, account, hpassed.known, hdemand, hid.trans hfrom, hoperates, hallowed,
    hstore demand account hdecision hasked hrecorded⟩

/-- What the replies show entitles an operation to store its payment. -/
theorem AppState.Permits.authorises {h : CallHistory} {op : NodeOp} {row : TransactionRow}
    (hmay : state.Permits x h (.act op)) (hrow : op.Enqueues row) :
    state.Authorises x (Operates h) (AuditedIn h) row := by
  cases hrow with
  | submitted hpayment hkind hstatus =>
    obtain ⟨-, auth, hpassed, hshown, hscreened⟩ := hmay
    exact hscreened.authorises hpassed hshown hpayment fun _ _ hdecision hasked hrecorded =>
      .allowed hkind hstatus hasked hdecision hrecorded
  | held hpayment hkind hstatus =>
    obtain ⟨-, auth, hpassed, hshown, hscreened⟩ := hmay
    exact hscreened.authorises hpassed hshown hpayment fun _ _ hdecision hasked hrecorded =>
      .review hkind hstatus hasked hdecision hrecorded
  | minted hpayment hkind hstatus =>
    obtain ⟨-, auth, hpassed, account, hid, hoperates, htreasury⟩ := hmay
    obtain ⟨demand, hdemand, -, hallowed⟩ := hpassed.allowed
    have hfrom := (congrArg CompliancePayment.fromAccount hpayment).symm
    exact ⟨auth, demand, account, hpassed.known, hdemand, hid.trans hfrom, hoperates, hallowed,
      .issued hkind hstatus htreasury⟩
  | burned =>
    obtain ⟨-, auth, -, hnever⟩ := hmay
    exact hnever.elim

end

theorem StoreSql.OfApi.storedBy {c : StoreSql} (hc : c.OfApi) {row : TransactionRow}
    (h : c.Inserts row) : StoredBy row c := by
  rcases c with (q | w) | q
  · exact h.elim
  · cases (hc w rfl).1 with
    | enqueue now tx key fingerprint =>
      obtain rfl : row = .ofPayment (.enqueued now tx key fingerprint) := h
      exact .enqueued rfl
    | hold now tx s caseOpen key fingerprint hcase =>
      obtain rfl : row = .ofPayment (.onHold now tx caseOpen.reason key fingerprint) := h
      exact .held _ rfl hcase
    | _ => exact h.elim
  · exact h.elim

/-! ## Every run -/

section

variable {lower : String → String} {db : Database} {log : ServiceLog}
  {P : Pool Session ServiceCall StoreSql StoreSql.Reply ApiError (Option Response) Database}

/-- What the replies of a request show was so in the tables. -/
theorem Finished.operatedIn {state : AppState} {i : Session} {h : CallHistory}
    (hf : Finished state (Pool.history (StoreSql.exec lower) i log) h)
    {auth : AuthenticatedInstitution} {account : Account} (ho : Operates h auth account) :
    OperatedIn log i auth account := by
  obtain ⟨accounts, haccounts, hfind⟩ := ho.found
  obtain ⟨institution, hinstitution, happroved⟩ := ho.approved
  refine ⟨?_, ho.owner, ?_⟩
  · obtain ⟨rows, hrows, hall⟩ := hf.accounts haccounts
    obtain ⟨e, he, hslot, hissued⟩ := Pool.mem_history.mp hrows
    obtain ⟨slot, call, command, store⟩ := e
    simp only [Sigma.mk.injEq] at hissued
    obtain ⟨rfl, hreply⟩ := hissued
    cases hreply
    have hmem : account ∈ store.accountRows := hall account (List.mem_of_find?_eq_some hfind)
    exact ⟨_, he, hslot, (List.mem_insertionSort _).mp hmem⟩
  · obtain ⟨e, he, hslot, hissued⟩ := Pool.mem_history.mp (hf.institution hinstitution)
    obtain ⟨slot, call, command, store⟩ := e
    simp only [Sigma.mk.injEq] at hissued
    obtain ⟨rfl, hreply⟩ := hissued
    exact ⟨_, he, hslot, institution, eq_of_heq hreply, happroved⟩

/-- What a request recorded is in the table. -/
theorem Finished.attestedIn (hrun : ServiceRun lower db log P) {state : AppState} {i : Session}
    {h : CallHistory} (hf : Finished state (Pool.history (StoreSql.exec lower) i log) h)
    {event : AuditEvent} (haudited : AuditedIn h event) : AttestedIn log i P.store event := by
  obtain ⟨e, he, hslot, hissued⟩ := Pool.mem_history.mp (hf.audited haudited)
  have hkept : KeepsAudit (e.after (StoreSql.exec lower)) P.store :=
    hrun.after_rel KeepsAudit KeepsAudit.refl (fun _ _ _ => KeepsAudit.trans)
      (fun q s _ => StoreSql.exec_rel KeepsAudit.refl exec_keepsAudit lower q s) he
  obtain ⟨slot, call, command, store⟩ := e
  simp only [Sigma.mk.injEq] at hissued
  obtain ⟨rfl, hreply⟩ := hissued
  refine ⟨⟨_, he, hslot, rfl⟩, ?_⟩
  obtain ⟨stored, hstored⟩ := Option.ne_none_iff_exists'.mp (find?_insertAuditEvent (eq_of_heq hreply))
  simp [hkept _ _ hstored]

/-- A new row is one its command may store. -/
theorem stores_of_issue (hrun : ServiceRun lower db log P) {i : Session} {call : ServiceCall}
    {c : StoreSql} {next : c.Reply → FullStoreProg ApiError (Option Response)}
    (hslot : P.slots i = some (call, .call c next)) {id : String} {row : TransactionRow}
    (hnone : P.store.transactions.find? id = none)
    (hrow : (c.exec lower P.store).1.transactions.find? id = some row) :
    Stores lower log ⟨i, call, c, P.store⟩ row := by
  obtain rfl := Table.key_of_find? hrow
  have hissued : ServiceRun lower db (log ++ [⟨i, call, c, P.store⟩]) _ :=
    .issue i call c next hrun hslot trivial
  have hlast : (⟨i, call, c, P.store⟩ : Pool.Issued Session ServiceCall StoreSql Database) ∈
      log ++ [⟨i, call, c, P.store⟩] :=
    List.mem_append_right _ (List.mem_singleton.mpr rfl)
  -- a call that inserts nothing has not inserted the row
  have hnothing : (∀ s, (call.body i).Safe (StoreSql.exec lower) RowsWithin
      (fun db db' => RowsWithin db' db) (fun _ _ => True) (fun _ _ => True) s) → False := by
    intro hsafe
    have hguar := hissued.guar_of_safe RowsWithin.refl (fun _ _ _ => RowsWithin.trans)
      (fun q s _ => StoreSql.exec_rel RowsWithin.refl exec_rowsWithin lower q s) hlast hsafe
    have hthere : (c.exec lower P.store).1.transactions.find? row.id ≠ none := by simp [hrow]
    exact hguar row.id hthere hnone
  cases call with
  | exchange state x =>
    obtain ⟨h, q, hc⟩ := carries_of_leads (hrun.leads hslot)
    have hapi := hc.of_only (NodeCall.onStore_only q)
    rcases hapi.row_cases hrow with hold | hinserts
    · exact absurd hnone hold
    · obtain ⟨op, rfl, hop⟩ := hc.of_only (NodeCall.onStore_inserts state.node q) row hinserts
      refine ⟨hapi.storedBy hinserts, hnone, hrow, state, x, rfl, ?_⟩
      exact (hc.permitted.authorises hop.enqueues).mono (fun _ _ => hc.finished.operatedIn)
        fun _ => hc.finished.attestedIn hrun
  | pass runtime d =>
    exact (hnothing fun s => safe_background RowsWithin.refl
      (NetworkCall.pass_insertsNone runtime i d s)).elim
  | seed ar d =>
    exact (hnothing fun s => safe_background RowsWithin.refl
      (NetworkCall.seed_insertsNone ar i d s)).elim

/-- Every row was there from the start or was inserted, as the payment it
still is, for a request that could have it. -/
theorem row_origin (hrun : ServiceRun lower db log P) {r : TransactionRow}
    (hr : r ∈ P.store.transactions.rows) :
    (∃ row ∈ db.transactions.rows, row.SameRequest r) ∨
      ∃ row, row.SameRequest r ∧ StoredIn lower log row := by
  induction hrun generalizing r with
  | nil => exact .inl ⟨r, hr, .refl r⟩
  | start i c _ _ ih => exact ih hr
  | @issue log M i call c next hrun hslot hok ih =>
    have hfind := Table.mem_rows_iff.mp hr
    rw [Pool.set_store] at hfind
    cases hold : M.store.transactions.find? r.id with
    | some old =>
      have hkept : KeepsRequests M.store (c.exec lower M.store).1 :=
        StoreSql.exec_rel KeepsRequests.refl (fun c s => (exec_requestFrame c s).kept) lower c M.store
      obtain ⟨r', hr', hsame'⟩ := hkept _ _ hold
      rw [hfind] at hr'
      cases hr'
      rcases ih (Table.mem_of_find? hold) with ⟨row, hrow, hsame⟩ | ⟨row, hsame, hstored⟩
      · exact .inl ⟨row, hrow, hsame.trans hsame'⟩
      · exact .inr ⟨row, hsame.trans hsame', hstored.snoc _⟩
    | none => exact .inr ⟨r, .refl r, log, _, [], rfl, stores_of_issue hrun hslot hold hfind⟩

/-- **What is stored, somebody was entitled to ask for.** In every run of
requests, validators and starting processes on a database without payments,
each row of the table was inserted, as the payment it still is, for a
request that could have it. -/
theorem stored_with_authority (hrun : ServiceRun lower db log P)
    (hempty : db.transactions.rows = []) {r : TransactionRow} (hr : r ∈ P.store.transactions.rows) :
    ∃ row, row.SameRequest r ∧ StoredIn lower log row := by
  rcases row_origin hrun hr with ⟨row, hrow, -⟩ | hstored
  · rw [hempty] at hrow
    cases hrow
  · exact hstored

end

/-- The treasury mints; corp A asks for a payment that is held; the admin
approves it before the request has recorded that; the leader's pass. -/
def exampleServiceSchedule : List (Pool.Event Session ServiceCall) :=
  [.start 0 (.exchange exampleState ⟨.numbered "mint" 1000,
      exampleHeaders SANDBOX_TREASURY_INSTITUTION "treasury-key",
      .sandboxMint ⟨SANDBOX_TREASURY_ACCOUNT, SANDBOX_CORP_A_ACCOUNT, KCAD_TEST, 700000⟩⟩)] ++
    List.replicate 24 (.tick 0) ++
  [.start 1 (.exchange exampleState ⟨.numbered "pay" 2000,
      exampleHeaders SANDBOX_CORP_A_INSTITUTION "corp-a-key",
      .createPayment ⟨SANDBOX_CORP_A_ACCOUNT, SANDBOX_CORP_B_ACCOUNT, KCAD_TEST, 600000, none,
        none⟩⟩)] ++ List.replicate 25 (.tick 1) ++
  [.start 2 (.exchange exampleState ⟨.numbered "approve" 3000,
      exampleHeaders SANDBOX_NETWORK_INSTITUTION "admin-key",
      .approveComplianceCase (uuidNamed "pay-2-1-1") ⟨none, none⟩⟩)] ++ List.replicate 5 (.tick 2) ++
  [.start 3 (.pass (.connect .sample "validator-a") (.numbered "pass" 4000))] ++
    List.replicate 24 (.tick 3)

/-- The pool after the first `k` entries of the schedule. -/
def exampleService (k : Nat) :
    Pool Session ServiceCall StoreSql StoreSql.Reply ApiError (Option Response) Database :=
  Pool.run (StoreSql.exec String.toLower) ServiceCall.body (fun _ _ => True)
    (.idle (.seeded (.numbered "seed" 0))) (exampleServiceSchedule.take k)

/-- The commands of the first `k` entries. -/
def exampleServiceLog (k : Nat) : ServiceLog :=
  Pool.runLog (StoreSql.exec String.toLower) ServiceCall.body (fun _ _ => True)
    (.idle (.seeded (.numbered "seed" 0))) (exampleServiceSchedule.take k)

theorem exampleServiceRun (k : Nat) : ServiceRun String.toLower (.seeded (.numbered "seed" 0))
    (exampleServiceLog k) (exampleService k) :=
  Pool.run_runLog _ _

/-- The payment, as soon as it is stored. -/
theorem stored_with_authority_example :
    ∃ r ∈ (exampleService 51).store.transactions.rows, r.amount = 600000 ∧
      ∃ row, row.SameRequest r ∧ StoredIn String.toLower (exampleServiceLog 51) row := by
  have hstored : ∃ r ∈ (exampleService 51).store.transactions.rows, r.amount = 600000 := by
    decide +kernel
  have hempty : (Database.seeded (.numbered "seed" 0)).transactions.rows = [] := by decide +kernel
  obtain ⟨r, hr, hamount⟩ := hstored
  exact ⟨r, hr, hamount, stored_with_authority (exampleServiceRun 51) hempty hr⟩

end KaniNetwork
