/-
KaniNetwork.Api.Sequential — a handler that is not interrupted.

Run alone on the ledger, the program of a handler and the method of
`Api/Handlers.lean` leave the same ledger and end alike. `RunsAs` states it
for a part of a handler; its rules follow the parts handlers are made of,
and `handle_runsAs` puts the handlers together. So what is known of
requests served one after another is known of the programs too.
-/
import KaniNetwork.Api.AsyncHandlers

namespace KaniNetwork

namespace AsyncApi

variable {state : AppState}

/-- Alone on the ledger `l`, the program does what the method does. -/
def RunsAs {α : Type} (state : AppState) (p : AsyncHandler α) (m : Handler α)
    (l : InMemoryLedger) : Prop :=
  p.exec (NodeCall.inMemory state.node) l = m l

section

variable {α β : Type} {p : AsyncHandler α} {m : Handler α} {f : α → AsyncHandler β}
  {g : α → Handler β} {l : InMemoryLedger}

theorem RunsAs.bind (h : RunsAs state p m l)
    (hf : ∀ a l', m l = (l', .ok a) → RunsAs state (f a) (g a) l') :
    RunsAs state (p >>= f) (m >>= g) l := by
  unfold RunsAs at *
  rw [Prog.exec_bind, h]
  rcases hm : m l with ⟨l', r⟩
  cases r with
  | ok a => exact (hf a l' hm).trans (Method.bind_eq_of_ok g hm).symm
  | error e => exact (Method.bind_eq_error g hm).symm

theorem RunsAs.pure (a : α) : RunsAs state (pure a) (pure a) l := rfl

theorem RunsAs.throw (e : ApiError) : RunsAs state (.fail e : AsyncHandler α) (.throw e) l := rfl

theorem RunsAs.ofExcept (x : Except ApiError α) :
    RunsAs state (.ofExcept x : AsyncHandler α) (.ofExcept x) l := by
  cases x <;> rfl

theorem RunsAs.ofExcept_bind {x : Except ApiError α} (h : ∀ a, RunsAs state (f a) (g a) l) :
    RunsAs state (.ofExcept x >>= f) (.ofExcept x >>= g) l :=
  (RunsAs.ofExcept x).bind fun a _ heq => (Method.ofExcept_eq_ok_iff.mp heq).1 ▸ h a

/-- A read gives its value and leaves the ledger. -/
theorem exec_read (r : NodeRead) :
    (read state r).exec (NodeCall.inMemory state.node) l =
      (l, (r.inMemory state.node l).mapError (.ofNodeError state.libraries.sqlxMessage)) := by
  unfold read call
  rw [Prog.exec_call, NodeCall.inMemory_read]
  cases r.inMemory state.node l <;> rfl

/-- A read before a part that takes the ledger as it is. -/
theorem RunsAs.get_bind {g : InMemoryLedger → Handler α} (h : RunsAs state p (g l) l) :
    RunsAs state p (.get >>= g) l := h

theorem RunsAs.read_bind {r : NodeRead} {f : r.Value → AsyncHandler α} {m : Handler α}
    {v : r.Value} (hr : r.inMemory state.node l = .ok v) (h : RunsAs state (f v) m l) :
    RunsAs state (read state r >>= f) m l := by
  unfold RunsAs
  rw [Prog.exec_bind, exec_read, hr]
  exact h

/-- A read that may fail, against the same computation on the ledger. -/
theorem RunsAs.read_ofExcept_bind {r : NodeRead} {f : r.Value → AsyncHandler α}
    {g : r.Value → Handler α} {x : Except ApiError r.Value}
    (hr : (r.inMemory state.node l).mapError (.ofNodeError state.libraries.sqlxMessage) = x)
    (h : ∀ v, RunsAs state (f v) (g v) l) :
    RunsAs state (read state r >>= f) (.ofExcept x >>= g) l := by
  unfold RunsAs
  rw [Prog.exec_bind, exec_read, hr]
  cases x with
  | ok v => exact h v
  | error e => rfl

/-- An operation against the call of the node. -/
theorem RunsAs.act {op : NodeOp} {m : Method InMemoryLedger NodeError op.Value}
    (hop : op.inMemory state.node = m) : RunsAs state (act state op) (state.callNode m) l := by
  subst hop
  unfold RunsAs AsyncApi.act call
  rw [Prog.exec_call, AppState.callNode, Method.mapError, NodeCall.inMemory]
  rcases op.inMemory state.node l with ⟨l', r⟩
  cases r <;> rfl

theorem RunsAs.recordAuditEvent (event : AuditEvent) :
    RunsAs state (recordAuditEvent state event) (KaniNetwork.recordAuditEvent event) l := rfl

end

/-! ## Rights -/

section

variable {l : InMemoryLedger}

theorem exec_ensureAccountExists (accountId : String) :
    (ensureAccountExists state accountId).exec (NodeCall.inMemory state.node) l =
      (l, KaniNetwork.ensureAccountExists l accountId) := by
  unfold ensureAccountExists KaniNetwork.ensureAccountExists
  rw [Prog.exec_bind, exec_read]
  simp only [NodeRead.inMemory, Except.mapError]
  cases l.accounts.values.find? fun account => account.id = accountId <;> rfl

theorem exec_authorizeAccountAccess (auth : AuthenticatedInstitution) (accountId action : String) :
    (authorizeAccountAccess state accountId action auth).exec (NodeCall.inMemory state.node) l =
      (l, state.authorizeAccountAccess l auth accountId action) := by
  unfold authorizeAccountAccess AppState.authorizeAccountAccess
  rw [Prog.exec_bind, exec_ensureAccountExists]
  cases KaniNetwork.ensureAccountExists l accountId with
  | error e => rfl
  | ok account =>
    simp only [KaniNetwork.ok_bind]
    split
    · unfold ensureInstitutionCanOperate AppState.ensureInstitutionCanOperate AppState.ofLedger
      rw [Prog.exec_bind, Prog.exec_bind, exec_read]
      simp only [NodeRead.inMemory]
      cases l.getInstitution auth.institutionId with
      | error e => rfl
      | ok institution =>
        simp only [Except.mapError, KaniNetwork.ok_bind]
        by_cases happroved : institution.status = .approved
        · simp only [if_pos happroved]
          rfl
        · simp only [if_neg happroved]
          rfl
    · rfl

theorem exec_authorizeTreasury (auth : AuthenticatedInstitution) (treasury : String) :
    (authorizeTreasury state treasury auth).exec (NodeCall.inMemory state.node) l =
      (l, state.authorizeTreasury l auth treasury) := by
  unfold authorizeTreasury AppState.authorizeTreasury authorizeAccountControl
    AppState.authorizeAccountControl
  rw [Prog.exec_bind, exec_authorizeAccountAccess]
  cases state.authorizeAccountAccess l auth treasury "debit" with
  | error e => rfl
  | ok account =>
    simp only [KaniNetwork.ok_bind]
    split <;> rfl

theorem exec_authorizePaymentRead (auth : AuthenticatedInstitution) (payment : PaymentRecord) :
    (authorizePaymentRead state payment auth).exec (NodeCall.inMemory state.node) l =
      (l, KaniNetwork.authorizePaymentRead l auth payment) := by
  unfold authorizePaymentRead KaniNetwork.authorizePaymentRead
  rw [Prog.exec_bind, exec_read]
  simp only [NodeRead.inMemory, Except.mapError]
  split <;> rfl

theorem authenticateRequest_runsAs (s : Stamp) (headers : HeaderMap) (action resource : String) :
    RunsAs state (authenticateRequest state s headers action resource)
      (state.authenticateRequest s headers action resource) l := by
  unfold authenticateRequest AppState.authenticateRequest
  cases state.auth.authenticate headers <;> rfl

theorem auditAuthorization_runsAs {α : Type} (s : Stamp) (headers : HeaderMap)
    (auth : AuthenticatedInstitution) (action resource : String) (checked : Except ApiError α) :
    RunsAs state (auditAuthorization state s headers auth action resource checked)
      (KaniNetwork.auditAuthorization s headers auth action resource checked) l := by
  cases checked <;> rfl

theorem authorizeRequest_runsAs {α : Type} {s : Stamp} {headers : HeaderMap}
    {action resource : String} {check : AuthenticatedInstitution → AsyncHandler α}
    {checked : InMemoryLedger → AuthenticatedInstitution → Except ApiError α}
    (hcheck : ∀ auth l, (check auth).exec (NodeCall.inMemory state.node) l = (l, checked l auth)) :
    RunsAs state (authorizeRequest state s headers action resource check)
      (state.authorizeRequest s headers action resource checked) l := by
  refine (authenticateRequest_runsAs s headers action resource).bind fun auth l' _ => ?_
  refine .get_bind ?_
  unfold RunsAs
  rw [Prog.exec_bind, Prog.exec_attempt, hcheck]
  exact RunsAs.bind (auditAuthorization_runsAs s headers auth action resource (checked l' auth))
    fun a _ _ => .pure (auth, a)

theorem authorizeAdminRequest_runsAs (s : Stamp) (headers : HeaderMap) (action resource : String) :
    RunsAs state (authorizeAdminRequest state s headers action resource)
      (state.authorizeAdminRequest s headers action resource) l :=
  (authorizeRequest_runsAs fun auth l => by cases authorizeAdmin auth <;> rfl).bind
    fun _ _ _ => .pure _

/-- A guarded part starts from where the gate ends. -/
theorem RunsAs.admin_bind {α : Type} {s : Stamp} {headers : HeaderMap} {action resource : String}
    {f : AuthenticatedInstitution → AsyncHandler α} {g : AuthenticatedInstitution → Handler α}
    (h : ∀ auth l, RunsAs state (f auth) (g auth) l) :
    RunsAs state (authorizeAdminRequest state s headers action resource >>= f)
      (state.authorizeAdminRequest s headers action resource >>= g) l :=
  (authorizeAdminRequest_runsAs s headers action resource).bind fun auth l' _ => h auth l'

end

/-! ## Handlers -/

section

variable {l : InMemoryLedger} (d : Draws) (headers : HeaderMap)

theorem ensureAccountExists_runsAs (accountId : String) :
    RunsAs state (ensureAccountExists state accountId)
      (.ofExcept (KaniNetwork.ensureAccountExists l accountId)) l :=
  exec_ensureAccountExists accountId

theorem enforcePaymentCompliance_runsAs (s : Stamp) (auth : AuthenticatedInstitution)
    (action resource : String) (request : ValidatedPaymentRequest) :
    RunsAs state (enforcePaymentCompliance state s headers auth action resource request)
      (state.enforcePaymentCompliance s headers auth action resource request) l := by
  refine (RunsAs.recordAuditEvent _).bind fun _ l' _ => ?_
  cases (screenSandboxPaymentWithPolicy state.compliancePolicy request.compliancePayment).decision
    <;> rfl

theorem submitValidatedPayment_runsAs (request : ValidatedPaymentRequest) (action : String) :
    RunsAs state (submitValidatedPayment state d headers request action)
      (state.submitValidatedPayment d headers request action) l := by
  refine (authorizeRequest_runsAs fun auth l => exec_authorizeAccountAccess auth _ _).bind ?_
  rintro ⟨auth, _⟩ l _
  refine .get_bind ((ensureAccountExists_runsAs _).bind fun _ l' _ => .ofExcept_bind fun key => ?_)
  refine (enforcePaymentCompliance_runsAs headers _ auth _ _ request).bind fun review l'' _ => ?_
  cases review with
  | none => exact (RunsAs.act rfl).bind fun payment _ _ => .pure _
  | some result =>
    refine (RunsAs.act rfl).bind ?_
    rintro ⟨payment, complianceCase⟩ l _
    exact (RunsAs.recordAuditEvent _).bind fun _ _ _ => .pure _

theorem createPayment_runsAs (request : CreatePaymentRequest) :
    RunsAs state (createPayment state d headers request) (state.createPayment d headers request) l :=
  .ofExcept_bind fun _ => (submitValidatedPayment_runsAs d headers _ _).bind fun _ _ _ => .pure _

theorem createPacs008Payment_runsAs (body : String) :
    RunsAs state (createPacs008Payment state d headers body)
      (state.createPacs008Payment d headers body) l := by
  refine .ofExcept_bind ?_
  rintro ⟨transfer, request⟩
  exact (submitValidatedPayment_runsAs d headers _ _).bind fun _ _ _ => .pure _

theorem readAuthorizedPayment_runsAs (id action : String) :
    RunsAs state (readAuthorizedPayment state d headers id action)
      (state.readAuthorizedPayment d headers id action) l := by
  refine (authenticateRequest_runsAs _ _ _ _).bind fun auth l' _ => .get_bind ?_
  refine RunsAs.bind ?_ fun record l'' hread => ?_
  · unfold RunsAs
    rw [Prog.exec_call, NodeCall.inMemory_read]
    simp only [NodeRead.inMemory]
    cases l'.getPayment id with
    | error e => cases e <;> rfl
    | ok record => rfl
  · obtain ⟨rfl, -⟩ := Method.ofExcept_eq_ok_iff.mp hread
    unfold RunsAs
    rw [Prog.exec_bind, Prog.exec_attempt, exec_authorizePaymentRead]
    exact RunsAs.bind (auditAuthorization_runsAs (d.sub 0).stamp headers auth action _
      (KaniNetwork.authorizePaymentRead l' auth record)) fun _ _ _ => .pure record

theorem getCamt053Statement_runsAs (accountId : String) (query : Camt053StatementQuery) :
    RunsAs state (getCamt053Statement state d headers accountId query)
      (state.getCamt053Statement d headers accountId query) l := by
  refine .ofExcept_bind fun filter => ?_
  refine (authorizeRequest_runsAs fun auth l => exec_authorizeAccountAccess auth _ _).bind
    fun _ l' _ => .get_bind ?_
  exact .read_bind rfl (.read_bind rfl (.pure _))

theorem sandboxMint_runsAs (request : SandboxMintRequest) :
    RunsAs state (sandboxMint state d headers request) (state.sandboxMint d headers request) l := by
  refine .ofExcept_bind fun request => ?_
  refine (authorizeRequest_runsAs fun auth l => exec_authorizeTreasury auth _).bind fun _ l' _ => ?_
  refine .get_bind ((ensureAccountExists_runsAs _).bind fun _ l'' _ => ?_)
  exact (RunsAs.act rfl).bind fun _ _ _ => .pure _

/-- A ledger result behind `?`. -/
theorem mapError_ofLedger {α : Type} (x : Except LedgerError α) :
    (x.mapError NodeError.ledger).mapError (.ofNodeError state.libraries.sqlxMessage) =
      state.ofLedger x := by
  cases x <;> rfl

/-- The list of a known institution. -/
theorem mapError_elim {α : Type} (institutionId : String) (x : Option α) :
    (x.elim (.error (.ledger (.unknownInstitution institutionId))) .ok : Except NodeError α).mapError
        (.ofNodeError state.libraries.sqlxMessage) =
      state.ofLedger (x.elim (.error (.unknownInstitution institutionId)) .ok) := by
  cases x <;> rfl

theorem institutionProfile_runsAs (institutionId : String) :
    RunsAs state (institutionProfile state institutionId)
      (.ofExcept (state.institutionProfile l institutionId)) l := by
  unfold AppState.institutionProfile
  simp only [Method.ofExcept_bind]
  refine .read_ofExcept_bind (mapError_ofLedger _) fun institution => ?_
  refine .read_ofExcept_bind (mapError_elim institutionId _) fun credentials => ?_
  exact .read_ofExcept_bind (mapError_elim institutionId _) fun limits => .pure _

/-- The event a handler records after its action, before it answers. -/
theorem audited_runsAs {α : Type} (event : AuditEvent) (a : α) :
    RunsAs state (recordAuditEvent state event >>= fun _ => pure a)
      (KaniNetwork.recordAuditEvent event >>= fun _ => pure a) l :=
  (RunsAs.recordAuditEvent event).bind fun _ _ _ => .pure a

/-- A handler that is not interrupted does what its method does. -/
theorem handle_runsAs (request : HttpRequest) :
    RunsAs state (handle state d headers request) (state.handle d headers request) l := by
  cases request with
  | rejected rejection => exact .pure _
  | health => exact .pure _
  | openapiJson => exact .pure _
  | createPayment request => exact createPayment_runsAs d headers request
  | getPayment id => exact (readAuthorizedPayment_runsAs d headers id _).bind fun _ _ _ => .pure _
  | createPacs008Payment body => exact createPacs008Payment_runsAs d headers body
  | getPacs002Status id =>
    exact (readAuthorizedPayment_runsAs d headers id _).bind fun _ _ _ => .pure _
  | getCamt053Statement accountId query => exact getCamt053Statement_runsAs d headers accountId query
  | getInstitutions => exact .admin_bind fun _ _ => .get_bind (.read_bind rfl (.pure _))
  | createInstitution request =>
    refine .ofExcept_bind fun request => .admin_bind fun auth l => ?_
    exact (audited_runsAs _ _ : RunsAs state _ _ (l.upsertInstitution _))
  | getInstitution id =>
    refine .ofExcept_bind fun institutionId => .admin_bind fun _ l => .get_bind ?_
    exact (institutionProfile_runsAs institutionId).bind fun _ _ _ => .pure _
  | createInstitutionCredential id request =>
    refine .ofExcept_bind fun institutionId => .ofExcept_bind fun request => ?_
    refine .admin_bind fun auth l => .get_bind (.read_ofExcept_bind (mapError_ofLedger _) fun _ => ?_)
    exact (RunsAs.act rfl).bind fun _ _ _ => audited_runsAs _ _
  | suspendInstitution id =>
    refine .ofExcept_bind fun institutionId => .admin_bind fun auth l => ?_
    exact (RunsAs.act rfl).bind fun _ _ _ => audited_runsAs _ _
  | setInstitutionLimit id request =>
    refine .ofExcept_bind fun institutionId => .ofExcept_bind fun request => ?_
    exact .admin_bind fun auth l => (RunsAs.act rfl).bind fun _ _ _ => audited_runsAs _ _
  | getComplianceCases query =>
    refine .admin_bind fun _ l => .ofExcept_bind ?_
    rintro ⟨limit, offset⟩
    exact .get_bind (.read_bind rfl (.pure _))
  | getComplianceCase id =>
    refine .admin_bind fun _ l => .get_bind ?_
    refine .read_ofExcept_bind (mapError_ofLedger _) fun complianceCase => ?_
    exact .read_ofExcept_bind (mapError_ofLedger _) fun payment => .pure _
  | approveComplianceCase id request =>
    refine .admin_bind fun auth l => (RunsAs.act rfl).bind ?_
    rintro ⟨complianceCase, payment⟩ l' _
    exact audited_runsAs _ _
  | rejectComplianceCase id request =>
    refine .admin_bind fun auth l => (RunsAs.act rfl).bind ?_
    rintro ⟨complianceCase, payment⟩ l' _
    exact audited_runsAs _ _
  | getAccounts => exact .admin_bind fun _ _ => .get_bind (.read_bind rfl (.pure _))
  | getPendingTransactions query =>
    exact .admin_bind fun _ _ => .ofExcept_bind fun _ => .get_bind (.read_bind rfl (.pure _))
  | getBalance accountId asset =>
    refine .ofExcept_bind fun asset => ?_
    refine (authorizeRequest_runsAs fun auth l => exec_authorizeAccountAccess auth _ _).bind
      fun _ l' _ => ?_
    exact .get_bind (.read_bind rfl (.pure _))
  | getIssued asset =>
    refine .ofExcept_bind fun asset => ?_
    exact .admin_bind fun _ _ => .get_bind (.read_bind rfl (.pure _))
  | getBlocks query =>
    exact .admin_bind fun _ _ => .ofExcept_bind fun _ => .get_bind (.read_bind rfl (.pure _))
  | getLatestBlock =>
    refine .admin_bind fun _ l => .get_bind (.read_bind rfl ?_)
    cases l.blocks.getLast? <;> rfl
  | getAuditEvents query =>
    exact .admin_bind fun _ _ => .ofExcept_bind fun _ => .get_bind (.read_bind rfl (.pure _))
  | getSettlementSummaryReport query =>
    exact .admin_bind fun _ _ => .ofExcept_bind fun _ => .get_bind (.read_bind rfl (.pure _))
  | getComplianceDecisionReport query =>
    exact .admin_bind fun _ _ => .ofExcept_bind fun _ => .get_bind (.read_bind rfl (.pure _))
  | getValidatorFinalityReport query =>
    exact .admin_bind fun _ _ => .ofExcept_bind fun _ =>
      .get_bind (.read_bind rfl (.read_bind rfl (.pure _)))
  | getValidators => exact .admin_bind fun _ _ => .read_bind rfl (.pure _)
  | sandboxMint request => exact sandboxMint_runsAs d headers request

end

end AsyncApi

end KaniNetwork
