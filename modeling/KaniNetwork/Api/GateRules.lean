/-
KaniNetwork.Api.GateRules — how a request keeps within its authority
(`kani-api`).

The rules follow a request from its authentication over the check of its
right (`sound_guard`) to the calls behind the gate: reads and checks keep
it `Open`, an operation makes it `Acted`, the event after the operation
closes it. `Api/Soundness.lean` applies them to the handlers.
-/
import KaniNetwork.Api.Gate

namespace KaniNetwork

/-! ## Histories that grow -/

section

variable {h h' : CallHistory} {auth : AuthenticatedInstitution}

theorem Operates.mono {account : Account} (ho : Operates h auth account) (hsub : h ⊆ h') :
    Operates h' auth account := by
  obtain ⟨accounts, hread, hfind⟩ := ho.found
  obtain ⟨institution, hread', happroved⟩ := ho.approved
  exact ⟨⟨accounts, hsub hread, hfind⟩, ho.owner, institution, hsub hread', happroved⟩

theorem Right.ShownIn.mono {right : Right} (hs : right.ShownIn h auth) (hsub : h ⊆ h') :
    right.ShownIn h' auth := by
  cases right with
  | admin => exact hs
  | debit accountId | readAccount accountId =>
    obtain ⟨account, hid, ho⟩ := hs
    exact ⟨account, hid, ho.mono hsub⟩
  | issue treasury =>
    obtain ⟨account, hid, ho, htype⟩ := hs
    exact ⟨account, hid, ho.mono hsub, htype⟩
  | readPayment paymentId =>
    obtain ⟨record, accounts, hrecord, haccounts, hbelongs⟩ := hs
    exact ⟨record, accounts, hsub hrecord, hsub haccounts, hbelongs⟩

theorem quiet_nil : Quiet [] := by
  intro q hq
  cases hq

theorem Quiet.snoc (hq : Quiet h) {q : NodeCall} (hcall : q.IsQuiet) (reply : q.Reply) :
    Quiet (h ++ [⟨q, reply⟩]) := by
  intro x hx
  rcases List.mem_append.mp hx with hx | hx
  · exact hq x hx
  · cases List.mem_singleton.mp hx
    exact hcall

theorem Quiet.read (hq : Quiet h) (r : NodeRead) (reply : Except NodeError r.Value) :
    Quiet (h ++ [⟨.read r, reply⟩]) :=
  hq.snoc (q := .read r) trivial reply

theorem Quiet.record (hq : Quiet h) (event : AuditEvent) (reply : Except NodeError Unit) :
    Quiet (h ++ [⟨.act (.recordAuditEvent event), reply⟩]) :=
  hq.snoc (q := .act (.recordAuditEvent event)) trivial reply

theorem Quiet.done (hq : Quiet h) {op : NodeOp} {v : op.Value} (hdone : DoneIn h op v) :
    (NodeCall.act op).IsQuiet :=
  hq _ hdone

theorem readIn_snoc (h : CallHistory) (r : NodeRead) (v : r.Value) :
    ReadIn (h ++ [⟨.read r, .ok v⟩]) r v :=
  List.mem_append_right _ (List.mem_singleton.mpr rfl)

theorem doneIn_snoc (h : CallHistory) (op : NodeOp) (v : op.Value) :
    DoneIn (h ++ [⟨.act op, .ok v⟩]) op v :=
  List.mem_append_right _ (List.mem_singleton.mpr rfl)

/-- Every event attests the record of an event. -/
theorem NodeOp.attestedBy_of_isQuiet {op : NodeOp} (hquiet : (NodeCall.act op).IsQuiet)
    (v : op.Value) (event : AuditEvent) : op.AttestedBy auth v event := by
  cases op <;> trivial

end

namespace AppState

variable {state : AppState} {x : Exchange} {h h' : CallHistory} {auth : AuthenticatedInstitution}

theorem Passed.mono (hp : state.Passed x auth h) (hsub : h ⊆ h') : state.Passed x auth h' := by
  obtain ⟨demand, hdemand, hright, hrecorded⟩ := hp.allowed
  exact ⟨hp.known, demand, hdemand, hright.mono hsub, hsub hrecorded⟩

/-- The right that was shown is the one the request demands. -/
theorem Passed.shown (hp : state.Passed x auth h) {demand : Demand}
    (hdemand : state.demand x.request = .ok (some demand)) : demand.right.ShownIn h auth := by
  obtain ⟨demand', hdemand', hright, -⟩ := hp.allowed
  rw [hdemand] at hdemand'
  cases hdemand'
  exact hright

/-- An error that is no refusal, of a request that has done nothing. -/
theorem closes_error {α : Type} (hq : Quiet h) {error : ApiError} (herror : ¬ error.IsRefusal) :
    state.Closes x h (.error error : Except ApiError α) :=
  ⟨fun hrefusal => absurd hrefusal herror, .inl fun _ _ hdone => hq.done hdone⟩

/-- An event could not be recorded. -/
theorem closes_auditFailed {α : Type} (event : AuditEvent) (error : NodeError) :
    state.Closes x (h ++ [⟨.act (.recordAuditEvent event), .error error⟩])
      (.error (.ofNodeError state.libraries.sqlxMessage error) : Except ApiError α) := by
  refine ⟨fun hrefusal => absurd hrefusal (ApiError.not_isRefusal_ofNodeError _ _), .inr ?_⟩
  exact ⟨event, error, List.mem_append_right _ (List.mem_singleton.mpr rfl)⟩

end AppState

namespace AsyncApi

variable {state : AppState} {x : Exchange} {h h' : CallHistory} {auth : AuthenticatedInstitution}

/-! ## Calls -/

section

variable {α β : Type} {done : CallHistory → Except ApiError β → Prop}

/-- A call and what its reply leads to. -/
theorem follows_call {q : NodeCall} {f : q.Value → AsyncHandler β} (hmay : state.Permits x h q)
    (herror : ∀ error, done (h ++ [⟨q, .error error⟩])
      (.error (.ofNodeError state.libraries.sqlxMessage error)))
    (hok : ∀ v, (f v).Follows (state.Permits x) done (h ++ [⟨q, .ok v⟩])) :
    (call state q >>= f).Follows (state.Permits x) done h := by
  refine ⟨hmay, fun reply => ?_⟩
  cases reply with
  | error error => exact herror error
  | ok v => exact hok v

theorem follows_recordAuditEvent {event : AuditEvent} {f : Unit → AsyncHandler β}
    (herror : ∀ error, done (h ++ [⟨.act (.recordAuditEvent event), .error error⟩])
      (.error (.ofNodeError state.libraries.sqlxMessage error)))
    (hok : (f ()).Follows (state.Permits x) done (h ++ [⟨.act (.recordAuditEvent event), .ok ()⟩])) :
    (recordAuditEvent state event >>= f).Follows (state.Permits x) done h :=
  follows_call trivial herror fun _ => hok

end

/-! ## The gate -/

/-- A check of a right reads, and succeeds only where it has read the right. -/
def Checks {α : Type} (state : AppState) (x : Exchange) (auth : AuthenticatedInstitution)
    (right : Right) (p : AsyncHandler α) (h : CallHistory) : Prop :=
  p.Follows (state.Permits x)
    (fun h' r => Quiet h' ∧ h ⊆ h' ∧ ∀ a, r = .ok a → right.ShownIn h' auth) h

section

variable {α β : Type}

theorem permits_gateRead (hknown : state.auth.authenticate x.headers = .ok auth) {r : NodeRead}
    (hr : state.GateRead x auth r) : state.Permits x h (.read r) :=
  ⟨auth, hknown, .inl hr⟩

/-- `authorize_account_access`. -/
theorem authorizeAccountAccess_follows (hknown : state.auth.authenticate x.headers = .ok auth)
    (hq : Quiet h) (accountId action : String) :
    (authorizeAccountAccess state accountId action auth).Follows (state.Permits x)
      (fun h' r => Quiet h' ∧ h ⊆ h' ∧
        ∀ account, r = .ok account → account.id = accountId ∧ Operates h' auth account) h := by
  unfold authorizeAccountAccess ensureAccountExists
  rw [Prog.bind_assoc]
  refine follows_call (permits_gateRead hknown (.inl rfl)) (fun error => ?_) fun accounts => ?_
  · exact ⟨hq.read _ _, List.subset_append_left _ _, nofun⟩
  have hq₁ := hq.read .accounts (.ok accounts)
  have hsub₁ := List.subset_append_left h [⟨.read .accounts, .ok accounts⟩]
  have hread := readIn_snoc h .accounts accounts
  generalize h ++ [⟨.read .accounts, .ok accounts⟩] = h₁ at hq₁ hsub₁ hread ⊢
  cases hfind : accounts.find? fun account => account.id = accountId with
  | none => exact ⟨hq₁, hsub₁, nofun⟩
  | some account =>
    have hid : account.id = accountId := by simpa using List.find?_some hfind
    simp only [Prog.pure_eq, Prog.ok_bind]
    split
    · rename_i howner
      unfold ensureInstitutionCanOperate
      rw [Prog.bind_assoc]
      refine follows_call (permits_gateRead hknown (.inr (.inl rfl))) (fun error => ?_)
        fun institution => ?_
      · exact ⟨hq₁.read _ _, List.Subset.trans hsub₁ (List.subset_append_left _ _), nofun⟩
      have hq₂ := hq₁.read (.getInstitution auth.institutionId) (.ok institution)
      have hsub₂ := List.subset_append_left h₁
        [⟨.read (.getInstitution auth.institutionId), .ok institution⟩]
      have hread₂ := readIn_snoc h₁ (.getInstitution auth.institutionId) institution
      split
      · rename_i happroved
        refine ⟨hq₂, List.Subset.trans hsub₁ hsub₂, ?_⟩
        rintro _ ⟨⟩
        exact ⟨hid, ⟨accounts, hsub₂ hread, hid ▸ hfind⟩, howner, institution, hread₂, happroved⟩
      · exact ⟨hq₂, List.Subset.trans hsub₁ hsub₂, nofun⟩
    · exact ⟨hq₁, hsub₁, nofun⟩

theorem authorizeAccountAccess_checks (right : Right) {accountId : String}
    (hright : ∀ h' (account : Account), account.id = accountId → Operates h' auth account →
      right.ShownIn h' auth)
    (hknown : state.auth.authenticate x.headers = .ok auth) (hq : Quiet h) (action : String) :
    Checks state x auth right (authorizeAccountAccess state accountId action auth) h := by
  refine (authorizeAccountAccess_follows hknown hq accountId action).mono (fun _ _ h => h) ?_
  rintro h' r ⟨hq', hsub, hok⟩
  refine ⟨hq', hsub, fun account hr => ?_⟩
  obtain ⟨hid, ho⟩ := hok account hr
  exact hright h' account hid ho

theorem authorizeAccountControl_checks (hknown : state.auth.authenticate x.headers = .ok auth)
    (hq : Quiet h) (accountId : String) :
    Checks state x auth (.debit accountId) (authorizeAccountControl state accountId auth) h :=
  authorizeAccountAccess_checks (.debit accountId) (fun _ account hid ho => ⟨account, hid, ho⟩)
    hknown hq _

theorem authorizeAccountRead_checks (hknown : state.auth.authenticate x.headers = .ok auth)
    (hq : Quiet h) (accountId : String) :
    Checks state x auth (.readAccount accountId) (authorizeAccountRead state accountId auth) h :=
  authorizeAccountAccess_checks (.readAccount accountId)
    (fun _ account hid ho => ⟨account, hid, ho⟩) hknown hq _

theorem authorizeTreasury_checks (hknown : state.auth.authenticate x.headers = .ok auth)
    (hq : Quiet h) (treasury : String) :
    Checks state x auth (.issue treasury) (authorizeTreasury state treasury auth) h := by
  refine .bind ((authorizeAccountAccess_follows hknown hq treasury "debit").mono (fun _ _ h => h) ?_)
  rintro h' r ⟨hq', hsub, hok⟩
  cases r with
  | error error => exact ⟨hq', hsub, nofun⟩
  | ok account =>
    obtain ⟨hid, ho⟩ := hok account rfl
    dsimp only
    split
    · exact ⟨hq', hsub, nofun⟩
    · rename_i htype
      refine ⟨hq', hsub, fun _ _ => ⟨account, hid, ho, not_not.mp htype⟩⟩

theorem authorizeAdmin_checks (hq : Quiet h) :
    Checks state x auth .admin (.ofExcept (authorizeAdmin auth)) h := by
  cases hadmin : authorizeAdmin auth with
  | error error => exact ⟨hq, List.Subset.refl _, nofun⟩
  | ok u => exact ⟨hq, List.Subset.refl _, fun _ _ => AppState.authorizeAdmin_eq_ok hadmin⟩

theorem authorizePaymentRead_checks (hknown : state.auth.authenticate x.headers = .ok auth)
    (hq : Quiet h) {id : String} {record : PaymentRecord} (hread : ReadIn h (.getPayment id) record) :
    Checks state x auth (.readPayment id) (authorizePaymentRead state record auth) h := by
  refine follows_call (permits_gateRead hknown (.inl rfl)) (fun error => ?_) fun accounts => ?_
  · exact ⟨hq.read _ _, List.subset_append_left _ _, nofun⟩
  have hsub := List.subset_append_left h [⟨.read .accounts, .ok accounts⟩]
  split
  · rename_i hbelongs
    exact ⟨hq.read _ _, hsub, fun _ _ => ⟨record, accounts, hsub hread, readIn_snoc _ _ _, hbelongs⟩⟩
  · exact ⟨hq.read _ _, hsub, nofun⟩

/-- Behind the gate, before any operation. -/
structure Open (state : AppState) (x : Exchange) (auth : AuthenticatedInstitution)
    (h : CallHistory) : Prop where
  passed : state.Passed x auth h
  quiet : Quiet h

/-- A refusal that has been recorded. -/
theorem closes_refused {error : ApiError} {event : AuditEvent} (hq : Quiet h)
    (hevent : state.RefusalEvent x error event) :
    state.Closes x (h ++ [⟨.act (.recordAuditEvent event), .ok ()⟩])
      (.error error : Except ApiError α) :=
  ⟨fun _ => ⟨hq.record _ _, event, doneIn_snoc _ _ _, hevent⟩,
    .inl fun _ _ hdone => (hq.record _ _).done hdone⟩

/-- The decision on a check. -/
theorem sound_audit {action resource : String} {right : Right} {f : α → AsyncHandler β}
    (hknown : state.auth.authenticate x.headers = .ok auth)
    (hdemand : state.demand x.request = .ok (some ⟨action, resource, right⟩)) (hq : Quiet h)
    {checked : Except ApiError α} (hshown : ∀ a, checked = .ok a → right.ShownIn h auth)
    (hf : ∀ a h', checked = .ok a → h ⊆ h' → Open state x auth h' → state.Sound x (f a) h') :
    state.Sound x (auditAuthorization state (x.draws.sub 0).stamp x.headers auth action resource
      checked >>= f) h := by
  refine ⟨?_⟩
  cases checked with
  | error error =>
    unfold auditAuthorization
    rw [Prog.bind_assoc]
    refine follows_recordAuditEvent (fun _ => AppState.closes_auditFailed _ _) ?_
    exact closes_refused hq (.denied ⟨action, resource, right⟩ (some auth) hdemand)
  | ok a =>
    unfold auditAuthorization
    rw [Prog.bind_assoc]
    refine follows_recordAuditEvent (fun _ => AppState.closes_auditFailed _ _) ?_
    refine (hf a _ rfl (List.subset_append_left _ _)
      ⟨⟨hknown, _, hdemand, ?_, doneIn_snoc _ _ _⟩, hq.record _ _⟩).follows
    exact (hshown a rfl).mono (List.subset_append_left _ _)

/-- Only a known caller goes on. -/
theorem sound_authenticate {action resource : String} {right : Right}
    {f : AuthenticatedInstitution → AsyncHandler β}
    (hdemand : state.demand x.request = .ok (some ⟨action, resource, right⟩))
    (hf : ∀ auth, state.auth.authenticate x.headers = .ok auth → state.Sound x (f auth) []) :
    state.Sound x (authenticateRequest state (x.draws.sub 0).stamp x.headers action resource >>= f)
      [] := by
  refine ⟨?_⟩
  unfold authenticateRequest
  cases hauth : state.auth.authenticate x.headers with
  | ok auth => exact (hf auth hauth).follows
  | error error =>
    simp only [Prog.bind_assoc]
    refine follows_recordAuditEvent (fun _ => AppState.closes_auditFailed _ _) ?_
    exact closes_refused quiet_nil (.denied ⟨action, resource, right⟩ none hdemand)

/-- **The gate of a request**: whatever is behind it starts with the right
shown and recorded. -/
theorem sound_guard {action resource : String} {right : Right}
    {check : AuthenticatedInstitution → AsyncHandler α}
    {f : AuthenticatedInstitution × α → AsyncHandler β}
    (hdemand : state.demand x.request = .ok (some ⟨action, resource, right⟩))
    (hcheck : ∀ auth, state.auth.authenticate x.headers = .ok auth →
      Checks state x auth right (check auth) [])
    (hf : ∀ auth a h, Open state x auth h → state.Sound x (f (auth, a)) h) :
    state.Sound x (authorizeRequest state (x.draws.sub 0).stamp x.headers action resource check >>= f)
      [] := by
  unfold authorizeRequest
  simp only [Prog.bind_assoc]
  refine sound_authenticate hdemand fun auth hauth => ⟨.bind (.attempt ?_)⟩
  refine (hcheck auth hauth).mono (fun _ _ h => h) ?_
  rintro h checked ⟨hq, -, hshown⟩
  exact (sound_audit hauth hdemand hq hshown fun a h' _ _ ho => hf auth a h' ho).follows

theorem sound_guardAdmin {action resource : String} {f : AuthenticatedInstitution → AsyncHandler β}
    (hdemand : state.demand x.request = .ok (some ⟨action, resource, .admin⟩))
    (hf : ∀ auth h, Open state x auth h → state.Sound x (f auth) h) :
    state.Sound x (authorizeAdminRequest state (x.draws.sub 0).stamp x.headers action resource >>= f)
      [] := by
  unfold authorizeAdminRequest
  rw [Prog.bind_assoc]
  exact sound_guard hdemand (fun auth _ => authorizeAdmin_checks quiet_nil) fun auth a h ho =>
    hf auth h ho

/-! ## Behind the gate -/

theorem Open.read (ho : Open state x auth h) (r : NodeRead) (reply : Except NodeError r.Value) :
    Open state x auth (h ++ [⟨.read r, reply⟩]) :=
  ⟨ho.passed.mono (List.subset_append_left _ _), ho.quiet.read r reply⟩

theorem Open.record (ho : Open state x auth h) (event : AuditEvent)
    (reply : Except NodeError Unit) :
    Open state x auth (h ++ [⟨.act (.recordAuditEvent event), reply⟩]) :=
  ⟨ho.passed.mono (List.subset_append_left _ _), ho.quiet.record event reply⟩

/-- An answer without an operation. -/
theorem sound_answer (ho : Open state x auth h) (b : β) : state.Sound x (pure b) h := by
  refine ⟨.inr ⟨auth, ho.passed, fun op v hdone => ?_⟩⟩
  obtain ⟨demand, -, -, hrecorded⟩ := ho.passed.allowed
  exact ⟨_, hrecorded, NodeOp.attestedBy_of_isQuiet (ho.quiet.done hdone) v _⟩

theorem sound_read (ho : Open state x auth h) {r : NodeRead} {f : r.Value → AsyncHandler β}
    (hf : ∀ v h', Open state x auth h' → h ⊆ h' → ReadIn h' r v → state.Sound x (f v) h') :
    state.Sound x (read state r >>= f) h := by
  refine ⟨follows_call ⟨auth, ho.passed.known, .inr ho.passed⟩ (fun error => ?_) fun v => ?_⟩
  · exact AppState.closes_error (ho.quiet.read _ _) (ApiError.not_isRefusal_ofNodeError _ _)
  · exact (hf v _ (ho.read r _) (List.subset_append_left _ _) (readIn_snoc _ _ _)).follows

/-- A read that is answered. -/
theorem sound_view (ho : Open state x auth h) {r : NodeRead} {g : r.Value → β} :
    state.Sound x (read state r >>= fun v => pure (g v)) h :=
  sound_read ho fun _ _ ho' _ _ => sound_answer ho' _

/-- A check that does not refuse. -/
theorem sound_check (ho : Open state x auth h) {r : Except ApiError α} {f : α → AsyncHandler β}
    (hr : Unrefusing r) (hf : ∀ a, r = .ok a → state.Sound x (f a) h) :
    state.Sound x (.ofExcept r >>= f) h :=
  ⟨.ofExcept_bind (fun error herror => AppState.closes_error ho.quiet (hr error herror))
    fun a ha => (hf a ha).follows⟩

/-- What stands before the gate reads the request only. -/
theorem sound_parse {r : Except ApiError α} {f : α → AsyncHandler β}
    (hr : FailsIn ApiError.IsBadRequest r) (hf : ∀ a, r = .ok a → state.Sound x (f a) []) :
    state.Sound x (.ofExcept r >>= f) [] :=
  ⟨.ofExcept_bind
    (fun error herror => AppState.closes_error quiet_nil (hr error herror).not_isRefusal)
    fun a ha => (hf a ha).follows⟩

/-- After the operation of the request. -/
structure Acted (state : AppState) (x : Exchange) (auth : AuthenticatedInstitution) (op : NodeOp)
    (v : op.Value) (h : CallHistory) : Prop where
  passed : state.Passed x auth h
  only : ∀ op' v', DoneIn h op' v' → (NodeCall.act op').IsQuiet ∨
    (⟨op', v'⟩ : (op : NodeOp) × op.Value) = ⟨op, v⟩

theorem sound_act (ho : Open state x auth h) {op : NodeOp} {f : op.Value → AsyncHandler β}
    (hentitled : state.EntitledBy x auth h op)
    (hf : ∀ v h', Acted state x auth op v h' → state.Sound x (f v) h') :
    state.Sound x (act state op >>= f) h := by
  have hmay : state.Permits x h (.act op) := by
    cases op <;> first | trivial | exact ⟨ho.quiet, auth, ho.passed, hentitled⟩
  refine ⟨follows_call hmay (fun error => ?_) fun v => (hf v _ ⟨?_, fun op' v' hdone => ?_⟩).follows⟩
  · refine ⟨fun hrefusal => absurd hrefusal (ApiError.not_isRefusal_ofNodeError _ _), .inl ?_⟩
    intro op' v' hdone
    rcases List.mem_append.mp hdone with hdone | hlast
    · exact ho.quiet.done hdone
    · have hreply := List.mem_singleton.mp hlast
      cases hreply
  · exact ho.passed.mono (List.subset_append_left _ _)
  · rcases List.mem_append.mp hdone with hdone | hlast
    · exact .inl (ho.quiet.done hdone)
    · have hreply := List.mem_singleton.mp hlast
      cases hreply
      exact .inr rfl

/-- An answer after an operation that an event attests. -/
theorem sound_acted {op : NodeOp} {v : op.Value} (ha : Acted state x auth op v h)
    {event : AuditEvent} (hrecorded : AuditedIn h event) (hattests : op.AttestedBy auth v event)
    (b : β) : state.Sound x (pure b) h := by
  refine ⟨.inr ⟨auth, ha.passed, fun op' v' hdone => ⟨event, hrecorded, ?_⟩⟩⟩
  rcases ha.only op' v' hdone with hquiet | heq
  · exact NodeOp.attestedBy_of_isQuiet hquiet v' event
  · cases heq
    exact hattests

/-- The event after an operation, and the answer. -/
theorem sound_attest {op : NodeOp} {v : op.Value} (ha : Acted state x auth op v h)
    {event : AuditEvent} (hattests : op.AttestedBy auth v event) (b : β) :
    state.Sound x (recordAuditEvent state event >>= fun _ => pure b) h := by
  refine ⟨follows_recordAuditEvent (fun _ => AppState.closes_auditFailed _ _) ?_⟩
  refine (sound_acted ⟨ha.passed.mono (List.subset_append_left _ _), ?_⟩ (doneIn_snoc _ _ _) hattests
    b).follows
  intro op' v' hdone
  rcases List.mem_append.mp hdone with hdone | hlast
  · exact ha.only op' v' hdone
  · have hreply := List.mem_singleton.mp hlast
    cases hreply
    exact .inl trivial

end

end AsyncApi

end KaniNetwork
