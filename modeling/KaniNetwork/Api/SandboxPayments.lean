/-
KaniNetwork.Api.SandboxPayments — what the texts of a payment can be that
the API accepted (`kani-api` over a node without storage).

No request adds an account, so the accounts of a payment are those of the
sandbox: the handlers check both against the ledger. Its asset was
normalized, and its id is a uuid that was drawn for it. `FromSandbox` says
this of a transaction, `SandboxPayments` of all payments of a ledger;
`handle_keeps` goes through the handlers once, `sandboxPayments_run` is the
invariant of a run.
-/
import KaniNetwork.Api.Settlement
import KaniNetwork.Iso20022.StatusReport

namespace KaniNetwork

open InMemoryLedger

def sandboxAccounts : List String :=
  [SANDBOX_TREASURY_ACCOUNT, SANDBOX_CORP_A_ACCOUNT, SANDBOX_CORP_B_ACCOUNT, SANDBOX_FEE_ACCOUNT]

/-- Between sandbox accounts, in a normalized asset, under a printable id. -/
structure FromSandbox (tx : Transaction) : Prop where
  id : PlainXml tx.id
  fromAccount : tx.fromAccount ∈ sandboxAccounts
  toAccount : tx.toAccount ∈ sandboxAccounts
  asset : tx.asset.toList.all isCodeCharacter = true

structure SandboxPayments (l : InMemoryLedger) : Prop where
  accounts : ∃ d, l.accounts = (sandbox d).accounts
  payments : ∀ id p, l.payments.lookup id = some p → FromSandbox p.transaction

/-! ## Accounts and assets -/

/-- The accounts of the sandbox, under their own ids. -/
theorem sandbox_accounts_lookup (d : Draws) : ∀ id account,
    (sandbox d).accounts.lookup id = some account → id ∈ sandboxAccounts ∧ account.id = id := by
  have hempty : ∀ (id : String) (account : Account), (∅ : HashMap String Account).lookup id =
      some account → id ∈ sandboxAccounts ∧ account.id = id := by
    intro id account h
    rw [AList.lookup_empty] at h
    cases h
  have htreasury := HashMap.forall_lookup_insert hempty (k := SANDBOX_TREASURY_ACCOUNT)
    (v := .new (d.sub 4).stamp.now SANDBOX_TREASURY_ACCOUNT .treasury
      (some SANDBOX_TREASURY_INSTITUTION)) ⟨by decide, rfl⟩
  have hcorpA := HashMap.forall_lookup_insert htreasury (k := SANDBOX_CORP_A_ACCOUNT)
    (v := .new (d.sub 5).stamp.now SANDBOX_CORP_A_ACCOUNT .institution
      (some SANDBOX_CORP_A_INSTITUTION)) ⟨by decide, rfl⟩
  have hcorpB := HashMap.forall_lookup_insert hcorpA (k := SANDBOX_CORP_B_ACCOUNT)
    (v := .new (d.sub 6).stamp.now SANDBOX_CORP_B_ACCOUNT .institution
      (some SANDBOX_CORP_B_INSTITUTION)) ⟨by decide, rfl⟩
  exact HashMap.forall_lookup_insert hcorpB (k := SANDBOX_FEE_ACCOUNT)
    (v := .new (d.sub 7).stamp.now SANDBOX_FEE_ACCOUNT .fee (some SANDBOX_NETWORK_INSTITUTION))
    ⟨by decide, rfl⟩

section

variable {l l' : InMemoryLedger}

theorem SandboxPayments.account (h : SandboxPayments l) {id : String} {account : Account}
    (hlookup : l.accounts.lookup id = some account) :
    id ∈ sandboxAccounts ∧ account.id = id := by
  obtain ⟨d, hd⟩ := h.accounts
  rw [hd] at hlookup
  exact sandbox_accounts_lookup d id account hlookup

/-- The check of an account finds one of the sandbox. -/
theorem SandboxPayments.ensureAccountExists (h : SandboxPayments l) {accountId : String}
    {account : Account} (hok : KaniNetwork.ensureAccountExists l accountId = .ok account) :
    accountId ∈ sandboxAccounts := by
  unfold KaniNetwork.ensureAccountExists at hok
  cases hfind : l.accounts.values.find? fun account => account.id = accountId with
  | none =>
    rw [hfind] at hok
    cases hok
  | some found =>
    have hid : found.id = accountId := by simpa using List.find?_some hfind
    obtain ⟨key, hkey⟩ := HashMap.mem_values.mp (List.mem_of_find?_eq_some hfind)
    obtain ⟨hmem, heq⟩ := h.account hkey
    rw [← hid, heq]
    exact hmem

theorem SandboxPayments.of_same (h : SandboxPayments l) (haccounts : l'.accounts = l.accounts)
    (hpayments : l'.payments = l.payments) : SandboxPayments l' where
  accounts := by
    rw [haccounts]
    exact h.accounts
  payments := by
    rw [hpayments]
    exact h.payments

theorem SandboxPayments.record (h : SandboxPayments l) (event : AuditEvent) :
    SandboxPayments (l.recordAuditEvent event) :=
  h.of_same rfl rfl

theorem SandboxPayments.file (h : SandboxPayments l) {p : PaymentRecord} (c : ComplianceCase)
    (hp : FromSandbox p.transaction) : SandboxPayments (l.filePaymentAndCase p c) where
  accounts := h.accounts
  payments := HashMap.forall_lookup_insert h.payments hp

end

theorem normalizeAssetCode_code {value asset : String} (h : normalizeAssetCode value = .ok asset) :
    asset.toList.all isCodeCharacter = true := by
  simp only [normalizeAssetCode, bind_eq_ok_iff] at h
  obtain ⟨text, -, h⟩ := h
  split at h
  · cases h
  · split at h
    · cases h
    · split at h
      · cases h
      · rename_i hcode
        cases h
        simpa using hcode

/-! ## Calls of the node -/

section

variable {n : KaniNode} {l l' : InMemoryLedger}

/-- The accounts of a produced transaction are accounts of the ledger. -/
theorem SandboxPayments.produced (h : SandboxPayments l) {tx : Transaction} {p : PaymentRecord}
    (hblock : n.Produced l tx l' p) (hid : PlainXml tx.id)
    (hasset : tx.asset.toList.all isCodeCharacter = true) : SandboxPayments l' := by
  obtain ⟨⟨now, height, hash, rfl⟩, hpayments⟩ := hblock.payments
  obtain ⟨block, d, records, -, htxs, happlied, -⟩ := hblock.block
  have hbatch := happlied.batch
  rw [htxs, applyTransactions, bind_eq_ok_iff] at hbatch
  obtain ⟨_, hvalid, -⟩ := hbatch
  have hadmissible := validateTransaction_eq_ok_iff.mp hvalid
  obtain ⟨_, hfrom, -⟩ := hadmissible.from_known
  obtain ⟨_, hto, -⟩ := hadmissible.to_known
  constructor
  · rw [happlied.accounts_eq]
    exact h.accounts
  · rw [hpayments]
    exact HashMap.forall_lookup_insert h.payments
      ⟨hid, (h.account hfrom).1, (h.account hto).1, hasset⟩

/-- Request metadata does not change what a payment is. -/
theorem FromSandbox.withRequestMetadata {tx : Transaction} (h : FromSandbox tx)
    (key : Option String) (fp : String) : FromSandbox (tx.withRequestMetadata key fp) := by
  cases key with
  | none => exact h
  | some k => exact ⟨h.id, h.fromAccount, h.toAccount, h.asset⟩

theorem SandboxPayments.submit (h : SandboxPayments l) {d : Draws} {f t a : String} {amount : Int}
    {key : Option String} (hid : PlainXml (d.sub 0).stamp.id)
    (hasset : a.toList.all isCodeCharacter = true) {p : PaymentRecord}
    (hok : n.submitPayment d f t a amount key l = (l', .ok p)) : SandboxPayments l' := by
  rcases KaniNode.submitPayment_eq_ok hok with ⟨_, _, _, _, rfl⟩ | ⟨_, nonce, hblock⟩
  · exact h
  · cases key with
    | none => exact h.produced hblock hid hasset
    | some k => exact h.produced hblock hid hasset

theorem SandboxPayments.hold (h : SandboxPayments l) {d : Draws} {f t a : String} {amount : Int}
    {key : Option String} {caseOpen : ComplianceCaseOpen} (hid : PlainXml (d.sub 0).stamp.id)
    (hfrom : f ∈ sandboxAccounts) (hto : t ∈ sandboxAccounts)
    (hasset : a.toList.all isCodeCharacter = true) {r : PaymentRecord × ComplianceCase}
    (hok : n.holdPaymentForReview d f t a amount key caseOpen l = (l', .ok r)) :
    SandboxPayments l' := by
  cases hfind : KaniNode.findRetried l key with
  | some kp =>
    have hretried := n.holdPaymentForReview_retried d f t a amount caseOpen hfind
    rw [hok] at hretried
    have hsame : l' = l := hretried
    rw [hsame]
    exact h
  | none =>
    obtain ⟨p, c, hrun, rfl, -⟩ := n.holdPaymentForReview_new d f t a amount caseOpen hfind
    rw [hok, Prod.mk.injEq] at hrun
    obtain ⟨rfl, -⟩ := hrun
    refine h.file c (FromSandbox.withRequestMetadata ?_ key _)
    exact ⟨hid, hfrom, hto, hasset⟩

theorem SandboxPayments.resolved (h : SandboxPayments l) {id : String} {c c' : ComplianceCase}
    {p p' : PaymentRecord} (hp : l.payments.lookup id = some p) (hres : Resolution c p c' p') :
    SandboxPayments (l.filePaymentAndCase p' c') := by
  refine h.file c' ?_
  rw [hres.transaction]
  exact h.payments id p hp

end

namespace AppState

variable {state : AppState}

/-! ## The handlers -/

/-- The rest of a handler leaves a ledger with sandbox payments. -/
abbrev Keeps {α : Type} (m : Handler α) (l : InMemoryLedger) : Prop :=
  m.Ends l (fun _ => SandboxPayments) (fun _ => SandboxPayments)

section

variable {α β : Type} {l : InMemoryLedger} {s : Stamp} {headers : HeaderMap}
  {action resource : String}

theorem Keeps.pure {a : α} (h : SandboxPayments l) : Keeps (pure a) l := Method.Ends.pure h

theorem Keeps.bind {m : Handler α} {f : α → Handler β} (hm : Keeps m l)
    (hf : ∀ a l', SandboxPayments l' → Keeps (f a) l') : Keeps (m >>= f) l := Method.Ends.bind hm hf

theorem Keeps.get {f : InMemoryLedger → Handler β} (h : Keeps (f l) l) : Keeps (.get >>= f) l :=
  Method.Ends.get_bind h

theorem Keeps.check {r : Except ApiError α} {f : α → Handler β} (h : SandboxPayments l)
    (hf : ∀ a, r = .ok a → Keeps (f a) l) : Keeps (.ofExcept r >>= f) l :=
  Method.Ends.ofExcept_bind (fun _ _ => h) hf

theorem Keeps.record {event : AuditEvent} {f : Unit → Handler β} (h : SandboxPayments l)
    (hf : ∀ l', SandboxPayments l' → Keeps (f ()) l') : Keeps (recordAuditEvent event >>= f) l :=
  Method.Ends.modify_bind (hf _ (h.record event))

/-- A call of the node that changes nothing when it fails. -/
theorem Keeps.call {call : Method InMemoryLedger NodeError α} {f : α → Handler β}
    (h : SandboxPayments l) (hcall : call.Commits)
    (hok : ∀ l' a, call l = (l', .ok a) → SandboxPayments l')
    (hf : ∀ l' a, SandboxPayments l' → Keeps (f a) l') :
    Keeps (state.callNode call >>= f) l := by
  have hends : call.Ends l (fun _ => SandboxPayments) (fun _ => SandboxPayments) :=
    hcall.ends hok fun _ => h
  exact .bind (hends.mapError fun _ _ h => h) fun a l' => hf l' a

/-- The gate records one event. -/
theorem Keeps.guard {check : InMemoryLedger → AuthenticatedInstitution → Except ApiError α}
    {f : AuthenticatedInstitution × α → Handler β} (h : SandboxPayments l)
    (hf : ∀ auth a l', check l auth = .ok a → SandboxPayments l' → Keeps (f (auth, a)) l') :
    Keeps (state.authorizeRequest s headers action resource check >>= f) l := by
  refine Method.Ends.bind
    (authorizeRequest_ends (fun _ _ => h.record _) fun _ _ _ _ => h.record _) ?_
  rintro ⟨auth, a⟩ l' ⟨-, hcheck, rfl⟩
  exact hf auth a _ hcheck (h.record _)

theorem Keeps.guardAdmin {f : AuthenticatedInstitution → Handler β} (h : SandboxPayments l)
    (hf : ∀ auth l', SandboxPayments l' → Keeps (f auth) l') :
    Keeps (state.authorizeAdminRequest s headers action resource >>= f) l := by
  have hgate : Keeps (state.authorizeAdminRequest s headers action resource) l :=
    .guard h fun _ _ _ _ h => .pure h
  exact .bind hgate hf

variable {d : Draws}

theorem readAuthorizedPayment_keeps (h : SandboxPayments l) (id action : String) :
    Keeps (state.readAuthorizedPayment d headers id action) l := by
  have hauth : Keeps (state.authenticateRequest (d.sub 0).stamp headers action ("payment:" ++ id))
      l := by
    unfold authenticateRequest
    split
    · exact .pure h
    · exact .record h fun _ h => Method.Ends.throw h
  refine .bind hauth fun auth l h => .get (.check h fun record _ => ?_)
  have haudit : Keeps (auditAuthorization (d.sub 0).stamp headers auth action ("payment:" ++ id)
      (authorizePaymentRead l auth record)) l := by
    unfold auditAuthorization
    split
    · exact .record h fun _ h => .pure h
    · exact .record h fun _ h => Method.Ends.throw h
  exact .bind haudit fun _ _ h => .pure h

/-- A payment is submitted or held between accounts that were checked. -/
theorem submitValidatedPayment_keeps (h : SandboxPayments l)
    (hid : PlainXml ((d.sub 2).sub 0).stamp.id) {request : ValidatedPaymentRequest}
    (hasset : request.asset.toList.all isCodeCharacter = true) (action : String) :
    Keeps (state.submitValidatedPayment d headers request action) l := by
  refine .guard h fun auth account l' hcontrol h' => .get ?_
  have hfrom : request.fromAccount ∈ sandboxAccounts := by
    simp only [authorizeAccountControl, authorizeAccountAccess, bind_eq_ok_iff] at hcontrol
    obtain ⟨_, hfound, -⟩ := hcontrol
    exact h.ensureAccountExists hfound
  refine .check h' fun _ hfound => .check h' fun key _ => ?_
  have hto := h'.ensureAccountExists hfound
  have hscreened : Keeps (state.enforcePaymentCompliance (d.sub 1).stamp headers auth action
      ("account:" ++ request.fromAccount) request) l' := by
    refine .record h' fun l' h' => ?_
    split
    · exact .pure h'
    · exact .pure h'
    · exact Method.Ends.throw h'
  refine .bind hscreened fun review l' h' => ?_
  split
  · refine .call h' (state.node.holdPaymentForReview_commits _ _ _ _ _ _ _)
      (fun _ _ hok => h'.hold hid hfrom hto hasset hok) fun l' _ h' => ?_
    exact .record h' fun _ h' => .pure h'
  · exact .call h' (state.node.submitPayment_commits _ _ _ _ _ _)
      (fun _ _ hok => h'.submit hid hasset hok) fun _ _ h' => .pure h'

/-- **No request makes any other payment.** -/
theorem handle_keeps (h : SandboxPayments l) (hids : ∀ path, PlainXml (d path).id)
    (request : HttpRequest) : Keeps (state.handle d headers request) l := by
  cases request with
  | rejected | health | openapiJson => exact .pure h
  | createPayment request =>
    refine .check h fun validated hvalidated => ?_
    simp only [CreatePaymentRequest.validate, bind_eq_ok_iff, pure_eq_ok, Except.ok.injEq]
      at hvalidated
    obtain ⟨_, -, _, -, asset, hasset, _, -, rfl⟩ := hvalidated
    exact .bind (submitValidatedPayment_keeps h (hids _) (normalizeAssetCode_code hasset) _)
      fun _ _ h => .pure h
  | createPacs008Payment body =>
    refine .check h fun read hread => ?_
    simp only [readPacs008, pacs008TransferRequest, bind_eq_ok_iff, pure_eq_ok, Except.ok.injEq]
      at hread
    obtain ⟨transfer, -, _, ⟨_, -, _, -, asset, hasset, _, -, rfl⟩, rfl⟩ := hread
    exact .bind (submitValidatedPayment_keeps h (hids _) (normalizeAssetCode_code hasset) _)
      fun _ _ h => .pure h
  | sandboxMint request =>
    refine .check h fun validated hvalidated => ?_
    simp only [SandboxMintRequest.validate, bind_eq_ok_iff, pure_eq_ok, Except.ok.injEq]
      at hvalidated
    obtain ⟨_, -, _, -, asset, hasset, _, -, rfl⟩ := hvalidated
    refine .guard h fun _ _ _ _ h => .get (.check h fun _ _ => ?_)
    refine .call h (state.node.mintSandbox_commits _ _ _ _ _) ?_ fun _ _ h => .pure h
    intro l' p hok
    obtain ⟨nonce, hblock⟩ := KaniNode.mintSandbox_eq_ok hok
    exact h.produced hblock (hids _) (normalizeAssetCode_code hasset)
  | getPayment id | getPacs002Status id =>
    exact .bind (readAuthorizedPayment_keeps h id _) fun _ _ h => .pure h
  | getCamt053Statement | getBalance =>
    exact .check h fun _ _ => .guard h fun _ _ _ _ h => .get (.pure h)
  | getInstitutions | getAccounts => exact .guardAdmin h fun _ _ h => .get (.pure h)
  | getValidators => exact .guardAdmin h fun _ _ h => .pure h
  | getLatestBlock =>
    refine .guardAdmin h fun _ _ h => .get ?_
    split
    · exact .pure h
    · exact Method.Ends.throw h
  | getIssued => exact .check h fun _ _ => .guardAdmin h fun _ _ h => .get (.pure h)
  | getInstitution =>
    exact .check h fun _ _ => .guardAdmin h fun _ _ h => .get (.check h fun _ _ => .pure h)
  | getComplianceCase =>
    exact .guardAdmin h fun _ _ h => .get (.check h fun _ _ => .check h fun _ _ => .pure h)
  | getComplianceCases | getPendingTransactions | getBlocks | getAuditEvents |
    getSettlementSummaryReport | getComplianceDecisionReport | getValidatorFinalityReport =>
    exact .guardAdmin h fun _ _ h => .check h fun _ _ => .get (.pure h)
  | createInstitution =>
    refine .check h fun _ _ => .guardAdmin h fun _ _ h => ?_
    exact Method.Ends.modify_bind (Keeps.record (h.of_same rfl rfl) fun _ h => .pure h)
  | createInstitutionCredential =>
    refine .check h fun _ _ => .check h fun _ _ => .guardAdmin h fun _ _ h => .get ?_
    refine .check h fun _ _ => .call h (addInstitutionCredential_commits _).mapError ?_
      fun _ _ h => .record h fun _ h => .pure h
    intro l' c hok
    obtain ⟨_, _, rfl⟩ := addInstitutionCredential_eq_ok (Method.mapError_eq_ok_iff.mp hok)
    exact h.of_same rfl rfl
  | suspendInstitution =>
    refine .check h fun _ _ => .guardAdmin h fun _ _ h => ?_
    refine .call h (suspendInstitution_commits _ _).mapError ?_
      fun _ _ h => .record h fun _ h => .pure h
    intro l' c hok
    obtain ⟨_, _, _, rfl⟩ := suspendInstitution_eq_ok (Method.mapError_eq_ok_iff.mp hok)
    exact h.of_same rfl rfl
  | setInstitutionLimit =>
    refine .check h fun _ _ => .check h fun _ _ => .guardAdmin h fun _ _ h => ?_
    refine .call h (upsertInstitutionLimit_commits _).mapError ?_
      fun _ _ h => .record h fun _ h => .pure h
    intro l' c hok
    obtain ⟨_, _, rfl⟩ := upsertInstitutionLimit_eq_ok (Method.mapError_eq_ok_iff.mp hok)
    exact h.of_same rfl rfl
  | approveComplianceCase =>
    refine .guardAdmin h fun _ _ h => .call h (approveComplianceCase_commits _ _ _ _).mapError ?_
      fun _ _ h => .record h fun _ h => .pure h
    intro l' c hok
    obtain ⟨_, _, _, _, hp, rfl, rfl⟩ :=
      approveComplianceCase_eq_ok (Method.mapError_eq_ok_iff.mp hok)
    exact h.resolved hp (.approved _ _ _ _)
  | rejectComplianceCase =>
    refine .guardAdmin h fun _ _ h => .call h (rejectComplianceCase_commits _ _ _ _).mapError ?_
      fun _ _ h => .record h fun _ h => .pure h
    intro l' c hok
    obtain ⟨_, _, _, _, hp, rfl, rfl⟩ :=
      rejectComplianceCase_eq_ok (Method.mapError_eq_ok_iff.mp hok)
    exact h.resolved hp (.rejected _ _ _ _ _)

end

/-! ## Runs -/

theorem sandboxPayments_run (d₀ : Draws) {xs : List Exchange}
    (hids : ∀ x ∈ xs, ∀ path, PlainXml (x.draws path).id) :
    SandboxPayments (state.run (sandbox d₀) xs) := by
  induction xs using List.reverseRecOn with
  | nil =>
    refine ⟨⟨d₀, rfl⟩, fun id p hp => ?_⟩
    rw [run, List.foldl_nil, sandbox_payments, AList.lookup_empty] at hp
    cases hp
  | append_singleton xs x ih =>
    rw [run_append]
    have h := ih fun y hy => hids y (List.mem_append_left _ hy)
    have hx := hids x (List.mem_append_right _ (List.mem_singleton_self x))
    have hkeeps : Keeps (state.handle x.draws x.headers x.request) (state.run (sandbox d₀) xs) :=
      handle_keeps h hx x.request
    have hfinal := hkeeps.final
    unfold serve
    rcases hrun : state.handle x.draws x.headers x.request (state.run (sandbox d₀) xs) with ⟨l', r⟩
    rw [hrun] at hfinal
    cases r <;> exact hfinal

end AppState

end KaniNetwork
