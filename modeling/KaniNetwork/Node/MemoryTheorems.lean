/-
KaniNetwork.Node.MemoryTheorems — what one call of the in-memory node can
do.

`step_effect` is the inversion of `KaniNode.step`: a call leaves the ledger
alone, changes only registries and the audit log, resolves an open case,
holds one payment, or produces one block of one transaction.
`step_transition` is what it says about payments and blocks alone.
Invariants over runs are proved from these five cases and never unfold an
operation.
-/
import KaniNetwork.Ledger.InMemoryTheorems
import KaniNetwork.Node.Memory

namespace KaniNetwork

open InMemoryLedger

namespace Transaction

@[simp] theorem withRequestMetadata_id (tx : Transaction) (key : Option String) (fp : String) :
    (tx.withRequestMetadata key fp).id = tx.id := by
  cases key <;> rfl

@[simp] theorem withRequestMetadata_kind (tx : Transaction) (key : Option String)
    (fp : String) : (tx.withRequestMetadata key fp).kind = tx.kind := by
  cases key <;> rfl

theorem clientReferenceIdFrom_withRequestMetadata (tx : Transaction) (k fp : String) :
    clientReferenceIdFrom (tx.withRequestMetadata (some k) fp) = some k := by
  simp [clientReferenceIdFrom, withRequestMetadata, BTreeMap.get_insert]

theorem requestFingerprintFrom_withRequestMetadata (tx : Transaction) (k fp : String) :
    requestFingerprintFrom (tx.withRequestMetadata (some k) fp) = some fp := by
  simp [requestFingerprintFrom, withRequestMetadata, BTreeMap.get_insert]

/-- A new transaction carries the key it was tagged with, and no other. -/
theorem clientReferenceIdFrom_tagged {s : Stamp} {kind : TransactionKind} {f t a : String}
    {amount nonce : Int} {key : Option String} {fp k : String}
    (h : clientReferenceIdFrom ((Transaction.new s kind f t a amount nonce).withRequestMetadata
      key fp) = some k) : key = some k := by
  cases key with
  | none => cases h
  | some k' =>
    rw [clientReferenceIdFrom_withRequestMetadata] at h
    exact h

end Transaction

/-- The transaction id a call draws, when it creates a transaction. -/
def NodeOp.drawnId : NodeOp → Option String
  | .submitPayment d .. => some (d.sub 0).stamp.id
  | .holdPaymentForReview d .. => some (d.sub 0).stamp.id
  | .mintSandbox d .. => some (d.sub 0).stamp.id
  | .burnSandbox d .. => some (d.sub 0).stamp.id
  | _ => none

/-- The case id a call draws, when it opens a case. -/
def NodeOp.drawnCaseId : NodeOp → Option String
  | .holdPaymentForReview d .. => some (d.sub 2).stamp.id
  | _ => none

/-- The audit events a call is asked to record. -/
def NodeOp.recordedEvents : NodeOp → List AuditEvent
  | .recordAuditEvent event => [event]
  | _ => []

/-- What the case `c` and its payment `p` become when the case is resolved. -/
inductive Resolution (c : ComplianceCase) (p : PaymentRecord) :
    ComplianceCase → PaymentRecord → Prop
  | approved (now now' : DateTime) (reviewer reason : Option String) :
      Resolution c p (c.approved now reviewer reason) (p.markPending now')
  | rejected (now now' : DateTime) (reviewer reason : Option String) (failureReason : String) :
      Resolution c p (c.rejected now reviewer reason) (p.markRejected now' failureReason)

namespace Resolution

variable {c c' : ComplianceCase} {p p' : PaymentRecord}

theorem transaction (h : Resolution c p c' p') : p'.transaction = p.transaction := by
  cases h <;> rfl

theorem key (h : Resolution c p c' p') : p'.clientReferenceId = p.clientReferenceId := by
  cases h <;> rfl

theorem fingerprint (h : Resolution c p c' p') : p'.requestFingerprint = p.requestFingerprint := by
  cases h <;> rfl

theorem case_id (h : Resolution c p c' p') : c'.id = c.id := by
  cases h <;> rfl

theorem case_payment (h : Resolution c p c' p') : c'.paymentId = c.paymentId := by
  cases h <;> rfl

end Resolution

namespace KaniNode

/-- A block of the one transaction `tx`, verified and applied. -/
structure Produced (n : KaniNode) (l : InMemoryLedger) (tx : Transaction) (l' : InMemoryLedger)
    (payment : PaymentRecord) : Prop where
  block : ∃ block d records, Verified n.host n.consensus n.cryptoProfile block ∧
    block.txs = [tx] ∧ Applied n.host.arith d l block l' records ∧ records.head? = some payment

theorem produceAndApplyLocked_eq_ok {n : KaniNode} {d : Draws} {tx : Transaction}
    {l l' : InMemoryLedger} {payment : PaymentRecord}
    (h : n.produceAndApplyLocked d [tx] l = (l', .ok payment)) : n.Produced l tx l' payment := by
  simp only [produceAndApplyLocked, List.isEmpty_cons, Bool.false_eq_true, if_false,
    Method.get_bind, Method.bind_eq_ok_iff, Method.ofExcept_eq_ok_iff] at h
  obtain ⟨_, block, ⟨rfl, hbuild⟩, _, _, ⟨rfl, hverify⟩, h⟩ := h
  obtain ⟨hverified, _, _, _, htxs⟩ := buildBlock_eq_ok hbuild
  rcases happ : applyBlock n.host.arith (d.sub 2) block l with ⟨working, r⟩
  rw [happ] at h
  cases r with
  | error e => cases h
  | ok records =>
    cases records with
    | nil => cases h
    | cons record rest =>
      cases h
      exact ⟨block, _, _, hverified, htxs, applyBlock_eq_ok happ, rfl⟩

/-- A failed production leaves the ledger as it was. -/
theorem produceAndApplyLocked_commits (n : KaniNode) (d : Draws) (tx : Transaction) :
    (n.produceAndApplyLocked d [tx]).Commits := by
  intro l l' e h
  simp only [produceAndApplyLocked, List.isEmpty_cons, Bool.false_eq_true, if_false,
    Method.get_bind] at h
  cases hbuild : buildBlock n.host n.consensus n.cryptoProfile (d.sub 0) l [tx] with
  | error e' =>
    rw [hbuild] at h
    cases h
    rfl
  | ok block =>
    obtain ⟨_, _, _, _, htxs⟩ := buildBlock_eq_ok hbuild
    rw [hbuild, Method.ofExcept_ok_bind] at h
    cases hverify : verifyPhase1Block n.host n.consensus n.cryptoProfile (d.sub 1) l block with
    | error e' =>
      rw [hverify] at h
      cases h
      rfl
    | ok u =>
      rw [hverify, Method.ofExcept_ok_bind] at h
      rcases happ : applyBlock n.host.arith (d.sub 2) block l with ⟨working, r⟩
      rw [happ] at h
      cases r with
      | error e' =>
        cases h
        rfl
      | ok records =>
        -- an applied block of one transaction has one record
        have hrecords := (applyBlock_eq_ok happ).records_eq
        rw [htxs] at hrecords
        rw [hrecords] at h
        cases h

/-- What a call did to the payments, the cases, the blocks and the audit
log. -/
inductive Effect (n : KaniNode) (op : NodeOp) (l : InMemoryLedger) : InMemoryLedger → Prop
  /-- Nothing: the call failed, or was a retry. -/
  | unchanged : Effect n op l l
  /-- It wrote a registry or the audit log. -/
  | admin (l' : InMemoryLedger) (hpayments : l'.payments = l.payments)
      (hcases : l'.complianceCases = l.complianceCases) (hblocks : l'.blocks = l.blocks)
      (hevents : l'.auditEvents = l.auditEvents ++ op.recordedEvents) : Effect n op l l'
  /-- It resolved an open case and wrote the status of its payment. -/
  | resolved (id : String) (c c' : ComplianceCase) (p p' : PaymentRecord)
      (hc : l.complianceCases.lookup id = some c) (hopen : c.status.isTerminal = false)
      (hp : l.payments.lookup c.paymentId = some p) (hres : Resolution c p c' p') :
      Effect n op l (l.filePaymentAndCase p' c')
  /-- It held a new payment and opened its case. -/
  | held (p : PaymentRecord) (c : ComplianceCase)
      (hid : op.drawnId = some p.transaction.id) (hcaseId : op.drawnCaseId = some c.id)
      (hnew : ∀ k, p.clientReferenceId = some k → l.getPaymentByClientReferenceId k = none)
      (hheld : p.status = .held) (hopened : c.status = .opened)
      (hpayment : c.paymentId = p.transaction.id) : Effect n op l (l.filePaymentAndCase p c)
  /-- It produced a block of one new transaction. -/
  | produced (tx : Transaction) (l' : InMemoryLedger) (p : PaymentRecord)
      (hid : op.drawnId = some tx.id)
      (hnew : ∀ k, clientReferenceIdFrom tx = some k → l.getPaymentByClientReferenceId k = none)
      (hblock : n.Produced l tx l' p) : Effect n op l l'

/-- What a call did to the payments and the blocks. -/
inductive Transition (n : KaniNode) (op : NodeOp) (l : InMemoryLedger) : InMemoryLedger → Prop
  /-- Nothing: the call failed, or was a retry. -/
  | unchanged : Transition n op l l
  /-- It wrote a registry or the audit log. -/
  | admin (l' : InMemoryLedger) (hpayments : l'.payments = l.payments)
      (hblocks : l'.blocks = l.blocks) : Transition n op l l'
  /-- It resolved a case and wrote the status of its payment. -/
  | resolved (c : ComplianceCase) (p p' : PaymentRecord) (c' : ComplianceCase)
      (hp : l.payments.lookup c.paymentId = some p) (htx : p'.transaction = p.transaction)
      (hkey : p'.clientReferenceId = p.clientReferenceId)
      (hfp : p'.requestFingerprint = p.requestFingerprint) :
      Transition n op l (l.filePaymentAndCase p' c')
  /-- It held a new payment. -/
  | held (p : PaymentRecord) (c : ComplianceCase)
      (hid : op.drawnId = some p.transaction.id)
      (hnew : ∀ k, p.clientReferenceId = some k → l.getPaymentByClientReferenceId k = none) :
      Transition n op l (l.filePaymentAndCase p c)
  /-- It produced a block of one new transaction. -/
  | produced (tx : Transaction) (l' : InMemoryLedger) (p : PaymentRecord)
      (hid : op.drawnId = some tx.id)
      (hnew : ∀ k, clientReferenceIdFrom tx = some k → l.getPaymentByClientReferenceId k = none)
      (hblock : n.Produced l tx l' p) : Transition n op l l'

theorem findRetried_eq_some {l : InMemoryLedger} {key : Option String} {k : String}
    {p : PaymentRecord} (h : findRetried l key = some (k, p)) :
    key = some k ∧ l.getPaymentByClientReferenceId k = some p := by
  cases key with
  | none => cases h
  | some k' =>
    obtain ⟨p', hp', heq⟩ := Option.map_eq_some_iff.mp h
    cases heq
    exact ⟨rfl, hp'⟩

theorem findRetried_eq_none {l : InMemoryLedger} {key : Option String}
    (h : findRetried l key = none) {k : String} (hk : key = some k) :
    l.getPaymentByClientReferenceId k = none := by
  subst hk
  exact Option.map_eq_none_iff.mp h

/-- A submission that succeeds either finds the stored payment of its key,
which matches it, or produces the block of its transaction. -/
theorem submitPayment_eq_ok {n : KaniNode} {d : Draws} {f t a : String} {amount : Int}
    {key : Option String} {l l' : InMemoryLedger} {p : PaymentRecord}
    (h : n.submitPayment d f t a amount key l = (l', .ok p)) :
    (∃ k, key = some k ∧ l.getPaymentByClientReferenceId k = some p ∧
      (IdempotencyAttempt.mk .transfer f t a amount
        (n.requestFingerprint .transfer f t a amount) k).matches p = true ∧ l' = l) ∨
    (findRetried l key = none ∧ ∃ nonce,
      n.Produced l ((Transaction.newTransfer (d.sub 0).stamp f t a amount nonce).withRequestMetadata
        key (n.requestFingerprint .transfer f t a amount)) l' p) := by
  simp only [submitPayment, Method.get_bind] at h
  cases hfind : findRetried l key with
  | some kp =>
    obtain ⟨k, payment⟩ := kp
    obtain ⟨hkey, hget⟩ := findRetried_eq_some hfind
    simp only [hfind, Method.bind_eq_ok_iff, Method.ofExcept_eq_ok_iff, ensureIdempotentRetry] at h
    obtain ⟨_, _, ⟨rfl, hmatch⟩, hret⟩ := h
    split at hmatch
    · rename_i hm
      cases hret
      exact .inl ⟨k, hkey, hget, hm, rfl⟩
    · cases hmatch
  | none =>
    simp only [hfind] at h
    exact .inr ⟨rfl, _, produceAndApplyLocked_eq_ok h⟩

theorem submitPayment_commits (n : KaniNode) (d : Draws) (f t a : String) (amount : Int)
    (key : Option String) : (n.submitPayment d f t a amount key).Commits := by
  refine .get_bind fun l => ?_
  split
  · exact .ofExcept_bind fun _ => .of_ok fun _ => ⟨_, rfl⟩
  · exact n.produceAndApplyLocked_commits _ _

/-- A hold under an unused key files its payment as held, with an open case. -/
theorem holdPaymentForReview_new (n : KaniNode) (d : Draws) (f t a : String) (amount : Int)
    {key : Option String} (caseOpen : ComplianceCaseOpen) {l : InMemoryLedger}
    (hnone : findRetried l key = none) :
    ∃ p c, n.holdPaymentForReview d f t a amount key caseOpen l =
        (l.filePaymentAndCase p c, .ok (p, c)) ∧
      p = ((PaymentRecord.held (d.sub 1).stamp.now
          ((Transaction.newTransfer (d.sub 0).stamp f t a amount (l.nextNonce f)).withRequestMetadata
            key (n.requestFingerprint .transfer f t a amount))
          caseOpen.reason).withClientReferenceId key).withRequestFingerprint
            (some (n.requestFingerprint .transfer f t a amount)) ∧
      c = .opened (d.sub 2).stamp { caseOpen with paymentId := p.transaction.id } := by
  refine ⟨_, _, ?_, rfl, rfl⟩
  simp only [holdPaymentForReview, Method.get_bind, hnone]
  rfl

/-- A hold that succeeds either finds the stored payment of its key, which
matches it, or files its payment as held. -/
theorem holdPaymentForReview_eq_ok {n : KaniNode} {d : Draws} {f t a : String} {amount : Int}
    {key : Option String} {caseOpen : ComplianceCaseOpen} {l l' : InMemoryLedger}
    {r : PaymentRecord × ComplianceCase}
    (h : n.holdPaymentForReview d f t a amount key caseOpen l = (l', .ok r)) :
    (∃ k, key = some k ∧ l.getPaymentByClientReferenceId k = some r.1 ∧
      (IdempotencyAttempt.mk .transfer f t a amount
        (n.requestFingerprint .transfer f t a amount) k).matches r.1 = true ∧ l' = l) ∨
    (findRetried l key = none ∧ l' = l.filePaymentAndCase r.1 r.2 ∧
      r.1.transaction.id = (d.sub 0).stamp.id ∧ r.1.clientReferenceId = key ∧
      r.1.requestFingerprint = some (n.requestFingerprint .transfer f t a amount)) := by
  cases hfind : findRetried l key with
  | some kp =>
    obtain ⟨k, payment⟩ := kp
    obtain ⟨hkey, hget⟩ := findRetried_eq_some hfind
    simp only [holdPaymentForReview, Method.get_bind, hfind, Method.bind_eq_ok_iff,
      Method.ofExcept_eq_ok_iff, ensureIdempotentRetry] at h
    obtain ⟨_, _, ⟨rfl, hmatch⟩, hret⟩ := h
    split at hmatch
    · rename_i hm
      cases hcase : l.sortedComplianceCases.find?
          (fun c => c.paymentId = payment.transaction.id) with
      | none =>
        rw [hcase] at hret
        cases hret
      | some c =>
        rw [hcase] at hret
        cases hret
        exact .inl ⟨k, hkey, hget, hm, rfl⟩
    · cases hmatch
  | none =>
    obtain ⟨p, c, hrun, hp, -⟩ := n.holdPaymentForReview_new d f t a amount caseOpen hfind
    rw [hrun] at h
    cases h
    subst hp
    exact .inr ⟨rfl, rfl, Transaction.withRequestMetadata_id _ _ _, rfl, rfl⟩

theorem holdPaymentForReview_commits (n : KaniNode) (d : Draws) (f t a : String) (amount : Int)
    (key : Option String) (caseOpen : ComplianceCaseOpen) :
    (n.holdPaymentForReview d f t a amount key caseOpen).Commits := by
  refine .get_bind fun l => ?_
  split
  · refine .ofExcept_bind fun _ => ?_
    split
    · exact .of_ok fun _ => ⟨_, rfl⟩
    · exact .throw _
  · exact .of_ok fun _ => ⟨_, rfl⟩

/-- A hold under a used key leaves the ledger as it is. -/
theorem holdPaymentForReview_retried (n : KaniNode) (d : Draws) (f t a : String) (amount : Int)
    {key : Option String} (caseOpen : ComplianceCaseOpen) {l : InMemoryLedger}
    {kp : String × PaymentRecord} (hfind : findRetried l key = some kp) :
    (n.holdPaymentForReview d f t a amount key caseOpen l).1 = l := by
  have hcommits := n.holdPaymentForReview_commits d f t a amount key caseOpen
  rcases hrun : n.holdPaymentForReview d f t a amount key caseOpen l with ⟨l', r⟩
  cases r with
  | error e => exact hcommits l l' e hrun
  | ok r =>
    rcases holdPaymentForReview_eq_ok hrun with ⟨_, _, _, _, rfl⟩ | ⟨hnone, _⟩
    · rfl
    · rw [hfind] at hnone
      cases hnone

theorem mintSandbox_eq_ok {n : KaniNode} {d : Draws} {treasury t a : String} {amount : Int}
    {l l' : InMemoryLedger} {p : PaymentRecord}
    (h : n.mintSandbox d treasury t a amount l = (l', .ok p)) :
    ∃ nonce, n.Produced l (.newMint (d.sub 0).stamp treasury t a amount nonce) l' p := by
  simp only [mintSandbox, Method.get_bind] at h
  exact ⟨_, produceAndApplyLocked_eq_ok h⟩

theorem mintSandbox_commits (n : KaniNode) (d : Draws) (treasury t a : String) (amount : Int) :
    (n.mintSandbox d treasury t a amount).Commits :=
  .get_bind fun _ => n.produceAndApplyLocked_commits _ _

theorem burnSandbox_eq_ok {n : KaniNode} {d : Draws} {f treasury a : String} {amount : Int}
    {l l' : InMemoryLedger} {p : PaymentRecord}
    (h : n.burnSandbox d f treasury a amount l = (l', .ok p)) :
    ∃ nonce, n.Produced l (.newBurn (d.sub 0).stamp f treasury a amount nonce) l' p := by
  simp only [burnSandbox, Method.get_bind] at h
  exact ⟨_, produceAndApplyLocked_eq_ok h⟩

/-- An effect of the calls that succeed is one of all calls, if a failed
call changes nothing. -/
theorem Effect.of_commits {n : KaniNode} {op : NodeOp} {l : InMemoryLedger} {ε α : Type}
    {m : Method InMemoryLedger ε α} (hm : m.Commits)
    (hok : ∀ l' a, m l = (l', .ok a) → n.Effect op l l') : n.Effect op l (m l).1 :=
  hm.preserves .unchanged hok

/-- **Every call has one of the five effects.** -/
theorem step_effect (n : KaniNode) (l : InMemoryLedger) (op : NodeOp) :
    n.Effect op l (n.step l op) := by
  cases op with
  | submitPayment d f t a amount key =>
    refine .of_commits (n.submitPayment_commits d f t a amount key) fun l' p hok => ?_
    rcases submitPayment_eq_ok hok with ⟨_, _, _, _, rfl⟩ | ⟨hnone, nonce, hblock⟩
    · exact .unchanged
    · refine .produced _ l' p ?_ (fun k hk => ?_) hblock
      · rw [Transaction.withRequestMetadata_id]
        rfl
      · exact findRetried_eq_none hnone (Transaction.clientReferenceIdFrom_tagged hk)
  | holdPaymentForReview d f t a amount key caseOpen =>
    show n.Effect _ l (n.holdPaymentForReview d f t a amount key caseOpen l).1
    cases hfind : findRetried l key with
    | some kp =>
      rw [n.holdPaymentForReview_retried d f t a amount caseOpen hfind]
      exact .unchanged
    | none =>
      obtain ⟨p, c, hrun, hp, hc⟩ := n.holdPaymentForReview_new d f t a amount caseOpen hfind
      rw [hrun]
      subst hc hp
      refine .held _ _ ?_ rfl (fun k hk => findRetried_eq_none hfind hk) rfl rfl rfl
      show some (d.sub 0).stamp.id = some (Transaction.withRequestMetadata _ key _).id
      rw [Transaction.withRequestMetadata_id]
      rfl
  | mintSandbox d treasury t a amount =>
    refine .of_commits (n.mintSandbox_commits d treasury t a amount) fun l' p hok => ?_
    obtain ⟨nonce, hblock⟩ := mintSandbox_eq_ok hok
    exact .produced _ l' p rfl (fun k hk => by cases hk) hblock
  | burnSandbox d f treasury a amount =>
    refine .of_commits (.get_bind fun _ => n.produceAndApplyLocked_commits _ _) fun l' p hok => ?_
    obtain ⟨nonce, hblock⟩ := burnSandbox_eq_ok hok
    exact .produced _ l' p rfl (fun k hk => by cases hk) hblock
  | approveComplianceCase d id reviewer reason =>
    refine .of_commits (approveComplianceCase_commits d id reviewer reason) fun l' r hok => ?_
    obtain ⟨c, p, hc, hopen, hp, rfl, rfl⟩ := approveComplianceCase_eq_ok hok
    exact .resolved id c _ p _ hc hopen hp (.approved _ _ _ _)
  | rejectComplianceCase d id reviewer reason =>
    refine .of_commits (rejectComplianceCase_commits d id reviewer reason) fun l' r hok => ?_
    obtain ⟨c, p, hc, hopen, hp, rfl, rfl⟩ := rejectComplianceCase_eq_ok hok
    exact .resolved id c _ p _ hc hopen hp (.rejected _ _ _ _ _)
  | upsertInstitution institution => exact .admin _ rfl rfl rfl (List.append_nil _).symm
  | suspendInstitution now id =>
    refine .of_commits (suspendInstitution_commits now id) fun l' _ hok => ?_
    obtain ⟨_, _, _, rfl⟩ := suspendInstitution_eq_ok hok
    exact .admin _ rfl rfl rfl (List.append_nil _).symm
  | addInstitutionCredential credential =>
    refine .of_commits (addInstitutionCredential_commits credential) fun l' _ hok => ?_
    obtain ⟨_, _, rfl⟩ := addInstitutionCredential_eq_ok hok
    exact .admin _ rfl rfl rfl (List.append_nil _).symm
  | upsertInstitutionLimit limit =>
    refine .of_commits (upsertInstitutionLimit_commits limit) fun l' _ hok => ?_
    obtain ⟨_, _, rfl⟩ := upsertInstitutionLimit_eq_ok hok
    exact .admin _ rfl rfl rfl (List.append_nil _).symm
  | recordAuditEvent event => exact .admin _ rfl rfl rfl rfl

theorem Effect.transition {n : KaniNode} {op : NodeOp} {l l' : InMemoryLedger}
    (h : n.Effect op l l') : n.Transition op l l' := by
  cases h with
  | unchanged => exact .unchanged
  | admin _ hpayments _ hblocks _ => exact .admin _ hpayments hblocks
  | resolved _ c c' p p' _ _ hp hres =>
    exact .resolved c p p' c' hp hres.transaction hres.key hres.fingerprint
  | held p c hid _ hnew _ _ _ => exact .held p c hid hnew
  | produced tx _ p hid hnew hblock => exact .produced tx _ p hid hnew hblock

/-- Every call is one of the five transitions. -/
theorem step_transition (n : KaniNode) (l : InMemoryLedger) (op : NodeOp) :
    n.Transition op l (n.step l op) :=
  (n.step_effect l op).transition

/-- What every call preserves, a run preserves. -/
theorem run_induct_step {n : KaniNode} {P : InMemoryLedger → Prop}
    (hstep : ∀ l op, P l → P (n.step l op)) {l : InMemoryLedger} (h : P l) (ops : List NodeOp) :
    P (n.run l ops) := by
  induction ops generalizing l with
  | nil => exact h
  | cons op ops ih => exact ih (hstep l op h)

/-- What every transition preserves, a run preserves. -/
theorem run_induct {n : KaniNode} {P : InMemoryLedger → Prop}
    (hstep : ∀ l l' op, n.Transition op l l' → P l → P l') {l : InMemoryLedger} (h : P l)
    (ops : List NodeOp) : P (n.run l ops) :=
  run_induct_step (fun l op => hstep l _ op (n.step_transition l op)) h ops

end KaniNode

end KaniNetwork
