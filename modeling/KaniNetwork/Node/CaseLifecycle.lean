/-
KaniNetwork.Node.CaseLifecycle — compliance cases and their payments in
memory mode.

The two maps are linked by `payment_id` alone. `CasesMatch` is what every
call keeps: a case is filed under its id, its payment exists, the statuses
of the two are in one of the three phases of `CasePhase`, and no two cases
share a payment. It needs fresh transaction ids only: a new payment cannot
be the one an old case points to. That every held payment has a case
(`HeldHaveCases`) needs fresh case ids too, since a case filed under a used
id replaces the case there.

The last section follows a payment that left `HELD` by approval: no
operation of the node without storage finalizes it.
-/
import KaniNetwork.Node.Idempotency

namespace KaniNetwork

open InMemoryLedger

/-- The statuses of a case and of its payment go together. -/
inductive CasePhase : ComplianceCaseStatus → TransactionStatus → Prop
  | opened : CasePhase .opened .held
  | approved : CasePhase .approved .pending
  | rejected : CasePhase .rejected .rejected

namespace CasePhase

variable {cs : ComplianceCaseStatus} {ps : TransactionStatus}

theorem opened_iff (h : CasePhase cs ps) : cs = .opened ↔ ps = .held := by
  cases h <;> simp

theorem terminal_iff (h : CasePhase cs ps) : cs.isTerminal = true ↔ ps ≠ .held := by
  cases h <;> simp [ComplianceCaseStatus.isTerminal]

theorem of_approved (h : CasePhase cs ps) (hcs : cs = .approved) : ps = .pending := by
  cases h <;> simp_all

theorem of_rejected (h : CasePhase cs ps) (hcs : cs = .rejected) : ps = .rejected := by
  cases h <;> simp_all

theorem not_finalized (h : CasePhase cs ps) : ps ≠ .finalized := by
  cases h <;> simp

end CasePhase

/-- Every case has its payment, in the same phase, and for itself. -/
structure CasesMatch (l : InMemoryLedger) : Prop where
  filed : ∀ id c, l.complianceCases.lookup id = some c → c.id = id
  payment : ∀ id c, l.complianceCases.lookup id = some c →
    ∃ p, l.payments.lookup c.paymentId = some p ∧ CasePhase c.status p.status
  unique : ∀ id id' c c', l.complianceCases.lookup id = some c →
    l.complianceCases.lookup id' = some c' → c.paymentId = c'.paymentId → id = id'

/-- Every held payment has a case. -/
def HeldHaveCases (l : InMemoryLedger) : Prop :=
  ∀ id p, l.payments.lookup id = some p → p.status = .held →
    ∃ caseId c, l.complianceCases.lookup caseId = some c ∧ c.paymentId = id

/-! ## One call -/

theorem lookup_payments_file (l : InMemoryLedger) (p : PaymentRecord) (c : ComplianceCase)
    (id : String) : (l.filePaymentAndCase p c).payments.lookup id =
      if id = p.transaction.id then some p else l.payments.lookup id :=
  HashMap.lookup_insert_eq _ _ _ _

theorem lookup_cases_file (l : InMemoryLedger) (p : PaymentRecord) (c : ComplianceCase)
    (id : String) : (l.filePaymentAndCase p c).complianceCases.lookup id =
      if id = c.id then some c else l.complianceCases.lookup id :=
  HashMap.lookup_insert_eq _ _ _ _

/-- A resolved case and its payment are in one phase. -/
theorem Resolution.phase {c c' : ComplianceCase} {p p' : PaymentRecord}
    (h : Resolution c p c' p') : CasePhase c'.status p'.status := by
  cases h with
  | approved => exact .approved
  | rejected => exact .rejected

theorem KaniNode.Produced.complianceCases {n : KaniNode} {l l' : InMemoryLedger}
    {tx : Transaction} {p : PaymentRecord} (h : n.Produced l tx l' p) :
    l'.complianceCases = l.complianceCases := by
  obtain ⟨block, d, records, -, -, happlied, -⟩ := h.block
  exact happlied.cases_eq

/-- The payment of a produced block reads back under its id. -/
theorem KaniNode.Produced.lookup {n : KaniNode} {l l' : InMemoryLedger} {tx : Transaction}
    {p : PaymentRecord} (h : n.Produced l tx l' p) (id : String) :
    l'.payments.lookup id = if id = tx.id then some p else l.payments.lookup id := by
  rw [h.payments.2, HashMap.lookup_insert_eq]

/-- A case and its payment are filed, the case new or in the place of the
only case of the payment. -/
theorem CasesMatch.file {l : InMemoryLedger} (h : CasesMatch l) {p : PaymentRecord}
    {c : ComplianceCase} (hpayment : c.paymentId = p.transaction.id)
    (hphase : CasePhase c.status p.status)
    (honly : ∀ id c₀, l.complianceCases.lookup id = some c₀ → c₀.paymentId = p.transaction.id →
      id = c.id) : CasesMatch (l.filePaymentAndCase p c) := by
  constructor
  · intro id c₁ hc₁
    rw [lookup_cases_file] at hc₁
    split at hc₁
    · rename_i hid
      cases hc₁
      exact hid.symm
    · exact h.filed id c₁ hc₁
  · intro id c₁ hc₁
    rw [lookup_cases_file] at hc₁
    split at hc₁
    · cases hc₁
      exact ⟨p, by rw [lookup_payments_file, if_pos hpayment], hphase⟩
    · rename_i hid
      obtain ⟨p₁, hp₁, hphase₁⟩ := h.payment id c₁ hc₁
      refine ⟨p₁, ?_, hphase₁⟩
      rw [lookup_payments_file, if_neg, hp₁]
      exact fun hsame => hid (honly id c₁ hc₁ hsame)
  · intro id id' c₁ c₂ hc₁ hc₂ hsame
    rw [lookup_cases_file] at hc₁ hc₂
    split at hc₁
    · rename_i hid
      cases hc₁
      split at hc₂
      · rename_i hid'
        exact hid.trans hid'.symm
      · exact hid.trans (honly id' c₂ hc₂ (hsame.symm.trans hpayment)).symm
    · split at hc₂
      · rename_i hid'
        cases hc₂
        exact (honly id c₁ hc₁ (hsame.trans hpayment)).trans hid'.symm
      · exact h.unique id id' c₁ c₂ hc₁ hc₂ hsame

/-- A call with a fresh transaction id keeps the cases matched. -/
theorem casesMatch_effect {n : KaniNode} {op : NodeOp} {l l' : InMemoryLedger}
    (he : n.Effect op l l') (hfresh : op.Fresh l) (hkeyed : Keyed l) (h : CasesMatch l) :
    CasesMatch l' := by
  -- a fresh payment id is not the one of an existing case
  have hapart : ∀ {id c newId}, l.complianceCases.lookup id = some c →
      l.payments.lookup newId = none → c.paymentId ≠ newId := by
    intro id c newId hc hnone heq
    obtain ⟨p, hp, -⟩ := h.payment id c hc
    rw [heq, hnone] at hp
    cases hp
  cases he with
  | unchanged => exact h
  | admin _ hpayments hcases _ _ =>
    constructor
    · rw [hcases]
      exact h.filed
    · rw [hcases, hpayments]
      exact h.payment
    · rw [hcases]
      exact h.unique
  | resolved caseId c c' p p' hc hopen hp hres =>
    have hcaseId : c'.id = caseId := hres.case_id.trans (h.filed caseId c hc)
    have hpaymentId : p'.transaction.id = c.paymentId := by
      rw [hres.transaction, hkeyed.filed _ p hp]
    refine h.file (hres.case_payment.trans hpaymentId.symm) hres.phase ?_
    intro id c₀ hc₀ hsame
    exact (h.unique id caseId c₀ c hc₀ hc (hsame.trans hpaymentId)).trans hcaseId.symm
  | held p c hid hcaseId hnew hheld hopened hpayment =>
    have hphase : CasePhase c.status p.status := by
      rw [hopened, hheld]
      exact .opened
    refine h.file hpayment hphase ?_
    intro id c₀ hc₀ hsame
    exact absurd hsame (hapart hc₀ (hfresh _ hid))
  | produced tx _ p hid hnew hblock =>
    have hcases := hblock.complianceCases
    constructor
    · rw [hcases]
      exact h.filed
    · rw [hcases]
      intro id c hc
      obtain ⟨p₁, hp₁, hphase⟩ := h.payment id c hc
      exact ⟨p₁, by rw [hblock.lookup, if_neg (hapart hc (hfresh _ hid)), hp₁], hphase⟩
    · rw [hcases]
      exact h.unique

/-- The case id a call draws is new to the ledger. -/
def NodeOp.FreshCase (op : NodeOp) (l : InMemoryLedger) : Prop :=
  ∀ id, op.drawnCaseId = some id → l.complianceCases.lookup id = none

/-- A call with fresh ids leaves no held payment without a case. -/
theorem heldHaveCases_effect {n : KaniNode} {op : NodeOp} {l l' : InMemoryLedger}
    (he : n.Effect op l l') (hfresh : op.FreshCase l) (hkeyed : Keyed l) (hmatch : CasesMatch l)
    (h : HeldHaveCases l) : HeldHaveCases l' := by
  cases he with
  | unchanged => exact h
  | admin _ hpayments hcases _ _ =>
    unfold HeldHaveCases
    rw [hpayments, hcases]
    exact h
  | resolved caseId c c' p p' hc hopen hp hres =>
    intro id q hq hheld
    rw [lookup_payments_file] at hq
    split at hq
    · -- the payment of the resolved case is held no longer
      cases hq
      exact absurd hheld (hres.phase.terminal_iff.mp (by cases hres <;> rfl))
    · rename_i hid
      obtain ⟨otherId, c₁, hc₁, hpay⟩ := h id q hq hheld
      refine ⟨otherId, c₁, ?_, hpay⟩
      rw [lookup_cases_file, if_neg, hc₁]
      intro hsame
      rw [hsame, hres.case_id, hmatch.filed caseId c hc, hc] at hc₁
      cases hc₁
      exact hid (by rw [hres.transaction, hkeyed.filed _ p hp, hpay])
  | held p c hid hcaseId hnew hheld hopened hpayment =>
    intro id q hq hq_held
    rw [lookup_payments_file] at hq
    split at hq
    · rename_i heq
      exact ⟨c.id, c, by rw [lookup_cases_file, if_pos rfl], hpayment.trans heq.symm⟩
    · obtain ⟨otherId, c₁, hc₁, hpay⟩ := h id q hq hq_held
      refine ⟨otherId, c₁, ?_, hpay⟩
      rw [lookup_cases_file, if_neg, hc₁]
      intro hsame
      rw [hsame, hfresh _ hcaseId] at hc₁
      cases hc₁
  | produced tx _ p hid hnew hblock =>
    intro id q hq hheld
    rw [hblock.lookup] at hq
    rw [hblock.complianceCases]
    split at hq
    · obtain ⟨⟨now, height, hash, rfl⟩, -⟩ := hblock.payments
      cases hq
      cases hheld
    · exact h id q hq hheld

/-! ## Runs -/

/-- Every call of the run draws a transaction id and a case id that are new
when it runs. -/
def KaniNode.FreshIdsRun (n : KaniNode) : InMemoryLedger → List NodeOp → Prop
  | _, [] => True
  | l, op :: ops => (op.Fresh l ∧ op.FreshCase l) ∧ n.FreshIdsRun (n.step l op) ops

theorem casesMatch_run {n : KaniNode} {l : InMemoryLedger} {ops : List NodeOp} (hkeyed : Keyed l)
    (h : CasesMatch l) (hfresh : n.FreshRun l ops) : CasesMatch (n.run l ops) := by
  induction ops generalizing l with
  | nil => exact h
  | cons op ops ih =>
    obtain ⟨hop, hrest⟩ := hfresh
    exact ih (keyed_transition (n.step_transition l op) hop hkeyed).1
      (casesMatch_effect (n.step_effect l op) hop hkeyed h) hrest

theorem heldHaveCases_run {n : KaniNode} {l : InMemoryLedger} {ops : List NodeOp}
    (hkeyed : Keyed l) (hmatch : CasesMatch l) (h : HeldHaveCases l)
    (hfresh : n.FreshIdsRun l ops) :
    CasesMatch (n.run l ops) ∧ HeldHaveCases (n.run l ops) := by
  induction ops generalizing l with
  | nil => exact ⟨hmatch, h⟩
  | cons op ops ih =>
    obtain ⟨⟨hop, hcase⟩, hrest⟩ := hfresh
    exact ih (keyed_transition (n.step_transition l op) hop hkeyed).1
      (casesMatch_effect (n.step_effect l op) hop hkeyed hmatch)
      (heldHaveCases_effect (n.step_effect l op) hcase hkeyed hmatch h) hrest

theorem casesMatch_sandbox (d : Draws) : CasesMatch (sandbox d) := by
  have hnone : ∀ id c, (sandbox d).complianceCases.lookup id ≠ some c := by
    intro id c hc
    cases hc
  exact ⟨fun id c hc => absurd hc (hnone id c), fun id c hc => absurd hc (hnone id c),
    fun id _ c _ hc => absurd hc (hnone id c)⟩

theorem heldHaveCases_sandbox (d : Draws) : HeldHaveCases (sandbox d) := by
  intro id p hp
  rw [sandbox_payments, AList.lookup_empty] at hp
  cases hp

/-- A terminal case is resolved no further. -/
theorem terminal_refused {l : InMemoryLedger} {id : String} {c : ComplianceCase}
    (hfiled : c.id = id) (hc : l.complianceCases.lookup id = some c)
    (hdone : c.status.isTerminal = true) (d : Draws) (reviewer reason : Option String) :
    approveComplianceCase d id reviewer reason l =
        (l, .error (.terminalComplianceCase id c.status.toDb)) ∧
      rejectComplianceCase d id reviewer reason l =
        (l, .error (.terminalComplianceCase id c.status.toDb)) := by
  have hget : l.getComplianceCase id = .ok c := getComplianceCase_eq_ok_iff.mpr hc
  have hensure : ensureCaseNotTerminal c = .error (.terminalComplianceCase id c.status.toDb) := by
    rw [ensureCaseNotTerminal, if_pos hdone, hfiled]
  constructor
  · simp only [approveComplianceCase, Method.get_bind, hget, Method.ofExcept_ok_bind, hensure,
      Method.ofExcept_error_bind]
  · simp only [rejectComplianceCase, Method.get_bind, hget, Method.ofExcept_ok_bind, hensure,
      Method.ofExcept_error_bind]

/-- **Cases and payments.** In every run from the sandbox whose calls draw
fresh ids: a case has its payment, is open exactly when the payment is
held, an approved one has it pending and a rejected one rejected; a held
payment has exactly one case; and a terminal case is resolved again by no
call, which leaves the ledger as it is. -/
theorem cases_and_payments {n : KaniNode} {d₀ : Draws} {ops : List NodeOp}
    (hfresh : n.FreshIdsRun (sandbox d₀) ops) :
    let l := n.run (sandbox d₀) ops
    (∀ id c, l.complianceCases.lookup id = some c →
      ∃ p, l.payments.lookup c.paymentId = some p ∧ (c.status = .opened ↔ p.status = .held) ∧
        (c.status = .approved → p.status = .pending) ∧
        (c.status = .rejected → p.status = .rejected)) ∧
      (∀ id p, l.payments.lookup id = some p → p.status = .held →
        ∃! caseId, ∃ c, l.complianceCases.lookup caseId = some c ∧ c.paymentId = id) ∧
      ∀ id c, l.complianceCases.lookup id = some c → c.status.isTerminal = true →
        ∀ d reviewer reason,
          approveComplianceCase d id reviewer reason l =
              (l, .error (.terminalComplianceCase id c.status.toDb)) ∧
            rejectComplianceCase d id reviewer reason l =
              (l, .error (.terminalComplianceCase id c.status.toDb)) := by
  intro l
  obtain ⟨hmatch, hheld⟩ : CasesMatch l ∧ HeldHaveCases l :=
    heldHaveCases_run (keyed_sandbox d₀) (casesMatch_sandbox d₀) (heldHaveCases_sandbox d₀) hfresh
  refine ⟨?_, ?_, ?_⟩
  · intro id c hc
    obtain ⟨p, hp, hphase⟩ := hmatch.payment id c hc
    exact ⟨p, hp, hphase.opened_iff, hphase.of_approved, hphase.of_rejected⟩
  · intro id p hp hp_held
    obtain ⟨caseId, c, hc, hpay⟩ := hheld id p hp hp_held
    refine ⟨caseId, ⟨c, hc, hpay⟩, ?_⟩
    rintro otherId ⟨c', hc', hpay'⟩
    exact hmatch.unique otherId caseId c' c hc' hc (hpay'.trans hpay.symm)
  · intro id c hc hdone d reviewer reason
    exact terminal_refused (hmatch.filed id c hc) hc hdone d reviewer reason

/-- A mint, a payment held for review, and its approval. -/
def exampleReviewOps : List NodeOp :=
  [.mintSandbox (.numbered "a" 1) SANDBOX_TREASURY_ACCOUNT SANDBOX_CORP_A_ACCOUNT KCAD_TEST 100,
    .holdPaymentForReview (.numbered "b" 2) SANDBOX_CORP_A_ACCOUNT SANDBOX_CORP_B_ACCOUNT KCAD_TEST
      60 (some "order-1") ⟨"", "v1", "rule", "manual review", SANDBOX_CORP_A_INSTITUTION⟩,
    .approveComplianceCase (.numbered "c" 3) (uuidNamed "b-2") none none]

theorem exampleReviewOps_fresh :
    exampleNode.FreshIdsRun (sandbox (.numbered "s" 0)) exampleReviewOps := by
  refine ⟨⟨?_, ?_⟩, ⟨?_, ?_⟩, ⟨?_, ?_⟩, trivial⟩
  all_goals
    intro id h
    cases h
    try decide +kernel

/-- The reviewed payment is pending, and its case is not approved twice. -/
theorem cases_and_payments_example :
    let l := exampleNode.run (sandbox (.numbered "s" 0)) exampleReviewOps
    (∃ p, l.payments.lookup (uuidNamed "b-0") = some p ∧ p.status = .pending) ∧
      approveComplianceCase (.numbered "d" 4) (uuidNamed "b-2") none none l =
        (l, .error (.terminalComplianceCase (uuidNamed "b-2") "APPROVED")) := by
  intro l
  obtain ⟨hcases, -, hterminal⟩ := cases_and_payments exampleReviewOps_fresh
  have hread : (l.complianceCases.lookup (uuidNamed "b-2")).map (fun c => (c.paymentId, c.status)) =
      some (uuidNamed "b-0", .approved) := by decide +kernel
  obtain ⟨c, hc, hpair⟩ := Option.map_eq_some_iff.mp hread
  obtain ⟨hpayment, hstatus⟩ := Prod.mk.inj hpair
  obtain ⟨p, hp, -, happroved, -⟩ := hcases (uuidNamed "b-2") c hc
  refine ⟨⟨p, hpayment ▸ hp, happroved hstatus⟩, ?_⟩
  have hrefused := (hterminal (uuidNamed "b-2") c hc (by rw [hstatus]; rfl) (.numbered "d" 4)
    none none).1
  rw [hstatus] at hrefused
  exact hrefused

/-! ## Approved payments -/

/-- The payment `p` is pending since its case was approved, and the next
block could contain its transaction. -/
structure ApprovedPending (ar : Arith) (l : InMemoryLedger) (id : String) (p : PaymentRecord) :
    Prop where
  stored : l.payments.lookup id = some p
  pending : p.status = .pending
  approved : ∃ caseId c, l.complianceCases.lookup caseId = some c ∧ c.paymentId = id ∧
    c.status = .approved
  valid : Accepts ar l [p.transaction]

/-- Some call makes the record of `id` a finalized one. -/
def KaniNode.CanFinalize (n : KaniNode) (l : InMemoryLedger) (id : String) : Prop :=
  ∃ op : NodeOp, op.Fresh l ∧
    ∃ p, (n.step l op).payments.lookup id = some p ∧ p.status = .finalized

/-- A record that is not finalized is not finalized by any call: a block is
built of the transaction a call has just created, and a resolution writes
`PENDING` or `REJECTED`. -/
theorem not_finalized_effect {n : KaniNode} {op : NodeOp} {l l' : InMemoryLedger}
    (he : n.Effect op l l') (hfresh : op.Fresh l) {id : String} {p : PaymentRecord}
    (hp : l.payments.lookup id = some p) (hstatus : p.status ≠ .finalized) :
    ∃ p', l'.payments.lookup id = some p' ∧ p'.status ≠ .finalized := by
  cases he with
  | unchanged => exact ⟨p, hp, hstatus⟩
  | admin _ hpayments _ _ _ => exact ⟨p, by rw [hpayments, hp], hstatus⟩
  | resolved _ c c' q q' _ _ _ hres =>
    rw [lookup_payments_file]
    split
    · exact ⟨q', rfl, hres.phase.not_finalized⟩
    · exact ⟨p, hp, hstatus⟩
  | held q c hid _ _ _ _ _ =>
    have hne : id ≠ q.transaction.id := by
      intro hsame
      rw [hsame, hfresh _ hid] at hp
      cases hp
    exact ⟨p, by rw [lookup_payments_file, if_neg hne, hp], hstatus⟩
  | produced tx _ q hid _ hblock =>
    have hne : id ≠ tx.id := by
      intro hsame
      rw [hsame, hfresh _ hid] at hp
      cases hp
    exact ⟨p, by rw [hblock.lookup, if_neg hne, hp], hstatus⟩

theorem not_finalized_run {n : KaniNode} {l : InMemoryLedger} {ops : List NodeOp}
    (hfresh : n.FreshRun l ops) {id : String} {p : PaymentRecord}
    (hp : l.payments.lookup id = some p) (hstatus : p.status ≠ .finalized) :
    ∃ p', (n.run l ops).payments.lookup id = some p' ∧ p'.status ≠ .finalized := by
  induction ops generalizing l p with
  | nil => exact ⟨p, hp, hstatus⟩
  | cons op ops ih =>
    obtain ⟨hop, hrest⟩ := hfresh
    obtain ⟨p', hp', hstatus'⟩ := not_finalized_effect (n.step_effect l op) hop hp hstatus
    exact ih hrest hp' hstatus'

/-- **Approved payments do not settle in memory mode.** Whatever run led to
an approved pending payment with a valid transaction, no call finalizes it,
and no run that follows does. -/
theorem approved_never_finalized {n : KaniNode} {d₀ : Draws} {ops : List NodeOp} {id : String}
    {p : PaymentRecord} (h : ApprovedPending n.host.arith (n.run (sandbox d₀) ops) id p) :
    ¬ n.CanFinalize (n.run (sandbox d₀) ops) id ∧
      ∀ after, n.FreshRun (n.run (sandbox d₀) ops) after →
        ∃ p', (n.run (n.run (sandbox d₀) ops) after).payments.lookup id = some p' ∧
          p'.status ≠ .finalized := by
  have hstatus : p.status ≠ .finalized := by
    rw [h.pending]
    simp
  constructor
  · rintro ⟨op, hop, q, hq, hq_status⟩
    obtain ⟨p', hp', hstatus'⟩ := not_finalized_effect (n.step_effect _ op) hop h.stored hstatus
    rw [hp'] at hq
    cases hq
    exact hstatus' hq_status
  · intro after hafter
    exact not_finalized_run hafter h.stored hstatus

theorem exampleReview_approvedPending :
    ∃ p, ApprovedPending exampleNode.host.arith
      (exampleNode.run (sandbox (.numbered "s" 0)) exampleReviewOps) (uuidNamed "b-0") p := by
  have hpayment : ((exampleNode.run (sandbox (.numbered "s" 0)) exampleReviewOps).payments.lookup
      (uuidNamed "b-0")).any (fun p => p.status = .pending ∧ Accepts exampleNode.host.arith
        (exampleNode.run (sandbox (.numbered "s" 0)) exampleReviewOps) [p.transaction]) = true := by
    decide +kernel
  have hcase : ((exampleNode.run (sandbox (.numbered "s" 0)) exampleReviewOps).complianceCases.lookup
      (uuidNamed "b-2")).any (fun c => c.paymentId = uuidNamed "b-0" ∧ c.status = .approved) = true := by
    decide +kernel
  simp only [Option.any_eq_true, decide_eq_true_eq] at hpayment hcase
  obtain ⟨p, hp, hpending, hvalid⟩ := hpayment
  obtain ⟨c, hc, hpay, hstatus⟩ := hcase
  exact ⟨p, hp, hpending, ⟨uuidNamed "b-2", c, hc, hpay, hstatus⟩, hvalid⟩

/-- The held payment of the example, approved and valid, stays pending for
ever. -/
theorem approved_never_finalized_example :
    ∃ p, ApprovedPending exampleNode.host.arith
        (exampleNode.run (sandbox (.numbered "s" 0)) exampleReviewOps) (uuidNamed "b-0") p ∧
      ¬ exampleNode.CanFinalize (exampleNode.run (sandbox (.numbered "s" 0)) exampleReviewOps)
        (uuidNamed "b-0") := by
  obtain ⟨p, hp⟩ := exampleReview_approvedPending
  exact ⟨p, hp, (approved_never_finalized hp).1⟩

/-- So not every approved payment can settle. -/
theorem not_approved_can_finalize :
    ¬ ∀ (n : KaniNode) (d₀ : Draws) (ops : List NodeOp) (id : String) (p : PaymentRecord),
      ApprovedPending n.host.arith (n.run (sandbox d₀) ops) id p →
        n.CanFinalize (n.run (sandbox d₀) ops) id := by
  intro hall
  obtain ⟨p, hp⟩ := exampleReview_approvedPending
  obtain ⟨op, hop, q, hq, hq_status⟩ := hall _ _ _ _ p hp
  obtain ⟨p', hp', hstatus'⟩ := not_finalized_effect (exampleNode.step_effect _ op) hop hp.stored
    (by rw [hp.pending]; simp)
  rw [hp'] at hq
  cases hq
  exact hstatus' hq_status

end KaniNetwork
