/-
KaniNetwork.Api.Settlement — payments settle only with authority and
clearance (`kani-api` over a node without storage).

`Settles` says that a request put a transfer into a block and was entitled
to: its headers carry a credential of the institution that owns the debited
account, that institution is approved at that moment, and the policy allows
the payment. `Cleared` is the invariant of a run: what is finalized was
settled by a request, what is held is for review, and nothing the policy
rejects is in the ledger. Statuses move to PENDING and REJECTED without any
of these, so the resolution of cases keeps it; that no request finalizes a
payment it did not create is what carries the rest.
-/
import KaniNetwork.Api.Refusals
import KaniNetwork.Node.Idempotency

namespace KaniNetwork

open InMemoryLedger

/-- What a transaction is screened as. -/
def Transaction.compliancePayment (tx : Transaction) : CompliancePayment where
  fromAccount := tx.fromAccount
  toAccount := tx.toAccount
  asset := tx.asset
  amount := tx.amount

@[simp] theorem Transaction.compliancePayment_withRequestMetadata (tx : Transaction)
    (key : Option String) (fp : String) :
    (tx.withRequestMetadata key fp).compliancePayment = tx.compliancePayment := by
  cases key <;> rfl

namespace AppState

variable (state : AppState)

/-- The request, served on `l`, asks for the transfer, may have it, and puts
it into a block of its own. -/
structure Settles (l : InMemoryLedger) (x : Exchange) (tx : Transaction) : Prop where
  created : ∃ block, (state.serve l x).1.blocks = l.blocks ++ [block] ∧ block.txs = [tx]
  asked : state.AsksFor x.request tx.compliancePayment
  owner : state.Controls l x.headers tx.fromAccount
  allowed : state.decision tx.compliancePayment = .allow

/-- What the record of a payment may be, where `S` are the settled
transfers. -/
structure RecordCleared (S : Transaction → Prop) (p : PaymentRecord) : Prop where
  finalized : p.transaction.kind = .transfer → p.status = .finalized → S p.transaction
  held : p.status = .held → state.decision p.transaction.compliancePayment = .review
  screened : p.transaction.kind = .transfer →
    state.decision p.transaction.compliancePayment ≠ .reject

structure Cleared (S : Transaction → Prop) (l : InMemoryLedger) : Prop where
  record : ∀ id p, l.payments.lookup id = some p → state.RecordCleared S p
  block : ∀ block ∈ l.blocks, ∀ tx ∈ block.txs, tx.kind = .transfer → S tx

section

variable {state} {S S' : Transaction → Prop} {l l' : InMemoryLedger}

theorem RecordCleared.mono {p : PaymentRecord} (h : state.RecordCleared S p)
    (hS : ∀ tx, S tx → S' tx) : state.RecordCleared S' p where
  finalized hkind hstatus := hS _ (h.finalized hkind hstatus)
  held := h.held
  screened := h.screened

theorem Cleared.mono (h : state.Cleared S l) (hS : ∀ tx, S tx → S' tx) : state.Cleared S' l where
  record id p hp := (h.record id p hp).mono hS
  block block hblock tx htx hkind := hS tx (h.block block hblock tx htx hkind)

theorem Cleared.of_same (h : state.Cleared S l) (hpayments : l'.payments = l.payments)
    (hblocks : l'.blocks = l.blocks) : state.Cleared S l' where
  record id p hp := h.record id p (hpayments ▸ hp)
  block block hblock := h.block block (hblocks ▸ hblock)

theorem Cleared.of_audited (h : state.Cleared S l) (hl' : Audited l l') : state.Cleared S l' := by
  obtain ⟨events, rfl⟩ := hl'
  exact h.of_same rfl rfl

theorem Cleared.file (h : state.Cleared S l) {p : PaymentRecord} (c : ComplianceCase)
    (hp : state.RecordCleared S p) : state.Cleared S (l.filePaymentAndCase p c) where
  record := HashMap.forall_lookup_insert h.record hp
  block := h.block

/-- A resolved payment is neither finalized nor held. -/
theorem RecordCleared.resolved {p p' : PaymentRecord} {c c' : ComplianceCase}
    (h : state.RecordCleared S p) (hres : Resolution c p c' p') : state.RecordCleared S p' := by
  have htx := hres.transaction
  have hstatus : p'.status = .pending ∨ p'.status = .rejected := by
    cases hres with
    | approved => exact .inl rfl
    | rejected => exact .inr rfl
  refine ⟨fun _ hfinal => ?_, fun hheld => ?_, ?_⟩
  · rw [hfinal] at hstatus
    simp at hstatus
  · rw [hheld] at hstatus
    simp at hstatus
  · rw [htx]
    exact h.screened

/-- A produced block adds its transaction, finalized. -/
theorem Cleared.produced {n : KaniNode} {tx : Transaction} {p : PaymentRecord}
    (h : state.Cleared S l) (hblock : n.Produced l tx l' p)
    (htx : tx.kind = .transfer → S tx ∧ state.decision tx.compliancePayment ≠ .reject) :
    state.Cleared S l' := by
  obtain ⟨⟨now, height, hash, rfl⟩, hpayments⟩ := hblock.payments
  obtain ⟨block, _, _, _, htxs, happlied, _⟩ := hblock.block
  constructor
  · rw [hpayments]
    refine HashMap.forall_lookup_insert h.record
      ⟨fun hkind _ => (htx hkind).1, ?_, fun hkind => (htx hkind).2⟩
    intro hheld
    cases hheld
  · rw [happlied.blocks_eq]
    intro block' hmem tx' htx' hkind
    rcases List.mem_append.mp hmem with hold | hnew
    · exact h.block block' hold tx' htx' hkind
    · rw [List.mem_singleton.mp hnew, htxs, List.mem_singleton] at htx'
      subst htx'
      exact (htx hkind).1

/-! ## One call of the node -/

/-- A call that draws no transaction id settles and holds nothing. -/
theorem Cleared.step_undrawn {n : KaniNode} {op : NodeOp} (h : state.Cleared S l)
    (hop : op.drawnId = none) : state.Cleared S (n.step l op) := by
  have he := n.step_effect l op
  generalize n.step l op = l' at he ⊢
  cases he with
  | unchanged => exact h
  | admin _ hpayments _ hblocks _ => exact h.of_same hpayments hblocks
  | resolved _ c c' p p' _ _ hp hres => exact h.file c' ((h.record _ p hp).resolved hres)
  | held _ _ hid =>
    rw [hop] at hid
    cases hid
  | produced _ _ _ hid =>
    rw [hop] at hid
    cases hid

theorem Cleared.step_mint {n : KaniNode} {d : Draws} {treasury t a : String} {amount : Int}
    (h : state.Cleared S l) :
    state.Cleared S (n.step l (.mintSandbox d treasury t a amount)) := by
  refine (n.mintSandbox_commits d treasury t a amount).preserves h fun l' p hok => ?_
  obtain ⟨nonce, hblock⟩ := KaniNode.mintSandbox_eq_ok hok
  exact h.produced hblock fun hkind => by cases hkind

/-- A hold files its payment as held; a retry of one changes nothing. -/
theorem Cleared.step_hold {n : KaniNode} {d : Draws} {f t a : String} {amount : Int}
    {key : Option String} {caseOpen : ComplianceCaseOpen} (h : state.Cleared S l)
    (hreview : state.decision ⟨f, t, a, amount⟩ = .review) :
    state.Cleared S (n.step l (.holdPaymentForReview d f t a amount key caseOpen)) := by
  show state.Cleared S (n.holdPaymentForReview d f t a amount key caseOpen l).1
  cases hfind : KaniNode.findRetried l key with
  | some kp =>
    rw [n.holdPaymentForReview_retried d f t a amount caseOpen hfind]
    exact h
  | none =>
    obtain ⟨p, c, hrun, rfl, -⟩ := n.holdPaymentForReview_new d f t a amount caseOpen hfind
    rw [hrun]
    have hdecision : ∀ fp nonce, state.decision ((Transaction.newTransfer (d.sub 0).stamp f t a amount
        nonce).withRequestMetadata key fp).compliancePayment = .review := by
      intro fp nonce
      rw [Transaction.compliancePayment_withRequestMetadata]
      exact hreview
    refine h.file c ⟨fun _ hfinal => (by cases hfinal), fun _ => hdecision _ _, fun _ hreject => ?_⟩
    rw [PaymentRecord.withRequestFingerprint, PaymentRecord.withClientReferenceId] at hreject
    have := (hdecision _ _).symm.trans hreject
    cases this

/-- A submission settles the transfer it asks for; a retry of one changes
nothing. -/
theorem Cleared.step_submit {n : KaniNode} {d : Draws} {f t a : String} {amount : Int}
    {key : Option String} (h : state.Cleared S l)
    (hallow : state.decision ⟨f, t, a, amount⟩ = .allow)
    (hsettles : ∀ tx, tx.compliancePayment = ⟨f, t, a, amount⟩ →
      (∃ block, (n.step l (.submitPayment d f t a amount key)).blocks = l.blocks ++ [block] ∧
        block.txs = [tx]) → S tx) :
    state.Cleared S (n.step l (.submitPayment d f t a amount key)) := by
  refine (n.submitPayment_commits d f t a amount key).preserves h fun l' p hok => ?_
  rcases KaniNode.submitPayment_eq_ok hok with ⟨_, _, _, _, rfl⟩ | ⟨_, nonce, hblock⟩
  · exact h
  refine h.produced hblock fun _ => ⟨hsettles _ ?_ ?_, ?_⟩
  · exact Transaction.compliancePayment_withRequestMetadata _ _ _
  · obtain ⟨block, _, _, _, htxs, happlied, _⟩ := hblock.block
    refine ⟨block, ?_, htxs⟩
    show (n.submitPayment d f t a amount key l).1.blocks = _
    rw [hok]
    exact happlied.blocks_eq
  · rw [Transaction.compliancePayment_withRequestMetadata]
    intro hreject
    have := hallow.symm.trans hreject
    cases this

/-! ## One request -/

/-- **A request keeps the ledger cleared**; the only transfer it can settle
is its own. -/
theorem Cleared.serve (h : state.Cleared S l) (x : Exchange) :
    state.Cleared (fun tx => S tx ∨ state.Settles l x tx) (state.serve l x).1 := by
  rcases hserve : state.serve l x with ⟨l', response⟩
  rcases state.serve_cases l x hserve with ⟨_, hserved⟩ | ⟨error, _, hfailed⟩
  · cases hserved with
    | answered _ _ hl' => exact (h.of_audited hl').mono fun _ => .inl
    | acted op l₁ _ _ hop hl₁ hl' =>
      refine Cleared.of_audited ?_ hl'
      have h₁ : state.Cleared (fun tx => S tx ∨ state.Settles l x tx) l₁ :=
        (h.of_audited hl₁).mono fun _ => .inl
      cases op with
      | submitPayment d f t a amount key =>
        obtain ⟨hasked, howner, hallow⟩ := hop
        refine h₁.step_submit hallow fun tx htx hblock => .inr ?_
        have hfrom : tx.fromAccount = f := congrArg CompliancePayment.fromAccount htx
        refine ⟨?_, htx ▸ hasked, hfrom ▸ howner, htx ▸ hallow⟩
        obtain ⟨_, rfl⟩ := hl₁
        obtain ⟨_, hlast⟩ := hl'
        rw [hserve, hlast]
        exact hblock
      | holdPaymentForReview d f t a amount key caseOpen => exact h₁.step_hold hop.2.2
      | mintSandbox d treasury t a amount => exact h₁.step_mint
      | burnSandbox => exact hop.elim
      | approveComplianceCase | rejectComplianceCase | upsertInstitution | suspendInstitution
      | addInstitutionCredential | upsertInstitutionLimit | recordAuditEvent =>
        exact h₁.step_undrawn rfl
  · exact (h.of_audited hfailed.audited).mono fun _ => .inl

end

/-! ## Runs -/

theorem run_append (l : InMemoryLedger) (xs : List Exchange) (x : Exchange) :
    state.run l (xs ++ [x]) = (state.serve (state.run l xs) x).1 := by
  simp only [run, List.foldl_append, List.foldl_cons, List.foldl_nil]

/-- A request of the run settled the transfer, on the ledger it found. -/
def SettledIn (l : InMemoryLedger) (xs : List Exchange) (tx : Transaction) : Prop :=
  ∃ before x after, xs = before ++ x :: after ∧ state.Settles (state.run l before) x tx

theorem cleared_run (d₀ : Draws) (xs : List Exchange) :
    state.Cleared (state.SettledIn (sandbox d₀) xs) (state.run (sandbox d₀) xs) := by
  induction xs using List.reverseRecOn with
  | nil =>
    constructor
    · intro id p hp
      rw [run, List.foldl_nil, sandbox_payments, AList.lookup_empty] at hp
      cases hp
    · intro block hblock
      rw [run, List.foldl_nil, sandbox_blocks] at hblock
      cases hblock
  | append_singleton xs x ih =>
    rw [run_append]
    refine (ih.serve x).mono fun tx htx => ?_
    rcases htx with ⟨before, y, after, rfl, hsettles⟩ | hsettles
    · exact ⟨before, y, after ++ [x], by simp, hsettles⟩
    · exact ⟨xs, x, [], rfl, hsettles⟩

/-- **Payments settle only with authority and clearance.** After any
sequence of requests to a node that starts as the sandbox, every finalized
transfer and every transfer in a block was settled by one of them, every
held payment is one the policy wants reviewed, and there is no transfer the
policy rejects. -/
theorem settled_with_authority (d₀ : Draws) (xs : List Exchange) :
    let l := state.run (sandbox d₀) xs
    (∀ p ∈ l.payments.values, p.transaction.kind = .transfer → p.status = .finalized →
      state.SettledIn (sandbox d₀) xs p.transaction) ∧
    (∀ block ∈ l.blocks, ∀ tx ∈ block.txs, tx.kind = .transfer →
      state.SettledIn (sandbox d₀) xs tx) ∧
    (∀ p ∈ l.payments.values, p.status = .held →
      state.decision p.transaction.compliancePayment = .review) ∧
    ∀ p ∈ l.payments.values, p.transaction.kind = .transfer →
      state.decision p.transaction.compliancePayment ≠ .reject := by
  intro l
  have h : state.Cleared (state.SettledIn (sandbox d₀) xs) l := state.cleared_run d₀ xs
  have hrecord : ∀ p ∈ l.payments.values, state.RecordCleared (state.SettledIn (sandbox d₀) xs) p := by
    intro p hp
    obtain ⟨id, hid⟩ := HashMap.mem_values.mp hp
    exact h.record id p hid
  exact ⟨fun p hp => (hrecord p hp).finalized, h.block, fun p hp => (hrecord p hp).held,
    fun p hp => (hrecord p hp).screened⟩

end AppState

def exampleHeaders (institutionId apiKey : String) : HeaderMap :=
  [(INSTITUTION_ID_HEADER, utf8Bytes institutionId), (API_KEY_HEADER, utf8Bytes apiKey)]

/-- An application with the policy of the sandbox and three credentials. -/
def exampleState : AppState where
  libraries := ⟨fun _ => .error "", fun _ => none, fun _ => "", fun _ => ""⟩
  node := exampleNode
  auth := .newWithAdmins [(SANDBOX_TREASURY_INSTITUTION, "treasury-key"),
    (SANDBOX_CORP_A_INSTITUTION, "corp-a-key")] [(SANDBOX_NETWORK_INSTITUTION, "admin-key")]
  compliancePolicy := .sandboxDefault

/-- A mint, a payment, a payment above the limit and one under a wrong
key. -/
def exampleRequests : List Exchange :=
  let pay (amount : Int) : HttpRequest :=
    .createPayment ⟨SANDBOX_CORP_A_ACCOUNT, SANDBOX_CORP_B_ACCOUNT, KCAD_TEST, amount, none, none⟩
  [⟨.numbered "a" 1, exampleHeaders SANDBOX_TREASURY_INSTITUTION "treasury-key",
      .sandboxMint ⟨SANDBOX_TREASURY_ACCOUNT, SANDBOX_CORP_A_ACCOUNT, KCAD_TEST, 100⟩⟩,
    ⟨.numbered "b" 2, exampleHeaders SANDBOX_CORP_A_INSTITUTION "corp-a-key", pay 60⟩,
    ⟨.numbered "c" 3, exampleHeaders SANDBOX_CORP_A_INSTITUTION "corp-a-key", pay 600000⟩,
    ⟨.numbered "d" 4, exampleHeaders SANDBOX_CORP_A_INSTITUTION "wrong-key", pay 10⟩]

/-- The payment within the limit is settled by its request. -/
theorem settled_with_authority_example :
    ∃ p ∈ (exampleState.run (sandbox (.numbered "s" 0)) exampleRequests).payments.values,
      p.transaction.amount = 60 ∧
        exampleState.SettledIn (sandbox (.numbered "s" 0)) exampleRequests p.transaction := by
  have hpaid : ∃ p ∈ (exampleState.run (sandbox (.numbered "s" 0)) exampleRequests).payments.values,
      p.transaction.amount = 60 ∧ p.transaction.kind = .transfer ∧ p.status = .finalized := by
    decide +kernel
  obtain ⟨p, hp, hamount, hkind, hstatus⟩ := hpaid
  exact ⟨p, hp, hamount,
    (exampleState.settled_with_authority (.numbered "s" 0) exampleRequests).1 p hp hkind hstatus⟩

end KaniNetwork
