/-
KaniNetwork.Ledger.Operations — runs of the public ledger operations.

A `LedgerOp` is one call of a public method of `InMemoryLedger` that takes
`&mut self`, with its arguments, or a reload of the ledger through its own
snapshot. The methods that only read are no operation: they change
nothing.
-/
import KaniNetwork.Ledger.InMemoryTheorems

namespace KaniNetwork

inductive LedgerOp where
  | upsertAccount (account : Account)
  | upsertInstitution (institution : Institution)
  | suspendInstitution (now : DateTime) (institutionId : String)
  | upsertInstitutionLimit (limit : InstitutionLimit)
  | addInstitutionCredential (credential : InstitutionCredential)
  | recordAuditEvent (event : AuditEvent)
  | holdPaymentForReview (s : Stamp) (payment : PaymentRecord) (caseOpen : ComplianceCaseOpen)
  | approveComplianceCase (d : Draws) (caseId : String) (reviewer reason : Option String)
  | rejectComplianceCase (d : Draws) (caseId : String) (reviewer reason : Option String)
  | applyBlock (d : Draws) (block : Block)
  | reload

namespace InMemoryLedger

/-- One operation. -/
def step (ar : Arith) (l : InMemoryLedger) : LedgerOp → InMemoryLedger
  | .upsertAccount account => l.upsertAccount account
  | .upsertInstitution institution => l.upsertInstitution institution
  | .suspendInstitution now id => (suspendInstitution now id l).1
  | .upsertInstitutionLimit limit => (upsertInstitutionLimit limit l).1
  | .addInstitutionCredential credential => (addInstitutionCredential credential l).1
  | .recordAuditEvent event => l.recordAuditEvent event
  | .holdPaymentForReview s payment caseOpen => (holdPaymentForReview s payment caseOpen l).1
  | .approveComplianceCase d id reviewer reason =>
    (approveComplianceCase d id reviewer reason l).1
  | .rejectComplianceCase d id reviewer reason =>
    (rejectComplianceCase d id reviewer reason l).1
  | .applyBlock d block => (applyBlock ar d block l).1
  | .reload => fromSnapshot l.snapshot

/-- A run of operations. -/
def run (ar : Arith) (l : InMemoryLedger) (ops : List LedgerOp) : InMemoryLedger :=
  ops.foldl (step ar) l

/-- What every operation preserves, a run preserves. -/
theorem run_induct {ar : Arith} {P : InMemoryLedger → Prop}
    (hstep : ∀ l op, P l → P (l.step ar op)) {l : InMemoryLedger} (h : P l)
    (ops : List LedgerOp) : P (l.run ar ops) := by
  induction ops generalizing l with
  | nil => exact h
  | cons op ops ih => exact ih (hstep l op h)

/-- Two ledgers with the same accounts, money, journal and blocks. -/
structure SameMoney (l l' : InMemoryLedger) : Prop where
  accounts : l'.accounts = l.accounts
  working : l'.working = l.working
  blocks : l'.blocks = l.blocks

theorem SameMoney.refl (l : InMemoryLedger) : SameMoney l l := ⟨rfl, rfl, rfl⟩

/-- A call that commits or changes nothing leaves the money alone when its
commits do. -/
theorem sameMoney_of_commits {α : Type} {m : Method InMemoryLedger LedgerError α}
    {l : InMemoryLedger} (hm : m.Commits)
    (hok : ∀ l' a, m l = (l', .ok a) → SameMoney l l') : SameMoney l (m l).1 :=
  hm.preserves (SameMoney.refl l) hok

/-- What an operation does to accounts, money, journal and blocks: it adds an
account, applies a block, reloads the ledger, or leaves them alone. -/
inductive StepEffect (ar : Arith) (l l' : InMemoryLedger) : Prop where
  | added (account : Account) (heq : l' = l.upsertAccount account)
  | applied (d : Draws) (block : Block) (records : List PaymentRecord)
      (happ : applyBlock ar d block l = (l', .ok records))
  | reloaded (heq : l' = fromSnapshot l.snapshot)
  | same (hsame : SameMoney l l')

theorem step_effect (ar : Arith) (l : InMemoryLedger) (op : LedgerOp) :
    StepEffect ar l (l.step ar op) := by
  cases op with
  | upsertAccount account => exact .added account rfl
  | upsertInstitution institution => exact .same ⟨rfl, rfl, rfl⟩
  | suspendInstitution now id =>
    refine .same (sameMoney_of_commits (suspendInstitution_commits now id) ?_)
    intro l' i hok
    obtain ⟨_, _, _, rfl⟩ := suspendInstitution_eq_ok hok
    exact ⟨rfl, rfl, rfl⟩
  | upsertInstitutionLimit limit =>
    refine .same (sameMoney_of_commits (upsertInstitutionLimit_commits limit) ?_)
    intro l' i hok
    obtain ⟨_, _, rfl⟩ := upsertInstitutionLimit_eq_ok hok
    exact ⟨rfl, rfl, rfl⟩
  | addInstitutionCredential credential =>
    refine .same (sameMoney_of_commits (addInstitutionCredential_commits credential) ?_)
    intro l' i hok
    obtain ⟨_, _, rfl⟩ := addInstitutionCredential_eq_ok hok
    exact ⟨rfl, rfl, rfl⟩
  | recordAuditEvent event => exact .same ⟨rfl, rfl, rfl⟩
  | holdPaymentForReview s payment caseOpen => exact .same ⟨rfl, rfl, rfl⟩
  | approveComplianceCase d id reviewer reason =>
    refine .same (sameMoney_of_commits (approveComplianceCase_commits d id reviewer reason) ?_)
    intro l' r hok
    obtain ⟨_, _, _, _, _, _, rfl⟩ := approveComplianceCase_eq_ok hok
    exact ⟨rfl, rfl, rfl⟩
  | rejectComplianceCase d id reviewer reason =>
    refine .same (sameMoney_of_commits (rejectComplianceCase_commits d id reviewer reason) ?_)
    intro l' r hok
    obtain ⟨_, _, _, _, _, _, rfl⟩ := rejectComplianceCase_eq_ok hok
    exact ⟨rfl, rfl, rfl⟩
  | applyBlock d block =>
    rcases hrun : applyBlock ar d block l with ⟨l', r⟩
    have hstep : l.step ar (.applyBlock d block) = l' := congrArg Prod.fst hrun
    rw [hstep]
    cases r with
    | ok records => exact .applied d block records hrun
    | error e =>
      rw [applyBlock_commits ar d block l l' e hrun]
      exact .same (.refl l)
  | reload => exact .reloaded rfl

end InMemoryLedger

end KaniNetwork
