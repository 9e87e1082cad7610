/-
KaniNetwork.Ledger.InMemory — the in-memory ledger (`InMemoryLedger` of
`kani-ledger`).

A method that takes `&mut self` and cannot fail is a function to the new
ledger; one that returns `Result` is a `Method`, in the order of the
source, so a failed call has a ledger too.

`i128` addition is a parameter: `Arith.exact` reads amounts as integers,
`Arith.wrapping` is two's complement at 128 bits, what a release build
does. Nothing else in this module depends on the choice.

`apply_block` and `validate_transactions_for_next_block` run the same loop
of `validate_transaction` and `apply_transaction` over working copies; the
loop is `applyTransactions`, the copies are `Working`.
-/
import Mathlib.Data.List.Sort
import KaniNetwork.Base.HashMap
import KaniNetwork.Base.Method
import KaniNetwork.Types.Core
import KaniNetwork.Ledger.Error

namespace KaniNetwork

/-- What `+` and `-` on `i128` compute. -/
inductive Arith where
  | exact | wrapping
  deriving DecidableEq, Repr

def Arith.norm : Arith → Int → Int
  | .exact, n => n
  | .wrapping, n => n.bmod (2 ^ 128)

@[simp] theorem Arith.norm_exact (n : Int) : Arith.exact.norm n = n := rfl

structure Balance where
  accountId : String
  asset : String
  amount : Int
  deriving DecidableEq, Repr

structure LedgerSnapshot where
  accounts : List Account
  institutions : List Institution
  institutionCredentials : List InstitutionCredential
  institutionLimits : List InstitutionLimit
  balances : List Balance
  payments : List PaymentRecord
  complianceCases : List ComplianceCase
  blocks : List Block
  auditEvents : List AuditEvent
  journalEntries : List JournalEntry
  nonces : HashMap String Int
  issued : HashMap String Int

structure InMemoryLedger where
  accounts : HashMap String Account
  institutions : HashMap String Institution
  institutionCredentials : HashMap String InstitutionCredential
  institutionLimits : HashMap (String × String) InstitutionLimit
  balances : HashMap (String × String) Int
  payments : HashMap String PaymentRecord
  complianceCases : HashMap String ComplianceCase
  blocks : List Block
  auditEvents : List AuditEvent
  journalEntries : List JournalEntry
  nonces : HashMap String Int
  issued : HashMap String Int

/-- The copies a batch works on before they replace the ledger's own. -/
structure Working where
  balances : HashMap (String × String) Int
  nonces : HashMap String Int
  issued : HashMap String Int
  journal : List JournalEntry

/-! ## Balances -/

def balanceFrom (balances : HashMap (String × String) Int) (accountId asset : String) : Int :=
  balances.getOr (accountId, asset) 0

def ensureSufficientBalance (balances : HashMap (String × String) Int)
    (accountId asset : String) (amount : Int) : Except LedgerError Unit :=
  if balanceFrom balances accountId asset < amount then
    .error (.insufficientFunds accountId asset (balanceFrom balances accountId asset) amount)
  else .ok ()

def debit (ar : Arith) (balances : HashMap (String × String) Int) (accountId asset : String)
    (amount : Int) : Except LedgerError (HashMap (String × String) Int) := do
  ensureSufficientBalance balances accountId asset amount
  return balances.insert (accountId, asset)
    (ar.norm (balanceFrom balances accountId asset - amount))

def credit (ar : Arith) (balances : HashMap (String × String) Int) (accountId asset : String)
    (amount : Int) : HashMap (String × String) Int :=
  balances.insert (accountId, asset) (ar.norm (balanceFrom balances accountId asset + amount))

/-- `apply_transaction` on the working copies. -/
def applyTransaction (ar : Arith) (d : Draws) (tx : Transaction) (blockHeight : Int)
    (w : Working) : Except LedgerError Working := do
  let entry (i : Nat) (accountId : String) (direction : JournalDirection) :=
    JournalEntry.new (d.sub i).stamp tx.id accountId tx.asset tx.amount direction blockHeight
  let w ← match tx.kind with
    | .transfer => do
      let balances ← debit ar w.balances tx.fromAccount tx.asset tx.amount
      pure { w with
        balances := credit ar balances tx.toAccount tx.asset tx.amount
        journal := w.journal ++ [entry 0 tx.fromAccount .debit, entry 1 tx.toAccount .credit] }
    | .mint =>
      pure { w with
        balances := credit ar w.balances tx.toAccount tx.asset tx.amount
        issued := w.issued.insert tx.asset (ar.norm (w.issued.getOr tx.asset 0 + tx.amount))
        journal := w.journal ++ [entry 0 tx.toAccount .credit] }
    | .burn => do
      let balances ← debit ar w.balances tx.fromAccount tx.asset tx.amount
      pure { w with
        balances := balances
        issued := w.issued.insert tx.asset (ar.norm (w.issued.getOr tx.asset 0 - tx.amount))
        journal := w.journal ++ [entry 0 tx.fromAccount .debit] }
  return { w with nonces := w.nonces.insert tx.fromAccount tx.nonce }

namespace InMemoryLedger

/-! ## Construction -/

def empty : InMemoryLedger where
  accounts := ∅
  institutions := ∅
  institutionCredentials := ∅
  institutionLimits := ∅
  balances := ∅
  payments := ∅
  complianceCases := ∅
  blocks := []
  auditEvents := []
  journalEntries := []
  nonces := ∅
  issued := ∅

def fromSnapshot (s : LedgerSnapshot) : InMemoryLedger where
  accounts := .ofPairs (s.accounts.map fun a => (a.id, a))
  institutions := .ofPairs (s.institutions.map fun i => (i.id, i))
  institutionCredentials := .ofPairs (s.institutionCredentials.map fun c => (c.id, c))
  institutionLimits := .ofPairs (s.institutionLimits.map fun l => ((l.institutionId, l.asset), l))
  balances := .ofPairs (s.balances.map fun b => ((b.accountId, b.asset), b.amount))
  payments := .ofPairs (s.payments.map fun p => (p.transaction.id, p))
  complianceCases := .ofPairs (s.complianceCases.map fun c => (c.id, c))
  blocks := s.blocks
  auditEvents := s.auditEvents
  journalEntries := s.journalEntries
  nonces := s.nonces
  issued := s.issued

def ensureBalanceRow (l : InMemoryLedger) (accountId asset : String) : InMemoryLedger :=
  { l with
    balances :=
      match l.balances.lookup (accountId, asset) with
      | some _ => l.balances
      | none => l.balances.insert (accountId, asset) 0 }

def upsertAccount (l : InMemoryLedger) (account : Account) : InMemoryLedger :=
  { l with accounts := l.accounts.insert account.id account }

def upsertInstitution (l : InMemoryLedger) (institution : Institution) : InMemoryLedger :=
  { l with institutions := l.institutions.insert institution.id institution }

/-- `sandbox`: the four institutions, their accounts and zero balances. -/
def sandbox (d : Draws) : InMemoryLedger :=
  let now (i : Nat) := (d.sub i).stamp.now
  empty
    |>.upsertInstitution (.sandboxApproved (now 0) SANDBOX_TREASURY_INSTITUTION
        "KANI Sandbox Treasury" SANDBOX_TREASURY_INSTITUTION)
    |>.upsertInstitution (.sandboxApproved (now 1) SANDBOX_CORP_A_INSTITUTION
        "Sandbox Corporation A" SANDBOX_CORP_A_INSTITUTION)
    |>.upsertInstitution (.sandboxApproved (now 2) SANDBOX_CORP_B_INSTITUTION
        "Sandbox Corporation B" SANDBOX_CORP_B_INSTITUTION)
    |>.upsertInstitution (.sandboxApproved (now 3) SANDBOX_NETWORK_INSTITUTION
        "KANI Network Sandbox Operator" SANDBOX_NETWORK_INSTITUTION)
    |>.upsertAccount (.new (now 4) SANDBOX_TREASURY_ACCOUNT .treasury
        (some SANDBOX_TREASURY_INSTITUTION))
    |>.upsertAccount (.new (now 5) SANDBOX_CORP_A_ACCOUNT .institution
        (some SANDBOX_CORP_A_INSTITUTION))
    |>.upsertAccount (.new (now 6) SANDBOX_CORP_B_ACCOUNT .institution
        (some SANDBOX_CORP_B_INSTITUTION))
    |>.upsertAccount (.new (now 7) SANDBOX_FEE_ACCOUNT .fee (some SANDBOX_NETWORK_INSTITUTION))
    |>.ensureBalanceRow SANDBOX_TREASURY_ACCOUNT KCAD_TEST
    |>.ensureBalanceRow SANDBOX_CORP_A_ACCOUNT KCAD_TEST
    |>.ensureBalanceRow SANDBOX_CORP_B_ACCOUNT KCAD_TEST
    |>.ensureBalanceRow SANDBOX_TREASURY_ACCOUNT KUSD_TEST
    |>.ensureBalanceRow SANDBOX_CORP_A_ACCOUNT KUSD_TEST
    |>.ensureBalanceRow SANDBOX_CORP_B_ACCOUNT KUSD_TEST

/-! ## Reads -/

/-- `institution_credentials(None)`, ordered by id. -/
def sortedCredentials (l : InMemoryLedger) : List InstitutionCredential :=
  l.institutionCredentials.values.insertionSort (fun a b => a.id ≤ b.id)

/-- `institutions()`, ordered by id. -/
def sortedInstitutions (l : InMemoryLedger) : List Institution :=
  l.institutions.values.insertionSort (fun a b => a.id ≤ b.id)

def snapshot (l : InMemoryLedger) : LedgerSnapshot where
  accounts := l.accounts.values
  institutions := l.sortedInstitutions
  institutionCredentials := l.sortedCredentials
  institutionLimits := l.institutionLimits.values
  balances := l.balances.pairs.map fun e => ⟨e.1.1, e.1.2, e.2⟩
  payments := l.payments.values
  complianceCases := l.complianceCases.values
  blocks := l.blocks
  auditEvents := l.auditEvents
  journalEntries := l.journalEntries
  nonces := l.nonces
  issued := l.issued

def nextHeight (l : InMemoryLedger) : Int := l.blocks.length + 1

def lastHash (l : InMemoryLedger) : String :=
  match l.blocks.getLast? with
  | some block => block.hash
  | none => GENESIS_HASH

def nextNonce (l : InMemoryLedger) (accountId : String) : Int :=
  l.nonces.getOr accountId 0 + 1

def balance (l : InMemoryLedger) (accountId asset : String) : Int :=
  balanceFrom l.balances accountId asset

/-- `issued(asset)`. -/
def issuedOf (l : InMemoryLedger) (asset : String) : Int := l.issued.getOr asset 0

def getInstitution (l : InMemoryLedger) (institutionId : String) :
    Except LedgerError Institution :=
  match l.institutions.lookup institutionId with
  | some institution => .ok institution
  | none => .error (.unknownInstitution institutionId)

def getPayment (l : InMemoryLedger) (paymentId : String) : Except LedgerError PaymentRecord :=
  match l.payments.lookup paymentId with
  | some payment => .ok payment
  | none => .error (.unknownPayment paymentId)

def getPaymentByClientReferenceId (l : InMemoryLedger) (clientReferenceId : String) :
    Option PaymentRecord :=
  l.payments.values.find? fun payment => payment.clientReferenceId = some clientReferenceId

/-- `compliance_cases()`, ordered by creation time. -/
def sortedComplianceCases (l : InMemoryLedger) : List ComplianceCase :=
  l.complianceCases.values.insertionSort (fun a b => a.createdAt ≤ b.createdAt)

def getComplianceCase (l : InMemoryLedger) (caseId : String) :
    Except LedgerError ComplianceCase :=
  match l.complianceCases.lookup caseId with
  | some complianceCase => .ok complianceCase
  | none => .error (.unknownComplianceCase caseId)

/-! ## Administration -/

def suspendInstitution (now : DateTime) (institutionId : String) :
    Method InMemoryLedger LedgerError Institution := do
  let l ← .get
  let institution ← .ofExcept (l.getInstitution institutionId)
  let institution := institution.suspended now
  .modify (·.upsertInstitution institution)
  return institution

def upsertInstitutionLimit (limit : InstitutionLimit) :
    Method InMemoryLedger LedgerError InstitutionLimit := do
  let l ← .get
  let _ ← .ofExcept (l.getInstitution limit.institutionId)
  .modify fun l => { l with
    institutionLimits := l.institutionLimits.insert (limit.institutionId, limit.asset) limit }
  return limit

def addInstitutionCredential (credential : InstitutionCredential) :
    Method InMemoryLedger LedgerError InstitutionCredential := do
  let l ← .get
  let _ ← .ofExcept (l.getInstitution credential.institutionId)
  .modify fun l => { l with
    institutionCredentials := l.institutionCredentials.insert credential.id credential }
  return credential

def recordAuditEvent (l : InMemoryLedger) (event : AuditEvent) : InMemoryLedger :=
  { l with auditEvents := l.auditEvents ++ [event] }

/-! ## Compliance -/

/-- File a payment and a case under their ids. -/
def filePaymentAndCase (l : InMemoryLedger) (payment : PaymentRecord)
    (complianceCase : ComplianceCase) : InMemoryLedger :=
  { l with
    payments := l.payments.insert payment.transaction.id payment
    complianceCases := l.complianceCases.insert complianceCase.id complianceCase }

def holdPaymentForReview (s : Stamp) (payment : PaymentRecord) (caseOpen : ComplianceCaseOpen) :
    Method InMemoryLedger LedgerError (PaymentRecord × ComplianceCase) := do
  let complianceCase := ComplianceCase.opened s caseOpen
  .modify (·.filePaymentAndCase payment complianceCase)
  return (payment, complianceCase)

/-- `ensure_case_not_terminal`. -/
def ensureCaseNotTerminal (c : ComplianceCase) : Except LedgerError Unit :=
  if c.status.isTerminal then .error (.terminalComplianceCase c.id c.status.toDb) else .ok ()

/-- `approve_compliance_case`. -/
def approveComplianceCase (d : Draws) (caseId : String) (reviewer reason : Option String) :
    Method InMemoryLedger LedgerError (ComplianceCase × PaymentRecord) := do
  let l ← .get
  let complianceCase ← .ofExcept (l.getComplianceCase caseId)
  .ofExcept (ensureCaseNotTerminal complianceCase)
  let payment ← .ofExcept (l.getPayment complianceCase.paymentId)
  let payment := payment.markPending (d.sub 0).stamp.now
  let complianceCase := complianceCase.approved (d.sub 1).stamp.now reviewer reason
  .modify (·.filePaymentAndCase payment complianceCase)
  return (complianceCase, payment)

/-- `reject_compliance_case`. -/
def rejectComplianceCase (d : Draws) (caseId : String) (reviewer reason : Option String) :
    Method InMemoryLedger LedgerError (ComplianceCase × PaymentRecord) := do
  let l ← .get
  let complianceCase ← .ofExcept (l.getComplianceCase caseId)
  .ofExcept (ensureCaseNotTerminal complianceCase)
  let rejectionReason := reason.getD "compliance case rejected"
  let payment ← .ofExcept (l.getPayment complianceCase.paymentId)
  let payment := payment.markRejected (d.sub 0).stamp.now rejectionReason
  let complianceCase := complianceCase.rejected (d.sub 1).stamp.now reviewer reason
  .modify (·.filePaymentAndCase payment complianceCase)
  return (complianceCase, payment)

/-! ## Blocks -/

/-- `validate_transaction`. -/
def validateTransaction (l : InMemoryLedger) (tx : Transaction)
    (balances : HashMap (String × String) Int) (nonces issued : HashMap String Int) :
    Except LedgerError Unit := do
  if tx.amount ≤ 0 then .error .invalidAmount
  else if (trim tx.asset).isEmpty then .error .missingAsset
  else
    match l.accounts.lookup tx.fromAccount, l.accounts.lookup tx.toAccount with
    | none, _ => .error (.unknownAccount tx.fromAccount)
    | some _, none => .error (.unknownAccount tx.toAccount)
    | some fromAccount, some toAccount =>
      if tx.nonce ≤ nonces.getOr tx.fromAccount 0 then .error .invalidNonce
      else
        match tx.kind with
        | .transfer => ensureSufficientBalance balances tx.fromAccount tx.asset tx.amount
        | .mint =>
          if fromAccount.accountType ≠ .treasury then .error .mintRequiresTreasury else .ok ()
        | .burn =>
          if toAccount.accountType ≠ .treasury then .error .burnRequiresTreasury
          else do
            ensureSufficientBalance balances tx.fromAccount tx.asset tx.amount
            if issued.getOr tx.asset 0 < tx.amount then
              .error (.insufficientFunds "ISSUANCE" tx.asset (issued.getOr tx.asset 0) tx.amount)
            else .ok ()

/-- The loop over the transactions of a block. -/
def applyTransactions (ar : Arith) (l : InMemoryLedger) (blockHeight : Int) :
    Draws → List Transaction → Working → Except LedgerError Working
  | _, [], w => .ok w
  | d, tx :: txs, w => do
    l.validateTransaction tx w.balances w.nonces w.issued
    let w ← applyTransaction ar (d.sub 0) tx blockHeight w
    applyTransactions ar l blockHeight (d.sub 1) txs w

/-- The working copies a batch starts from. -/
def working (l : InMemoryLedger) : Working where
  balances := l.balances
  nonces := l.nonces
  issued := l.issued
  journal := l.journalEntries

def validateTransactionsForNextBlock (ar : Arith) (d : Draws) (l : InMemoryLedger)
    (txs : List Transaction) : Except LedgerError Unit := do
  let _ ← l.applyTransactions ar l.nextHeight d txs l.working
  return ()

/-- The records the loop of `apply_block` pushes, one per transaction. -/
def finalizedRecords (blockHeight : Int) (blockHash : String) :
    Draws → List Transaction → List PaymentRecord
  | _, [] => []
  | d, tx :: txs =>
    .finalized (d.sub 0).stamp.now tx blockHeight blockHash
      :: finalizedRecords blockHeight blockHash (d.sub 1) txs

/-- The audit events of the finalized records. -/
def finalizationEvents (blockHeight : Int) : Draws → List PaymentRecord → List AuditEvent
  | _, [] => []
  | d, r :: rs =>
    .new (d.sub 0).stamp "TRANSACTION_FINALIZED"
      (toString r.transaction.amount ++ " " ++ r.transaction.asset ++ " finalized in block "
        ++ toString blockHeight)
      (some blockHeight) (some r.transaction.id)
      :: finalizationEvents blockHeight (d.sub 1) rs

/-- Store records under their transaction ids. -/
def insertPayments (payments : HashMap String PaymentRecord) (records : List PaymentRecord) :
    HashMap String PaymentRecord :=
  records.foldl (fun m r => m.insert r.transaction.id r) payments

/-- `apply_block`. -/
def applyBlock (ar : Arith) (d : Draws) (block : Block) :
    Method InMemoryLedger LedgerError (List PaymentRecord) := do
  let l ← .get
  if block.hash.isEmpty then .throw .missingBlockHash
  else if block.height ≠ l.nextHeight then
    .throw (.invalidBlockHeight l.nextHeight block.height)
  else if block.prevHash ≠ l.lastHash then
    .throw (.invalidPrevHash l.lastHash block.prevHash)
  else
    let w ← .ofExcept (l.applyTransactions ar block.height (d.sub 0) block.txs l.working)
    let records := finalizedRecords block.height block.hash (d.sub 1) block.txs
    .set { l with
      balances := w.balances
      nonces := w.nonces
      issued := w.issued
      journalEntries := w.journal
      payments := insertPayments l.payments records
      auditEvents := l.auditEvents ++ finalizationEvents block.height (d.sub 2) records ++
        [.new (d.sub 3).stamp "BLOCK_FINALIZED"
          ("block " ++ toString block.height ++ " finalized by "
            ++ toString block.finalizedBy.length ++ " validator votes")
          (some block.height) none]
      blocks := l.blocks ++ [block] }
    return records

end InMemoryLedger

end KaniNetwork
