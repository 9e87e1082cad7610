/-
KaniNetwork.Ledger.Error — the errors of the two ledgers (`kani-ledger`).

`LedgerError` is what the in-memory ledger returns; its text is stored as
the failure reason of a rejected payment. `LedgerStorageError` is what the
PostgreSQL store returns; of `sqlx::Error` it distinguishes the
constraints a statement can violate.
-/
import KaniNetwork.Types.Core

namespace KaniNetwork

inductive LedgerError where
  | unknownAccount (id : String)
  | unknownInstitution (id : String)
  | unknownPayment (id : String)
  | unknownComplianceCase (id : String)
  | terminalComplianceCase (caseId status : String)
  | missingAsset
  | invalidAmount
  | invalidNonce
  | insufficientFunds (accountId asset : String) (available required : Int)
  | mintRequiresTreasury
  | burnRequiresTreasury
  | invalidBlockHeight (expected actual : Int)
  | invalidPrevHash (expected actual : String)
  | missingBlockHash
  deriving DecidableEq, Repr

/-- The `Display` text of an error (`to_string`). -/
def LedgerError.message : LedgerError → String
  | .unknownAccount id => "account " ++ id ++ " does not exist"
  | .unknownInstitution id => "institution " ++ id ++ " does not exist"
  | .unknownPayment id => "payment " ++ id ++ " does not exist"
  | .unknownComplianceCase id => "compliance case " ++ id ++ " does not exist"
  | .terminalComplianceCase caseId status =>
    "compliance case " ++ caseId ++ " is already terminal with status " ++ status
  | .missingAsset => "asset code is required"
  | .invalidAmount => "amount must be positive"
  | .invalidNonce => "transaction nonce must be greater than the last finalized nonce"
  | .insufficientFunds accountId asset available required =>
    "account " ++ accountId ++ " has insufficient " ++ asset ++ ": available "
      ++ toString available ++ ", required " ++ toString required
  | .mintRequiresTreasury => "mint transactions must originate from a treasury account"
  | .burnRequiresTreasury => "burn transactions must settle to a treasury account"
  | .invalidBlockHeight expected actual =>
    "block height mismatch: expected " ++ toString expected ++ ", got " ++ toString actual
  | .invalidPrevHash expected actual =>
    "block prev_hash mismatch: expected " ++ expected ++ ", got " ++ actual
  | .missingBlockHash => "block hash is required before finalization"

/-- A constraint violation reported by PostgreSQL, with the constraint. -/
inductive SqlxError where
  | invalidText
  | numericOverflow
  | check (constraint : String)
  | unique (constraint : String)
  | foreignKey (constraint : String)
  deriving DecidableEq, Repr

inductive LedgerStorageError where
  | sqlx (error : SqlxError)
  | unknownPayment (id : String)
  | unknownComplianceCase (id : String)
  | terminalComplianceCase (caseId status : String)
  | advisoryLockReleaseFailed
  | idempotencyConflict (clientReferenceId paymentId : String)
  deriving DecidableEq, Repr

/-- The `Display` text of an error; that of a `sqlx::Error` is the
library's. -/
def LedgerStorageError.message (sqlxMessage : SqlxError → String) : LedgerStorageError → String
  | .sqlx error => sqlxMessage error
  | .unknownPayment id => "payment " ++ id ++ " does not exist"
  | .unknownComplianceCase id => "compliance case " ++ id ++ " does not exist"
  | .terminalComplianceCase caseId status =>
    "compliance case " ++ caseId ++ " is already terminal with status " ++ status
  | .advisoryLockReleaseFailed => "failed to release block production advisory lock"
  | .idempotencyConflict clientReferenceId paymentId =>
    "idempotency key " ++ clientReferenceId ++ " was already used for payment " ++ paymentId

end KaniNetwork
