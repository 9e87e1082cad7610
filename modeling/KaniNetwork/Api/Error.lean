/-
KaniNetwork.Api.Error — the errors of the HTTP API (`kani-api`).

A handler fails with an `ApiError`, which is the status code and the text
of the response. Errors of the node and of the ISO 20022 reader are
translated into it; none of them becomes a refusal (401 or 403), so a
refusal is always the API's own decision.
-/
import KaniNetwork.Iso20022.Pacs008
import KaniNetwork.Node.Block

namespace KaniNetwork

inductive ApiError where
  | badRequest (error : String)
  | conflict (error : String)
  | unauthorized (error : String)
  | forbidden (error : String)
  | notFound (error : String)
  | internal (error : String)
  deriving DecidableEq, Repr

namespace ApiError

def statusCode : ApiError → Nat
  | .badRequest _ => 400
  | .conflict _ => 409
  | .unauthorized _ => 401
  | .forbidden _ => 403
  | .notFound _ => 404
  | .internal _ => 500

def message : ApiError → String
  | .badRequest error | .conflict error | .unauthorized error
  | .forbidden error | .notFound error | .internal error => error

/-- `From<NodeError>`. -/
def ofNodeError (sqlxMessage : SqlxError → String) : NodeError → ApiError
  | .ledger (.unknownInstitution institutionId) =>
    .notFound ("institution " ++ institutionId ++ " not found")
  | .ledger (.unknownComplianceCase caseId) =>
    .notFound ("compliance case " ++ caseId ++ " not found")
  | .ledger (.terminalComplianceCase caseId status) =>
    .conflict ("compliance case " ++ caseId ++ " is already terminal with status " ++ status)
  | .storage (.unknownComplianceCase caseId) =>
    .notFound ("compliance case " ++ caseId ++ " not found")
  | .storage (.terminalComplianceCase caseId status) =>
    .conflict ("compliance case " ++ caseId ++ " is already terminal with status " ++ status)
  | .ledger error => .badRequest error.message
  | .storage (.idempotencyConflict clientReferenceId _) =>
    .conflict
      ("idempotency key " ++ clientReferenceId ++ " was already used for a different payment")
  | .storage error => .internal (error.message sqlxMessage)
  | .idempotencyConflict clientReferenceId =>
    .conflict
      ("idempotency key " ++ clientReferenceId ++ " was already used for a different payment")
  | .consensus error => .badRequest error.message
  | .emptyBlock => .badRequest "block must contain at least one transaction"
  | .insufficientFinality got required =>
    .internal ("block finality threshold not met: got " ++ toString got ++ ", required "
      ++ toString required)
  | .invalidBlockValidator expected actual =>
    .internal ("block validator mismatch: expected " ++ expected ++ ", got " ++ actual)
  | .unknownFinalityValidator validator =>
    .internal ("block finality vote from inactive or unknown validator " ++ validator)
  | .duplicateFinalityVote validator =>
    .internal ("duplicate block finality vote from validator " ++ validator)
  | .missingProducerFinalityVote validator =>
    .internal ("block finality votes must include the block producer " ++ validator)
  | .invalidBlockHash expected actual =>
    .internal ("block hash mismatch: expected " ++ expected ++ ", got " ++ actual)
  | .invalidBlockSignature validator hash =>
    .internal ("block signature mismatch for validator " ++ validator ++ " and hash " ++ hash)

/-- `From<Iso20022Error>`. -/
def ofIso20022Error (error : Iso20022Error) : ApiError := .badRequest error.message

/-- The request is answered 401 or 403. -/
def IsRefusal (error : ApiError) : Prop := error.statusCode = 401 ∨ error.statusCode = 403

theorem not_isRefusal_badRequest (error : String) : ¬ (badRequest error).IsRefusal := by
  simp [IsRefusal, statusCode]

theorem not_isRefusal_notFound (error : String) : ¬ (notFound error).IsRefusal := by
  simp [IsRefusal, statusCode]

/-- No error of the node is a refusal. -/
theorem not_isRefusal_ofNodeError (sqlxMessage : SqlxError → String) (error : NodeError) :
    ¬ (ofNodeError sqlxMessage error).IsRefusal := by
  unfold ofNodeError
  split <;> simp [IsRefusal, statusCode]

end ApiError

end KaniNetwork
