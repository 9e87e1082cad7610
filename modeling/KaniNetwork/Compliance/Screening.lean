/-
KaniNetwork.Compliance.Screening — screening a sandbox payment
(`kani-compliance`).

`screen_sandbox_payment_with_policy` checks the shape of a payment, its
accounts and its asset in turn and rejects at the first check that fails; a
payment that passes them is allowed up to the limit of the policy and sent
to review above it. `Admits` is the conjunction of the checks, and the
three decisions are read off it.
-/
import KaniNetwork.Base.Text

namespace KaniNetwork

inductive ComplianceDecision where
  | allow | review | reject
  deriving DecidableEq, Repr

/-- The `Debug` text of a decision. -/
def ComplianceDecision.debug : ComplianceDecision → String
  | .allow => "Allow"
  | .review => "Review"
  | .reject => "Reject"

structure ComplianceResult where
  decision : ComplianceDecision
  ruleId : String
  reason : String
  deriving DecidableEq, Repr

structure CompliancePayment where
  fromAccount : String
  toAccount : String
  asset : String
  amount : Int
  deriving DecidableEq, Repr

structure SandboxCompliancePolicy where
  allowedAccounts : List String
  allowedAssetPrefixes : List String
  maxPaymentAmount : Int
  allowSelfTransfers : Bool
  deriving DecidableEq, Repr

namespace SandboxCompliancePolicy

def sandboxDefault : SandboxCompliancePolicy where
  allowedAccounts := ["CORP_A", "CORP_B"]
  allowedAssetPrefixes := ["KCAD_TEST", "KUSD_TEST"]
  maxPaymentAmount := 500000
  allowSelfTransfers := false

/-- `account_allowed`. -/
def accountAllowed (policy : SandboxCompliancePolicy) (accountId : String) : Bool :=
  policy.allowedAccounts.any (· = accountId)

/-- `asset_allowed`: an allowed code, or one that continues it after an
underscore. -/
def assetAllowed (policy : SandboxCompliancePolicy) (asset : String) : Bool :=
  policy.allowedAssetPrefixes.any fun allowed =>
    asset = allowed || startsWith asset (allowed ++ "_")

end SandboxCompliancePolicy

namespace ComplianceResult

def reject (ruleId reason : String) : ComplianceResult := ⟨.reject, ruleId, reason⟩

def review (ruleId reason : String) : ComplianceResult := ⟨.review, ruleId, reason⟩

end ComplianceResult

/-- `screen_sandbox_payment_with_policy`. -/
def screenSandboxPaymentWithPolicy (policy : SandboxCompliancePolicy)
    (payment : CompliancePayment) : ComplianceResult :=
  let fromAccount := trim payment.fromAccount
  let toAccount := trim payment.toAccount
  let asset := trim payment.asset
  if fromAccount.isEmpty ∨ toAccount.isEmpty ∨ asset.isEmpty ∨ payment.amount ≤ 0 then
    .reject "PAYMENT_SHAPE" "payment shape is invalid"
  else if ¬ policy.allowSelfTransfers ∧ fromAccount = toAccount then
    .reject "NO_SELF_TRANSFER" "self transfers are disabled in sandbox"
  else if ¬ policy.accountAllowed fromAccount ∨ ¬ policy.accountAllowed toAccount then
    .reject "ACCOUNT_ALLOWLIST"
      "sandbox payments are limited to approved test institution accounts"
  else if ¬ policy.assetAllowed asset then
    .reject "ASSET_ALLOWLIST"
      "sandbox payment asset is not approved for this compliance profile"
  else if policy.maxPaymentAmount < payment.amount then
    .review "MAX_PAYMENT_AMOUNT"
      "payment amount exceeds the sandbox straight-through-processing limit"
  else ⟨.allow, "SANDBOX_STP", "sandbox-only payment allowed"⟩

/-! ## The three decisions -/

/-- The payment passes every check that can reject it. -/
structure SandboxCompliancePolicy.Admits (policy : SandboxCompliancePolicy)
    (payment : CompliancePayment) : Prop where
  shape : (trim payment.fromAccount).isEmpty = false ∧ (trim payment.toAccount).isEmpty = false ∧
    (trim payment.asset).isEmpty = false ∧ 0 < payment.amount
  parties : policy.allowSelfTransfers = true ∨ trim payment.fromAccount ≠ trim payment.toAccount
  accounts : policy.accountAllowed (trim payment.fromAccount) = true ∧
    policy.accountAllowed (trim payment.toAccount) = true
  asset : policy.assetAllowed (trim payment.asset) = true

/-- **Screening decides by admission and amount.** A payment is allowed
exactly when it is admitted and within the limit, reviewed exactly when it
is admitted and above it, and rejected exactly when it is not admitted. -/
theorem screen_decision (policy : SandboxCompliancePolicy) (payment : CompliancePayment) :
    let decision := (screenSandboxPaymentWithPolicy policy payment).decision
    (decision = .allow ↔ policy.Admits payment ∧ payment.amount ≤ policy.maxPaymentAmount) ∧
      (decision = .review ↔ policy.Admits payment ∧ policy.maxPaymentAmount < payment.amount) ∧
      (decision = .reject ↔ ¬ policy.Admits payment) := by
  intro decision
  have hdecision : decision = (screenSandboxPaymentWithPolicy policy payment).decision := rfl
  clear_value decision
  simp only [screenSandboxPaymentWithPolicy] at hdecision
  split at hdecision
  · rename_i hshape
    have hnot : ¬ policy.Admits payment := by
      intro h
      obtain ⟨hfrom, hto, hasset, hamount⟩ := h.shape
      simp only [hfrom, hto, hasset, Bool.false_eq_true, false_or] at hshape
      omega
    simp [hdecision, hnot, ComplianceResult.reject]
  rename_i hshape
  split at hdecision
  · rename_i hself
    have hnot : ¬ policy.Admits payment := by
      intro h
      rcases h.parties with hallow | hne
      · exact hself.1 hallow
      · exact hne hself.2
    simp [hdecision, hnot, ComplianceResult.reject]
  rename_i hself
  split at hdecision
  · rename_i haccounts
    have hnot : ¬ policy.Admits payment := by
      intro h
      rcases haccounts with hfrom | hto
      · exact hfrom h.accounts.1
      · exact hto h.accounts.2
    simp [hdecision, hnot, ComplianceResult.reject]
  rename_i haccounts
  split at hdecision
  · rename_i hasset
    have hnot : ¬ policy.Admits payment := fun h => hasset h.asset
    simp [hdecision, hnot, ComplianceResult.reject]
  rename_i hasset
  have hadmits : policy.Admits payment := by
    simp only [not_or, Bool.not_eq_true, not_le] at hshape
    refine ⟨hshape, ?_, ?_, ?_⟩
    · by_cases hallow : policy.allowSelfTransfers = true
      · exact .inl hallow
      · exact .inr fun heq => hself ⟨hallow, heq⟩
    · simpa only [not_or, not_not] using haccounts
    · simpa only [not_not] using hasset
  split at hdecision
  · rename_i hlarge
    simp [hdecision, hadmits, hlarge, ComplianceResult.review]
  · rename_i hsmall
    simp [hdecision, hadmits, hsmall, not_lt.mp hsmall]

example : (screenSandboxPaymentWithPolicy .sandboxDefault
    ⟨"CORP_A", " CORP_B", "KCAD_TEST_20260508", 500001⟩).ruleId = "MAX_PAYMENT_AMOUNT" := by
  decide +kernel

end KaniNetwork
