/-
KaniNetwork.Api.ReportXml — when the pacs.002 report of a payment is
well-formed XML.

Two texts of a payment are free: its client reference and the reason of its
failure. Escaping covers the characters that markup is made of, and leaves
the control characters as they are, which XML 1.0 allows in no form. A
report is well-formed exactly when what it quotes of these two texts has
none of them (`pacs002_wellFormed_iff`); trimming takes some away.
-/
import KaniNetwork.Api.OriginalIds
import KaniNetwork.Api.SandboxPayments

namespace KaniNetwork

open InMemoryLedger

/-- The reference reads as one of a pacs.008 message, with a text for both
ids when it is cut at the last colon. -/
structure IsPacs008Reference (reference m e : String) : Prop where
  joined : reference = "pacs.008:" ++ m ++ ":" ++ e
  last : ':' ∉ e.toList
  message : (trim m).isEmpty = false
  endToEnd : (trim e).isEmpty = false

/-- What a report quotes of the reference has only characters that XML
allows: the two ids, trimmed, of a reference that reads as one of a pacs.008
message, and the whole reference otherwise. -/
structure PlainReference (reference : String) : Prop where
  ids : ∀ m e, IsPacs008Reference reference m e → PlainXml (trim m) ∧ PlainXml (trim e)
  whole : (∀ m e, ¬ IsPacs008Reference reference m e) → PlainXml reference

/-- The free texts of a payment, as its report quotes them. -/
structure PaymentRecord.PlainTexts (record : PaymentRecord) : Prop where
  reference : ∀ reference, record.clientReferenceId = some reference → PlainReference reference
  reason : ∀ reason, record.failureReason = some reason → PlainXml (trim reason)

/-! ## The reference -/

theorem originalPacs008Ids_of_isPacs008Reference {record : PaymentRecord} {reference m e : String}
    (href : record.clientReferenceId = some reference) (h : IsPacs008Reference reference m e) :
    originalPacs008Ids record = some (trim m, trim e) := by
  rw [h.joined] at href
  rw [originalPacs008Ids_of_reference href h.last, h.message, h.endToEnd]
  rfl

/-- The ids of a report come from a reference that reads as one of a
message. -/
theorem originalPacs008Ids_eq_some {record : PaymentRecord} {reference a b : String}
    (href : record.clientReferenceId = some reference)
    (h : originalPacs008Ids record = some (a, b)) :
    ∃ m e, IsPacs008Reference reference m e ∧ a = trim m ∧ b = trim e := by
  simp only [originalPacs008Ids, href, Option.bind_eq_bind, Option.bind_some] at h
  obtain ⟨payload, hpayload, h⟩ := Option.bind_eq_some_iff.mp h
  obtain ⟨⟨m, e⟩, hcut, h⟩ := Option.bind_eq_some_iff.mp h
  obtain ⟨hjoined, hlast⟩ := rsplitOnce_eq_some hcut
  dsimp only at h
  split at h
  · cases h
  · rename_i hblank
    simp only [Option.some.injEq, Prod.mk.injEq] at h
    simp only [not_or, Bool.not_eq_true] at hblank
    refine ⟨m, e, ⟨?_, hlast, hblank.1, hblank.2⟩, h.1.symm, h.2.symm⟩
    rw [stripPrefix_eq_some hpayload, hjoined]
    simp only [String.append_assoc]
    rfl

/-- What a report makes of a reference. -/
theorem plainReference_iff {record : PaymentRecord} {reference : String}
    (href : record.clientReferenceId = some reference) (toRfc3339 : DateTime → String)
    (now : DateTime) (hid : PlainXml record.transaction.id) :
    PlainReference reference ↔
      PlainXml (pacs002StatusFromPayment toRfc3339 now record).originalMessageId ∧
        PlainXml (pacs002StatusFromPayment toRfc3339 now record).originalEndToEndId := by
  cases hids : originalPacs008Ids record with
  | some ids =>
    obtain ⟨a, b⟩ := ids
    obtain ⟨m, e, hreference, rfl, rfl⟩ := originalPacs008Ids_eq_some href hids
    obtain ⟨hm, he⟩ := pacs002_ids_of_some hids toRfc3339 now
    rw [hm, he]
    constructor
    · intro h
      exact h.ids m e hreference
    · intro h
      refine ⟨fun m' e' hreference' => ?_, fun hnone => absurd hreference (hnone m e)⟩
      have hsame := originalPacs008Ids_of_isPacs008Reference href hreference'
      rw [hids, Option.some.injEq, Prod.mk.injEq] at hsame
      rw [← hsame.1, ← hsame.2]
      exact h
  | none =>
    have hnone (m e : String) : ¬ IsPacs008Reference reference m e := by
      intro hreference
      rw [originalPacs008Ids_of_isPacs008Reference href hreference] at hids
      cases hids
    have hend : (pacs002StatusFromPayment toRfc3339 now record).originalEndToEndId =
        record.transaction.id := by
      simp only [pacs002StatusFromPayment, hids, Option.getD_none]
    rw [pacs002_messageId_of_none hids href, hend]
    exact ⟨fun h => ⟨h.whole hnone, hid⟩, fun h => ⟨fun m e hm => absurd hm (hnone m e),
      fun _ => h.1⟩⟩

/-! ## The other texts -/

theorem isXmlChar_of_isCodeCharacter {c : Char} (h : isCodeCharacter c = true) :
    isXmlChar c = true := by
  have hascii : 48 ≤ c.toNat ∧ c.toNat ≤ 95 := by
    simp only [isCodeCharacter, Bool.or_eq_true, decide_eq_true_eq] at h
    rcases h with (hupper | hdigit) | rfl
    · replace hupper := of_decide_eq_true hupper
      have hlow : 65 ≤ c.toNat := UInt32.le_iff_toNat_le.mp hupper.1
      have hhigh : c.toNat ≤ 90 := UInt32.le_iff_toNat_le.mp hupper.2
      omega
    · have hbounds := toNat_of_isDigit hdigit
      omega
    · decide
  simp only [isXmlChar, Bool.or_eq_true, Bool.and_eq_true, decide_eq_true_eq]
  omega

theorem isXmlChar_of_uuid {c : Char} (h : c ∈ hexAlphabet ∨ c = '-') : isXmlChar c = true := by
  rcases h with hdigit | rfl
  · exact of_mem_hexAlphabet isXmlChar (by decide) hdigit
  · decide

theorem plainXml_sandboxAccount {id : String} (h : id ∈ sandboxAccounts) : PlainXml id := by
  revert id
  decide

/-- A report of a sandbox payment has allowed characters when the free texts
of the payment have. -/
theorem plain_pacs002StatusFromPayment_iff {record : PaymentRecord}
    (h : FromSandbox record.transaction) {toRfc3339 : DateTime → String}
    (hrfc : ∀ time, PlainXml (toRfc3339 time)) (now : DateTime) :
    (pacs002StatusFromPayment toRfc3339 now record).Plain ↔ record.PlainTexts := by
  constructor
  · intro hplain
    refine ⟨fun reference href => ?_, hplain.statusReason⟩
    exact (plainReference_iff href toRfc3339 now h.id).mpr
      ⟨hplain.originalMessageId, hplain.originalEndToEndId⟩
  · intro htexts
    have hids : PlainXml (pacs002StatusFromPayment toRfc3339 now record).originalMessageId ∧
        PlainXml (pacs002StatusFromPayment toRfc3339 now record).originalEndToEndId := by
      cases href : record.clientReferenceId with
      | some reference =>
        exact (plainReference_iff href toRfc3339 now h.id).mp (htexts.reference reference href)
      | none =>
        have hnone : originalPacs008Ids record = none := by
          simp only [originalPacs008Ids, href, Option.bind_eq_bind, Option.bind_none]
        simp only [pacs002StatusFromPayment, hnone, href, Option.getD_none]
        exact ⟨h.id, h.id⟩
    have hmessage : PlainXml (pacs002StatusFromPayment toRfc3339 now record).messageId := by
      have hstart : PlainXml "pacs.002:" := by decide
      have hcolon : PlainXml ":" := by decide
      have hcode : PlainXml (pacs002StatusCode record.status) := by
        cases record.status <;> decide
      simp only [pacs002StatusFromPayment, plainXml_append]
      exact ⟨⟨⟨hstart, h.id⟩, hcolon⟩, hcode⟩
    exact {
      messageId := hmessage
      createdAt := hrfc now
      originalMessageId := hids.1
      originalMessageNameId := by
        show PlainXml "pacs.008.001.08"
        decide
      originalInstructionId := h.id
      originalEndToEndId := hids.2
      transactionId := h.id
      statusReason := htexts.reason
      asset := fun c hc => isXmlChar_of_isCodeCharacter (List.all_eq_true.mp h.asset c hc)
      debtorAccount := plainXml_sandboxAccount h.fromAccount
      creditorAccount := plainXml_sandboxAccount h.toAccount }

/-- **A report is well-formed XML when the texts it quotes have no
characters that XML forbids.** For every run of requests to a node that
starts as the sandbox, and every payment in its ledger. Uuids and timestamps
are printable. -/
theorem pacs002_wellFormed_iff (state : AppState)
    (hrfc : ∀ time, PlainXml (state.libraries.toRfc3339 time)) (d₀ : Draws) (xs : List Exchange)
    (hids : ∀ x ∈ xs, ∀ path, PlainXml (x.draws path).id) (record : PaymentRecord)
    (hrecord : record ∈ (state.run (sandbox d₀) xs).payments.values) (now : DateTime) :
    WellFormed (buildPacs002StatusReport
        (pacs002StatusFromPayment state.libraries.toRfc3339 now record)).toList ↔
      record.PlainTexts := by
  obtain ⟨id, hid⟩ := HashMap.mem_values.mp hrecord
  have hsandbox := (state.sandboxPayments_run d₀ hids).payments id record hid
  rw [wellFormed_pacs002_iff, plain_pacs002StatusFromPayment_iff hsandbox hrfc]

/-- The example application, with the timestamp of the epoch. -/
def exampleReportState : AppState :=
  { exampleState with
    libraries := ⟨fun _ => .error "", fun _ => none, fun _ => "1970-01-01T00:00:00+00:00", fun _ => ""⟩ }

/-- A mint, and a payment under a client reference. -/
def exampleReportRequests (reference : String) : List Exchange :=
  [⟨.numbered "a" 0, exampleHeaders SANDBOX_TREASURY_INSTITUTION "treasury-key",
      .sandboxMint ⟨SANDBOX_TREASURY_ACCOUNT, SANDBOX_CORP_A_ACCOUNT, KCAD_TEST, 100⟩⟩,
    ⟨.numbered "b" 0, exampleHeaders SANDBOX_CORP_A_INSTITUTION "corp-a-key",
      .createPayment ⟨SANDBOX_CORP_A_ACCOUNT, SANDBOX_CORP_B_ACCOUNT, KCAD_TEST, 60,
        some reference, none⟩⟩]

def exampleReportLedger (reference : String) : InMemoryLedger :=
  exampleReportState.run (sandbox (.numbered "s" 0)) (exampleReportRequests reference)

/-- A control character in the client reference of a finalized payment: the
API accepts it, and the report on the payment is no XML. -/
theorem control_character_in_report :
    ∃ record ∈ (exampleReportLedger "invoice\x01").payments.values,
      record.clientReferenceId = some "invoice\x01" ∧ record.status = .finalized ∧
        ¬ WellFormed (buildPacs002StatusReport (pacs002StatusFromPayment
          exampleReportState.libraries.toRfc3339 0 record)).toList := by
  have hpaid : ∃ record ∈ (exampleReportLedger "invoice\x01").payments.values,
      record.clientReferenceId = some "invoice\x01" ∧ record.status = .finalized ∧
        originalPacs008Ids record = none := by
    decide +kernel
  obtain ⟨record, hrecord, href, hstatus, hnone⟩ := hpaid
  refine ⟨record, hrecord, href, hstatus, fun h => ?_⟩
  have hplain := ((wellFormed_pacs002_iff _).mp h).originalMessageId
  rw [pacs002_messageId_of_none hnone href] at hplain
  exact absurd hplain (by decide)

/-- Numbered uuids are printable. -/
theorem plainXml_numbered (tag : String) (now : DateTime) (path : List Nat) :
    PlainXml (Draws.numbered tag now path).id :=
  fun _ hc => isXmlChar_of_uuid (mem_uuidNamed hc)

/-- Without one the report is well-formed. -/
theorem pacs002_wellFormed_example :
    ∃ record ∈ (exampleReportLedger "invoice <1>").payments.values,
      WellFormed (buildPacs002StatusReport (pacs002StatusFromPayment
        exampleReportState.libraries.toRfc3339 0 record)).toList := by
  have hpaid : ∃ record ∈ (exampleReportLedger "invoice <1>").payments.values,
      record.clientReferenceId = some "invoice <1>" ∧ record.failureReason = none := by
    decide +kernel
  obtain ⟨record, hrecord, href, hreason⟩ := hpaid
  have hrfc (time : DateTime) : PlainXml (exampleReportState.libraries.toRfc3339 time) := by
    show PlainXml "1970-01-01T00:00:00+00:00"
    decide
  refine ⟨record, hrecord, (pacs002_wellFormed_iff exampleReportState hrfc
    (.numbered "s" 0) (exampleReportRequests "invoice <1>") ?_ record hrecord 0).mpr ⟨?_, ?_⟩⟩
  · intro x hx path
    simp only [exampleReportRequests, List.mem_cons, List.not_mem_nil, or_false] at hx
    rcases hx with rfl | rfl
    · exact plainXml_numbered _ 0 path
    · exact plainXml_numbered _ 0 path
  · intro reference hreference
    rw [href, Option.some.injEq] at hreference
    subst hreference
    refine ⟨fun m e h => ?_, fun _ => by decide⟩
    have hfirst := congrArg (fun s : String => s.toList.head?) h.joined
    simp only [String.toList_append, String.append_assoc] at hfirst
    cases hfirst
  · intro reason h
    rw [hreason] at h
    cases h

end KaniNetwork
