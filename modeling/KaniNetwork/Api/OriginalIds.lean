/-
KaniNetwork.Api.OriginalIds — the original identifiers of a pacs.002
report.

A report takes the ids of the pacs.008 message out of the client reference
of the payment: what stands before and after the last colon. The reference
joins the two ids as they are, so that colon is the one the reference put
there only if the end-to-end id has none of its own. Colons in the message
id do no harm (`original_ids_quoted_iff`).
-/
import KaniNetwork.Api.References
import KaniNetwork.Api.Reports

namespace KaniNetwork

open InMemoryLedger

/-- The report quotes the ids of the message. -/
structure Pacs002PaymentStatus.Quotes (status : Pacs002PaymentStatus) (t : Pacs008CreditTransfer) :
    Prop where
  originalMessageId : status.originalMessageId = t.messageId
  originalEndToEndId : status.originalEndToEndId = t.endToEndId

/-! ## What the report takes from the reference -/

/-- The report's ids where the reference can be taken apart. -/
theorem pacs002_ids_of_some {record : PaymentRecord} {m e : String}
    (h : originalPacs008Ids record = some (m, e)) (toRfc3339 : DateTime → String)
    (now : DateTime) :
    (pacs002StatusFromPayment toRfc3339 now record).originalMessageId = m ∧
      (pacs002StatusFromPayment toRfc3339 now record).originalEndToEndId = e := by
  simp only [pacs002StatusFromPayment, h, Option.getD_some, and_self]

/-- Where it cannot, the reference itself stands for the message id. -/
theorem pacs002_messageId_of_none {record : PaymentRecord} {reference : String}
    (h : originalPacs008Ids record = none) (href : record.clientReferenceId = some reference)
    (toRfc3339 : DateTime → String) (now : DateTime) :
    (pacs002StatusFromPayment toRfc3339 now record).originalMessageId = reference := by
  simp only [pacs002StatusFromPayment, h, Option.getD_none, href, Option.getD_some]

/-- A reference `pacs.008:m:e` is cut at the last colon, where that leaves
a text on both sides. -/
theorem originalPacs008Ids_of_reference {record : PaymentRecord} {m e : String}
    (href : record.clientReferenceId = some ("pacs.008:" ++ m ++ ":" ++ e))
    (he : ':' ∉ e.toList) :
    originalPacs008Ids record =
      if (trim m).isEmpty ∨ (trim e).isEmpty then none else some (trim m, trim e) := by
  have hpayload : stripPrefix ("pacs.008:" ++ m ++ ":" ++ e) "pacs.008:" = some (m ++ ":" ++ e) := by
    have hsplit : "pacs.008:" ++ m ++ ":" ++ e = "pacs.008:" ++ (m ++ ":" ++ e) := by
      simp only [String.append_assoc]
    rw [hsplit]
    exact stripPrefix_append _ _
  have hcut : rsplitOnce (m ++ ":" ++ e) ':' = some (m, e) := rsplitOnce_joined he m
  simp only [originalPacs008Ids, href, Option.bind_eq_bind, Option.bind_some, hpayload, hcut]

/-- A reference is longer than the message id in it. -/
theorem reference_ne (m e : String) : "pacs.008:" ++ m ++ ":" ++ e ≠ m := by
  intro heq
  have hlength := congrArg String.length heq
  simp only [String.length_append] at hlength
  have hstart : ("pacs.008:" : String).length = 9 := rfl
  omega

/-- **A report quotes the ids of the message when the end-to-end id has no
colon.** For every transfer of an accepted message and every payment under
its reference, in any status. -/
theorem original_ids_quoted_iff {parseXml : String → Except String XmlDocument}
    {rawXml : String} {t : Pacs008CreditTransfer}
    (h : parsePacs008CreditTransfer parseXml rawXml = .ok t) {record : PaymentRecord}
    (hrecord : record.clientReferenceId = some (pacs008ClientReferenceId t))
    (toRfc3339 : DateTime → String) (now : DateTime) :
    (pacs002StatusFromPayment toRfc3339 now record).Quotes t ↔ ':' ∉ t.endToEndId.toList := by
  obtain ⟨hmessage, hend⟩ := parsePacs008CreditTransfer_trimmed h
  have hwell := parsePacs008CreditTransfer_wellFormed h
  rw [pacs008ClientReferenceId, hmessage, hend] at hrecord
  constructor
  · intro hquotes hcolon
    obtain ⟨a, b, hjoined, hb⟩ := exists_last_separator hcolon
    have href : record.clientReferenceId =
        some ("pacs.008:" ++ (t.messageId ++ ":" ++ a) ++ ":" ++ b) := by
      have hsingleton : String.singleton ':' = ":" := rfl
      rw [hrecord, hjoined, hsingleton]
      simp only [String.append_assoc]
    have hids := originalPacs008Ids_of_reference href hb
    split at hids
    · -- a blank end: the report has the reference for the message id
      have hreported := pacs002_messageId_of_none hids hrecord toRfc3339 now
      rw [hquotes.originalMessageId] at hreported
      exact reference_ne _ _ hreported.symm
    · -- the end-to-end id of the report has no colon
      obtain ⟨-, hreported⟩ := pacs002_ids_of_some hids toRfc3339 now
      rw [hquotes.originalEndToEndId] at hreported
      rw [hreported] at hcolon
      exact hb (mem_of_mem_trim hcolon)
  · intro hcolon
    have hids := originalPacs008Ids_of_reference hrecord hcolon
    rw [hmessage, hend, hwell.messageId, hwell.endToEndId] at hids
    simp only [Bool.false_eq_true, or_self, if_false] at hids
    obtain ⟨hreportedMessage, hreportedEnd⟩ := pacs002_ids_of_some hids toRfc3339 now
    exact ⟨hreportedMessage, hreportedEnd⟩

/-- The payment a node makes of the transfer, in its second block. -/
def examplePaid (t : Pacs008CreditTransfer) : Option PaymentRecord :=
  (exampleNode.submitPayment (.numbered "p" 2) t.debtorAccount t.creditorAccount t.asset t.amount
    (some (pacs008ClientReferenceId t))
    (exampleNode.run (sandbox (.numbered "s" 0)) (exampleOps.take 1))).2.toOption

/-- Message `m-1` with the end-to-end id `e:1`: the report on its payment
says that it was message `m-1:e` with the end-to-end id `1`. -/
theorem colon_in_end_to_end_id :
    let parseXml := exampleParseXml [("m-1", "e:1")]
    let t := exampleTransfer "m-1" "e:1"
    parsePacs008CreditTransfer parseXml (exampleMessage "m-1" "e:1") = .ok t ∧
      ∃ record, examplePaid t = some record ∧
        record.clientReferenceId = some (pacs008ClientReferenceId t) ∧
        ∀ toRfc3339 now, (pacs002StatusFromPayment toRfc3339 now record).originalMessageId = "m-1:e" ∧
          (pacs002StatusFromPayment toRfc3339 now record).originalEndToEndId = "1" ∧
          ¬ (pacs002StatusFromPayment toRfc3339 now record).Quotes t := by
  intro parseXml t
  have hparse : parsePacs008CreditTransfer parseXml (exampleMessage "m-1" "e:1") = .ok t := by
    rw [parse_exampleMessage (by decide +kernel)]
    decide +kernel
  have hpaid : ((examplePaid t).bind PaymentRecord.clientReferenceId) =
      some (pacs008ClientReferenceId t) := by decide +kernel
  refine ⟨hparse, ?_⟩
  obtain ⟨record, hrecord, href⟩ := Option.bind_eq_some_iff.mp hpaid
  refine ⟨record, hrecord, href, fun toRfc3339 now => ?_⟩
  have hids : originalPacs008Ids record = some ("m-1:e", "1") := by
    have hreference : pacs008ClientReferenceId t = "pacs.008:" ++ "m-1:e" ++ ":" ++ "1" := by
      decide +kernel
    rw [hreference] at href
    rw [originalPacs008Ids_of_reference href (by decide)]
    decide +kernel
  obtain ⟨hm, he⟩ := pacs002_ids_of_some hids toRfc3339 now
  refine ⟨hm, he, fun hquotes => ?_⟩
  have hmessage := hquotes.originalMessageId
  rw [hm] at hmessage
  exact absurd hmessage (by decide)

/-- A colon in the message id does no harm. -/
theorem original_ids_quoted_example :
    ∃ record, examplePaid (exampleTransfer "m:1" "e-1") = some record ∧
      (pacs002StatusFromPayment toString 0 record).Quotes (exampleTransfer "m:1" "e-1") := by
  let parseXml := exampleParseXml [("m:1", "e-1")]
  have hparse : parsePacs008CreditTransfer parseXml (exampleMessage "m:1" "e-1") =
      .ok (exampleTransfer "m:1" "e-1") := by
    rw [parse_exampleMessage (by decide +kernel)]
    decide +kernel
  have hpaid : ((examplePaid (exampleTransfer "m:1" "e-1")).bind PaymentRecord.clientReferenceId) =
      some (pacs008ClientReferenceId (exampleTransfer "m:1" "e-1")) := by decide +kernel
  obtain ⟨record, hrecord, href⟩ := Option.bind_eq_some_iff.mp hpaid
  exact ⟨record, hrecord, (original_ids_quoted_iff hparse href toString 0).mpr (by decide)⟩

end KaniNetwork
