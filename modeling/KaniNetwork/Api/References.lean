/-
KaniNetwork.Api.References — the client references of pacs.008
instructions.

`pacs008_client_reference_id` joins the message id and the end-to-end id
with a colon and does not escape the colons in them, so the reference of
one pair can be the reference of another. `Straddles` says when: the text
between the first separator of one and the second of the other may be read
as the end of a message id or as the beginning of an end-to-end id. For
accepted messages, whose ids are trimmed, that is the only way
(`pacs008ClientReferenceId_eq_iff`), and where it does not happen the two
instructions never meet in the node (`distinct_instructions_iff`).
-/
import KaniNetwork.Api.Requests
import KaniNetwork.Base.Separators
import KaniNetwork.Node.Idempotency

namespace KaniNetwork

open InMemoryLedger

/-! ## References -/

/-- The message id of `t` is that of `t'` with a colon and more text, and
the end-to-end id of `t'` is that text with a colon and the one of `t`. -/
def Pacs008CreditTransfer.Straddles (t t' : Pacs008CreditTransfer) : Prop :=
  ∃ w, t.messageId = t'.messageId ++ ":" ++ w ∧ t'.endToEndId = w ++ ":" ++ t.endToEndId

theorem colon_isSeparator : IsSeparator ":" := ⟨':', [], rfl, List.not_mem_nil⟩

/-- Accepted transfers have one reference when their ids are equal or
straddle. -/
theorem pacs008ClientReferenceId_eq_iff {t t' : Pacs008CreditTransfer}
    (h : trim t.messageId = t.messageId ∧ trim t.endToEndId = t.endToEndId)
    (h' : trim t'.messageId = t'.messageId ∧ trim t'.endToEndId = t'.endToEndId) :
    pacs008ClientReferenceId t = pacs008ClientReferenceId t' ↔
      (t.messageId = t'.messageId ∧ t.endToEndId = t'.endToEndId) ∨
        t.Straddles t' ∨ t'.Straddles t := by
  have hsplit (m e : String) : "pacs.008:" ++ m ++ ":" ++ e = "pacs.008:" ++ (m ++ ":" ++ e) := by
    simp only [String.append_assoc]
  rw [pacs008ClientReferenceId, pacs008ClientReferenceId, h.1, h.2, h'.1, h'.2, hsplit, hsplit]
  rw [String.append_right_inj, joined_eq_iff colon_isSeparator]
  rfl

/-- The key of an accepted instruction is its reference. -/
theorem pacs008_key {parseXml : String → Except String XmlDocument} {rawXml : String}
    {t : Pacs008CreditTransfer} (h : parsePacs008CreditTransfer parseXml rawXml = .ok t)
    {request : ValidatedPaymentRequest} (hrequest : pacs008TransferRequest t = .ok request) :
    normalizedClientReferenceId request.clientReferenceId request.idempotencyKey =
      .ok (some (pacs008ClientReferenceId t)) := by
  obtain ⟨hmessage, hend⟩ := parsePacs008CreditTransfer_trimmed h
  have hwell := parsePacs008CreditTransfer_wellFormed h
  have hne {s : String} (hs : s.isEmpty = false) : s ≠ "" := by
    rintro rfl
    cases hs
  have htrim : trim (pacs008ClientReferenceId t) = pacs008ClientReferenceId t := by
    have hfront := trim_append (by decide : trim "pacs.008:" = "pacs.008:") hmessage (by decide)
      (hne hwell.messageId)
    have hcolon := trim_append hfront (by decide : trim ":" = ":") (by simp) (by decide)
    rw [pacs008ClientReferenceId, hmessage, hend]
    exact trim_append hcolon hend (by simp) (hne hwell.endToEndId)
  have hnonempty : (pacs008ClientReferenceId t).isEmpty = false := by
    simp [pacs008ClientReferenceId]
  simp only [pacs008TransferRequest, bind_eq_ok_iff, pure_eq_ok, Except.ok.injEq] at hrequest
  obtain ⟨_, -, _, -, _, -, _, -, rfl⟩ := hrequest
  simp only [normalizedClientReferenceId, normalizeOptionalId, normalizeOptional,
    Option.bind_some, Option.bind_none, nonEmptyTrimmed, htrim, hnonempty, Bool.false_eq_true,
    if_false]

/-! ## Two instructions in one node -/

/-- A submission or a hold of this payment under the key `k` fails on `l`
with an idempotency conflict. -/
inductive Conflicts (n : KaniNode) (l : InMemoryLedger) (f t a : String) (amount : Int)
    (k : String) : Prop
  | submit (d : Draws) (k' : String)
      (h : (n.submitPayment d f t a amount (some k) l).2 = .error (.idempotencyConflict k'))
  | hold (d : Draws) (caseOpen : ComplianceCaseOpen) (k' : String)
      (h : (n.holdPaymentForReview d f t a amount (some k) caseOpen l).2 =
        .error (.idempotencyConflict k'))

/-- The node answers with payments that carry the key of the call. -/
theorem Paid.key {n : KaniNode} {l : InMemoryLedger} {f t a k : String} {amount : Int}
    {op : NodeOp} {p : PaymentRecord} (h : Paid n l f t a amount k op p) :
    p.clientReferenceId = some k := by
  cases h with
  | submit d l' p h =>
    rcases KaniNode.submitPayment_eq_ok h with ⟨k', hk', hget, -, -⟩ | ⟨-, nonce, hblock⟩
    · cases hk'
      exact (getPaymentByClientReferenceId_eq_some hget).1
    · obtain ⟨⟨now, height, hash, rfl⟩, -⟩ := hblock.payments
      exact Transaction.clientReferenceIdFrom_withRequestMetadata _ _ _
  | hold d caseOpen l' p c h =>
    rcases KaniNode.holdPaymentForReview_eq_ok h with ⟨k', hk', hget, -, -⟩ | ⟨-, -, -, hkey, -⟩
    · cases hk'
      exact (getPaymentByClientReferenceId_eq_some hget).1
    · exact hkey

theorem produceAndApplyLocked_ofBlock (n : KaniNode) (d : Draws) (txs : List Transaction)
    (l : InMemoryLedger) :
    (n.produceAndApplyLocked d txs).Ends l (fun _ _ => True) (fun e _ => e.OfBlock) := by
  unfold KaniNode.produceAndApplyLocked
  split
  · exact .throw trivial
  refine .get_bind (.ofExcept_bind (buildBlock_ofBlock _ _ _ _ _ _) fun block _ => ?_)
  refine .ofExcept_bind (verifyPhase1Block_ofBlock _ _ _ _ _ _) fun _ _ => ?_
  split
  · exact .throw trivial
  · split
    all_goals
      unfold Method.Ends
      trivial

/-- A conflict is met in a stored payment that carries the key. -/
theorem Conflicts.stored {n : KaniNode} {l : InMemoryLedger} {f t a k : String} {amount : Int}
    (h : Conflicts n l f t a amount k) :
    ∃ q, l.getPaymentByClientReferenceId k = some q ∧ q.clientReferenceId = some k := by
  cases hget : l.getPaymentByClientReferenceId k with
  | some q => exact ⟨q, rfl, (getPaymentByClientReferenceId_eq_some hget).1⟩
  | none =>
    -- under an unused key a call fails in its block only, or not at all
    have hfind : KaniNode.findRetried l (some k) = none := by
      simp only [KaniNode.findRetried, Option.bind_some, hget, Option.map_none]
    cases h with
    | submit d k' h =>
      simp only [KaniNode.submitPayment, Method.get_bind, hfind] at h
      have hends := produceAndApplyLocked_ofBlock n (d.sub 1)
        [(Transaction.newTransfer (d.sub 0).stamp f t a amount (l.nextNonce f)).withRequestMetadata
          (some k) (n.requestFingerprint .transfer f t a amount)] l
      unfold Method.Ends at hends
      rcases hrun : n.produceAndApplyLocked (d.sub 1)
        [(Transaction.newTransfer (d.sub 0).stamp f t a amount (l.nextNonce f)).withRequestMetadata
          (some k) (n.requestFingerprint .transfer f t a amount)] l with ⟨l', r⟩
      rw [hrun] at h hends
      cases h
      exact hends.elim
    | hold d caseOpen k' h =>
      obtain ⟨p, c, hrun, -⟩ := n.holdPaymentForReview_new d f t a amount caseOpen hfind
      rw [hrun] at h
      cases h

/-- The node takes the instructions `t` and `t'` for two: their references
differ, so that a submission or a hold of `t'` after one of `t` neither
answers with the payment of `t` nor fails with a conflict it met in that
payment. -/
structure DistinctPayments (t t' : Pacs008CreditTransfer) : Prop where
  references : pacs008ClientReferenceId t ≠ pacs008ClientReferenceId t'
  returned : ∀ {r r' k k'}, pacs008TransferRequest t = .ok r → pacs008TransferRequest t' = .ok r' →
    normalizedClientReferenceId r.clientReferenceId r.idempotencyKey = .ok (some k) →
    normalizedClientReferenceId r'.clientReferenceId r'.idempotencyKey = .ok (some k') →
    ∀ {n l l' op op' p p'}, Paid n l r.fromAccount r.toAccount r.asset r.amount k op p →
      Paid n l' r'.fromAccount r'.toAccount r'.asset r'.amount k' op' p' → ¬ SamePayment p p'
  conflict : ∀ {r r' k k'}, pacs008TransferRequest t = .ok r → pacs008TransferRequest t' = .ok r' →
    normalizedClientReferenceId r.clientReferenceId r.idempotencyKey = .ok (some k) →
    normalizedClientReferenceId r'.clientReferenceId r'.idempotencyKey = .ok (some k') →
    ∀ {n l l' op p}, Paid n l r.fromAccount r.toAccount r.asset r.amount k op p →
      Conflicts n l' r'.fromAccount r'.toAccount r'.asset r'.amount k' →
      ∃ p', l'.getPaymentByClientReferenceId k' = some p' ∧ ¬ SamePayment p p'

/-- **Instructions are distinct payments unless their ids straddle.** Two
accepted pacs.008 messages with different pairs of message id and
end-to-end id have different client references, and never meet in the node,
exactly when neither pair straddles the other. -/
theorem distinct_instructions_iff {parseXml : String → Except String XmlDocument}
    {rawXml rawXml' : String} {t t' : Pacs008CreditTransfer}
    (h : parsePacs008CreditTransfer parseXml rawXml = .ok t)
    (h' : parsePacs008CreditTransfer parseXml rawXml' = .ok t')
    (hne : (t.messageId, t.endToEndId) ≠ (t'.messageId, t'.endToEndId)) :
    DistinctPayments t t' ↔ ¬ t.Straddles t' ∧ ¬ t'.Straddles t := by
  have heq := pacs008ClientReferenceId_eq_iff (parsePacs008CreditTransfer_trimmed h)
    (parsePacs008CreditTransfer_trimmed h')
  constructor
  · intro hdistinct
    exact ⟨fun hs => hdistinct.references (heq.mpr (.inr (.inl hs))),
      fun hs => hdistinct.references (heq.mpr (.inr (.inr hs)))⟩
  · rintro ⟨hs, hs'⟩
    have href : pacs008ClientReferenceId t ≠ pacs008ClientReferenceId t' := by
      intro hsame
      rcases heq.mp hsame with ⟨hm, he⟩ | hsame | hsame
      · exact hne (Prod.ext hm he)
      · exact hs hsame
      · exact hs' hsame
    -- a payment with the key of `t'` is not the one of `t`
    have hother {p p' : PaymentRecord} (hk : p.clientReferenceId = some (pacs008ClientReferenceId t))
        (hk' : p'.clientReferenceId = some (pacs008ClientReferenceId t')) : ¬ SamePayment p p' := by
      intro hsame
      rw [hsame.key, hk] at hk'
      exact href (Option.some.inj hk')
    refine ⟨href, ?_, ?_⟩
    · intro r r' k k' hr hr' hkey hkey' n l l' op op' p p' hpaid hpaid'
      rw [pacs008_key h hr, Except.ok.injEq, Option.some.injEq] at hkey
      rw [pacs008_key h' hr', Except.ok.injEq, Option.some.injEq] at hkey'
      subst hkey hkey'
      exact hother hpaid.key hpaid'.key
    · intro r r' k k' hr hr' hkey hkey' n l l' op p hpaid hconflict
      rw [pacs008_key h hr, Except.ok.injEq, Option.some.injEq] at hkey
      rw [pacs008_key h' hr', Except.ok.injEq, Option.some.injEq] at hkey'
      subst hkey hkey'
      obtain ⟨q, hq, hqkey⟩ := hconflict.stored
      exact ⟨q, hq, hother hpaid.key hqkey⟩

/-- A message of 25 units from `CORP_A` to `CORP_B` with these ids. -/
def exampleMessage (messageId endToEndId : String) : String :=
  "<Document><FIToFICstmrCdtTrf><GrpHdr><MsgId>" ++ messageId ++ "</MsgId></GrpHdr><CdtTrfTxInf>"
    ++ "<PmtId><EndToEndId>" ++ endToEndId ++ "</EndToEndId></PmtId>"
    ++ "<IntrBkSttlmAmt Ccy=\"KCAD_TEST\">25</IntrBkSttlmAmt>"
    ++ "<DbtrAcct><Id><Othr><Id>CORP_A</Id></Othr></Id></DbtrAcct>"
    ++ "<CdtrAcct><Id><Othr><Id>CORP_B</Id></Othr></Id></CdtrAcct>"
    ++ "</CdtTrfTxInf></FIToFICstmrCdtTrf></Document>"

/-- Its tree. -/
def exampleDocument (messageId endToEndId : String) : XmlDocument :=
  let leaf (name text : String) := XmlNode.element name [] [.text text]
  let account (name id : String) := XmlNode.element name []
    [.element "Id" [] [.element "Othr" [] [leaf "Id" id]]]
  { before := []
    rootName := "Document"
    rootAttributes := []
    rootChildren := [.element "FIToFICstmrCdtTrf" []
      [.element "GrpHdr" [] [leaf "MsgId" messageId],
        .element "CdtTrfTxInf" []
          [.element "PmtId" [] [leaf "EndToEndId" endToEndId],
            .element "IntrBkSttlmAmt" [⟨none, "Ccy", KCAD_TEST⟩] [.text "25"],
            account "DbtrAcct" SANDBOX_CORP_A_ACCOUNT,
            account "CdtrAcct" SANDBOX_CORP_B_ACCOUNT]]]
    after := [] }

/-- A parser of these messages with the ids of one list. -/
def exampleParseXml (ids : List (String × String)) (rawXml : String) :
    Except String XmlDocument :=
  match ids.find? fun id => rawXml = exampleMessage id.1 id.2 with
  | some id => .ok (exampleDocument id.1 id.2)
  | none => .error "unknown token at 1:1"

def exampleTransfer (messageId endToEndId : String) : Pacs008CreditTransfer where
  messageId := messageId
  instructionId := none
  endToEndId := endToEndId
  debtorAccount := SANDBOX_CORP_A_ACCOUNT
  creditorAccount := SANDBOX_CORP_B_ACCOUNT
  asset := KCAD_TEST
  amount := 25

/-- An example message is not blank, so it is read from its tree. -/
theorem parse_exampleMessage {ids : List (String × String)} {m e : String}
    (h : ids.find? (fun id => exampleMessage m e = exampleMessage id.1 id.2) = some (m, e)) :
    parsePacs008CreditTransfer (exampleParseXml ids) (exampleMessage m e) =
      parsePacs008CreditTransfer (fun _ => .ok (exampleDocument m e)) "<" := by
  have hmem : '<' ∈ (exampleMessage m e).toList := by
    unfold exampleMessage
    simp only [String.append_assoc, String.toList_append, List.mem_append]
    exact .inl (by decide)
  have hblank : (trim (exampleMessage m e)).isEmpty = false :=
    trim_isEmpty_of_mem hmem (by decide)
  have hdocument : exampleParseXml ids (exampleMessage m e) = .ok (exampleDocument m e) := by
    unfold exampleParseXml
    rw [h]
  exact parsePacs008CreditTransfer_of_document hblank hdocument

/-- The ids `a:b`, `c` and `a`, `b:c`: both messages are accepted and have
the reference `pacs.008:a:b:c`, so the second payment is never made. The
node answers with the first one and leaves the ledger as it is. -/
theorem straddling_instructions_collide :
    let parseXml := exampleParseXml [("a:b", "c"), ("a", "b:c")]
    let t := exampleTransfer "a:b" "c"
    let t' := exampleTransfer "a" "b:c"
    let submit (d : Draws) (t : Pacs008CreditTransfer) :=
      exampleNode.submitPayment d t.debtorAccount t.creditorAccount t.asset t.amount
        (some (pacs008ClientReferenceId t))
    let l := exampleNode.run (sandbox (.numbered "s" 0)) (exampleOps.take 1)
    let l₁ := (submit (.numbered "p" 2) t l).1
    parsePacs008CreditTransfer parseXml (exampleMessage "a:b" "c") = .ok t ∧
      parsePacs008CreditTransfer parseXml (exampleMessage "a" "b:c") = .ok t' ∧
      (t.messageId, t.endToEndId) ≠ (t'.messageId, t'.endToEndId) ∧ ¬ DistinctPayments t t' ∧
      (submit (.numbered "q" 3) t' l₁).2.toOption.map (fun p => p.transaction.id) =
        some (uuidNamed "p-0") ∧
      (submit (.numbered "q" 3) t' l₁).1.payments.values.length = l₁.payments.values.length := by
  intro parseXml t t' submit l l₁
  have hparse : parsePacs008CreditTransfer parseXml (exampleMessage "a:b" "c") = .ok t := by
    rw [parse_exampleMessage (by decide +kernel)]
    decide +kernel
  have hparse' : parsePacs008CreditTransfer parseXml (exampleMessage "a" "b:c") = .ok t' := by
    rw [parse_exampleMessage (by decide +kernel)]
    decide +kernel
  refine ⟨hparse, hparse', by decide, ?_, by decide +kernel, by decide +kernel⟩
  exact fun h => h.references (by decide +kernel)

/-- Without a colon in the ids the instructions are two payments. -/
theorem distinct_instructions_example :
    DistinctPayments (exampleTransfer "m-1" "e-1") (exampleTransfer "m-1" "e-2") := by
  have hlength {a b w : String} (hab : a.length ≤ b.length) : a ≠ b ++ ":" ++ w := by
    rintro rfl
    simp only [String.length_append] at hab
    have hcolon : (":" : String).length = 1 := rfl
    omega
  let parseXml := exampleParseXml [("m-1", "e-1"), ("m-1", "e-2")]
  have hfirst : parsePacs008CreditTransfer parseXml (exampleMessage "m-1" "e-1") =
      .ok (exampleTransfer "m-1" "e-1") := by
    rw [parse_exampleMessage (by decide +kernel)]
    decide +kernel
  have hsecond : parsePacs008CreditTransfer parseXml (exampleMessage "m-1" "e-2") =
      .ok (exampleTransfer "m-1" "e-2") := by
    rw [parse_exampleMessage (by decide +kernel)]
    decide +kernel
  refine (distinct_instructions_iff hfirst hsecond (by decide)).mpr ⟨?_, ?_⟩
  · rintro ⟨w, hw, -⟩
    exact hlength (by decide) hw
  · rintro ⟨w, hw, -⟩
    exact hlength (by decide) hw

end KaniNetwork
