/-
KaniNetwork.Node.RetryConflicts — which retries are refused as conflicts.

A retry is compared with the stored payment by fingerprint: a hash of the
fields, one on a line. The lines are not escaped, so where a field contains
a line break, two requests may have one payload: a text between two labels
is the end of one field here and the beginning of the next one there
(`Misread`). With an injective hash the two checks, the one of the node and
the one of the store, tell all other requests apart
(`retry_decided_iff`). Keys are older than fingerprints: a payment may be
stored with a key and without one, and the comparison of the fields that
both checks fall back to there makes no such mistake.
-/
import KaniNetwork.Base.Decimal
import KaniNetwork.Base.Separators
import KaniNetwork.Node.Idempotency
import KaniNetwork.Store.Postgres
import KaniNetwork.Store.Requests

namespace KaniNetwork

open InMemoryLedger

/-! ## The payload -/

/-- The text `request_fingerprint` hashes for a transfer. -/
def transferPayload (f t a : String) (amount : Int) : String :=
  "kind=TRANSFER" ++ "\nfrom=" ++ f ++ "\nto=" ++ t ++ "\nasset=" ++ a ++ "\namount="
    ++ toString amount ++ "\n"

theorem requestFingerprint_transfer (n : KaniNode) (f t a : String) (amount : Int) :
    n.requestFingerprint .transfer f t a amount =
      n.host.hashBytes n.cryptoProfile.hash (utf8Bytes (transferPayload f t a amount)) := rfl

/-- Another transfer whose fields make the same lines: a text that ends the
account `f` or `t` in one of the two begins the account `t` or the asset in
the other. -/
def Misread (f t a f' t' a' : String) : Prop :=
  (f, t, a) ≠ (f', t', a') ∧
    ((a = a' ∧ Overlap "\nto=" f t f' t') ∨
      (∃ w, a' = w ++ "\nasset=" ++ a ∧ Overlap "\nto=" f t f' (t' ++ "\nasset=" ++ w)) ∨
      (∃ w, a = w ++ "\nasset=" ++ a' ∧ Overlap "\nto=" f (t ++ "\nasset=" ++ w) f' t'))

theorem line_isSeparator {label : List Char} (h : '\n' ∉ label) :
    IsSeparator (String.ofList ('\n' :: label)) :=
  ⟨'\n', label, String.toList_ofList, h⟩

/-- The accounts of the payload. -/
theorem accounts_eq_iff (head f t f' t' : String) :
    head ++ f ++ "\nto=" ++ t = head ++ f' ++ "\nto=" ++ t' ↔ Overlap "\nto=" f t f' t' := by
  have hsep : IsSeparator "\nto=" := line_isSeparator (show '\n' ∉ ['t', 'o', '='] by decide)
  have hsplit (f t : String) : head ++ f ++ "\nto=" ++ t = head ++ (f ++ "\nto=" ++ t) := by
    simp only [String.append_assoc]
  rw [hsplit, hsplit, String.append_right_inj, joined_eq_iff hsep]

/-- The accounts and the asset of the payload. -/
theorem fields_eq_iff (head f t a f' t' a' : String) :
    head ++ f ++ "\nto=" ++ t ++ "\nasset=" ++ a = head ++ f' ++ "\nto=" ++ t' ++ "\nasset=" ++ a' ↔
      (f, t, a) = (f', t', a') ∨ Misread f t a f' t' a' := by
  have hsep : IsSeparator "\nasset=" :=
    line_isSeparator (show '\n' ∉ ['a', 's', 's', 'e', 't', '='] by decide)
  have hlonger (f t w : String) : head ++ f ++ "\nto=" ++ t ++ "\nasset=" ++ w =
      head ++ f ++ "\nto=" ++ (t ++ "\nasset=" ++ w) := by
    simp only [String.append_assoc]
  by_cases heq : (f, t, a) = (f', t', a')
  · obtain ⟨rfl, rfl, rfl⟩ : f = f' ∧ t = t' ∧ a = a' := by simpa using heq
    simp only [true_or]
  simp only [heq, false_or, Misread, ne_eq, not_false_eq_true, true_and]
  rw [joined_eq_iff hsep]
  constructor
  · intro h
    rcases h with ⟨haccounts, ha⟩ | ⟨w, haccounts, ha⟩ | ⟨w, haccounts, ha⟩
    · exact .inl ⟨ha, (accounts_eq_iff head f t f' t').mp haccounts⟩
    · rw [hlonger] at haccounts
      exact .inr (.inl ⟨w, ha, (accounts_eq_iff head _ _ _ _).mp haccounts⟩)
    · rw [hlonger] at haccounts
      exact .inr (.inr ⟨w, ha, (accounts_eq_iff head _ _ _ _).mp haccounts.symm⟩)
  · intro h
    rcases h with ⟨ha, hoverlap⟩ | ⟨w, ha, hoverlap⟩ | ⟨w, ha, hoverlap⟩
    · exact .inl ⟨(accounts_eq_iff head f t f' t').mpr hoverlap, ha⟩
    · refine .inr (.inl ⟨w, ?_, ha⟩)
      rw [hlonger]
      exact (accounts_eq_iff head _ _ _ _).mpr hoverlap
    · refine .inr (.inr ⟨w, ?_, ha⟩)
      rw [hlonger]
      exact ((accounts_eq_iff head _ _ _ _).mpr hoverlap).symm

/-- A number has no line break in it. -/
theorem newline_notMem_toString (n : Int) : '\n' ∉ (toString n).toList := by
  intro h
  rcases isDigit_or_of_mem_toString h with hdigit | hsign
  · cases hdigit
  · exact absurd hsign (by decide)

/-- **One payload** is that of one transfer, or of two that are misread. -/
theorem transferPayload_eq_iff (f t a f' t' a' : String) (n n' : Int) :
    transferPayload f t a n = transferPayload f' t' a' n' ↔
      n = n' ∧ ((f, t, a) = (f', t', a') ∨ Misread f t a f' t' a') := by
  have hsep : IsSeparator "\namount=" :=
    line_isSeparator (show '\n' ∉ ['a', 'm', 'o', 'u', 'n', 't', '='] by decide)
  have hnewline : '\n' ∈ ("\namount=" : String).toList := by decide
  unfold transferPayload
  rw [String.append_left_inj, joined_eq_iff hsep,
    overlap_of_notMem hnewline (newline_notMem_toString n) (newline_notMem_toString n'),
    fields_eq_iff, and_comm]
  constructor
  · intro h
    exact ⟨toString_int_injective h.1, h.2⟩
  · intro h
    exact ⟨congrArg toString h.1, h.2⟩

/-- Fields without line breaks are not misread. -/
theorem not_misread_of_plain {f t a : String} (hf : '\n' ∉ f.toList) (ht : '\n' ∉ t.toList)
    (ha : '\n' ∉ a.toList) (f' t' a' : String) : ¬ Misread f t a f' t' a' := by
  have hto : '\n' ∈ ("\nto=" : String).toList := by decide
  have hasset : '\n' ∈ ("\nasset=" : String).toList := by decide
  have hjoined {x y sep : String} (hsep : '\n' ∈ sep.toList) : '\n' ∈ (x ++ sep ++ y).toList := by
    simp only [String.toList_append, List.mem_append]
    exact .inl (.inr hsep)
  -- a pair without line breaks overlaps with itself only
  have hoverlap {x y : String} (h : Overlap "\nto=" f t x y) : f = x ∧ t = y := by
    rcases h with heq | ⟨w, hw, -⟩ | ⟨w, -, hw⟩
    · exact heq
    · exact absurd (hw ▸ hjoined hto) hf
    · exact absurd (hw ▸ hjoined hto) ht
  intro h
  obtain ⟨hne, ⟨rfl, h⟩ | ⟨w, -, h⟩ | ⟨w, hw, -⟩⟩ := h
  · obtain ⟨rfl, rfl⟩ := hoverlap h
    exact hne rfl
  · exact ht ((hoverlap h).2 ▸ hjoined hasset)
  · exact ha (hw ▸ hjoined hasset)

/-! ## Stored transfers -/

/-- The same request at a later time: its status, its block and its
timestamps may be others. -/
structure PaymentRecord.SameRequest (p p' : PaymentRecord) : Prop where
  kind : p'.transaction.kind = p.transaction.kind
  fromAccount : p'.transaction.fromAccount = p.transaction.fromAccount
  toAccount : p'.transaction.toAccount = p.transaction.toAccount
  asset : p'.transaction.asset = p.transaction.asset
  amount : p'.transaction.amount = p.transaction.amount
  key : p'.clientReferenceId = p.clientReferenceId
  fingerprint : p'.requestFingerprint = p.requestFingerprint

/-- A transfer stored under the key `k`: a payment of the ledger of a
running node that carries the key, the record `submit_payment` or
`hold_payment_for_review` writes to the database, or a transfer that was
stored before payments had fingerprints; and what becomes of it. -/
inductive StoredTransfer (n : KaniNode) (k : String) : PaymentRecord → Prop
  | memory (d₀ : Draws) (ops : List NodeOp) (id : String) (p : PaymentRecord)
      (hp : (n.run (sandbox d₀) ops).payments.lookup id = some p)
      (hk : p.clientReferenceId = some k) : StoredTransfer n k p
  | enqueued (now : DateTime) (stamp : Stamp) (f t a : String) (amount nonce : Int) :
      StoredTransfer n k (.enqueued now
        ((Transaction.newTransfer stamp f t a amount nonce).withRequestMetadata (some k)
          (n.requestFingerprint .transfer f t a amount))
        (some k) (some (n.requestFingerprint .transfer f t a amount)))
  | onHold (now : DateTime) (stamp : Stamp) (f t a : String) (amount nonce : Int)
      (reason : String) :
      StoredTransfer n k (.onHold now
        ((Transaction.newTransfer stamp f t a amount nonce).withRequestMetadata (some k)
          (n.requestFingerprint .transfer f t a amount))
        reason (some k) (some (n.requestFingerprint .transfer f t a amount)))
  | unfingerprinted (p : PaymentRecord) (hkind : p.transaction.kind = .transfer)
      (hk : p.clientReferenceId = some k) (hfingerprint : p.requestFingerprint = none) :
      StoredTransfer n k p
  | later {p p' : PaymentRecord} (h : StoredTransfer n k p) (hsame : p.SameRequest p') :
      StoredTransfer n k p'

/-- The record of a transfer; its fingerprint, if it has one, is that of its
own fields. -/
structure OwnRequest (n : KaniNode) (p : PaymentRecord) : Prop where
  kind : p.transaction.kind = .transfer
  fingerprint : ∀ fingerprint, p.requestFingerprint = some fingerprint →
    fingerprint = n.requestFingerprint .transfer p.transaction.fromAccount
      p.transaction.toAccount p.transaction.asset p.transaction.amount

/-- Every payment of the ledger that carries a key is one of a transfer,
with no other fingerprint than its own. -/
def Fingerprinted (n : KaniNode) (l : InMemoryLedger) : Prop :=
  ∀ id p k, l.payments.lookup id = some p → p.clientReferenceId = some k → OwnRequest n p

theorem OwnRequest.of_same {n : KaniNode} {p p' : PaymentRecord} (h : OwnRequest n p)
    (hsame : p.SameRequest p') : OwnRequest n p' := by
  refine ⟨hsame.kind.trans h.kind, fun fingerprint hfingerprint => ?_⟩
  rw [hsame.fingerprint] at hfingerprint
  rw [hsame.fromAccount, hsame.toAccount, hsame.asset, hsame.amount]
  exact h.fingerprint fingerprint hfingerprint

/-- A record of a new transfer that has its fingerprint. -/
theorem ownRequest_of_transfer {n : KaniNode} {p : PaymentRecord} (stamp : Stamp)
    {f t a : String} {amount : Int} (nonce : Int) (key : Option String)
    (htx : p.transaction = (Transaction.newTransfer stamp f t a amount nonce).withRequestMetadata
      key (n.requestFingerprint .transfer f t a amount))
    (hfingerprint : p.requestFingerprint = some (n.requestFingerprint .transfer f t a amount)) :
    OwnRequest n p := by
  have hown : p.requestFingerprint = some (n.requestFingerprint .transfer p.transaction.fromAccount
      p.transaction.toAccount p.transaction.asset p.transaction.amount) := by
    rw [htx, hfingerprint]
    cases key <;> rfl
  refine ⟨?_, fun fingerprint h => Option.some.inj (h.symm.trans hown)⟩
  rw [htx]
  cases key <;> rfl

theorem fingerprinted_insert {n : KaniNode} {l l' : InMemoryLedger} (h : Fingerprinted n l)
    {id : String} {p : PaymentRecord} (hl' : l'.payments = l.payments.insert id p)
    (hp : ∀ k, p.clientReferenceId = some k → OwnRequest n p) : Fingerprinted n l' := by
  intro id' p' k hp' hk
  rw [hl', HashMap.lookup_insert_eq] at hp'
  split at hp'
  · cases hp'
    exact hp k hk
  · exact h id' p' k hp' hk

theorem fingerprinted_produced {n : KaniNode} {l l' : InMemoryLedger} {tx : Transaction}
    {p : PaymentRecord} (h : Fingerprinted n l) (hblock : n.Produced l tx l' p)
    (htx : ∀ now height hash k, clientReferenceIdFrom tx = some k →
      OwnRequest n (.finalized now tx height hash)) : Fingerprinted n l' := by
  obtain ⟨⟨now, height, hash, rfl⟩, hpayments⟩ := hblock.payments
  exact fingerprinted_insert h hpayments fun k hk => htx now height hash k hk

/-- A call that draws no transaction id files no new payment. -/
theorem fingerprinted_transition {n : KaniNode} {op : NodeOp} {l l' : InMemoryLedger}
    (h : Fingerprinted n l) (ht : n.Transition op l l') (hop : op.drawnId = none) :
    Fingerprinted n l' := by
  cases ht with
  | unchanged => exact h
  | admin _ hpayments hblocks =>
    intro id p k hp hk
    rw [hpayments] at hp
    exact h id p k hp hk
  | resolved c p p' c' hp htx hkey hfp =>
    refine fingerprinted_insert h rfl fun k hk => ?_
    have hsame : p.SameRequest p' :=
      ⟨by rw [htx], by rw [htx], by rw [htx], by rw [htx], by rw [htx], hkey, hfp⟩
    exact (h _ p k hp (hkey.symm.trans hk)).of_same hsame
  | held p c hid hnew =>
    rw [hop] at hid
    cases hid
  | produced tx _ p hid hnew hblock =>
    rw [hop] at hid
    cases hid

/-- Every call keeps the fingerprints. -/
theorem fingerprinted_step {n : KaniNode} {l : InMemoryLedger} (h : Fingerprinted n l)
    (op : NodeOp) : Fingerprinted n (n.step l op) := by
  cases op with
  | submitPayment d f t a amount key =>
    refine (n.submitPayment_commits d f t a amount key).preserves h fun l' p hok => ?_
    rcases KaniNode.submitPayment_eq_ok hok with ⟨_, _, _, _, rfl⟩ | ⟨_, nonce, hblock⟩
    · exact h
    · refine fingerprinted_produced h hblock fun now height hash k hk => ?_
      cases Transaction.clientReferenceIdFrom_tagged hk
      exact ownRequest_of_transfer _ nonce (some k) rfl
        (Transaction.requestFingerprintFrom_withRequestMetadata _ _ _)
  | holdPaymentForReview d f t a amount key caseOpen =>
    show Fingerprinted n (n.holdPaymentForReview d f t a amount key caseOpen l).1
    cases hfind : KaniNode.findRetried l key with
    | some kp =>
      rw [n.holdPaymentForReview_retried d f t a amount caseOpen hfind]
      exact h
    | none =>
      obtain ⟨p, c, hrun, hp, -⟩ := n.holdPaymentForReview_new d f t a amount caseOpen hfind
      rw [hrun]
      refine fingerprinted_insert h rfl fun k _ => ?_
      exact ownRequest_of_transfer (d.sub 0).stamp _ key (by rw [hp]; rfl) (by rw [hp]; rfl)
  | mintSandbox d treasury t a amount =>
    refine (n.mintSandbox_commits d treasury t a amount).preserves h fun l' p hok => ?_
    obtain ⟨nonce, hblock⟩ := KaniNode.mintSandbox_eq_ok hok
    exact fingerprinted_produced h hblock fun _ _ _ k hk => by cases hk
  | burnSandbox d f treasury a amount =>
    have hcommits : (n.burnSandbox d f treasury a amount).Commits :=
      .get_bind fun _ => n.produceAndApplyLocked_commits _ _
    refine hcommits.preserves h fun l' p hok => ?_
    obtain ⟨nonce, hblock⟩ := KaniNode.burnSandbox_eq_ok hok
    exact fingerprinted_produced h hblock fun _ _ _ k hk => by cases hk
  | approveComplianceCase => exact fingerprinted_transition h (n.step_transition l _) rfl
  | rejectComplianceCase => exact fingerprinted_transition h (n.step_transition l _) rfl
  | upsertInstitution => exact fingerprinted_transition h (n.step_transition l _) rfl
  | suspendInstitution => exact fingerprinted_transition h (n.step_transition l _) rfl
  | addInstitutionCredential => exact fingerprinted_transition h (n.step_transition l _) rfl
  | upsertInstitutionLimit => exact fingerprinted_transition h (n.step_transition l _) rfl
  | recordAuditEvent => exact fingerprinted_transition h (n.step_transition l _) rfl

theorem fingerprinted_run (n : KaniNode) (d₀ : Draws) (ops : List NodeOp) :
    Fingerprinted n (n.run (sandbox d₀) ops) := by
  refine KaniNode.run_induct_step (P := Fingerprinted n)
    (fun _ op h => fingerprinted_step h op) ?_ ops
  intro id p k hp
  rw [sandbox_payments, AList.lookup_empty] at hp
  cases hp

/-- Whatever is stored under a key is a transfer with no other fingerprint
than its own. -/
theorem StoredTransfer.ownRequest {n : KaniNode} {k : String} {p : PaymentRecord}
    (h : StoredTransfer n k p) : OwnRequest n p := by
  induction h with
  | memory d₀ ops id p hp hk => exact fingerprinted_run n d₀ ops id p k hp hk
  | enqueued now stamp f t a amount nonce => exact ownRequest_of_transfer stamp nonce (some k) rfl rfl
  | onHold now stamp f t a amount nonce => exact ownRequest_of_transfer stamp nonce (some k) rfl rfl
  | unfingerprinted p hkind hk hfingerprint =>
    refine ⟨hkind, fun fingerprint h => ?_⟩
    rw [hfingerprint] at h
    cases h
  | later h hsame ih => exact ih.of_same hsame

/-- A payment read back from the row it was stored as. -/
theorem StoredTransfer.joinBlock_ofPayment {n : KaniNode} {k : String} {p : PaymentRecord}
    (h : StoredTransfer n k p) (db : Database) : StoredTransfer n k (db.joinBlock (.ofPayment p)) :=
  .later h ⟨rfl, rfl, rfl, rfl, rfl, rfl, rfl⟩

/-- Rows of one request are read back as records of one request. -/
theorem TransactionRow.SameRequest.joinBlock {r r' : TransactionRow} (h : r.SameRequest r')
    (db db' : Database) : (db.joinBlock r).SameRequest (db'.joinBlock r') := by
  have htx := h.transaction
  simp only [TransactionRow.toTransaction, Transaction.mk.injEq] at htx
  obtain ⟨-, hfrom, hto, hasset, hamount, -, -, hkind, -⟩ := htx
  exact ⟨hkind, hfrom, hto, hasset, hamount, h.key, h.fingerprint⟩

/-! ## Retries -/

/-- The transfer asked for is the one stored. -/
def SameTransfer (p : PaymentRecord) (f t a : String) (amount : Int) : Prop :=
  f = p.transaction.fromAccount ∧ t = p.transaction.toAccount ∧ a = p.transaction.asset ∧
    amount = p.transaction.amount

instance (p : PaymentRecord) (f t a : String) (amount : Int) :
    Decidable (SameTransfer p f t a amount) :=
  inferInstanceAs (Decidable (_ ∧ _))

/-- Both checks accept the retry of this transfer under the key `k` if it is
the one stored, and refuse it as a conflict otherwise. -/
structure Decided (n : KaniNode) (k : String) (p : PaymentRecord) (f t a : String)
    (amount : Int) : Prop where
  node : ensureIdempotentRetry p (retryOf n f t a amount k) =
    if SameTransfer p f t a amount then .ok () else .error (.idempotencyConflict k)
  store : ∀ stamp nonce, PostgresLedgerStore.ensureIdempotentRetry p
      ((Transaction.newTransfer stamp f t a amount nonce).withRequestMetadata (some k)
        (n.requestFingerprint .transfer f t a amount))
      k (some (n.requestFingerprint .transfer f t a amount)) =
    if SameTransfer p f t a amount then .ok ()
    else .error (.idempotencyConflict k p.transaction.id)

/-- The retry is for the stored amount, and for other fields that make the
same lines, and there is a fingerprint to be taken in by. -/
structure MisreadRetry (p : PaymentRecord) (f t a : String) (amount : Int) : Prop where
  fingerprinted : p.requestFingerprint.isSome = true
  amount : amount = p.transaction.amount
  misread : Misread p.transaction.fromAccount p.transaction.toAccount p.transaction.asset f t a

section

variable {n : KaniNode} {k : String} {p : PaymentRecord}

/-- With a fingerprint both checks compare the payloads. -/
theorem matches_iff (hinjective : Function.Injective (n.host.hashBytes n.cryptoProfile.hash))
    (hp : OwnRequest n p) (hsome : p.requestFingerprint.isSome = true) (f t a : String)
    (amount : Int) :
    (retryOf n f t a amount k).matches p = true ↔
      transferPayload p.transaction.fromAccount p.transaction.toAccount p.transaction.asset
        p.transaction.amount = transferPayload f t a amount := by
  obtain ⟨fingerprint, hfingerprint⟩ := Option.isSome_iff_exists.mp hsome
  have hown := hp.fingerprint fingerprint hfingerprint
  have hmatches : (retryOf n f t a amount k).matches p = true ↔
      n.requestFingerprint .transfer p.transaction.fromAccount p.transaction.toAccount
        p.transaction.asset p.transaction.amount = n.requestFingerprint .transfer f t a amount := by
    unfold IdempotencyAttempt.matches
    rw [hfingerprint, hown]
    exact decide_eq_true_iff
  rw [hmatches, requestFingerprint_transfer, requestFingerprint_transfer]
  constructor
  · intro h
    exact utf8Bytes_injective (hinjective h)
  · intro h
    rw [h]

/-- Without one they compare the fields. -/
theorem matches_unfingerprinted_iff (hp : OwnRequest n p) (hnone : p.requestFingerprint = none)
    (f t a : String) (amount : Int) :
    (retryOf n f t a amount k).matches p = true ↔ SameTransfer p f t a amount := by
  unfold IdempotencyAttempt.matches
  rw [hnone]
  simp only [Bool.and_eq_true, decide_eq_true_eq, and_assoc]
  simp only [retryOf, hp.kind, true_and, SameTransfer, eq_comm]

/-- The check of the store makes the comparison the node makes. -/
theorem retryMatches_eq (stamp : Stamp) (nonce : Int) (f t a : String) (amount : Int) :
    retryMatches p ((Transaction.newTransfer stamp f t a amount nonce).withRequestMetadata (some k)
        (n.requestFingerprint .transfer f t a amount))
        (some (n.requestFingerprint .transfer f t a amount)) =
      (retryOf n f t a amount k).matches p := by
  unfold retryMatches IdempotencyAttempt.matches
  cases p.requestFingerprint <;> rfl

/-- What is accepted is what is stored, and what is misread. -/
theorem matches_iff_or_misread
    (hinjective : Function.Injective (n.host.hashBytes n.cryptoProfile.hash))
    (hp : OwnRequest n p) (f t a : String) (amount : Int) :
    (retryOf n f t a amount k).matches p = true ↔
      SameTransfer p f t a amount ∨ MisreadRetry p f t a amount := by
  cases hfingerprint : p.requestFingerprint with
  | none =>
    rw [matches_unfingerprinted_iff hp hfingerprint]
    constructor
    · exact Or.inl
    · rintro (h | ⟨hsome, -, -⟩)
      · exact h
      · rw [hfingerprint] at hsome
        cases hsome
  | some fingerprint =>
    have hsome : p.requestFingerprint.isSome = true := by rw [hfingerprint]; rfl
    rw [matches_iff hinjective hp hsome, transferPayload_eq_iff, SameTransfer]
    simp only [Prod.mk.injEq]
    constructor
    · intro h
      obtain ⟨hamount, ⟨hf, ht, ha⟩ | hmisread⟩ := h
      · exact .inl ⟨hf.symm, ht.symm, ha.symm, hamount.symm⟩
      · exact .inr ⟨hsome, hamount.symm, hmisread⟩
    · intro h
      rcases h with ⟨hf, ht, ha, hamount⟩ | ⟨-, hamount, hmisread⟩
      · exact ⟨hamount.symm, .inl ⟨hf.symm, ht.symm, ha.symm⟩⟩
      · exact ⟨hamount.symm, .inr hmisread⟩

/-- Both checks decide a retry as they should, unless it is misread. -/
theorem OwnRequest.decided_iff
    (hinjective : Function.Injective (n.host.hashBytes n.cryptoProfile.hash))
    (hp : OwnRequest n p) (f t a : String) (amount : Int) :
    Decided n k p f t a amount ↔ ¬ MisreadRetry p f t a amount := by
  have hiff := matches_iff_or_misread (k := k) hinjective hp f t a amount
  have hdisjoint : SameTransfer p f t a amount → ¬ MisreadRetry p f t a amount := by
    rintro ⟨rfl, rfl, rfl, -⟩ hmisread
    exact hmisread.misread.1 rfl
  constructor
  · intro hdecided hmisread
    have haccepted := hdecided.node
    rw [ensureIdempotentRetry, if_pos (hiff.mpr (.inr hmisread)),
      if_neg fun hsame => hdisjoint hsame hmisread] at haccepted
    cases haccepted
  · intro hread
    simp only [hread, or_false] at hiff
    constructor
    · rw [ensureIdempotentRetry]
      simp only [hiff]
      rfl
    · intro stamp nonce
      rw [PostgresLedgerStore.ensureIdempotentRetry, retryMatches_eq]
      simp only [hiff]

/-- **Conflicts are detected unless the fields are misread.** For an
injective hash, a transfer stored under a key, and a retry of that key with
any fields: both checks decide as they should, except where the transfer has
a fingerprint and the retry is for the same amount and for other accounts and
asset that make the same lines. -/
theorem retry_decided_iff
    (hinjective : Function.Injective (n.host.hashBytes n.cryptoProfile.hash))
    (hp : StoredTransfer n k p) (f t a : String) (amount : Int) :
    Decided n k p f t a amount ↔ ¬ MisreadRetry p f t a amount :=
  hp.ownRequest.decided_iff hinjective f t a amount

end

/-! ## A host with an injective hash -/

/-- A host whose digests spell the bytes out. -/
def spellingHost : Host where
  arith := .exact
  hashBytes := fun _ bytes => String.ofList (bytes.map fun byte => Char.ofNat byte.toNat)
  blockToVec := fun b => List.replicate b.height.toNat 0

theorem spellingHost_injective (algorithm : HashAlgorithm) :
    Function.Injective (spellingHost.hashBytes algorithm) := by
  have hbyte : Function.Injective fun byte : UInt8 => Char.ofNat byte.toNat := by
    intro b b' h
    have hvalid (b : UInt8) : (Char.ofNat b.toNat).toNat = b.toNat := by
      have hlt := b.toNat_lt
      unfold Char.ofNat
      rw [dif_pos (show b.toNat.isValidChar from .inl (by omega))]
      rfl
    have htoNat := congrArg Char.toNat h
    rw [hvalid, hvalid] at htoNat
    exact UInt8.toNat_inj.mp htoNat
  intro bytes bytes' h
  have hlist := congrArg String.toList h
  simp only [spellingHost, String.toList_ofList] at hlist
  exact List.map_injective_iff.mpr hbyte hlist

/-- A node of the sandbox with this hash. -/
def spellingNode : KaniNode := { exampleNode with host := spellingHost }

/-- A transfer of 5 units held under the key `k-1`. -/
def heldUnderKey (f t : String) : NodeOp :=
  .holdPaymentForReview (.numbered "h" 1) f t KCAD_TEST 5 (some "k-1")
    ⟨"", "v1", "rule", "manual review", SANDBOX_CORP_A_INSTITUTION⟩

/-- The payment of the hold is stored under the key. -/
theorem heldUnderKey_stored (f t : String) :
    ∃ p, StoredTransfer spellingNode "k-1" p ∧ p.transaction.fromAccount = f ∧
      p.transaction.toAccount = t ∧ p.transaction.asset = KCAD_TEST ∧ p.transaction.amount = 5 ∧
      p.requestFingerprint.isSome = true := by
  have hnone : KaniNode.findRetried (sandbox (.numbered "s" 0)) (some "k-1") = none := by
    decide +kernel
  obtain ⟨p, c, hrun, hp, -⟩ := spellingNode.holdPaymentForReview_new (.numbered "h" 1) f t
    KCAD_TEST 5 ⟨"", "v1", "rule", "manual review", SANDBOX_CORP_A_INSTITUTION⟩ hnone
  refine ⟨p, .memory (.numbered "s" 0) [heldUnderKey f t] p.transaction.id p ?_ ?_, ?_⟩
  · have hstep : spellingNode.run (sandbox (.numbered "s" 0)) [heldUnderKey f t] =
        (sandbox (.numbered "s" 0)).filePaymentAndCase p c := congrArg Prod.fst hrun
    rw [hstep]
    exact AList.lookup_insert _
  · rw [hp]
    rfl
  · rw [hp]
    exact ⟨rfl, rfl, rfl, rfl, rfl⟩

/-- A transfer from the account `A` and a line `to=B` to `C` is stored. The
retry of its key with a transfer from `A` to `B` and a line `to=C` is
accepted by both checks, and the node answers it with the stored payment. -/
theorem misread_retry_accepted :
    Function.Injective (spellingNode.host.hashBytes spellingNode.cryptoProfile.hash) ∧
      (∃ p, StoredTransfer spellingNode "k-1" p ∧ p.transaction.fromAccount = "A\nto=B" ∧
        p.transaction.toAccount = "C" ∧ p.transaction.asset = KCAD_TEST ∧
        p.transaction.amount = 5 ∧
        ensureIdempotentRetry p (retryOf spellingNode "A" "B\nto=C" KCAD_TEST 5 "k-1") = .ok () ∧
        ¬ Decided spellingNode "k-1" p "A" "B\nto=C" KCAD_TEST 5) ∧
      (spellingNode.submitPayment (.numbered "r" 2) "A" "B\nto=C" KCAD_TEST 5 (some "k-1")
        (spellingNode.run (sandbox (.numbered "s" 0)) [heldUnderKey "A\nto=B" "C"])).2.toOption.map
          (fun p => p.transaction.fromAccount) = some "A\nto=B" := by
  have hinjective := spellingHost_injective spellingNode.cryptoProfile.hash
  refine ⟨hinjective, ?_, by decide +kernel⟩
  obtain ⟨p, hp, hf, ht, ha, hamount, hfingerprinted⟩ := heldUnderKey_stored "A\nto=B" "C"
  have hmatches : (retryOf spellingNode "A" "B\nto=C" KCAD_TEST 5 "k-1").matches p = true := by
    rw [matches_iff hinjective hp.ownRequest hfingerprinted, hf, ht, ha, hamount]
    decide +kernel
  refine ⟨p, hp, hf, ht, ha, hamount, ?_, fun hdecided => ?_⟩
  · rw [ensureIdempotentRetry, if_pos hmatches]
  · have haccepted := hdecided.node
    have hother : ¬ SameTransfer p "A" "B\nto=C" KCAD_TEST 5 := by
      intro hsame
      have hfrom := hsame.1
      rw [hf] at hfrom
      exact absurd hfrom (by decide)
    rw [ensureIdempotentRetry, if_pos hmatches, if_neg hother] at haccepted
    cases haccepted

/-- A transfer stored with a key and no fingerprint, line breaks and all. -/
def unfingerprintedTransfer : PaymentRecord :=
  .enqueued 1 (.newTransfer ⟨"h-0", 1⟩ "A\nto=B" "C" KCAD_TEST 5 1) (some "k-1") none

/-- No retry is misread where the stored accounts have no line breaks, or
where there is no fingerprint. -/
theorem retry_decided_example :
    (∃ p, StoredTransfer spellingNode "k-1" p ∧ p.requestFingerprint.isSome = true ∧
        ∀ f t a amount, Decided spellingNode "k-1" p f t a amount) ∧
      ∀ f t a amount, Decided spellingNode "k-1" unfingerprintedTransfer f t a amount := by
  refine ⟨?_, fun f t a amount => ?_⟩
  · obtain ⟨p, hp, hf, ht, ha, -, hfingerprinted⟩ :=
      heldUnderKey_stored SANDBOX_CORP_A_ACCOUNT SANDBOX_CORP_B_ACCOUNT
    refine ⟨p, hp, hfingerprinted, fun f t a amount => ?_⟩
    refine (retry_decided_iff (spellingHost_injective _) hp f t a amount).mpr fun hretry => ?_
    have hmisread := hretry.misread
    rw [hf, ht, ha] at hmisread
    exact not_misread_of_plain (by decide) (by decide) (by decide) f t a hmisread
  · have hp : StoredTransfer spellingNode "k-1" unfingerprintedTransfer :=
      .unfingerprinted _ rfl rfl rfl
    refine (retry_decided_iff (spellingHost_injective _) hp f t a amount).mpr fun hretry => ?_
    exact absurd hretry.fingerprinted (by decide)

end KaniNetwork
