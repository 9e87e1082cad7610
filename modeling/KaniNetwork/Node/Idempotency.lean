/-
KaniNetwork.Node.Idempotency — one payment per idempotency key in memory
mode.

`Keyed` is the invariant: every record is filed under its transaction id,
and no two records carry one key. It makes the scan for a key well
defined whatever the order of the map. `Continues` is what time does to a
record: its status moves, its transaction, key and fingerprint stay, and
no record disappears. Both are preserved by every transition whose new
transaction id is fresh; together they give `submit_retry`.
-/
import KaniNetwork.Node.MemoryTheorems

namespace KaniNetwork

open InMemoryLedger

/-- Records are filed under their transaction ids, at most one per key. -/
structure Keyed (l : InMemoryLedger) : Prop where
  filed : ∀ id p, l.payments.lookup id = some p → p.transaction.id = id
  unique : ∀ id₁ id₂ p₁ p₂ k, l.payments.lookup id₁ = some p₁ →
    l.payments.lookup id₂ = some p₂ → p₁.clientReferenceId = some k →
    p₂.clientReferenceId = some k → id₁ = id₂

/-- The same payment at a later time. -/
structure SamePayment (p p' : PaymentRecord) : Prop where
  transaction : p'.transaction = p.transaction
  key : p'.clientReferenceId = p.clientReferenceId
  fingerprint : p'.requestFingerprint = p.requestFingerprint

/-- Every record of `l` is still there in `l'`. -/
def Continues (l l' : InMemoryLedger) : Prop :=
  ∀ id p, l.payments.lookup id = some p →
    ∃ p', l'.payments.lookup id = some p' ∧ SamePayment p p'

theorem Continues.refl (l : InMemoryLedger) : Continues l l :=
  fun _ p h => ⟨p, h, rfl, rfl, rfl⟩

theorem Continues.trans {l l' l'' : InMemoryLedger} (h : Continues l l')
    (h' : Continues l' l'') : Continues l l'' := by
  intro id p hp
  obtain ⟨p', hp', hsame⟩ := h id p hp
  obtain ⟨p'', hp'', hsame'⟩ := h' id p' hp'
  exact ⟨p'', hp'', hsame'.transaction.trans hsame.transaction, hsame'.key.trans hsame.key,
    hsame'.fingerprint.trans hsame.fingerprint⟩

/-! ## The scan for a key -/

theorem getPaymentByClientReferenceId_eq_some {l : InMemoryLedger} {k : String}
    {p : PaymentRecord} (h : l.getPaymentByClientReferenceId k = some p) :
    p.clientReferenceId = some k ∧ ∃ id, l.payments.lookup id = some p := by
  unfold getPaymentByClientReferenceId at h
  have hkey := List.find?_some h
  simp only [decide_eq_true_eq] at hkey
  exact ⟨hkey, HashMap.mem_values.mp (List.mem_of_find?_eq_some h)⟩

theorem getPaymentByClientReferenceId_eq_none {l : InMemoryLedger} {k : String}
    (h : l.getPaymentByClientReferenceId k = none) {id : String} {p : PaymentRecord}
    (hp : l.payments.lookup id = some p) : p.clientReferenceId ≠ some k := by
  unfold getPaymentByClientReferenceId at h
  have := List.find?_eq_none.mp h p (HashMap.mem_values.mpr ⟨id, hp⟩)
  simpa using this

/-- Under the invariant the scan finds the record that carries the key. -/
theorem getPaymentByClientReferenceId_of_lookup {l : InMemoryLedger} (h : Keyed l)
    {id k : String} {p : PaymentRecord} (hp : l.payments.lookup id = some p)
    (hk : p.clientReferenceId = some k) : l.getPaymentByClientReferenceId k = some p := by
  cases hget : l.getPaymentByClientReferenceId k with
  | none => exact absurd hk (getPaymentByClientReferenceId_eq_none hget hp)
  | some p' =>
    obtain ⟨hk', id', hp'⟩ := getPaymentByClientReferenceId_eq_some hget
    have hid := h.unique id id' p p' k hp hp' hk hk'
    subst hid
    exact hp'.symm.trans hp

/-! ## One call -/

/-- Rewriting the status of a filed record. -/
theorem keyed_rewrite {l l' : InMemoryLedger} {p : PaymentRecord} (p' : PaymentRecord)
    (h : Keyed l) (hp : l.payments.lookup p.transaction.id = some p) (hsame : SamePayment p p')
    (hl' : l'.payments = l.payments.insert p.transaction.id p') :
    Keyed l' ∧ Continues l l' := by
  have hread : ∀ id q', l'.payments.lookup id = some q' →
      ∃ q, l.payments.lookup id = some q ∧ SamePayment q q' := by
    intro id q' hq'
    rw [hl', HashMap.lookup_insert_eq] at hq'
    split at hq'
    · rename_i hid
      cases hq'
      exact ⟨p, hid ▸ hp, hsame⟩
    · exact ⟨q', hq', rfl, rfl, rfl⟩
  refine ⟨⟨?_, ?_⟩, ?_⟩
  · intro id q' hq'
    obtain ⟨q, hq, hqs⟩ := hread id q' hq'
    rw [hqs.transaction]
    exact h.filed id q hq
  · intro id₁ id₂ q₁' q₂' k h₁ h₂ hk₁ hk₂
    obtain ⟨q₁, hq₁, hs₁⟩ := hread id₁ q₁' h₁
    obtain ⟨q₂, hq₂, hs₂⟩ := hread id₂ q₂' h₂
    exact h.unique id₁ id₂ q₁ q₂ k hq₁ hq₂ (hs₁.key.symm.trans hk₁) (hs₂.key.symm.trans hk₂)
  · intro id q hq
    rw [hl', HashMap.lookup_insert_eq]
    split
    · rename_i hid
      subst hid
      rw [hp] at hq
      cases hq
      exact ⟨p', rfl, hsame⟩
    · exact ⟨q, hq, rfl, rfl, rfl⟩

/-- Filing a record under a fresh id, with a fresh key if it has one. -/
theorem keyed_insert {l l' : InMemoryLedger} {p : PaymentRecord} (h : Keyed l)
    (hfresh : l.payments.lookup p.transaction.id = none)
    (hnew : ∀ k, p.clientReferenceId = some k → l.getPaymentByClientReferenceId k = none)
    (hl' : l'.payments = l.payments.insert p.transaction.id p) :
    Keyed l' ∧ Continues l l' := by
  have hread : ∀ id, l'.payments.lookup id =
      if id = p.transaction.id then some p else l.payments.lookup id := by
    intro id
    rw [hl', HashMap.lookup_insert_eq]
  refine ⟨⟨?_, ?_⟩, ?_⟩
  · intro id q hq
    rw [hread] at hq
    split at hq
    · rename_i hid
      cases hq
      exact hid.symm
    · exact h.filed id q hq
  · intro id₁ id₂ q₁ q₂ k h₁ h₂ hk₁ hk₂
    rw [hread] at h₁ h₂
    split at h₁
    · rename_i hid₁
      cases h₁
      split at h₂
      · rename_i hid₂
        exact hid₁.trans hid₂.symm
      · exact absurd hk₂ (getPaymentByClientReferenceId_eq_none (hnew k hk₁) h₂)
    · split at h₂
      · cases h₂
        exact absurd hk₁ (getPaymentByClientReferenceId_eq_none (hnew k hk₂) h₁)
      · exact h.unique id₁ id₂ q₁ q₂ k h₁ h₂ hk₁ hk₂
  · intro id q hq
    refine ⟨q, ?_, rfl, rfl, rfl⟩
    rw [hread, if_neg, hq]
    rintro rfl
    rw [hfresh] at hq
    cases hq

/-- The payment a call produces is filed under its id and nowhere else. -/
theorem KaniNode.Produced.payments {n : KaniNode} {l l' : InMemoryLedger} {tx : Transaction}
    {p : PaymentRecord} (h : n.Produced l tx l' p) :
    (∃ now height hash, p = .finalized now tx height hash) ∧
      l'.payments = l.payments.insert tx.id p := by
  obtain ⟨block, d, records, _, htxs, happlied, hhead⟩ := h.block
  have hrecords := happlied.records_eq
  rw [htxs] at hrecords
  simp only [finalizedRecords] at hrecords
  rw [hrecords] at hhead
  simp only [List.head?_cons, Option.some.injEq] at hhead
  refine ⟨⟨_, _, _, hhead.symm⟩, ?_⟩
  rw [happlied.payments_eq, hrecords, hhead, ← hhead]
  rfl

/-- The transaction id a call draws is new to the ledger. -/
def NodeOp.Fresh (op : NodeOp) (l : InMemoryLedger) : Prop :=
  ∀ id, op.drawnId = some id → l.payments.lookup id = none

/-- A call with a fresh id keeps the invariant and every record. -/
theorem keyed_transition {n : KaniNode} {op : NodeOp} {l l' : InMemoryLedger}
    (ht : n.Transition op l l') (hfresh : op.Fresh l) (h : Keyed l) :
    Keyed l' ∧ Continues l l' := by
  cases ht with
  | unchanged => exact ⟨h, .refl l⟩
  | admin _ hpayments hblocks =>
    refine ⟨⟨?_, ?_⟩, ?_⟩
    · rw [hpayments]
      exact h.filed
    · rw [hpayments]
      exact h.unique
    · intro id p hp
      rw [hpayments]
      exact ⟨p, hp, rfl, rfl, rfl⟩
  | resolved c p p' c' hp htx hkey hfp =>
    have hid := h.filed _ p hp
    refine keyed_rewrite p' h (hid ▸ hp) ⟨htx, hkey, hfp⟩ ?_
    rw [← htx]
    rfl
  | held p c hid hnew => exact keyed_insert h (hfresh _ hid) hnew rfl
  | produced tx _ p hid hnew hblock =>
    obtain ⟨⟨now, height, hash, rfl⟩, hpayments⟩ := hblock.payments
    exact keyed_insert h (p := .finalized now tx height hash) (hfresh _ hid) hnew hpayments

/-! ## Runs -/

/-- Every call of the run draws a transaction id that is new when it runs. -/
def KaniNode.FreshRun (n : KaniNode) : InMemoryLedger → List NodeOp → Prop
  | _, [] => True
  | l, op :: ops => op.Fresh l ∧ n.FreshRun (n.step l op) ops

theorem KaniNode.FreshRun.append {n : KaniNode} {l : InMemoryLedger} {xs ys : List NodeOp}
    (h : n.FreshRun l (xs ++ ys)) : n.FreshRun l xs ∧ n.FreshRun (n.run l xs) ys := by
  induction xs generalizing l with
  | nil => exact ⟨trivial, h⟩
  | cons op xs ih =>
    obtain ⟨hop, hrest⟩ := h
    obtain ⟨hxs, hys⟩ := ih hrest
    exact ⟨⟨hop, hxs⟩, hys⟩

theorem keyed_run {n : KaniNode} {l : InMemoryLedger} {ops : List NodeOp} (h : Keyed l)
    (hfresh : n.FreshRun l ops) : Keyed (n.run l ops) ∧ Continues l (n.run l ops) := by
  induction ops generalizing l with
  | nil => exact ⟨h, .refl l⟩
  | cons op ops ih =>
    obtain ⟨hop, hrest⟩ := hfresh
    obtain ⟨hkeyed, hcont⟩ := keyed_transition (n.step_transition l op) hop h
    obtain ⟨hkeyed', hcont'⟩ := ih hkeyed hrest
    exact ⟨hkeyed', hcont.trans hcont'⟩

theorem keyed_sandbox (d : Draws) : Keyed (sandbox d) := by
  constructor
  · intro id p hp
    rw [sandbox_payments, AList.lookup_empty] at hp
    cases hp
  · intro id₁ id₂ p₁ p₂ k hp
    rw [sandbox_payments, AList.lookup_empty] at hp
    cases hp

/-! ## A retry -/

/-- `op` is a submission or a hold of this payment under the key `k`, and
it succeeds on `l` with the record `p`. -/
inductive Paid (n : KaniNode) (l : InMemoryLedger) (f t a : String) (amount : Int) (k : String) :
    NodeOp → PaymentRecord → Prop
  | submit (d : Draws) (l' : InMemoryLedger) (p : PaymentRecord)
      (h : n.submitPayment d f t a amount (some k) l = (l', .ok p)) :
      Paid n l f t a amount k (.submitPayment d f t a amount (some k)) p
  | hold (d : Draws) (caseOpen : ComplianceCaseOpen) (l' : InMemoryLedger) (p : PaymentRecord)
      (c : ComplianceCase)
      (h : n.holdPaymentForReview d f t a amount (some k) caseOpen l = (l', .ok (p, c))) :
      Paid n l f t a amount k (.holdPaymentForReview d f t a amount (some k) caseOpen) p

/-- The request a retry makes. -/
def retryOf (n : KaniNode) (f t a : String) (amount : Int) (k : String) : IdempotencyAttempt :=
  ⟨.transfer, f, t, a, amount, n.requestFingerprint .transfer f t a amount, k⟩

theorem IdempotencyAttempt.matches_of_fingerprint {attempt : IdempotencyAttempt}
    {p : PaymentRecord} (h : p.requestFingerprint = some attempt.requestFingerprint) :
    attempt.matches p = true := by
  simp [IdempotencyAttempt.matches, h]

theorem SamePayment.matches {p p' : PaymentRecord} (h : SamePayment p p')
    (attempt : IdempotencyAttempt) : attempt.matches p' = attempt.matches p := by
  simp only [IdempotencyAttempt.matches, h.transaction, h.fingerprint]

/-- After a successful call its record is stored, carries the key, and
matches the same request. -/
theorem stored_of_paid {n : KaniNode} {l : InMemoryLedger} {f t a k : String} {amount : Int}
    {op : NodeOp} {p : PaymentRecord} (hkeyed : Keyed l) (h : Paid n l f t a amount k op p) :
    (n.step l op).payments.lookup p.transaction.id = some p ∧ p.clientReferenceId = some k ∧
      (retryOf n f t a amount k).matches p = true := by
  cases h with
  | submit d l' p h =>
    have hstep : n.step l (.submitPayment d f t a amount (some k)) = l' := congrArg Prod.fst h
    rw [hstep]
    rcases KaniNode.submitPayment_eq_ok h with ⟨k', hk', hget, hmatch, rfl⟩ | ⟨_, nonce, hblock⟩
    · cases hk'
      obtain ⟨hkey, id, hp⟩ := getPaymentByClientReferenceId_eq_some hget
      exact ⟨(hkeyed.filed id p hp).symm ▸ hp, hkey, hmatch⟩
    · obtain ⟨⟨now, height, hash, rfl⟩, hpayments⟩ := hblock.payments
      refine ⟨?_, Transaction.clientReferenceIdFrom_withRequestMetadata _ _ _, ?_⟩
      · rw [hpayments]
        exact AList.lookup_insert _
      · exact IdempotencyAttempt.matches_of_fingerprint
          (Transaction.requestFingerprintFrom_withRequestMetadata _ _ _)
  | hold d caseOpen l' p c h =>
    have hstep : n.step l (.holdPaymentForReview d f t a amount (some k) caseOpen) = l' :=
      congrArg Prod.fst h
    rw [hstep]
    rcases KaniNode.holdPaymentForReview_eq_ok h with
      ⟨k', hk', hget, hmatch, rfl⟩ | ⟨_, rfl, _, hkey, hfp⟩
    · cases hk'
      obtain ⟨hkey, id, hp⟩ := getPaymentByClientReferenceId_eq_some hget
      exact ⟨(hkeyed.filed id p hp).symm ▸ hp, hkey, hmatch⟩
    · exact ⟨AList.lookup_insert _, hkey, IdempotencyAttempt.matches_of_fingerprint hfp⟩

/-- Where a matching record carries the key, a submission under it returns
that record and changes nothing. -/
theorem submit_retry {n : KaniNode} {l : InMemoryLedger} (hkeyed : Keyed l) {id : String}
    {p : PaymentRecord} (hp : l.payments.lookup id = some p) {f t a k : String} {amount : Int}
    (hk : p.clientReferenceId = some k) (hmatch : (retryOf n f t a amount k).matches p = true)
    (d : Draws) : n.submitPayment d f t a amount (some k) l = (l, .ok p) := by
  have hget := getPaymentByClientReferenceId_of_lookup hkeyed hp hk
  have hfind : KaniNode.findRetried l (some k) = some (k, p) := by
    simp only [KaniNode.findRetried, Option.bind_some, hget, Option.map_some]
  have hensure : ensureIdempotentRetry p (retryOf n f t a amount k) = .ok () := by
    rw [ensureIdempotentRetry, if_pos hmatch]
  simp only [KaniNode.submitPayment, Method.get_bind, hfind]
  exact congrArg (fun x => (Method.ofExcept x >>= fun _ => pure p) l) hensure

/-- **Exactly-once payments in memory mode.** In every run from the
sandbox whose calls draw fresh transaction ids, no two records carry one
key; and once a submission or a hold under the key `k` has succeeded,
every later submission of the same payment under `k` returns the current
record of the same transaction and leaves the whole ledger as it is. -/
theorem exactly_once {n : KaniNode} {d₀ : Draws} {ops : List NodeOp}
    (hfresh : n.FreshRun (sandbox d₀) ops) :
    (∀ id₁ id₂ p₁ p₂ k, (n.run (sandbox d₀) ops).payments.lookup id₁ = some p₁ →
      (n.run (sandbox d₀) ops).payments.lookup id₂ = some p₂ →
      p₁.clientReferenceId = some k → p₂.clientReferenceId = some k → id₁ = id₂) ∧
    ∀ before op after f t a amount k p, ops = before ++ op :: after →
      Paid n (n.run (sandbox d₀) before) f t a amount k op p →
      ∀ d, ∃ p',
        n.submitPayment d f t a amount (some k) (n.run (sandbox d₀) ops) =
          (n.run (sandbox d₀) ops, .ok p') ∧
        p'.transaction.id = p.transaction.id ∧
        (n.run (sandbox d₀) ops).payments.lookup p.transaction.id = some p' := by
  have hkeyed := (keyed_run (keyed_sandbox d₀) hfresh).1
  refine ⟨hkeyed.unique, ?_⟩
  rintro before op after f t a amount k p rfl hpaid d
  obtain ⟨hbefore, hop, hafter⟩ := hfresh.append
  have hkeyed₁ := (keyed_run (keyed_sandbox d₀) hbefore).1
  obtain ⟨hstored, hkey, hmatch⟩ := stored_of_paid hkeyed₁ hpaid
  have hkeyed₂ := (keyed_transition (n.step_transition _ op) hop hkeyed₁).1
  -- the record is carried through the calls in between
  obtain ⟨p', hp', hsame⟩ := (keyed_run hkeyed₂ hafter).2 _ _ hstored
  have hrun : n.run (sandbox d₀) (before ++ op :: after) =
      n.run (n.step (n.run (sandbox d₀) before) op) after := by
    simp only [KaniNode.run, List.foldl_append, List.foldl_cons]
  rw [hrun] at hkeyed ⊢
  refine ⟨p', submit_retry hkeyed hp' (hsame.key.trans hkey) ?_ d, ?_, hp'⟩
  · rw [hsame.matches]
    exact hmatch
  · rw [hsame.transaction]

/-- A node to run examples on. -/
def exampleNode : KaniNode where
  host := .sample
  consensus := phase1Engine
  cryptoProfile := .hybridPqcV1

/-- A mint, a payment under a key, and another mint. -/
def exampleOps : List NodeOp :=
  [.mintSandbox (.numbered "a" 1) SANDBOX_TREASURY_ACCOUNT SANDBOX_CORP_A_ACCOUNT KCAD_TEST 100,
    .submitPayment (.numbered "b" 2) SANDBOX_CORP_A_ACCOUNT SANDBOX_CORP_B_ACCOUNT KCAD_TEST 60
      (some "order-1"),
    .mintSandbox (.numbered "c" 3) SANDBOX_TREASURY_ACCOUNT SANDBOX_CORP_A_ACCOUNT KCAD_TEST 5]

theorem exampleOps_fresh : exampleNode.FreshRun (sandbox (.numbered "s" 0)) exampleOps := by
  refine ⟨fun id h => ?_, fun id h => ?_, fun id h => ?_, trivial⟩
  all_goals
    cases h
    decide +kernel

/-- A retry after the last mint gets the payment made in the middle. -/
theorem exactly_once_example :
    let l := exampleNode.run (sandbox (.numbered "s" 0)) exampleOps
    ∃ p', exampleNode.submitPayment (.numbered "d" 4) SANDBOX_CORP_A_ACCOUNT
        SANDBOX_CORP_B_ACCOUNT KCAD_TEST 60 (some "order-1") l = (l, .ok p') ∧
      l.payments.lookup (uuidNamed "b-0") = some p' := by
  intro l
  have hpaid : ∃ l' p, exampleNode.submitPayment (.numbered "b" 2) SANDBOX_CORP_A_ACCOUNT
      SANDBOX_CORP_B_ACCOUNT KCAD_TEST 60 (some "order-1")
      (exampleNode.run (sandbox (.numbered "s" 0)) (exampleOps.take 1)) = (l', .ok p) ∧
        p.transaction.id = uuidNamed "b-0" := by
    have hid : (exampleNode.submitPayment (.numbered "b" 2) SANDBOX_CORP_A_ACCOUNT
        SANDBOX_CORP_B_ACCOUNT KCAD_TEST 60 (some "order-1")
        (exampleNode.run (sandbox (.numbered "s" 0)) (exampleOps.take 1))).2.toOption.map
          (fun p => p.transaction.id) = some (uuidNamed "b-0") := by decide +kernel
    revert hid
    rcases exampleNode.submitPayment _ _ _ _ _ _ _ with ⟨l', r⟩
    cases r with
    | error e => exact fun h => by cases h
    | ok p => exact fun h => ⟨l', p, rfl, Option.some.inj h⟩
  obtain ⟨l', p, hp, hid⟩ := hpaid
  obtain ⟨p', hretry, _, hstored⟩ := (exactly_once exampleOps_fresh).2 (exampleOps.take 1) _
    (exampleOps.drop 2) _ _ _ _ _ p rfl (.submit _ l' p hp) (.numbered "d" 4)
  exact ⟨p', hretry, hid ▸ hstored⟩

end KaniNetwork
