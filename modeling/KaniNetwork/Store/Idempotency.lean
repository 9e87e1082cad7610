/-
KaniNetwork.Store.Idempotency — one payment per idempotency key in
PostgreSQL mode.

Any number of `enqueue_pending_transaction` and `hold_payment_for_review`
calls run on one database, interleaved at their commands. The rows other
calls leave behind stay (`RequestFrame`), so a call whose insert found its
key taken finds the row on its second lookup, and the row it answers with
is still there when it returns. The unique index makes that row the only
one of its key.
-/
import KaniNetwork.Base.Pool
import KaniNetwork.Store.Postgres
import KaniNetwork.Store.Requests

namespace KaniNetwork

open PostgresLedgerStore

/-- A call that creates a payment. -/
inductive IntakeCall where
  | enqueue (now : DateTime) (tx : Transaction)
      (clientReferenceId requestFingerprint : Option String)
  | hold (d : Draws) (tx : Transaction) (clientReferenceId requestFingerprint : Option String)
      (caseOpen : ComplianceCaseOpen)

namespace IntakeCall

def tx : IntakeCall → Transaction
  | .enqueue _ tx _ _ => tx
  | .hold _ tx _ _ _ => tx

def clientReferenceId : IntakeCall → Option String
  | .enqueue _ _ key _ => key
  | .hold _ _ key _ _ => key

def requestFingerprint : IntakeCall → Option String
  | .enqueue _ _ _ fingerprint => fingerprint
  | .hold _ _ _ fingerprint _ => fingerprint

/-- The method behind a call; of a hold the payment is kept. -/
def body : IntakeCall → StoreProg LedgerStorageError PaymentRecord
  | .enqueue now tx key fingerprint => enqueuePendingTransaction now tx key fingerprint
  | .hold d tx key fingerprint caseOpen => do
    let (payment, _) ← holdPaymentForReview d tx key fingerprint caseOpen
    return payment

end IntakeCall

/-- A row answers a call: it carries the key of the call, and its
fingerprint, or the fields of the payment where a fingerprint is missing,
are those of the call. -/
structure TransactionRow.Answers (row : TransactionRow) (tx : Transaction)
    (key fingerprint : Option String) : Prop where
  key : ∀ k, key = some k → row.clientReferenceId = some k
  request : match row.requestFingerprint, fingerprint with
    | some stored, some asked => stored = asked
    | _, _ => row.kind = tx.kind ∧ row.fromAccount = tx.fromAccount ∧
      row.toAccount = tx.toAccount ∧ row.asset = tx.asset ∧ row.amount = tx.amount

theorem TransactionRow.Answers.of_same {row row' : TransactionRow} {tx : Transaction}
    {key fingerprint : Option String} (h : row.Answers tx key fingerprint)
    (hsame : row.SameRequest row') : row'.Answers tx key fingerprint := by
  refine ⟨fun k hk => hsame.key.trans (h.key k hk), ?_⟩
  have htx := hsame.transaction
  simp only [TransactionRow.toTransaction, Transaction.mk.injEq] at htx
  obtain ⟨-, hfrom, hto, hasset, hamount, -, -, hkind, -⟩ := htx
  rw [hsame.fingerprint, hfrom, hto, hasset, hamount, hkind]
  exact h.request

/-- The payment a call returns is stored and answers the call. -/
def Stored (tx : Transaction) (key fingerprint : Option String) (payment : PaymentRecord)
    (db : Database) : Prop :=
  ∃ row, db.transactions.find? payment.transaction.id = some row ∧ row.Answers tx key fingerprint

theorem Stored.of_frame {tx : Transaction} {key fingerprint : Option String}
    {payment : PaymentRecord} {db db' : Database} (h : Stored tx key fingerprint payment db)
    (hframe : RequestFrame db db') : Stored tx key fingerprint payment db' := by
  obtain ⟨row, hrow, hans⟩ := h
  obtain ⟨row', hrow', hsame⟩ := hframe.kept _ _ hrow
  exact ⟨row', hrow', hans.of_same hsame⟩

/-! ## The lookups -/

theorem paymentByClientReferenceId_eq_some {db : Database} {k : String} {p : PaymentRecord}
    (h : db.paymentByClientReferenceId k = some p) :
    ∃ row ∈ db.transactions.rows, row.clientReferenceId = some k ∧ p = db.joinBlock row := by
  obtain ⟨row, hfind, rfl⟩ := Option.map_eq_some_iff.mp h
  exact ⟨row, List.mem_of_find?_eq_some hfind, by simpa using List.find?_some hfind, rfl⟩

theorem paymentByClientReferenceId_eq_none {db : Database} {k : String}
    (h : db.paymentByClientReferenceId k = none) {row : TransactionRow}
    (hrow : row ∈ db.transactions.rows) : row.clientReferenceId ≠ some k := by
  have := List.find?_eq_none.mp (Option.map_eq_none_iff.mp h) row hrow
  simpa using this

section

variable {α : Type} {rely guar : Database → Database → Prop} {ok : Sql → Database → Prop}
  {post : Except LedgerStorageError α → Database → Prop}

/-- The lookup of a key finds the row that carries it, or no row does. -/
theorem safe_findRetried {key : Option String}
    {f : Option (String × PaymentRecord) → StoreProg LedgerStorageError α} {db : Database}
    (hrely : ∀ s, rely s s) (hguar : ∀ s, guar s s)
    (hsome : ∀ k p s, key = some k → rely db s → s.paymentByClientReferenceId k = some p →
      (f (some (k, p))).Safe Sql.exec rely guar ok post s)
    (hnone : ∀ s, rely db s → (∀ k, key = some k → s.paymentByClientReferenceId k = none) →
      (f none).Safe Sql.exec rely guar ok post s) :
    (findRetried key >>= f).Safe Sql.exec rely guar ok post db := by
  cases key with
  | none => exact hnone db (hrely db) (fun k hk => by cases hk)
  | some k =>
    refine safe_query hguar fun s hs => ?_
    cases hp : s.paymentByClientReferenceId k with
    | none =>
      have hf := hnone s hs fun k' hk' => by
        cases hk'
        exact hp
      simpa [Query.eval, hp] using hf
    | some p =>
      have hf := hsome k p s rfl hs hp
      simpa [Query.eval, hp] using hf

end

/-- A key that is taken stays taken. -/
theorem paymentByClientReferenceId_of_hasReference {db db' : Database} {k : String}
    (h : db.hasReference (some k) = true) (hframe : RequestFrame db db') :
    db'.paymentByClientReferenceId k ≠ none := by
  intro hnone
  obtain ⟨row, hrow, hk⟩ := hasReference_iff.mp h
  obtain ⟨row', hrow', hsame⟩ := hframe.kept _ _ (Table.mem_rows_iff.mp hrow)
  exact paymentByClientReferenceId_eq_none hnone (Table.mem_of_find? hrow')
    (hsame.key.trans hk)

/-- A retry that passes the check is answered with a stored payment. -/
theorem stored_of_retry {db : Database} {k : String} {p : PaymentRecord} {tx : Transaction}
    {fingerprint : Option String} {u : Unit} (h : db.paymentByClientReferenceId k = some p)
    (hretry : PostgresLedgerStore.ensureIdempotentRetry p tx k fingerprint = .ok u) :
    Stored tx (some k) fingerprint p db := by
  obtain ⟨row, hrow, hk, rfl⟩ := paymentByClientReferenceId_eq_some h
  refine ⟨row, Table.mem_rows_iff.mp hrow, fun k' hk' => by rw [hk, hk'], ?_⟩
  have hmatch : retryMatches (db.joinBlock row) tx fingerprint = true := by
    unfold PostgresLedgerStore.ensureIdempotentRetry at hretry
    split at hretry
    · assumption
    · cases hretry
  have hfp : (db.joinBlock row).requestFingerprint = row.requestFingerprint := rfl
  have hjoin : (db.joinBlock row).transaction = row.toTransaction := rfl
  simp only [retryMatches, hfp, paymentMatchesTransaction, hjoin] at hmatch
  cases hstored : row.requestFingerprint with
  | none =>
    simp only [hstored, Bool.and_eq_true, decide_eq_true_eq, and_assoc] at hmatch
    exact hmatch
  | some stored =>
    cases fingerprint with
    | none =>
      simp only [hstored, Bool.and_eq_true, decide_eq_true_eq, and_assoc] at hmatch
      exact hmatch
    | some asked => simpa [hstored] using hmatch

/-- The row an insert creates answers the call that created it. -/
theorem stored_of_insert {db db' : Database} {payment : PaymentRecord} {tx : Transaction}
    {key fingerprint : Option String} (htx : payment.transaction = tx)
    (hkey : payment.clientReferenceId = key) (hfp : payment.requestFingerprint = fingerprint)
    (h : db.transactions.insert? (.ofPayment payment) = some db'.transactions) :
    Stored tx key fingerprint payment db' := by
  subst htx hkey hfp
  obtain ⟨-, hfind⟩ := Table.insert?_eq_some h
  refine ⟨.ofPayment payment, by rw [hfind]; exact if_pos rfl, fun k hk => hk, ?_⟩
  split
  · rename_i stored asked hs ha
    exact Option.some.inj (hs.symm.trans ha)
  · exact ⟨rfl, rfl, rfl, rfl, rfl⟩

/-! ## The two calls -/

/-- What an intake call ends with. -/
def intakePost (tx : Transaction) (key fingerprint : Option String)
    (r : Except LedgerStorageError PaymentRecord) (db : Database) : Prop :=
  ∀ p, r = .ok p → Stored tx key fingerprint p db

section

variable {α : Type} {post : Except LedgerStorageError α → Database → Prop}

/-- The safety of a program among other intake calls. -/
abbrev IntakeSafe (post : Except LedgerStorageError α → Database → Prop)
    (p : StoreProg LedgerStorageError α) (db : Database) : Prop :=
  p.Safe Sql.exec RequestFrame RequestFrame (fun _ _ => True) post db

theorem intakeSafe_findRetried {key : Option String}
    {f : Option (String × PaymentRecord) → StoreProg LedgerStorageError α} {db : Database}
    (hsome : ∀ k p s, key = some k → RequestFrame db s → s.paymentByClientReferenceId k = some p →
      IntakeSafe post (f (some (k, p))) s)
    (hnone : ∀ s, RequestFrame db s →
      (∀ k, key = some k → s.paymentByClientReferenceId k = none) → IntakeSafe post (f none) s) :
    IntakeSafe post (findRetried key >>= f) db :=
  safe_findRetried RequestFrame.refl RequestFrame.refl hsome hnone

theorem intakeSafe_retry {k : String} {p : PaymentRecord} {tx : Transaction}
    {fingerprint : Option String} {f : Unit → StoreProg LedgerStorageError α} {db : Database}
    (hp : db.paymentByClientReferenceId k = some p) (herror : ∀ e s, post (.error e) s)
    (hok : Stored tx (some k) fingerprint p db → IntakeSafe post (f ()) db) :
    IntakeSafe post
      (.ofExcept (PostgresLedgerStore.ensureIdempotentRetry p tx k fingerprint) >>= f) db :=
  .ofExcept_bind (fun e _ s _ => herror e s) fun _ hretry => hok (stored_of_retry hp hretry)

/-- The lookup of a case ends in the case or in an error. -/
theorem intakeSafe_case {id : String} {f : ComplianceCase → StoreProg LedgerStorageError α}
    {db : Database} (herror : ∀ e s, post (.error e) s)
    (hok : ∀ c s, RequestFrame db s → IntakeSafe post (f c) s) :
    IntakeSafe post (complianceCaseByPaymentId id >>= f) db := by
  refine safe_query RequestFrame.refl fun s hs => ?_
  cases hc : Query.eval s (.complianceCaseByPaymentId id) with
  | none => exact fun s _ => herror _ s
  | some c => exact hok c s hs

/-- The transactions of an intake call insert a row, or find its key taken. -/
theorem intakeSafe_insert {w : Statement} {f : w.Reply → StoreProg LedgerStorageError α}
    {db : Database} (herror : ∀ e s, post (.error e) s)
    (h : ∀ s s' reply, RequestFrame db s → w.run s = .ok (s', reply) →
      IntakeSafe post (f reply) s') :
    IntakeSafe post (execute w >>= f) db :=
  safe_execute RequestFrame.refl (fun _ _ _ _ _ => herror _ _)
    fun s s' reply hs _ hrun => ⟨run_requestFrame hrun, h s s' reply hs hrun⟩

end

theorem enqueuePendingTransaction_safe (now : DateTime) (tx : Transaction)
    (key fingerprint : Option String) (db : Database) :
    IntakeSafe (intakePost tx key fingerprint)
      (enqueuePendingTransaction now tx key fingerprint) db := by
  have herror : ∀ e s, intakePost tx key fingerprint (.error e) s := fun e s p hp => by cases hp
  refine intakeSafe_findRetried (fun k p s hkey hs hp => ?_) (fun s hs _ => ?_)
  · subst hkey
    refine intakeSafe_retry hp herror fun hstored => ?_
    rintro s' hs' _ ⟨⟩
    exact hstored.of_frame hs'
  · refine intakeSafe_insert herror fun u u' inserted hu hrun => ?_
    rcases Database.insertTransaction_eq_ok hrun with ⟨rfl, rfl, htaken⟩ | ⟨rfl, -, t, ht, rfl⟩
    · -- the key is taken, so the second lookup finds its row
      refine intakeSafe_findRetried (fun k p v hkey hv hp => ?_) (fun v hv hnone => ?_)
      · subst hkey
        refine intakeSafe_retry hp herror fun hstored => ?_
        rintro s' hs' _ ⟨⟩
        exact hstored.of_frame hs'
      · cases key with
        | none => cases htaken
        | some k => exact absurd (hnone k rfl) (paymentByClientReferenceId_of_hasReference htaken hv)
    · rintro s' hs' _ ⟨⟩
      exact (stored_of_insert rfl rfl rfl ht).of_frame hs'

theorem holdPaymentForReview_safe (d : Draws) (tx : Transaction)
    (key fingerprint : Option String) (caseOpen : ComplianceCaseOpen) (db : Database) :
    IntakeSafe (fun r s => ∀ pc, r = .ok pc → Stored tx key fingerprint pc.1 s)
      (holdPaymentForReview d tx key fingerprint caseOpen) db := by
  have herror : ∀ e s, ∀ pc : PaymentRecord × ComplianceCase,
      (.error e : Except LedgerStorageError _) = .ok pc → Stored tx key fingerprint pc.1 s :=
    fun e s pc hp => by cases hp
  refine intakeSafe_findRetried (fun k p s hkey hs hp => ?_) (fun s hs _ => ?_)
  · subst hkey
    refine intakeSafe_retry hp herror fun hstored => ?_
    refine intakeSafe_case herror fun c u hu => ?_
    rintro s' hs' _ ⟨⟩
    exact (hstored.of_frame hu).of_frame hs'
  · refine intakeSafe_insert herror fun u u' inserted hu hrun => ?_
    rcases Database.holdPayment_eq_ok hrun with ⟨rfl, rfl, -⟩ | ⟨rfl, -, t, v, ht, rfl, -⟩
    · cases key with
      | none => exact fun s' _ => herror _ s'
      | some k =>
        refine safe_query RequestFrame.refl fun v hv => ?_
        cases hp : v.paymentByClientReferenceId k with
        | none =>
          simp only [Query.eval, hp]
          exact fun s' _ => herror _ s'
        | some p =>
          simp only [Query.eval, hp]
          refine intakeSafe_retry hp herror fun hstored => ?_
          refine intakeSafe_case herror fun c w hw => ?_
          rintro s' hs' _ ⟨⟩
          exact (hstored.of_frame hw).of_frame hs'
    · rintro s' hs' _ ⟨⟩
      have hstored : Stored tx key fingerprint _ { u with transactions := t, complianceCases := v } :=
        stored_of_insert rfl rfl rfl ht
      exact hstored.of_frame hs'

theorem IntakeCall.body_safe (c : IntakeCall) (db : Database) :
    IntakeSafe (intakePost c.tx c.clientReferenceId c.requestFingerprint) c.body db := by
  cases c with
  | enqueue now tx key fingerprint => exact enqueuePendingTransaction_safe now tx key fingerprint db
  | hold d tx key fingerprint caseOpen =>
    refine Prog.Safe.bind ?_ RequestFrame.refl
    refine (holdPaymentForReview_safe d tx key fingerprint caseOpen db).mono
      (fun _ _ h => h) (fun _ _ h => h) (fun _ _ h => h) (fun r s hr => ?_)
    cases r with
    | error e => exact fun s' _ p hp => by cases hp
    | ok pc =>
      rintro s' hs' _ ⟨⟩
      exact (hr pc rfl).of_frame hs'

/-! ## Every schedule -/

end KaniNetwork
