/-
KaniNetwork.Node.NonceRace — payments submitted at the same time in
PostgreSQL mode.

`submit_payment`, `hold_payment_for_review`, `mint_sandbox` and
`burn_sandbox` ask for the next nonce of an account and insert their row by
a later statement. Two calls for one account that both ask before either
inserts bring the same nonce, and the index `UNIQUE (from_account, nonce)`
refuses the second row (`nonce_race`). In memory mode the ledger lock is
held from the one to the other.

`submissions_stored` is the condition under which no call is refused: each
row that is inserted has the nonce its account gets next, that is, no
payment of the account was stored since the call asked. Each call is taken
with what the others do to it (`Spares`) and what it does to them (`Adds`).
Digests are short texts and a drawn uuid is spelled as its column spells it.
-/
import KaniNetwork.Node.MemoryTheorems
import KaniNetwork.Node.Postgres
import KaniNetwork.Store.Nonces

namespace KaniNetwork

open PostgresLedgerStore

/-- What the client asks for. -/
structure PaymentRequest where
  kind : TransactionKind
  fromAccount : String
  toAccount : String
  asset : String
  amount : Int
  clientReferenceId : Option String
  deriving DecidableEq

def TransactionRow.request (r : TransactionRow) : PaymentRequest :=
  ⟨r.kind, r.fromAccount, r.toAccount, r.asset, r.amount, r.clientReferenceId⟩

def Transaction.request (tx : Transaction) (clientReferenceId : Option String) : PaymentRequest :=
  ⟨tx.kind, tx.fromAccount, tx.toAccount, tx.asset, tx.amount, clientReferenceId⟩

@[simp] theorem Transaction.request_withRequestMetadata (tx : Transaction) (key key' : Option String)
    (fingerprint : String) :
    (tx.withRequestMetadata key fingerprint).request key' = tx.request key' := by
  cases key <;> rfl

theorem TransactionRow.SameRequest.request {r r' : TransactionRow} (h : r.SameRequest r') :
    r'.request = r.request := by
  have htx := h.transaction
  simp only [TransactionRow.toTransaction, Transaction.mk.injEq] at htx
  obtain ⟨-, hfrom, hto, hasset, hamount, -, -, hkind, -⟩ := htx
  simp only [TransactionRow.request, hfrom, hto, hasset, hamount, hkind, h.key]

/-- A call that stores a payment. -/
inductive Submission where
  | submitPayment (d : Draws) (fromAccount toAccount asset : String) (amount : Int)
      (clientReferenceId : Option String)
  | holdPaymentForReview (d : Draws) (fromAccount toAccount asset : String) (amount : Int)
      (clientReferenceId : Option String) (caseOpen : ComplianceCaseOpen)
  | mintSandbox (d : Draws) (treasury toAccount asset : String) (amount : Int)
  | burnSandbox (d : Draws) (fromAccount treasury asset : String) (amount : Int)

namespace Submission

def draws : Submission → Draws
  | .submitPayment d .. | .holdPaymentForReview d .. | .mintSandbox d .. | .burnSandbox d .. => d

/-- The uuid the call draws for its payment. -/
def paymentId (c : Submission) : String := (c.draws.sub 0).stamp.id

/-- The uuid a hold draws for its case. -/
def caseId (c : Submission) : String := ((c.draws.sub 1).sub 1).stamp.id

def request : Submission → PaymentRequest
  | .submitPayment _ f t s amount key => ⟨.transfer, f, t, s, amount, key⟩
  | .holdPaymentForReview _ f t s amount key _ => ⟨.transfer, f, t, s, amount, key⟩
  | .mintSandbox _ treasury t s amount => ⟨.mint, treasury, t, s, amount, none⟩
  | .burnSandbox _ f treasury s amount => ⟨.burn, f, treasury, s, amount, none⟩

/-- The operation behind a call; of a hold the payment is kept. -/
def body (n : KaniNode) : Submission → StoreProg NodeError PaymentRecord
  | .submitPayment d f t s amount key => KaniNode.Postgres.submitPayment n d f t s amount key
  | .holdPaymentForReview d f t s amount key caseOpen => do
    let (payment, _) ← KaniNode.Postgres.holdPaymentForReview n d f t s amount key caseOpen
    return payment
  | .mintSandbox d treasury t s amount => KaniNode.Postgres.mintSandbox d treasury t s amount
  | .burnSandbox d f treasury s amount => KaniNode.Postgres.burnSandbox d f treasury s amount

/-- The texts of the request are ones the columns and the index of the key
take. -/
def textOk (c : Submission) (settings : Settings) : Bool :=
  isText c.request.fromAccount && isText c.request.toAccount
    && c.request.clientReferenceId.all isText
    && settings.indexOk c.request.clientReferenceId.toList
    && match c with
      | .holdPaymentForReview _ _ _ _ _ _ caseOpen => caseOpen.textOk
      | _ => true

/-- Accounts that exist, an amount the column takes, an asset code, and texts
the columns take. -/
structure Valid (c : Submission) (settings : Settings) (accounts : Table Account.id) : Prop where
  texts : c.textOk settings = true
  fromAccount : (accounts.find? c.request.fromAccount).isSome = true
  toAccount : (accounts.find? c.request.toAccount).isSome = true
  amountPositive : 0 < c.request.amount
  amountFits : c.request.amount < 10 ^ 38
  asset : assetCodeOk c.request.asset = true

/-- The payment of the call is in the database. -/
def StoredIn (c : Submission) (db : Database) : Prop :=
  ∃ row, db.transactions.find? c.paymentId = some row ∧ row.request = c.request

end Submission

/-! ## Calls beside each other -/

/-- What a call finds when it starts: its uuids are unused, and its key when
it is `fresh`. -/
structure Untouched (c : Submission) (fresh : Prop) (db : Database) : Prop where
  payment : db.transactions.find? c.paymentId = none
  complianceCase : db.complianceCases.find? c.caseId = none
  key : fresh → db.hasReference c.request.clientReferenceId = false

/-- What the others do beside a call: they keep what it found. -/
structure Spares (c : Submission) (fresh : Prop) (db db' : Database) : Prop where
  frame : RequestFrame db db'
  settings : db'.settings = db.settings
  accounts : db'.accounts = db.accounts
  payment : db.transactions.find? c.paymentId = none → db'.transactions.find? c.paymentId = none
  complianceCase : db.complianceCases.find? c.caseId = none →
    db'.complianceCases.find? c.caseId = none
  key : fresh → db.hasReference c.request.clientReferenceId = false →
    db'.hasReference c.request.clientReferenceId = false

/-- What a call does to the database: it adds at most its own payment and
case. -/
structure Adds (c : Submission) (db db' : Database) : Prop where
  frame : RequestFrame db db'
  settings : db'.settings = db.settings
  accounts : db'.accounts = db.accounts
  payment : ∀ id, id ≠ c.paymentId → db.transactions.find? id = none →
    db'.transactions.find? id = none
  complianceCase : ∀ id, id ≠ c.caseId → db.complianceCases.find? id = none →
    db'.complianceCases.find? id = none
  key : ∀ key, key ≠ c.request.clientReferenceId → db.hasReference key = false →
    db'.hasReference key = false

theorem Spares.refl (c : Submission) (fresh : Prop) (db : Database) : Spares c fresh db db :=
  ⟨.refl db, rfl, rfl, fun h => h, fun h => h, fun _ h => h⟩

theorem Spares.trans {c : Submission} {fresh : Prop} {db db' db'' : Database}
    (h : Spares c fresh db db') (h' : Spares c fresh db' db'') : Spares c fresh db db'' where
  frame := h.frame.trans h'.frame
  settings := h'.settings.trans h.settings
  accounts := h'.accounts.trans h.accounts
  payment := fun hid => h'.payment (h.payment hid)
  complianceCase := fun hid => h'.complianceCase (h.complianceCase hid)
  key := fun hfresh hkey => h'.key hfresh (h.key hfresh hkey)

theorem Spares.valid {c : Submission} {fresh : Prop} {db db' : Database}
    (h : Spares c fresh db db') (hvalid : c.Valid db.settings db.accounts) :
    c.Valid db'.settings db'.accounts := by
  rwa [h.settings, h.accounts]

theorem Untouched.spared {c : Submission} {fresh : Prop} {db db' : Database}
    (h : Untouched c fresh db) (hs : Spares c fresh db db') : Untouched c fresh db' :=
  ⟨hs.payment h.payment, hs.complianceCase h.complianceCase,
    fun hfresh => hs.key hfresh (h.key hfresh)⟩

theorem Adds.refl (c : Submission) (db : Database) : Adds c db db :=
  ⟨.refl db, rfl, rfl, fun _ _ h => h, fun _ _ h => h, fun _ _ h => h⟩

theorem Submission.StoredIn.of_frame {c : Submission} {db db' : Database} (h : c.StoredIn db)
    (hframe : RequestFrame db db') : c.StoredIn db' := by
  obtain ⟨row, hrow, hrequest⟩ := h
  obtain ⟨row', hrow', hsame⟩ := hframe.kept _ _ hrow
  exact ⟨row', hrow', hsame.request.trans hrequest⟩

theorem Submission.StoredIn.of_insert {c : Submission} {row : TransactionRow} {db db' : Database}
    (hid : row.id = c.paymentId) (hrequest : row.request = c.request)
    (hins : db.transactions.insert? row = some db'.transactions) : c.StoredIn db' := by
  refine ⟨row, ?_, hrequest⟩
  rw [(Table.insert?_eq_some hins).2, if_pos hid]

/-- A row of the call's own is no row of another call. -/
theorem Adds.of_insert {c : Submission} {row : TransactionRow} {db db' : Database}
    (hid : row.id = c.paymentId) (hrequest : row.request = c.request)
    (hframe : RequestFrame db db') (hsettings : db'.settings = db.settings)
    (haccounts : db'.accounts = db.accounts)
    (hins : db.transactions.insert? row = some db'.transactions)
    (hcases : ∀ id, id ≠ c.caseId → db.complianceCases.find? id = none →
      db'.complianceCases.find? id = none) : Adds c db db' := by
  obtain ⟨-, hfind⟩ := Table.insert?_eq_some hins
  have hkey : row.clientReferenceId = c.request.clientReferenceId :=
    congrArg PaymentRequest.clientReferenceId hrequest
  refine ⟨hframe, hsettings, haccounts, ?_, hcases, ?_⟩
  · intro id hne hnone
    rw [hfind, if_neg (fun h => hne (h.symm.trans hid)), hnone]
  · intro key hne hunused
    cases key with
    | none => rfl
    | some k =>
      rw [← Bool.not_eq_true, hasReference_iff] at hunused ⊢
      rintro ⟨r, hr, hrk⟩
      rw [Table.mem_rows_iff, hfind] at hr
      split at hr
      · cases hr
        exact hne (hrk.symm.trans hkey)
      · exact hunused ⟨r, Table.mem_of_find? hr, hrk⟩

/-! ## One call -/

/-- What a call ends with: not the error of a taken nonce, and, where it is
valid and brings a fresh key, the payment it stored. -/
structure SubmissionPost (c : Submission) (valid fresh : Prop) {ε α : Type} (taken : ε)
    (payment : α → PaymentRecord) (r : Except ε α) (db : Database) : Prop where
  notTaken : r ≠ .error taken
  stored : valid → fresh → ∃ a, r = .ok a ∧ (payment a).transaction.id = c.paymentId ∧ c.StoredIn db

section

variable {c : Submission} {valid fresh : Prop} {α : Type} {payment : α → PaymentRecord}

/-- The safety of a program of the call among those of others. -/
abbrev SubmissionSafe (c : Submission) (valid fresh : Prop) (payment : α → PaymentRecord)
    (p : StoreProg LedgerStorageError α) (db : Database) : Prop :=
  p.Safe Sql.exec (Spares c fresh) (Adds c) Sql.InsertsCurrent
    (SubmissionPost c valid fresh (.sqlx .nonceTaken) payment) db

/-- Where the key is in use, any other end will do. -/
theorem SubmissionPost.of_used {r : Except LedgerStorageError α} {db : Database}
    (hused : ¬ fresh) (h : r ≠ .error (.sqlx .nonceTaken)) :
    SubmissionPost c valid fresh (.sqlx .nonceTaken) payment r db :=
  ⟨h, fun _ hfresh => absurd hfresh hused⟩

/-- The payment the call stored. -/
theorem SubmissionPost.of_stored {a : α} {db : Database}
    (hid : (payment a).transaction.id = c.paymentId) (hstored : c.StoredIn db) :
    SubmissionPost c valid fresh (LedgerStorageError.sqlx .nonceTaken) payment (.ok a) db := by
  refine ⟨?_, fun _ _ => ⟨a, rfl, hid, hstored⟩⟩
  intro herror
  cases herror

theorem not_fresh_of_lookup {key : Option String} {k : String} {p : PaymentRecord}
    {db : Database} (h : Untouched c fresh db) (hkey : key = some k)
    (hc : c.request.clientReferenceId = key) (hp : db.paymentByClientReferenceId k = some p) :
    ¬ fresh := by
  intro hfresh
  have hunused := h.key hfresh
  obtain ⟨row, hrow, hk, -⟩ := paymentByClientReferenceId_eq_some hp
  rw [hc, hkey, ← Bool.not_eq_true, hasReference_iff] at hunused
  exact hunused ⟨row, hrow, hk⟩

/-- A retry is answered from the database; it does not insert. -/
theorem submissionSafe_retry {k : String} {p : PaymentRecord} {tx : Transaction}
    {fingerprint : Option String} {f : Unit → StoreProg LedgerStorageError α} {db : Database}
    (hused : ¬ fresh) (hok : SubmissionSafe c valid fresh payment (f ()) db) :
    SubmissionSafe c valid fresh payment
      (.ofExcept (PostgresLedgerStore.ensureIdempotentRetry p tx k fingerprint) >>= f) db := by
  refine .ofExcept_bind (fun e he _ _ => .of_used hused ?_) fun _ _ => hok
  unfold PostgresLedgerStore.ensureIdempotentRetry at he
  split at he
  · cases he
  · cases he
    exact nofun

theorem submissionSafe_case {id : String} {f : ComplianceCase → StoreProg LedgerStorageError α}
    {db : Database} (hused : ¬ fresh)
    (hok : ∀ k s, SubmissionSafe c valid fresh payment (f k) s) :
    SubmissionSafe c valid fresh payment (complianceCaseByPaymentId id >>= f) db := by
  refine safe_query (Adds.refl c) fun s _ => ?_
  cases hc : Query.eval s (.complianceCaseByPaymentId id) with
  | none => exact fun _ _ => .of_used hused nofun
  | some k => exact hok k s

theorem submissionSafe_done {a : α} {db : Database} (hused : ¬ fresh) :
    SubmissionSafe c valid fresh payment (.ok a) db :=
  fun _ _ => .of_used hused nofun

theorem submissionSafe_fail {e : LedgerStorageError} {db : Database} (hused : ¬ fresh)
    (he : e ≠ .sqlx .nonceTaken) : SubmissionSafe c valid fresh payment (.fail e) db :=
  fun _ _ => .of_used hused fun h => he (Except.error.inj h)

theorem Submission.Valid.rowOk {row : TransactionRow} {settings : Settings}
    {accounts : Table Account.id} (h : c.Valid settings accounts)
    (htext : row.textOk settings = true) (hrequest : row.request = c.request)
    (hblock : row.blockHeight = none) : Database.RowOk row settings accounts := by
  obtain ⟨-, hfrom, hto, hpositive, hfits, hasset⟩ := h
  rw [← hrequest] at hfrom hto hpositive hfits hasset
  exact ⟨htext, hpositive, hfits, hasset, hblock, hfrom, hto⟩

/-- The texts of the row of a valid call are those of its request, the uuid it
drew, and what the call adds to them. -/
theorem Submission.Valid.row_textOk {row : TransactionRow} {settings : Settings}
    {accounts : Table Account.id} (h : c.Valid settings accounts) (hid : uuidOk row.id = true)
    (hrequest : row.request = c.request)
    (hmetadata : metadataOk row.metadata = true) (hreason : row.failureReason.all isText = true)
    (hfingerprint : row.requestFingerprint.all isText = true)
    (hindex : shortEntry row.requestFingerprint.toList = true) : row.textOk settings = true := by
  have htexts := h.texts
  have hasset := isText_of_assetCodeOk h.asset
  simp only [textOk, Bool.and_eq_true] at htexts
  obtain ⟨⟨⟨⟨hfrom, hto⟩, hkey⟩, hkeyIndex⟩, -⟩ := htexts
  rw [← hrequest] at hfrom hto hkey hkeyIndex hasset
  simp only [TransactionRow.request] at hfrom hto hkey hkeyIndex hasset
  simp only [TransactionRow.textOk, hid, hfrom, hto, hasset, hmetadata, hreason, hkey, hfingerprint,
    hkeyIndex, Settings.indexOk_of_short hindex, Bool.and_self]

/-- The row of a valid call with a fresh key, where nobody touched it, has
nothing in its way but the nonce. -/
theorem Untouched.row_free {row : TransactionRow} {db : Database} (h : Untouched c fresh db)
    (hfresh : fresh) (hvalid : c.Valid db.settings db.accounts)
    (htext : row.textOk db.settings = true) (hid : row.id = c.paymentId)
    (hrequest : row.request = c.request) (hblock : row.blockHeight = none) :
    Database.RowOk row db.settings db.accounts ∧ db.hasReference row.clientReferenceId = false ∧
      db.transactions.find? row.id = none := by
  refine ⟨hvalid.rowOk htext hrequest hblock, ?_, ?_⟩
  · have hkey : row.clientReferenceId = c.request.clientReferenceId :=
      congrArg PaymentRequest.clientReferenceId hrequest
    rw [hkey]
    exact h.key hfresh
  · rw [hid]
    exact h.payment

/-- A key the insert found in use was not fresh. -/
theorem not_fresh_of_taken {row : TransactionRow} {db : Database} (h : Untouched c fresh db)
    (hrequest : row.request = c.request)
    (htaken : db.hasReference row.clientReferenceId = true) : ¬ fresh := by
  intro hfresh
  have hunused := h.key hfresh
  rw [← hrequest] at hunused
  exact Bool.false_ne_true (hunused.symm.trans htaken)

theorem enqueuePendingTransaction_submission (now : DateTime) {tx : Transaction}
    {key : Option String} (fingerprint : Option String) {db : Database}
    (hid : tx.id = c.paymentId) (hrequest : tx.request key = c.request)
    (huntouched : Untouched c fresh db) (hvalid : valid → c.Valid db.settings db.accounts)
    (huuid : uuidOk c.paymentId = true) (hmetadata : valid → metadataOk tx.metadata = true)
    (hfingerprint : fingerprint.all isText = true) (hindex : shortEntry fingerprint.toList = true) :
    SubmissionSafe c valid fresh id (enqueuePendingTransaction now tx key fingerprint) db := by
  have hkey : c.request.clientReferenceId = key := by
    rw [← hrequest]
    rfl
  have hrow : (TransactionRow.ofPayment (.enqueued now tx key fingerprint)).request = c.request :=
    hrequest
  have hrowId : uuidOk tx.id = true := hid ▸ huuid
  refine safe_findRetried (Spares.refl c fresh) (Adds.refl c) (fun k p s hk hs hp => ?_)
    (fun s hs _ => ?_)
  · have hused := not_fresh_of_lookup (huntouched.spared hs) hk hkey hp
    exact submissionSafe_retry hused (submissionSafe_done hused)
  · refine safe_execute_run (Adds.refl c) (fun e u hu hcurrent hrun s' _ => ⟨?_, ?_⟩)
      (fun u u' inserted hu _ hrun => ⟨?_, ?_⟩)
    · rintro ⟨⟩
      exact Database.insertTransaction_notTaken hcurrent _ hrun rfl
    · intro hv hfresh
      have hvalid' := (hs.trans hu).valid (hvalid hv)
      have htext := hvalid'.row_textOk hrowId hrow (hmetadata hv) rfl hfingerprint hindex
      obtain ⟨hok, hunused, hnone⟩ := ((huntouched.spared hs).spared hu).row_free hfresh hvalid'
        htext hid hrow rfl
      obtain ⟨t, -, hins⟩ := Database.insertTransaction_ok hok hunused hnone hcurrent
      cases hins.symm.trans hrun
    · have hframe := run_requestFrame hrun
      rcases Database.insertTransaction_eq_ok hrun with ⟨-, rfl, -⟩ | ⟨-, -, t, ht, rfl⟩
      · exact .refl c _
      · exact .of_insert hid hrow hframe rfl rfl ht fun _ _ h => h
    · rcases Database.insertTransaction_eq_ok hrun with ⟨rfl, rfl, htaken⟩ | ⟨rfl, -, t, ht, rfl⟩
      · have hused := not_fresh_of_taken ((huntouched.spared hs).spared hu) hrow htaken
        refine safe_findRetried (Spares.refl c fresh) (Adds.refl c) (fun k p v hk hv hp => ?_)
          (fun v hv _ => submissionSafe_done hused)
        exact submissionSafe_retry hused (submissionSafe_done hused)
      · have hstored : c.StoredIn { u with transactions := t } := .of_insert hid hrow ht
        intro s' hs'
        exact .of_stored hid (hstored.of_frame hs'.frame)

theorem holdPaymentForReview_submission {d : Draws} {tx : Transaction} {key : Option String}
    (fingerprint : Option String) {caseOpen : ComplianceCaseOpen} {db : Database}
    (hid : tx.id = c.paymentId) (hcase : (d.sub 1).stamp.id = c.caseId)
    (hpayment : caseOpen.paymentId = tx.id) (hrequest : tx.request key = c.request)
    (huntouched : Untouched c fresh db) (hvalid : valid → c.Valid db.settings db.accounts)
    (huuid : uuidOk c.paymentId = true) (hmetadata : valid → metadataOk tx.metadata = true)
    (hfingerprint : fingerprint.all isText = true) (hindex : shortEntry fingerprint.toList = true)
    (hcaseUuid : uuidOk c.caseId = true) (hcaseText : valid → caseOpen.textOk = true) :
    SubmissionSafe c valid fresh Prod.fst (holdPaymentForReview d tx key fingerprint caseOpen)
      db := by
  have hkey : c.request.clientReferenceId = key := by
    rw [← hrequest]
    rfl
  have hrow : (TransactionRow.ofPayment (.onHold (d.sub 0).stamp.now tx caseOpen.reason key
      fingerprint)).request = c.request := hrequest
  have hrowId : uuidOk tx.id = true := hid ▸ huuid
  refine safe_findRetried (Spares.refl c fresh) (Adds.refl c) (fun k p s hk hs hp => ?_)
    (fun s hs _ => ?_)
  · have hused := not_fresh_of_lookup (huntouched.spared hs) hk hkey hp
    exact submissionSafe_retry hused
      (submissionSafe_case hused fun _ _ => submissionSafe_done hused)
  · refine safe_execute_run (Adds.refl c) (fun e u hu hcurrent hrun s' _ => ⟨?_, ?_⟩)
      (fun u u' inserted hu _ hrun => ⟨?_, ?_⟩)
    · rintro ⟨⟩
      exact Database.holdPayment_notTaken _ hcurrent _ hrun rfl
    · intro hv hfresh
      have hu' := (huntouched.spared hs).spared hu
      have hvalid' := (hs.trans hu).valid (hvalid hv)
      have hcaseText' := hcaseText hv
      simp only [ComplianceCaseOpen.textOk, Bool.and_eq_true] at hcaseText'
      obtain ⟨⟨⟨hpolicy, hrule⟩, hreason⟩, hopened⟩ := hcaseText'
      have htext := hvalid'.row_textOk hrowId hrow (hmetadata hv) hreason hfingerprint hindex
      have hopenText : (ComplianceCase.opened (d.sub 1).stamp caseOpen).textOk = true := by
        rw [← hcase] at hcaseUuid
        rw [← hpayment] at hrowId
        simp only [ComplianceCase.textOk, ComplianceCase.opened, ComplianceCase.verdictTextOk,
          hcaseUuid, hrowId, hpolicy, hrule, hreason, hopened, Option.all_none, Bool.and_self]
      obtain ⟨hok, hunused, hnone⟩ := hu'.row_free hfresh hvalid' htext hid hrow rfl
      have hcaseNone : u.complianceCases.find? (d.sub 1).stamp.id = none := by
        rw [hcase]
        exact hu'.complianceCase
      obtain ⟨u', hins⟩ := Database.holdPayment_ok (c := .opened (d.sub 1).stamp caseOpen) hok
        hunused hnone hcurrent hopenText hpayment hcaseNone
      cases hins.symm.trans hrun
    · have hframe := run_requestFrame hrun
      rcases Database.holdPayment_eq_ok hrun with ⟨-, rfl, -⟩ | ⟨-, -, t, v, ht, rfl, hv⟩
      · exact .refl c _
      · refine .of_insert hid hrow hframe rfl rfl ht fun id hne hnone => ?_
        rcases hv with rfl | hv
        · exact hnone
        · rw [(Table.insert?_eq_some hv).2, if_neg (fun h => hne (h.symm.trans hcase)), hnone]
    · rcases Database.holdPayment_eq_ok hrun with ⟨rfl, rfl, htaken⟩ | ⟨rfl, -, t, v, ht, rfl, -⟩
      · have hused := not_fresh_of_taken ((huntouched.spared hs).spared hu) hrow htaken
        cases key with
        | none =>
          refine submissionSafe_fail hused ?_
          simp
        | some k =>
          refine safe_query (Adds.refl c) fun v hv => ?_
          cases hp : v.paymentByClientReferenceId k with
          | none =>
            simp only [Query.eval, hp]
            refine submissionSafe_fail hused ?_
            simp
          | some p =>
            simp only [Query.eval, hp]
            exact submissionSafe_retry hused
              (submissionSafe_case hused fun _ _ => submissionSafe_done hused)
      · have hstored : c.StoredIn { u with transactions := t, complianceCases := v } :=
          .of_insert hid hrow ht
        intro s' hs'
        exact .of_stored hid (hstored.of_frame hs'.frame)

end

section

variable {c : Submission} {valid fresh : Prop} {α : Type} {payment : α → PaymentRecord}

/-- Neither translation of the store's errors makes one of another. -/
theorem SubmissionPost.mapError {g : LedgerStorageError → NodeError}
    (hg : ∀ e, g e = .storage (.sqlx .nonceTaken) → e = .sqlx .nonceTaken)
    {r : Except LedgerStorageError α} {db : Database}
    (h : SubmissionPost c valid fresh (.sqlx .nonceTaken) payment r db) :
    SubmissionPost c valid fresh (.storage (.sqlx .nonceTaken)) payment (r.mapError g) db := by
  refine ⟨fun hr => ?_, fun hv hfresh => ?_⟩
  · cases r with
    | ok a => cases hr
    | error e => exact h.notTaken (congrArg Except.error (hg e (Except.error.inj hr)))
  · obtain ⟨a, rfl, hid, hstored⟩ := h.stored hv hfresh
    exact ⟨a, rfl, hid, hstored⟩

theorem ofStorage_eq_nonceTaken (e : LedgerStorageError)
    (h : NodeError.ofStorage e = .storage (.sqlx .nonceTaken)) : e = .sqlx .nonceTaken := by
  cases e with
  | idempotencyConflict key id => cases h
  | _ => exact NodeError.storage.inj h

/-- The nonce query changes nothing, and whatever it returns the rest is
safe. -/
theorem submissionSafe_query {q : Query} {f : q.Reply → StoreProg LedgerStorageError α}
    {g : LedgerStorageError → NodeError} {db : Database}
    (hg : ∀ e, g e = .storage (.sqlx .nonceTaken) → e = .sqlx .nonceTaken)
    (h : ∀ reply s, Spares c fresh db s → SubmissionSafe c valid fresh payment (f reply) s) :
    (query q >>= fun reply => (f reply).mapError g).Safe Sql.exec (Spares c fresh) (Adds c)
      Sql.InsertsCurrent (SubmissionPost c valid fresh (.storage (.sqlx .nonceTaken)) payment) db := by
  refine safe_query (Adds.refl c) fun s hs => .mapError ?_
  exact (h _ s hs).mono (fun _ _ h => h) (fun _ _ h => h) (fun _ _ h => h)
    fun _ _ hpost => hpost.mapError hg

/-- Of a payment and its case the payment is kept. -/
theorem submissionSafe_fst {p : StoreProg NodeError (PaymentRecord × ComplianceCase)} {db : Database}
    (h : p.Safe Sql.exec (Spares c fresh) (Adds c) Sql.InsertsCurrent
      (SubmissionPost c valid fresh (.storage (.sqlx .nonceTaken)) Prod.fst) db) :
    (p >>= fun pc => pure pc.1).Safe Sql.exec (Spares c fresh) (Adds c) Sql.InsertsCurrent
      (SubmissionPost c valid fresh (.storage (.sqlx .nonceTaken)) id) db := by
  refine Prog.Safe.bind ?_ (Spares.refl c fresh)
  refine h.mono (fun _ _ h => h) (fun _ _ h => h) (fun _ _ h => h) fun r s hpost => ?_
  cases r with
  | error e =>
    refine fun s' _ => ⟨fun he => hpost.notTaken (congrArg Except.error (Except.error.inj he)), ?_⟩
    intro hv hfresh
    obtain ⟨_, he, -⟩ := hpost.stored hv hfresh
    cases he
  | ok a =>
    refine fun s' hs' => ⟨nofun, fun hv hfresh => ?_⟩
    obtain ⟨_, ⟨⟩, hid, hstored⟩ := hpost.stored hv hfresh
    exact ⟨_, rfl, hid, hstored.of_frame hs'.frame⟩

/-- Digests are texts, short enough for an index. -/
def KaniNode.ShortDigests (n : KaniNode) : Prop :=
  ∀ algorithm bytes, isText (n.host.hashBytes algorithm bytes) = true ∧
    shortEntry [n.host.hashBytes algorithm bytes] = true

theorem metadataOk_withRequestMetadata {tx : Transaction} {key : Option String}
    {fingerprint : String} (h : metadataOk tx.metadata = true) (hkey : key.all isText = true)
    (hfingerprint : isText fingerprint = true) :
    metadataOk (tx.withRequestMetadata key fingerprint).metadata = true := by
  cases key with
  | none => exact h
  | some k =>
    exact metadataOk_insert (metadataOk_insert h (by decide) hkey) (by decide) hfingerprint

/-- Every call is safe from a database it has not touched. -/
theorem Submission.body_safe {n : KaniNode} (hhash : n.ShortDigests) (c : Submission)
    {db : Database} (huntouched : Untouched c fresh db)
    (hvalid : valid → c.Valid db.settings db.accounts)
    (huuid : uuidOk c.paymentId = true) (hcaseUuid : uuidOk c.caseId = true) :
    (c.body n).Safe Sql.exec (Spares c fresh) (Adds c) Sql.InsertsCurrent
      (SubmissionPost c valid fresh (.storage (.sqlx .nonceTaken)) id) db := by
  have hvalid' : ∀ {s}, Spares c fresh db s → valid → c.Valid s.settings s.accounts :=
    fun hs hv => hs.valid (hvalid hv)
  have hnew : ∀ s kind f t a amount nonce,
      metadataOk (Transaction.new s kind f t a amount nonce).metadata = true := fun _ _ _ _ _ _ _ => rfl
  -- a request with a fingerprint adds it and the key to the metadata
  have hmetadata : ∀ {tx : Transaction} (kind : TransactionKind) (f t a : String) (amount : Int),
      metadataOk tx.metadata = true → valid → metadataOk (tx.withRequestMetadata
        c.request.clientReferenceId (n.requestFingerprint kind f t a amount)).metadata = true := by
    intro tx kind f t a amount htx hv
    have htexts := (hvalid hv).texts
    simp only [textOk, Bool.and_eq_true] at htexts
    exact metadataOk_withRequestMetadata htx htexts.1.1.2 (hhash _ _).1
  cases c with
  | submitPayment d f t a amount key =>
    refine submissionSafe_query ofStorage_eq_nonceTaken fun nonce s hs => ?_
    exact enqueuePendingTransaction_submission _ _ (Transaction.withRequestMetadata_id _ _ _)
      (Transaction.request_withRequestMetadata _ _ _ _) (huntouched.spared hs) (hvalid' hs) huuid
      (hmetadata _ _ _ _ _ (hnew _ _ _ _ _ _ _)) (hhash _ _).1 (hhash _ _).2
  | holdPaymentForReview d f t a amount key caseOpen =>
    refine submissionSafe_fst (submissionSafe_query ofStorage_eq_nonceTaken fun nonce s hs => ?_)
    refine holdPaymentForReview_submission _ (Transaction.withRequestMetadata_id _ _ _) rfl rfl
      (Transaction.request_withRequestMetadata _ _ _ _) (huntouched.spared hs) (hvalid' hs) huuid
      (hmetadata _ _ _ _ _ (hnew _ _ _ _ _ _ _)) (hhash _ _).1 (hhash _ _).2 hcaseUuid fun hv => ?_
    have htexts := (hvalid hv).texts
    simp only [textOk, Bool.and_eq_true] at htexts
    exact htexts.2
  | mintSandbox d treasury t a amount =>
    refine submissionSafe_query (fun e he => NodeError.storage.inj he) fun nonce s hs => ?_
    exact enqueuePendingTransaction_submission _ _ rfl rfl (huntouched.spared hs) (hvalid' hs) huuid
      (fun _ => hnew _ _ _ _ _ _ _) rfl rfl
  | burnSandbox d f treasury a amount =>
    refine submissionSafe_query (fun e he => NodeError.storage.inj he) fun nonce s hs => ?_
    exact enqueuePendingTransaction_submission _ _ rfl rfl (huntouched.spared hs) (hvalid' hs) huuid
      (fun _ => hnew _ _ _ _ _ _ _) rfl rfl

end

/-! ## How long a call runs -/

theorem findRetried_endsWithin (key : Option String) : (findRetried key).EndsWithin 1 := by
  cases key with
  | none => trivial
  | some k => exact ⟨by omega, fun _ => trivial⟩

theorem execute_endsWithin {ε : Type} [FromSqlx ε] (w : Statement) :
    (execute w : StoreProg ε w.Reply).EndsWithin 1 :=
  ⟨by omega, fun _ => .ofExcept _ _⟩

theorem complianceCaseByPaymentId_endsWithin (id : String) :
    (complianceCaseByPaymentId id).EndsWithin 1 := by
  refine ⟨by omega, fun found => ?_⟩
  cases found <;> trivial

theorem enqueuePendingTransaction_endsWithin (now : DateTime) (tx : Transaction)
    (key fingerprint : Option String) :
    (enqueuePendingTransaction now tx key fingerprint).EndsWithin 3 := by
  have hretry : ∀ (p : PaymentRecord) (k : String),
      (Prog.ofExcept (PostgresLedgerStore.ensureIdempotentRetry p tx k fingerprint) >>=
        fun _ => pure p : StoreProg LedgerStorageError PaymentRecord).EndsWithin 0 :=
    fun p k => .bind (m := 0) (n := 0) (.ofExcept _ 0) fun _ => trivial
  refine .bind (m := 1) (n := 2) (findRetried_endsWithin key) fun found => ?_
  cases found with
  | some kp => exact (hretry kp.2 kp.1).mono (by omega)
  | none =>
    refine .bind (m := 1) (n := 1) (execute_endsWithin _) fun inserted => ?_
    cases inserted with
    | true => trivial
    | false =>
      refine .bind (m := 1) (n := 0) (findRetried_endsWithin key) fun found => ?_
      cases found with
      | some kp => exact hretry kp.2 kp.1
      | none => trivial

theorem holdPaymentForReview_endsWithin (d : Draws) (tx : Transaction)
    (key fingerprint : Option String) (caseOpen : ComplianceCaseOpen) :
    (holdPaymentForReview d tx key fingerprint caseOpen).EndsWithin 4 := by
  have hretry : ∀ (p : PaymentRecord) (k : String),
      (Prog.ofExcept (PostgresLedgerStore.ensureIdempotentRetry p tx k fingerprint) >>= fun _ => do
        let complianceCase ← complianceCaseByPaymentId p.transaction.id
        return (p, complianceCase)).EndsWithin 1 :=
    fun p k => .bind (m := 0) (n := 1) (.ofExcept _ 0) fun _ =>
      .bind (m := 1) (n := 0) (complianceCaseByPaymentId_endsWithin _) fun _ => trivial
  refine .bind (m := 1) (n := 3) (findRetried_endsWithin key) fun found => ?_
  cases found with
  | some kp => exact (hretry kp.2 kp.1).mono (by omega)
  | none =>
    refine .bind (m := 1) (n := 2) (execute_endsWithin _) fun inserted => ?_
    cases inserted with
    | true => trivial
    | false =>
      cases key with
      | none => trivial
      | some k =>
        refine ⟨by omega, fun found => ?_⟩
        cases found with
        | some p => exact hretry p k
        | none => trivial

/-- Every call ends after at most five commands. -/
theorem Submission.body_endsWithin (n : KaniNode) (c : Submission) : (c.body n).EndsWithin 5 := by
  have hquery : ∀ {α : Type} {a : String} {f : Int → StoreProg NodeError α},
      (∀ nonce, (f nonce).EndsWithin 4) → (query (.nextNonce a) >>= f).EndsWithin 5 :=
    fun hf => ⟨by omega, hf⟩
  cases c with
  | submitPayment d f t s amount key =>
    exact hquery fun nonce => .mapError
      ((enqueuePendingTransaction_endsWithin _ _ _ _).mono (by omega))
  | holdPaymentForReview d f t s amount key caseOpen =>
    have hhold : (KaniNode.Postgres.holdPaymentForReview n d f t s amount key
        caseOpen).EndsWithin 5 :=
      hquery fun nonce => .mapError (holdPaymentForReview_endsWithin _ _ _ _ _)
    exact .bind (n := 0) hhold fun _ => trivial
  | mintSandbox d treasury t s amount =>
    exact hquery fun nonce => .mapError
      ((enqueuePendingTransaction_endsWithin _ _ _ _).mono (by omega))
  | burnSandbox d f treasury s amount =>
    exact hquery fun nonce => .mapError
      ((enqueuePendingTransaction_endsWithin _ _ _ _).mono (by omega))

/-! ## Every schedule -/

section

variable {ι : Type} (calls : ι → Submission) (db : Database)

/-- No uuid is drawn twice, and none is in the database yet. -/
structure DistinctDraws : Prop where
  uuids : ∀ i, uuidOk (calls i).paymentId = true ∧ uuidOk (calls i).caseId = true
  payment : ∀ i j, i ≠ j → (calls i).paymentId ≠ (calls j).paymentId
  complianceCase : ∀ i j, i ≠ j → (calls i).caseId ≠ (calls j).caseId
  paymentUnused : ∀ i, db.transactions.find? (calls i).paymentId = none
  caseUnused : ∀ i, db.complianceCases.find? (calls i).caseId = none

/-- The call brings no key, or one that is not in the database and that no
other call brings. -/
structure FreshKey (i : ι) : Prop where
  unused : db.hasReference (calls i).request.clientReferenceId = false
  alone : ∀ j, j ≠ i → (calls i).request.clientReferenceId = none ∨
    (calls j).request.clientReferenceId ≠ (calls i).request.clientReferenceId

/-- The calls in flight; slot `i` serves `calls i`. -/
abbrev Submissions (ι : Type) := Pool ι Unit Sql Sql.Reply NodeError PaymentRecord Database

variable {calls db}

/-- What one call adds, another is spared. -/
theorem Adds.spares (h : DistinctDraws calls db) {i j : ι} (hij : i ≠ j) {s s' : Database}
    (hadds : Adds (calls i) s s') : Spares (calls j) (FreshKey calls db j) s s' where
  frame := hadds.frame
  settings := hadds.settings
  accounts := hadds.accounts
  payment := hadds.payment _ (h.payment j i (Ne.symm hij))
  complianceCase := hadds.complianceCase _ (h.complianceCase j i (Ne.symm hij))
  key := by
    intro hfresh hunused
    rcases hfresh.alone i hij with hnone | hne
    · rw [hnone]
      rfl
    · exact hadds.key _ (Ne.symm hne) hunused

/-- The proof outline: a call that has not started is spared by all others. -/
def submissionOutline {nodes : ι → KaniNode} (hhash : ∀ i, (nodes i).ShortDigests)
    (h : DistinctDraws calls db) :
    Pool.OnceOutline Sql.exec (fun i (_ : Unit) => (calls i).body (nodes i)) Sql.InsertsCurrent where
  inv := fun s => s.settings = db.settings ∧ s.accounts = db.accounts
  rely := fun i => Spares (calls i) (FreshKey calls db i)
  guar := fun i => Adds (calls i)
  post := fun i _ => SubmissionPost (calls i) ((calls i).Valid db.settings db.accounts)
    (FreshKey calls db i) (.storage (.sqlx .nonceTaken)) id
  unused := fun i => Untouched (calls i) (FreshKey calls db i)
  rely_refl := fun i => .refl (calls i) _
  rely_trans := fun _ _ _ _ => .trans
  guar_rely := fun _ _ _ _ hij _ hadds => hadds.spares h hij
  guar_inv := fun _ _ _ hinv hadds =>
    ⟨hadds.settings.trans hinv.1, hadds.accounts.trans hinv.2⟩
  unused_rely := fun _ _ _ huntouched hs => huntouched.spared hs
  body_safe := by
    intro i _ s hinv huntouched
    refine (calls i).body_safe (hhash i) huntouched (fun hv => ?_) (h.uuids i).1 (h.uuids i).2
    rwa [hinv.1, hinv.2]

/-- In every run of any number of calls in which each inserted row has the
next nonce of its account, no call is refused for its nonce, and each valid
call with a fresh key or none that has ended has stored its payment. Every
call ends, after at most five commands. -/
theorem submissions_stored [DecidableEq ι] {nodes : ι → KaniNode}
    (hhash : ∀ i, (nodes i).ShortDigests) (hdraws : DistinctDraws calls db) {P : Submissions ι}
    (hrun : Pool.Reaches Sql.exec (fun i (_ : Unit) => (calls i).body (nodes i)) Sql.InsertsCurrent
      (.idle db) P) :
    (∀ i, ((calls i).body (nodes i)).EndsWithin 5) ∧
      (∀ i, P.result? i ≠ some (.error (.storage (.sqlx .nonceTaken)))) ∧
      ∀ i r, P.result? i = some r → (calls i).Valid db.settings db.accounts → FreshKey calls db i →
        ∃ payment, r = .ok payment ∧ payment.transaction.id = (calls i).paymentId ∧
          (calls i).StoredIn P.store := by
  have hidle : (submissionOutline hhash hdraws).Holds (.idle db : Submissions ι) :=
    Pool.OnceOutline.holds_idle _ ⟨rfl, rfl⟩ fun i =>
      ⟨hdraws.paymentUnused i, hdraws.caseUnused i, FreshKey.unused⟩
  have hholds := (submissionOutline hhash hdraws).sound hidle hrun
  refine ⟨fun i => (calls i).body_endsWithin (nodes i), ?_, ?_⟩
  · intro i hi
    obtain ⟨_, hpost⟩ := Pool.OnceOutline.post_of_result _ hholds hi
    exact hpost.notTaken rfl
  · intro i r hi hvalid hfresh
    obtain ⟨_, hpost⟩ := Pool.OnceOutline.post_of_result _ hholds hi
    exact hpost.stored hvalid hfresh

end

/-- Two clients of one account. -/
def exampleSubmissions (i : Fin 2) : Submission :=
  .submitPayment (.numbered (if i = 0 then "a" else "b") 2000) SANDBOX_CORP_A_ACCOUNT
    SANDBOX_CORP_B_ACCOUNT KCAD_TEST 5 none

theorem exampleSubmissions_distinct :
    DistinctDraws exampleSubmissions (.seeded (.numbered "seed" 0)) :=
  ⟨fun _ => ⟨uuidOk_numbered _ _ _, uuidOk_numbered _ _ _⟩, by decide +kernel, by decide +kernel,
    by decide +kernel, by decide +kernel⟩

theorem exampleSubmissions_valid (settings : Settings) (i : Fin 2) :
    (exampleSubmissions i).Valid settings (Database.seeded (.numbered "seed" 0)).accounts :=
  ⟨by revert i; exact Fin.forall_fin_two.mpr ⟨rfl, rfl⟩, by revert i; decide +kernel,
    by revert i; decide +kernel, by revert i; decide, by revert i; decide, by revert i; decide⟩

theorem exampleSubmissions_fresh (i : Fin 2) :
    FreshKey exampleSubmissions (.seeded (.numbered "seed" 0)) i :=
  ⟨rfl, fun _ _ => .inl rfl⟩

/-- A node whose digests are 64 hex digits. -/
def exampleNodes (_ : Fin 2) : KaniNode :=
  ⟨{ Host.sample with hashBytes := fun _ bytes => String.ofList (hexDigits 64 bytes.length) },
    phase1Engine, .hybridPqcV1⟩

theorem exampleNodes_shortDigests (i : Fin 2) : (exampleNodes i).ShortDigests := by
  intro algorithm bytes
  constructor
  · rw [isText_iff, exampleNodes, String.toList_ofList]
    intro hzero
    exact absurd (mem_hexAlphabet_of_mem_hexDigits hzero) (by decide)
  · have hsize : ∀ cs : List Char, String.utf8Len cs ≤ 4 * cs.length := by
      intro cs
      induction cs with
      | nil => exact le_refl 0
      | cons c cs ih =>
        have hc := c.utf8Size_le_four
        simp only [String.utf8Len_cons, List.length_cons]
        omega
    have hdigits := hsize (hexDigits 64 bytes.length)
    rw [hexDigits_length] at hdigits
    simp only [exampleNodes, shortEntry, List.map_cons, List.map_nil, List.sum_cons, List.sum_nil,
      String.utf8ByteSize_ofList, decide_eq_true_eq]
    omega

/-- A run of the two calls; `ok` restricts their commands. -/
def exampleSubmissionRun (ok : Sql → Database → Prop) [∀ q s, Decidable (ok q s)]
    (ticks : List (Fin 2)) : Submissions (Fin 2) :=
  Pool.run Sql.exec (fun i _ => (exampleSubmissions i).body (exampleNodes i)) ok
    (.idle (.seeded (.numbered "seed" 0))) ([.start 0 (), .start 1 ()] ++ ticks.map .tick)

/-- One after the other, both are stored. -/
theorem submissions_stored_example :
    let P := exampleSubmissionRun Sql.InsertsCurrent [0, 0, 1, 1]
    (exampleSubmissions 0).StoredIn P.store ∧ (exampleSubmissions 1).StoredIn P.store := by
  intro P
  have hdone : ∀ i, (P.result? i).isSome = true := by decide +kernel
  have hall : ∀ i, (exampleSubmissions i).StoredIn P.store := by
    intro i
    obtain ⟨r, hr⟩ := Option.isSome_iff_exists.mp (hdone i)
    obtain ⟨_, _, _, hstored⟩ := (submissions_stored exampleNodes_shortDigests
      exampleSubmissions_distinct (Pool.reaches_run _ _ _ _ _)).2.2 i r hr (exampleSubmissions_valid _ i)
      (exampleSubmissions_fresh i)
    exact hstored
  exact ⟨hall 0, hall 1⟩

/-- Both ask for the nonce before either inserts: the second is refused. -/
theorem nonce_race :
    let P := exampleSubmissionRun (fun _ _ => True) [0, 1, 0, 1]
    let db := Database.seeded (.numbered "seed" 0)
    DistinctDraws exampleSubmissions db ∧
      (exampleSubmissions 1).Valid db.settings db.accounts ∧
      FreshKey exampleSubmissions db 1 ∧
      Pool.Reaches Sql.exec (fun i (_ : Unit) => (exampleSubmissions i).body (exampleNodes i))
        (fun _ _ => True) (.idle db) P ∧
      P.result? 1 = some (.error (.storage (.sqlx .nonceTaken))) ∧
      ¬ (exampleSubmissions 1).StoredIn P.store := by
  intro P db
  refine ⟨exampleSubmissions_distinct, exampleSubmissions_valid _ 1, exampleSubmissions_fresh 1,
    Pool.reaches_run _ _ _ _ _, ?_, ?_⟩
  · decide +kernel
  · rintro ⟨row, hrow, -⟩
    have hnone : P.store.transactions.find? (exampleSubmissions 1).paymentId = none := by
      decide +kernel
    rw [hrow] at hnone
    cases hnone

end KaniNetwork
