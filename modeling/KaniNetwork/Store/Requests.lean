/-
KaniNetwork.Store.Requests — what no statement changes about a payment.

The columns a payment request brings (its accounts, asset, amount, nonce,
kind, key, fingerprint) are written once: every later statement rewrites
only the status, the block, the failure reason and `updated_at`, and no
statement deletes a row. `KeepsRequests` says so for two databases, and
`OneRowPerKey` is what the unique index on `client_reference_id` gives.
`exec_keepsRequests` and `exec_oneRowPerKey` cover every command.
-/
import KaniNetwork.Store.Sql

namespace KaniNetwork

/-- The same request at a later time. -/
structure TransactionRow.SameRequest (r r' : TransactionRow) : Prop where
  transaction : r'.toTransaction = r.toTransaction
  key : r'.clientReferenceId = r.clientReferenceId
  fingerprint : r'.requestFingerprint = r.requestFingerprint

namespace TransactionRow

theorem SameRequest.refl (r : TransactionRow) : r.SameRequest r := ⟨rfl, rfl, rfl⟩

theorem SameRequest.trans {r r' r'' : TransactionRow} (h : r.SameRequest r')
    (h' : r'.SameRequest r'') : r.SameRequest r'' :=
  ⟨h'.transaction.trans h.transaction, h'.key.trans h.key, h'.fingerprint.trans h.fingerprint⟩

theorem SameRequest.merge (old new : TransactionRow) : old.SameRequest (old.merge new) :=
  ⟨rfl, rfl, rfl⟩

end TransactionRow

/-- Every payment of `db` is still there in `db'`, with the same request. -/
def KeepsRequests (db db' : Database) : Prop :=
  ∀ id r, db.transactions.find? id = some r →
    ∃ r', db'.transactions.find? id = some r' ∧ r.SameRequest r'

theorem KeepsRequests.refl (db : Database) : KeepsRequests db db :=
  fun _ r h => ⟨r, h, .refl r⟩

theorem KeepsRequests.trans {db db' db'' : Database} (h : KeepsRequests db db')
    (h' : KeepsRequests db' db'') : KeepsRequests db db'' := by
  intro id r hr
  obtain ⟨r', hr', hsame⟩ := h id r hr
  obtain ⟨r'', hr'', hsame'⟩ := h' id r' hr'
  exact ⟨r'', hr'', hsame.trans hsame'⟩

/-- At most one row carries a given key. -/
def OneRowPerKey (db : Database) : Prop :=
  ∀ r ∈ db.transactions.rows, ∀ r' ∈ db.transactions.rows, ∀ k : String,
    r.clientReferenceId = some k → r'.clientReferenceId = some k → r = r'

theorem OneRowPerKey.of_empty {db : Database} (h : db.transactions.rows = []) :
    OneRowPerKey db := by
  intro r hr
  rw [h] at hr
  cases hr

theorem hasReference_iff {db : Database} {k : String} :
    db.hasReference (some k) = true ↔
      ∃ r ∈ db.transactions.rows, r.clientReferenceId = some k := by
  simp [Database.hasReference]

/-! ## One step -/

/-- Every payment is kept, and at most one is new, with an unused key. -/
structure RequestStep (db db' : Database) : Prop where
  kept : KeepsRequests db db'
  new : ∃ row : Option TransactionRow, ∀ id r', db'.transactions.find? id = some r' →
    (∃ r, db.transactions.find? id = some r ∧ r.SameRequest r') ∨
      (row = some r' ∧ db.hasReference r'.clientReferenceId = false)

theorem RequestStep.oneRowPerKey {db db' : Database} (h : RequestStep db db')
    (hone : OneRowPerKey db) : OneRowPerKey db' := by
  obtain ⟨row, hnew⟩ := h.new
  -- a row of `db` and a new row cannot share a key
  have hclash : ∀ {id : String} {r r' row : TransactionRow} {k : String},
      db.transactions.find? id = some r → r.SameRequest r' →
      db.hasReference row.clientReferenceId = false → r'.clientReferenceId = some k →
      row.clientReferenceId = some k → False := by
    intro id r r' row k hr hsame hfresh hk hrow
    rw [hrow, ← Bool.not_eq_true, hasReference_iff] at hfresh
    exact hfresh ⟨r, Table.mem_of_find? hr, hsame.key.symm.trans hk⟩
  intro r₁ h₁ r₂ h₂ k hk₁ hk₂
  rw [Table.mem_rows_iff] at h₁ h₂
  rcases hnew _ _ h₁ with ⟨q₁, hq₁, hs₁⟩ | ⟨hrow₁, hfresh₁⟩
  · rcases hnew _ _ h₂ with ⟨q₂, hq₂, hs₂⟩ | ⟨-, hfresh₂⟩
    · have hq : q₁ = q₂ := hone q₁ (Table.mem_of_find? hq₁) q₂ (Table.mem_of_find? hq₂) k
        (hs₁.key.symm.trans hk₁) (hs₂.key.symm.trans hk₂)
      have hid : r₁.id = r₂.id := by
        rw [← Table.key_of_find? hq₁, ← Table.key_of_find? hq₂, hq]
      rw [hid, h₂] at h₁
      exact (Option.some.inj h₁).symm
    · exact (hclash hq₁ hs₁ hfresh₂ hk₁ hk₂).elim
  · rcases hnew _ _ h₂ with ⟨q₂, hq₂, hs₂⟩ | ⟨hrow₂, -⟩
    · exact (hclash hq₂ hs₂ hfresh₁ hk₂ hk₁).elim
    · exact Option.some.inj (hrow₁.symm.trans hrow₂)

/-- A rewrite of existing rows that leaves the request columns alone. -/
theorem RequestStep.of_map {db db' : Database} {f : TransactionRow → TransactionRow}
    (hf : ∀ r : TransactionRow, r.SameRequest (f r))
    (h : ∀ id, db'.transactions.find? id = (db.transactions.find? id).map f) :
    RequestStep db db' := by
  refine ⟨fun id r hr => ⟨f r, by rw [h, hr, Option.map_some], hf r⟩, none, fun id r' hr' => ?_⟩
  rw [h, Option.map_eq_some_iff] at hr'
  obtain ⟨r, hr, rfl⟩ := hr'
  exact .inl ⟨r, hr, hf r⟩

/-- A statement on other tables. -/
theorem RequestStep.of_eq {db db' : Database} (h : db'.transactions = db.transactions) :
    RequestStep db db' :=
  .of_map (fun r => .refl r) (f := id) (fun id => by rw [h, Option.map_id_fun, id_eq])

/-- A new row with an unused key. -/
theorem RequestStep.of_insert {db db' : Database} (row : TransactionRow)
    (hfresh : db.hasReference row.clientReferenceId = false)
    (h : db.transactions.insert? row = some db'.transactions) : RequestStep db db' := by
  obtain ⟨hnone, hfind⟩ := Table.insert?_eq_some h
  refine ⟨fun id r hr => ?_, some row, fun id r' hr' => ?_⟩
  · have hid : row.id ≠ id := by
      rintro rfl
      rw [hnone] at hr
      cases hr
    exact ⟨r, by rw [hfind, if_neg hid, hr], .refl r⟩
  · rw [hfind] at hr'
    split at hr'
    · cases hr'
      exact .inr ⟨rfl, hfresh⟩
    · exact .inl ⟨r', hr', .refl r'⟩

theorem updatePayment_requestStep (id : String) (expected status : TransactionStatus)
    (failureReason : Option String) (now : DateTime) (db : Database) :
    RequestStep db (db.updatePayment id expected status failureReason now) := by
  refine .of_map (fun r => ?_) (db.find?_updatePayment id expected status failureReason now)
  split
  · exact ⟨rfl, rfl, rfl⟩
  · exact .refl r

theorem savePayment_requestStep {p : PaymentRecord} {db db' : Database}
    (h : Database.savePayment p db = .ok db') : RequestStep db db' := by
  obtain ⟨rfl, hfresh⟩ := Database.savePayment_eq_ok h
  cases hold : db.transactions.find? p.transaction.id with
  | none =>
    refine .of_insert (.ofPayment p) (hfresh hold) ?_
    have hnone : db.transactions.find? (TransactionRow.ofPayment p).id = none := hold
    simp only [Table.upsert, Table.insert?, hnone, dite_true]
  | some old =>
    refine .of_map (f := fun r => if r.id = p.transaction.id then r.merge (.ofPayment p) else r)
      (fun r => ?_) (fun id => ?_)
    · split
      · exact .merge r _
      · exact .refl r
    · rw [Table.find?_upsert, TransactionRow.ofPayment_id]
      by_cases hid : p.transaction.id = id
      · subst hid
        simp [hold, Table.key_of_find? hold]
      · cases hf : db.transactions.find? id with
        | none => simp [hid]
        | some r =>
          have hr : ¬ r.id = p.transaction.id := by
            rw [Table.key_of_find? hf]
            exact fun he => hid he.symm
          simp [hid, hr]

/-! ## Every command -/

/-- What every command keeps of the payments. -/
structure RequestFrame (db db' : Database) : Prop where
  kept : KeepsRequests db db'
  oneRowPerKey : OneRowPerKey db → OneRowPerKey db'

theorem RequestFrame.refl (db : Database) : RequestFrame db db := ⟨.refl db, fun h => h⟩

theorem RequestFrame.trans {db db' db'' : Database} (h : RequestFrame db db')
    (h' : RequestFrame db' db'') : RequestFrame db db'' :=
  ⟨h.kept.trans h'.kept, fun hone => h'.oneRowPerKey (h.oneRowPerKey hone)⟩

theorem RequestStep.frame {db db' : Database} (h : RequestStep db db') : RequestFrame db db' :=
  ⟨h.kept, h.oneRowPerKey⟩

theorem RequestFrame.of_eq {db db' : Database} (h : db'.transactions = db.transactions) :
    RequestFrame db db' :=
  (RequestStep.of_eq h).frame

theorem saveSnapshot_requestFrame {s : LedgerSnapshot} {db db' : Database}
    (h : Database.saveSnapshot s db = .ok db') : RequestFrame db db' := by
  simp only [Database.saveSnapshot, bind_eq_ok_iff] at h
  obtain ⟨_, ⟨_, ⟨_, ⟨_, ⟨_, ⟨_, ⟨_, ⟨_, ⟨_, h₁, h₂⟩, h₃⟩, h₄⟩, h₅⟩, h₆⟩, h₇⟩, h₈⟩, h₉⟩, h⟩ := h
  -- only the payment statements touch the payments
  have hother : ∀ {α : Type} {statement : α → Database → Except SqlxError Database}
      {items : List α} {s s' : Database},
      (∀ x s s', statement x s = .ok s' → s'.transactions = s.transactions) →
      Database.each statement items s = .ok s' → RequestFrame db s → RequestFrame db s' :=
    fun hstep hs hframe => Database.each_induct
      (fun x _ s s' hx hP => hP.trans (.of_eq (hstep x s s' hx))) hs hframe
  have f₁ := hother (fun _ _ _ hx => by rw [Database.upsertInstitution_eq_ok hx]) h₁ (.refl db)
  have f₂ := hother (fun _ _ _ hx => by rw [Database.saveCredential_eq_ok hx]) h₂ f₁
  have f₃ := hother (fun _ _ _ hx => by rw [Database.upsertInstitutionLimit_eq_ok hx]) h₃ f₂
  have f₄ := hother (fun _ _ _ hx => by rw [Database.saveAccount_eq_ok hx]) h₄ f₃
  have f₅ := hother (fun _ _ _ hx => by rw [Database.saveBalance_eq_ok hx]) h₅ f₄
  have f₆ := hother (fun _ _ _ hx => by rw [Database.saveBlock_eq_ok hx]) h₆ f₅
  have f₇ := Database.each_induct (P := RequestFrame db)
    (fun p _ s s' hp hP => hP.trans (savePayment_requestStep hp).frame) h₇ f₆
  have f₈ := hother (fun _ _ _ hx => by rw [Database.saveComplianceCase_eq_ok hx]) h₈ f₇
  have f₉ := hother (fun _ _ _ hx => by rw [Database.saveJournalEntry_eq_ok hx]) h₉ f₈
  exact hother (fun _ _ _ hx => by rw [Database.insertAuditEvent_eq_ok hx]) h f₉

theorem run_requestFrame {w : Statement} {db db' : Database} {reply : w.Reply}
    (h : w.run db = .ok (db', reply)) : RequestFrame db db' := by
  cases w with
  | insertPending row =>
    rcases Database.insertTransaction_eq_ok h with ⟨-, rfl, -⟩ | ⟨-, hfresh, t, ht, rfl⟩
    · exact .refl _
    · exact (RequestStep.of_insert row hfresh ht).frame
  | holdPayment row c =>
    rcases Database.holdPayment_eq_ok h with ⟨-, rfl, -⟩ | ⟨-, hfresh, t, u, ht, rfl, -⟩
    · exact .refl _
    · exact (RequestStep.of_insert row hfresh ht).frame
  | approveCase c now =>
    obtain ⟨-, rfl⟩ := Statement.approveCase_eq_ok h
    have hcase : RequestFrame db (db.updateComplianceCase c) := .of_eq rfl
    exact hcase.trans
      (updatePayment_requestStep c.paymentId .held .pending none now _).frame
  | rejectCase c reason now =>
    obtain ⟨-, rfl⟩ := Statement.rejectCase_eq_ok h
    have hcase : RequestFrame db (db.updateComplianceCase c) := .of_eq rfl
    exact hcase.trans
      (updatePayment_requestStep c.paymentId .held .rejected (some reason) now _).frame
  | upsertInstitution i =>
    have hi := of_unit_eq_ok h
    exact .of_eq (by rw [Database.upsertInstitution_eq_ok hi])
  | upsertInstitutionLimit l =>
    have hl := of_unit_eq_ok h
    exact .of_eq (by rw [Database.upsertInstitutionLimit_eq_ok hl])
  | insertCredential c =>
    obtain ⟨t, rfl⟩ := Database.insertCredential_eq_ok (of_unit_eq_ok h)
    exact .of_eq rfl
  | suspendInstitution id now =>
    cases h
    exact .of_eq rfl
  | rejectTransaction id reason now =>
    cases h
    exact (updatePayment_requestStep id _ _ _ now db).frame
  | insertAuditEvent e =>
    obtain ⟨-, he⟩ := Statement.insertAuditEvent_eq_ok h
    exact .of_eq (by rw [Database.insertAuditEvent_eq_ok he])
  | recordHeartbeat id now =>
    cases h
    exact .of_eq rfl
  | recordFinalizedBlock id b now =>
    have hb := of_unit_eq_ok h
    obtain ⟨t, rfl⟩ := Database.recordFinalizedBlock_eq_ok hb
    exact .of_eq rfl
  | saveSnapshot s =>
    have hs := of_unit_eq_ok h
    exact saveSnapshot_requestFrame hs
  | tryLock session =>
    rcases Database.tryLock_eq (Except.ok.inj h) with ⟨-, -, rfl⟩ | ⟨-, rfl, -⟩
    all_goals exact .of_eq rfl
  | unlock session =>
    rcases Database.unlock_eq (Except.ok.inj h) with ⟨-, -, rfl⟩ | ⟨-, -, rfl⟩
    all_goals exact .of_eq rfl

/-- No command loses a payment or gives two payments one key. -/
theorem exec_requestFrame (c : Sql) (db : Database) : RequestFrame db (c.exec db).1 := by
  rcases c.exec_cases db with h | ⟨w, reply, rfl, h⟩
  · rw [h]
    exact .refl db
  · exact run_requestFrame h

end KaniNetwork
