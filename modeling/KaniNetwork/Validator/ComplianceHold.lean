/-
KaniNetwork.Validator.ComplianceHold — a held payment waits for an
approval.

Four statements write the status of a payment: the insert, the review, the
rejection by a validator, and the save of a whole ledger, which writes back
what it loaded. The record beside the database remembers which payments
were inserted HELD and which approvals have committed. `HoldKept` is the
invariant: a payment of the record that no approval covers is HELD or
REJECTED and in no block. A save cannot break it, because what it loaded
was no less barred: `Loaded` says so of the snapshot in the hands of a
pass, `Released` of the transactions it has picked.
-/
import KaniNetwork.Validator.Network

namespace KaniNetwork

open InMemoryLedger PostgresLedgerStore

/-! ## The record -/

inductive Note where
  | held (paymentId : String)
  | approved (caseId paymentId : String)
  deriving DecidableEq, Repr

/-- Remember the holds and the approvals that commit. -/
def Statement.note : (w : Statement) → w.Reply → List Note → List Note
  | .holdPayment row _, inserted, record => if inserted then record ++ [.held row.id] else record
  | .approveCase c _, _, record => record ++ [.approved c.id c.paymentId]
  | _, _, record => record

theorem note_of_pass {w : Statement} (reply : w.Reply) (record : List Note)
    (hw : w.ofPass = true) : w.note reply record = record := by
  cases w <;> first | rfl | cases hw

/-- A database and the record of holds and approvals. -/
abbrev Noted := Database × List Note

def Sql.execNoted : (c : Sql) → Noted → Noted × c.Reply := Sql.execBeside Statement.note

def notedView : DbView Noted := .beside Statement.note fun _ reply record => note_of_pass reply record

/-- An approval of the payment has committed. -/
def ApprovedIn (record : List Note) (id : String) : Prop :=
  ∃ caseId, Note.approved caseId id ∈ record

/-- Kept out of the blocks: held or rejected, and in none. -/
def TransactionRow.Barred (r : TransactionRow) : Prop :=
  (r.status = .held ∨ r.status = .rejected) ∧ r.blockHeight = none

/-- The invariant, and what ties an approval of the record to its case. -/
structure HoldKept (s : Noted) : Prop where
  held : ∀ id, .held id ∈ s.2 →
    ApprovedIn s.2 id ∨ ∃ r, s.1.transactions.find? id = some r ∧ r.Barred
  approved : ∀ caseId id, .approved caseId id ∈ s.2 →
    ∃ c, s.1.complianceCases.find? caseId = some c ∧ c.paymentId = id

/-! ## Steps -/

/-- What every command of a run does: the record grows, rows and cases stay,
a hold is of a new row, and the invariant is kept. -/
structure HoldStep (s s' : Noted) : Prop where
  record : s.2 ⊆ s'.2
  rows : ∀ id, s.1.transactions.find? id ≠ none → s'.1.transactions.find? id ≠ none
  held : ∀ id, .held id ∈ s'.2 → .held id ∈ s.2 ∨ s.1.transactions.find? id = none
  cases : ∀ id c, s.1.complianceCases.find? id = some c →
    ∃ c', s'.1.complianceCases.find? id = some c' ∧ c'.paymentId = c.paymentId
  kept : HoldKept s → HoldKept s'

theorem HoldStep.refl (s : Noted) : HoldStep s s :=
  ⟨fun _ h => h, fun _ h => h, fun _ h => .inl h, fun _ c hc => ⟨c, hc, rfl⟩, fun h => h⟩

theorem HoldStep.trans {s s' s'' : Noted} (h : HoldStep s s') (h' : HoldStep s' s'') :
    HoldStep s s'' := by
  refine ⟨fun _ hn => h'.record (h.record hn), fun id hr => h'.rows id (h.rows id hr), ?_, ?_,
    fun hk => h'.kept (h.kept hk)⟩
  · intro id hheld
    rcases h'.held id hheld with hmid | hnone
    · exact h.held id hmid
    · exact .inr (not_not.mp fun hr => h.rows id hr hnone)
  · intro id c hc
    obtain ⟨c', hc', hpay⟩ := h.cases id c hc
    obtain ⟨c'', hc'', hpay'⟩ := h'.cases id c' hc'
    exact ⟨c'', hc'', hpay'.trans hpay⟩

theorem ApprovedIn.mono {record record' : List Note} (hsub : record ⊆ record') {id : String}
    (h : ApprovedIn record id) : ApprovedIn record' id := by
  obtain ⟨caseId, hmem⟩ := h
  exact ⟨caseId, hsub hmem⟩

/-- A step, row by row: a barred row stays barred or its payment is approved,
and what is new in the record holds of the new state. -/
theorem HoldStep.of_rows {s s' : Noted} (record : s.2 ⊆ s'.2)
    (rows : ∀ id r, s.1.transactions.find? id = some r →
      ∃ r', s'.1.transactions.find? id = some r' ∧
        (.held id ∈ s.2 → r.Barred → ApprovedIn s'.2 id ∨ r'.Barred))
    (held : ∀ id, .held id ∈ s'.2 → .held id ∈ s.2 ∨ (s.1.transactions.find? id = none ∧
      ∃ r', s'.1.transactions.find? id = some r' ∧ r'.Barred))
    (cases : ∀ id c, s.1.complianceCases.find? id = some c →
      ∃ c', s'.1.complianceCases.find? id = some c' ∧ c'.paymentId = c.paymentId)
    (approved : ∀ caseId id, .approved caseId id ∈ s'.2 → .approved caseId id ∈ s.2 ∨
      ∃ c, s'.1.complianceCases.find? caseId = some c ∧ c.paymentId = id) : HoldStep s s' := by
  refine ⟨record, ?_, fun id h => (held id h).imp_right And.left, cases, fun hkept => ⟨?_, ?_⟩⟩
  · intro id hr
    obtain ⟨r, hr⟩ := Option.ne_none_iff_exists'.mp hr
    obtain ⟨r', hr', -⟩ := rows id r hr
    simp [hr']
  · intro id hheld
    rcases held id hheld with hold | ⟨-, hnew⟩
    · rcases hkept.held id hold with happ | ⟨r, hr, hbarred⟩
      · exact .inl (happ.mono record)
      · obtain ⟨r', hr', himp⟩ := rows id r hr
        exact (himp hold hbarred).imp_right fun hb => ⟨r', hr', hb⟩
    · exact .inr hnew
  · intro caseId id happ
    rcases approved caseId id happ with hold | hnew
    · obtain ⟨c, hc, hpay⟩ := hkept.approved caseId id hold
      obtain ⟨c', hc', hpay'⟩ := cases caseId c hc
      exact ⟨c', hc', hpay'.trans hpay⟩
    · exact hnew

/-- A change of the database only. -/
theorem HoldStep.of_db {s : Noted} {d : Database}
    (rows : ∀ id r, s.1.transactions.find? id = some r →
      ∃ r', d.transactions.find? id = some r' ∧
        (.held id ∈ s.2 → r.Barred → ApprovedIn s.2 id ∨ r'.Barred))
    (cases : ∀ id c, s.1.complianceCases.find? id = some c →
      ∃ c', d.complianceCases.find? id = some c' ∧ c'.paymentId = c.paymentId) :
    HoldStep s (d, s.2) :=
  .of_rows (fun _ h => h) rows (fun _ h => .inl h) cases fun _ _ h => .inl h

/-- A change of other tables. -/
theorem HoldStep.of_eq {s : Noted} {d : Database} (htxs : d.transactions = s.1.transactions)
    (hcases : d.complianceCases = s.1.complianceCases) : HoldStep s (d, s.2) := by
  refine .of_db ?_ ?_
  · intro id r hr
    exact ⟨r, htxs ▸ hr, fun _ hb => .inr hb⟩
  · intro id c hc
    exact ⟨c, hcases ▸ hc, rfl⟩

/-- `UPDATE … WHERE status = …` into REJECTED. -/
theorem rejection_holdStep {s : Noted} {d : Database} (id : String) (expected : TransactionStatus)
    (reason : Option String) (now : DateTime)
    (htxs : d.transactions = (s.1.updatePayment id expected .rejected reason now).transactions)
    (hcases : ∀ id c, s.1.complianceCases.find? id = some c →
      ∃ c', d.complianceCases.find? id = some c' ∧ c'.paymentId = c.paymentId) :
    HoldStep s (d, s.2) := by
  refine .of_db ?_ hcases
  intro id' r hr
  rw [htxs, Database.find?_updatePayment, hr, Option.map_some]
  refine ⟨_, rfl, ?_⟩
  rintro _ ⟨hstatus, hblock⟩
  split
  · exact .inr ⟨.inr rfl, hblock⟩
  · exact .inr ⟨hstatus, hblock⟩

/-- A payment inserted HELD is recorded so. -/
theorem HoldStep.of_insert {s : Noted} {d : Database} {row : TransactionRow}
    (hins : s.1.transactions.insert? row = some d.transactions) (hbarred : row.Barred)
    (hcases : ∀ id c, s.1.complianceCases.find? id = some c →
      ∃ c', d.complianceCases.find? id = some c' ∧ c'.paymentId = c.paymentId) :
    HoldStep s (d, s.2 ++ [.held row.id]) := by
  obtain ⟨hnone, hfind⟩ := Table.insert?_eq_some hins
  refine .of_rows (List.subset_append_left _ _) ?_ ?_ hcases ?_
  · intro id r hr
    exact ⟨r, Table.find?_insert?_of_some hins hr, fun _ hb => .inr hb⟩
  · intro id hheld
    rcases List.mem_append.mp hheld with hold | hnew
    · exact .inl hold
    · cases List.mem_singleton.mp hnew
      exact .inr ⟨hnone, row, (hfind _).trans (if_pos rfl), hbarred⟩
  · intro caseId id happ
    rcases List.mem_append.mp happ with hold | hnew
    · exact .inl hold
    · cases List.mem_singleton.mp hnew

/-- `UPDATE … WHERE status = …` out of HELD: the one row that leaves it is the
one the record now has approved. -/
theorem HoldStep.of_release {s : Noted} {d : Database} (paymentId caseId : String)
    (now : DateTime) (htxs : d.transactions =
      (s.1.updatePayment paymentId .held .pending none now).transactions)
    (hcase : ∃ c, d.complianceCases.find? caseId = some c ∧ c.paymentId = paymentId)
    (hcases : ∀ id c, s.1.complianceCases.find? id = some c →
      ∃ c', d.complianceCases.find? id = some c' ∧ c'.paymentId = c.paymentId) :
    HoldStep s (d, s.2 ++ [.approved caseId paymentId]) := by
  refine .of_rows (List.subset_append_left _ _) ?_ ?_ hcases ?_
  · intro id r hr
    rw [htxs, Database.find?_updatePayment, hr, Option.map_some]
    refine ⟨_, rfl, ?_⟩
    rintro _ ⟨hstatus, hblock⟩
    split
    · rename_i hreleased
      simp only [Bool.and_eq_true, decide_eq_true_eq] at hreleased
      rw [← Table.key_of_find? hr, hreleased.1]
      exact .inl ⟨caseId, List.mem_append_right _ (List.mem_singleton.mpr rfl)⟩
    · exact .inr ⟨hstatus, hblock⟩
  · intro id hheld
    rcases List.mem_append.mp hheld with hold | hnew
    · exact .inl hold
    · cases List.mem_singleton.mp hnew
  · intro caseId id happ
    rcases List.mem_append.mp happ with hold | hnew
    · exact .inl hold
    · cases List.mem_singleton.mp hnew
      exact .inr hcase

/-- Every statement of the API; an approval has read its case. -/
theorem api_holdStep {w : Statement} (hw : w.OfApi) {s : Noted} {d : Database} {reply : w.Reply}
    (hcase : ∀ c now, w = .approveCase c now →
      ∃ k, s.1.complianceCases.find? c.id = some k ∧ k.paymentId = c.paymentId)
    (h : w.run s.1 = .ok (d, reply)) : HoldStep s (d, w.note reply s.2) := by
  have hcases := (apiStep_of_run hw h).cases
  cases hw with
  | enqueue now tx key fingerprint =>
    rcases Database.insertTransaction_eq_ok h with ⟨-, rfl, -⟩ | ⟨-, -, t, ht, rfl⟩
    · exact .refl s
    · refine .of_db ?_ hcases
      intro id r hr
      exact ⟨r, Table.find?_insert?_of_some ht hr, fun _ hb => .inr hb⟩
  | hold now tx stamp caseOpen key fingerprint hid =>
    rcases Database.holdPayment_eq_ok h with ⟨rfl, rfl, -⟩ | ⟨rfl, -, t, u, ht, rfl, -⟩
    · exact .refl s
    exact .of_insert ht ⟨.inl rfl, rfl⟩ hcases
  | approve current resolvedAt now reviewer reason =>
    obtain ⟨-, rfl⟩ := Statement.approveCase_eq_ok h
    obtain ⟨k, hk, hpay⟩ := hcase _ _ rfl
    obtain ⟨k', hk', hpay'⟩ := hcases _ k hk
    exact .of_release current.paymentId current.id now rfl ⟨k', hk', hpay'.trans hpay⟩ hcases
  | reject current resolvedAt now reviewer reason rejectionReason =>
    obtain ⟨-, rfl⟩ := Statement.rejectCase_eq_ok h
    exact rejection_holdStep current.paymentId .held (some rejectionReason) now rfl hcases
  | upsertInstitution i =>
    rw [Database.upsertInstitution_eq_ok (of_unit_eq_ok h)]
    exact .of_eq rfl rfl
  | upsertInstitutionLimit l =>
    rw [Database.upsertInstitutionLimit_eq_ok (of_unit_eq_ok h)]
    exact .of_eq rfl rfl
  | insertCredential c =>
    obtain ⟨t, rfl⟩ := Database.insertCredential_eq_ok (of_unit_eq_ok h)
    exact .of_eq rfl rfl
  | suspendInstitution id now =>
    cases h
    exact .of_eq rfl rfl
  | insertAuditEvent e =>
    rw [Database.insertAuditEvent_eq_ok (Statement.insertAuditEvent_eq_ok h).2]
    exact .of_eq rfl rfl

/-! ## What a pass knows -/

/-- What a snapshot was loaded from was no less barred than the payments of
the record are to stay. -/
def LoadedBarred (snapshot : LedgerSnapshot) (s : Noted) : Prop :=
  ∃ u : Database, snapshot.payments = u.payments ∧
    (∀ id, u.transactions.find? id ≠ none → s.1.transactions.find? id ≠ none) ∧
    ∀ id, .held id ∈ s.2 →
      ApprovedIn s.2 id ∨ ∀ r, u.transactions.find? id = some r → r.Barred

/-- A stored payment that the record does not bar. -/
def Released (id : String) (s : Noted) : Prop :=
  s.1.transactions.find? id ≠ none ∧ (.held id ∈ s.2 → ApprovedIn s.2 id)

theorem LoadedBarred.step {snapshot : LedgerSnapshot} {s s' : Noted}
    (h : LoadedBarred snapshot s) (hs : HoldStep s s') : LoadedBarred snapshot s' := by
  obtain ⟨u, hu, hrows, hbarred⟩ := h
  refine ⟨u, hu, fun id hid => hs.rows id (hrows id hid), ?_⟩
  intro id hheld
  rcases hs.held id hheld with hold | hnone
  · exact (hbarred id hold).imp_left (ApprovedIn.mono hs.record)
  · -- inserted since, so it was not loaded
    refine .inr fun r hr => ?_
    exact absurd hnone (hrows id (by simp [hr]))

theorem Released.step {id : String} {s s' : Noted} (h : Released id s) (hs : HoldStep s s') :
    Released id s' := by
  refine ⟨hs.rows id h.1, fun hheld => ?_⟩
  rcases hs.held id hheld with hold | hnone
  · exact (h.2 hold).mono hs.record
  · exact absurd hnone h.1

/-- A payment with a PENDING row is released. -/
theorem HoldKept.released {s : Noted} (h : HoldKept s) {id : String} {r : TransactionRow}
    (hr : s.1.transactions.find? id = some r) (hpending : r.status = .pending) :
    Released id s := by
  refine ⟨by simp [hr], fun hheld => ?_⟩
  rcases h.held id hheld with happ | ⟨r', hr', hstatus, -⟩
  · exact happ
  · rw [hr] at hr'
    cases hr'
    rw [hpending] at hstatus
    rcases hstatus with h | h <;> cases h

/-- The save of a block of released transactions. -/
theorem save_holdStep {v : ValidatorRuntime} {snapshot : LedgerSnapshot}
    {accepted : List Transaction} {block : Block} {final : InMemoryLedger} {s : Noted}
    {d : Database} (h : PassBlock v (fromSnapshot snapshot) accepted block final)
    (hload : LoadedBarred snapshot s) (hreleased : ∀ tx ∈ accepted, Released tx.id s)
    (hsave : s.1.saveSnapshot final.snapshot = .ok d) : HoldStep s (d, s.2) := by
  obtain ⟨u, hu, -, hbarred⟩ := hload
  refine .of_db ?_ ?_
  · intro id r hr
    have hfate := h.savedPayment hu hsave id
    generalize d.transactions.find? id = row' at hfate ⊢
    cases hfate with
    | finalized tx now htx hid =>
      subst hid
      exact ⟨_, rfl, fun hheld _ => .inl ((hreleased tx htx).2 hheld)⟩
    | restored row hrow hother =>
      refine ⟨_, rfl, fun hheld _ => ?_⟩
      refine (hbarred id hheld).imp_right fun hb => ?_
      obtain ⟨hstatus, hblock⟩ := hb row hrow
      refine ⟨?_, ?_⟩
      · rw [TransactionRow.over_status]
        exact hstatus
      · rw [TransactionRow.over_blockHeight]
        exact hblock
    | untouched hnew hother => exact ⟨r, hr, fun _ hb => .inr hb⟩
  · intro id c hc
    have hmerge : ∀ old new : ComplianceCase, (old.merge new).paymentId = old.paymentId :=
      fun _ _ => rfl
    rw [(Database.saveSnapshot_eq_ok hsave).complianceCases]
    exact Table.find?_upsertAll_keeps ComplianceCase.paymentId hmerge hc

/-- What a pass knows at each place. -/
def holdKnows (ph : Phase) (s : Noted) : Prop :=
  HoldKept s ∧
    match ph with
    | .idle | .locked | .saved _ | .failing _ => True
    | .loaded snapshot => LoadedBarred snapshot s
    | .selecting snapshot accepted pending =>
      LoadedBarred snapshot s ∧ ∀ tx ∈ accepted ++ pending, Released tx.id s

theorem holdKnows_stable {ph : Phase} {s s' : Noted} (h : holdKnows ph s) (hs : HoldStep s s') :
    holdKnows ph s' := by
  refine ⟨hs.kept h.1, ?_⟩
  cases ph with
  | idle => trivial
  | locked => trivial
  | loaded snapshot => exact h.2.step hs
  | selecting snapshot accepted pending =>
    exact ⟨h.2.1.step hs, fun tx htx => (h.2.2 tx htx).step hs⟩
  | failing txs => trivial
  | saved block => trivial

/-! ## Every schedule -/

/-- The payment is in a block. -/
def Included (db : Database) (id : String) : Prop :=
  ∃ r, db.transactions.find? id = some r ∧ r.blockHeight ≠ none

/-- A held payment in a block has been approved. -/
theorem HoldKept.approvedIn {s : Noted} (h : HoldKept s) {id : String} (hheld : .held id ∈ s.2)
    (hin : Included s.1 id) : ApprovedIn s.2 id := by
  obtain ⟨r, hr, hblock⟩ := hin
  rcases h.held id hheld with happ | ⟨r', hr', -, hnone⟩
  · exact happ
  · rw [hr] at hr'
    cases hr'
    exact absurd hnone hblock

/-- A command of a run: no command both writes the record and puts a payment
into a block. -/
structure HoldCommand (s s' : Noted) : Prop where
  step : HoldStep s s'
  apart : s'.2 = s.2 ∨ ∀ id, Included s'.1 id → Included s.1 id

theorem HoldCommand.refl (s : Noted) : HoldCommand s s := ⟨.refl s, .inl rfl⟩

theorem HoldStep.command {s : Noted} {d : Database} (h : HoldStep s (d, s.2)) :
    HoldCommand s (d, s.2) :=
  ⟨h, .inl rfl⟩

theorem ApiStep.included {db db' : Database} (h : ApiStep db db') {id : String}
    (hin : Included db' id) : Included db id := by
  obtain ⟨r', hr', hblock⟩ := hin
  have hrow := h.rows id
  rw [hr'] at hrow
  generalize hold : db.transactions.find? id = old at hrow
  cases hrow with
  | same => exact ⟨r', hold, hblock⟩
  | inserted _ _ hnone => exact absurd hnone hblock
  | reviewed row => exact ⟨row, hold, hblock⟩

theorem api_holdCommand {w : Statement} (hw : w.OfApi) {s : Noted} {d : Database} {reply : w.Reply}
    (hcase : ∀ c now, w = .approveCase c now →
      ∃ k, s.1.complianceCases.find? c.id = some k ∧ k.paymentId = c.paymentId)
    (h : w.run s.1 = .ok (d, reply)) : HoldCommand s (d, w.note reply s.2) :=
  ⟨api_holdStep hw hcase h, .inr fun _ => (apiStep_of_run hw h).included⟩

/-- A pass among any calls. -/
def holdOutline (v : ValidatorRuntime) (session : Session) :
    PassOutline notedView v session HoldStep HoldCommand (fun _ _ => True) where
  holds := holdKnows
  rely_refl := HoldStep.refl
  rely_trans := fun _ _ _ => HoldStep.trans
  guar_refl := HoldCommand.refl
  stable := fun _ _ _ => holdKnows_stable
  bookkeeping := by
    intro ph s t u h
    have hstep : HoldStep s (s.1.withBookkeeping t u, s.2) := .of_eq rfl rfl
    exact ⟨hstep.command, holdKnows_stable h hstep⟩
  lock := by
    intro s h _
    have hstep : HoldStep s ({ s.1 with blockProductionLock := some session }, s.2) :=
      .of_eq rfl rfl
    exact ⟨hstep.command, hstep.kept h.1, trivial⟩
  load := by
    intro s s' snapshot h hs hload
    obtain ⟨_, ⟨w, hw, hw', rfl⟩, hpayments⟩ := hload.payments
    have hkept := hw.kept h.1
    refine ⟨hs.kept h.1, w.1, hpayments, hw'.rows, fun id hheld => ?_⟩
    rcases hw'.held id hheld with hold | hnone
    · rcases hkept.held id hold with happ | ⟨r, hr, hbarred⟩
      · exact .inl (happ.mono hw'.record)
      · refine .inr fun r' hr' => ?_
        rw [hr] at hr'
        cases hr'
        exact hbarred
    · refine .inr fun r hr => ?_
      rw [hnone] at hr
      cases hr
  take := by
    intro s snapshot h
    refine ⟨h.1, h.2, fun tx htx => ?_⟩
    obtain ⟨r, hr, hpending, -⟩ := Database.of_mem_pendingTransactions htx
    exact h.1.released hr hpending
  accept := by
    intro s snapshot accepted tx pending h _
    refine ⟨h.1, h.2.1, fun tx' htx' => h.2.2 tx' ?_⟩
    rwa [List.append_cons]
  reject := by
    intro s snapshot accepted tx pending e now h _
    have hstep : HoldStep s (s.1.rejectTransaction tx.id e.message now, s.2) :=
      rejection_holdStep tx.id .pending (some e.message) now rfl fun _ c hc => ⟨c, hc, rfl⟩
    refine ⟨hstep.command, hstep.kept h.1, h.2.1.step hstep, fun tx' htx' => (h.2.2 tx' ?_).step hstep⟩
    rcases List.mem_append.mp htx' with hacc | hrest
    · exact List.mem_append_left _ hacc
    · exact List.mem_append_right _ (List.mem_cons_of_mem _ hrest)
  save := by
    intro s d snapshot accepted block final h _ hblock _ hsave
    obtain ⟨hkept, hload, hreleased⟩ := h
    rw [List.append_nil] at hreleased
    have hstep := save_holdStep hblock hload hreleased hsave
    exact ⟨hstep.command, hstep.kept hkept, trivial⟩
  fail := fun s snapshot accepted h => ⟨h.1, trivial⟩
  failReject := by
    intro s tx txs now h
    have hstep : HoldStep s
        (s.1.rejectTransaction tx.id LedgerError.missingBlockHash.message now, s.2) :=
      rejection_holdStep tx.id .pending (some _) now rfl fun _ c hc => ⟨c, hc, rfl⟩
    exact ⟨hstep.command, hstep.kept h.1, trivial⟩
  unlock := by
    intro s _
    have hstep : HoldStep s ({ s.1 with blockProductionLock := none }, s.2) := .of_eq rfl rfl
    exact hstep.command
  savedUnlock := by
    intro block s h
    have hstep : HoldStep s ({ s.1 with blockProductionLock := none }, s.2) := .of_eq rfl rfl
    exact ⟨hstep.kept h.1, trivial⟩

/-- The safety of a call among any others; what it ends with is left open. -/
abbrev HoldSafe {ε α : Type} (p : StoreProg ε α) (s : Noted) : Prop :=
  p.Safe Sql.execNoted HoldStep HoldCommand (fun _ _ => True) (fun _ _ => True) s

/-- A request that approves nothing. -/
theorem holdSafe_of_only {ε α : Type} {p : StoreProg ε α} {s : Noted}
    (h : p.Only (Sql.OfApi false)) : HoldSafe p s := by
  refine .of_only h ?_ fun _ _ => trivial
  intro c s hc
  rcases Sql.execBeside_cases Statement.note c s with hsame | ⟨w, d, reply, rfl, hrun, hs'⟩
  · rw [Sql.execNoted, hsame]
    exact .refl s
  · rw [Sql.execNoted, hs']
    obtain ⟨hw, happrove⟩ := hc w rfl
    refine api_holdCommand hw ?_ hrun
    rintro k now rfl
    cases happrove rfl

/-- An approval: whatever committed since the case was read, the case is
still that of its payment. -/
theorem holdSafe_approve (d : Draws) (caseId : String) (reviewer reason : Option String)
    (s : Noted) : HoldSafe (approveComplianceCase d caseId reviewer reason) s := by
  rw [PostgresLedgerStore.approveComplianceCase, complianceCase, Prog.bind_assoc]
  refine .ofExcept_bind (fun _ _ _ _ => trivial) fun id _ => ?_
  refine notedView.safe_query HoldCommand.refl fun t _ => ?_
  cases hc : Query.eval (notedView.db t) (.complianceCase id) with
  | none => exact fun _ _ => trivial
  | some current =>
    refine .ofExcept_bind (fun _ _ _ _ => trivial) fun _ _ => ?_
    refine Sql.safe_executeBeside Statement.note HoldCommand.refl (fun _ _ => trivial)
      fun u db reply hu hrun => ?_
    refine ⟨api_holdCommand (.approve current _ _ _ _) ?_ hrun, ?_⟩
    · rintro _ _ ⟨⟩
      obtain ⟨k, hk, hpay⟩ := hu.cases id current hc
      exact ⟨k, Table.key_of_find? hc ▸ hk, hpay⟩
    · exact holdSafe_of_only (.bind (payment_only Sql.ofApi_read _) fun _ => trivial)

theorem NetworkCall.holdSafe (c : NetworkCall) (i : Session) {s : Noted} (h : HoldKept s) :
    HoldSafe (c.body i) s := by
  cases c with
  | request n op =>
    cases happrove : KaniNode.Postgres.approves op with
    | false => exact holdSafe_of_only (happrove ▸ KaniNode.Postgres.request_only n op)
    | true =>
      cases op with
      | approveComplianceCase d id reviewer reason =>
        have happ := holdSafe_approve d id reviewer reason s
        refine .bind (.mapError (happ.mono (fun _ _ h => h) (fun _ _ h => h) (fun _ _ h => h) ?_))
          HoldStep.refl
        intro r s _
        cases r <;> exact fun _ _ => trivial
      | _ => cases happrove
  | pass v d => exact NetworkCall.pass_safe (holdOutline v i) ⟨h, trivial⟩
  | seed ar d =>
    refine .mapError (ensureSandboxSeed_safe notedView HoldCommand.refl HoldStep.refl
      (fun _ _ _ => HoldStep.trans) (fun _ _ => trivial) ?_ ?_)
    · intro i s
      have honly : (execute (.upsertInstitution i) : StoreProg LedgerStorageError Unit).Only
          (Sql.OfApi false) := only_execute (Sql.ofApi_write (.upsertInstitution i) nofun)
      exact (holdSafe_of_only honly s (.refl s) trivial).1
    · intro u s db _ _ _ _ hsave
      have hsaved := Database.saveSnapshot_eq_ok hsave
      have hstep : HoldStep s (db, s.2) := by
        refine .of_eq ?_ ?_
        · exact hsaved.transactions
        · exact hsaved.complianceCases
      exact hstep.command

/-- The proof outline of the network. -/
def holdNetwork :
    Pool.Outline Sql.execNoted NetworkCall.body (fun _ (_ : Noted) => True) where
  inv := HoldKept
  rely := fun _ => HoldStep
  guar := fun _ => HoldCommand
  post := fun _ _ _ _ => True
  rely_refl := fun _ => HoldStep.refl
  rely_trans := fun _ _ _ _ => HoldStep.trans
  guar_rely := fun _ _ _ _ _ _ h => h.step
  guar_inv := fun _ _ _ hinv h => h.step.kept hinv
  body_safe := fun i c _ hinv => c.holdSafe i hinv

/-- The compliance hold is never bypassed: whatever the requests, reviews,
passes and seedings of a run, when a command has put into a block a payment
that was inserted HELD, the approval of a case of that payment had committed
before that command. -/
theorem hold_not_bypassed {db : Database} {P P' : Network Noted}
    (hrun : Pool.Reaches Sql.execNoted NetworkCall.body (fun _ _ => True) (.idle (db, [])) P)
    (hstep : Pool.Step Sql.execNoted NetworkCall.body (fun _ _ => True) P P') {id : String}
    (hheld : .held id ∈ P'.store.2) (hin : Included P'.store.1 id) :
    ∃ caseId, .approved caseId id ∈ P.store.2 ∧
      ∃ c, P.store.1.complianceCases.find? caseId = some c ∧ c.paymentId = id := by
  have hinit : HoldKept (db, []) := ⟨nofun, nofun⟩
  have hholds := holdNetwork.sound (holdNetwork.holds_idle hinit) hrun
  have hcommand : HoldCommand P.store P'.store := by
    cases hstep with
    | start i c hidle => exact .refl _
    | issue i c q next hslot hok => exact holdNetwork.guar_of_issue hholds hslot hok
  have happ : ApprovedIn P.store.2 id := by
    rcases hcommand.apart with hsame | hsub
    · have happ := (hcommand.step.kept hholds.1).approvedIn hheld hin
      rwa [hsame] at happ
    · have hin' := hsub id hin
      rcases hcommand.step.held id hheld with hold | hnone
      · exact hholds.1.approvedIn hold hin'
      · obtain ⟨r, hr, -⟩ := hin'
        rw [hnone] at hr
        cases hr
  obtain ⟨caseId, hmem⟩ := happ
  exact ⟨caseId, hmem, hholds.1.approved caseId id hmem⟩

/-- A mint, a transfer held for review, its approval, and the leader's pass
up to its save. -/
def exampleReleased : Network Noted :=
  let n : KaniNode := ⟨.sample, phase1Engine, .hybridPqcV1⟩
  let opened : ComplianceCaseOpen :=
    ⟨"", "policy-1", "R1", "manual review", SANDBOX_CORP_A_INSTITUTION⟩
  Pool.run Sql.execNoted NetworkCall.body (fun _ _ => True)
    (.idle (.seeded (.numbered "seed" 0), []))
    ([.start 0 (.request n (.mintSandbox (.numbered "mint" 1000) SANDBOX_TREASURY_ACCOUNT
        SANDBOX_CORP_A_ACCOUNT KCAD_TEST 10)), .tick 0, .tick 0,
      .start 1 (.request n (.holdPaymentForReview (.numbered "pay" 2000) SANDBOX_CORP_A_ACCOUNT
        SANDBOX_CORP_B_ACCOUNT KCAD_TEST 5 none opened)), .tick 1, .tick 1,
      .start 2 (.request n (.approveComplianceCase (.numbered "approve" 3000)
        (uuidNamed "pay-1-1") none none)),
      .tick 2, .tick 2, .start 3 (.pass (.connect .sample "validator-a") (.numbered "pass" 4000))] ++
      List.replicate 23 (.tick 3))

/-- The save puts the approved payment into a block. -/
theorem hold_not_bypassed_example :
    let P := exampleReleased
    let P' := P.fire Sql.execNoted NetworkCall.body (fun _ _ => True) (.tick 3)
    ¬ Included P.store.1 (uuidNamed "pay-0") ∧ Included P'.store.1 (uuidNamed "pay-0") ∧
      ∃ caseId, .approved caseId (uuidNamed "pay-0") ∈ P.store.2 ∧
        ∃ c, P.store.1.complianceCases.find? caseId = some c ∧ c.paymentId = uuidNamed "pay-0" := by
  intro P P'
  obtain ⟨hbefore, hafter, hrunning, hheld⟩ :
      (P.store.1.transactions.find? (uuidNamed "pay-0")).map TransactionRow.blockHeight =
          some none ∧
        (P'.store.1.transactions.find? (uuidNamed "pay-0")).map TransactionRow.blockHeight =
          some (some 1) ∧
        P.running 3 = true ∧ .held (uuidNamed "pay-0") ∈ P'.store.2 := by decide +kernel
  have hin : Included P'.store.1 (uuidNamed "pay-0") := by
    obtain ⟨r, hr, hblock⟩ := Option.map_eq_some_iff.mp hafter
    exact ⟨r, hr, by simp [hblock]⟩
  refine ⟨?_, hin, ?_⟩
  · rintro ⟨r, hr, hblock⟩
    rw [hr, Option.map_some] at hbefore
    exact hblock (Option.some.inj hbefore)
  · have hrun : Pool.Reaches Sql.execNoted NetworkCall.body (fun _ _ => True)
        (.idle (.seeded (.numbered "seed" 0), [])) P := Pool.reaches_run _ _ _ _ _
    have hstep : Pool.Step Sql.execNoted NetworkCall.body (fun _ _ => True) P P' :=
      Pool.step_tick _ _ _ hrunning fun _ _ => trivial
    exact hold_not_bypassed hrun hstep hheld hin

end KaniNetwork
