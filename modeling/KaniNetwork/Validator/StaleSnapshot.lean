/-
KaniNetwork.Validator.StaleSnapshot — administration and review while a
validator pass is running.

The advisory lock keeps other validators out, not the API. A pass saves
every institution, limit, case and payment it loaded, so a change the API
commits between the load and the save is overwritten (`stale_save`).

The store of this module is the database next to its replay: the same
initial database with the committed API statements, and nothing else,
applied to it. `Tracks` says that the database still shows what the API
did.

The condition, `SavesInTime`, is about the schedule: at each save that
commits, what the pass has read of these rows still stands. A pass writes
back what it has read (`runOnce_follows`), so such a save is `Fresh`, it
writes over the rows of the API what they hold. `no_lost_update` is about
every run of any number of passes and API calls, `lost_of_not_fresh` shows
that a save that is not fresh loses an update.
-/
import KaniNetwork.Base.Log
import KaniNetwork.Ledger.SnapshotRoundTrip
import KaniNetwork.Store.Postgres
import KaniNetwork.Store.StoredTimes
import KaniNetwork.Validator.PassReads
import KaniNetwork.Validator.SavedBlock

namespace KaniNetwork

open InMemoryLedger PostgresLedgerStore

/-! ## The replay of the API -/

/-- What a committed statement of the API does; the statements of a pass do
nothing here. -/
def Statement.replay (db : Database) : Statement → Database
  | .approveCase c now => db.approveCase c now
  | .rejectCase c reason now => db.rejectCase c reason now
  | .upsertInstitution i => { db with
      institutions := db.institutions.upsert Institution.merge Institution.merge_id i.stored }
  | .upsertInstitutionLimit l => { db with
      institutionLimits :=
        db.institutionLimits.upsert InstitutionLimit.merge InstitutionLimit.merge_key l.stored }
  | .suspendInstitution id now => db.suspendInstitution id now
  | _ => db

/-- The statements of administration and review. -/
def Statement.ofAdmin : Statement → Bool
  | .approveCase _ _ | .rejectCase _ _ _ | .upsertInstitution _ | .upsertInstitutionLimit _
  | .suspendInstitution _ _ => true
  | _ => false

/-- A successful statement of the API does what its replay does. -/
theorem run_eq_replay {w : Statement} (hw : w.ofAdmin = true) {db db' : Database}
    {reply : w.Reply} (h : w.run db = .ok (db', reply)) : db' = w.replay db := by
  cases w with
  | approveCase c now => exact (Statement.approveCase_eq_ok h).2
  | rejectCase c reason now => exact (Statement.rejectCase_eq_ok h).2
  | upsertInstitution i => exact Database.upsertInstitution_eq_ok (of_unit_eq_ok h)
  | upsertInstitutionLimit l => exact Database.upsertInstitutionLimit_eq_ok (of_unit_eq_ok h)
  | suspendInstitution id now =>
    cases h
    rfl
  | _ => cases hw

/-- A database and its replay. -/
abbrev Replayed := Database × Database

/-- A command on the database; a statement that commits is replayed. -/
def Sql.execReplayed (c : Sql) (s : Replayed) : Replayed × c.Reply :=
  match c with
  | .read q => (s, q.eval s.1)
  | .write w =>
    match w.run s.1 with
    | .ok (d, reply) => ((d, w.replay s.2), .ok reply)
    | .error e => (s, .error e)

theorem replay_of_pass {w : Statement} (hw : w.ofPass = true) (db : Database) :
    w.replay db = db := by
  cases w <;> first | rfl | cases hw

def replayView : DbView Replayed where
  sem := Sql.execReplayed
  db := Prod.fst
  put := fun d s => (d, s.2)
  put_db := fun _ => rfl
  read := fun _ _ => rfl
  write := by
    intro w s hw
    simp only [Sql.execReplayed]
    cases w.run s.1 with
    | error e => rfl
    | ok r =>
      simp only [replay_of_pass hw]
      cases (Sql.write w).saved? <;> rfl

/-! ## What the database still shows -/

/-- A payment has the status the API gave it, or a pass has taken it on from
PENDING. -/
def StatusFollows (status replayed : Option TransactionStatus) : Prop :=
  status = replayed ∨
    (replayed = some .pending ∧ (status = some .rejected ∨ status = some .finalized))

/-- The database contains the effect of every statement of the replay. -/
structure Tracks (db replayed : Database) : Prop where
  institutions : db.institutions = replayed.institutions
  limits : db.institutionLimits = replayed.institutionLimits
  cases : db.complianceCases = replayed.complianceCases
  payments : ∀ id, StatusFollows (db.paymentStatus id) (replayed.paymentStatus id)

theorem Tracks.refl (db : Database) : Tracks db db := ⟨rfl, rfl, rfl, fun _ => .inl rfl⟩

/-- What every command of a run does: it keeps `Tracks`, and the replay
never takes back what it made of a held payment. -/
structure ReplayStep (s s' : Replayed) : Prop where
  tracks : Tracks s.1 s.2 → Tracks s'.1 s'.2
  settled : ∀ id st, s.2.paymentStatus id = some st → st ≠ .held →
    s'.2.paymentStatus id = some st

theorem ReplayStep.refl (s : Replayed) : ReplayStep s s := ⟨fun h => h, fun _ _ h _ => h⟩

theorem ReplayStep.trans {s s' s'' : Replayed} (h : ReplayStep s s') (h' : ReplayStep s' s'') :
    ReplayStep s s'' :=
  ⟨fun ht => h'.tracks (h.tracks ht),
    fun id st hst hne => h'.settled id st (h.settled id st hst hne) hne⟩

/-- A change of the database that leaves the tables of the API alone. -/
theorem ReplayStep.of_eq {s : Replayed} {d : Database}
    (hinst : d.institutions = s.1.institutions) (hlim : d.institutionLimits = s.1.institutionLimits)
    (hcases : d.complianceCases = s.1.complianceCases)
    (hpay : Tracks s.1 s.2 → ∀ id, StatusFollows (d.paymentStatus id) (s.2.paymentStatus id)) :
    ReplayStep s (d, s.2) :=
  ⟨fun h => ⟨hinst.trans h.institutions, hlim.trans h.limits, hcases.trans h.cases, hpay h⟩,
    fun _ _ h _ => h⟩

/-- Releasing or refusing a held payment does the same to both sides. -/
theorem ReplayStep.of_review {s : Replayed} (c : ComplianceCase) (target : TransactionStatus)
    (reason : Option String) (now : DateTime) :
    ReplayStep s ((s.1.updateComplianceCase c).updatePayment c.paymentId .held target reason now,
      (s.2.updateComplianceCase c).updatePayment c.paymentId .held target reason now) := by
  refine ⟨fun h => ⟨h.institutions, h.limits, ?_, fun id => ?_⟩, fun id st hst hne => ?_⟩
  · show (s.1.updateComplianceCase c).complianceCases = (s.2.updateComplianceCase c).complianceCases
    simp only [Database.updateComplianceCase, h.cases]
  · have hid := h.payments id
    simp only [Database.paymentStatus_updatePayment]
    have hcase : ∀ db : Database, (db.updateComplianceCase c).paymentStatus id =
        db.paymentStatus id := fun _ => rfl
    rw [hcase, hcase]
    unfold StatusFollows at hid ⊢
    -- both sides are HELD or neither is
    grind
  · simp only [Database.paymentStatus_updatePayment]
    have hcase : (s.2.updateComplianceCase c).paymentStatus id = s.2.paymentStatus id := rfl
    rw [hcase, hst, if_neg]
    rintro ⟨-, heq⟩
    exact hne (Option.some.inj heq)

/-- Every command of administration and review. -/
theorem replayStep_of_admin (c : Sql) (s : Replayed)
    (hc : ∀ w, c = .write w → w.ofAdmin = true) : ReplayStep s (c.execReplayed s).1 := by
  cases c with
  | read q => exact .refl s
  | write w =>
    have hw := hc w rfl
    simp only [Sql.execReplayed]
    cases hrun : w.run s.1 with
    | error e => exact .refl s
    | ok r =>
      obtain ⟨d, reply⟩ := r
      have hd := run_eq_replay hw hrun
      subst hd
      cases w with
      | approveCase c now => exact .of_review c .pending none now
      | rejectCase c reason now => exact .of_review c .rejected (some reason) now
      | upsertInstitution i =>
        refine ⟨fun h => ⟨?_, h.limits, h.cases, h.payments⟩, fun _ _ h _ => h⟩
        simp only [Statement.replay, h.institutions]
      | upsertInstitutionLimit l =>
        refine ⟨fun h => ⟨h.institutions, ?_, h.cases, h.payments⟩, fun _ _ h _ => h⟩
        simp only [Statement.replay, h.limits]
      | suspendInstitution id now =>
        refine ⟨fun h => ⟨?_, h.limits, h.cases, h.payments⟩, fun _ _ h _ => h⟩
        simp only [Statement.replay, Database.suspendInstitution, h.institutions]
      | _ => cases hw

/-! ## Fresh saves -/

/-- What the save writes over the rows of the API is what they hold: its
institutions, limits and cases change nothing, and a payment it writes as
HELD is held. -/
structure Fresh (snapshot : LedgerSnapshot) (db : Database) : Prop where
  institutions : ∀ i ∈ snapshot.institutions,
    db.institutions.WritesBack Institution.merge i.stored
  limits : ∀ l ∈ snapshot.institutionLimits,
    db.institutionLimits.WritesBack InstitutionLimit.merge l.stored
  cases : ∀ c ∈ snapshot.complianceCases,
    db.complianceCases.WritesBack ComplianceCase.merge c.stored
  held : ∀ p ∈ snapshot.payments, p.status = .held →
    db.paymentStatus p.transaction.id = some .held

/-- The saves that commit are fresh. -/
def SavesFresh (c : Sql) (s : Replayed) : Prop :=
  ∀ snapshot, c.saved? = some snapshot → ∀ d, s.1.saveSnapshot snapshot = .ok d → Fresh snapshot s.1

/-- The statuses a snapshot was loaded with, HELD aside, are what the replay
has made of the payments for good. -/
def LoadedStatuses (snapshot : LedgerSnapshot) (replayed : Database) : Prop :=
  ∃ u : Database, snapshot.payments = u.payments ∧
    ∀ id st, u.paymentStatus id = some st → st ≠ .held →
      StatusFollows (some st) (replayed.paymentStatus id)

theorem StatusFollows.step {s s' : Replayed} (h : ReplayStep s s') {id : String}
    {st : TransactionStatus} (hne : st ≠ .held)
    (hst : StatusFollows (some st) (s.2.paymentStatus id)) :
    StatusFollows (some st) (s'.2.paymentStatus id) := by
  rcases hst with heq | ⟨hpending, hst⟩
  · exact .inl (h.settled id st heq.symm hne).symm
  · exact .inr ⟨h.settled id .pending hpending (by decide), hst⟩

/-- The block of a pass, saved freshly, keeps `Tracks`. -/
theorem save_tracks {v : ValidatorRuntime} {snapshot : LedgerSnapshot}
    {accepted : List Transaction} {block : Block} {final : InMemoryLedger} {s : Replayed}
    {d : Database} (h : PassBlock v (fromSnapshot snapshot) accepted block final)
    (hload : LoadedStatuses snapshot s.2)
    (hpending : ∀ tx ∈ accepted, s.2.paymentStatus tx.id = some .pending)
    (hfresh : Fresh final.snapshot s.1) (hsave : s.1.saveSnapshot final.snapshot = .ok d) :
    ReplayStep s (d, s.2) := by
  obtain ⟨u, hu, hstatuses⟩ := hload
  have hsaved := Database.saveSnapshot_eq_ok hsave
  refine .of_eq ?_ ?_ ?_ fun htracks id => ?_
  · rw [hsaved.institutions]
    exact Table.upsertAll_eq_self (List.forall_mem_map.mpr hfresh.institutions)
  · rw [hsaved.institutionLimits]
    exact Table.upsertAll_eq_self (List.forall_mem_map.mpr hfresh.limits)
  · rw [hsaved.complianceCases]
    exact Table.upsertAll_eq_self (List.forall_mem_map.mpr hfresh.cases)
  have hid := htracks.payments id
  have hfate := h.savedPayment hu hsave id
  rw [Database.paymentStatus]
  generalize d.transactions.find? id = row' at hfate ⊢
  cases hfate with
  | finalized tx now htx hid =>
    subst hid
    exact .inr ⟨hpending tx htx, .inr (by simp [PaymentRecord.finalized])⟩
  | restored row hrow hother =>
    simp only [Option.map_some, TransactionRow.over_status, TransactionRow.ofPayment_status,
      Database.joinBlock_status]
    by_cases hheld : row.status = .held
    · -- a payment written as HELD is held
      have hmem : u.joinBlock row ∈ final.snapshot.payments := by
        rcases h.lookup_payments id with ⟨tx, htx, hid, -⟩ | ⟨-, hlook⟩
        · exact absurd hid (hother tx htx)
        · rw [lookup_fromSnapshot_payments hu, hrow] at hlook
          exact HashMap.mem_values.mpr ⟨id, hlook⟩
      have hnow := hfresh.held _ hmem hheld
      rw [Database.joinBlock_id, Table.key_of_find? hrow] at hnow
      rw [hheld, ← hnow]
      exact hid
    · exact hstatuses id row.status (by rw [Database.paymentStatus, hrow]; rfl) hheld
  | untouched hnew hother => exact hid

/-- Rows filed under their keys in a loaded ledger have distinct keys when
they are saved. -/
theorem nodup_stored {κ α : Type} [DecidableEq κ] {key : α → κ} {stored : α → α}
    {m : HashMap κ α} {rows : List α} (hrows : rows.Perm m.values)
    (hstored : ∀ x, key (stored x) = key x) (hfiled : ∀ k x, m.lookup k = some x → key x = k) :
    ((rows.map stored).map key).Nodup := by
  have hkeys : (rows.map stored).map key = rows.map key := by
    rw [List.map_map]
    exact List.map_congr_left fun x _ => hstored x
  rw [hkeys]
  exact ((hrows.map key).nodup_iff).mpr (HashMap.nodup_map_values hfiled)

/-- A save that is not fresh loses an update. -/
theorem lost_of_not_fresh {v : ValidatorRuntime} {snapshot : LedgerSnapshot}
    {accepted : List Transaction} {block : Block} {final : InMemoryLedger} {s : Replayed}
    {d : Database} (h : PassBlock v (fromSnapshot snapshot) accepted block final)
    (htracks : Tracks s.1 s.2) (hsave : s.1.saveSnapshot final.snapshot = .ok d)
    (hstale : ¬ Fresh final.snapshot s.1) : ¬ Tracks d s.2 := by
  obtain ⟨_, _, happ⟩ := h.applied
  have hkeys := (keysCoherent_fromSnapshot snapshot).applied happ
  have hsaved := Database.saveSnapshot_eq_ok hsave
  refine fun hafter => hstale ⟨?_, ?_, ?_, fun p hp hheld => ?_⟩
  · refine List.forall_mem_map.mp (Table.writesBack_of_upsertAll_eq (nodup_stored
      (m := final.institutions) (List.perm_insertionSort _ _) (fun _ => rfl) fun k i hi => ?_)
      (hsaved.institutions.symm.trans (hafter.institutions.trans htracks.institutions.symm)))
    exact hkeys.institutions k i hi
  · refine List.forall_mem_map.mp (Table.writesBack_of_upsertAll_eq (nodup_stored
      (m := final.institutionLimits) (List.Perm.refl _) (fun _ => rfl) fun k l hl => ?_)
      (hsaved.institutionLimits.symm.trans (hafter.limits.trans htracks.limits.symm)))
    exact hkeys.institutionLimits k l hl
  · refine List.forall_mem_map.mp (Table.writesBack_of_upsertAll_eq (nodup_stored
      (m := final.complianceCases) (List.Perm.refl _) (fun _ => rfl) fun k c hc => ?_)
      (hsaved.complianceCases.symm.trans (hafter.cases.trans htracks.cases.symm)))
    exact hkeys.complianceCases k c hc
  · -- written as HELD, the payment is HELD in the replay, so it was held
    have hfiled := h.paymentsFiled (paymentsFiled_fromSnapshot snapshot)
    obtain ⟨id, hlook⟩ := HashMap.mem_values.mp hp
    have hid : p.transaction.id = id := hfiled id p hlook
    have hfind := find?_saveSnapshot_transactions hfiled hsave id
    rw [hlook] at hfind
    have hwritten : d.paymentStatus id = some .held := by
      rw [Database.paymentStatus, hfind]
      simp [hheld]
    have hreplay : s.2.paymentStatus id = some .held := by
      rcases hafter.payments id with heq | ⟨-, heq | heq⟩
      · rw [← heq, hwritten]
      · rw [hwritten] at heq
        cases heq
      · rw [hwritten] at heq
        cases heq
    rw [hid]
    rcases htracks.payments id with heq | ⟨hpending, -⟩
    · rw [heq, hreplay]
    · rw [hreplay] at hpending
      cases hpending

/-! ## Passes and API calls -/

/-- A validator pass, or a call of administration or review. -/
inductive AdminCall where
  | pass (runtime : ValidatorRuntime) (d : Draws)
  | suspendInstitution (now : DateTime) (institutionId : String)
  | upsertInstitution (institution : Institution)
  | upsertInstitutionLimit (limit : InstitutionLimit)
  | approve (d : Draws) (caseId : String) (reviewer reason : Option String)
  | reject (d : Draws) (caseId : String) (reviewer reason : Option String)

/-- The program of a call on the session `i`, its result dropped. -/
def AdminCall.body (i : Session) : AdminCall → StoreProg NodeError Unit
  | .pass runtime d => do
    let _ ← runtime.runOnce i d
  | .suspendInstitution now id => do
    let _ ← (PostgresLedgerStore.suspendInstitution now id).mapError .storage
  | .upsertInstitution institution => do
    let _ ← (PostgresLedgerStore.upsertInstitution institution).mapError .storage
  | .upsertInstitutionLimit limit => do
    let _ ← (PostgresLedgerStore.upsertInstitutionLimit limit).mapError .storage
  | .approve d id reviewer reason => do
    let _ ← (PostgresLedgerStore.approveComplianceCase d id reviewer reason).mapError .storage
  | .reject d id reviewer reason => do
    let _ ← (PostgresLedgerStore.rejectComplianceCase d id reviewer reason).mapError .storage

/-- What a pass knows at each place. -/
def passKnows (ph : Phase) (s : Replayed) : Prop :=
  Tracks s.1 s.2 ∧
    match ph with
    | .idle | .locked | .saved _ => True
    | .loaded snapshot => LoadedStatuses snapshot s.2
    | .selecting snapshot accepted pending => LoadedStatuses snapshot s.2 ∧
        ∀ tx ∈ accepted ++ pending, s.2.paymentStatus tx.id = some .pending
    | .failing txs => ∀ tx ∈ txs, s.2.paymentStatus tx.id = some .pending

theorem passKnows_stable {ph : Phase} {s s' : Replayed} (h : passKnows ph s)
    (hs : ReplayStep s s') : passKnows ph s' := by
  have hpending : ∀ {txs : List Transaction},
      (∀ tx ∈ txs, s.2.paymentStatus tx.id = some .pending) →
        ∀ tx ∈ txs, s'.2.paymentStatus tx.id = some .pending :=
    fun hp tx htx => hs.settled _ _ (hp tx htx) (by decide)
  have hload : ∀ {snapshot}, LoadedStatuses snapshot s.2 → LoadedStatuses snapshot s'.2 := by
    rintro snapshot ⟨u, hu, hst⟩
    exact ⟨u, hu, fun id st hid hne => (hst id st hid hne).step hs hne⟩
  refine ⟨hs.tracks h.1, ?_⟩
  cases ph with
  | idle => trivial
  | locked => trivial
  | loaded snapshot => exact hload h.2
  | selecting snapshot accepted pending => exact ⟨hload h.2.1, hpending h.2.2⟩
  | failing txs => exact hpending h.2
  | saved block => trivial

/-- A rejection of a transaction that the API left PENDING. -/
theorem reject_replayStep {s : Replayed} {tx : Transaction} (reason : String) (now : DateTime)
    (hpending : s.2.paymentStatus tx.id = some .pending) :
    ReplayStep s (s.1.rejectTransaction tx.id reason now, s.2) := by
  refine .of_eq rfl rfl rfl fun h id => ?_
  rw [Database.rejectTransaction, Database.paymentStatus_updatePayment]
  split
  · rename_i hid
    rw [hid.1]
    exact .inr ⟨hpending, .inl rfl⟩
  · exact h.payments id

/-- A pass among API calls. -/
def replayOutline (v : ValidatorRuntime) (session : Session) :
    PassOutline replayView v session ReplayStep ReplayStep SavesFresh where
  holds := passKnows
  rely_refl := ReplayStep.refl
  rely_trans := fun _ _ _ => ReplayStep.trans
  guar_refl := ReplayStep.refl
  stable := fun _ _ _ => passKnows_stable
  bookkeeping := by
    intro ph s t u h
    have hstep : ReplayStep s (s.1.withBookkeeping t u, s.2) :=
      .of_eq rfl rfl rfl fun htracks => htracks.payments
    exact ⟨hstep, passKnows_stable h hstep⟩
  lock := by
    intro s h _
    have hstep : ReplayStep s ({ s.1 with blockProductionLock := some session }, s.2) :=
      .of_eq rfl rfl rfl fun htracks => htracks.payments
    exact ⟨hstep, (passKnows_stable h hstep).1, trivial⟩
  load := by
    intro s s' snapshot h hs hload
    obtain ⟨_, ⟨w, hw, hw', rfl⟩, hpayments⟩ := hload.payments
    have htracks := hw.tracks h.1
    refine ⟨hs.tracks h.1, w.1, hpayments, fun id st hid hne => ?_⟩
    exact StatusFollows.step hw' hne (hid ▸ htracks.payments id)
  take := by
    rintro s snapshot ⟨htracks, hload⟩
    refine ⟨htracks, hload, fun tx htx => ?_⟩
    obtain ⟨r, hr, hst, -⟩ := Database.of_mem_pendingTransactions htx
    have hpending : s.1.paymentStatus tx.id = some .pending := by
      rw [Database.paymentStatus, show s.1.transactions.find? tx.id = some r from hr, ← hst]
      rfl
    rcases htracks.payments tx.id with heq | ⟨hp, -⟩
    · rw [← heq, hpending]
    · exact hp
  accept := by
    rintro s snapshot accepted tx pending ⟨htracks, hload, hpending⟩ _
    rw [List.append_cons] at hpending
    exact ⟨htracks, hload, hpending⟩
  reject := by
    rintro s snapshot accepted tx pending e now ⟨htracks, hload, hpending⟩ _
    have hstep := reject_replayStep e.message now (hpending tx (by simp))
    refine ⟨hstep, hstep.tracks htracks, hload, fun tx' htx' => hpending tx' ?_⟩
    rcases List.mem_append.mp htx' with h | h
    · exact List.mem_append_left _ h
    · exact List.mem_append_right _ (List.mem_cons_of_mem _ h)
  save := by
    rintro s d snapshot accepted block final ⟨htracks, hload, hpending⟩ _ hblock hfresh hsave
    rw [List.append_nil] at hpending
    have hstep := save_tracks hblock hload hpending (hfresh _ rfl d hsave) hsave
    exact ⟨hstep, hstep.tracks htracks, trivial⟩
  fail := by
    rintro s snapshot accepted ⟨htracks, -, hpending⟩
    rw [List.append_nil] at hpending
    exact ⟨htracks, hpending⟩
  failReject := by
    rintro s tx txs now ⟨htracks, hpending⟩
    have hstep := reject_replayStep LedgerError.missingBlockHash.message now
      (hpending tx List.mem_cons_self)
    exact ⟨hstep, hstep.tracks htracks, fun tx' htx' => hpending tx' (List.mem_cons_of_mem _ htx')⟩
  unlock := fun s _ => .of_eq rfl rfl rfl fun htracks => htracks.payments
  savedUnlock := by
    rintro block s ⟨htracks, -⟩
    have hstep : ReplayStep s ({ s.1 with blockProductionLock := none }, s.2) :=
      .of_eq rfl rfl rfl fun h => h.payments
    exact ⟨hstep.tracks htracks, trivial⟩

/-! ## Every run -/

/-- A command of administration and review. -/
def Sql.OfAdmin (c : Sql) : Prop := ∀ w, c = .write w → w.ofAdmin = true

theorem Sql.ofAdmin_read (q : Query) : (Sql.read q).OfAdmin := fun w h => by cases h

theorem Sql.ofAdmin_write {w : Statement} (h : w.ofAdmin = true) : (Sql.write w).OfAdmin := by
  rintro _ ⟨⟩
  exact h

theorem Sql.OfAdmin.saved? {c : Sql} (h : c.OfAdmin) : c.saved? = none := by
  cases c with
  | read q => rfl
  | write w =>
    have hw := h w rfl
    cases w <;> first | rfl | cases hw

/-- A call is a pass or sends commands of administration and review only. -/
theorem AdminCall.pass_or_admin (i : Session) (c : AdminCall) :
    (∃ v d, c = .pass v d) ∨ (c.body i).Only Sql.OfAdmin := by
  cases c with
  | pass v d => exact .inl ⟨v, d, rfl⟩
  | suspendInstitution now id =>
    exact .inr (.bind (.mapError (only_execute (Sql.ofAdmin_write rfl))) fun _ => trivial)
  | upsertInstitution institution =>
    exact .inr (.bind (.mapError (.bind (only_execute (Sql.ofAdmin_write rfl)) fun _ => trivial))
      fun _ => trivial)
  | upsertInstitutionLimit limit =>
    exact .inr (.bind (.mapError (.bind (only_execute (Sql.ofAdmin_write rfl)) fun _ => trivial))
      fun _ => trivial)
  | approve d id reviewer reason =>
    exact .inr (.bind (.mapError (approveComplianceCase_only Sql.ofAdmin_read d id reviewer reason
      fun _ => Sql.ofAdmin_write rfl)) fun _ => trivial)
  | reject d id reviewer reason =>
    exact .inr (.bind (.mapError (rejectComplianceCase_only Sql.ofAdmin_read d id reviewer reason
      fun _ => Sql.ofAdmin_write rfl)) fun _ => trivial)

/-- Every call is safe among the others. -/
theorem AdminCall.body_safe (i : Session) (c : AdminCall) {s : Replayed} (h : Tracks s.1 s.2) :
    (c.body i).Safe Sql.execReplayed ReplayStep ReplayStep SavesFresh (fun _ _ => True) s := by
  rcases c.pass_or_admin i with ⟨v, d, rfl⟩ | hadmin
  · refine .bind (((replayOutline v i).safe_runOnce ⟨h, trivial⟩).mono (fun _ _ h => h)
      (fun _ _ h => h) (fun _ _ h => h) fun r s _ => ?_) ReplayStep.refl
    cases r <;> exact fun _ _ => trivial
  · exact .of_only hadmin (fun q s hq => replayStep_of_admin q s hq) fun _ _ => trivial

/-- Every call saves only what it has read. -/
theorem AdminCall.savesRead (i : Session) (c : AdminCall) :
    (c.body i).Follows SavesRead (fun _ _ => True) [] := by
  rcases c.pass_or_admin i with ⟨v, d, rfl⟩ | hadmin
  · refine .bind ((v.runOnce_follows i d).mono (fun _ _ h => h) ?_)
    rintro h (e | r) - <;> trivial
  · exact hadmin.follows (fun _ _ hq => savesRead_of_none hq.saved?) fun _ _ => trivial

def adminOutline : Pool.Outline Sql.execReplayed AdminCall.body SavesFresh where
  inv := fun s => Tracks s.1 s.2
  rely := fun _ => ReplayStep
  guar := fun _ => ReplayStep
  post := fun _ _ _ _ => True
  rely_refl := fun _ => ReplayStep.refl
  rely_trans := fun _ _ _ _ => ReplayStep.trans
  guar_rely := fun _ _ _ _ _ _ h => h
  guar_inv := fun _ _ _ hinv h => h.tracks hinv
  body_safe := fun i c _ hinv => c.body_safe i hinv

/-! ## The schedule -/

abbrev AdminIssued := Pool.Issued Session AdminCall Sql Replayed

/-- What the call of `e` last read in `before` of the rows of the API still
stands when `e` is issued: the institutions, limits and cases are there as
they were, and the payments that were HELD are. -/
structure ReadsStand (before : List AdminIssued) (e : AdminIssued) : Prop where
  institutions : ∀ read ∈ Pool.last? e.slot (Sql.asks .institutions) before,
    read.store.1.institutions.rows ⊆ e.store.1.institutions.rows
  limits : ∀ read ∈ Pool.last? e.slot (Sql.asks .institutionLimits) before,
    read.store.1.institutionLimits.rows ⊆ e.store.1.institutionLimits.rows
  cases : ∀ read ∈ Pool.last? e.slot (Sql.asks (.complianceCases i64Max 0)) before,
    read.store.1.complianceCases.rows ⊆ e.store.1.complianceCases.rows
  held : ∀ read ∈ Pool.last? e.slot (Sql.asks .payments) before,
    ∀ r ∈ read.store.1.transactions.rows, r.status = .held →
      e.store.1.paymentStatus r.id = some .held

/-- The command saves, and the save commits. -/
def Sql.savesOn (c : Sql) (db : Database) : Bool :=
  c.saved?.any fun snapshot => (db.saveSnapshot snapshot).isOk

/-- The condition of a schedule: at each save that commits, what its pass has
read still stands. -/
def SavesInTime (log : List AdminIssued) : Prop :=
  ∀ before e after, log = before ++ e :: after → e.command.savesOn e.store.1 = true →
    ReadsStand before e

/-- The last reply to a query is what its moment held. -/
theorem exists_read_of_lastReply {q : Query} {rows : q.Reply} {i : Session}
    {before : List AdminIssued}
    (h : Prog.LastReply (.read q) rows (Pool.history Sql.execReplayed i before)) :
    ∃ read ∈ Pool.last? i (Sql.asks q) before, q.eval read.store.1 = rows := by
  obtain ⟨⟨slot, call, command, store⟩, hread, hreply⟩ :=
    Pool.last?_of_lastReply h fun _ => Sql.asks_iff
  simp only [Sigma.mk.injEq] at hreply
  obtain ⟨rfl, hrows⟩ := hreply
  exact ⟨_, hread, eq_of_heq hrows⟩

/-- A save of what was read and still stands is fresh. -/
theorem ReadsStand.fresh {before : List AdminIssued} {e : AdminIssued} {snapshot : LedgerSnapshot}
    (h : ReadsStand before e) (htimes : e.store.1.StoredTimes)
    (hwritten : WrittenFrom (Pool.history Sql.execReplayed e.slot before) snapshot) :
    Fresh snapshot e.store.1 := by
  refine ⟨fun i hi => ?_, fun l hl => ?_, fun c hc => ?_, fun p hp hheld => ?_⟩
  · obtain ⟨rows, hlast, hsub⟩ := hwritten.institutions
    obtain ⟨read, hread, rfl⟩ := exists_read_of_lastReply hlast
    have hrow : i ∈ read.store.1.institutions.rows := (List.mem_insertionSort _).mp (hsub hi)
    exact writesBack_of_stored (fun _ => rfl) htimes.institutions (h.institutions read hread hrow)
  · obtain ⟨rows, hlast, hsub⟩ := hwritten.limits
    obtain ⟨read, hread, rfl⟩ := exists_read_of_lastReply hlast
    have hrow : l ∈ read.store.1.institutionLimits.rows := (List.mem_insertionSort _).mp (hsub hl)
    exact writesBack_of_stored (fun _ => rfl) htimes.limits (h.limits read hread hrow)
  · obtain ⟨rows, hlast, hsub⟩ := hwritten.cases
    obtain ⟨read, hread, rfl⟩ := exists_read_of_lastReply hlast
    have hrow : c ∈ read.store.1.complianceCases.rows :=
      (List.mem_insertionSort _).mp (List.mem_of_mem_drop (List.mem_of_mem_take (hsub hc)))
    exact writesBack_of_stored (fun _ => rfl) htimes.cases (h.cases read hread hrow)
  · obtain ⟨rows, hlast, hsub⟩ := hwritten.held
    obtain ⟨read, hread, rfl⟩ := exists_read_of_lastReply hlast
    obtain ⟨r, hr, rfl⟩ := List.mem_map.mp (hsub p hp hheld)
    exact h.held read hread r ((List.mem_insertionSort _).mp hr) hheld

theorem storedTimes_execReplayed (c : Sql) {s : Replayed} (h : s.1.StoredTimes) :
    (c.execReplayed s).1.1.StoredTimes := by
  cases c with
  | read q => exact h
  | write w =>
    simp only [Sql.execReplayed]
    cases hrun : w.run s.1 with
    | error e => exact h
    | ok r => exact Database.storedTimes_of_run hrun h

/-- In a run that keeps to the condition every save that commits is fresh. -/
theorem run_savesFresh {db : Database} {log : List AdminIssued}
    {P : Pool Session AdminCall Sql Sql.Reply NodeError Unit Replayed} (htimes : db.StoredTimes)
    (hrun : Pool.Run Sql.execReplayed AdminCall.body (fun _ _ => True) (.idle (db, db)) log P)
    (hsaves : SavesInTime log) :
    Pool.Run Sql.execReplayed AdminCall.body SavesFresh (.idle (db, db)) log P := by
  refine hrun.restrict fun before e after hlog snapshot hsaved d hd => ?_
  obtain ⟨M, next, hbefore, -, hstore, -, -⟩ := hrun.split hlog
  have hstored : e.store.1.StoredTimes := by
    rw [hstore]
    exact hbefore.store_rel (fun s s' => s.1.StoredTimes → s'.1.StoredTimes) (fun _ h => h)
      (fun _ _ _ h h' hs => h' (h hs)) (fun c _ _ h => storedTimes_execReplayed c h) htimes
  have hcommits : e.command.savesOn e.store.1 = true := by
    rw [Sql.savesOn, hsaved, Option.any_some, hd]
    rfl
  have hread := hrun.may_of_follows AdminCall.savesRead hlog
  exact (hsaves before e after hlog hcommits).fresh hstored (hread snapshot hsaved)

/-- No administrative update is lost: in every run of validator passes and
API calls whose saves are in time, the institutions, limits and compliance
cases are those of the replay, and every payment has the status the API gave
it, except where a pass has taken it on from PENDING. -/
theorem no_lost_update {db : Database} {log : List AdminIssued}
    {P : Pool Session AdminCall Sql Sql.Reply NodeError Unit Replayed} (htimes : db.StoredTimes)
    (hrun : Pool.Run Sql.execReplayed AdminCall.body (fun _ _ => True) (.idle (db, db)) log P)
    (hsaves : SavesInTime log) : Tracks P.store.1 P.store.2 := by
  have hfresh := (run_savesFresh htimes hrun hsaves).reaches
  exact (adminOutline.sound (adminOutline.holds_idle (s := (db, db)) (Tracks.refl db)) hfresh).1

/-! ## A suspension undone -/

/-- A seeded database with a mint queued. -/
def exampleMintQueued : Database :=
  let mint := Transaction.newMint ⟨uuidNamed "m-1", 1000⟩ SANDBOX_TREASURY_ACCOUNT SANDBOX_CORP_A_ACCOUNT
    KCAD_TEST 100 1
  ((enqueuePendingTransaction 1000 mint none none).exec Sql.exec (.seeded (.numbered "seed" 0))).1

/-- The leader's pass and a suspension of CORP_B that commits after the pass
has sent `n` commands. -/
def exampleSuspension (n : Nat) : List (Pool.Event Session AdminCall) :=
  [.start 0 (.pass (.connect .sample "validator-a") (.numbered "pass" 3000)),
    .start 1 (.suspendInstitution 4000 SANDBOX_CORP_B_INSTITUTION)] ++
    List.replicate n (.tick 0) ++ [.tick 1] ++ List.replicate (27 - n) (.tick 0)

def exampleSuspended (n : Nat) : Pool Session AdminCall Sql Sql.Reply NodeError Unit Replayed :=
  Pool.run Sql.execReplayed AdminCall.body (fun _ _ => True)
    (.idle (exampleMintQueued, exampleMintQueued)) (exampleSuspension n)

def exampleSuspendedLog (n : Nat) : List AdminIssued :=
  Pool.runLog Sql.execReplayed AdminCall.body (fun _ _ => True)
    (.idle (exampleMintQueued, exampleMintQueued)) (exampleSuspension n)

def institutionStatus (db : Database) (id : String) : Option InstitutionStatus :=
  (db.institutions.find? id).map Institution.status

theorem Tracks.institutionStatus {db replayed : Database} (h : Tracks db replayed) (id : String) :
    institutionStatus db id = institutionStatus replayed id := by
  rw [KaniNetwork.institutionStatus, KaniNetwork.institutionStatus, h.institutions]

/-- The suspension commits between the load of the institutions and the
save: the pass sets CORP_B back to APPROVED. -/
theorem stale_save : ∃ P : Pool Session AdminCall Sql Sql.Reply NodeError Unit Replayed,
    Pool.Reaches Sql.execReplayed AdminCall.body (fun _ _ => True)
        (.idle (exampleMintQueued, exampleMintQueued)) P ∧
      institutionStatus P.store.1 SANDBOX_CORP_B_INSTITUTION = some .approved ∧
      institutionStatus P.store.2 SANDBOX_CORP_B_INSTITUTION = some .suspended ∧
      ¬ Tracks P.store.1 P.store.2 := by
  have happroved : institutionStatus (exampleSuspended 20).store.1
      SANDBOX_CORP_B_INSTITUTION = some .approved := by decide +kernel
  have hsuspended : institutionStatus (exampleSuspended 20).store.2
      SANDBOX_CORP_B_INSTITUTION = some .suspended := by decide +kernel
  have hrun : Pool.Reaches Sql.execReplayed AdminCall.body (fun _ _ => True)
      (.idle (exampleMintQueued, exampleMintQueued)) (exampleSuspended 20) :=
    Pool.reaches_run _ _ _ _ _
  refine ⟨_, hrun, happroved, hsuspended, fun h => ?_⟩
  exact absurd (happroved.symm.trans ((h.institutionStatus _).trans hsuspended)) (by decide)

instance (before : List AdminIssued) (e : AdminIssued) : Decidable (ReadsStand before e) :=
  decidable_of_iff
    ((∀ read ∈ Pool.last? e.slot (Sql.asks .institutions) before,
        read.store.1.institutions.rows ⊆ e.store.1.institutions.rows) ∧
      (∀ read ∈ Pool.last? e.slot (Sql.asks .institutionLimits) before,
        read.store.1.institutionLimits.rows ⊆ e.store.1.institutionLimits.rows) ∧
      (∀ read ∈ Pool.last? e.slot (Sql.asks (.complianceCases i64Max 0)) before,
        read.store.1.complianceCases.rows ⊆ e.store.1.complianceCases.rows) ∧
      ∀ read ∈ Pool.last? e.slot (Sql.asks .payments) before,
        ∀ r ∈ read.store.1.transactions.rows, r.status = .held →
          e.store.1.paymentStatus r.id = some .held)
    ⟨fun ⟨hi, hl, hc, hp⟩ => ⟨hi, hl, hc, hp⟩, fun ⟨hi, hl, hc, hp⟩ => ⟨hi, hl, hc, hp⟩⟩

/-- The condition at every place of a log. -/
theorem savesInTime_of_getElem {log : List AdminIssued}
    (h : ∀ k : Fin log.length, log[k].command.savesOn log[k].store.1 = true →
      ReadsStand (log.take k) log[k]) : SavesInTime log := by
  rintro before e after rfl hcommits
  have hat := h ⟨before.length, by simp⟩
  simp only [Fin.getElem_fin, List.getElem_append_right (le_refl _), Nat.sub_self,
    List.getElem_cons_zero, List.take_left] at hat
  exact hat hcommits

/-- A suspension that commits before the institutions are loaded stays, and
the block is saved. -/
theorem no_lost_update_example :
    let P := exampleSuspended 13
    institutionStatus P.store.1 SANDBOX_CORP_B_INSTITUTION = some .suspended ∧
      P.store.1.paymentStatus (uuidNamed "m-1") = some .finalized ∧ Tracks P.store.1 P.store.2 := by
  have hseeded : (Database.seeded (.numbered "seed" 0)).StoredTimes :=
    (Database.storedTimes_empty .plain).saveSnapshot Database.seeded_numbered
  have htimes : exampleMintQueued.StoredTimes := hseeded.method _
  have hsaves : SavesInTime (exampleSuspendedLog 13) := savesInTime_of_getElem (by decide +kernel)
  exact ⟨by decide +kernel, by decide +kernel,
    no_lost_update htimes (Pool.run_runLog _ _) hsaves⟩

end KaniNetwork
