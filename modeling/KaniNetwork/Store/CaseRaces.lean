/-
KaniNetwork.Store.CaseRaces — concurrent reviewers.

`approve_compliance_case` and `reject_compliance_case` check that a case
is open on a row they read before their transaction, and the update of the
case names its id only. Two reviewers who both read the case open both
commit: the later one overwrites the status of the case, while the payment,
updated only `WHERE status = 'HELD'`, keeps what the earlier one decided
(`double_review`).

`ResolvesOpen` is the condition a race breaks: no transaction commits a
resolution over a different one. Under it a case is resolved once and its
payment goes with it (`case_resolved_once`). Reviews that do not overlap
meet it, because each of them has read its case open (`ReviewsApart.resolvesOpen`).
-/
import KaniNetwork.Base.Log
import KaniNetwork.Store.Postgres

namespace KaniNetwork

open PostgresLedgerStore

/-- A review call. -/
inductive ReviewCall where
  | approve (d : Draws) (caseId : String) (reviewer reason : Option String)
  | reject (d : Draws) (caseId : String) (reviewer reason : Option String)

def ReviewCall.body :
    ReviewCall → StoreProg LedgerStorageError (ComplianceCase × PaymentRecord)
  | .approve d caseId reviewer reason => approveComplianceCase d caseId reviewer reason
  | .reject d caseId reviewer reason => rejectComplianceCase d caseId reviewer reason

/-- What a resolution makes of the payment. -/
def ComplianceCaseStatus.resolves : ComplianceCaseStatus → Option TransactionStatus
  | .approved => some .pending
  | .rejected => some .rejected
  | _ => none

/-- The cases and payments agree: an open case has its payment held, a
rejected case has it rejected, an approved case has let it go, and no two
cases share a payment. -/
structure CasesConsistent (db : Database) : Prop where
  payment_unique : ∀ id id' c c', db.complianceCases.find? id = some c →
    db.complianceCases.find? id' = some c' → c.paymentId = c'.paymentId → id = id'
  held : ∀ id c, db.complianceCases.find? id = some c → c.status.isTerminal = false →
    db.paymentStatus c.paymentId = some .held
  rejected : ∀ id c, db.complianceCases.find? id = some c → c.status = .rejected →
    db.paymentStatus c.paymentId = some .rejected
  approved : ∀ id c, db.complianceCases.find? id = some c → c.status = .approved →
    ∃ status, db.paymentStatus c.paymentId = some status ∧ status ≠ .held

/-- What time does to a case: it and its payment stay as they are, or it was
open with its payment held, and is resolved together with the payment. -/
def CaseKept (db db' : Database) : Prop :=
  ∀ id c, db.complianceCases.find? id = some c →
    ∃ c', db'.complianceCases.find? id = some c' ∧ c'.paymentId = c.paymentId ∧
      ((c'.status = c.status ∧ db'.paymentStatus c.paymentId = db.paymentStatus c.paymentId) ∨
        (c.status.isTerminal = false ∧ c'.status.isTerminal = true ∧
          db.paymentStatus c.paymentId = some .held ∧
          db'.paymentStatus c.paymentId = c'.status.resolves))

theorem CaseKept.refl (db : Database) : CaseKept db db :=
  fun _ c hc => ⟨c, hc, rfl, .inl ⟨rfl, rfl⟩⟩

theorem CaseKept.trans {db db' db'' : Database} (h : CaseKept db db') (h' : CaseKept db' db'') :
    CaseKept db db'' := by
  intro id c hc
  obtain ⟨c', hc', hpay, hcase⟩ := h id c hc
  obtain ⟨c'', hc'', hpay', hcase'⟩ := h' id c' hc'
  refine ⟨c'', hc'', hpay'.trans hpay, ?_⟩
  rw [hpay] at hcase'
  rcases hcase with ⟨hst, hps⟩ | ⟨hopen, hdone, hheld, hres⟩
  · rw [hst, hps] at hcase'
    exact hcase'
  · rcases hcase' with ⟨hst', hps'⟩ | ⟨hopen', -⟩
    · exact .inr ⟨hopen, by rw [hst', hdone], hheld, by rw [hps', hst', hres]⟩
    · rw [hdone] at hopen'
      cases hopen'

/-- A terminal case keeps its status. -/
theorem CaseKept.terminal {db db' : Database} (h : CaseKept db db') {id : String}
    {c : ComplianceCase} (hc : db.complianceCases.find? id = some c)
    (hdone : c.status.isTerminal = true) :
    ∃ c', db'.complianceCases.find? id = some c' ∧ c'.status = c.status := by
  obtain ⟨c', hc', -, ⟨hst, -⟩ | ⟨hopen, -⟩⟩ := h id c hc
  · exact ⟨c', hc', hst⟩
  · rw [hdone] at hopen
    cases hopen

/-! ## One resolution -/

/-- The resolution `c` is not written over a different one. -/
def NotResolvedOtherwise (c : ComplianceCase) (db : Database) : Prop :=
  ∀ row ∈ db.complianceCases.find? c.id, row.status.isTerminal = true → row.status = c.status

instance (c : ComplianceCase) (db : Database) : Decidable (NotResolvedOtherwise c db) :=
  inferInstanceAs (Decidable (∀ row ∈ db.complianceCases.find? c.id, _))

/-- Kept cases stay consistent when no case is new. -/
theorem CasesConsistent.of_kept {db db' : Database} (h : CasesConsistent db)
    (hkept : CaseKept db db')
    (hold : ∀ id c', db'.complianceCases.find? id = some c' →
      ∃ c, db.complianceCases.find? id = some c) : CasesConsistent db' := by
  -- every case of `db'` is one of `db`, whose fate `hkept` tells
  have hback : ∀ {id r'}, db'.complianceCases.find? id = some r' →
      ∃ r, db.complianceCases.find? id = some r ∧ r'.paymentId = r.paymentId ∧
        ((r'.status = r.status ∧
            db'.paymentStatus r'.paymentId = db.paymentStatus r.paymentId) ∨
          (r'.status.isTerminal = true ∧
            db'.paymentStatus r'.paymentId = r'.status.resolves)) := by
    intro id r' hr'
    obtain ⟨r, hr⟩ := hold id r' hr'
    obtain ⟨r'', hr'', hp, hfate⟩ := hkept id r hr
    rw [hr'] at hr''
    cases hr''
    refine ⟨r, hr, hp, ?_⟩
    rw [hp]
    rcases hfate with hsame | ⟨-, hdone, -, hres⟩
    · exact .inl hsame
    · exact .inr ⟨hdone, hres⟩
  constructor
  · intro id id' r r' hr hr' heq
    obtain ⟨q, hq, hp, -⟩ := hback hr
    obtain ⟨q', hq', hp', -⟩ := hback hr'
    exact h.payment_unique _ _ _ _ hq hq' (by rw [← hp, ← hp', heq])
  · intro id r' hr' hopen
    obtain ⟨r, hr, -, ⟨hst, hps⟩ | ⟨hdone', -⟩⟩ := hback hr'
    · rw [hps]
      exact h.held id r hr (by rw [← hst, hopen])
    · rw [hopen] at hdone'
      cases hdone'
  · intro id r' hr' hrej
    obtain ⟨r, hr, -, ⟨hst, hps⟩ | ⟨-, hres⟩⟩ := hback hr'
    · rw [hps]
      exact h.rejected id r hr (by rw [← hst, hrej])
    · rw [hres, hrej]
      rfl
  · intro id r' hr' happ
    obtain ⟨r, hr, -, ⟨hst, hps⟩ | ⟨-, hres⟩⟩ := hback hr'
    · rw [hps]
      exact h.approved id r hr (by rw [← hst, happ])
    · rw [hres, happ]
      exact ⟨.pending, rfl, by decide⟩

/-- The payment of a resolved case is not held. -/
theorem CasesConsistent.not_held {db : Database} (h : CasesConsistent db) {id : String}
    {c : ComplianceCase} {target : TransactionStatus}
    (hc : db.complianceCases.find? id = some c) (hres : c.status.resolves = some target) :
    db.paymentStatus c.paymentId ≠ some .held := by
  intro hheld
  cases hst : c.status with
  | approved =>
    obtain ⟨st, hps, hne⟩ := h.approved id c hc hst
    exact hne (Option.some.inj (hps.symm.trans hheld))
  | rejected =>
    have hps := h.rejected id c hc hst
    rw [hheld] at hps
    cases hps
  | _ =>
    rw [hst] at hres
    cases hres

/-- The transaction of `approve_compliance_case` and `reject_compliance_case`:
the payment of the resolved case `c` leaves `HELD` for `target`. -/
theorem resolve_kept {db db' : Database} {c row : ComplianceCase} {target : TransactionStatus}
    {failureReason : Option String} {now : DateTime} (h : CasesConsistent db)
    (hrow : db.complianceCases.find? c.id = some row) (hpay : row.paymentId = c.paymentId)
    (htarget : c.status.resolves = some target) (hok : NotResolvedOtherwise c db)
    (hdb' : db' = (db.updateComplianceCase c).updatePayment c.paymentId .held target
      failureReason now) : CasesConsistent db' ∧ CaseKept db db' := by
  have hcase : ∀ id, db'.complianceCases.find? id =
      (db.complianceCases.find? id).map fun r => if r.id = c.id then r.merge c.stored else r := by
    intro id
    rw [hdb']
    exact db.find?_updateComplianceCase c id
  have hstatus : ∀ id, db'.paymentStatus id =
      if id = c.paymentId ∧ db.paymentStatus id = some .held then some target
      else db.paymentStatus id := by
    intro id
    rw [hdb']
    exact Database.paymentStatus_updatePayment ..
  have hdone : c.status.isTerminal = true := by
    cases hst : c.status <;> simp_all [ComplianceCaseStatus.resolves, ComplianceCaseStatus.isTerminal]
  -- the payment of another case is another payment
  have hother : ∀ {id r}, db.complianceCases.find? id = some r → id ≠ c.id →
      db'.paymentStatus r.paymentId = db.paymentStatus r.paymentId := by
    intro id r hr hid
    rw [hstatus, if_neg]
    rintro ⟨hp, -⟩
    exact hid (h.payment_unique _ _ _ _ hr hrow (hp.trans hpay.symm))
  have hkept : CaseKept db db' := by
    intro id r hr
    by_cases hid : id = c.id
    · subst hid
      rw [hrow] at hr
      cases hr
      have hrid := Table.key_of_find? hrow
      refine ⟨row.merge c.stored, by rw [hcase, hrow, Option.map_some, if_pos hrid], rfl, ?_⟩
      cases hopen : row.status.isTerminal with
      | false =>
        have hheld := h.held _ _ hrow hopen
        refine .inr ⟨rfl, hdone, hheld, ?_⟩
        rw [hstatus, if_pos ⟨hpay, hheld⟩]
        exact htarget.symm
      | true =>
        have hst : row.status = c.status := hok row hrow hopen
        refine .inl ⟨hst.symm, ?_⟩
        rw [hstatus, if_neg]
        exact fun hheld => h.not_held hrow (hst ▸ htarget) hheld.2
    · have hrid : r.id ≠ c.id := by rwa [Table.key_of_find? hr]
      exact ⟨r, by rw [hcase, hr, Option.map_some, if_neg hrid], rfl, .inl ⟨rfl, hother hr hid⟩⟩
  refine ⟨h.of_kept hkept ?_, hkept⟩
  intro id r' hr'
  obtain ⟨r, hr, -⟩ := Option.map_eq_some_iff.mp ((hcase id).symm.trans hr')
  exact ⟨r, hr⟩

/-- The condition is exact: a commit that breaks it gives a terminal case
another status. -/
theorem updateComplianceCase_overwrites {db : Database} {c : ComplianceCase}
    (h : ¬ NotResolvedOtherwise c db) :
    ∃ row row', db.complianceCases.find? c.id = some row ∧ row.status.isTerminal = true ∧
      (db.updateComplianceCase c).complianceCases.find? c.id = some row' ∧
      row'.status ≠ row.status := by
  simp only [NotResolvedOtherwise, not_forall] at h
  obtain ⟨row, hrow, hdone, hne⟩ := h
  have hrow : db.complianceCases.find? c.id = some row := hrow
  refine ⟨row, row.merge c.stored, hrow, hdone, ?_, fun he => hne he.symm⟩
  rw [Database.find?_updateComplianceCase, hrow, Option.map_some, if_pos (Table.key_of_find? hrow)]

/-! ## Every schedule -/

/-- The condition of a run: no transaction commits a resolution over a
different one. One whose texts the columns refuse commits nothing. -/
def ResolvesOpen : Sql → Database → Prop
  | .write (.approveCase c _), db => c.verdictTextOk = true → NotResolvedOtherwise c db
  | .write (.rejectCase c reason _), db =>
    (c.verdictTextOk && isText reason) = true → NotResolvedOtherwise c db
  | _, _ => True

instance : (c : Sql) → (db : Database) → Decidable (ResolvesOpen c db)
  | .write (.approveCase c _), db =>
    inferInstanceAs (Decidable (c.verdictTextOk = true → NotResolvedOtherwise c db))
  | .write (.rejectCase c reason _), db => inferInstanceAs
    (Decidable ((c.verdictTextOk && isText reason) = true → NotResolvedOtherwise c db))
  | .read _, _ | .write (.insertPending _), _ | .write (.holdPayment _ _), _
  | .write (.upsertInstitution _), _ | .write (.upsertInstitutionLimit _), _
  | .write (.insertCredential _), _
  | .write (.suspendInstitution _ _), _ | .write (.rejectTransaction _ _ _), _
  | .write (.insertAuditEvent _), _ | .write (.recordHeartbeat _ _), _
  | .write (.recordFinalizedBlock _ _ _), _ | .write (.saveSnapshot _), _
  | .write (.tryLock _), _ | .write (.unlock _), _ => .isTrue trivial

/-- What the commands of a review do to consistent cases. -/
def ReviewStep (db db' : Database) : Prop :=
  CasesConsistent db → CasesConsistent db' ∧ CaseKept db db'

theorem ReviewStep.refl (db : Database) : ReviewStep db db := fun h => ⟨h, .refl db⟩

theorem ReviewStep.trans {db db' db'' : Database} (h : ReviewStep db db')
    (h' : ReviewStep db' db'') : ReviewStep db db'' := by
  intro hcons
  obtain ⟨hcons', hkept⟩ := h hcons
  obtain ⟨hcons'', hkept'⟩ := h' hcons'
  exact ⟨hcons'', hkept.trans hkept'⟩

/-- The safety of a program among reviewers; what it ends with is left open. -/
abbrev ReviewSafe {α : Type} (p : StoreProg LedgerStorageError α) (db : Database) : Prop :=
  p.Safe Sql.exec ReviewStep ReviewStep ResolvesOpen (fun _ _ => True) db

theorem reviewSafe_complianceCase {α : Type} {caseId : String}
    {f : ComplianceCase → StoreProg LedgerStorageError α} {db : Database}
    (h : ∀ s id c, ReviewStep db s → s.complianceCases.find? id = some c → ReviewSafe (f c) s) :
    ReviewSafe (complianceCase caseId >>= f) db := by
  rw [complianceCase, Prog.bind_assoc]
  refine .ofExcept_bind (fun _ _ _ _ => trivial) fun id _ => ?_
  refine safe_query ReviewStep.refl fun s hs => ?_
  cases hc : Query.eval s (.complianceCase id) with
  | none => exact fun _ _ => trivial
  | some c => exact h s id c hs hc

/-- Both methods: read an open case, commit a resolution of it, go on. -/
theorem review_safe {α : Type} {db : Database} (hcons : CasesConsistent db) (caseId : String)
    (resolve : ComplianceCase → ComplianceCase) (w : ComplianceCase → Statement)
    (f : ComplianceCase → StoreProg LedgerStorageError α)
    (hresolve : ∀ c, (resolve c).id = c.id ∧ (resolve c).paymentId = c.paymentId)
    (hw : ∀ c s s' reply, (w c).run s = .ok (s', reply) → ResolvesOpen (.write (w c)) s →
      NotResolvedOtherwise c s)
    (hrun : ∀ c s s' reply, (w (resolve c)).run s = .ok (s', reply) →
      ∃ target failureReason now, (resolve c).status.resolves = some target ∧
        s' = (s.updateComplianceCase (resolve c)).updatePayment (resolve c).paymentId .held target
          failureReason now)
    (hf : ∀ c s, ReviewSafe (f c) s) :
    ReviewSafe (do
      let current ← complianceCase caseId
      .ofExcept (ensureStorageCaseNotTerminal current)
      let _ ← execute (w (resolve current))
      f (resolve current)) db := by
  refine reviewSafe_complianceCase fun s id c hs hc => ?_
  obtain ⟨hcons, -⟩ := hs hcons
  refine .ofExcept_bind (fun _ _ _ _ => trivial) fun _ _ => ?_
  refine safe_execute ReviewStep.refl (fun _ _ _ _ _ => trivial) fun v v' reply hv hok hw' => ?_
  -- the case may have changed since it was read, but not its payment
  obtain ⟨hcons', hkept⟩ := hv hcons
  obtain ⟨row, hrow, hpay, -⟩ := hkept id c hc
  obtain ⟨target, failureReason, now, htarget, hv'⟩ := hrun c v v' reply hw'
  have hid : (resolve c).id = id := (hresolve c).1.trans (Table.key_of_find? hc)
  have hstep := resolve_kept hcons' (hid ▸ hrow) (hpay.trans (hresolve c).2.symm) htarget
    (hw _ _ _ _ hw' hok) hv'
  exact ⟨fun _ => hstep, hf _ _⟩

/-- What a review answers with: the case and its payment. -/
def reviewed (c : ComplianceCase) : StoreProg LedgerStorageError (ComplianceCase × PaymentRecord) := do
  let payment ← payment c.paymentId
  return (c, payment)

theorem reviewed_safe (c : ComplianceCase) (db : Database) : ReviewSafe (reviewed c) db := by
  rw [reviewed, payment, Prog.bind_assoc]
  refine .ofExcept_bind (fun _ _ _ _ => trivial) fun id _ => ?_
  refine safe_query ReviewStep.refl fun s _ => ?_
  cases Query.eval s (.payment id) with
  | none => exact fun _ _ => trivial
  | some p => exact fun _ _ => trivial

theorem ReviewCall.body_safe (c : ReviewCall) {db : Database} (hcons : CasesConsistent db) :
    ReviewSafe c.body db := by
  cases c with
  | approve d caseId reviewer reason =>
    refine review_safe hcons caseId (·.approved (d.sub 0).stamp.now reviewer reason)
      (.approveCase · (d.sub 1).stamp.now) reviewed (fun c => ⟨rfl, rfl⟩) (fun c s s' _ h hok => ?_)
      (fun c s s' _ h => ?_) reviewed_safe
    · exact hok (Statement.approveCase_eq_ok h).1
    · exact ⟨.pending, none, _, rfl, (Statement.approveCase_eq_ok h).2⟩
  | reject d caseId reviewer reason =>
    refine review_safe hcons caseId (·.rejected (d.sub 0).stamp.now reviewer reason)
      (.rejectCase · (reason.getD "compliance case rejected") (d.sub 1).stamp.now) reviewed
      (fun c => ⟨rfl, rfl⟩) (fun c s s' _ h hok => ?_) (fun c s s' _ h => ?_) reviewed_safe
    · exact hok (Statement.rejectCase_eq_ok h).1
    · exact ⟨.rejected, some _, _, rfl, (Statement.rejectCase_eq_ok h).2⟩

/-- The proof outline of a pool of reviewers. -/
def reviewOutline (ι : Type) :
    Pool.Outline Sql.exec (fun _ : ι => ReviewCall.body) ResolvesOpen where
  inv := CasesConsistent
  rely := fun _ => ReviewStep
  guar := fun _ => ReviewStep
  post := fun _ _ _ _ => True
  rely_refl := fun _ => ReviewStep.refl
  rely_trans := fun _ _ _ _ => ReviewStep.trans
  guar_rely := fun _ _ _ _ _ _ h => h
  guar_inv := fun _ _ _ hinv h => (h hinv).1
  body_safe := fun _ c _ hinv => c.body_safe hinv

/-- A case is resolved once: in every run of any number of reviewers in
which no transaction commits a resolution over a different one, a terminal
case keeps its status, a case and its payment change together and only from
an open case with a held payment, and cases and payments agree throughout. -/
theorem case_resolved_once {ι : Type} [DecidableEq ι] {db : Database} (hcons : CasesConsistent db)
    {P P' : Pool ι ReviewCall Sql Sql.Reply LedgerStorageError (ComplianceCase × PaymentRecord)
      Database}
    (hrun : Pool.Reaches Sql.exec (fun _ => ReviewCall.body) ResolvesOpen (.idle db) P)
    (hrun' : Pool.Reaches Sql.exec (fun _ => ReviewCall.body) ResolvesOpen P P') :
    CasesConsistent P.store ∧ CaseKept P.store P'.store ∧
      ∀ id c, P.store.complianceCases.find? id = some c → c.status.isTerminal = true →
        ∃ c', P'.store.complianceCases.find? id = some c' ∧ c'.status = c.status := by
  have hholds := (reviewOutline ι).sound ((reviewOutline ι).holds_idle hcons) hrun
  have hkept : CaseKept P.store P'.store := by
    refine (reviewOutline ι).monotone (M := CaseKept) CaseKept.refl
      (fun _ _ _ => CaseKept.trans) (fun _ s s' hinv h => (h hinv).2) hholds hrun'
  exact ⟨hholds.1, hkept, fun id c hc hdone => hkept.terminal hc hdone⟩

/-! ## Reviews that do not overlap -/

/-- The case a review commits. -/
def Sql.resolved? : Sql → Option ComplianceCase
  | .write (.approveCase c _) => some c
  | .write (.rejectCase c _ _) => some c
  | _ => none

theorem resolvesOpen_of_resolved {q : Sql} {db : Database}
    (h : ∀ c, q.resolved? = some c → NotResolvedOtherwise c db) : ResolvesOpen q db := by
  unfold ResolvesOpen
  split
  · exact fun _ => h _ rfl
  · exact fun _ => h _ rfl
  · trivial

/-- What a review commits is a case it has just read open. -/
def ResolvesRead (h : History Sql Sql.Reply) (q : Sql) : Prop :=
  ∀ c, q.resolved? = some c → ∃ id row, Prog.LastReply (.read (.complianceCase id)) (some row) h ∧
    row.status.isTerminal = false ∧ row.id = c.id

theorem resolvesRead_of_none {h : History Sql Sql.Reply} {q : Sql} (hq : q.resolved? = none) :
    ResolvesRead h q := by
  intro c hc
  rw [hq] at hc
  cases hc

/-- Both methods again: the check has seen the case open. -/
theorem review_resolvesRead {α : Type} (caseId : String) (resolve : ComplianceCase → ComplianceCase)
    (w : ComplianceCase → Statement) (f : ComplianceCase → StoreProg LedgerStorageError α)
    (hresolve : ∀ c, (resolve c).id = c.id)
    (hw : ∀ c, (Sql.write (w c)).resolved? = some c)
    (hf : ∀ c, (f c).Only fun q => q.resolved? = none) :
    Prog.Follows ResolvesRead (fun _ _ => True) (do
      let current ← complianceCase caseId
      .ofExcept (ensureStorageCaseNotTerminal current)
      let _ ← execute (w (resolve current))
      f (resolve current)) [] := by
  rw [complianceCase, Prog.bind_assoc]
  refine .ofExcept_bind (fun _ _ => trivial) fun id _ => ?_
  refine .bind ⟨resolvesRead_of_none rfl, fun found => ?_⟩
  cases found with
  | none => trivial
  | some current =>
    refine .ofExcept_bind (fun _ _ => trivial) fun _ hopen => ?_
    refine .bind ⟨?_, fun reply => ?_⟩
    · intro c hc
      rw [hw] at hc
      cases hc
      refine ⟨id, current, .concat _ [], ?_, (hresolve current).symm⟩
      rw [ensureStorageCaseNotTerminal] at hopen
      split at hopen
      · cases hopen
      · exact eq_false_of_ne_true ‹_›
    · refine Prog.follows_ofExcept ?_
      cases reply with
      | error e => trivial
      | ok _ => exact (hf _).follows (fun _ _ => resolvesRead_of_none) fun _ _ => trivial

theorem reviewed_only (c : ComplianceCase) : (reviewed c).Only fun q => q.resolved? = none :=
  .bind (payment_only (fun _ => rfl) _) fun _ => trivial

theorem ReviewCall.resolvesRead (c : ReviewCall) :
    c.body.Follows ResolvesRead (fun _ _ => True) [] := by
  cases c with
  | approve d caseId reviewer reason =>
    exact review_resolvesRead caseId (·.approved (d.sub 0).stamp.now reviewer reason)
      (.approveCase · (d.sub 1).stamp.now) reviewed (fun _ => rfl) (fun _ => rfl) reviewed_only
  | reject d caseId reviewer reason =>
    exact review_resolvesRead caseId (·.rejected (d.sub 0).stamp.now reviewer reason)
      (.rejectCase · (reason.getD "compliance case rejected") (d.sub 1).stamp.now) reviewed
      (fun _ => rfl) (fun _ => rfl) reviewed_only

section

variable {ι : Type} [DecidableEq ι] {db : Database}
  {log : List (Pool.Issued ι ReviewCall Sql Database)}
  {P : Pool ι ReviewCall Sql Sql.Reply LedgerStorageError (ComplianceCase × PaymentRecord) Database}

/-- The reviews of a case do not overlap: between the read of a review and its
commit the case has not changed. -/
def ReviewsApart (log : List (Pool.Issued ι ReviewCall Sql Database)) : Prop :=
  ∀ before e after, log = before ++ e :: after → ∀ c, e.command.resolved? = some c →
    ∀ read ∈ Pool.last? e.slot (Sql.asks (.complianceCase c.id)) before,
      e.store.complianceCases.find? c.id = read.store.complianceCases.find? c.id

/-- Reviews that do not overlap meet the condition of the race. -/
theorem ReviewsApart.resolvesOpen (h : ReviewsApart log)
    (hrun : Pool.Run Sql.exec (fun _ : ι => ReviewCall.body) (fun _ _ => True) (.idle db) log P) :
    Pool.Run Sql.exec (fun _ => ReviewCall.body) ResolvesOpen (.idle db) log P := by
  have hbody : ∀ (_ : ι) (c : ReviewCall), c.body.Follows ResolvesRead (fun _ _ => True) [] :=
    fun _ => ReviewCall.resolvesRead
  refine hrun.restrict fun before e after hlog => resolvesOpen_of_resolved ?_
  intro c hc row hrow hterminal
  obtain ⟨id, read, hlast, hopen, hid⟩ := hrun.may_of_follows hbody hlog c hc
  obtain ⟨⟨slot, call, command, store⟩, hread, hreply⟩ :=
    Pool.last?_of_lastReply hlast fun _ => Sql.asks_iff
  simp only [Sigma.mk.injEq] at hreply
  obtain ⟨rfl, hfound⟩ := hreply
  have hfound : store.complianceCases.find? id = some read := eq_of_heq hfound
  obtain rfl : id = c.id := (Table.key_of_find? hfound).symm.trans hid
  -- the case is as it was read, which is open
  have hsame := h before e after hlog c hc _ hread
  rw [hfound] at hsame
  cases hsame.symm.trans hrow
  rw [hopen] at hterminal
  cases hterminal

/-- So in a run of such reviews cases and payments agree. -/
theorem ReviewsApart.consistent (h : ReviewsApart log) (hcons : CasesConsistent db)
    (hrun : Pool.Run Sql.exec (fun _ : ι => ReviewCall.body) (fun _ _ => True) (.idle db) log P) :
    CasesConsistent P.store :=
  ((reviewOutline ι).sound ((reviewOutline ι).holds_idle hcons) (h.resolvesOpen hrun).reaches).1

end

/-! ## The race -/

/-- Freshly opened cases of different payments, all of them held. -/
theorem CasesConsistent.of_opened {db : Database}
    (hunique : (db.complianceCases.rows.map ComplianceCase.paymentId).Nodup)
    (hopen : ∀ c ∈ db.complianceCases.rows, c.status = .opened ∧
      db.paymentStatus c.paymentId = some .held) : CasesConsistent db := by
  refine ⟨?_, ?_, ?_, ?_⟩
  · intro id id' c c' hc hc' heq
    have := List.inj_on_of_nodup_map hunique (Table.mem_of_find? hc) (Table.mem_of_find? hc') heq
    rw [← Table.key_of_find? hc, ← Table.key_of_find? hc', this]
  · exact fun id c hc _ => (hopen c (Table.mem_of_find? hc)).2
  · intro id c hc hst
    rw [(hopen c (Table.mem_of_find? hc)).1] at hst
    cases hst
  · intro id c hc hst
    rw [(hopen c (Table.mem_of_find? hc)).1] at hst
    cases hst

/-- A seeded database with one payment held for review. -/
def exampleHeld : Database :=
  ((holdPaymentForReview (.numbered "case" 2000)
    (.newTransfer ⟨uuidNamed "p-1", 1000⟩ SANDBOX_CORP_A_ACCOUNT SANDBOX_CORP_B_ACCOUNT KCAD_TEST 5 1)
    none none ⟨uuidNamed "p-1", "policy-1", "R1", "manual review",
      SANDBOX_CORP_A_INSTITUTION⟩).exec Sql.exec
      (.seeded (.numbered "seed" 0))).1

theorem exampleHeld_consistent : CasesConsistent exampleHeld :=
  .of_opened (by decide +kernel) (by decide +kernel)

/-- Two reviewers, one approving and one rejecting, have read the case; the
approval has committed. -/
def exampleReviews (ok : Sql → Database → Prop) [∀ c db, Decidable (ok c db)] :
    Pool Nat ReviewCall Sql Sql.Reply LedgerStorageError (ComplianceCase × PaymentRecord)
      Database :=
  Pool.run Sql.exec (fun _ => ReviewCall.body) ok (.idle exampleHeld)
    [.start 0 (.approve (.numbered "a" 3000) (uuidNamed "case-1") none none),
      .start 1 (.reject (.numbered "r" 3000) (uuidNamed "case-1") none none), .tick 0, .tick 1, .tick 0]

/-- The rejection commits too: the case changes from APPROVED to REJECTED,
while its payment stays PENDING. -/
theorem double_review : ∃ P P' : Pool Nat ReviewCall Sql Sql.Reply LedgerStorageError
      (ComplianceCase × PaymentRecord) Database,
    CasesConsistent exampleHeld ∧
      Pool.Reaches Sql.exec (fun _ => ReviewCall.body) (fun _ _ => True) (.idle exampleHeld) P ∧
      Pool.Reaches Sql.exec (fun _ => ReviewCall.body) (fun _ _ => True) P P' ∧
      (P.store.complianceCases.find? (uuidNamed "case-1")).map ComplianceCase.status = some .approved ∧
      (P'.store.complianceCases.find? (uuidNamed "case-1")).map ComplianceCase.status = some .rejected ∧
      P'.store.paymentStatus (uuidNamed "p-1") = some .pending :=
  ⟨exampleReviews (fun _ _ => True),
    (exampleReviews (fun _ _ => True)).run Sql.exec (fun _ => ReviewCall.body) (fun _ _ => True)
      [.tick 1],
    exampleHeld_consistent, Pool.reaches_run _ _ _ _ _, Pool.reaches_run _ _ _ _ _,
    by decide +kernel, by decide +kernel, by decide +kernel⟩

/-- Under the condition the second commit does not happen. -/
theorem case_resolved_once_example :
    ∃ c', ((exampleReviews ResolvesOpen).run Sql.exec (fun _ => ReviewCall.body) ResolvesOpen
        [.tick 1]).store.complianceCases.find? (uuidNamed "case-1") = some c' ∧
      c'.status = .approved := by
  have happroved : ((exampleReviews ResolvesOpen).store.complianceCases.find? (uuidNamed "case-1")).map
      ComplianceCase.status = some .approved := by decide +kernel
  obtain ⟨c, hc, hst⟩ := Option.map_eq_some_iff.mp happroved
  obtain ⟨c', hc', hst'⟩ := (case_resolved_once exampleHeld_consistent
    (Pool.reaches_run _ _ _ _ _) (Pool.reaches_run _ _ _ _ [.tick 1])).2.2 (uuidNamed "case-1") c hc
    (by rw [hst]; rfl)
  exact ⟨c', hc', hst'.trans hst⟩

end KaniNetwork
