/-
KaniNetwork.Store.StoredTimes — rows as their columns keep them.

A `TIMESTAMPTZ` has microseconds. Every statement that writes an institution,
a limit or a compliance case writes what its columns keep (`stored`), so the
rows of a database stay that way whatever is sent to it
(`storedTimes_of_run`). Writing such a row back as it was read changes nothing
(`writesBack_of_stored`).
-/
import KaniNetwork.Store.Sql

namespace KaniNetwork

@[simp] theorem Institution.stored_stored (i : Institution) : i.stored.stored = i.stored := by
  simp [stored, Option.map_map, Function.comp_def]

@[simp] theorem InstitutionLimit.stored_stored (l : InstitutionLimit) : l.stored.stored = l.stored := by
  simp [stored]

@[simp] theorem ComplianceCase.stored_stored (c : ComplianceCase) : c.stored.stored = c.stored := by
  simp [stored, Option.map_map, Function.comp_def]

/-- The institutions, limits and cases are rows as their columns keep them. -/
structure Database.StoredTimes (db : Database) : Prop where
  institutions : db.institutions.All fun i => i.stored = i
  limits : db.institutionLimits.All fun l => l.stored = l
  cases : db.complianceCases.All fun c => c.stored = c

/-! ## What a merge keeps -/

theorem Institution.stored_merge {old : Institution} (hold : old.stored = old) (new : Institution) :
    (old.merge new.stored).stored = old.merge new.stored := by
  have hcreated : timestamptz old.createdAt = old.createdAt := congrArg createdAt hold
  simp [merge, stored, hcreated, Option.map_map, Function.comp_def]

theorem InstitutionLimit.stored_merge (old new : InstitutionLimit) :
    (old.merge new.stored).stored = old.merge new.stored := by
  simp [merge, stored]

theorem ComplianceCase.stored_merge {old : ComplianceCase} (hold : old.stored = old)
    (new : ComplianceCase) : (old.merge new.stored).stored = old.merge new.stored := by
  have hcreated : timestamptz old.createdAt = old.createdAt := congrArg createdAt hold
  simp [merge, stored, hcreated, Option.map_map, Function.comp_def]

namespace Database

variable {db db' : Database}

theorem storedTimes_empty (settings : Settings) : (empty settings).StoredTimes := by
  refine ⟨?_, ?_, ?_⟩ <;> exact fun _ hr => by cases hr

/-- A change of other tables. -/
theorem StoredTimes.of_eq (h : db.StoredTimes) (hinst : db'.institutions = db.institutions)
    (hlim : db'.institutionLimits = db.institutionLimits)
    (hcases : db'.complianceCases = db.complianceCases) : db'.StoredTimes :=
  ⟨hinst ▸ h.institutions, hlim ▸ h.limits, hcases ▸ h.cases⟩

theorem StoredTimes.updateComplianceCase (h : db.StoredTimes) (c : ComplianceCase) :
    (db.updateComplianceCase c).StoredTimes := by
  refine ⟨h.institutions, h.limits, ?_⟩
  simp only [Database.updateComplianceCase]
  exact h.cases.modify _ fun _ hold => ComplianceCase.stored_merge hold c

theorem StoredTimes.suspendInstitution (h : db.StoredTimes) (id : String) (now : DateTime) :
    (db.suspendInstitution id now).StoredTimes := by
  refine ⟨?_, h.limits, h.cases⟩
  simp only [Database.suspendInstitution]
  refine h.institutions.modify _ fun i hi => ?_
  have hcreated : timestamptz i.createdAt = i.createdAt := congrArg Institution.createdAt hi
  have happroved : i.approvedAt.map timestamptz = i.approvedAt := congrArg Institution.approvedAt hi
  have hsuspended : i.suspendedAt.map timestamptz = i.suspendedAt :=
    congrArg Institution.suspendedAt hi
  -- an earlier suspension keeps its time
  cases hs : i.suspendedAt with
  | none => simp [Institution.stored, hcreated, happroved]
  | some t =>
    rw [hs] at hsuspended
    simp [Institution.stored, hcreated, happroved, Option.some.inj hsuspended]

theorem StoredTimes.saveSnapshot {s : LedgerSnapshot} (h : db.StoredTimes)
    (hsave : db.saveSnapshot s = .ok db') : db'.StoredTimes := by
  have hsaved := saveSnapshot_eq_ok hsave
  refine ⟨?_, ?_, ?_⟩
  · rw [hsaved.institutions]
    refine h.institutions.upsertAll (List.forall_mem_map.mpr fun i _ => i.stored_stored)
      fun old hold => List.forall_mem_map.mpr fun i _ => Institution.stored_merge hold i
  · rw [hsaved.institutionLimits]
    refine h.limits.upsertAll (List.forall_mem_map.mpr fun l _ => l.stored_stored)
      fun old _ => List.forall_mem_map.mpr fun l _ => InstitutionLimit.stored_merge old l
  · rw [hsaved.complianceCases]
    refine h.cases.upsertAll (List.forall_mem_map.mpr fun c _ => c.stored_stored)
      fun old hold => List.forall_mem_map.mpr fun c _ => ComplianceCase.stored_merge hold c

/-- Whatever a program sends, the rows stay as their columns keep them. -/
theorem storedTimes_of_run {w : Statement} {reply : w.Reply} (hrun : w.run db = .ok (db', reply))
    (h : db.StoredTimes) : db'.StoredTimes := by
  cases w with
  | insertPending row =>
    rcases insertTransaction_eq_ok hrun with ⟨-, rfl, -⟩ | ⟨-, -, t, -, rfl⟩
    · exact h
    · exact h.of_eq rfl rfl rfl
  | holdPayment row c =>
    rcases holdPayment_eq_ok hrun with ⟨-, rfl, -⟩ | ⟨-, -, t, u, -, rfl, rfl | hu⟩
    · exact h
    · exact h.of_eq rfl rfl rfl
    · exact ⟨h.institutions, h.limits, h.cases.insert? c.stored_stored hu⟩
  | approveCase c now =>
    obtain ⟨-, rfl⟩ := Statement.approveCase_eq_ok hrun
    exact (h.updateComplianceCase c).of_eq rfl rfl rfl
  | rejectCase c reason now =>
    obtain ⟨-, rfl⟩ := Statement.rejectCase_eq_ok hrun
    exact (h.updateComplianceCase c).of_eq rfl rfl rfl
  | upsertInstitution i =>
    rw [upsertInstitution_eq_ok (of_unit_eq_ok hrun)]
    exact ⟨h.institutions.upsert i.stored_stored fun _ hold => Institution.stored_merge hold i,
      h.limits, h.cases⟩
  | upsertInstitutionLimit l =>
    rw [upsertInstitutionLimit_eq_ok (of_unit_eq_ok hrun)]
    exact ⟨h.institutions,
      h.limits.upsert l.stored_stored fun old _ => InstitutionLimit.stored_merge old l, h.cases⟩
  | insertCredential c =>
    obtain ⟨t, rfl⟩ := insertCredential_eq_ok (of_unit_eq_ok hrun)
    exact h.of_eq rfl rfl rfl
  | suspendInstitution id now =>
    cases hrun
    exact h.suspendInstitution id now
  | rejectTransaction id reason now =>
    cases hrun
    exact h.of_eq rfl rfl rfl
  | insertAuditEvent e =>
    rw [insertAuditEvent_eq_ok (Statement.insertAuditEvent_eq_ok hrun).2]
    exact h.of_eq rfl rfl rfl
  | recordHeartbeat id now =>
    cases hrun
    exact h.of_eq rfl rfl rfl
  | recordFinalizedBlock id block now =>
    obtain ⟨t, rfl⟩ := recordFinalizedBlock_eq_ok (of_unit_eq_ok hrun)
    exact h.of_eq rfl rfl rfl
  | saveSnapshot s => exact h.saveSnapshot (of_unit_eq_ok hrun)
  | tryLock session =>
    rcases tryLock_eq (Except.ok.inj hrun) with ⟨-, -, rfl⟩ | ⟨-, rfl, -⟩
    · exact h.of_eq rfl rfl rfl
    · exact h
  | unlock session =>
    rcases unlock_eq (Except.ok.inj hrun) with ⟨-, -, rfl⟩ | ⟨-, -, rfl⟩
    · exact h.of_eq rfl rfl rfl
    · exact h

theorem StoredTimes.exec (h : db.StoredTimes) (c : Sql) : (c.exec db).1.StoredTimes := by
  rcases Sql.exec_cases c db with hsame | ⟨w, reply, -, hrun⟩
  · rw [hsame]
    exact h
  · exact storedTimes_of_run hrun h

/-- And whatever a method does. -/
theorem StoredTimes.method {ε α : Type} (h : db.StoredTimes) (p : Prog Sql Sql.Reply ε α) :
    (p.exec Sql.exec db).1.StoredTimes := by
  induction p generalizing db with
  | ok a => exact h
  | fail e => exact h
  | call c next ih => exact ih _ (h.exec c)

end Database

/-- A row that is there and as its columns keep it is written back by an
upsert that keeps it. -/
theorem writesBack_of_stored {κ ρ : Type} [DecidableEq κ] {key : ρ → κ} {t : Table key}
    {stored : ρ → ρ} {merge : ρ → ρ → ρ} (hmerge : ∀ r, merge r r = r)
    (ht : t.All fun r => stored r = r) {r : ρ} (hr : r ∈ t.rows) :
    t.WritesBack merge (stored r) := by
  rw [ht r hr]
  exact ⟨r, Table.mem_rows_iff.mp hr, hmerge r⟩

end KaniNetwork
