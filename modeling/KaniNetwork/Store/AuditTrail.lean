/-
KaniNetwork.Store.AuditTrail — audit events are only ever added.

Events are inserted one by one and with a saved ledger, both `ON CONFLICT
DO NOTHING`, and no statement updates or deletes one: an event that is
stored stays as it is (`exec_keepsAudit`).
-/
import KaniNetwork.Store.Sql

namespace KaniNetwork

/-- Every stored event of `db` is in `db'`. -/
def KeepsAudit (db db' : Database) : Prop :=
  ∀ id e, db.auditEvents.find? id = some e → db'.auditEvents.find? id = some e

theorem KeepsAudit.refl (db : Database) : KeepsAudit db db := fun _ _ h => h

theorem KeepsAudit.trans {db db' db'' : Database} (h : KeepsAudit db db')
    (h' : KeepsAudit db' db'') : KeepsAudit db db'' :=
  fun id e he => h' id e (h id e he)

theorem KeepsAudit.of_eq {db db' : Database} (h : db'.auditEvents = db.auditEvents) :
    KeepsAudit db db' := by
  intro id e he
  rwa [h]

theorem run_keepsAudit {w : Statement} {db db' : Database} {reply : w.Reply}
    (h : w.run db = .ok (db', reply)) : KeepsAudit db db' := by
  cases w with
  | insertPending row =>
    rcases Database.insertTransaction_eq_ok h with ⟨-, rfl, -⟩ | ⟨-, -, t, -, rfl⟩
    all_goals exact .of_eq rfl
  | holdPayment row c =>
    rcases Database.holdPayment_eq_ok h with ⟨-, rfl, -⟩ | ⟨-, -, t, u, -, rfl, -⟩
    all_goals exact .of_eq rfl
  | approveCase c now =>
    rw [(Statement.approveCase_eq_ok h).2]
    exact .of_eq rfl
  | rejectCase c reason now =>
    rw [(Statement.rejectCase_eq_ok h).2]
    exact .of_eq rfl
  | suspendInstitution id now | rejectTransaction id reason now | recordHeartbeat id now =>
    cases h
    exact .of_eq rfl
  | upsertInstitution i =>
    rw [Database.upsertInstitution_eq_ok (of_unit_eq_ok h)]
    exact .of_eq rfl
  | upsertInstitutionLimit l =>
    rw [Database.upsertInstitutionLimit_eq_ok (of_unit_eq_ok h)]
    exact .of_eq rfl
  | insertCredential c =>
    obtain ⟨t, rfl⟩ := Database.insertCredential_eq_ok (of_unit_eq_ok h)
    exact .of_eq rfl
  | insertAuditEvent e =>
    rw [Database.insertAuditEvent_eq_ok (Statement.insertAuditEvent_eq_ok h).2]
    intro id e' he'
    rw [Table.find?_insertIgnore, he', Option.some_or]
  | recordFinalizedBlock id b now =>
    obtain ⟨t, rfl⟩ := Database.recordFinalizedBlock_eq_ok (of_unit_eq_ok h)
    exact .of_eq rfl
  | saveSnapshot s =>
    intro id e he
    rw [(Database.saveSnapshot_eq_ok (of_unit_eq_ok h)).auditEvents, Table.find?_insertIgnoreAll, he,
      Option.some_or]
  | tryLock session =>
    rcases Database.tryLock_eq (Except.ok.inj h) with ⟨-, -, rfl⟩ | ⟨-, rfl, -⟩
    all_goals exact .of_eq rfl
  | unlock session =>
    rcases Database.unlock_eq (Except.ok.inj h) with ⟨-, -, rfl⟩ | ⟨-, -, rfl⟩
    all_goals exact .of_eq rfl

/-- No command loses or rewrites an audit event. -/
theorem exec_keepsAudit (c : Sql) (db : Database) : KeepsAudit db (c.exec db).1 := by
  rcases c.exec_cases db with h | ⟨w, reply, rfl, h⟩
  · rw [h]
    exact .refl db
  · exact run_keepsAudit h

/-- An insert that was answered leaves an event of its id. -/
theorem find?_insertAuditEvent {event : AuditEvent} {db : Database}
    (h : (Sql.exec (.write (.insertAuditEvent event)) db).2 = .ok ()) :
    (Sql.exec (.write (.insertAuditEvent event)) db).1.auditEvents.find? event.id ≠ none := by
  cases hrun : (Statement.insertAuditEvent event).run db with
  | error e =>
    rw [Sql.exec_write_error hrun] at h
    cases h
  | ok r =>
    rw [Sql.exec_write_ok hrun, Database.insertAuditEvent_eq_ok (Statement.insertAuditEvent_eq_ok hrun).2,
      Table.find?_insertIgnore]
    have hid : event.stored.id = event.id := rfl
    simp [hid]

end KaniNetwork
