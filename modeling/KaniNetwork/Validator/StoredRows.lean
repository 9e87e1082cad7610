/-
KaniNetwork.Validator.StoredRows — validators and seedings insert no
payments.

The save of a pass writes back every payment of the ledger it has built,
and an upsert of a payment that is not stored would insert it. But the pass
has loaded these payments or read them from the queue, and no command
deletes a row, so the save finds a row for each.
-/
import KaniNetwork.Store.Requests
import KaniNetwork.Validator.Network

namespace KaniNetwork

open InMemoryLedger

/-- Every payment of `db` has a row in `db'`. -/
def RowsWithin (db db' : Database) : Prop :=
  ∀ id, db.transactions.find? id ≠ none → db'.transactions.find? id ≠ none

theorem RowsWithin.refl (db : Database) : RowsWithin db db := fun _ h => h

theorem RowsWithin.trans {db db' db'' : Database} (h : RowsWithin db db')
    (h' : RowsWithin db' db'') : RowsWithin db db'' :=
  fun id hid => h' id (h id hid)

theorem RowsWithin.of_eq {db db' : Database} (h : db'.transactions = db.transactions) :
    RowsWithin db db' := by
  intro id hid
  rwa [h]

theorem KeepsRequests.rowsWithin {db db' : Database} (h : KeepsRequests db db') :
    RowsWithin db db' := by
  intro id hid
  obtain ⟨r, hr⟩ := Option.ne_none_iff_exists'.mp hid
  obtain ⟨r', hr', -⟩ := h id r hr
  simp [hr']

/-- No command loses a payment. -/
theorem exec_rowsWithin (c : Sql) (db : Database) : RowsWithin db (c.exec db).1 :=
  (exec_requestFrame c db).kept.rowsWithin

theorem rowsWithin_updatePayment (id : String) (expected status : TransactionStatus)
    (failureReason : Option String) (now : DateTime) (db : Database) :
    RowsWithin (db.updatePayment id expected status failureReason now) db := by
  intro id' hid'
  rw [Database.find?_updatePayment] at hid'
  exact fun hnone => hid' (by rw [hnone, Option.map_none])

/-! ## Passes -/

/-- The payments of the snapshot have rows. -/
def LoadedRows (snapshot : LedgerSnapshot) (db : Database) : Prop :=
  ∃ u : Database, snapshot.payments = u.payments ∧ RowsWithin u db

/-- What a pass knows at each place. -/
def rowsKnow : Phase → Database → Prop
  | .idle, _ | .locked, _ | .failing _, _ | .saved _, _ => True
  | .loaded snapshot, db => LoadedRows snapshot db
  | .selecting snapshot accepted pending, db =>
    LoadedRows snapshot db ∧ ∀ tx ∈ accepted ++ pending, db.transactions.find? tx.id ≠ none

theorem LoadedRows.mono {snapshot : LedgerSnapshot} {db db' : Database}
    (h : LoadedRows snapshot db) (hrows : RowsWithin db db') : LoadedRows snapshot db' := by
  obtain ⟨u, hu, hwithin⟩ := h
  exact ⟨u, hu, hwithin.trans hrows⟩

theorem rowsKnow_stable {ph : Phase} {db db' : Database} (h : rowsKnow ph db)
    (hrows : RowsWithin db db') : rowsKnow ph db' := by
  cases ph with
  | idle => trivial
  | locked => trivial
  | loaded snapshot => exact LoadedRows.mono h hrows
  | selecting snapshot accepted pending =>
    exact ⟨h.1.mono hrows, fun tx htx => hrows _ (h.2 tx htx)⟩
  | failing txs => trivial
  | saved block => trivial

/-- The save of a pass finds its rows. -/
theorem save_rowsWithin {v : ValidatorRuntime} {snapshot : LedgerSnapshot}
    {accepted : List Transaction} {block : Block} {final : InMemoryLedger} {db db' : Database}
    (h : PassBlock v (fromSnapshot snapshot) accepted block final) (hload : LoadedRows snapshot db)
    (hrows : ∀ tx ∈ accepted, db.transactions.find? tx.id ≠ none)
    (hsave : db.saveSnapshot final.snapshot = .ok db') : RowsWithin db' db := by
  obtain ⟨u, hu, hwithin⟩ := hload
  intro id hid
  have hfate := h.savedPayment hu hsave id
  generalize db'.transactions.find? id = row' at hfate hid
  cases hfate with
  | finalized tx now htx heq => exact heq ▸ hrows tx htx
  | restored row hrow hother => exact hwithin id (by simp [hrow])
  | untouched hnew hother => exact hid

/-- A pass among any calls. -/
def rowsOutline (v : ValidatorRuntime) (session : Session) :
    PassOutline DbView.plain v session RowsWithin (fun db db' => RowsWithin db' db)
      (fun _ _ => True) where
  holds := rowsKnow
  rely_refl := RowsWithin.refl
  rely_trans := fun _ _ _ => RowsWithin.trans
  guar_refl := RowsWithin.refl
  stable := fun _ _ _ => rowsKnow_stable
  bookkeeping := fun _ _ _ _ h => ⟨.of_eq rfl, rowsKnow_stable h (.of_eq rfl)⟩
  lock := fun _ _ _ => ⟨.of_eq rfl, trivial⟩
  load := by
    intro s s' snapshot _ _ hload
    obtain ⟨u, ⟨w, -, hw, rfl⟩, hpayments⟩ := hload.payments
    exact ⟨_, hpayments, hw⟩
  take := by
    intro s snapshot h
    refine ⟨h, fun tx htx => ?_⟩
    obtain ⟨r, hr, -⟩ := Database.of_mem_pendingTransactions htx
    simp only [DbView.plain, id_eq] at hr
    simp [hr]
  accept := by
    intro s snapshot accepted tx pending h _
    refine ⟨h.1, fun tx' htx' => h.2 tx' ?_⟩
    rwa [List.append_cons]
  reject := by
    intro s snapshot accepted tx pending e now h _
    have hkept : RowsWithin s (s.rejectTransaction tx.id e.message now) :=
      (updatePayment_requestStep tx.id .pending .rejected (some e.message) now s).kept.rowsWithin
    refine ⟨rowsWithin_updatePayment _ _ _ _ _ _, h.1.mono hkept, fun tx' htx' => hkept _ (h.2 tx' ?_)⟩
    rcases List.mem_append.mp htx' with hacc | hrest
    · exact List.mem_append_left _ hacc
    · exact List.mem_append_right _ (List.mem_cons_of_mem _ hrest)
  save := by
    intro s d snapshot accepted block final h _ hblock _ hsave
    rw [rowsKnow, List.append_nil] at h
    exact ⟨save_rowsWithin hblock h.1 h.2 hsave, trivial⟩
  fail := fun _ _ _ _ => trivial
  failReject := fun _ _ _ _ _ => ⟨rowsWithin_updatePayment _ _ _ _ _ _, trivial⟩
  unlock := fun _ _ => .of_eq rfl
  savedUnlock := fun _ _ _ => trivial

/-- The commands of a pass, among any others. -/
theorem NetworkCall.pass_insertsNone (v : ValidatorRuntime) (session : Session) (d : Draws)
    (db : Database) :
    ((NetworkCall.pass v d).body session).Safe Sql.exec RowsWithin (fun db db' => RowsWithin db' db)
      (fun _ _ => True) (fun _ _ => True) db :=
  NetworkCall.pass_safe (rowsOutline v session) trivial

/-- The commands of a seeding, among any others. -/
theorem NetworkCall.seed_insertsNone (ar : Arith) (session : Session) (d : Draws) (db : Database) :
    ((NetworkCall.seed ar d).body session).Safe Sql.exec RowsWithin (fun db db' => RowsWithin db' db)
      (fun _ _ => True) (fun _ _ => True) db := by
  refine .mapError (ensureSandboxSeed_safe DbView.plain RowsWithin.refl RowsWithin.refl
    (fun _ _ _ => RowsWithin.trans) (fun _ _ => trivial) ?_ ?_)
  · intro i s
    rcases Sql.exec_cases (.write (.upsertInstitution i)) s with hsame | ⟨w, reply, heq, hrun⟩
    · exact .of_eq (by rw [show (DbView.plain.sem (.write (.upsertInstitution i)) s).1 = s from hsame])
    · cases heq
      have hi := Database.upsertInstitution_eq_ok (of_unit_eq_ok hrun)
      exact .of_eq (by rw [show (DbView.plain.sem (.write (.upsertInstitution i)) s).1 = _ from hi])
  · intro u s db' _ _ _ _ hsave
    have hsaved := Database.saveSnapshot_eq_ok hsave
    exact .of_eq hsaved.transactions.symm

end KaniNetwork
