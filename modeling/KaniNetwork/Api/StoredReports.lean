/-
KaniNetwork.Api.StoredReports — when the pacs.002 report of a payment in a
database is well-formed XML.

As for the node in memory (`Api/ReportXml.lean`), only the client reference
and the reason of a failure are free. Here the columns of the table see to
the rest when a row is inserted (`CheckedIn`): its id is a uuid, its asset has
the format of a code, and its accounts are rows of the table of accounts,
which has those of the sandbox in every run of the service.
-/
import KaniNetwork.Api.ReportXml
import KaniNetwork.Api.StoredAnswers
import KaniNetwork.Api.StoredPayments

namespace KaniNetwork

open InMemoryLedger

/-! ## Inserted rows -/

/-- What the columns of an inserted row have been checked for. -/
structure TransactionRow.CheckedIn (r : TransactionRow) (db : Database) : Prop where
  id : uuidOk r.id = true
  asset : assetCodeOk r.asset = true
  fromAccount : (db.accounts.find? r.fromAccount).isSome = true
  toAccount : (db.accounts.find? r.toAccount).isSome = true

theorem Database.insertTransaction_checked {r : TransactionRow} {db db' : Database}
    (h : insertTransaction r db = .ok (db', true)) : r.CheckedIn db := by
  simp only [insertTransaction, bind_eq_ok_iff, enforce_eq_ok_iff] at h
  obtain ⟨_, htexts, _, hcolumns, h⟩ := h
  split at h
  · cases h
  · simp only [bind_eq_ok_iff] at h
    obtain ⟨_, _, h⟩ := h
    split at h
    · cases h
    · simp only [bind_eq_ok_iff, checkTransactionReferences, enforce_eq_ok_iff] at h
      obtain ⟨_, ⟨_, _, _, hfrom, hto⟩, _⟩ := h
      simp only [TransactionRow.textOk, Bool.and_eq_true] at htexts
      simp only [checkTransactionRow, bind_eq_ok_iff, enforce_eq_ok_iff] at hcolumns
      obtain ⟨_, _, _, _, hasset⟩ := hcolumns
      exact ⟨by tauto, hasset, hfrom, hto⟩

/-- So has a payment that is put on hold. -/
theorem Database.holdPayment_checked {r : TransactionRow} {c : ComplianceCase} {db db' : Database}
    (h : holdPayment r c db = .ok (db', true)) : r.CheckedIn db := by
  simp only [holdPayment, bind_eq_ok_iff] at h
  obtain ⟨⟨db₁, inserted⟩, hins, h⟩ := h
  split at h
  · rename_i hinserted
    obtain rfl : inserted = true := hinserted
    exact insertTransaction_checked hins
  · cases h

/-- So has every row that a command of a run has stored. -/
theorem Stores.checked {lower : String → String} {log : ServiceLog}
    {e : Pool.Issued Session ServiceCall StoreSql Database} {row : TransactionRow}
    (h : Stores lower log e row) : row.CheckedIn e.store := by
  obtain ⟨hsent, hfresh, hinserted, -⟩ := h
  obtain ⟨slot, call, command, store⟩ := e
  -- a command that stored the row has not failed
  have hran : ∀ w : Statement, command = .sql (.write w) → ∃ db' reply,
      w.run store = .ok (db', reply) ∧ db'.transactions.find? row.id = some row := by
    rintro w rfl
    rw [Pool.Issued.after, StoreSql.exec_sql] at hinserted
    rcases Sql.exec_cases (.write w) store with hsame | ⟨w', reply, hw, hrun⟩
    · rw [hsame, hfresh] at hinserted
      cases hinserted
    · cases hw
      exact ⟨_, reply, hrun, hinserted⟩
  cases hsent with
  | enqueued =>
    obtain ⟨db', inserted, hrun, hfound⟩ := hran _ rfl
    rcases Database.insertTransaction_eq_ok hrun with ⟨-, rfl, -⟩ | ⟨rfl, -⟩
    · rw [hfresh] at hfound
      cases hfound
    · exact Database.insertTransaction_checked hrun
  | held c =>
    obtain ⟨db', inserted, hrun, hfound⟩ := hran _ rfl
    rcases Database.holdPayment_eq_ok hrun with ⟨-, rfl, -⟩ | ⟨rfl, -⟩
    · rw [hfresh] at hfound
      cases hfound
    · exact Database.holdPayment_checked hrun

/-! ## Accounts -/

/-- Blocks add no accounts to the sandbox. -/
theorem accounts_rebuilt (d : Draws) (blocks : List Block) :
    (rebuilt d blocks).accounts = (sandbox d).accounts := by
  induction blocks using List.reverseRecOn with
  | nil => rfl
  | append_singleton blocks block ih =>
    rw [rebuilt_append_singleton, ← ih]
    rcases happly : applyBlock .exact d block (rebuilt d blocks) with ⟨l, r⟩
    cases r with
    | ok records => exact (applyBlock_eq_ok happly).accounts_eq
    | error e => rw [applyBlock_commits .exact d block _ l e happly]

/-- The accounts of a stored ledger are those of the sandbox. -/
theorem LedgerStands.account {J : Prop} {db : Database} (h : LedgerStands J db) {id : String}
    (hfound : (db.accounts.find? id).isSome = true) : id ∈ sandboxAccounts := by
  have htype := (h.rebuilt (.numbered "" 0)).accounts id
  rw [accounts_rebuilt, Database.accountType] at htype
  obtain ⟨account, haccount⟩ := Option.isSome_iff_exists.mp hfound
  rw [haccount, Option.map_some] at htype
  obtain ⟨found, hlookup, -⟩ := Option.map_eq_some_iff.mp htype
  exact (sandbox_accounts_lookup _ id found hlookup).1

/-- A row whose columns have been checked is a payment of the sandbox. -/
theorem TransactionRow.CheckedIn.fromSandbox {r : TransactionRow} {J : Prop} {db : Database}
    (h : r.CheckedIn db) (hstands : LedgerStands J db) : FromSandbox r.toTransaction where
  id := by
    have hread : uuidIn r.id = some r.id := of_decide_eq_true h.id
    exact fun _ hc => isXmlChar_of_uuid (mem_of_uuidIn hread hc)
  fromAccount := hstands.account h.fromAccount
  toAccount := hstands.account h.toAccount
  asset := by
    have hformat := h.asset
    simp only [assetCodeOk, Bool.and_eq_true] at hformat
    refine List.all_eq_true.mpr fun c hc => ?_
    have hupper : c.isUpper = decide ('A' ≤ c ∧ c ≤ 'Z') := rfl
    have hdigit : c.isDigit = ('0' ≤ c && c ≤ '9') := rfl
    have hcode := List.all_eq_true.mp hformat.2 c hc
    simpa only [isCodeCharacter, hupper, hdigit, Bool.decide_and] using hcode

/-! ## Reports -/

section

variable {lower : String → String} {db : Database} {log : ServiceLog}
  {P : Pool Session ServiceCall StoreSql StoreSql.Reply ApiError (Option Response) Database}

/-- **A report on a stored payment is well-formed XML when the texts it quotes
have no characters that XML forbids.** For every run of any number of
requests, validators with exact amounts and starting processes on a seeded
database, and every payment in it. Timestamps are printable. -/
theorem stored_pacs002_wellFormed_iff {settings : Settings} {d₀ : Draws}
    (hseed : (Database.empty settings).saveSnapshot (sandbox d₀).snapshot = .ok db)
    (hrun : ServiceRun lower db log P)
    (huses : ∀ i call left, P.slots i = some (call, left) → call.Uses .exact)
    {toRfc3339 : DateTime → String} (hrfc : ∀ time, PlainXml (toRfc3339 time))
    {record : PaymentRecord} (hrecord : record ∈ P.store.payments) (now : DateTime) :
    WellFormed (buildPacs002StatusReport
        (pacs002StatusFromPayment toRfc3339 now record)).toList ↔ record.PlainTexts := by
  have hempty : db.transactions.rows = [] := by
    rw [(Database.saveSnapshot_eq_ok hseed).transactions]
    rfl
  obtain ⟨r, hr, rfl⟩ := Database.mem_payments.mp hrecord
  obtain ⟨row, hsame, before, e, after, hlog, hstores⟩ := stored_with_authority hrun hempty hr
  have he : e ∈ log := hlog ▸ List.mem_append_right _ List.mem_cons_self
  obtain ⟨-, hstands⟩ := ServiceRun.stands_at hseed hrun huses he
  have hsandbox : FromSandbox (P.store.joinBlock r).transaction := by
    have hrow := hstores.checked.fromSandbox hstands
    rw [← hsame.transaction] at hrow
    exact hrow
  rw [wellFormed_pacs002_iff, plain_pacs002StatusFromPayment_iff hsandbox hrfc]

end

end KaniNetwork
