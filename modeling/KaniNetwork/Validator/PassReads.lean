/-
KaniNetwork.Validator.PassReads — what a pass saves is what it has read.

`load_snapshot` sends ten queries and `save_snapshot` writes the whole ledger
back. Between the two the rows go through `from_snapshot`, the block and
`snapshot`. `WrittenFrom` says that the institutions, limits and cases a save
writes, and the payments it writes as HELD, are among the last replies the
pass has had to the queries for them. `runOnce_follows` shows it of every
save a pass can issue, whatever it is answered.
-/
import KaniNetwork.Base.History
import KaniNetwork.Ledger.InMemoryTheorems
import KaniNetwork.Validator.Runtime

namespace KaniNetwork

open InMemoryLedger Prog

/-- The rows of the API that a save writes were read. -/
structure WrittenFrom (h : History Sql Sql.Reply) (s : LedgerSnapshot) : Prop where
  institutions : ∃ rows, LastReply (.read .institutions) rows h ∧ s.institutions ⊆ rows
  limits : ∃ rows, LastReply (.read .institutionLimits) rows h ∧ s.institutionLimits ⊆ rows
  cases : ∃ rows, LastReply (.read (.complianceCases i64Max 0)) rows h ∧ s.complianceCases ⊆ rows
  held : ∃ rows, LastReply (.read .payments) rows h ∧ ∀ p ∈ s.payments, p.status = .held → p ∈ rows

/-- A command that saves writes what was read. -/
def SavesRead (h : History Sql Sql.Reply) (q : Sql) : Prop := ∀ s, q.saved? = some s → WrittenFrom h s

theorem savesRead_of_none {h : History Sql Sql.Reply} {q : Sql} (hq : q.saved? = none) :
    SavesRead h q := by
  intro s hs
  rw [hq] at hs
  cases hs

/-! ## From the load to the save -/

/-- The snapshot is what the last load was answered. -/
structure LoadedBy (h : History Sql Sql.Reply) (s : LedgerSnapshot) : Prop where
  institutions : LastReply (.read .institutions) s.institutions h
  limits : LastReply (.read .institutionLimits) s.institutionLimits h
  cases : LastReply (.read (.complianceCases i64Max 0)) s.complianceCases h
  payments : LastReply (.read .payments) s.payments h

/-- A command that is none of the queries of a load. -/
theorem LoadedBy.snoc {h : History Sql Sql.Reply} {s : LedgerSnapshot} (hload : LoadedBy h s) {c : Sql}
    (hinst : c ≠ .read .institutions) (hlim : c ≠ .read .institutionLimits)
    (hcases : c ≠ .read (.complianceCases i64Max 0)) (hpay : c ≠ .read .payments) (r : c.Reply) :
    LoadedBy (h ++ [⟨c, r⟩]) s :=
  ⟨hload.institutions.snoc hinst r, hload.limits.snoc hlim r, hload.cases.snoc hcases r,
    hload.payments.snoc hpay r⟩

theorem LoadedBy.write {h : History Sql Sql.Reply} {s : LedgerSnapshot} (hload : LoadedBy h s)
    (w : Statement) (r : (Sql.write w).Reply) : LoadedBy (h ++ [⟨.write w, r⟩]) s := by
  refine hload.snoc ?_ ?_ ?_ ?_ r <;> exact fun heq => by cases heq

theorem LoadedBy.pending {h : History Sql Sql.Reply} {s : LedgerSnapshot} (hload : LoadedBy h s)
    (limit : Nat) (r : List Transaction) :
    LoadedBy (h ++ [⟨.read (.pendingTransactions limit 0), r⟩]) s := by
  refine hload.snoc (c := .read (.pendingTransactions limit 0)) ?_ ?_ ?_ ?_ r <;>
    exact fun heq => by cases heq

/-- The block adds final payments and leaves the other rows as they were
loaded. -/
theorem LoadedBy.written {h : History Sql Sql.Reply} {s : LedgerSnapshot} (hload : LoadedBy h s)
    {ar : Arith} {d : Draws} {block : Block} {final : InMemoryLedger} {records : List PaymentRecord}
    (happly : applyBlock ar d block (fromSnapshot s) = (final, .ok records)) :
    WrittenFrom h final.snapshot := by
  have happ := applyBlock_eq_ok happly
  refine ⟨⟨_, hload.institutions, fun i hi => ?_⟩, ⟨_, hload.limits, fun l hl => ?_⟩,
    ⟨_, hload.cases, fun c hc => ?_⟩, ⟨_, hload.payments, fun p hp hheld => ?_⟩⟩
  · rw [snapshot, sortedInstitutions, List.mem_insertionSort, happ.institutions_eq] at hi
    exact HashMap.mem_of_mem_values_ofPairs hi
  · rw [snapshot, happ.limits_eq] at hl
    exact HashMap.mem_of_mem_values_ofPairs hl
  · rw [snapshot, happ.cases_eq] at hc
    exact HashMap.mem_of_mem_values_ofPairs hc
  · rw [snapshot, happ.payments_eq] at hp
    obtain ⟨id, hlook⟩ := HashMap.mem_values.mp hp
    rw [lookup_insertPayments, Option.or_eq_some_iff] at hlook
    rcases hlook with hnew | ⟨-, hold⟩
    · -- what the block files is final
      have hmem := List.mem_reverse.mp (List.mem_of_find?_eq_some hnew)
      rw [happ.records_eq] at hmem
      obtain ⟨tx, -, now, rfl⟩ := mem_finalizedRecords hmem
      cases hheld
    · exact HashMap.mem_of_mem_values_ofPairs (HashMap.mem_values.mpr ⟨id, hold⟩)

/-! ## The parts of a pass -/

section

variable {ε : Type} {h : History Sql Sql.Reply}

/-- A statement that does not save; whatever it is answered, the pass goes
on or ends. -/
theorem follows_execute {β : Type} [FromSqlx ε] {w : Statement}
    (hw : (Sql.write w).saved? = none) {f : w.Reply → StoreProg ε β}
    {done : History Sql Sql.Reply → Except ε β → Prop}
    (herror : ∀ r e, done (h ++ [⟨.write w, r⟩]) (.error e))
    (hok : ∀ r reply, (f reply).Follows SavesRead done (h ++ [⟨.write w, r⟩])) :
    (execute w >>= f).Follows SavesRead done h := by
  refine .bind ⟨savesRead_of_none hw, fun r => ?_⟩
  refine follows_ofExcept ?_
  cases r with
  | error e => exact herror _ _
  | ok reply => exact hok _ reply

theorem loadSnapshot_follows (ar : Arith) :
    (loadSnapshot ar : StoreProg ε LedgerSnapshot).Follows SavesRead
      (fun h' r => ∀ s, r = .ok s → LoadedBy h' s) h := by
  refine ⟨savesRead_of_none rfl, fun accounts => ?_⟩
  refine ⟨savesRead_of_none rfl, fun institutions => ?_⟩
  refine ⟨savesRead_of_none rfl, fun credentials => ?_⟩
  refine ⟨savesRead_of_none rfl, fun limits => ?_⟩
  refine ⟨savesRead_of_none rfl, fun balances => ?_⟩
  refine ⟨savesRead_of_none rfl, fun payments => ?_⟩
  refine ⟨savesRead_of_none rfl, fun cases => ?_⟩
  refine ⟨savesRead_of_none rfl, fun blocks => ?_⟩
  refine ⟨savesRead_of_none rfl, fun journal => ?_⟩
  refine ⟨savesRead_of_none rfl, fun audit => ?_⟩
  rintro s ⟨⟩
  refine ⟨?_, ?_, ?_, ?_⟩
  · iterate 8 refine .snoc ?_ (fun heq => by cases heq) _
    exact .concat _ _
  · iterate 6 refine .snoc ?_ (fun heq => by cases heq) _
    exact .concat _ _
  · iterate 3 refine .snoc ?_ (fun heq => by cases heq) _
    exact .concat _ _
  · iterate 4 refine .snoc ?_ (fun heq => by cases heq) _
    exact .concat _ _

end

namespace ValidatorRuntime

variable {v : ValidatorRuntime} {h : History Sql Sql.Reply} {s : LedgerSnapshot}

/-- A rejection writes a status and an audit event. -/
theorem rejectPendingTransaction_follows (d : Draws) (tx : Transaction) (reason : String)
    (hload : LoadedBy h s) :
    (v.rejectPendingTransaction d tx reason).Follows SavesRead (fun h' _ => LoadedBy h' s) h := by
  refine follows_execute rfl (fun r e => hload.write _ r) fun r _ => ?_
  refine ⟨savesRead_of_none rfl, fun r' => follows_ofExcept ?_⟩
  exact (hload.write _ r).write _ r'

/-- The loop, by induction on what is pending. -/
theorem selectBatch_follows (ledger : InMemoryLedger) (d : Draws) (accepted pending : List Transaction)
    (hload : LoadedBy h s) :
    (v.selectBatch ledger d accepted pending).Follows SavesRead (fun h' _ => LoadedBy h' s) h := by
  induction pending generalizing d accepted h with
  | nil => exact hload
  | cons tx pending ih =>
    rw [selectBatch]
    split
    · refine .bind ((rejectPendingTransaction_follows _ tx _ hload).mono (fun _ _ h => h) ?_)
      intro h' r hload'
      cases r with
      | error e => exact hload'
      | ok u => exact ih _ _ hload'
    · exact ih _ _ hload

/-- So is the loop over a block that could not be applied. -/
theorem rejectAll_follows (reason : String) (d : Draws) (txs : List Transaction)
    (hload : LoadedBy h s) :
    (v.rejectAll reason d txs).Follows SavesRead (fun h' _ => LoadedBy h' s) h := by
  induction txs generalizing d h with
  | nil => exact hload
  | cons tx txs ih =>
    rw [rejectAll]
    refine .bind ((rejectPendingTransaction_follows _ tx _ hload).mono (fun _ _ h => h) ?_)
    intro h' r hload'
    cases r with
    | error e => exact hload'
    | ok u => exact ih _ hload'

theorem produceBlock_follows (d : Draws) (accepted : List Transaction) (hload : LoadedBy h s) :
    (v.produceBlock d (fromSnapshot s) accepted).Follows SavesRead (fun _ _ => True) h := by
  refine .ofExcept_bind (fun _ _ => trivial) fun block _ => ?_
  refine .ofExcept_bind (fun _ _ => trivial) fun _ _ => ?_
  cases happly : applyBlock v.host.arith (d.sub 2) block (fromSnapshot s) with
  | mk final result =>
    cases result with
    | error e =>
      refine .bind ((rejectAll_follows _ _ _ hload).mono (fun _ _ h => h) ?_)
      rintro h' (e | u) -
      · trivial
      · trivial
    | ok records =>
      refine .bind ⟨?_, fun r => ?_⟩
      · rintro _ ⟨⟩
        exact hload.written happly
      refine follows_ofExcept ?_
      cases r with
      | error e => trivial
      | ok _ => exact follows_execute rfl (fun _ _ => trivial) fun _ _ => trivial

theorem runOnceWithBlockLock_follows (d : Draws) :
    (v.runOnceWithBlockLock d).Follows SavesRead (fun _ _ => True) h := by
  refine .bind ((loadSnapshot_follows _).mono (fun _ _ h => h) ?_)
  rintro h' (e | s) hload
  · trivial
  have hload := hload s rfl
  refine .ofExcept_bind (fun _ _ => trivial) fun leader _ => ?_
  split
  · trivial
  refine .bind ⟨savesRead_of_none rfl, fun pending => ?_⟩
  have hload := hload.pending v.maxTransactionsPerBlock pending
  show Follows _ _ (if _ then _ else _) _
  split
  · trivial
  refine .bind ((selectBatch_follows _ _ _ _ hload).mono (fun _ _ h => h) ?_)
  rintro h'' (e | accepted) hload
  · trivial
  show Follows _ _ (if _ then _ else _) _
  split
  · trivial
  · exact produceBlock_follows _ _ hload

/-- Every save of a pass writes what the pass has read. -/
theorem runOnce_follows (session : Session) (d : Draws) :
    (v.runOnce session d).Follows SavesRead (fun _ _ => True) h := by
  refine follows_execute rfl (fun _ _ => trivial) fun _ _ => ?_
  refine .bind ((loadSnapshot_follows _).mono (fun _ _ h => h) ?_)
  rintro h' (e | s) -
  · trivial
  refine .ofExcept_bind (fun _ _ => trivial) fun leader _ => ?_
  split
  · trivial
  refine follows_execute rfl (fun _ _ => trivial) fun _ acquired => ?_
  split
  · refine .bind (.attempt ((runOnceWithBlockLock_follows _).mono (fun _ _ h => h) ?_))
    intro h'' result _
    have hrelease : (releaseBlockProductionLock session).Only fun q => q.saved? = none := by
      refine .bind (only_execute rfl) fun released => ?_
      split <;> trivial
    refine .bind (.attempt (hrelease.follows (fun _ _ => savesRead_of_none) fun _ released => ?_))
    cases result <;> cases released <;> trivial
  · trivial

end ValidatorRuntime

end KaniNetwork
