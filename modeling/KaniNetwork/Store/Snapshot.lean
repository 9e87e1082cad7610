/-
KaniNetwork.Store.Snapshot — `load_snapshot`: ten queries, one after the
other, and what `load_payments` derives from the payment rows.

The queries run in separate statements, so the parts of a snapshot may come
from different states. `LoadedFrom R s` says where they come from: every
part is what its query returns in some state reached from the start of the
load and from which the end is reached, `R` being what the other parties may
do. `loadSnapshot_safe` gives it for the whole method.
-/
import KaniNetwork.Store.Sql

namespace KaniNetwork

/-- The maps `load_payments` builds beside the payments. -/
structure PaymentIndex where
  nonces : HashMap String Int
  issued : HashMap String Int
  txsByBlock : HashMap Int (List Transaction)

namespace PaymentIndex

def empty : PaymentIndex := ⟨∅, ∅, ∅⟩

/-- One FINALIZED row in the nonces and the issued amounts. -/
def addFinalized (ar : Arith) (ix : PaymentIndex) (tx : Transaction) : PaymentIndex :=
  { ix with
    nonces := ix.nonces.insert tx.fromAccount (max (ix.nonces.getOr tx.fromAccount 0) tx.nonce)
    issued :=
      match tx.kind with
      | .mint => ix.issued.insert tx.asset (ar.norm (ix.issued.getOr tx.asset 0 + tx.amount))
      | .burn => ix.issued.insert tx.asset (ar.norm (ix.issued.getOr tx.asset 0 - tx.amount))
      | .transfer => ix.issued }

/-- One row in the transactions of its block. -/
def addToBlock (ix : PaymentIndex) (height : Int) (tx : Transaction) : PaymentIndex :=
  { ix with
    txsByBlock := ix.txsByBlock.insert height (ix.txsByBlock.getOr height [] ++ [tx]) }

/-- The loop body of `load_payments`. -/
def add (ar : Arith) (ix : PaymentIndex) (p : PaymentRecord) : PaymentIndex :=
  let ix := if p.status = .finalized then ix.addFinalized ar p.transaction else ix
  match p.blockHeight with
  | some height => ix.addToBlock height p.transaction
  | none => ix

def ofPayments (ar : Arith) (payments : List PaymentRecord) : PaymentIndex :=
  payments.foldl (add ar) empty

/-- `load_blocks` on the rows; heights are distinct, so taking a block's
transactions out of the map reads them. -/
def blocks (ix : PaymentIndex) (rows : List BlockRow) : List Block :=
  rows.map fun r => r.toBlock (ix.txsByBlock.getOr r.height [])

end PaymentIndex

/-- `i64::MAX`, the page size `load_snapshot` asks for. -/
def i64Max : Nat := 2 ^ 63 - 1

/-- `load_snapshot`. -/
def loadSnapshot {ε : Type} (ar : Arith) : StoreProg ε LedgerSnapshot := do
  let accounts ← query .accounts
  let institutions ← query .institutions
  let institutionCredentials ← query .institutionCredentials
  let institutionLimits ← query .institutionLimits
  let balances ← query .balances
  let payments ← query .payments
  let index := PaymentIndex.ofPayments ar payments
  let complianceCases ← query (.complianceCases i64Max 0)
  let blockRows ← query .blocks
  let journalEntries ← query .journalEntries
  let auditEvents ← query .auditEvents
  return {
    accounts := accounts
    institutions := institutions
    institutionCredentials := institutionCredentials
    institutionLimits := institutionLimits
    balances := balances
    payments := payments
    complianceCases := complianceCases
    blocks := index.blocks blockRows
    auditEvents := auditEvents
    journalEntries := journalEntries
    nonces := index.nonces
    issued := index.issued }

/-- What `load_snapshot` returns when nobody writes in between. -/
def readSnapshot (ar : Arith) (db : Database) : LedgerSnapshot where
  accounts := db.accountRows
  institutions := db.institutionRows
  institutionCredentials := db.credentialRows
  institutionLimits := db.limitRows
  balances := db.balanceRows
  payments := db.payments
  complianceCases := db.complianceCasePage i64Max 0
  blocks := (PaymentIndex.ofPayments ar db.payments).blocks db.blockRows
  auditEvents := db.auditRows
  journalEntries := db.journalRows
  nonces := (PaymentIndex.ofPayments ar db.payments).nonces
  issued := (PaymentIndex.ofPayments ar db.payments).issued

theorem exec_loadSnapshot {ε : Type} (ar : Arith) (db : Database) :
    (loadSnapshot ar : StoreProg ε LedgerSnapshot).exec Sql.exec db = (db, .ok (readSnapshot ar db)) :=
  rfl

/-- Each part of a snapshot was read in a state that satisfies `P`. -/
structure LoadedFrom (ar : Arith) (P : Database → Prop) (s : LedgerSnapshot) : Prop where
  accounts : ∃ u, P u ∧ s.accounts = u.accountRows
  institutions : ∃ u, P u ∧ s.institutions = u.institutionRows
  institutionCredentials : ∃ u, P u ∧ s.institutionCredentials = u.credentialRows
  institutionLimits : ∃ u, P u ∧ s.institutionLimits = u.limitRows
  balances : ∃ u, P u ∧ s.balances = u.balanceRows
  payments : ∃ u, P u ∧ s.payments = u.payments
  complianceCases : ∃ u, P u ∧ s.complianceCases = u.complianceCasePage i64Max 0
  blocks : ∃ u, P u ∧ s.blocks = (PaymentIndex.ofPayments ar s.payments).blocks u.blockRows
  journalEntries : ∃ u, P u ∧ s.journalEntries = u.journalRows
  auditEvents : ∃ u, P u ∧ s.auditEvents = u.auditRows
  nonces : s.nonces = (PaymentIndex.ofPayments ar s.payments).nonces
  issued : s.issued = (PaymentIndex.ofPayments ar s.payments).issued

theorem LoadedFrom.mono {ar : Arith} {P P' : Database → Prop} {s : LedgerSnapshot}
    (h : LoadedFrom ar P s) (hP : ∀ u, P u → P' u) : LoadedFrom ar P' s := by
  have weaken : ∀ {α : Type} {x : α} {f : Database → α}, (∃ u, P u ∧ x = f u) → ∃ u, P' u ∧ x = f u :=
    fun ⟨u, hu, heq⟩ => ⟨u, hP u hu, heq⟩
  exact {
    accounts := weaken h.accounts
    institutions := weaken h.institutions
    institutionCredentials := weaken h.institutionCredentials
    institutionLimits := weaken h.institutionLimits
    balances := weaken h.balances
    payments := weaken h.payments
    complianceCases := weaken h.complianceCases
    blocks := weaken h.blocks
    journalEntries := weaken h.journalEntries
    auditEvents := weaken h.auditEvents
    nonces := h.nonces
    issued := h.issued }

/-- A snapshot of one state is what that state reads. -/
theorem LoadedFrom.eq_readSnapshot {ar : Arith} {P : Database → Prop} {s : LedgerSnapshot}
    {db : Database} (h : LoadedFrom ar P s) (hP : ∀ u, P u → u = db) :
    s = readSnapshot ar db := by
  obtain ⟨⟨_, p₁, h₁⟩, ⟨_, p₂, h₂⟩, ⟨_, p₃, h₃⟩, ⟨_, p₄, h₄⟩, ⟨_, p₅, h₅⟩, ⟨_, p₆, h₆⟩, ⟨_, p₇, h₇⟩,
    ⟨_, p₈, h₈⟩, ⟨_, p₉, h₉⟩, ⟨_, p, h⟩, hn, hi⟩ := h
  cases hP _ p₁
  cases hP _ p₂
  cases hP _ p₃
  cases hP _ p₄
  cases hP _ p₅
  cases hP _ p₆
  cases hP _ p₇
  cases hP _ p₈
  cases hP _ p₉
  cases hP _ p
  rw [h₆] at h₈ hn hi
  obtain ⟨_, _, _, _, _, _, _, _, _, _, _, _⟩ := s
  simp only at h₁ h₂ h₃ h₄ h₅ h₆ h₇ h₈ h₉ h hn hi
  subst h₁ h₂ h₃ h₄ h₅ h₆ h₇ h₈ h₉ h hn hi
  rfl

/-- Reading is safe: the method issues queries only, and what follows it may
use that every part was read between the start and now. -/
theorem loadSnapshot_safe {σ ε α : Type} (V : DbView σ) {ar : Arith} {rely guar : σ → σ → Prop}
    {ok : Sql → σ → Prop} {post : Except ε α → σ → Prop}
    (hguar : ∀ s, guar s s) (hrefl : ∀ s, rely s s)
    (htrans : ∀ s s' s'', rely s s' → rely s' s'' → rely s s'')
    {f : LedgerSnapshot → StoreProg ε α} {s₀ : σ}
    (h : ∀ s snapshot, rely s₀ s →
      LoadedFrom ar (fun u => ∃ w, rely s₀ w ∧ rely w s ∧ V.db w = u) snapshot →
      (f snapshot).Safe V.sem rely guar ok post s) :
    (loadSnapshot ar >>= f).Safe V.sem rely guar ok post s₀ := by
  refine V.safe_query hguar fun u₁ h₁ => ?_
  refine V.safe_query hguar fun u₂ h₂ => ?_
  refine V.safe_query hguar fun u₃ h₃ => ?_
  refine V.safe_query hguar fun u₄ h₄ => ?_
  refine V.safe_query hguar fun u₅ h₅ => ?_
  refine V.safe_query hguar fun u₆ h₆ => ?_
  refine V.safe_query hguar fun u₇ h₇ => ?_
  refine V.safe_query hguar fun u₈ h₈ => ?_
  refine V.safe_query hguar fun u₉ h₉ => ?_
  refine V.safe_query hguar fun u h₁₀ => ?_
  have d₂ := htrans _ _ _ h₁ h₂
  have d₃ := htrans _ _ _ d₂ h₃
  have d₄ := htrans _ _ _ d₃ h₄
  have d₅ := htrans _ _ _ d₄ h₅
  have d₆ := htrans _ _ _ d₅ h₆
  have d₇ := htrans _ _ _ d₆ h₇
  have d₈ := htrans _ _ _ d₇ h₈
  have d₉ := htrans _ _ _ d₈ h₉
  have d := htrans _ _ _ d₉ h₁₀
  have e₈ := htrans _ _ _ h₉ h₁₀
  have e₇ := htrans _ _ _ h₈ e₈
  have e₆ := htrans _ _ _ h₇ e₇
  have e₅ := htrans _ _ _ h₆ e₆
  have e₄ := htrans _ _ _ h₅ e₅
  have e₃ := htrans _ _ _ h₄ e₄
  have e₂ := htrans _ _ _ h₃ e₃
  have e₁ := htrans _ _ _ h₂ e₂
  exact h u _ d {
    accounts := ⟨_, ⟨u₁, h₁, e₁, rfl⟩, rfl⟩
    institutions := ⟨_, ⟨u₂, d₂, e₂, rfl⟩, rfl⟩
    institutionCredentials := ⟨_, ⟨u₃, d₃, e₃, rfl⟩, rfl⟩
    institutionLimits := ⟨_, ⟨u₄, d₄, e₄, rfl⟩, rfl⟩
    balances := ⟨_, ⟨u₅, d₅, e₅, rfl⟩, rfl⟩
    payments := ⟨_, ⟨u₆, d₆, e₆, rfl⟩, rfl⟩
    complianceCases := ⟨_, ⟨u₇, d₇, e₇, rfl⟩, rfl⟩
    blocks := ⟨_, ⟨u₈, d₈, e₈, rfl⟩, rfl⟩
    journalEntries := ⟨_, ⟨u₉, d₉, h₁₀, rfl⟩, rfl⟩
    auditEvents := ⟨_, ⟨u, d, hrefl u, rfl⟩, rfl⟩
    nonces := rfl
    issued := rfl }

/-! ## Seeding -/

/-- The loop of `ensure_sandbox_seed` over the sandbox institutions. -/
def seedInstitutions : List Institution → StoreProg LedgerStorageError Unit
  | [] => return ()
  | institution :: institutions => do
    execute (.upsertInstitution institution)
    seedInstitutions institutions

/-- `ensure_sandbox_seed`: look for accounts, then save the sandbox. -/
def ensureSandboxSeed (ar : Arith) (d : Draws) : StoreProg LedgerStorageError Unit := do
  let snapshot ← loadSnapshot ar
  if snapshot.accounts.isEmpty then do
    execute (.saveSnapshot (InMemoryLedger.sandbox d).snapshot)
    return ()
  else if snapshot.institutions.isEmpty then
    seedInstitutions (InMemoryLedger.sandbox d).snapshot.institutions
  else return ()

theorem seedInstitutions_only {P : Sql → Prop} (h : ∀ i, P (.write (.upsertInstitution i)))
    (institutions : List Institution) : (seedInstitutions institutions).Only P := by
  induction institutions with
  | nil => trivial
  | cons i institutions ih => exact .bind (only_execute (h i)) fun _ => ih

/-- Seeding is safe when its save is, given that no accounts were read at
some point before it, and when the upsert of an institution is. -/
theorem ensureSandboxSeed_safe {σ : Type} (V : DbView σ) {ar : Arith} {d : Draws}
    {rely guar : σ → σ → Prop} {ok : Sql → σ → Prop}
    {post : Except LedgerStorageError Unit → σ → Prop} {s₀ : σ}
    (hguar : ∀ s, guar s s) (hrefl : ∀ s, rely s s)
    (htrans : ∀ s s' s'', rely s s' → rely s' s'' → rely s s'') (hpost : ∀ r s, post r s)
    (hinstitution : ∀ i s, guar s (V.sem (.write (.upsertInstitution i)) s).1)
    (hsave : ∀ u s db, rely s₀ u → rely u s → (V.db u).accountRows = [] →
      ok (.write (.saveSnapshot (InMemoryLedger.sandbox d).snapshot)) s →
      (V.db s).saveSnapshot (InMemoryLedger.sandbox d).snapshot = .ok db →
      guar s (V.save (InMemoryLedger.sandbox d).snapshot db s)) :
    (ensureSandboxSeed ar d).Safe V.sem rely guar ok post s₀ := by
  refine loadSnapshot_safe V hguar hrefl htrans fun s snapshot hs hload => ?_
  split
  · rename_i hempty
    obtain ⟨_, ⟨u, hu, hus, rfl⟩, haccounts⟩ := hload.accounts
    rw [List.isEmpty_iff, haccounts] at hempty
    refine V.safe_execute rfl hguar (fun _ _ _ _ _ => hpost _ _) fun v db _ hv hok hrun => ?_
    exact ⟨hsave u v db hu (htrans _ _ _ hus hv) hempty hok (of_unit_eq_ok hrun),
      fun _ _ => hpost _ _⟩
  split
  · refine .of_only (P := fun c => ∃ i, c = .write (.upsertInstitution i))
      (seedInstitutions_only (fun i => ⟨i, rfl⟩) _) ?_ hpost
    rintro _ s ⟨i, rfl⟩
    exact hinstitution i s
  · exact fun _ _ => hpost _ _

end KaniNetwork
