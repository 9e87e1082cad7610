/-
KaniNetwork.Ledger.SnapshotRoundTrip — a snapshot holds the whole ledger.

`snapshot` lists the values of the maps and drops their keys;
`from_snapshot` computes each key from the value it files. The round trip
gives back the ledger because every map of a reached ledger files its
values under these keys, composite keys included (`KeysCoherent`). The two
maps of plain numbers travel as they are, and a balance carries both parts
of its key.

The order a hash map is iterated in is free: a reached ledger may be
`Reordered` at any point, so the orders the snapshot lists its values in
are arbitrary.
-/
import KaniNetwork.Ledger.Operations

namespace KaniNetwork

namespace InMemoryLedger

/-- The same twelve fields: maps by key and value, lists by order. -/
structure SameFields (l l' : InMemoryLedger) : Prop where
  accounts : ∀ id, l.accounts.lookup id = l'.accounts.lookup id
  institutions : ∀ id, l.institutions.lookup id = l'.institutions.lookup id
  institutionCredentials : ∀ id,
    l.institutionCredentials.lookup id = l'.institutionCredentials.lookup id
  institutionLimits : ∀ key, l.institutionLimits.lookup key = l'.institutionLimits.lookup key
  balances : ∀ key, l.balances.lookup key = l'.balances.lookup key
  payments : ∀ id, l.payments.lookup id = l'.payments.lookup id
  complianceCases : ∀ id, l.complianceCases.lookup id = l'.complianceCases.lookup id
  blocks : l.blocks = l'.blocks
  auditEvents : l.auditEvents = l'.auditEvents
  journalEntries : l.journalEntries = l'.journalEntries
  nonces : ∀ id, l.nonces.lookup id = l'.nonces.lookup id
  issued : ∀ asset, l.issued.lookup asset = l'.issued.lookup asset

/-- The same ledger with its hash maps iterated in other orders. -/
structure Reordered (l l' : InMemoryLedger) : Prop where
  accounts : l.accounts.entries.Perm l'.accounts.entries
  institutions : l.institutions.entries.Perm l'.institutions.entries
  institutionCredentials :
    l.institutionCredentials.entries.Perm l'.institutionCredentials.entries
  institutionLimits : l.institutionLimits.entries.Perm l'.institutionLimits.entries
  balances : l.balances.entries.Perm l'.balances.entries
  payments : l.payments.entries.Perm l'.payments.entries
  complianceCases : l.complianceCases.entries.Perm l'.complianceCases.entries
  blocks : l.blocks = l'.blocks
  auditEvents : l.auditEvents = l'.auditEvents
  journalEntries : l.journalEntries = l'.journalEntries
  nonces : l.nonces.entries.Perm l'.nonces.entries
  issued : l.issued.entries.Perm l'.issued.entries

/-- The ledgers that public operations reach from the sandbox ledger, the
hash maps iterated in whatever order. -/
inductive Reached (ar : Arith) : InMemoryLedger → Prop where
  | sandbox (d : Draws) : Reached ar (sandbox d)
  | step {l : InMemoryLedger} (h : Reached ar l) (op : LedgerOp) : Reached ar (l.step ar op)
  | reordered {l l' : InMemoryLedger} (h : Reached ar l) (horder : Reordered l l') :
    Reached ar l'

/-- Every map files its values under the keys `from_snapshot` computes. -/
structure KeysCoherent (l : InMemoryLedger) : Prop where
  accounts : HashMap.FiledUnder Account.id l.accounts
  institutions : HashMap.FiledUnder Institution.id l.institutions
  institutionCredentials : HashMap.FiledUnder InstitutionCredential.id l.institutionCredentials
  institutionLimits : HashMap.FiledUnder
    (fun limit : InstitutionLimit => (limit.institutionId, limit.asset)) l.institutionLimits
  payments : HashMap.FiledUnder (fun p : PaymentRecord => p.transaction.id) l.payments
  complianceCases : HashMap.FiledUnder ComplianceCase.id l.complianceCases

/-! ## Iteration orders -/

theorem Reordered.refl (l : InMemoryLedger) : Reordered l l :=
  ⟨.refl _, .refl _, .refl _, .refl _, .refl _, .refl _, .refl _, rfl, rfl, rfl, .refl _, .refl _⟩

theorem Reordered.sameFields {l l' : InMemoryLedger} (h : Reordered l l') : SameFields l l' where
  accounts _ := AList.perm_lookup h.accounts
  institutions _ := AList.perm_lookup h.institutions
  institutionCredentials _ := AList.perm_lookup h.institutionCredentials
  institutionLimits _ := AList.perm_lookup h.institutionLimits
  balances _ := AList.perm_lookup h.balances
  payments _ := AList.perm_lookup h.payments
  complianceCases _ := AList.perm_lookup h.complianceCases
  blocks := h.blocks
  auditEvents := h.auditEvents
  journalEntries := h.journalEntries
  nonces _ := AList.perm_lookup h.nonces
  issued _ := AList.perm_lookup h.issued

/-! ## Coherence is kept -/

section

variable {l : InMemoryLedger}

theorem KeysCoherent.congr {l' : InMemoryLedger} (h : KeysCoherent l) (hsame : SameFields l l') :
    KeysCoherent l' where
  accounts id a ha := h.accounts id a ((hsame.accounts id).trans ha)
  institutions id i hi := h.institutions id i ((hsame.institutions id).trans hi)
  institutionCredentials id c hc :=
    h.institutionCredentials id c ((hsame.institutionCredentials id).trans hc)
  institutionLimits key limit hl :=
    h.institutionLimits key limit ((hsame.institutionLimits key).trans hl)
  payments id p hp := h.payments id p ((hsame.payments id).trans hp)
  complianceCases id c hc := h.complianceCases id c ((hsame.complianceCases id).trans hc)

theorem KeysCoherent.upsertAccount (h : KeysCoherent l) (account : Account) :
    KeysCoherent (l.upsertAccount account) :=
  { h with accounts := h.accounts.insert account }

theorem KeysCoherent.upsertInstitution (h : KeysCoherent l) (institution : Institution) :
    KeysCoherent (l.upsertInstitution institution) :=
  { h with institutions := h.institutions.insert institution }

theorem KeysCoherent.ensureBalanceRow (h : KeysCoherent l) (accountId asset : String) :
    KeysCoherent (l.ensureBalanceRow accountId asset) :=
  { h with }

theorem KeysCoherent.filePaymentAndCase (h : KeysCoherent l) (p : PaymentRecord)
    (c : ComplianceCase) : KeysCoherent (l.filePaymentAndCase p c) :=
  { h with payments := h.payments.insert p, complianceCases := h.complianceCases.insert c }

theorem keysCoherent_empty : KeysCoherent empty where
  accounts := HashMap.filedUnder_empty _
  institutions := HashMap.filedUnder_empty _
  institutionCredentials := HashMap.filedUnder_empty _
  institutionLimits := HashMap.filedUnder_empty _
  payments := HashMap.filedUnder_empty _
  complianceCases := HashMap.filedUnder_empty _

theorem keysCoherent_sandbox (d : Draws) : KeysCoherent (sandbox d) := by
  unfold sandbox
  repeat
    first
    | apply KeysCoherent.ensureBalanceRow
    | apply KeysCoherent.upsertAccount
    | apply KeysCoherent.upsertInstitution
  exact keysCoherent_empty

theorem keysCoherent_fromSnapshot (s : LedgerSnapshot) : KeysCoherent (fromSnapshot s) where
  accounts := HashMap.filedUnder_ofPairs _ _
  institutions := HashMap.filedUnder_ofPairs _ _
  institutionCredentials := HashMap.filedUnder_ofPairs _ _
  institutionLimits := HashMap.filedUnder_ofPairs _ _
  payments := HashMap.filedUnder_ofPairs _ _
  complianceCases := HashMap.filedUnder_ofPairs _ _

theorem KeysCoherent.applied {ar : Arith} {d : Draws} {l' : InMemoryLedger} {block : Block}
    {records : List PaymentRecord} (h : KeysCoherent l)
    (happlied : Applied ar d l block l' records) : KeysCoherent l' where
  accounts := happlied.accounts_eq ▸ h.accounts
  institutions := happlied.institutions_eq ▸ h.institutions
  institutionCredentials := happlied.credentials_eq ▸ h.institutionCredentials
  institutionLimits := happlied.limits_eq ▸ h.institutionLimits
  payments := by
    rw [happlied.payments_eq]
    exact h.payments.insertAll records
  complianceCases := happlied.cases_eq ▸ h.complianceCases

/-- Every public operation keeps the keys coherent. -/
theorem keysCoherent_step (ar : Arith) (op : LedgerOp) (h : KeysCoherent l) :
    KeysCoherent (l.step ar op) := by
  cases op with
  | upsertAccount account => exact h.upsertAccount account
  | upsertInstitution institution => exact h.upsertInstitution institution
  | suspendInstitution now id =>
    refine (suspendInstitution_commits now id).preserves h ?_
    intro l' i hok
    obtain ⟨_, _, _, rfl⟩ := suspendInstitution_eq_ok hok
    exact h.upsertInstitution i
  | upsertInstitutionLimit limit =>
    refine (upsertInstitutionLimit_commits limit).preserves h ?_
    intro l' i hok
    obtain ⟨_, _, rfl⟩ := upsertInstitutionLimit_eq_ok hok
    exact { h with institutionLimits := h.institutionLimits.insert limit }
  | addInstitutionCredential credential =>
    refine (addInstitutionCredential_commits credential).preserves h ?_
    intro l' i hok
    obtain ⟨_, _, rfl⟩ := addInstitutionCredential_eq_ok hok
    exact { h with institutionCredentials := h.institutionCredentials.insert credential }
  | recordAuditEvent event => exact { h with }
  | holdPaymentForReview s payment caseOpen => exact h.filePaymentAndCase payment _
  | approveComplianceCase d id reviewer reason =>
    refine (approveComplianceCase_commits d id reviewer reason).preserves h ?_
    intro l' r hok
    obtain ⟨_, _, _, _, _, _, rfl⟩ := approveComplianceCase_eq_ok hok
    exact h.filePaymentAndCase _ _
  | rejectComplianceCase d id reviewer reason =>
    refine (rejectComplianceCase_commits d id reviewer reason).preserves h ?_
    intro l' r hok
    obtain ⟨_, _, _, _, _, _, rfl⟩ := rejectComplianceCase_eq_ok hok
    exact h.filePaymentAndCase _ _
  | applyBlock d block =>
    refine (applyBlock_commits ar d block).preserves h ?_
    intro l' records hok
    exact h.applied (applyBlock_eq_ok hok)
  | reload => exact keysCoherent_fromSnapshot _

theorem keysCoherent_run (ar : Arith) (d : Draws) (ops : List LedgerOp) :
    KeysCoherent ((sandbox d).run ar ops) :=
  run_induct (fun _ op h => keysCoherent_step ar op h) (keysCoherent_sandbox d) ops

theorem Reached.keysCoherent {ar : Arith} (h : Reached ar l) : KeysCoherent l := by
  induction h with
  | sandbox d => exact keysCoherent_sandbox d
  | step _ op ih => exact keysCoherent_step ar op ih
  | reordered _ horder ih => exact ih.congr horder.sameFields

/-! ## The round trip -/

/-- With coherent keys the snapshot gives the ledger back. -/
theorem KeysCoherent.roundTrip (h : KeysCoherent l) : SameFields (fromSnapshot l.snapshot) l where
  accounts := h.accounts.lookup_ofPairs_values (.refl _)
  institutions := h.institutions.lookup_ofPairs_values (List.perm_insertionSort _ _)
  institutionCredentials :=
    h.institutionCredentials.lookup_ofPairs_values (List.perm_insertionSort _ _)
  institutionLimits := h.institutionLimits.lookup_ofPairs_values (.refl _)
  balances := by
    intro key
    have hpairs : l.snapshot.balances.map (fun b => ((b.accountId, b.asset), b.amount)) =
        l.balances.pairs := by
      simp only [snapshot, List.map_map]
      exact List.map_id _
    simp only [fromSnapshot, hpairs]
    exact HashMap.lookup_ofPairs_pairs l.balances key
  payments := h.payments.lookup_ofPairs_values (.refl _)
  complianceCases := h.complianceCases.lookup_ofPairs_values (.refl _)
  blocks := rfl
  auditEvents := rfl
  journalEntries := rfl
  nonces _ := rfl
  issued _ := rfl

end

/-- From `sandbox`, after any public operations and in whatever order the
maps are iterated, `from_snapshot` of the snapshot is the ledger. -/
theorem snapshot_lossless {ar : Arith} {l : InMemoryLedger} (h : Reached ar l) :
    SameFields (fromSnapshot l.snapshot) l :=
  h.keysCoherent.roundTrip

/-- A ledger with its accounts iterated from the other end. -/
def withAccountsReversed (l : InMemoryLedger) : InMemoryLedger :=
  { l with
    accounts := ⟨l.accounts.entries.reverse,
      (List.perm_nodupKeys (List.reverse_perm _)).mpr l.accounts.nodupKeys⟩ }

theorem reordered_withAccountsReversed (l : InMemoryLedger) :
    Reordered l l.withAccountsReversed :=
  { Reordered.refl l with accounts := (List.reverse_perm _).symm }

theorem snapshot_lossless_example :
    let l := ((sandbox (.numbered "s" 0)).step .wrapping
      (.upsertAccount (.new 9 "acct-9" .institution none))).withAccountsReversed
    SameFields (fromSnapshot l.snapshot) l :=
  snapshot_lossless (((Reached.sandbox (.numbered "s" 0)).step _).reordered
    (reordered_withAccountsReversed _))

end InMemoryLedger

end KaniNetwork
