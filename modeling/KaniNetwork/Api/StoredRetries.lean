/-
KaniNetwork.Api.StoredRetries — retries of the payments in a database.

`Node/RetryConflicts.lean` is about a stored transfer, wherever it is stored.
Here it is the answer to `payment_by_client_reference_id`, at any moment of a
run of the service. Its row was inserted by a request, with the fingerprint
its node gave it, or it was there before the run (`storedTransfer_of_run`),
and nothing changes what a row asks for. So both checks decide every retry
of its key as they should, unless it is misread (`stored_retry_decided_iff`).
-/
import KaniNetwork.Api.StoredPayments
import KaniNetwork.Node.RetryConflicts

namespace KaniNetwork

section

variable {n : KaniNode} {k : String}

/-- A row a node inserts under a key is a stored transfer of every node that
has its fingerprints. -/
theorem NodeOp.InsertsRow.storedTransfer {n' : KaniNode} {op : NodeOp} {row : TransactionRow}
    (h : op.InsertsRow n' row) (hsame : n'.requestFingerprint = n.requestFingerprint)
    (hk : row.clientReferenceId = some k) (db : Database) :
    StoredTransfer n k (db.joinBlock row) := by
  cases h with
  | submitted now stamp nonce =>
    cases hk
    rw [hsame]
    exact (StoredTransfer.enqueued now stamp _ _ _ _ nonce).joinBlock_ofPayment db
  | held now stamp nonce reason =>
    cases hk
    rw [hsame]
    exact (StoredTransfer.onHold now stamp _ _ _ _ nonce reason).joinBlock_ofPayment db
  | minted now stamp nonce => cases hk
  | burned now stamp nonce => cases hk

/-- The payments of a database are stored transfers under their keys. -/
def HoldsTransfers (n : KaniNode) (db : Database) : Prop :=
  ∀ r ∈ db.transactions.rows, ∀ k, r.clientReferenceId = some k →
    StoredTransfer n k (db.joinBlock r)

end

section

variable {lower : String → String} {db : Database} {log : ServiceLog}
  {P : Pool Session ServiceCall StoreSql StoreSql.Reply ApiError (Option Response) Database}
  {n : KaniNode}

/-- In every run of the service, whose nodes have the fingerprints of `n`, on
a database that holds transfers, the payments of the database are stored
transfers. -/
theorem storedTransfer_of_run (hrun : ServiceRun lower db log P)
    (hnodes : ∀ i state x left, P.slots i = some (.exchange state x, left) →
      state.node.requestFingerprint = n.requestFingerprint)
    (hinit : HoldsTransfers n db) : HoldsTransfers n P.store := by
  intro r hr k hk
  rcases row_origin hrun hr with ⟨row, hrow, hsame⟩ | ⟨row, hsame, before, e, after, hlog, hstores⟩
  · exact .later (hinit row hrow k (hsame.key.symm.trans hk)) (hsame.joinBlock _ _)
  · obtain ⟨state, x, hcall, -⟩ := hstores.authorised
    have he : e ∈ log := hlog ▸ List.mem_append_right _ List.mem_cons_self
    obtain ⟨left, hslot⟩ := hrun.call_of_mem he
    obtain ⟨next, hleads⟩ := hrun.issued hlog
    rw [hcall] at hleads hslot
    obtain ⟨h, q, hc⟩ := carries_of_leads hleads
    have hinserts : e.command.Inserts row := by
      have hsent := hstores.sent
      generalize e.command = c at hsent
      cases hsent <;> rfl
    obtain ⟨op, -, hop⟩ := hc.of_only (NodeCall.onStore_inserts state.node q) row hinserts
    have hstored := hop.storedTransfer (hnodes _ _ _ _ hslot) (hsame.key.symm.trans hk) P.store
    exact .later hstored (hsame.joinBlock _ _)

/-- Conflicts are detected for the payments in a database: with an injective
hash both checks decide every retry of a key as they should, where the
payment they compare with is the one the database finds under the key, unless
the retry is misread. -/
theorem stored_retry_decided_iff
    (hinjective : Function.Injective (n.host.hashBytes n.cryptoProfile.hash))
    (hrun : ServiceRun lower db log P)
    (hnodes : ∀ i state x left, P.slots i = some (.exchange state x, left) →
      state.node.requestFingerprint = n.requestFingerprint)
    (hinit : HoldsTransfers n db) {k : String} {p : PaymentRecord}
    (hp : P.store.paymentByClientReferenceId k = some p) (f t a : String) (amount : Int) :
    Decided n k p f t a amount ↔ ¬ MisreadRetry p f t a amount := by
  obtain ⟨r, hfind, rfl⟩ := Option.map_eq_some_iff.mp hp
  have hkey := List.find?_some hfind
  have hk : r.clientReferenceId = some k := of_decide_eq_true hkey
  have hstored := storedTransfer_of_run hrun hnodes hinit r (List.mem_of_find?_eq_some hfind) k hk
  exact hstored.ownRequest.decided_iff hinjective f t a amount

end

end KaniNetwork
