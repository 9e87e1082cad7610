/-
KaniNetwork.Api.Refusals — what a refused request leaves behind
(`kani-api`).

A request is refused for two reasons. Its caller is unknown or lacks the
right to what it asks for, which `denial` decides before anything is done:
one DENIED event is recorded. Or its payment is rejected by the compliance
policy: then the caller has been let through, and the ALLOWED event is
followed by the COMPLIANCE_DECISION one. Neither touches the ledger beyond
its audit log, and nor does any other request that ends in an error.
-/
import KaniNetwork.Api.Outcomes

namespace KaniNetwork

open InMemoryLedger

namespace AppState

variable (state : AppState) (l : InMemoryLedger) (x : Exchange)

/-- A request succeeds or fails as `Served` and `Failed` say. -/
theorem serve_cases {l' : InMemoryLedger} {response : Response}
    (h : state.serve l x = (l', response)) :
    (¬ response.IsRefusal ∧ state.Served l x l') ∨
      ∃ error : ApiError, response = error.intoResponse ∧ state.Failed l x l' error := by
  have hends : Method.Ends _ _ _ _ := state.handle_answers l x
  unfold Method.Ends at hends
  unfold serve at h
  rcases hrun : state.handle x.draws x.headers x.request l with ⟨l₁, r⟩
  rw [hrun] at h hends
  cases r with
  | ok response =>
    cases h
    exact .inl hends
  | error error =>
    cases h
    exact .inr ⟨error, rfl, hends⟩

variable {state l x}

theorem Failed.audited {l' : InMemoryLedger} {error : ApiError} (h : state.Failed l x l' error) :
    Audited l l' := by
  cases h with
  | denied => exact .record (.refl l) _
  | screenedOut => exact .record (.record (.refl l) _) _
  | faulty hl' => assumption

/-- A denied request has no other outcome. -/
theorem serve_denied {error : ApiError} {event : AuditEvent}
    (h : state.denial l x = some (error, event)) :
    state.serve l x = (l.recordAuditEvent event, error.intoResponse) := by
  rcases hserve : state.serve l x with ⟨l', response⟩
  rcases state.serve_cases l x hserve with ⟨_, hserved⟩ | ⟨error', rfl, hfailed⟩
  · cases hserved with
    | answered _ hallowed | acted _ _ _ hallowed =>
      rw [hallowed] at h
      cases h
  · cases hfailed with
    | denied _ event' h' =>
      rw [h'] at h
      cases h
      rfl
    | screenedOut _ _ _ _ hallowed | faulty _ _ hallowed =>
      rw [hallowed] at h
      cases h

/-- The event of a denial is a decision, and the decision is DENIED. -/
theorem denial_event {error : ApiError} {event : AuditEvent}
    (h : state.denial l x = some (error, event)) :
    event.eventType = "API_AUTHORIZATION_DECISION" ∧
      event.metadata.get "decision" = some "DENIED" := by
  unfold denial at h
  split at h
  · split at h
    · cases h
      exact ⟨rfl, authorizationDecision_decision _ _ _ _ _ _ _ _⟩
    · split at h
      · cases h
        exact ⟨rfl, authorizationDecision_decision _ _ _ _ _ _ _ _⟩
      · cases h
  · cases h

variable (state l x)

/-- **A refused request changes nothing but the audit log**, and one that
fails authentication or authorization leaves exactly its DENIED event. -/
theorem refused_changes_only_the_log :
    ((state.serve l x).2.IsRefusal →
      ∃ events, (state.serve l x).1 = { l with auditEvents := l.auditEvents ++ events }) ∧
    ∀ error event, state.denial l x = some (error, event) →
      (state.serve l x).2 = error.intoResponse ∧
      (state.serve l x).1 = { l with auditEvents := l.auditEvents ++ [event] } ∧
      event.eventType = "API_AUTHORIZATION_DECISION" ∧
      event.metadata.get "decision" = some "DENIED" := by
  refine ⟨fun hrefusal => ?_, fun error event h => ?_⟩
  · rcases state.serve_cases l x rfl with ⟨hopen, _⟩ | ⟨error, _, hfailed⟩
    · exact absurd hrefusal hopen
    · exact hfailed.audited
  · rw [serve_denied h]
    exact ⟨rfl, rfl, denial_event h⟩

/-- A refusal is a denial, or the rejection of a payment by the policy. -/
theorem refusal_cases (h : (state.serve l x).2.IsRefusal) :
    (∃ error event, state.denial l x = some (error, event)) ∨
      ∃ request, state.payment x.request = .ok (some request) ∧
        state.decision request.compliancePayment = .reject := by
  rcases hserve : state.serve l x with ⟨l', response⟩
  rw [hserve] at h
  rcases state.serve_cases l x hserve with ⟨hopen, _⟩ | ⟨error, rfl, hfailed⟩
  · exact absurd h hopen
  · cases hfailed with
    | denied _ event hdenial => exact .inl ⟨error, event, hdenial⟩
    | screenedOut _ _ _ request _ _ _ hpayment hreject => exact .inr ⟨request, hpayment, hreject⟩
    | faulty _ _ _ _ herror => exact absurd h herror

/-- A request without headers to a route that is not open to all is denied. -/
example (d : Draws) : (state.denial l ⟨d, [], .getAccounts⟩).isSome = true := rfl

end AppState

end KaniNetwork
