import Menagerie.Client.CallError
import Menagerie.Failure

/-!
# Failures as callers see them

A failure reaches the caller as a status, and the caller sorts statuses into timeouts, misses and
the rest; one status is a timeout for its text alone. `told` sorts failures by their kind and never
looks at a text. `survives_trip`: both ways of sorting agree, and the caller can tell any two
failures apart unless they are rejections for the same reason.
-/

namespace Menagerie

-- ---------------------------------------------------------------------------
-- Statuses of failures
-- ---------------------------------------------------------------------------

namespace Failure

variable {f g : Failure} {reason : String}

inductive Rejects : Failure → String → Prop where
  | request (reason : String) : Rejects (.invalidRequest reason) reason
  | config (reason : String) : Rejects (.invalidConfig reason) reason

theorem rejects_iff : f.Rejects reason ↔ f.status = ⟨.invalidArgument, reason⟩ := by
  constructor
  · rintro (_ | _) <;> rfl
  · intro h
    obtain ⟨hcode, rfl⟩ := Status.mk.inj h
    cases f with
    | invalidRequest reason => exact .request reason
    | invalidConfig reason => exact .config reason
    | _ => cases hcode

theorem store_message_ne (context : String) :
    "Store error: " ++ context ≠ "Service is shutting down" := by
  intro h
  simpa using congrArg String.toList h

/-- A rejection says its reason and nothing else; every other status says its kind as well. -/
theorem status_eq_iff : f.status = g.status ↔
    f = g ∨ ∃ reason, f.Rejects reason ∧ g.Rejects reason := by
  constructor
  · intro h
    obtain ⟨hcode, hmessage⟩ := Status.mk.inj h
    cases f with
    | store context =>
      cases g with
      | store context' => exact .inl (congrArg store ((String.append_right_inj _).mp hmessage))
      | serviceShutdown => exact absurd hmessage (store_message_ne context)
      | _ => cases hcode
    | notFound what =>
      cases g with
      | notFound what' => exact .inl (congrArg notFound ((String.append_left_inj _).mp hmessage))
      | _ => cases hcode
    | invalidRequest reason => exact .inr ⟨reason, .request reason, rejects_iff.mpr h.symm⟩
    | invalidConfig reason => exact .inr ⟨reason, .config reason, rejects_iff.mpr h.symm⟩
    | requestCancelled => cases g <;> first | exact .inl rfl | cases hcode
    | deadlineExceeded => cases g <;> first | exact .inl rfl | cases hcode
    | serviceShutdown =>
      cases g with
      | store context => exact absurd hmessage.symm (store_message_ne context)
      | serviceShutdown => exact .inl rfl
      | _ => cases hcode
  · rintro (rfl | ⟨reason, hf, hg⟩)
    · rfl
    · rw [rejects_iff.mp hf, rejects_iff.mp hg]

end Failure

-- ---------------------------------------------------------------------------
-- Sorting
-- ---------------------------------------------------------------------------

namespace Client.CallError

def told (call : String) (f : Failure) : CallError :=
  match f with
  | .deadlineExceeded => .timeout call
  | .notFound _ => .notFound call f.message
  | _ => .transport call f.status

/-- The service cancels calls, too, but with another text than a timeout has. -/
theorem ofStatus_status (call : String) (f : Failure) : ofStatus call f.status = told call f := by
  cases f with
  | requestCancelled =>
    have htext : "Request was cancelled" ≠ timeoutExpired := by decide
    simp [ofStatus, told, Failure.status, htext]
  | _ => rfl

structure Takes (call : String) (f : Failure) (c : CallError) : Prop where
  timeout_iff : (∃ call', c = .timeout call') ↔ f = .deadlineExceeded
  notFound_iff : (∃ call' message, c = .notFound call' message) ↔ ∃ what, f = .notFound what
  keeps : c = .timeout call ∨ c = .notFound call f.message ∨ c = .transport call f.status
  unavailable_iff : f.status.code = .unavailable ↔
    (∃ context, f = .store context) ∨ f = .serviceShutdown
  cancelled_iff : f.status.code = .cancelled ↔ f = .requestCancelled
  invalidArgument_iff : f.status.code = .invalidArgument ↔ ∃ reason, f.Rejects reason

theorem takes_told (call : String) (f : Failure) : Takes call f (told call f) where
  timeout_iff := by cases f <;> simp [told]
  notFound_iff := by cases f <;> simp [told]
  keeps := by cases f <;> simp [told]
  unavailable_iff := by cases f <;> simp [Failure.status]
  cancelled_iff := by cases f <;> simp [Failure.status]
  invalidArgument_iff := by
    simp only [Failure.rejects_iff]
    cases f <;> simp [Failure.status]

theorem kind_told (call : String) (f : Failure) : (told call f).kind =
    if f.kind = "DeadlineExceeded" then "Timeout"
    else if f.kind = "NotFound" then "NotFound" else "Transport" := by
  cases f <;> rfl

/-- The kind of a failure decides what it is to the caller, whatever its texts are, and its status
decides the failure up to the kind of a rejection. -/
theorem survives_trip (call : String) (f : Failure) :
    Takes call f (ofStatus call f.status) ∧
      (∀ g : Failure, f.kind = g.kind →
        (ofStatus call f.status).kind = (ofStatus call g.status).kind) ∧
      ∀ g : Failure, f.status = g.status ↔
        f = g ∨ ∃ reason, f.Rejects reason ∧ g.Rejects reason := by
  refine ⟨?_, fun g h => ?_, fun g => Failure.status_eq_iff⟩
  · rw [ofStatus_status]
    exact takes_told call f
  · rw [ofStatus_status, ofStatus_status, kind_told, kind_told, h]

end Client.CallError

end Menagerie
