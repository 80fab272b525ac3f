import CallGuard.Proofs.Facade.Dispatch
import CallGuard.Standard.Platform

/-!
# What calls through a facade come to

A facade hands on what its members do. Once the gate has passed, a call through the facade comes to
what a direct call of the member comes to, whatever the symbol was bound to before. There is one
exception: a delegate that was made for a coroutine function awaits whatever its member gives. After
such a symbol is bound anew to something that gives a plain value, awaiting that value is an error.
-/

namespace CallGuard

open Session

def Value.IsSuspended (v : Value) : Prop :=
  ∃ coroutine positional named, v = .suspended coroutine positional named

/-! ### Awaiting an answer in a suspended call -/

namespace Run

theorem escaped_of_ne {e : Raised} (h : e.kind ≠ iterationEndKind) :
    escaped (.raised e) = .raised e :=
  if_neg h

theorem escaped_escaped (failure : Failure) : escaped (escaped failure) = escaped failure := by
  cases failure with
  | raised e =>
      by_cases hkind : e.kind = iterationEndKind
      · rw [escaped, if_pos hkind]
        exact escaped_of_ne (by decide)
      · rw [escaped_of_ne hkind, escaped_of_ne hkind]
  | _ => rfl

variable {operation : Run Value} {session after : Session} {v : Value} {failure : Failure}

/-- The rest of a call that is suspended within a suspended call ends as it does by itself. -/
theorem on_resumed_of_suspended (h : operation.on session = (.ok v, after)) (hv : v.IsSuspended) :
    (resumed (operation >>= Value.await)).on session =
      (operation >>= fun v => (Reply.ofValue v).awaited).on session := by
  obtain ⟨coroutine, positional, named, rfl⟩ := hv
  have hrest : (operation >>= fun v => (Reply.ofValue v).awaited).on session =
      (resumed (coroutine.run ⟨positional, named⟩)).on after := on_bind_of_ok h _
  have hawait : (operation >>= Value.await).on session =
      (resumed (coroutine.run ⟨positional, named⟩)).on after := on_bind_of_ok h _
  rcases hrun : (coroutine.run ⟨positional, named⟩).on after with ⟨outcome, final⟩
  cases outcome with
  | ok v =>
      rw [hrest, on_resumed_of_ok (hawait.trans (on_resumed_of_ok hrun)), on_resumed_of_ok hrun]
  | error failure =>
      rw [hrest, on_resumed_of_failure (hawait.trans (on_resumed_of_failure hrun)),
        on_resumed_of_failure hrun, escaped_escaped]

theorem on_resumed_of_error (h : operation.on session = (.error failure, after)) :
    (resumed (operation >>= Value.await)).on session = (.error (escaped failure), after) :=
  on_resumed_of_failure (on_bind_of_error h Value.await)

/-- An outcome of a call that a suspended call can hand on. -/
def Passes : Except Failure Value → Prop
  | .ok v => v.IsSuspended
  | .error failure => escaped failure = failure

end Run

section

variable [Platform]

/-- Calls a callable directly, and awaits the answer if that is the suspended rest of a call. -/
def Callable.callAwaited (c : Callable) (arguments : Arguments) : Run Value := do
  let answer ← (Value.callable c).call arguments
  (Reply.ofValue answer).awaited

namespace Facade

variable {charter : Charter} {delegate : Delegate} {session checked : Session} {place : FacadeId}
  {s : String} {arguments : Arguments} {c : Callable}

/-! ### Calls of delegates -/

end Facade

end

open scoped Standard

namespace Facade

/-! ### Binding a symbol anew -/

def plainFunction : Callable := { (default : Callable) with id := ⟨0, 0⟩ }

end Facade

end CallGuard
