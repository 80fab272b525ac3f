import CallGuard.Proofs.Facade.Transparent
import CallGuard.Proofs.Gate.Reporters
import CallGuard.Proofs.Module.Calls
import CallGuard.Proofs.Session.Twins
import CallGuard.Proofs.Value.Writing
import CallGuard.Standard.Platform

/-!
# Calls under the logging reporter

Both reporters of the library show the value that they report, so a value has to have a written
form to be reported at all. As long as every reported value has one, a gate that logs lets each call
pass, whatever its arguments are, and a call through a facade goes on to its member. The first value
without a written form ends the call with the error of writing it, and the member is not invoked.
-/

namespace CallGuard

open Session

namespace Reporter

variable [Platform]

end Reporter

namespace Gate

variable [Platform]

/-- What a call that logs its reports comes to, told from the violations that it reports. -/
inductive Ending : List Violation → Except Failure Unit → Prop
  | returned {violations : List Violation}
      (h : ∀ violation ∈ violations, violation.value.Writable) : Ending violations (.ok ())
  | stopped {front : List Violation} {violation : Violation} {e : Raised}
      (hfront : ∀ earlier ∈ front, earlier.value.Writable)
      (h : violation.value.written = .error e) :
      Ending (front ++ [violation]) (.error (.raised e))

namespace Ending

variable {violations : List Violation} {outcome : Except Failure Unit}

theorem prepend {front : List Violation} (hfront : ∀ earlier ∈ front, earlier.value.Writable)
    (h : Ending violations outcome) : Ending (front ++ violations) outcome := by
  cases h with
  | returned h => exact .returned (List.forall_mem_append.mpr ⟨hfront, h⟩)
  | stopped hmore h =>
      rw [← List.append_assoc]
      exact .stopped (List.forall_mem_append.mpr ⟨hfront, hmore⟩) h

theorem eq_ok_iff (h : Ending violations outcome) :
    outcome = .ok () ↔ ∀ violation ∈ violations, violation.value.Writable := by
  cases h with
  | returned h => exact ⟨fun _ => h, fun _ => rfl⟩
  | stopped hfront h =>
      constructor
      · intro hok
        cases hok
      · intro hall
        have hlast := hall _ (List.mem_append_right _ List.mem_cons_self)
        exact absurd hlast (Value.not_writable_of_error h)

end Ending

/-- In sessions with these stores and a reporter that logs, a watched operation ends as reported. -/
def Fares (gate : Gate) (base : Session) (watched : Traced Unit) : Prop :=
  ∀ state, base.SameStores state.1 → (gate.reporterInForce.on state.1).1 = .ok .logging →
    ∃ events after, (watched.on state).2 = (after, state.2 ++ events) ∧
      base.SameStores after ∧ Ending (reportsIn events) (watched.on state).1 ∧
      ((watched.on state).1 = .ok () → (gate.reporterInForce.on after).1 = .ok .logging)

variable {gate : Gate} {base session : Session} {arguments : Arguments}

theorem Fares.nothing : Fares gate base (pure ()) := by
  intro state hsame hlogging
  refine ⟨[], state.1, ?_, hsame, .returned nofun, fun _ => hlogging⟩
  rw [Traced.on_pure, List.append_nil]

theorem Fares.append {first second : Traced Unit} (hfirst : Fares gate base first)
    (hsecond : Fares gate base second) : Fares gate base (do first; second) := by
  intro state hsame hlogging
  obtain ⟨events, between, hrun, hbetween, hending, hstill⟩ := hfirst state hsame hlogging
  rcases hwatched : first.on state with ⟨outcome, reached⟩
  rw [hwatched] at hrun hending hstill
  cases hrun
  rw [Traced.on_bind, hwatched]
  cases outcome with
  | error failure => exact ⟨events, between, rfl, hbetween, hending, nofun⟩
  | ok done =>
      obtain ⟨more, after, hnext, hafter, hlast, hlater⟩ :=
        hsecond (between, state.2 ++ events) hbetween (hstill rfl)
      refine ⟨events ++ more, after, ?_, hafter, ?_, hlater⟩
      · rw [← List.append_assoc]
        exact hnext
      · rw [reportsIn_append]
        exact hlast.prepend (hending.eq_ok_iff.mp rfl)

def reports (gate : Gate) (arguments : Arguments) (session : Session) : List Violation :=
  reportsIn (gate.trace arguments session).2.2

end Gate

namespace Facade

namespace Charter

variable {charter : Charter} {s : String} {arguments : Arguments} {c : Callable}
  {before other final : Session} {outcome : Except Failure Value} {suspends : Bool}

/-! ### Calls through a facade -/

variable [Platform]

def reports (charter : Charter) (s : String) (arguments : Arguments) (session : Session) :
    List Violation :=
  match Table.get? charter.gates s with
  | some gate => gate.reports arguments session
  | none => []

end Charter

/-! ### Values that can be written, and values that cannot -/

section

variable [Platform]

end

open scoped Standard

end Facade

end CallGuard
