import CallGuard.Proofs.Session.Frame

/-!
# What a gate does with its means

Inspecting arguments only combines the means of a gate: checks, resolved paths and reports. So two
inspections of the same outline are related as soon as their means are, whatever the relation is
that runs of operations one after another respect. In particular a gate keeps what its means keep.
-/

namespace CallGuard

open Session

namespace Gate

section Related

variable {m n : Type → Type} [Monad m] [Monad n] {R : {α : Type} → m α → n α → Prop}
  (first : Inspection m) (second : Inspection n)

theorem inspect_related
    (hpure : ∀ {α : Type} (a : α), R (pure a) (pure a))
    (hbind : ∀ {α β : Type} {x : m α} {y : n α} {f : α → m β} {g : α → n β},
      R x y → (∀ a, R (f a) (g a)) → R (x >>= f) (y >>= g))
    (hcheck : ∀ tag v, R (first.check tag v) (second.check tag v))
    (hresolve : ∀ v path, R (first.resolve v path) (second.resolve v path))
    (hreport : ∀ label expected v description,
      R (first.report label expected v description)
        (second.report label expected v description))
    {gate other : Gate} (houtline : gate.outline = other.outline) (arguments : Arguments) :
    R (gate.inspect first arguments) (other.inspect second arguments) := by
  have hproperties (v : Value) (constraints : List PropertyConstraint) :
      R (inspectProperties first v constraints) (inspectProperties second v constraints) := by
    induction constraints with
    | nil => exact hpure _
    | cons constraint rest ih =>
        refine hbind ?_ fun _ => ih
        refine hbind (hresolve _ _) fun nested => hbind (hcheck _ _) fun passes => ?_
        cases passes with
        | true => exact hpure _
        | false => exact hreport _ _ _ _
  have hargument (parameter : Parameter) (v : Value) :
      R (inspectArgument first parameter v) (inspectArgument second parameter v) := by
    refine hbind (hcheck _ _) fun passes => ?_
    cases passes with
    | true => exact hproperties _ _
    | false => exact hreport _ _ _ _
  have hfrom (parameters : Outline) (place : Nat) :
      R (inspectFrom first arguments place parameters)
        (inspectFrom second arguments place parameters) := by
    induction parameters generalizing place with
    | nil => exact hpure _
    | cons parameter rest ih =>
        simp only [inspectFrom]
        cases argument? arguments place parameter.name with
        | none => exact ih _
        | some v => exact hbind (hargument parameter v) fun _ => ih _
  rw [inspect, inspect, houtline]
  exact hfrom other.outline 0

end Related

theorem inspect_keeps {R : Session → Session → Prop} [Lasting R] {inspection : Inspection Run}
    (hcheck : ∀ tag v, (inspection.check tag v).Keeps R)
    (hresolve : ∀ v path, (inspection.resolve v path).Keeps R)
    (hreport : ∀ label expected v description,
      (inspection.report label expected v description).Keeps R)
    (gate : Gate) (arguments : Arguments) : (gate.inspect inspection arguments).Keeps R :=
  inspect_related (n := Run) (R := fun {α} (operation : Run α) _ => operation.Keeps R)
    inspection inspection (fun a => Run.Keeps.pure a) (fun hfirst hnext => hfirst.bind hnext)
    hcheck hresolve hreport (rfl : gate.outline = gate.outline) arguments

variable [Platform]

theorem reporterInForce_keeps (gate : Gate) : gate.reporterInForce.Keeps SameStores := by
  rw [reporterInForce]
  split
  · exact Run.Keeps.pure _
  · exact Reporter.current_keeps

def failureRecord (gate : Gate) (label expected : String) : Log.Record :=
  checkSite.record debugSeverity ("Argument check failed for " ++ label ++ " in " ++ gate.function)
    [("wrapped_function", .text gate.function), ("parameter", .text label),
      ("expected_type", .text expected)]

/-- A gate logs a failed check and then hands it to the reporter in force. -/
theorem on_report_inForce (gate : Gate) (label expected : String) (v : Value) (description : String)
    (session : Session) :
    (gate.report label expected v description).on session =
      (gate.reporterInForce >>= fun reporter =>
        reporter.report (gate.violation label expected v description) >>= fun _ => pure ()).on
          (session.recording (gate.failureRecord label expected)) :=
  Run.on_bind_of_ok (Run.on_log _ _ _ _ session) _

theorem on_report {gate : Gate} {reporter : Reporter} (h : gate.reporter = some reporter)
    (label expected : String) (v : Value) (description : String) (session : Session) :
    (gate.report label expected v description).on session =
      ((reporter.report (gate.violation label expected v description)) >>= fun _ => pure ()).on
        (session.recording (gate.failureRecord label expected)) := by
  have hinForce : gate.reporterInForce = pure reporter := by
    rw [reporterInForce, h]
  rw [on_report_inForce, hinForce, Run.on_bind_of_ok (Run.on_pure _ _)]

theorem report_keeps (gate : Gate) (label expected : String) (v : Value) (description : String) :
    (gate.report label expected v description).Keeps SameStores := by
  refine (Run.log_keeps _ _ _ _).bind fun _ => ?_
  refine gate.reporterInForce_keeps.bind fun reporter => ?_
  exact ((reporter.report_keeps _).mono fun _ _ h => h.toSameStores).bind fun _ => Run.Keeps.pure _

theorem pass_keeps (gate : Gate) (arguments : Arguments) :
    (gate.pass arguments).Keeps SameStores := by
  refine inspect_keeps ?_ ?_ ?_ gate arguments
  · exact fun tag v => (Registry.checkIn_keeps _ tag v).mono fun _ _ h => h.toSameStores
  · exact fun v path => Run.Keeps.ofExcept _
  · exact gate.report_keeps

end Gate

end CallGuard
