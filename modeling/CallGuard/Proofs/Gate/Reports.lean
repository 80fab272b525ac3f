import CallGuard.Proofs.Gate.Lines
import CallGuard.Proofs.Gate.Trace
import CallGuard.Proofs.Session.Returning
import CallGuard.Standard.Platform

/-!
# The reports of a call, read off the lines

The outline of a gate gathers the properties of a parameter under it. The reports of a call can be
told without it, by going through the lines alone: at a line that declares a parameter its argument
is checked, and if it passes, the properties that the lines below declare for it are checked in
their order. This is what a gate reports, as long as predicates, attributes and the reporter return.
-/

namespace CallGuard

open Declaration Session

namespace Gate

/-! ### Reports, line by line -/

section Lines

variable {m : Type → Type} [Monad m]

/-- Checks a property of a value and reports a failed check; the report is given back. -/
def reportsOfProperty (inspection : Inspection m) (function : String) (v : Value)
    (path : String) (d : Declaration) : m (List Violation) := do
  let nested ← inspection.resolve v path
  if ← inspection.check d.tag nested then pure []
  else
    inspection.report (d.name ++ "." ++ path) d.tag nested d.description
    pure [⟨function, d.name ++ "." ++ path, d.tag, nested, d.description⟩]

/-- The reports on the properties that lines declare for a parameter with a value. -/
def reportsBelow (inspection : Inspection m) (function name : String) (v : Value) :
    List Value → m (List Violation)
  | [] => pure []
  | line :: below =>
    match propertyOn? name line with
    | none => reportsBelow inspection function name v below
    | some (path, d) => do
      let here ← reportsOfProperty inspection function v path d
      let rest ← reportsBelow inspection function name v below
      pure (here ++ rest)

/-- The reports on a parameter: none without an argument, and one alone if the argument fails. -/
def reportsOfArgument (inspection : Inspection m) (function : String) (d : Declaration)
    (below : List Value) : Option Value → m (List Violation)
  | none => pure []
  | some v => do
    if ← inspection.check d.tag v then reportsBelow inspection function d.name v below
    else
      inspection.report d.name d.tag v d.description
      pure [⟨function, d.name, d.tag, v, d.description⟩]

/-- The reports that lines call for, when a number of parameters is declared above them. -/
def reportsFrom (inspection : Inspection m) (function : String) (arguments : Arguments) :
    Nat → List Value → m (List Violation)
  | _, [] => pure []
  | place, line :: below =>
    match rootOn? line with
    | none => reportsFrom inspection function arguments place below
    | some d => do
      let here ← reportsOfArgument inspection function d below (argument? arguments place d.name)
      let rest ← reportsFrom inspection function arguments (place + 1) below
      pure (here ++ rest)

theorem reportsFrom_related {n : Type → Type} [Monad n]
    {R : {α : Type} → m α → n α → Prop} (first : Inspection m) (second : Inspection n)
    (hpure : ∀ {α : Type} (a : α), R (pure a) (pure a))
    (hbind : ∀ {α β : Type} {x : m α} {y : n α} {f : α → m β} {g : α → n β},
      R x y → (∀ a, R (f a) (g a)) → R (x >>= f) (y >>= g))
    (hcheck : ∀ tag v, R (first.check tag v) (second.check tag v))
    (hresolve : ∀ v path, R (first.resolve v path) (second.resolve v path))
    (hreport : ∀ label expected v description,
      R (first.report label expected v description)
        (second.report label expected v description))
    (function : String) (arguments : Arguments) (place : Nat) (lines : List Value) :
    R (reportsFrom first function arguments place lines)
      (reportsFrom second function arguments place lines) := by
  have hproperty (v : Value) (path : String) (d : Declaration) :
      R (reportsOfProperty first function v path d)
        (reportsOfProperty second function v path d) := by
    refine hbind (hresolve _ _) fun nested => hbind (hcheck _ _) fun passes => ?_
    cases passes with
    | true => exact hpure _
    | false => exact hbind (hreport _ _ _ _) fun _ => hpure _
  have hbelow (name : String) (v : Value) (below : List Value) :
      R (reportsBelow first function name v below) (reportsBelow second function name v below) := by
    induction below with
    | nil => exact hpure _
    | cons line below ih =>
        rw [reportsBelow, reportsBelow]
        cases propertyOn? name line with
        | none => exact ih
        | some found => exact hbind (hproperty _ _ _) fun _ => hbind ih fun _ => hpure _
  have hargument (d : Declaration) (below : List Value) (supplied : Option Value) :
      R (reportsOfArgument first function d below supplied)
        (reportsOfArgument second function d below supplied) := by
    cases supplied with
    | none => exact hpure _
    | some v =>
        refine hbind (hcheck _ _) fun passes => ?_
        cases passes with
        | true => exact hbelow _ _ _
        | false => exact hbind (hreport _ _ _ _) fun _ => hpure _
  induction lines generalizing place with
  | nil => exact hpure _
  | cons line below ih =>
      rw [reportsFrom, reportsFrom]
      cases rootOn? line with
      | none => exact ih _
      | some d => exact hbind (hargument _ _ _) fun _ => hbind (ih _) fun _ => hpure _

end Lines

/-- A watched inspection ends well and reports just what an operation gives back. -/
def Tells (base : Session) (watched : Traced Unit) (operation : Run (List Violation)) : Prop :=
  ∀ state, base.SameStores state.1 → ∃ events after, base.SameStores after ∧
    watched.on state = (.ok (), after, state.2 ++ events) ∧
    operation.on state.1 = (.ok (reportsIn events), after)

namespace Tells

variable {base : Session}

theorem nothing : Tells base (pure ()) (pure []) := by
  intro state hsame
  refine ⟨[], state.1, hsame, ?_, rfl⟩
  rw [Traced.on_pure, List.append_nil]

theorem append {first second : Traced Unit} {here rest : Run (List Violation)}
    (hfirst : Tells base first here) (hsecond : Tells base second rest) :
    Tells base (do first; second) (do
      let some ← here
      let more ← rest
      pure (some ++ more)) := by
  intro state hsame
  obtain ⟨events, between, hbetween, hwatched, hhere⟩ := hfirst state hsame
  obtain ⟨more, after, hafter, hrewatched, hrest⟩ := hsecond (between, state.2 ++ events) hbetween
  refine ⟨events ++ more, after, hafter, ?_, ?_⟩
  · rw [Traced.on_bind, hwatched]
    simp only
    rw [hrewatched, List.append_assoc]
  · rw [Run.on_bind_of_ok hhere, Run.on_bind_of_ok hrest, Run.on_pure, reportsIn_append]

end Tells

/-! ### A gate reports what its lines call for -/

section Answers

variable [Platform]

def onValues (check : String → Value → Bool) : Inspection (Except Raised) where
  check tag v := .ok (check tag v)
  resolve := Value.resolve
  report _ _ _ _ := .ok ()

/-- The values that a gate can come across in a call: arguments and what paths lead to in them. -/
def Meets (arguments : Arguments) (v : Value) : Prop :=
  ∃ place name supplied, argument? arguments place name = some supplied ∧
    (v = supplied ∨ ∃ path, supplied.resolve path = .ok v)

def PathsReturn (lines : List Value) (arguments : Arguments) : Prop :=
  ∀ place name v, argument? arguments place name = some v →
    ∀ line ∈ lines, ∀ path d, propertyOn? name line = some (path, d) →
      ∃ nested, v.resolve path = .ok nested

/-- In a call, the checks and reports of a gate return as long as the stores stay as they are. -/
structure Answers (gate : Gate) (arguments : Arguments) (base : Session) : Prop where
  check : ∀ session, base.SameStores session → ∀ tag v,
    ∃ passes, ((gate.inspection.check tag v).on session).1 = .ok passes
  report : ∀ session, base.SameStores session → ∀ label expected v description,
    Meets arguments v → ((gate.report label expected v description).on session).1 = .ok ()

theorem answers_of_returns {gate : Gate} {reporter : Reporter} {arguments : Arguments}
    {base : Session} (hreporter : gate.reporter = some reporter)
    (hpredicates : (base.registry gate.registry).Returns base.behaviour)
    (hreports : ∀ violation, violation.function = gate.function →
      Meets arguments violation.value → reporter.Returns base.behaviour violation) :
    gate.Answers arguments base where
  check session hsame tag v := by
    refine Registry.exists_checkIn ?_ tag v
    rw [hsame.registry, hsame.behaviour]
    exact hpredicates
  report session hsame label expected v description hmeets := by
    have hreturns := hreports (gate.violation label expected v description) rfl hmeets
    rw [← hsame.behaviour] at hreturns
    obtain ⟨answer, hanswer⟩ := Reporter.exists_report
      (session.recording (gate.failureRecord label expected)) hreturns
    rw [on_report hreporter, Run.on_bind_of_ok (Prod.ext hanswer rfl), Run.on_pure]

section Tells

variable {gate : Gate} {arguments : Arguments} {base : Session}

/-- A check whose failure is reported tells what follows it. -/
theorem tells_check (hanswers : gate.Answers arguments base) {v : Value}
    (hmeets : Meets arguments v) (label tag description : String) {passed : Traced Unit}
    {reports : Run (List Violation)} (hpassed : Tells base passed reports) :
    Tells base
      (do
        if ← gate.tracing.check tag v then passed
        else gate.tracing.report label tag v description)
      (do
        if ← gate.inspection.check tag v then reports
        else
          gate.inspection.report label tag v description
          pure [⟨gate.function, label, tag, v, description⟩]) := by
  intro state hsame
  obtain ⟨passes, hpasses⟩ := hanswers.check state.1 hsame tag v
  rcases hchecked : (gate.inspection.check tag v).on state.1 with ⟨outcome, checked⟩
  rw [hchecked] at hpasses
  cases hpasses
  have hwatched : (gate.tracing.check tag v).on state =
      (.ok passes, checked, state.2 ++ [.checked tag v]) := by
    rw [on_tracing_check, hchecked]
  have hkept : base.SameStores checked :=
    Lasting.trans hsame ((Registry.checkIn_keeps gate.registry tag v).of_on hchecked).toSameStores
  rw [Traced.on_bind, hwatched, Run.on_bind_of_ok hchecked]
  cases passes with
  | true =>
      obtain ⟨events, after, hafter, htraced, hreports⟩ :=
        hpassed (checked, state.2 ++ [.checked tag v]) hkept
      refine ⟨.checked tag v :: events, after, hafter, ?_, hreports⟩
      simp only [if_true]
      rw [htraced, List.append_assoc, List.singleton_append]
  | false =>
      have hreported := hanswers.report checked hkept label tag v description hmeets
      rcases hrun : (gate.report label tag v description).on checked with ⟨outcome, after⟩
      rw [hrun] at hreported
      cases hreported
      refine ⟨[.checked tag v, .reported (gate.violation label tag v description)], after,
        ?_, ?_, ?_⟩
      · exact Lasting.trans hkept ((gate.report_keeps label tag v description).of_on hrun)
      · simp only [Bool.false_eq_true, if_false]
        rw [on_tracing_report, hrun, List.append_assoc]
        rfl
      · simp only [Bool.false_eq_true, if_false]
        show (gate.report label tag v description >>= fun _ => _).on checked = _
        rw [Run.on_bind_of_ok hrun]
        rfl

theorem tells_below (hanswers : gate.Answers arguments base) {place : Nat} {name : String}
    {v : Value} (hsupplied : argument? arguments place name = some v) (below : List Value)
    (hpaths : ∀ line ∈ below, ∀ path d, propertyOn? name line = some (path, d) →
      ∃ nested, v.resolve path = .ok nested) :
    Tells base (inspectProperties gate.tracing v (Outline.propertiesOn name below))
      (reportsBelow gate.inspection gate.function name v below) := by
  induction below with
  | nil => exact Tells.nothing
  | cons line below ih =>
      have hrest := ih fun line hline => hpaths line (List.mem_cons_of_mem _ hline)
      rw [reportsBelow]
      cases hproperty : propertyOn? name line with
      | none =>
          rw [Outline.propertiesOn_cons_of_none hproperty]
          exact hrest
      | some found =>
          obtain ⟨path, d⟩ := found
          obtain ⟨nested, hnested⟩ := hpaths line List.mem_cons_self path d hproperty
          have hmeets : Meets arguments nested :=
            ⟨place, name, v, hsupplied, Or.inr ⟨path, hnested⟩⟩
          have hname : d.name = name := name_of_propertyOn? hproperty
          rw [Outline.propertiesOn_cons_of_property hproperty, inspectProperties]
          refine Tells.append ?_ hrest
          intro state hsame
          have htold := tells_check hanswers hmeets (d.name ++ "." ++ path) d.tag d.description
            Tells.nothing state hsame
          rw [inspectProperty, reportsOfProperty]
          have htraced : (gate.tracing.resolve v path).on state = (.ok nested, state) := by
            show (Traced.lift (Run.ofExcept (v.resolve path))).on state = _
            rw [Traced.on_lift, hnested, Run.on_ofExcept_ok]
          have hresolved : (gate.inspection.resolve v path).on state.1 = (.ok nested, state.1) := by
            show (Run.ofExcept (v.resolve path)).on state.1 = _
            rw [hnested, Run.on_ofExcept_ok]
          rw [Traced.on_bind, htraced, Run.on_bind_of_ok hresolved]
          rw [PropertyConstraint.label, ← hname]
          exact htold

theorem tells_from (hanswers : gate.Answers arguments base) (lines : List Value)
    (hpaths : PathsReturn lines arguments) (place : Nat) :
    Tells base (inspectFrom gate.tracing arguments place (Outline.ofLines lines))
      (reportsFrom gate.inspection gate.function arguments place lines) := by
  induction lines generalizing place with
  | nil => exact Tells.nothing
  | cons line below ih =>
      have hrest := ih fun place name v hsupplied line hline =>
        hpaths place name v hsupplied line (List.mem_cons_of_mem _ hline)
      rw [reportsFrom]
      cases hroot : rootOn? line with
      | none =>
          rw [Outline.ofLines_cons_of_none hroot]
          exact hrest place
      | some d =>
          rw [Outline.ofLines_cons_of_root hroot, inspectFrom]
          simp only
          cases hsupplied : argument? arguments place d.name with
          | none => exact Tells.append Tells.nothing (hrest (place + 1))
          | some v =>
              refine Tells.append ?_ (hrest (place + 1))
              refine tells_check hanswers ⟨place, d.name, v, hsupplied, Or.inl rfl⟩ d.name d.tag
                d.description ?_
              exact tells_below hanswers hsupplied below fun line hline =>
                hpaths place d.name v hsupplied line (List.mem_cons_of_mem _ hline)

end Tells

/-- What an operation gives back is settled by values alone, as long as the stores stay the same. -/
def SettledBy (base : Session) {α : Type} (operation : Run α) (answer : Except Raised α) : Prop :=
  ∀ now after a, base.SameStores now → operation.on now = (.ok a, after) →
    answer = .ok a ∧ base.SameStores after

theorem reportsFrom_onValues {gate : Gate} {arguments : Arguments} {base session final : Session}
    {check : String → Value → Bool} {violations : List Violation} {lines : List Value}
    (hsame : base.SameStores session)
    (hcheck : ∀ now, base.SameStores now → ∀ tag v,
      ((Registry.checkIn gate.registry tag v).on now).1 = .ok (check tag v))
    (hrun : (reportsFrom gate.inspection gate.function arguments 0 lines).on session =
      (.ok violations, final)) :
    reportsFrom (onValues check) gate.function arguments 0 lines = .ok violations := by
  have hrelated := reportsFrom_related (R := SettledBy base) gate.inspection (onValues check)
    ?_ ?_ ?_ ?_ ?_ gate.function arguments 0 lines
  · exact (hrelated session final violations hsame hrun).1
  · intro α a now after b hnow h
    rw [Run.on_pure] at h
    cases h
    exact ⟨rfl, hnow⟩
  · intro α β first answer next nextAnswer hfirst hnext now after b hnow h
    obtain ⟨a, between, hran, hthen⟩ := Run.on_bind_eq_ok_iff.mp h
    obtain ⟨rfl, hbetween⟩ := hfirst now between a hnow hran
    exact hnext a between after b hbetween hthen
  · intro tag v now after passes hnow h
    have hanswer := hcheck now hnow tag v
    have hkept := (Registry.checkIn_keeps gate.registry tag v).of_on h
    replace h : (Registry.checkIn gate.registry tag v).on now = (.ok passes, after) := h
    rw [h] at hanswer
    cases hanswer
    exact ⟨rfl, Lasting.trans hnow hkept.toSameStores⟩
  · intro v path now after nested hnow h
    replace h : (Run.ofExcept (v.resolve path)).on now = (.ok nested, after) := h
    show v.resolve path = .ok nested ∧ base.SameStores after
    cases hresolve : v.resolve path with
    | error e =>
        rw [hresolve, Run.on_ofExcept_error] at h
        cases h
    | ok found =>
        rw [hresolve, Run.on_ofExcept_ok] at h
        cases h
        exact ⟨rfl, hnow⟩
  · intro label expected v description now after u hnow h
    exact ⟨rfl, Lasting.trans hnow ((gate.report_keeps label expected v description).of_on h)⟩

/--
A gate reports exactly what the lines that it was built from call for, in their order, and the call
then ends well. When the predicates depend on the value alone, the reports are a matter of values.
-/
theorem reports_eq_of_lines {function : String} {lines : List Value}
    {registry : Option RegistryId} {reporter : Reporter} {arguments : Arguments}
    {session : Session} (hdistinct : (rootNamesOn lines).Nodup)
    (hpredicates : (session.registry registry).Returns session.behaviour)
    (hpaths : PathsReturn lines arguments)
    (hreporter : ∀ violation, violation.function = function →
      Meets arguments violation.value → reporter.Returns session.behaviour violation) :
    ∃ gate built final events,
      (Gate.build function lines registry (some reporter)).on session = (.ok gate, built) ∧
      (gate.pass arguments).on built = (.ok (), final) ∧
      gate.trace arguments built = (.ok (), final, events) ∧
      (reportsFrom gate.inspection function arguments 0 lines).on built =
        (.ok (reportsIn events), final) ∧
      ∀ check : String → Value → Bool,
        (∀ now, session.SameStores now → ∀ tag v,
          ((Registry.checkIn registry tag v).on now).1 = .ok (check tag v)) →
        reportsFrom (onValues check) function arguments 0 lines = .ok (reportsIn events) := by
  obtain ⟨built, hbuild, hquiet⟩ := exists_build hdistinct registry (some reporter) session
  let gate : Gate :=
    { function, outline := Outline.ofLines lines, registry, reporter := some reporter }
  have hanswers : gate.Answers arguments built := by
    refine answers_of_returns (rfl : gate.reporter = some reporter) ?_ ?_
    · rw [hquiet.registry, hquiet.behaviour]
      exact hpredicates
    · intro violation hfunction hmeets
      rw [hquiet.behaviour]
      exact hreporter violation hfunction hmeets
  obtain ⟨events, final, hfinal, htrace, hreports⟩ :=
    tells_from hanswers lines hpaths 0 (built, []) (Lasting.refl built)
  rw [List.nil_append] at htrace
  replace htrace : gate.trace arguments built = (.ok (), final, events) := htrace
  refine ⟨gate, built, final, events, hbuild, ?_, htrace, hreports, fun check hcheck => ?_⟩
  · rw [on_pass_eq_trace, htrace]
  · exact reportsFrom_onValues hquiet.toSameStores hcheck hreports

end Answers

open scoped Standard

def twoParameters : List Value :=
  [.text "{Object} [o]", .text "no declaration", .text "{String} [o.p] a text",
    .text "{Number} [n] a number"]

/-- A parameter that passes has its property reported, and one that fails is reported itself. -/
theorem reports_of_two_parameters :
    ∃ gate built final events,
      (Gate.build "f" twoParameters none (some (.custom (.callable default)))).on {} =
        (.ok gate, built) ∧
      gate.trace ⟨[.mapping [(.text "p", .int 1)]], [("n", .text "x")]⟩ built =
        (.ok (), final, events) ∧
      reportsIn events =
        [⟨"f", "o.p", "String", .int 1, "a text"⟩,
          ⟨"f", "n", "Number", .text "x", "a number"⟩] := by
  have hdistinct : (rootNamesOn twoParameters).Nodup := by decide
  have hpredicates : (({} : Session).registry none).Returns ({} : Session).behaviour :=
    Registry.builtin_returns _
  have hpaths : PathsReturn twoParameters
      ⟨[.mapping [(.text "p", .int 1)]], [("n", .text "x")]⟩ := by
    intro place name v hsupplied line hline path d hproperty
    simp only [twoParameters, List.mem_cons, List.not_mem_nil, or_false] at hline
    rcases hline with rfl | rfl | rfl | rfl
    · cases hproperty
    · cases hproperty
    · obtain ⟨rfl, hfound⟩ := Option.ite_none_right_eq_some.mp hproperty
      cases hfound
      cases place with
      | zero =>
          cases hsupplied
          exact ⟨.int 1, rfl⟩
      | succ place => cases hsupplied
    · cases hproperty
  have hreporter (violation : Violation) (_ : violation.function = "f")
      (_ : Meets ⟨[.mapping [(.text "p", .int 1)]], [("n", .text "x")]⟩ violation.value) :
      (Reporter.custom (.callable default)).Returns ({} : Session).behaviour violation :=
    ⟨default, rfl, nofun, fun _ _ => ⟨.null, rfl⟩⟩
  obtain ⟨gate, built, final, events, hbuild, _, htrace, _, hvalues⟩ :=
    reports_eq_of_lines hdistinct hpredicates hpaths hreporter
  have hreports := hvalues BuiltinType.check fun now hsame tag v => by
    rw [Registry.on_checkIn_of_builtin (hsame.registry none) tag v]
  refine ⟨gate, built, final, events, hbuild, htrace, ?_⟩
  exact (Except.ok.inj hreports).symm

end Gate

end CallGuard
