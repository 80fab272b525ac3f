import CallGuard.Proofs.Gate.Trace
import CallGuard.Proofs.Session.Returning
import CallGuard.Standard.Platform
import Mathlib.Data.List.Forall2

/-!
# The library's reporters against one that collects

A gate does not look at its reporter, so calls under different reporters make the same checks until
one of the reporters fails. The trace under a reporter of the library is therefore the trace under
one that collects, cut after the first report on which the library's reporter fails. Raising fails
on every report. Logging fails only on a value that has no written form, and otherwise it leaves
one warning in the journal for each report.
-/

namespace CallGuard

open Session

namespace Gate

/-! ### Cutting a trace -/

/-- The events up to the first report that ends a call, and the failure that it ends with. -/
def cut (failure? : Violation → Option Failure) : List Event → List Event × Option Failure
  | [] => ([], none)
  | .checked tag v :: rest => (.checked tag v :: (cut failure? rest).1, (cut failure? rest).2)
  | .reported violation :: rest =>
    match failure? violation with
    | some failure => ([.reported violation], some failure)
    | none => (.reported violation :: (cut failure? rest).1, (cut failure? rest).2)

section Cut

variable {failure? : Violation → Option Failure} {events more : List Event}

theorem cut_of_none (h : ∀ violation ∈ reportsIn events, failure? violation = none) :
    cut failure? events = (events, none) := by
  induction events with
  | nil => rfl
  | cons event rest ih =>
      cases event with
      | checked tag v => rw [cut, ih h]
      | reported violation =>
          have hrest := ih fun later hlater => h later (List.mem_cons_of_mem violation hlater)
          rw [cut, h violation List.mem_cons_self, hrest]

theorem fst_cut_of_none (h : (cut failure? events).2 = none) :
    (cut failure? events).1 = events := by
  induction events with
  | nil => rfl
  | cons event rest ih =>
      cases event with
      | checked tag v =>
          rw [cut] at h ⊢
          rw [ih h]
      | reported violation =>
          rw [cut] at h ⊢
          cases hfailure : failure? violation with
          | some failure =>
              rw [hfailure] at h
              cases h
          | none =>
              rw [hfailure] at h
              exact congrArg _ (ih h)

theorem cut_append_of_none (h : (cut failure? events).2 = none) :
    cut failure? (events ++ more) = (events ++ (cut failure? more).1, (cut failure? more).2) := by
  induction events with
  | nil => rfl
  | cons event rest ih =>
      cases event with
      | checked tag v =>
          rw [cut] at h
          rw [List.cons_append, cut, ih h, List.cons_append]
      | reported violation =>
          rw [cut] at h
          cases hfailure : failure? violation with
          | some failure =>
              rw [hfailure] at h
              cases h
          | none =>
              rw [hfailure] at h
              rw [List.cons_append, cut, hfailure, ih h, List.cons_append]

theorem cut_append_of_some {failure : Failure} (h : (cut failure? events).2 = some failure) :
    cut failure? (events ++ more) = cut failure? events := by
  induction events with
  | nil => cases h
  | cons event rest ih =>
      cases event with
      | checked tag v =>
          rw [cut] at h
          rw [List.cons_append, cut, cut, ih h]
      | reported violation =>
          rw [cut] at h
          rw [List.cons_append, cut, cut]
          cases hfailure : failure? violation with
          | some failure => rfl
          | none =>
              rw [hfailure] at h
              rw [ih h]

theorem cut_of_first {front rest : List Event} {violation : Violation} {failure : Failure}
    (hfront : ∀ earlier ∈ reportsIn front, failure? earlier = none)
    (hfailure : failure? violation = some failure) :
    cut failure? (front ++ .reported violation :: rest) =
      (front ++ [.reported violation], some failure) := by
  have hnone : (cut failure? front).2 = none := by
    rw [cut_of_none hfront]
  rw [cut_append_of_none hnone, cut, hfailure]

end Cut

/-! ### Sessions that differ by a collector -/

/-- Two sessions differ only in the calls of a collector and in the journal. -/
structure Alike (collector : Callable) (session other : Session) : Prop where
  behaviour : other.behaviour = session.behaviour
  registry : ∀ place, other.registry place = session.registry place
  invocations : other.invocations.filter (·.callee ≠ collector.id) =
    session.invocations.filter (·.callee ≠ collector.id)

section Alike

variable {collector : Callable} {session other : Session}

theorem Alike.refl (collector : Callable) (session : Session) : Alike collector session session :=
  ⟨rfl, fun _ => rfl, rfl⟩

theorem Alike.symm (h : Alike collector session other) : Alike collector other session :=
  ⟨h.behaviour.symm, fun place => (h.registry place).symm, h.invocations.symm⟩

theorem Alike.trans {third : Session} (h : Alike collector session other)
    (h' : Alike collector other third) : Alike collector session third :=
  ⟨h'.behaviour.trans h.behaviour, fun place => (h'.registry place).trans (h.registry place),
    h'.invocations.trans h.invocations⟩

end Alike

end Gate

/-! ### What the library's reporters do -/

section Reporters

variable [Platform]

def Session.recordingAll (session : Session) (entries : List Log.Record) : Session :=
  { session with journal := entries.foldl Log.Journal.add session.journal }

def Violation.warning (violation : Violation) (written : String) : Log.Record :=
  Reporter.warningSite.record warningSeverity (violation.message written) (violation.extra written)

namespace Reporter

/-- The failure of a reporter of the library on a violation, if it fails on it. -/
def failure? (reporter : Reporter) (violation : Violation) : Option Failure :=
  match reporter with
  | .raising =>
    some (match violation.value.written with
      | .ok written => .invalidArgument violation written
      | .error e => .raised e)
  | .logging =>
    match violation.value.written with
    | .ok _ => none
    | .error e => some (.raised e)
  | .custom _ => none

def records (reporter : Reporter) (violation : Violation) : List Log.Record :=
  match reporter with
  | .logging =>
    match violation.value.written with
    | .ok written => [violation.warning written]
    | .error _ => []
  | _ => []

/-- A reporter of the library fails or not, and does nothing else but hand records on. -/
theorem on_report_of_own {reporter : Reporter} (hown : ∀ v, reporter ≠ .custom v)
    (violation : Violation) (session : Session) :
    (reporter.report violation >>= fun _ => pure ()).on session =
      (match reporter.failure? violation with
        | some failure => .error failure
        | none => .ok (),
        session.recordingAll (reporter.records violation)) := by
  cases reporter with
  | raising =>
      unfold report reportAs failure? records
      cases violation.value.written with
      | ok written => rfl
      | error e => rfl
  | logging =>
      unfold report reportAs failure? records
      cases violation.value.written with
      | ok written => rfl
      | error e => rfl
  | custom v => exact absurd rfl (hown v)

end Reporter

namespace Gate

/-! ### Collectors -/

/-- A callable that collects: it returns, and no predicate is it or takes notice of its calls. -/
structure Collects (registry : Option RegistryId) (collector : Callable) (session : Session) :
    Prop where
  returns : ∀ violation,
    (Reporter.custom (.callable collector)).Returns session.behaviour violation
  apart : ∀ tag predicate,
    (session.registry registry).constraint? tag = some (.custom (.callable predicate)) →
      predicate.id ≠ collector.id
  unnoticed : ∀ tag predicate,
    (session.registry registry).constraint? tag = some (.custom (.callable predicate)) →
      ∀ earlier arguments, session.behaviour predicate.id earlier arguments =
        session.behaviour predicate.id (earlier.filter (·.callee ≠ collector.id)) arguments

variable {gate : Gate} {collector : Callable} {base session other : Session}

/-- A check has the same outcome in sessions that differ by a collector, and keeps them alike. -/
theorem Alike.on_checkIn {registry : Option RegistryId}
    (hcollects : Collects registry collector base)
    (hsame : base.SameStores session) (halike : Alike collector session other) (tag : String)
    (v : Value) :
    ((Registry.checkIn registry tag v).on other).1 =
        ((Registry.checkIn registry tag v).on session).1 ∧
      Alike collector ((Registry.checkIn registry tag v).on session).2
        ((Registry.checkIn registry tag v).on other).2 ∧
      ((Registry.checkIn registry tag v).on other).2.journal = other.journal := by
  rw [Registry.checkIn, Run.on_bind_of_ok (Run.on_get session),
    Run.on_bind_of_ok (Run.on_get other), halike.registry registry]
  cases hconstraint : (session.registry registry).constraint? tag with
  | none => exact ⟨rfl, halike, rfl⟩
  | some predicate =>
      cases predicate with
      | builtin type => exact ⟨rfl, halike, rfl⟩
      | custom p =>
          cases p with
          | callable c =>
              have hregistered : (base.registry registry).constraint? tag =
                  some (.custom (.callable c)) := by
                rw [← hsame.registry, hconstraint]
              have hapart := hcollects.apart tag c hregistered
              have hunnoticed := hcollects.unnoticed tag c hregistered
              have hanswer : other.behaviour c.id other.invocations ⟨[v], []⟩ =
                  session.behaviour c.id session.invocations ⟨[v], []⟩ := by
                rw [halike.behaviour, hsame.behaviour, hunnoticed other.invocations,
                  halike.invocations, ← hunnoticed session.invocations]
              have hran : Alike collector
                  { session with invocations := ⟨c.id, ⟨[v], []⟩⟩ :: session.invocations }
                  { other with invocations := ⟨c.id, ⟨[v], []⟩⟩ :: other.invocations } := by
                refine ⟨halike.behaviour, halike.registry, ?_⟩
                rw [List.filter_cons_of_pos (by simpa using hapart),
                  List.filter_cons_of_pos (by simpa using hapart), halike.invocations]
              simp only [Predicate.answer, Value.call]
              by_cases hsuspends : c.suspends = true
              · simp only [hsuspends, if_true]
                cases Platform.binds c ⟨[v], []⟩ with
                | ok _ => exact ⟨rfl, halike, rfl⟩
                | error e => exact ⟨rfl, hran, rfl⟩
              · simp only [hsuspends, if_false, Bool.false_eq_true]
                rw [Run.on_bind, Run.on_bind, Callable.on_run, Callable.on_run, hanswer]
                cases session.behaviour c.id session.invocations ⟨[v], []⟩ with
                | ok answer => exact ⟨rfl, hran, rfl⟩
                | error e => exact ⟨rfl, hran, rfl⟩
          | _ => exact ⟨rfl, halike, rfl⟩

def reportingTo (gate : Gate) (reporter : Reporter) : Gate :=
  { gate with reporter := some reporter }

theorem on_report_reportingTo (gate : Gate) (reporter : Reporter) (label expected : String)
    (v : Value) (description : String) (session : Session) :
    ((gate.reportingTo reporter).report label expected v description).on session =
      (reporter.report (gate.violation label expected v description) >>= fun _ => pure ()).on
        (session.recording (gate.failureRecord label expected)) :=
  on_report rfl label expected v description session

/-- A report to a collector succeeds, and the session differs only by the collector. -/
theorem exists_report_collecting (hcollects : Collects gate.registry collector base)
    (hsame : base.SameStores session) (label expected : String) (v : Value)
    (description : String) :
    ∃ after,
      ((gate.reportingTo (.custom (.callable collector))).report label expected v description).on
        session = (.ok (), after) ∧ base.SameStores after ∧ Alike collector session after := by
  have hkept := (gate.reportingTo (.custom (.callable collector))).report_keeps label expected v
    description session
  rw [on_report_reportingTo] at hkept ⊢
  have hreturns := hcollects.returns (gate.violation label expected v description)
  rw [← hsame.behaviour] at hreturns
  obtain ⟨answer, hanswer⟩ := Reporter.exists_report
    (session.recording (gate.failureRecord label expected)) hreturns
  rw [Run.on_bind_of_ok (Prod.ext hanswer rfl)] at hkept
  refine ⟨_, Run.on_bind_of_ok (Prod.ext hanswer rfl) _, Lasting.trans hsame hkept, ?_⟩
  show Alike collector session ((Value.call _ _).on _).2
  simp only [Value.call]
  split
  · cases Platform.binds collector _ with
    | ok _ => exact ⟨rfl, fun _ => rfl, rfl⟩
    | error e =>
        refine ⟨rfl, fun _ => rfl, ?_⟩
        dsimp only
        rw [Callable.on_refuse, List.filter_cons_of_neg (by simp)]
        rfl
  · rw [Callable.on_run]
    refine ⟨rfl, fun _ => rfl, ?_⟩
    rw [List.filter_cons_of_neg (by simp)]
    rfl

/-! ### Calls under a collector and under another reporter -/

def recordsOf (gate : Gate) (reporter : Reporter) (violation : Violation) : List Log.Record :=
  gate.failureRecord violation.label violation.expected :: reporter.records violation

/-- A report to a reporter of the library fails or not, and leaves its records. -/
theorem on_report_of_own {reporter : Reporter} (hown : ∀ v, reporter ≠ .custom v) (gate : Gate)
    (label expected : String) (v : Value) (description : String) (session : Session) :
    ((gate.reportingTo reporter).report label expected v description).on session =
      (match reporter.failure? (gate.violation label expected v description) with
        | some failure => .error failure
        | none => .ok (),
        session.recordingAll
          (gate.recordsOf reporter (gate.violation label expected v description))) := by
  rw [on_report_reportingTo, Reporter.on_report_of_own hown]
  rfl

/--
The second of two runs makes the events of the first up to where its reporter fails, and then ends;
otherwise it ends like the first. In both cases its journal has what the reports leave there.
-/
def Cuts (gate : Gate) (reporter : Reporter) (collector : Callable) (base : Session) {α : Type}
    (collecting cutting : Traced α) : Prop :=
  ∀ state other, base.SameStores state.1 → Alike collector state.1 other.1 →
    ∃ events after otherAfter, base.SameStores after ∧
      (collecting.on state).2 = (after, state.2 ++ events) ∧
      (cutting.on other).2 = (otherAfter, other.2 ++ (cut reporter.failure? events).1) ∧
      otherAfter.journal =
        ((reportsIn (cut reporter.failure? events).1).flatMap (gate.recordsOf reporter)).foldl
          Log.Journal.add other.1.journal ∧
      match (cut reporter.failure? events).2 with
      | none => (cutting.on other).1 = (collecting.on state).1 ∧ Alike collector after otherAfter
      | some failure => (cutting.on other).1 = .error failure

namespace Cuts

variable {reporter : Reporter} {α β : Type}

theorem of_still {collecting cutting : Traced α} (outcome : Except Failure α)
    (hcollecting : ∀ state, collecting.on state = (outcome, state))
    (hcutting : ∀ state, cutting.on state = (outcome, state)) :
    Cuts gate reporter collector base collecting cutting := by
  intro state other hsame halike
  refine ⟨[], state.1, other.1, hsame, ?_, ?_, rfl, ?_⟩
  · rw [hcollecting, List.append_nil]
  · rw [hcutting, cut, List.append_nil]
  · rw [hcollecting, hcutting]
    exact ⟨rfl, halike⟩

theorem bind {collecting cutting : Traced α} {next nextCutting : α → Traced β}
    (hfirst : Cuts gate reporter collector base collecting cutting)
    (hnext : ∀ a, Cuts gate reporter collector base (next a) (nextCutting a)) :
    Cuts gate reporter collector base (collecting >>= next) (cutting >>= nextCutting) := by
  intro state other hsame halike
  obtain ⟨events, after, otherAfter, hafter, hcollecting, hcutting, hjournal, hend⟩ :=
    hfirst state other hsame halike
  rw [Traced.on_bind, Traced.on_bind]
  rcases hleft : collecting.on state with ⟨outcome, kept⟩
  rcases hright : cutting.on other with ⟨otherOutcome, otherKept⟩
  rw [hleft] at hcollecting
  rw [hright] at hcutting
  simp only at hcollecting hcutting
  subst hcollecting hcutting
  cases hcut : (cut reporter.failure? events).2 with
  | none =>
      rw [hcut, hleft, hright] at hend
      obtain ⟨houtcome, hafterAlike⟩ := hend
      simp only at houtcome
      subst houtcome
      have hwhole := fst_cut_of_none hcut
      cases otherOutcome with
      | error failure =>
          refine ⟨events, after, otherAfter, hafter, rfl, rfl, hjournal, ?_⟩
          rw [hcut]
          exact ⟨rfl, hafterAlike⟩
      | ok a =>
          obtain ⟨more, final, otherFinal, hfinal, hthen, hthenCutting, hmoreJournal, hmoreEnd⟩ :=
            hnext a (after, state.2 ++ events)
              (otherAfter, other.2 ++ (cut reporter.failure? events).1) hafter hafterAlike
          refine ⟨events ++ more, final, otherFinal, hfinal, ?_, ?_, ?_, ?_⟩
          · rw [hthen, List.append_assoc]
          · rw [hthenCutting, hwhole, cut_append_of_none hcut, List.append_assoc]
          · rw [hwhole] at hjournal
            rw [hmoreJournal, hjournal, cut_append_of_none hcut, reportsIn_append,
              List.flatMap_append, List.foldl_append]
          · rw [cut_append_of_none hcut]
            exact hmoreEnd
  | some failure =>
      rw [hcut, hright] at hend
      simp only at hend
      subst hend
      cases outcome with
      | error earlier =>
          refine ⟨events, after, otherAfter, hafter, rfl, rfl, hjournal, ?_⟩
          rw [hcut]
      | ok a =>
          obtain ⟨more, final, _, hfinal, hthen, _⟩ :=
            hnext a (after, state.2 ++ events) (after, []) hafter (Alike.refl collector after)
          refine ⟨events ++ more, final, otherAfter, hfinal, ?_, ?_, ?_, ?_⟩
          · rw [hthen, List.append_assoc]
          · rw [cut_append_of_some hcut]
          · rw [cut_append_of_some hcut]
            exact hjournal
          · rw [cut_append_of_some hcut, hcut]

end Cuts

/-- A call under a reporter of the library is the call under a collector, cut where it fails. -/
theorem cuts_inspect {reporter : Reporter} (hown : ∀ v, reporter ≠ .custom v)
    (hcollects : Collects gate.registry collector base) (arguments : Arguments) :
    Cuts gate reporter collector base
      ((gate.reportingTo (.custom (.callable collector))).inspect
        (gate.reportingTo (.custom (.callable collector))).tracing arguments)
      ((gate.reportingTo reporter).inspect (gate.reportingTo reporter).tracing arguments) := by
  refine inspect_related (R := Cuts gate reporter collector base) _ _ ?_ Cuts.bind ?_ ?_ ?_ rfl
    arguments
  · exact fun a => Cuts.of_still (.ok a) (fun _ => rfl) fun _ => rfl
  · intro tag v state other hsame halike
    obtain ⟨houtcome, hafterAlike, hjournal⟩ := halike.on_checkIn hcollects hsame tag v
    have hkept := Registry.checkIn_keeps gate.registry tag v state.1
    exact ⟨[.checked tag v], _, _, Lasting.trans hsame hkept.toSameStores, rfl, rfl, hjournal,
      houtcome, hafterAlike⟩
  · intro v path
    cases hresolve : v.resolve path with
    | ok nested =>
        refine Cuts.of_still (.ok nested) (fun state => ?_) fun state => ?_
        · show (Traced.lift (Run.ofExcept (v.resolve path))).on state = _
          rw [hresolve]
          rfl
        · show (Traced.lift (Run.ofExcept (v.resolve path))).on state = _
          rw [hresolve]
          rfl
    | error e =>
        refine Cuts.of_still (.error (.raised e)) (fun state => ?_) fun state => ?_
        · show (Traced.lift (Run.ofExcept (v.resolve path))).on state = _
          rw [hresolve]
          rfl
        · show (Traced.lift (Run.ofExcept (v.resolve path))).on state = _
          rw [hresolve]
          rfl
  · intro label expected v description state other hsame halike
    obtain ⟨after, hreport, hafter, hdiffers⟩ :=
      exists_report_collecting hcollects hsame label expected v description
    have hother := on_report_of_own hown gate label expected v description other.1
    rw [on_tracing_report, on_tracing_report, hreport, hother]
    refine ⟨[.reported (gate.violation label expected v description)], after,
      other.1.recordingAll (gate.recordsOf reporter (gate.violation label expected v description)),
      hafter, rfl, ?_⟩
    rw [cut]
    cases reporter.failure? (gate.violation label expected v description) with
    | some failure =>
        refine ⟨rfl, ?_, rfl⟩
        simp only [reportsIn_reported, List.flatMap_cons, List.flatMap_nil, List.append_nil]
        rfl
    | none =>
        refine ⟨rfl, ?_, rfl, hdiffers.symm.trans ⟨halike.behaviour, halike.registry, ?_⟩⟩
        · simp only [cut, reportsIn_reported, List.flatMap_cons, List.flatMap_nil, List.append_nil]
          rfl
        · exact halike.invocations

/-- What a call under a collector says about the same call under a reporter of the library. -/
theorem exists_trace_of_own (reporter : Reporter) (hown : ∀ v, reporter ≠ .custom v)
    {outcome : Except Failure Unit} {final : Session} {events : List Event} {arguments : Arguments}
    (hcollects : Collects gate.registry collector session)
    (hcollected : (gate.reportingTo (.custom (.callable collector))).trace arguments session =
      (outcome, final, events)) :
    ∃ after,
      (gate.reportingTo reporter).trace arguments session =
        (match (cut reporter.failure? events).2 with
          | none => outcome
          | some failure => .error failure,
          after, (cut reporter.failure? events).1) ∧
      after.journal =
        ((reportsIn (cut reporter.failure? events).1).flatMap (gate.recordsOf reporter)).foldl
          Log.Journal.add session.journal := by
  obtain ⟨found, reached, after, _, hcollecting, hcutting, hjournal, hend⟩ :=
    cuts_inspect hown hcollects arguments (session, []) (session, []) (Lasting.refl session)
      (Alike.refl collector session)
  rw [trace] at hcollected
  rw [hcollected] at hcollecting hend
  rw [List.nil_append] at hcollecting hcutting
  cases hcollecting
  refine ⟨after, ?_, hjournal⟩
  rw [trace]
  refine Prod.ext ?_ hcutting
  cases hcut : (cut reporter.failure? events).2 with
  | none =>
      rw [hcut] at hend
      exact hend.1
  | some failure =>
      rw [hcut] at hend
      exact hend

def IsWarningOf (violation : Violation) (record : Log.Record) : Prop :=
  ∃ written, violation.value.written = .ok written ∧ record = violation.warning written

/-- Among the records of logged violations, the warnings are theirs, one each and in order. -/
theorem forall₂_warnings {violations : List Violation}
    (hwritten : ∀ violation ∈ violations, ∃ written, violation.value.written = .ok written) :
    List.Forall₂ IsWarningOf violations
      ((violations.flatMap (gate.recordsOf .logging)).filter (·.severity = warningSeverity)) := by
  induction violations with
  | nil => exact .nil
  | cons violation rest ih =>
      obtain ⟨written, hviolation⟩ := hwritten violation List.mem_cons_self
      have hrecords : gate.recordsOf .logging violation =
          [gate.failureRecord violation.label violation.expected, violation.warning written] := by
        unfold recordsOf Reporter.records
        rw [hviolation]
      have hfilter : (gate.recordsOf .logging violation).filter (·.severity = warningSeverity) =
          [violation.warning written] := by
        rw [hrecords]
        rfl
      rw [List.flatMap_cons, List.filter_append, hfilter]
      exact .cons ⟨written, hviolation, rfl⟩
        (ih fun later hlater => hwritten later (List.mem_cons_of_mem _ hlater))

/--
A call under the raising and under the logging reporter, told from the same call under a reporter
that collects and returns. Raising cuts the trace after the first report. Logging makes the same
trace and leaves one warning for each report, unless a reported value has no written form: then the
error of writing it is raised in the place of either report.
-/
theorem traces_agree_with_collected {outcome : Except Failure Unit} {final : Session}
    {events : List Event} {arguments : Arguments}
    (hcollects : Collects gate.registry collector session)
    (hcollected : (gate.reportingTo (.custom (.callable collector))).trace arguments session =
      (outcome, final, events)) :
    (reportsIn events = [] →
      ∃ after, (gate.reportingTo .raising).trace arguments session = (outcome, after, events)) ∧
    (∀ front violation rest, events = front ++ .reported violation :: rest →
      reportsIn front = [] →
        ∃ after, (gate.reportingTo .raising).trace arguments session =
          (.error (match violation.value.written with
            | .ok written => .invalidArgument violation written
            | .error e => .raised e), after, front ++ [.reported violation])) ∧
    ((∀ violation ∈ reportsIn events, ∃ written, violation.value.written = .ok written) →
      ∃ (after : Session) (records : List Log.Record),
        (gate.reportingTo .logging).trace arguments session = (outcome, after, events) ∧
        after.journal = records.foldl Log.Journal.add session.journal ∧
        List.Forall₂ IsWarningOf (reportsIn events)
          (records.filter (·.severity = warningSeverity))) ∧
    (∀ front violation rest e, events = front ++ .reported violation :: rest →
      (∀ earlier ∈ reportsIn front, ∃ written, earlier.value.written = .ok written) →
      violation.value.written = .error e →
        ∃ after, (gate.reportingTo .logging).trace arguments session =
          (.error (.raised e), after, front ++ [.reported violation])) := by
  obtain ⟨raised, hraised, _⟩ := exists_trace_of_own .raising nofun hcollects hcollected
  obtain ⟨logged, hlogged, hjournal⟩ :=
    exists_trace_of_own .logging nofun hcollects hcollected
  have hpasses {violation : Violation}
      (hwritten : ∃ written, violation.value.written = .ok written) :
      Reporter.logging.failure? violation = none := by
    obtain ⟨written, hwritten⟩ := hwritten
    simp only [Reporter.failure?, hwritten]
  refine ⟨fun hnone => ⟨raised, ?_⟩, fun front violation rest hevents hfront => ⟨raised, ?_⟩,
    fun hwritten => ?_, fun front violation rest e hevents hfront hfault => ⟨logged, ?_⟩⟩
  · have hcut : cut Reporter.raising.failure? events = (events, none) := by
      apply cut_of_none
      rw [hnone]
      exact fun violation hviolation => absurd hviolation List.not_mem_nil
    rw [hraised, hcut]
  · have hcut : cut Reporter.raising.failure? events =
        (front ++ [.reported violation], Reporter.raising.failure? violation) := by
      rw [hevents]
      apply cut_of_first _ rfl
      rw [hfront]
      exact fun earlier hearlier => absurd hearlier List.not_mem_nil
    rw [hraised, hcut]
    rfl
  · have hcut : cut Reporter.logging.failure? events = (events, none) :=
      cut_of_none fun violation hviolation => hpasses (hwritten violation hviolation)
    rw [hcut] at hlogged hjournal
    exact ⟨logged, _, hlogged, hjournal, forall₂_warnings hwritten⟩
  · have hcut : cut Reporter.logging.failure? events =
        (front ++ [.reported violation], some (.raised e)) := by
      rw [hevents]
      apply cut_of_first fun earlier hearlier => hpasses (hfront earlier hearlier)
      simp only [Reporter.failure?, hfault]
    rw [hlogged, hcut]

end Gate

end Reporters

open scoped Standard

namespace Gate

def oneText : Gate where
  function := "f"
  outline := [⟨"String", "x", "", []⟩]

/-- An empty value where a text is due, under each reporter. -/
theorem traces_of_empty_value :
    (∃ after, (oneText.reportingTo .raising).trace ⟨[.null], []⟩ {} =
      (.error (.invalidArgument ⟨"f", "x", "String", .null, ""⟩ "None"), after,
        [.checked "String" .null, .reported ⟨"f", "x", "String", .null, ""⟩])) ∧
    ∃ after, (oneText.reportingTo .logging).trace ⟨[.null], []⟩ {} =
      (.ok (), after, [.checked "String" .null, .reported ⟨"f", "x", "String", .null, ""⟩]) := by
  have hcollects : Collects oneText.registry default {} :=
    { returns := fun violation => ⟨default, rfl, nofun, fun _ _ => ⟨.null, rfl⟩⟩
      apart := fun tag predicate h =>
        absurd h (Registry.constraint?_builtin_ne_custom tag (.callable predicate))
      unnoticed := fun tag predicate h =>
        absurd h (Registry.constraint?_builtin_ne_custom tag (.callable predicate)) }
  have hcollected : ∃ final,
      (oneText.reportingTo (.custom (.callable default))).trace ⟨[.null], []⟩ {} =
        (.ok (), final, [.checked "String" .null, .reported ⟨"f", "x", "String", .null, ""⟩]) :=
    ⟨_, rfl⟩
  obtain ⟨final, hcollected⟩ := hcollected
  obtain ⟨_, hraising, hlogging, _⟩ := traces_agree_with_collected hcollects hcollected
  refine ⟨hraising [.checked "String" .null] ⟨"f", "x", "String", .null, ""⟩ [] rfl rfl, ?_⟩
  obtain ⟨after, _, htrace, _⟩ := hlogging fun violation hviolation => by
    rw [List.mem_singleton.mp hviolation]
    exact ⟨"None", rfl⟩
  exact ⟨after, htrace⟩

/-- A number that is too long to be written is collected, but neither raised nor logged. -/
theorem unwritten_is_collected_only :
    ((oneText.reportingTo (.custom (.callable default))).pass
      ⟨[.int (Nat.pow 10 Number.digitLimit : Nat)], []⟩ |>.on {}).1 = .ok () ∧
    ((oneText.reportingTo .raising).pass
      ⟨[.int (Nat.pow 10 Number.digitLimit : Nat)], []⟩ |>.on {}).1 =
        .error (.raised Value.tooManyDigits) ∧
    ((oneText.reportingTo .logging).pass
      ⟨[.int (Nat.pow 10 Number.digitLimit : Nat)], []⟩ |>.on {}).1 =
        .error (.raised Value.tooManyDigits) := by
  generalize hn : ((Nat.pow 10 Number.digitLimit : Nat) : Int) = n
  have hwritten : (Value.int n).written = .error Value.tooManyDigits := by
    rw [Value.written, Value.writtenForm, Value.intText, ← hn, Int.natAbs_natCast]
    exact if_pos (Nat.le_refl _)
  have hfails (reporter : Reporter) (hown : ∀ v, reporter ≠ .custom v) {failure : Failure}
      (h : reporter.failure? (oneText.violation "x" "String" (.int n) "") = some failure) :
      ((oneText.reportingTo reporter).pass ⟨[.int n], []⟩ |>.on {}).1 = .error failure := by
    have hreport := on_report_of_own hown oneText "x" "String" (.int n) "" {}
    rw [h] at hreport
    show (((oneText.reportingTo reporter).report "x" "String" (.int n) "" >>= fun _ => pure ()).on
      {}).1 = _
    rw [Run.on_bind_of_error hreport]
  have hfault : (oneText.violation "x" "String" (.int n) "").value.written =
      .error Value.tooManyDigits := hwritten
  refine ⟨rfl, hfails .raising nofun ?_, hfails .logging nofun ?_⟩
  · simp only [Reporter.failure?, hfault]
  · simp only [Reporter.failure?, hfault]

end Gate

end CallGuard
