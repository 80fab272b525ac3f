import CallGuard.Proofs.Gate.Alongside
import CallGuard.Proofs.Gate.Lines
import CallGuard.Standard.Platform
import Mathlib.Logic.Relation

/-!
# Gates bind late and keep nothing

Gates are built and called, and predicates are registered and forgotten, in any order. All that a
gate keeps of this is the plan that it was built from. So what a call of it comes to is settled by
the registry and the reporter at the time of the call. When the gate was built, what was called
before, and what became of other registries do not matter.
-/

namespace CallGuard

open Session

/-- What a gate is built from. -/
structure Plan where
  function : String
  lines : List Value
  registry : Option RegistryId := none
  reporter : Option Reporter := none

namespace Plan

def gate (plan : Plan) : Gate :=
  .ofLines plan.function plan.lines plan.registry plan.reporter

variable [Platform]

def build (plan : Plan) : Run Gate :=
  Gate.build plan.function plan.lines plan.registry plan.reporter

end Plan

/-- A session and the gates that were built in it, each with its plan. -/
structure Workshop where
  session : Session
  gates : List (Plan × Gate) := []

namespace Workshop

/-- Callables go on doing what they do, and every new gate is the one of its plan. -/
structure Kept (shop after : Workshop) : Prop where
  behaviour : after.session.behaviour = shop.session.behaviour
  gates : ∀ entry ∈ after.gates, entry ∈ shop.gates ∨ entry.2 = entry.1.gate

variable {shop after : Workshop}

theorem Kept.of_same (hbehaviour : after.session.behaviour = shop.session.behaviour)
    (hgates : after.gates = shop.gates) : shop.Kept after :=
  ⟨hbehaviour, fun _ hentry => Or.inl (hgates ▸ hentry)⟩

variable [Platform]

inductive Step (shop : Workshop) : Workshop → Prop
  | build {plan : Plan} {gate : Gate} {built : Session}
      (h : plan.build.on shop.session = (.ok gate, built)) :
      Step shop ⟨built, (plan, gate) :: shop.gates⟩
  | refuse {plan : Plan} {failure : Failure} {after : Session}
      (h : plan.build.on shop.session = (.error failure, after)) : Step shop ⟨after, shop.gates⟩
  | call {plan : Plan} {gate : Gate} (h : (plan, gate) ∈ shop.gates) (arguments : Arguments) :
      Step shop ⟨((gate.pass arguments).on shop.session).2, shop.gates⟩
  | create (registry : Registry) :
      Step shop ⟨((Registry.create registry).on shop.session).2, shop.gates⟩
  | register (place : Option RegistryId) (tag : Value) (predicate : Predicate) :
      Step shop ⟨((Registry.registerIn place tag predicate).on shop.session).2, shop.gates⟩
  | reset (place : Option RegistryId) :
      Step shop ⟨((Registry.resetIn place).on shop.session).2, shop.gates⟩

abbrev History : Workshop → Workshop → Prop :=
  Relation.ReflTransGen Step

end Workshop

/-! ### Changing a registry -/

/-- Only the registry at a place changes, and the journal. -/
structure Session.Administered (place : Option RegistryId) (before after : Session) : Prop where
  behaviour : after.behaviour = before.behaviour
  invocations : after.invocations = before.invocations
  reporter : after.reporter = before.reporter
  settings : after.settings = before.settings
  environment : after.environment = before.environment
  files : after.files = before.files
  workingDirectory : after.workingDirectory = before.workingDirectory
  elsewhere : ∀ other, other ≠ place → after.registry other = before.registry other

section Administration

variable {place : Option RegistryId} {before after : Session}

theorem Session.registry_setRegistry_of_ne {other : Option RegistryId} (h : other ≠ place)
    (session : Session) (registry : Registry) :
    (session.setRegistry place registry).registry other = session.registry other := by
  cases place with
  | none =>
      cases other with
      | none => exact absurd rfl h
      | some other => rfl
  | some place =>
      cases other with
      | none => rfl
      | some other =>
          have hne : place ≠ other := fun heq => h (heq ▸ rfl)
          simp [Session.registry, setRegistry, Array.getElem?_setIfInBounds_ne hne]

theorem Session.administered_setRegistry (place : Option RegistryId) (session : Session)
    (registry : Registry) : session.Administered place (session.setRegistry place registry) := by
  have helsewhere (other : Option RegistryId) (h : other ≠ place) :=
    registry_setRegistry_of_ne h session registry
  cases place with
  | none => exact ⟨rfl, rfl, rfl, rfl, rfl, rfl, rfl, helsewhere⟩
  | some place => exact ⟨rfl, rfl, rfl, rfl, rfl, rfl, rfl, helsewhere⟩

variable [Platform]

/-- A registry is administered: a predicate is registered in it, or it is reset. -/
inductive Session.Administers (place : Option RegistryId) (before : Session) : Session → Prop
  | register (tag : Value) (predicate : Predicate) :
      Administers place before ((Registry.registerIn place tag predicate).on before).2
  | reset : Administers place before ((Registry.resetIn place).on before).2

instance (place : Option RegistryId) : Lasting (Administered place) where
  refl _ := ⟨rfl, rfl, rfl, rfl, rfl, rfl, rfl, fun _ _ => rfl⟩
  trans first second :=
    ⟨second.behaviour.trans first.behaviour, second.invocations.trans first.invocations,
      second.reporter.trans first.reporter, second.settings.trans first.settings,
      second.environment.trans first.environment, second.files.trans first.files,
      second.workingDirectory.trans first.workingDirectory,
      fun other hother => (second.elsewhere other hother).trans (first.elsewhere other hother)⟩

theorem Registry.registerIn_keeps (place : Option RegistryId) (tag : Value)
    (predicate : Predicate) : (registerIn place tag predicate).Keeps (Administered place) := by
  refine Run.Keeps.get.bind fun session => ?_
  dsimp only
  split
  · exact Run.Keeps.throw _
  · refine Run.Keeps.bind (fun session => administered_setRegistry place session _) fun _ => ?_
    exact fun session => ⟨rfl, rfl, rfl, rfl, rfl, rfl, rfl, fun _ _ => rfl⟩

theorem Session.Administers.administered (h : before.Administers place after) :
    before.Administered place after := by
  cases h with
  | register tag predicate => exact Registry.registerIn_keeps place tag predicate before
  | reset => exact administered_setRegistry place before .builtin

theorem Session.administered_of_history
    (h : Relation.ReflTransGen (Administers place) before after) :
    before.Administered place after := by
  induction h with
  | refl => exact Lasting.refl before
  | tail _ hstep ih => exact Lasting.trans ih hstep.administered

end Administration

section

variable [Platform]

/-! ### Histories of gates -/

namespace Workshop

variable {shop after : Workshop}

theorem Step.kept (h : Step shop after) : shop.Kept after := by
  cases h with
  | @build plan gate built h =>
      have hbehaviour := ((Gate.build_keeps _ _ _ _).of_on h).behaviour
      refine ⟨hbehaviour, fun entry hentry => ?_⟩
      rcases List.mem_cons.mp hentry with rfl | hold
      · exact Or.inr (Gate.eq_of_build h).1
      · exact Or.inl hold
  | @refuse plan failure refused h =>
      exact .of_same ((Gate.build_keeps _ _ _ _).of_on h).behaviour rfl
  | @call plan gate h arguments => exact .of_same (gate.pass_keeps arguments _).behaviour rfl
  | create registry => exact .of_same rfl rfl
  | register place tag predicate =>
      exact .of_same (Registry.registerIn_keeps place tag predicate _).behaviour rfl
  | reset place => exact .of_same (administered_setRegistry place _ .builtin).behaviour rfl

theorem History.kept (h : History shop after) : shop.Kept after := by
  induction h with
  | refl => exact .of_same rfl rfl
  | tail _ hstep ih =>
      have hkept := hstep.kept
      refine ⟨hkept.behaviour.trans ih.behaviour, fun entry hentry => ?_⟩
      rcases hkept.gates entry hentry with hold | hnew
      · exact ih.gates entry hold
      · exact Or.inr hnew

/-- A gate that exists after a history is the gate of its plan. -/
theorem History.gate_eq {start : Session} {plan : Plan} {gate : Gate}
    (h : History ⟨start, []⟩ after) (hgate : (plan, gate) ∈ after.gates) : gate = plan.gate :=
  (h.kept.gates (plan, gate) hgate).resolve_left List.not_mem_nil

end Workshop

/-! ### The shared reporter over histories -/

def Session.Finds (reporter : Reporter) (before after : Session) : Prop :=
  (Reporter.current.on before).1 = .ok reporter → (Reporter.current.on after).1 = .ok reporter

section Finding

variable {reporter : Reporter} {before after : Session}

instance : Lasting (Finds reporter) where
  refl _ := id
  trans first second := second ∘ first

theorem Session.Quiet.finds (h : before.Quiet after) : before.Finds reporter after :=
  (Reporter.fst_on_current_of_quiet h).trans

theorem Session.Administered.finds {place : Option RegistryId}
    (h : before.Administered place after) : before.Finds reporter after :=
  (Reporter.fst_on_current_congr h.reporter h.settings h.environment h.files
    h.workingDirectory).trans

theorem Reporter.current_finds (reporter : Reporter) :
    Reporter.current.Keeps (Finds reporter) := by
  intro session hfound
  have hheld := (reporter_of_current (Prod.ext hfound rfl)).1
  rw [on_current_of_some hheld]

theorem Gate.pass_finds (gate : Gate) (arguments : Arguments) (reporter : Reporter) :
    (gate.pass arguments).Keeps (Finds reporter) := by
  have hquiet {α : Type} {operation : Run α} (h : operation.Keeps Quiet) :
      operation.Keeps (Finds reporter) := h.mono fun _ _ hkept => hkept.finds
  refine inspect_keeps ?_ ?_ ?_ gate arguments
  · exact fun tag v => hquiet (Registry.checkIn_keeps _ tag v)
  · exact fun v path => Run.Keeps.ofExcept _
  · intro label expected v description
    refine (hquiet (Run.log_keeps _ _ _ _)).bind fun _ => Run.Keeps.bind ?_ fun found => ?_
    · rw [reporterInForce]
      split
      · exact Run.Keeps.pure _
      · exact Reporter.current_finds reporter
    · exact (hquiet (found.report_keeps _)).bind fun _ => Run.Keeps.pure _

/-- A shared reporter that can be looked up at first is the same one after any history. -/
theorem Workshop.History.finds {shop now : Workshop} (h : History shop now) :
    shop.session.Finds reporter now.session := by
  induction h with
  | refl => exact Lasting.refl shop.session
  | @tail between after _ hstep ih =>
      apply Lasting.trans ih
      cases hstep with
      | build hbuild => exact ((Gate.build_keeps _ _ _ _).of_on hbuild).finds
      | refuse hbuild => exact ((Gate.build_keeps _ _ _ _).of_on hbuild).finds
      | @call plan gate hgate arguments => exact gate.pass_finds arguments reporter _
      | create registry =>
          have hcreated :
              (Reporter.current.on ((Registry.create registry).on between.session).2).1 =
                (Reporter.current.on between.session).1 :=
            Reporter.fst_on_current_congr rfl rfl rfl rfl rfl
          exact hcreated.trans
      | register place tag predicate =>
          exact (Registry.registerIn_keeps place tag predicate _).finds
      | reset place => exact (administered_setRegistry place _ .builtin).finds

end Finding

/-! ### Calls after different histories -/

/-- A callable that answers a single value by itself, whatever was called before. -/
def Session.IsFunction (session : Session) (c : Callable) : Prop :=
  ∀ past v, session.behaviour c.id past ⟨[v], []⟩ = session.behaviour c.id [] ⟨[v], []⟩

/--
Two plans of one gate, as far as calls can tell: the registries that they check in have the same
predicates, which are functions, and the reporters in force are the same and answer alike.
-/
structure Plan.Matches (plan twin : Plan) (start first second : Session) : Prop where
  function : twin.function = plan.function
  lines : twin.lines = plan.lines
  reporter : twin.reporter = plan.reporter
  current : plan.reporter = none → (Reporter.current.on second).1 = (Reporter.current.on first).1
  constraints : ∀ tag, (second.registry twin.registry).constraint? tag =
    (first.registry plan.registry).constraint? tag
  functions : ∀ tag c, (first.registry plan.registry).constraint? tag =
    some (.custom (.callable c)) → start.IsFunction c
  replies : ∀ c, (plan.gate.reporterInForce.on first).1 = .ok (.custom (.callable c)) →
    ∀ violation : Violation, c.AnswersAlike ⟨violation.arguments, []⟩ first second

theorem Plan.Matches.alongside {plan twin : Plan} {start first second : Session}
    (h : plan.Matches twin start first second) (hfirst : first.behaviour = start.behaviour)
    (hsecond : second.behaviour = start.behaviour) :
    plan.gate.Alongside twin.gate first second where
  constraints := h.constraints
  predicates tag c hconstraint v recent := by
    have hfunction := h.functions tag c hconstraint
    rw [hfirst, hsecond, hfunction (recent ++ second.invocations),
      hfunction (recent ++ first.invocations)]
  inForce := by
    have htwin : twin.gate.reporter = plan.gate.reporter := h.reporter
    rw [Gate.reporterInForce, Gate.reporterInForce, htwin]
    cases hreporter : plan.gate.reporter with
    | some reporter => rfl
    | none => exact h.current hreporter
  replies := h.replies

/--
A gate that exists after a history, called. Take any other history from the same start, and a gate
that is built there from the same function, lines and reporter. If what both find at the time of the
call is the same, the calls come to the same end and make the same checks and reports. A registry
that is not the one of the gate can be changed at will, and a shared reporter that could be looked
up at the start is the same after any history.
-/
theorem calls_agree_over_histories {start : Session} {now : Workshop} {plan : Plan} {gate : Gate}
    (hnow : Workshop.History ⟨start, []⟩ now) (hgate : (plan, gate) ∈ now.gates)
    (arguments : Arguments) :
    (∀ (other : Workshop) (twinPlan : Plan) (twin : Gate), Workshop.History ⟨start, []⟩ other →
      (twinPlan, twin) ∈ other.gates →
      plan.Matches twinPlan start now.session other.session →
      ((twin.pass arguments).on other.session).1 = ((gate.pass arguments).on now.session).1 ∧
      (twin.trace arguments other.session).2.2 = (gate.trace arguments now.session).2.2) ∧
    (∀ (place : Option RegistryId) (changed : Session), place ≠ plan.registry →
      Relation.ReflTransGen (Administers place) now.session changed →
      ((gate.pass arguments).on changed).1 = ((gate.pass arguments).on now.session).1 ∧
      (gate.trace arguments changed).2.2 = (gate.trace arguments now.session).2.2) ∧
    ∀ reporter, (Reporter.current.on start).1 = .ok reporter →
      (Reporter.current.on now.session).1 = .ok reporter := by
  have hplan := hnow.gate_eq hgate
  subst hplan
  refine ⟨fun other twinPlan twin hother htwin hmatches => ?_,
    fun place changed hplace hchanged => ?_, fun reporter => hnow.finds⟩
  · have htwinPlan := hother.gate_eq htwin
    subst htwinPlan
    have houtline : twinPlan.gate.outline = plan.gate.outline :=
      congrArg Outline.ofLines hmatches.lines
    rw [Gate.on_pass_eq_trace, Gate.on_pass_eq_trace]
    exact Gate.trace_alongside hmatches.function houtline
      (hmatches.alongside hnow.kept.behaviour hother.kept.behaviour) arguments
  · have hkept := administered_of_history hchanged
    have halongside : plan.gate.Alongside plan.gate now.session changed := by
      have hregistry := hkept.elsewhere plan.gate.registry (Ne.symm hplace)
      have hanswers (c : Callable) (given : Arguments) :
          c.AnswersAlike given now.session changed := by
        intro recent
        rw [hkept.behaviour, hkept.invocations]
      refine ⟨fun tag => by rw [hregistry], fun _ c _ v => hanswers c _, ?_,
        fun c _ violation => hanswers c _⟩
      rw [Gate.reporterInForce]
      cases plan.gate.reporter with
      | some reporter => rfl
      | none =>
          exact Reporter.fst_on_current_congr hkept.reporter hkept.settings hkept.environment
            hkept.files hkept.workingDirectory
    rw [Gate.on_pass_eq_trace, Gate.on_pass_eq_trace]
    exact Gate.trace_alongside rfl rfl halongside arguments

end

open scoped Standard

def evenPlan : Plan where
  function := "f"
  lines := [.text "\x7bEven\x7d [x]"]
  reporter := some .logging

/-- A gate that was built before its type was known, and one that was built after and called. -/
theorem calls_agree_on_a_late_type :
    ∃ (now other : Workshop) (gate twin : Gate),
      Workshop.History ⟨{}, []⟩ now ∧ (evenPlan, gate) ∈ now.gates ∧
      Workshop.History ⟨{}, []⟩ other ∧ (evenPlan, twin) ∈ other.gates ∧
      ((twin.pass ⟨[.int 1], []⟩).on other.session).1 =
        ((gate.pass ⟨[.int 1], []⟩).on now.session).1 ∧
      (twin.trace ⟨[.int 1], []⟩ other.session).2.2 =
        (gate.trace ⟨[.int 1], []⟩ now.session).2.2 := by
  have hbuilt (session : Session) :
      ∃ built, evenPlan.build.on session = (.ok evenPlan.gate, built) ∧ session.Quiet built :=
    Gate.exists_build (by decide +kernel) none (some .logging) session
  have hregistered (session : Session) :
      ((Registry.registerIn none (.text "Even") (.custom (.callable default))).on
        session).2.registry none =
          (session.registry none).set "Even" (.custom (.callable default)) := rfl
  obtain ⟨built, hbuild, hquiet⟩ := hbuilt {}
  have hnow : Workshop.History ⟨{}, []⟩ _ :=
    .tail (.single (.build hbuild)) (.register none (.text "Even") (.custom (.callable default)))
  obtain ⟨later, hlater, hlaterQuiet⟩ := hbuilt
    ((Registry.registerIn none (.text "Even") (.custom (.callable default))).on {}).2
  have hother : Workshop.History ⟨{}, []⟩ _ :=
    .tail (.tail (.single (.register none (.text "Even") (.custom (.callable default))))
      (.build hlater)) (.call List.mem_cons_self ⟨[.int 1], []⟩)
  have hcalled := evenPlan.gate.pass_keeps ⟨[.int 1], []⟩ later
  refine ⟨_, _, _, _, hnow, List.mem_cons_self, hother, List.mem_cons_self, ?_⟩
  refine (calls_agree_over_histories hnow List.mem_cons_self ⟨[.int 1], []⟩).1 _ _ _ hother
    List.mem_cons_self ⟨rfl, rfl, rfl, nofun, fun tag => ?_, fun _ _ _ _ _ => rfl, nofun⟩
  rw [hcalled.registry, hlaterQuiet.registry]
  show ((Session.registry _ none).constraint? tag) = ((Session.registry _ none).constraint? tag)
  rw [hregistered, hregistered, hquiet.registry]

end CallGuard
