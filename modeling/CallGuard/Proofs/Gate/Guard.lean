import CallGuard.Proofs.Gate.Inspection
import CallGuard.Proofs.Gate.Lines

/-!
# A gate that raises lets exactly the valid calls pass

The lines of a gate put constraints on the arguments of a call: on the argument of each parameter
that they declare, and on what the paths of its properties lead to in it. Under the raising reporter
the first constraint that does not hold ends the call. So a gate passes a call when every constraint
holds, each checked when its turn comes, and fails otherwise. When checks depend on the value alone,
the turns do not matter.
-/

namespace CallGuard

open Declaration Session

namespace Gate

/-! ### The constraints of lines -/

/-- A constraint on a call: a tag for an argument, or for what a path leads to in the argument. -/
structure Constraint where
  argument : Value
  path : Option String
  tag : String

/-- The constraints on an argument by the properties that lines declare for its parameter. -/
def constraintsBelow (name : String) (v : Value) (below : List Value) : List Constraint :=
  below.filterMap fun line =>
    (propertyOn? name line).map fun (path, d) => ⟨v, some path, d.tag⟩

def constraintsOn (d : Declaration) (below : List Value) : Option Value → List Constraint
  | none => []
  | some v => ⟨v, none, d.tag⟩ :: constraintsBelow d.name v below

/-- The constraints of lines, when a number of parameters is declared above them. -/
def constraintsFrom (arguments : Arguments) : Nat → List Value → List Constraint
  | _, [] => []
  | place, line :: below =>
    match rootOn? line with
    | none => constraintsFrom arguments place below
    | some d =>
      constraintsOn d below (argument? arguments place d.name) ++
        constraintsFrom arguments (place + 1) below

/-- The k-th parameter that lines declare, and the lines below its own. -/
def DeclaresAt (lines : List Value) (k : Nat) (d : Declaration) (below : List Value) : Prop :=
  ∃ above line, lines = above ++ line :: below ∧ rootOn? line = some d ∧
    (above.filterMap rootOn?).length = k

section Members

variable {arguments : Arguments} {constraint : Constraint} {line : Value}
  {lines below : List Value} {d root : Declaration} {k : Nat}

theorem not_declaresAt_nil : ¬DeclaresAt [] k d below := by
  rintro ⟨above, line, hlines, _⟩
  cases above with
  | nil => cases hlines
  | cons first above => cases hlines

theorem declaresAt_cons_of_none (h : rootOn? line = none) :
    DeclaresAt (line :: lines) k d below ↔ DeclaresAt lines k d below := by
  constructor
  · rintro ⟨above, own, hlines, hroot, hcount⟩
    cases above with
    | nil =>
        cases hlines
        rw [h] at hroot
        cases hroot
    | cons first above =>
        cases hlines
        rw [List.filterMap_cons_none h] at hcount
        exact ⟨above, own, rfl, hroot, hcount⟩
  · rintro ⟨above, own, rfl, hroot, hcount⟩
    refine ⟨line :: above, own, rfl, hroot, ?_⟩
    rw [List.filterMap_cons_none h, hcount]

theorem declaresAt_cons_of_root (h : rootOn? line = some root) :
    DeclaresAt (line :: lines) k d below ↔
      (k = 0 ∧ d = root ∧ below = lines) ∨ ∃ j, k = j + 1 ∧ DeclaresAt lines j d below := by
  constructor
  · rintro ⟨above, own, hlines, hroot, rfl⟩
    cases above with
    | nil =>
        cases hlines
        rw [h] at hroot
        cases hroot
        exact Or.inl ⟨rfl, rfl, rfl⟩
    | cons first above =>
        cases hlines
        rw [List.filterMap_cons_some h]
        exact Or.inr ⟨_, rfl, above, own, rfl, hroot, rfl⟩
  · rintro (⟨rfl, rfl, rfl⟩ | ⟨j, rfl, above, own, rfl, hroot, rfl⟩)
    · exact ⟨[], line, rfl, h, rfl⟩
    · refine ⟨line :: above, own, rfl, hroot, ?_⟩
      rw [List.filterMap_cons_some h, List.length_cons]

theorem mem_constraintsBelow {name : String} {v : Value} :
    constraint ∈ constraintsBelow name v below ↔
      ∃ line ∈ below, ∃ path e, propertyOn? name line = some (path, e) ∧
        constraint = ⟨v, some path, e.tag⟩ := by
  rw [constraintsBelow, List.mem_filterMap]
  constructor
  · rintro ⟨line, hline, h⟩
    obtain ⟨⟨path, e⟩, hproperty, heq⟩ := Option.map_eq_some_iff.mp h
    exact ⟨line, hline, path, e, hproperty, heq.symm⟩
  · rintro ⟨line, hline, path, e, hproperty, rfl⟩
    exact ⟨line, hline, by rw [hproperty, Option.map_some]⟩

/-- A constraint of lines is one on the argument of a parameter that they declare. -/
theorem mem_constraintsFrom (place : Nat) :
    constraint ∈ constraintsFrom arguments place lines ↔
      ∃ k d below, DeclaresAt lines k d below ∧
        constraint ∈ constraintsOn d below (argument? arguments (place + k) d.name) := by
  induction lines generalizing place with
  | nil =>
      rw [constraintsFrom]
      constructor
      · exact fun h => absurd h List.not_mem_nil
      · rintro ⟨k, d, below, hdeclares, _⟩
        exact absurd hdeclares not_declaresAt_nil
  | cons line rest ih =>
      rw [constraintsFrom]
      cases hroot : rootOn? line with
      | none =>
          simp only [declaresAt_cons_of_none hroot]
          exact ih place
      | some root =>
          simp only [declaresAt_cons_of_root hroot]
          rw [List.mem_append, ih (place + 1)]
          constructor
          · rintro (h | ⟨k, d, below, hdeclares, h⟩)
            · exact ⟨0, root, rest, Or.inl ⟨rfl, rfl, rfl⟩, h⟩
            · refine ⟨k + 1, d, below, Or.inr ⟨k, rfl, hdeclares⟩, ?_⟩
              rw [Nat.add_comm k 1, ← Nat.add_assoc]
              exact h
          · rintro ⟨_, d, below, ⟨rfl, rfl, rfl⟩ | ⟨k, rfl, hdeclares⟩, h⟩
            · exact Or.inl h
            · refine Or.inr ⟨k, d, below, hdeclares, ?_⟩
              rw [Nat.add_assoc, Nat.add_comm 1 k]
              exact h

end Members

/-! ### Passing and failing -/

theorem allM_append {α : Type} (p : α → Run Bool) (as bs : List α) :
    (as ++ bs).allM p = (do if ← as.allM p then bs.allM p else pure false) := by
  induction as with
  | nil => rw [List.nil_append, List.allM_nil, pure_bind, if_pos rfl]
  | cons a as ih =>
      rw [List.cons_append, List.allM_cons, List.allM_cons, bind_assoc, ih]
      apply bind_congr
      intro yes
      cases yes with
      | true => rfl
      | false => rfl

/-- A run that passes whenever a question is answered with yes, and fails otherwise. -/
def Decides (passing : Run Unit) (question : Run Bool) : Prop :=
  ∀ session, match question.on session with
    | (.ok true, after) => passing.on session = (.ok (), after)
    | (.ok false, after) => ∃ failure journal,
      passing.on session = (.error failure, { after with journal })
    | (.error failure, after) => passing.on session = (.error failure, after)

namespace Decides

variable {first second : Run Unit} {question further : Run Bool}

theorem trivial : Decides (pure ()) (pure true) := fun _ => rfl

theorem and (hfirst : Decides first question) (hsecond : Decides second further) :
    Decides (do first; second) (do if ← question then further else pure false) := by
  intro session
  have hanswer := hfirst session
  rw [Run.on_bind]
  rcases hquestion : question.on session with ⟨answer, after⟩
  rw [hquestion] at hanswer
  cases answer with
  | error failure => exact Run.on_bind_of_error hanswer _
  | ok yes =>
      cases yes with
      | true =>
          rw [Run.on_bind_of_ok hanswer]
          exact hsecond after
      | false =>
          obtain ⟨failure, journal, hfails⟩ := hanswer
          exact ⟨failure, journal, Run.on_bind_of_error hfails _⟩

theorem after_bind {α : Type} (found : Run α) {passing : α → Run Unit} {question : α → Run Bool}
    (h : ∀ a, Decides (passing a) (question a)) :
    Decides (found >>= passing) (found >>= question) := by
  intro session
  rw [Run.on_bind, Run.on_bind]
  rcases found.on session with ⟨outcome, after⟩
  cases outcome with
  | ok a => exact h a after
  | error failure => rfl

theorem append {α : Type} {p : α → Run Bool} {as bs : List α} (hfirst : Decides first (as.allM p))
    (hsecond : Decides second (bs.allM p)) : Decides (do first; second) ((as ++ bs).allM p) := by
  rw [allM_append]
  exact hfirst.and hsecond

end Decides

variable [Platform]

def Constraint.value (constraint : Constraint) : Except Raised Value :=
  match constraint.path with
  | none => .ok constraint.argument
  | some path => constraint.argument.resolve path

/-- Whether a constraint holds, as a registry of the session is now. -/
def Constraint.holds (registry : Option RegistryId) (constraint : Constraint) : Run Bool := do
  let v ← Run.ofExcept constraint.value
  Registry.checkIn registry constraint.tag v

section Raising

variable {gate : Gate} {arguments : Arguments}

theorem exists_report_raising (h : gate.reporter = some .raising) (label expected : String)
    (v : Value) (description : String) (session : Session) :
    ∃ failure journal, (gate.report label expected v description).on session =
      (.error failure, { session with journal }) := by
  rw [on_report h]
  unfold Reporter.report Reporter.reportAs
  cases (gate.violation label expected v description).value.written with
  | ok written => exact ⟨_, _, rfl⟩
  | error e => exact ⟨_, _, rfl⟩

/-- A check with a report that raises decides whether the check and what follows it hold. -/
theorem decides_check (h : gate.reporter = some .raising) (label tag description : String)
    (v : Value) {passing : Run Unit} {question : Run Bool} (hpassing : Decides passing question) :
    Decides
      (do
        if ← gate.inspection.check tag v then passing
        else gate.inspection.report label tag v description)
      (do if ← Registry.checkIn gate.registry tag v then question else pure false) := by
  refine Decides.after_bind _ fun passes => ?_
  cases passes with
  | true => exact hpassing
  | false => exact exists_report_raising h label tag v description

theorem decides_property (h : gate.reporter = some .raising) (v : Value)
    (constraint : PropertyConstraint) :
    Decides (inspectProperty gate.inspection v constraint)
      ([(⟨v, some constraint.path, constraint.tag⟩ : Constraint)].allM
        (Constraint.holds gate.registry)) := by
  rw [List.allM_cons, List.allM_nil, Constraint.holds, bind_assoc]
  refine Decides.after_bind _ fun nested => ?_
  exact decides_check h constraint.label constraint.tag constraint.description nested
    Decides.trivial

theorem decides_below (h : gate.reporter = some .raising) (name : String) (v : Value)
    (below : List Value) :
    Decides (inspectProperties gate.inspection v (Outline.propertiesOn name below))
      ((constraintsBelow name v below).allM (Constraint.holds gate.registry)) := by
  induction below with
  | nil => exact Decides.trivial
  | cons line below ih =>
      cases hproperty : propertyOn? name line with
      | none =>
          have hskip : constraintsBelow name v (line :: below) = constraintsBelow name v below := by
            rw [constraintsBelow, List.filterMap_cons_none (by rw [hproperty]; rfl)]
            rfl
          rw [Outline.propertiesOn_cons_of_none hproperty, hskip]
          exact ih
      | some found =>
          obtain ⟨path, d⟩ := found
          have hnext : constraintsBelow name v (line :: below) =
              [⟨v, some path, d.tag⟩] ++ constraintsBelow name v below := by
            rw [constraintsBelow, List.filterMap_cons_some (by rw [hproperty]; rfl)]
            rfl
          rw [Outline.propertiesOn_cons_of_property hproperty, inspectProperties, hnext]
          exact (decides_property h v ⟨name, path, d.tag, d.description, d.depth⟩).append ih

theorem decides_argument (h : gate.reporter = some .raising) (d : Declaration)
    (below : List Value) (v : Value) :
    Decides
      (inspectArgument gate.inspection
        ⟨d.tag, d.name, d.description, Outline.propertiesOn d.name below⟩ v)
      ((constraintsOn d below (some v)).allM (Constraint.holds gate.registry)) := by
  rw [constraintsOn, List.allM_cons]
  exact decides_check h d.name d.tag d.description v (decides_below h d.name v below)

theorem decides_from (h : gate.reporter = some .raising) (lines : List Value) (place : Nat) :
    Decides (inspectFrom gate.inspection arguments place (Outline.ofLines lines))
      ((constraintsFrom arguments place lines).allM (Constraint.holds gate.registry)) := by
  induction lines generalizing place with
  | nil => exact Decides.trivial
  | cons line below ih =>
      rw [constraintsFrom]
      cases hroot : rootOn? line with
      | none =>
          rw [Outline.ofLines_cons_of_none hroot]
          exact ih place
      | some d =>
          rw [Outline.ofLines_cons_of_root hroot, inspectFrom]
          simp only
          cases argument? arguments place d.name with
          | none => exact ih (place + 1)
          | some v => exact (decides_argument h d below v).append (ih (place + 1))

/-- A gate of lines that raises passes a call just when the constraints of the lines hold. -/
theorem decides_pass {lines : List Value} (h : gate.reporter = some .raising)
    (houtline : gate.outline = Outline.ofLines lines) (arguments : Arguments) :
    Decides (gate.pass arguments)
      ((constraintsFrom arguments 0 lines).allM (Constraint.holds gate.registry)) := by
  rw [pass, inspect, houtline]
  exact decides_from h lines 0

end Raising

/-! ### Checks that depend on the value alone -/

theorem Constraint.holds_keeps (registry : Option RegistryId) (constraint : Constraint) :
    (constraint.holds registry).Keeps Quiet :=
  (Run.Keeps.ofExcept _).bind fun v => Registry.checkIn_keeps registry constraint.tag v

def Constraint.IsValid (check : String → Value → Except Failure Bool) (constraint : Constraint) :
    Prop :=
  ∃ v, constraint.value = .ok v ∧ check constraint.tag v = .ok true

/-- When checks depend on the value alone, constraints hold in turn if and only if all are valid. -/
theorem allM_holds_iff {registry : Option RegistryId} {base : Session}
    {check : String → Value → Except Failure Bool}
    (hcheck : ∀ now, base.SameStores now → ∀ tag v,
      ((Registry.checkIn registry tag v).on now).1 = check tag v)
    (constraints : List Constraint) {session : Session} (hsame : base.SameStores session) :
    ((constraints.allM (Constraint.holds registry)).on session).1 = .ok true ↔
      ∀ constraint ∈ constraints, constraint.IsValid check := by
  induction constraints generalizing session with
  | nil => simp
  | cons constraint rest ih =>
      have hone : ((constraint.holds registry).on session).1 = .ok true ↔
          constraint.IsValid check := by
        rw [Constraint.holds, Constraint.IsValid]
        cases constraint.value with
        | error e => simp [Run.on_bind]
        | ok v => simp [Run.on_bind, hcheck session hsame]
      have hkept := Lasting.trans hsame (constraint.holds_keeps registry session).toSameStores
      rw [List.allM_cons, List.forall_mem_cons, ← hone, Run.on_bind]
      rcases hrun : (constraint.holds registry).on session with ⟨answer, after⟩
      rw [hrun] at hkept
      cases answer with
      | error failure => simp
      | ok yes =>
          cases yes with
          | true => simp [ih hkept]
          | false => simp

/--
The arguments of a call are what lines declare: the argument of the k-th parameter passes the check
of its tag, and what the paths of its properties lead to passes the checks of theirs.
-/
def Valid (check : String → Value → Except Failure Bool) (lines : List Value)
    (arguments : Arguments) : Prop :=
  ∀ k d below v, DeclaresAt lines k d below → argument? arguments k d.name = some v →
    check d.tag v = .ok true ∧
    ∀ line ∈ below, ∀ path e, propertyOn? d.name line = some (path, e) →
      ∃ nested, v.resolve path = .ok nested ∧ check e.tag nested = .ok true

theorem valid_iff {check : String → Value → Except Failure Bool} {lines : List Value}
    {arguments : Arguments} :
    Valid check lines arguments ↔
      ∀ constraint ∈ constraintsFrom arguments 0 lines, constraint.IsValid check := by
  constructor
  · intro h constraint hmem
    obtain ⟨k, d, below, hdeclares, hon⟩ := (mem_constraintsFrom 0).mp hmem
    rw [Nat.zero_add] at hon
    cases hsupplied : argument? arguments k d.name with
    | none =>
        rw [hsupplied] at hon
        cases hon
    | some v =>
        obtain ⟨hchecked, hbelow⟩ := h k d below v hdeclares hsupplied
        rw [hsupplied] at hon
        rcases List.mem_cons.mp hon with rfl | hon
        · exact ⟨v, rfl, hchecked⟩
        · obtain ⟨line, hline, path, e, hproperty, rfl⟩ := mem_constraintsBelow.mp hon
          exact hbelow line hline path e hproperty
  · intro h k d below v hdeclares hsupplied
    have hvalid (constraint : Constraint) (hon : constraint ∈ constraintsOn d below (some v)) :
        constraint.IsValid check := by
      refine h constraint ((mem_constraintsFrom 0).mpr ⟨k, d, below, hdeclares, ?_⟩)
      rw [Nat.zero_add, hsupplied]
      exact hon
    constructor
    · obtain ⟨w, hw, hchecked⟩ := hvalid ⟨v, none, d.tag⟩ List.mem_cons_self
      cases hw
      exact hchecked
    · intro line hline path e hproperty
      apply hvalid ⟨v, some path, e.tag⟩
      apply List.mem_cons_of_mem
      exact mem_constraintsBelow.mpr ⟨line, hline, path, e, hproperty, rfl⟩

end Gate

end CallGuard
