import CallGuard.Proofs.Gate.Lines
import CallGuard.Proofs.Parameter.Placing
import CallGuard.Standard.Platform
import Mathlib.Logic.Relation

/-!
# Outlines depend on projections

The outline of a list of entries does not depend on how the declarations of different parameters are
interleaved. It is settled by the root declarations in their order, and for each name by the
declarations of that name in theirs. Entries that are left out could as well be absent, and an
outline that is written out as declarations again is read back.
-/

namespace CallGuard

/-- The property that a declaration declares, of the parameter that it names. -/
def Declaration.constraint? (d : Declaration) : Option PropertyConstraint :=
  d.path.map fun path => ⟨d.name, path, d.tag, d.description, d.depth⟩

/-- The properties declared below the first root declaration of a list. -/
def Declaration.constraintsBelow (declarations : List Declaration) : List PropertyConstraint :=
  (declarations.dropWhile fun d => !d.isRoot).filterMap Declaration.constraint?

namespace Entry

def declaration? : Entry → Option Declaration
  | .declaration d => some d
  | _ => none

def roots (entries : List Entry) : List Declaration :=
  entries.filterMap root?

/-- The declarations with a name, of the parameter and of its properties. -/
def named (name : String) (entries : List Entry) : List Declaration :=
  (entries.filterMap declaration?).filter fun d => d.name = name

/--
An entry that makes no difference below others: it holds no declaration, or that of a property whose
parameter none of them declares.
-/
def IsIdleBelow (above : List Entry) (entry : Entry) : Prop :=
  entry.declaration? = none ∨
    ∃ d, entry = .declaration d ∧ d.path.isSome ∧ d.name ∉ rootNames above

/-- Taking one entry away that makes no difference where it stands. -/
inductive Drops : List Entry → List Entry → Prop
  | drop {above : List Entry} {entry : Entry} (h : entry.IsIdleBelow above) (below : List Entry) :
      Drops (above ++ entry :: below) (above ++ below)

variable {known : List String} {entries others rest above below : List Entry} {entry : Entry}
  {d : Declaration} {name : String}

theorem declaration?_of_root? (h : entry.root? = some d) : entry.declaration? = some d := by
  obtain ⟨rfl, _⟩ := eq_declaration_of_root? h
  rfl

theorem isRoot_of_root? (h : entry.root? = some d) : d.isRoot = true := by
  obtain ⟨_, hpath⟩ := eq_declaration_of_root? h
  rw [Declaration.isRoot, hpath]
  rfl

theorem isRoot_of_root?_eq_none (h : entry.root? = none) (hd : entry.declaration? = some d) :
    d.isRoot = false := by
  cases entry with
  | declaration e =>
      cases hd
      cases hroot : d.isRoot with
      | false => rfl
      | true =>
          rw [root?, if_pos hroot] at h
          cases h
  | _ => cases hd

theorem roots_cons_of_root? (h : entry.root? = some d) :
    roots (entry :: rest) = d :: roots rest := by
  rw [roots, List.filterMap_cons_some h, roots]

theorem roots_cons_of_none (h : entry.root? = none) : roots (entry :: rest) = roots rest := by
  rw [roots, List.filterMap_cons_none h, roots]

theorem named_cons_of_eq (hd : entry.declaration? = some d) (hname : d.name = name) :
    named name (entry :: rest) = d :: named name rest := by
  rw [named, List.filterMap_cons_some hd, List.filter_cons_of_pos (by simpa using hname), named]

theorem named_cons_of_ne (hd : ∀ d, entry.declaration? = some d → d.name ≠ name) :
    named name (entry :: rest) = named name rest := by
  cases hentry : entry.declaration? with
  | none => rw [named, List.filterMap_cons_none hentry, named]
  | some d =>
      rw [named, List.filterMap_cons_some hentry,
        List.filter_cons_of_neg (by simpa using hd d hentry), named]

/-- Which name is repeated first is settled by the root declarations. -/
theorem repeated?_roots (known : List String) (entries : List Entry) :
    repeated? known entries = repeated? known ((roots entries).map .declaration) := by
  induction entries generalizing known with
  | nil => rfl
  | cons entry rest ih =>
      cases hroot : entry.root? with
      | none => rw [repeated?_cons_of_none hroot, roots_cons_of_none hroot, ih]
      | some d =>
          obtain ⟨rfl, _⟩ := eq_declaration_of_root? hroot
          rw [roots_cons_of_root? hroot, List.map_cons, repeated?_cons_of_root? hroot,
            repeated?_cons_of_root? hroot, ih]

/-- The properties declared for a name are those among the declarations of that name. -/
theorem filterMap_property?_eq_named (name : String) (entries : List Entry) :
    entries.filterMap (property? name) =
      (named name entries).filterMap Declaration.constraint? := by
  induction entries with
  | nil => rfl
  | cons entry rest ih =>
      cases hentry : entry.declaration? with
      | none =>
          have hnone : entry.property? name = none := by
            cases entry with
            | declaration d => cases hentry
            | _ => rfl
          rw [List.filterMap_cons_none hnone, ih,
            named_cons_of_ne fun d hd => by rw [hentry] at hd; cases hd]
      | some d =>
          cases entry with
          | declaration e =>
              cases hentry
              by_cases hname : d.name = name
              · have hproperty : (Entry.declaration d).property? name = d.constraint? := by
                  rw [property?, Declaration.constraint?]
                  cases d.path with
                  | none => rfl
                  | some path =>
                      simp only [if_pos hname, Option.map_some]
                      rw [hname]
                rw [named_cons_of_eq rfl hname, List.filterMap_cons, List.filterMap_cons,
                  hproperty, ih]
              · have hproperty : (Entry.declaration d).property? name = none := by
                  rw [property?]
                  cases d.path with
                  | none => rfl
                  | some path => simp only [if_neg hname]
                rw [List.filterMap_cons_none hproperty, ih,
                  named_cons_of_ne fun e he => by cases he; exact hname]
          | _ => cases hentry

end Entry

open Declaration (constraintsBelow)

namespace Declaration

variable {d : Declaration}

theorem constraintsBelow_cons_of_root (h : d.isRoot = true) (rest : List Declaration) :
    constraintsBelow (d :: rest) = rest.filterMap constraint? := by
  have hnone : d.constraint? = none := by
    rw [constraint?, Option.isNone_iff_eq_none.mp h]
    rfl
  rw [constraintsBelow, List.dropWhile_cons_of_neg (by simp [h]), List.filterMap_cons_none hnone]

theorem constraintsBelow_cons_of_not_root (h : d.isRoot = false) (rest : List Declaration) :
    constraintsBelow (d :: rest) = constraintsBelow rest := by
  rw [constraintsBelow, List.dropWhile_cons_of_pos (by simp [h]), constraintsBelow]

end Declaration

namespace Outline

/-- The parameter of a root declaration, with the properties declared for it below it. -/
def gathered (entries : List Entry) (d : Declaration) : Parameter :=
  ⟨d.tag, d.name, d.description, constraintsBelow (Entry.named d.name entries)⟩

variable {function : Option String} {outline final : Outline} {omitted : List Omission}
  {entries others rest : List Entry} {entry : Entry} {session other : Session}

/-! ### Projections -/

/-- An entry that is no root declaration adds nothing in front of the parameters below it. -/
theorem gathered_cons_of_none (h : entry.root? = none) (d : Declaration) :
    gathered (entry :: rest) d = gathered rest d := by
  rw [gathered, gathered]
  by_cases hnamed : ∃ e, entry.declaration? = some e ∧ e.name = d.name
  · obtain ⟨e, he, hname⟩ := hnamed
    rw [Entry.named_cons_of_eq he hname,
      Declaration.constraintsBelow_cons_of_not_root (Entry.isRoot_of_root?_eq_none h he)]
  · rw [Entry.named_cons_of_ne fun e he hname => hnamed ⟨e, he, hname⟩]

theorem gathered_cons_of_ne {e d : Declaration} (h : entry.root? = some e) (hne : e.name ≠ d.name) :
    gathered (entry :: rest) d = gathered rest d := by
  rw [gathered, gathered, Entry.named_cons_of_ne]
  intro found hfound
  rw [Entry.declaration?_of_root? h] at hfound
  cases hfound
  exact hne

theorem declared_eq_gathered (hdistinct : (Entry.rootNames entries).Nodup) :
    declared entries = (Entry.roots entries).map (gathered entries) := by
  induction entries with
  | nil => rfl
  | cons entry rest ih =>
      cases hroot : entry.root? with
      | none =>
          rw [Entry.rootNames_cons_of_none hroot] at hdistinct
          rw [declared, hroot, Entry.roots_cons_of_none hroot, ih hdistinct]
          exact List.map_congr_left fun d _ => (gathered_cons_of_none hroot d).symm
      | some d =>
          rw [Entry.rootNames_cons_of_root? hroot, List.nodup_cons] at hdistinct
          obtain ⟨hfirst, hrest⟩ := hdistinct
          have hhead : gathered (entry :: rest) d =
              ⟨d.tag, d.name, d.description, rest.filterMap (Entry.property? d.name)⟩ := by
            rw [gathered, Entry.named_cons_of_eq (Entry.declaration?_of_root? hroot) rfl,
              Declaration.constraintsBelow_cons_of_root (Entry.isRoot_of_root? hroot),
              ← Entry.filterMap_property?_eq_named]
          rw [declared, hroot, Entry.roots_cons_of_root? hroot, List.map_cons, hhead, ih hrest]
          simp only [List.cons.injEq, true_and]
          refine List.map_congr_left fun later hlater => (gathered_cons_of_ne hroot ?_).symm
          intro hname
          exact hfirst (hname ▸ List.mem_map_of_mem hlater)

theorem rootNames_append (above below : List Entry) :
    Entry.rootNames (above ++ below) = Entry.rootNames above ++ Entry.rootNames below := by
  rw [Entry.rootNames, List.filterMap_append, List.map_append, Entry.rootNames, Entry.rootNames]

theorem step_of_idle {above : List Entry} (h : entry.IsIdleBelow above)
    (hnames : ∀ name ∈ outline.map (·.name), name ∈ Entry.rootNames above) :
    ∃ omission, step function outline entry = (omission, .ok outline) := by
  rcases h with hnone | ⟨d, rfl, hpath, hunknown⟩
  · cases entry with
    | declaration d => cases hnone
    | _ => exact ⟨_, rfl⟩
  · exact ⟨_, step_of_orphan hpath fun hknown => hunknown (hnames d.name hknown)⟩

theorem snd_collect_drop {above : List Entry} (h : entry.IsIdleBelow above) (below : List Entry) :
    (collect function [] (above ++ entry :: below)).2 =
      (collect function [] (above ++ below)).2 := by
  suffices hmade : ∀ (outline : Outline) (before rest : List Entry), before ++ rest = above →
      (∀ name ∈ outline.map (·.name), name ∈ Entry.rootNames before) →
      (collect function outline (rest ++ entry :: below)).2 =
        (collect function outline (rest ++ below)).2 from
    hmade [] [] above rfl (fun _ hmem => absurd hmem List.not_mem_nil)
  intro outline before rest hsplit hnames
  induction rest generalizing outline before with
  | nil =>
      rw [List.append_nil] at hsplit
      subst hsplit
      obtain ⟨omission, hstep⟩ := step_of_idle h hnames
      rw [List.nil_append, List.nil_append, collect_cons_of_ok hstep]
  | cons first rest ih =>
      rw [List.cons_append, List.cons_append]
      rcases hstep : step function outline first with ⟨omission, outcome⟩
      cases outcome with
      | error failure => rw [collect_cons_of_error hstep, collect_cons_of_error hstep]
      | ok next =>
          rw [collect_cons_of_ok hstep, collect_cons_of_ok hstep]
          refine ih next (before ++ [first]) (by simpa using hsplit) fun name hname => ?_
          rw [(passes_of_step hstep).names_eq] at hname
          rw [rootNames_append]
          rcases List.mem_append.mp hname with hold | hnew
          · exact List.mem_append_left _ (hnames name hold)
          · exact List.mem_append_right _ hnew

variable [Platform]

/-- The outcome of entries, read off their projections. -/
theorem fst_on_build_eq (hsound : ∀ entry ∈ entries, entry.IsSound) (session : Session) :
    ((build function entries).on session).1 =
      match Entry.repeated? [] ((Entry.roots entries).map .declaration) with
      | some name => .error (.duplicateParameter name function)
      | none => .ok ((Entry.roots entries).map (gathered entries)) := by
  rw [on_build, collect_eq function [] entries hsound, List.map_nil, Entry.repeated?_roots]
  cases hrepeated : Entry.repeated? [] ((Entry.roots entries).map .declaration) with
  | some name => rfl
  | none =>
      rw [← Entry.repeated?_roots, Entry.repeated?_eq_none_iff] at hrepeated
      simp only [List.map_nil, List.nil_append]
      rw [declared_eq_gathered hrepeated.1]

theorem fst_on_build_congr (hsound : ∀ entry ∈ entries, entry.IsSound)
    (hsoundOther : ∀ entry ∈ others, entry.IsSound)
    (hroots : Entry.roots entries = Entry.roots others)
    (hnamed : ∀ name, Entry.named name entries = Entry.named name others)
    (session other : Session) :
    ((build function entries).on session).1 = ((build function others).on other).1 := by
  have hgathered : gathered entries = gathered others := by
    funext d
    rw [gathered, gathered, hnamed]
  rw [fst_on_build_eq hsound, fst_on_build_eq hsoundOther, hroots, hgathered]

/-! ### Entries that make no difference -/

theorem fst_on_build_drops (h : Relation.ReflTransGen Entry.Drops entries others)
    (session other : Session) :
    ((build function entries).on session).1 = ((build function others).on other).1 := by
  rw [on_build, on_build]
  induction h with
  | refl => rfl
  | tail _ hdrop ih =>
      rw [ih]
      cases hdrop with
      | drop hidle below => exact snd_collect_drop hidle below

end Outline

/-! ### Outlines written out -/

/-- The declaration that declares a property. -/
def PropertyConstraint.declaration (constraint : PropertyConstraint) : Declaration :=
  ⟨constraint.tag, constraint.name, some constraint.path, constraint.description, constraint.depth⟩

/-- The root declaration of a parameter and those of its properties. -/
def Parameter.listed (parameter : Parameter) : List Entry :=
  .declaration ⟨parameter.tag, parameter.name, none, parameter.description, 1⟩ ::
    parameter.properties.map fun constraint => .declaration constraint.declaration

namespace Outline

def listed (outline : Outline) : List Entry :=
  outline.flatMap Parameter.listed

variable {function : Option String} {outline final : Outline} {entries : List Entry}
  {parameter : Parameter} {constraints : List PropertyConstraint} {name : String}

theorem isSound_listed (h : outline.IsTidy) : ∀ entry ∈ outline.listed, entry.IsSound := by
  intro entry hentry
  obtain ⟨parameter, hparameter, hmem⟩ := List.mem_flatMap.mp hentry
  rcases List.mem_cons.mp hmem with rfl | hproperty
  · nofun
  · obtain ⟨constraint, hconstraint, rfl⟩ := List.mem_map.mp hproperty
    exact fun _ => (h.properties parameter hparameter constraint hconstraint).2

theorem rootNames_constraints (constraints : List PropertyConstraint) :
    Entry.rootNames (constraints.map fun constraint => .declaration constraint.declaration) =
      [] := by
  induction constraints with
  | nil => rfl
  | cons constraint rest ih =>
      rw [List.map_cons, Entry.rootNames_cons_of_none rfl, ih]

theorem rootNames_listed (outline : Outline) :
    Entry.rootNames outline.listed = outline.map (·.name) := by
  induction outline with
  | nil => rfl
  | cons parameter rest ih =>
      rw [listed, List.flatMap_cons, rootNames_append, Parameter.listed,
        Entry.rootNames_cons_of_root? rfl, rootNames_constraints]
      exact congrArg (parameter.name :: ·) ih

theorem property?_constraints_of_eq (h : ∀ constraint ∈ constraints, constraint.name = name) :
    (constraints.map fun constraint => Entry.declaration constraint.declaration).filterMap
      (Entry.property? name) = constraints := by
  induction constraints with
  | nil => rfl
  | cons constraint rest ih =>
      have hname := h constraint List.mem_cons_self
      have hproperty : (Entry.declaration constraint.declaration).property? name =
          some constraint := by
        have howner : constraint.declaration.name = name := hname
        rw [property?_of_path rfl, if_pos howner, ← hname]
        rfl
      rw [List.map_cons, List.filterMap_cons_some hproperty,
        ih fun later hlater => h later (List.mem_cons_of_mem _ hlater)]

theorem property?_listed_of_not_mem (h : outline.IsTidy) (hname : name ∉ outline.map (·.name)) :
    outline.listed.filterMap (Entry.property? name) = [] := by
  refine List.filterMap_eq_nil_iff.mpr fun entry hentry => ?_
  obtain ⟨parameter, hparameter, hmem⟩ := List.mem_flatMap.mp hentry
  rcases List.mem_cons.mp hmem with rfl | hproperty
  · rfl
  · obtain ⟨constraint, hconstraint, rfl⟩ := List.mem_map.mp hproperty
    have howner := (h.properties parameter hparameter constraint hconstraint).1
    rw [property?_of_path rfl, if_neg]
    rintro rfl
    exact hname (List.mem_map.mpr ⟨parameter, hparameter, howner.symm⟩)

theorem declared_constraints_append (constraints : List PropertyConstraint) (below : List Entry) :
    declared ((constraints.map fun constraint => .declaration constraint.declaration) ++ below) =
      declared below := by
  induction constraints with
  | nil => rfl
  | cons constraint rest ih => exact ih

theorem declared_listed (h : outline.IsTidy) : declared outline.listed = outline := by
  induction outline with
  | nil => rfl
  | cons parameter rest ih =>
      have hrest : IsTidy rest :=
        ⟨(List.nodup_cons.mp h.distinct).2,
          fun later hlater => h.properties later (List.mem_cons_of_mem _ hlater)⟩
      have hown : ∀ constraint ∈ parameter.properties, constraint.name = parameter.name :=
        fun constraint hconstraint =>
          (h.properties parameter List.mem_cons_self constraint hconstraint).1
      have hothers := property?_listed_of_not_mem hrest (List.nodup_cons.mp h.distinct).1
      have hlisted : listed (parameter :: rest) = parameter.listed ++ listed rest := rfl
      rw [hlisted, Parameter.listed, List.cons_append, declared]
      simp only [Entry.root?, Declaration.isRoot, Option.isNone_none, if_true]
      rw [List.filterMap_append, property?_constraints_of_eq hown, hothers, List.append_nil,
        declared_constraints_append, ih hrest]

section

variable [Platform]

/-- A tidy outline that is written out is read back. -/
theorem fst_on_build_listed (h : outline.IsTidy) (session : Session) :
    ((build function outline.listed).on session).1 = .ok outline := by
  have hdistinct : Entry.repeated? [] outline.listed = none := by
    rw [Entry.repeated?_eq_none_iff, rootNames_listed]
    exact ⟨h.distinct, fun _ _ => List.not_mem_nil⟩
  rw [on_build, collect_eq function [] _ (isSound_listed h), List.map_nil, hdistinct]
  exact congrArg Except.ok (declared_listed h)

theorem isTidy_of_build {session built : Session}
    (h : (build function entries).on session = (.ok outline, built)) : outline.IsTidy := by
  have houtcome := on_build function entries session
  rw [h] at houtcome
  exact isTidy_of_collect (Prod.ext rfl houtcome.symm) isTidy_nil

/--
The outline of a list of entries, or the failure to make one, depends only on the root declarations
in their order and, for each name, on the declarations of that name in theirs; declared properties
have to be deep enough to be one. Entries without a declaration, and properties above which their
parameter is not declared, can be taken away, in any number. An outline that was made is made again
from its own parameters, each written out with its properties.
-/
theorem outline_of_projections (function : Option String) (session other : Session) :
    (∀ entries others : List Entry, (∀ entry ∈ entries, entry.IsSound) →
      (∀ entry ∈ others, entry.IsSound) → Entry.roots entries = Entry.roots others →
      (∀ name, Entry.named name entries = Entry.named name others) →
      ((build function entries).on session).1 = ((build function others).on other).1) ∧
    (∀ entries others : List Entry, Relation.ReflTransGen Entry.Drops entries others →
      ((build function entries).on session).1 = ((build function others).on other).1) ∧
    ∀ (entries : List Entry) (outline : Outline) (built : Session),
      (build function entries).on session = (.ok outline, built) →
      ((build function outline.listed).on other).1 = .ok outline := by
  refine ⟨fun entries others hsound hsoundOther hroots hnamed => ?_,
    fun entries others hdrops => fst_on_build_drops hdrops session other,
    fun entries outline built hbuild => fst_on_build_listed (isTidy_of_build hbuild) other⟩
  exact fst_on_build_congr hsound hsoundOther hroots hnamed session other

end

open scoped Standard

/-- Two parameters with a property each, whose properties are declared last. -/
def propertiesLast : List Entry :=
  [.declaration ⟨"Object", "x", none, "", 1⟩, .declaration ⟨"Array", "y", none, "", 1⟩,
    .declaration ⟨"String", "x", some "a", "", 2⟩, .declaration ⟨"Number", "y", some "0", "", 2⟩]

/-- The same parameters, each declared with its property, and an entry that declares nothing. -/
theorem outline_of_propertiesLast :
    ∃ outline,
      ((build none propertiesLast).on {}).1 = .ok outline ∧
      ((build none [.declaration ⟨"Object", "x", none, "", 1⟩, .nothing,
        .declaration ⟨"String", "x", some "a", "", 2⟩, .declaration ⟨"Array", "y", none, "", 1⟩,
        .declaration ⟨"Number", "y", some "0", "", 2⟩]).on {}).1 = .ok outline ∧
      ((build none outline.listed).on {}).1 = .ok outline := by
  obtain ⟨outline, hmade⟩ : ∃ outline, ((build none propertiesLast).on {}).1 = .ok outline :=
    ⟨_, rfl⟩
  obtain ⟨hsame, _, hlisted⟩ := outline_of_projections none {} {}
  refine ⟨outline, hmade, ?_, hlisted _ outline _ (Prod.ext hmade rfl)⟩
  rw [← hsame propertiesLast, hmade]
  · simp [propertiesLast, Entry.IsSound, leastPropertyDepth]
  · simp [Entry.IsSound, leastPropertyDepth]
  · rfl
  · intro name
    by_cases hx : "x" = name
    · subst hx
      rfl
    · by_cases hy : "y" = name
      · subst hy
        rfl
      · simp only [propertiesLast, Entry.named, Entry.declaration?, List.filterMap, List.filter, hx,
          hy, decide_false]

end Outline

end CallGuard
