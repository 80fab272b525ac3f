import CallGuard.Proofs.Parameter.Declared

/-!
# Placing one entry after another

What becomes of an entry is settled by the outline that the entries above it have made. It adds a
parameter, or a property to a parameter that is there, or it is left out. Whatever is placed, the
parameters of an outline keep names of their own, and each has only properties that are declared
for it and deep enough to be one.
-/

namespace CallGuard

namespace Outline

/-- What an entry makes of an outline, and what is left out on the way. -/
def step (function : Option String) (outline : Outline) :
    Entry → Option Omission × Except Failure Outline
  | .nothing => (none, .ok outline)
  | .noHeading line => (some (.noHeading line), .ok outline)
  | .emptySegment line => (some (.emptySegment line), .ok outline)
  | .declaration d =>
    match outline.place d with
    | .placed next => (none, .ok next)
    | .orphan => (some (.orphan d.name (d.path.getD "")), .ok outline)
    | .duplicate => (none, .error (.duplicateParameter d.name function))
    | .tooShallow => (none, .error (.invalid [.at (.tooSmall leastPropertyDepth) "depth"]))

/-- The ways in which an entry passes. -/
inductive Passes (outline : Outline) : Entry → Option Omission → Outline → Prop
  | nothing : Passes outline .nothing none outline
  | noHeading (line : String) : Passes outline (.noHeading line) (some (.noHeading line)) outline
  | emptySegment (line : String) :
      Passes outline (.emptySegment line) (some (.emptySegment line)) outline
  | parameter {d : Declaration} (hpath : d.path = none) (hnew : d.name ∉ outline.map (·.name)) :
      Passes outline (.declaration d) none (outline.addParameter d)
  | property {d : Declaration} {path : String} (hpath : d.path = some path)
      (hknown : d.name ∈ outline.map (·.name)) (hdeep : leastPropertyDepth ≤ d.depth) :
      Passes outline (.declaration d) none
        (outline.addProperty ⟨d.name, path, d.tag, d.description, d.depth⟩)
  | orphan {d : Declaration} {path : String} (hpath : d.path = some path)
      (hunknown : d.name ∉ outline.map (·.name)) :
      Passes outline (.declaration d) (some (.orphan d.name path)) outline

/-- An outline whose parameters differ in name and have properties of their own. -/
structure IsTidy (outline : Outline) : Prop where
  distinct : (outline.map (·.name)).Nodup
  properties : ∀ parameter ∈ outline, ∀ constraint ∈ parameter.properties,
    constraint.name = parameter.name ∧ leastPropertyDepth ≤ constraint.depth

variable {function : Option String} {outline next final : Outline} {entry : Entry}
  {omission : Option Omission} {omitted : List Omission} {rest : List Entry} {failure : Failure}

/-! ### One entry -/

theorem passes_of_step (h : step function outline entry = (omission, .ok next)) :
    outline.Passes entry omission next := by
  cases entry with
  | nothing =>
      cases h
      exact .nothing
  | noHeading line =>
      cases h
      exact .noHeading line
  | emptySegment line =>
      cases h
      exact .emptySegment line
  | declaration d =>
      rw [step] at h
      cases hpath : d.path with
      | none =>
          rw [place_of_root hpath] at h
          by_cases hknown : d.name ∈ outline.map (·.name)
          · rw [if_pos hknown] at h
            cases h
          · rw [if_neg hknown] at h
            cases h
            exact .parameter hpath hknown
      | some path =>
          simp only [place, hpath] at h
          by_cases hknown : d.name ∈ outline.map (·.name)
          · rw [declares_iff.mpr hknown, if_neg (by simp)] at h
            by_cases hdeep : d.depth < leastPropertyDepth
            · rw [if_pos hdeep] at h
              cases h
            · rw [if_neg hdeep] at h
              cases h
              exact .property hpath hknown (Nat.not_lt.mp hdeep)
          · rw [Bool.eq_false_iff.mpr (mt declares_iff.mp hknown), if_pos (by simp)] at h
            cases h
            exact .orphan hpath hknown

theorem step_of_orphan {d : Declaration} (hpath : d.path.isSome)
    (hunknown : d.name ∉ outline.map (·.name)) :
    step function outline (.declaration d) =
      (some (.orphan d.name (d.path.getD "")), .ok outline) := by
  obtain ⟨path, hsome⟩ := Option.isSome_iff_exists.mp hpath
  have hplace : outline.place d = .orphan := by
    simp only [place, hsome]
    rw [Bool.eq_false_iff.mpr (mt declares_iff.mp hunknown), if_pos (by simp)]
  rw [step, hplace]

theorem step_of_duplicate {d : Declaration} (hpath : d.path = none)
    (hknown : d.name ∈ outline.map (·.name)) :
    step function outline (.declaration d) =
      (none, .error (.duplicateParameter d.name function)) := by
  rw [step, place_of_root hpath, if_pos hknown]

namespace Passes

theorem names_eq (h : outline.Passes entry omission next) :
    next.map (·.name) = outline.map (·.name) ++ Entry.rootNames [entry] := by
  cases h with
  | @parameter d hpath hnew =>
      have hroot : (Entry.declaration d).root? = some d := by
        simp [Entry.root?, Declaration.isRoot, hpath]
      rw [Entry.rootNames_cons_of_root? hroot, addParameter, List.map_append]
      rfl
  | @property d path hpath hknown hdeep =>
      have hroot : (Entry.declaration d).root? = none := by
        simp [Entry.root?, Declaration.isRoot, hpath]
      rw [Entry.rootNames_cons_of_none hroot, names_addProperty]
      exact (List.append_nil _).symm
  | @orphan d path hpath hunknown =>
      have hroot : (Entry.declaration d).root? = none := by
        simp [Entry.root?, Declaration.isRoot, hpath]
      rw [Entry.rootNames_cons_of_none hroot]
      exact (List.append_nil _).symm
  | _ => exact (List.append_nil _).symm

theorem isTidy (h : outline.Passes entry omission next) (htidy : outline.IsTidy) :
    next.IsTidy := by
  cases h with
  | @parameter d hpath hnew =>
      refine ⟨?_, fun parameter hmem => ?_⟩
      · rw [addParameter, List.map_append]
        show (outline.map (·.name) ++ [d.name]).Nodup
        refine List.nodup_append.mpr ⟨htidy.distinct, by simp, ?_⟩
        rintro name hname _ hlast rfl
        exact hnew (List.mem_singleton.mp hlast ▸ hname)
      · rcases List.mem_append.mp hmem with hold | hlast
        · exact htidy.properties parameter hold
        · rw [List.mem_singleton.mp hlast]
          exact fun constraint hconstraint => absurd hconstraint List.not_mem_nil
  | @property d path hpath hknown hdeep =>
      refine ⟨by rw [names_addProperty]; exact htidy.distinct, fun parameter hmem => ?_⟩
      obtain ⟨old, hold, rfl⟩ := List.mem_map.mp hmem
      dsimp only
      split
      · rename_i hname
        intro constraint hconstraint
        rcases List.mem_append.mp hconstraint with hbefore | hlast
        · exact htidy.properties old hold constraint hbefore
        · rw [List.mem_singleton.mp hlast]
          exact ⟨hname.symm, hdeep⟩
      · exact htidy.properties old hold
  | _ => exact htidy

end Passes

/-! ### All entries -/

theorem collect_cons (function : Option String) (outline : Outline) (entry : Entry)
    (rest : List Entry) :
    collect function outline (entry :: rest) =
      match step function outline entry with
      | (omission, .ok next) =>
        (omission.toList ++ (collect function next rest).1, (collect function next rest).2)
      | (_, .error failure) => ([], .error failure) := by
  cases entry with
  | declaration d =>
      rw [collect, step]
      cases outline.place d <;> rfl
  | _ => rfl

theorem collect_cons_of_ok (h : step function outline entry = (omission, .ok next))
    (rest : List Entry) :
    collect function outline (entry :: rest) =
      (omission.toList ++ (collect function next rest).1, (collect function next rest).2) := by
  rw [collect_cons, h]

theorem collect_cons_of_error (h : step function outline entry = (omission, .error failure))
    (rest : List Entry) :
    collect function outline (entry :: rest) = ([], .error failure) := by
  rw [collect_cons, h]

/-- What the first entry makes, when all entries can be placed. -/
theorem exists_passes_of_collect
    (h : collect function outline (entry :: rest) = (omitted, .ok final)) :
    ∃ omission next later, outline.Passes entry omission next ∧
      collect function next rest = (later, .ok final) ∧ omitted = omission.toList ++ later := by
  rcases hstep : step function outline entry with ⟨omission, outcome⟩
  cases outcome with
  | error failure =>
      rw [collect_cons_of_error hstep] at h
      cases h
  | ok next =>
      rw [collect_cons_of_ok hstep] at h
      obtain ⟨homitted, houtcome⟩ := Prod.mk.inj h
      exact ⟨omission, next, (collect function next rest).1, passes_of_step hstep,
        Prod.ext rfl houtcome, homitted.symm⟩

/-- Entries that can be placed hand the outline that they make on to those below. -/
theorem collect_append_of_ok {entries : List Entry}
    (h : collect function outline entries = (omitted, .ok next)) (below : List Entry) :
    collect function outline (entries ++ below) =
      (omitted ++ (collect function next below).1, (collect function next below).2) := by
  induction entries generalizing outline omitted with
  | nil =>
      cases h
      rfl
  | cons entry rest ih =>
      rcases hstep : step function outline entry with ⟨omission, outcome⟩
      cases outcome with
      | error failure =>
          rw [collect_cons_of_error hstep] at h
          cases h
      | ok made =>
          rw [collect_cons_of_ok hstep] at h
          obtain ⟨homitted, houtcome⟩ := Prod.mk.inj h
          have hrest := ih (Prod.ext rfl houtcome)
          rw [List.cons_append, collect_cons_of_ok hstep, hrest, ← homitted, List.append_assoc]

theorem isTidy_of_collect {entries : List Entry}
    (h : collect function outline entries = (omitted, .ok final)) (htidy : outline.IsTidy) :
    final.IsTidy := by
  induction entries generalizing outline omitted with
  | nil =>
      cases h
      exact htidy
  | cons entry rest ih =>
      obtain ⟨_, next, later, hpasses, hrest, _⟩ := exists_passes_of_collect h
      exact ih hrest (hpasses.isTidy htidy)

theorem isTidy_nil : IsTidy [] := ⟨List.nodup_nil, nofun⟩

end Outline

end CallGuard
