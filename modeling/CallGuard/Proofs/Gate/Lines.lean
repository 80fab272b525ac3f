import CallGuard.Proofs.Parameter.Declared
import CallGuard.Proofs.Session.Frame

/-!
# Gates, read off the lines

What a gate checks is settled by the lines that it was built from. A line that declares a parameter
gives the gate a parameter, and a line below it that declares a property of that parameter gives
the parameter a property. Building fails only when two lines declare the same parameter, and it
leaves no trace but records in the journal.
-/

namespace CallGuard

namespace Declaration

/-- The declaration that a line holds: only a text holds one. -/
def onLine? : Value → Option Declaration
  | .text line => ofLine? line
  | _ => none

def rootOn? (line : Value) : Option Declaration :=
  (onLine? line).filter isRoot

/-- The declaration of a property of a parameter that a line holds, with the path to it. -/
def propertyOn? (name : String) (line : Value) : Option (String × Declaration) :=
  (onLine? line).bind fun d =>
    match d.path with
    | some path => if d.name = name then some (path, d) else none
    | none => none

def rootNamesOn (lines : List Value) : List String :=
  (lines.filterMap rootOn?).map (·.name)

/-- The first line that declares a parameter again declares the one of this name. -/
def FirstRepeats (name : String) (lines : List Value) : Prop :=
  ∃ above line below d, lines = above ++ line :: below ∧ (rootNamesOn above).Nodup ∧
    rootOn? line = some d ∧ d.name = name ∧ name ∈ rootNamesOn above

theorem length_rootNamesOn (lines : List Value) :
    (rootNamesOn lines).length = lines.countP fun line => (rootOn? line).isSome := by
  rw [rootNamesOn, List.length_map, List.length_filterMap_eq_countP]

theorem name_of_propertyOn? {name path : String} {line : Value} {d : Declaration}
    (h : propertyOn? name line = some (path, d)) : d.name = name := by
  obtain ⟨e, _, he⟩ := Option.bind_eq_some_iff.mp h
  cases hpath : e.path with
  | none =>
      rw [hpath] at he
      cases he
  | some below =>
      rw [hpath] at he
      obtain ⟨hname, heq⟩ := Option.ite_none_right_eq_some.mp he
      cases heq
      exact hname

/-- A declared property has at least one segment below its parameter. -/
theorem depth_ofHeading {heading : Heading} {d : Declaration}
    (h : ofHeading heading = .declaration d) (hpath : d.path.isSome) :
    leastPropertyDepth ≤ d.depth := by
  rw [ofHeading] at h
  split at h
  · cases h
  · rename_i root below _
    split at h
    · cases h
    · cases h
      cases below with
      | nil => simp at hpath
      | cons segment rest =>
          simp only [List.length_cons, leastPropertyDepth]
          omega

end Declaration

open Declaration

namespace Entry

theorem ofValue_isSound (line : Value) : (ofValue line).IsSound := by
  cases line with
  | text s =>
      cases hread : Declaration.read s with
      | declaration d =>
          have hentry : ofValue (.text s) = .declaration d := by rw [ofValue, hread]
          rw [hentry]
          intro hpath
          rw [Declaration.read] at hread
          split at hread
          · cases hread
          · exact depth_ofHeading hread hpath
      | noHeading =>
          have hentry : ofValue (.text s) = .noHeading s := by rw [ofValue, hread]
          rw [hentry]
          trivial
      | emptySegment =>
          have hentry : ofValue (.text s) = .emptySegment s := by rw [ofValue, hread]
          rw [hentry]
          trivial
  | _ => trivial

theorem onLine?_eq (line : Value) :
    onLine? line =
      match ofValue line with
      | .declaration d => some d
      | _ => none := by
  cases line with
  | text s =>
      simp only [onLine?, ofLine?, ofValue]
      cases Declaration.read s <;> rfl
  | _ => rfl

theorem depth_of_onLine? {line : Value} {d : Declaration} (h : onLine? line = some d)
    (hpath : d.path.isSome) : leastPropertyDepth ≤ d.depth := by
  have hsound := ofValue_isSound line
  rw [onLine?_eq] at h
  split at h
  · rename_i e hentry
    cases h
    rw [hentry] at hsound
    exact hsound hpath
  · cases h

theorem root?_ofValue (line : Value) : (ofValue line).root? = rootOn? line := by
  rw [rootOn?, onLine?_eq]
  cases ofValue line <;> rfl

theorem property?_ofValue (name : String) (line : Value) :
    (ofValue line).property? name =
      (propertyOn? name line).map fun found =>
        ⟨name, found.1, found.2.tag, found.2.description, found.2.depth⟩ := by
  rw [propertyOn?, onLine?_eq]
  cases ofValue line with
  | declaration d =>
      simp only [property?, Option.bind_some]
      cases d.path with
      | none => rfl
      | some path =>
          simp only
          by_cases hname : d.name = name
          · rw [if_pos hname, if_pos hname]
            rfl
          · rw [if_neg hname, if_neg hname]
            rfl
  | _ => rfl

theorem rootNames_ofValue (lines : List Value) :
    rootNames (lines.map ofValue) = rootNamesOn lines := by
  have hroot : root? ∘ ofValue = rootOn? := funext root?_ofValue
  rw [rootNames, rootNamesOn, List.filterMap_map, hroot]

theorem repeated?_ofValue_eq_none_iff {lines : List Value} :
    repeated? [] (lines.map ofValue) = none ↔ (rootNamesOn lines).Nodup := by
  rw [repeated?_eq_none_iff, rootNames_ofValue]
  simp

theorem repeated?_ofValue_eq_some_iff {lines : List Value} {name : String} :
    repeated? [] (lines.map ofValue) = some name ↔ FirstRepeats name lines := by
  rw [repeated?_eq_some_iff]
  constructor
  · rintro ⟨_, _, _, d, hsplit, habove, hroot, hname, hmem⟩
    obtain ⟨above, rest, rfl, rfl, hrest⟩ := List.map_eq_append_iff.mp hsplit
    obtain ⟨line, below, rfl, rfl, rfl⟩ := List.map_eq_cons_iff.mp hrest
    rw [root?_ofValue] at hroot
    rw [List.nil_append, rootNames_ofValue] at hmem
    exact ⟨above, line, below, d, rfl, repeated?_ofValue_eq_none_iff.mp habove, hroot, hname, hmem⟩
  · rintro ⟨above, line, below, d, rfl, habove, hroot, hname, hmem⟩
    refine ⟨above.map ofValue, ofValue line, below.map ofValue, d, ?_,
      repeated?_ofValue_eq_none_iff.mpr habove, ?_, hname, ?_⟩
    · rw [List.map_append, List.map_cons]
    · rw [root?_ofValue, hroot]
    · rw [List.nil_append, rootNames_ofValue]
      exact hmem

end Entry

namespace Outline

/-- The outline of lines: the parameters that they declare, with their properties. -/
def ofLines (lines : List Value) : Outline :=
  declared (lines.map Entry.ofValue)

def propertiesOn (name : String) (lines : List Value) : List PropertyConstraint :=
  (lines.map Entry.ofValue).filterMap (Entry.property? name)

@[simp]
theorem ofLines_nil : ofLines [] = [] := rfl

theorem ofLines_cons_of_none {line : Value} (h : rootOn? line = none) (rest : List Value) :
    ofLines (line :: rest) = ofLines rest := by
  rw [ofLines, List.map_cons, declared, Entry.root?_ofValue, h]
  rfl

theorem ofLines_cons_of_root {line : Value} {d : Declaration} (h : rootOn? line = some d)
    (rest : List Value) :
    ofLines (line :: rest) =
      ⟨d.tag, d.name, d.description, propertiesOn d.name rest⟩ :: ofLines rest := by
  rw [ofLines, List.map_cons, declared, Entry.root?_ofValue, h]
  rfl

theorem names_ofLines (lines : List Value) :
    (ofLines lines).map (·.name) = rootNamesOn lines := by
  induction lines with
  | nil => rfl
  | cons line rest ih =>
      rw [rootNamesOn]
      cases hroot : rootOn? line with
      | none =>
          rw [ofLines_cons_of_none hroot, List.filterMap_cons_none hroot, ih, rootNamesOn]
      | some d =>
          rw [ofLines_cons_of_root hroot, List.filterMap_cons_some hroot, List.map_cons,
            List.map_cons, ih, rootNamesOn]

theorem length_ofLines (lines : List Value) :
    (ofLines lines).length = lines.countP fun line => (rootOn? line).isSome := by
  rw [← length_rootNamesOn, ← names_ofLines, List.length_map]

@[simp]
theorem propertiesOn_nil (name : String) : propertiesOn name [] = [] := rfl

theorem propertiesOn_cons_of_none {name : String} {line : Value}
    (h : propertyOn? name line = none) (rest : List Value) :
    propertiesOn name (line :: rest) = propertiesOn name rest := by
  have hnone : (Entry.ofValue line).property? name = none := by
    rw [Entry.property?_ofValue, h, Option.map_none]
  rw [propertiesOn, List.map_cons, List.filterMap_cons_none hnone, propertiesOn]

theorem propertiesOn_cons_of_property {name path : String} {line : Value} {d : Declaration}
    (h : propertyOn? name line = some (path, d)) (rest : List Value) :
    propertiesOn name (line :: rest) =
      ⟨name, path, d.tag, d.description, d.depth⟩ :: propertiesOn name rest := by
  have hsome : (Entry.ofValue line).property? name =
      some ⟨name, path, d.tag, d.description, d.depth⟩ := by
    rw [Entry.property?_ofValue, h, Option.map_some]
  rw [propertiesOn, List.map_cons, List.filterMap_cons_some hsome, propertiesOn]

variable [Platform]

theorem build_keeps (function : Option String) (entries : List Entry) :
    (Outline.build function entries).Keeps Session.Quiet := by
  have hlog (omitted : List Omission) :
      (Omission.logAll function omitted).Keeps Session.Quiet := by
    induction omitted with
    | nil => exact Run.Keeps.pure _
    | cons omission rest ih => exact (Run.log_keeps _ _ _ _).bind fun _ => ih
  refine (hlog _).bind fun _ => ?_
  split
  · exact Run.Keeps.pure _
  · exact Run.Keeps.throw _

/-- Building logs what is left out and then gives the outcome of placing the entries. -/
theorem on_build (function : Option String) (entries : List Entry) (session : Session) :
    ((Outline.build function entries).on session).1 = (collect function [] entries).2 := by
  have hlog (omitted : List Omission) (session : Session) :
      ∃ after, (Omission.logAll function omitted).on session = (.ok (), after) := by
    induction omitted generalizing session with
    | nil => exact ⟨session, rfl⟩
    | cons omission rest ih =>
        obtain ⟨after, hrest⟩ := ih ((omission.log function).on session).2
        exact ⟨after, (Run.on_bind_of_ok rfl _).trans hrest⟩
  rw [Outline.build]
  obtain ⟨after, hafter⟩ := hlog (collect function [] entries).1 session
  rw [Run.on_bind_of_ok hafter]
  cases (collect function [] entries).2 with
  | ok outline => rfl
  | error failure => rfl

end Outline

namespace Gate

/-- The gate of a function, read off its lines. -/
def ofLines (function : String) (lines : List Value) (registry : Option RegistryId)
    (reporter : Option Reporter) : Gate :=
  { function, outline := Outline.ofLines lines, registry, reporter }

variable [Platform]

theorem build_keeps (function : String) (lines : List Value) (registry : Option RegistryId)
    (reporter : Option Reporter) :
    (build function lines registry reporter).Keeps Session.Quiet := by
  refine (Outline.build_keeps _ _).bind fun outline => ?_
  exact (Run.log_keeps _ _ _ _).bind fun _ => Run.Keeps.pure _

/-- The outcome of building a gate: unless the lines repeat a parameter, it is made. -/
theorem on_build (function : String) (lines : List Value) (registry : Option RegistryId)
    (reporter : Option Reporter) (session : Session) :
    ((build function lines registry reporter).on session).1 =
      match Entry.repeated? [] (lines.map Entry.ofValue) with
      | some name => .error (.duplicateParameter name (some function))
      | none => .ok { function, outline := Outline.ofLines lines, registry, reporter } := by
  have houtline := Outline.on_build (some function) (lines.map Entry.ofValue) session
  have hsound : ∀ entry ∈ lines.map Entry.ofValue, entry.IsSound := by
    intro entry hentry
    obtain ⟨line, _, rfl⟩ := List.mem_map.mp hentry
    exact Entry.ofValue_isSound line
  rw [Outline.collect_eq _ _ _ hsound, List.map_nil] at houtline
  rw [build]
  rcases hrun : (Outline.build (some function) (lines.map Entry.ofValue)).on session with
    ⟨outcome, after⟩
  rw [hrun] at houtline
  cases hrepeated : Entry.repeated? [] (lines.map Entry.ofValue) with
  | some name =>
      rw [hrepeated] at houtline
      simp only at houtline
      rw [houtline] at hrun
      rw [Run.on_bind_of_error hrun]
  | none =>
      rw [hrepeated] at houtline
      simp only [List.map_nil, List.nil_append] at houtline
      rw [houtline] at hrun
      rw [Run.on_bind_of_ok hrun]
      rfl

/-- Lines that declare no parameter twice make a gate, and nothing else of the session changes. -/
theorem exists_build {function : String} {lines : List Value}
    (hdistinct : (rootNamesOn lines).Nodup) (registry : Option RegistryId)
    (reporter : Option Reporter) (session : Session) :
    ∃ built, (build function lines registry reporter).on session =
        (.ok { function, outline := Outline.ofLines lines, registry, reporter }, built) ∧
      session.Quiet built := by
  have hbuild := on_build function lines registry reporter session
  rw [Entry.repeated?_ofValue_eq_none_iff.mpr hdistinct] at hbuild
  exact ⟨_, Prod.ext hbuild rfl, build_keeps function lines registry reporter session⟩

/-- A gate that was built has the outline of its lines, and these declare no parameter twice. -/
theorem eq_of_build {function : String} {lines : List Value} {registry : Option RegistryId}
    {reporter : Option Reporter} {session built : Session} {gate : Gate}
    (h : (build function lines registry reporter).on session = (.ok gate, built)) :
    gate = { function, outline := Outline.ofLines lines, registry, reporter } ∧
      (rootNamesOn lines).Nodup := by
  have hbuild := on_build function lines registry reporter session
  rw [h] at hbuild
  cases hrepeated : Entry.repeated? [] (lines.map Entry.ofValue) with
  | some name =>
      rw [hrepeated] at hbuild
      cases hbuild
  | none =>
      rw [hrepeated] at hbuild
      cases hbuild
      exact ⟨rfl, Entry.repeated?_ofValue_eq_none_iff.mp hrepeated⟩

end Gate

end CallGuard
