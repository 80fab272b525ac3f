import CallGuard.Parameter.Basic

/-!
# The outline of a list of entries

Entries are placed one after another, and each lands in the outline that the ones before have made.
Seen from the whole list the outcome is simple: every root declaration makes a parameter, in order,
and a parameter has the properties that are declared for its name anywhere below it. What can go
wrong is only that a root declaration repeats a name. `Outline.collect_eq` says both.
-/

namespace CallGuard

namespace Entry

def root? : Entry → Option Declaration
  | .declaration d => if d.isRoot then some d else none
  | _ => none

def property? (name : String) : Entry → Option PropertyConstraint
  | .declaration d =>
    match d.path with
    | some path =>
      if d.name = name then some ⟨name, path, d.tag, d.description, d.depth⟩ else none
    | none => none
  | _ => none

def rootNames (entries : List Entry) : List String :=
  (entries.filterMap root?).map (·.name)

/-- The first name that a root declaration repeats, when some names are known before. -/
def repeated? (known : List String) : List Entry → Option String
  | [] => none
  | entry :: rest =>
    match entry.root? with
    | none => repeated? known rest
    | some d => if d.name ∈ known then some d.name else repeated? (known ++ [d.name]) rest

/-- An entry is sound when a declared property is deep enough to be one. -/
def IsSound : Entry → Prop
  | .declaration d => d.path.isSome → leastPropertyDepth ≤ d.depth
  | _ => True

variable {known : List String} {entries rest : List Entry} {entry : Entry} {d : Declaration}
  {name : String}

theorem eq_declaration_of_root? (h : entry.root? = some d) :
    entry = .declaration d ∧ d.path = none := by
  cases entry with
  | declaration e =>
      rw [root?, Option.ite_none_right_eq_some] at h
      obtain ⟨hroot, heq⟩ := h
      cases heq
      exact ⟨rfl, Option.isNone_iff_eq_none.mp hroot⟩
  | _ => cases h

theorem property?_of_root? (h : entry.root? = some d) (name : String) :
    entry.property? name = none := by
  obtain ⟨rfl, hpath⟩ := eq_declaration_of_root? h
  simp only [property?, hpath]

theorem rootNames_cons_of_root? (h : entry.root? = some d) :
    rootNames (entry :: rest) = d.name :: rootNames rest := by
  rw [rootNames, List.filterMap_cons_some h, List.map_cons, rootNames]

theorem rootNames_cons_of_none (h : entry.root? = none) :
    rootNames (entry :: rest) = rootNames rest := by
  rw [rootNames, List.filterMap_cons_none h, rootNames]

theorem repeated?_eq_none_iff :
    repeated? known entries = none ↔
      (rootNames entries).Nodup ∧ ∀ name ∈ rootNames entries, name ∉ known := by
  induction entries generalizing known with
  | nil => simp [repeated?, rootNames]
  | cons entry rest ih =>
      rw [repeated?]
      cases hroot : entry.root? with
      | none =>
          simp only
          rw [ih, rootNames_cons_of_none hroot]
      | some d =>
          simp only
          rw [rootNames_cons_of_root? hroot]
          by_cases hknown : d.name ∈ known
          · rw [if_pos hknown]
            refine iff_of_false (by simp) ?_
            rintro ⟨_, hfresh⟩
            exact hfresh d.name List.mem_cons_self hknown
          · rw [if_neg hknown, ih, List.nodup_cons]
            constructor
            · rintro ⟨hnodup, hfresh⟩
              refine ⟨⟨fun hmem => ?_, hnodup⟩, fun name hmem => ?_⟩
              · exact hfresh d.name hmem (List.mem_append_right _ List.mem_cons_self)
              · rcases List.mem_cons.mp hmem with rfl | hmem
                · exact hknown
                · exact fun hold => hfresh name hmem (List.mem_append_left _ hold)
            · rintro ⟨⟨hhead, hnodup⟩, hfresh⟩
              refine ⟨hnodup, fun name hmem hold => ?_⟩
              rcases List.mem_append.mp hold with hold | hold
              · exact hfresh name (List.mem_cons_of_mem _ hmem) hold
              · rw [List.mem_singleton.mp hold] at hmem
                exact hhead hmem

theorem repeated?_cons_of_none (h : entry.root? = none) :
    repeated? known (entry :: rest) = repeated? known rest := by
  rw [repeated?, h]

theorem repeated?_cons_of_root? (h : entry.root? = some d) :
    repeated? known (entry :: rest) =
      if d.name ∈ known then some d.name else repeated? (known ++ [d.name]) rest := by
  rw [repeated?, h]

/-- The name that is repeated first is that of an entry above which none is repeated. -/
theorem repeated?_eq_some_iff :
    repeated? known entries = some name ↔
      ∃ above entry below d, entries = above ++ entry :: below ∧ repeated? known above = none ∧
        entry.root? = some d ∧ d.name = name ∧ name ∈ known ++ rootNames above := by
  constructor
  · intro h
    induction entries generalizing known with
    | nil => cases h
    | cons first rest ih =>
        cases hroot : first.root? with
        | none =>
            rw [repeated?_cons_of_none hroot] at h
            obtain ⟨above, entry, below, d, rfl, habove, hd, hname, hmem⟩ := ih h
            refine ⟨first :: above, entry, below, d, rfl, ?_, hd, hname, ?_⟩
            · rw [repeated?_cons_of_none hroot, habove]
            · rw [rootNames_cons_of_none hroot]
              exact hmem
        | some e =>
            rw [repeated?_cons_of_root? hroot] at h
            by_cases hknown : e.name ∈ known
            · rw [if_pos hknown] at h
              cases h
              exact ⟨[], first, rest, e, rfl, rfl, hroot, rfl, List.mem_append_left _ hknown⟩
            · rw [if_neg hknown] at h
              obtain ⟨above, entry, below, d, rfl, habove, hd, hname, hmem⟩ := ih h
              refine ⟨first :: above, entry, below, d, rfl, ?_, hd, hname, ?_⟩
              · rw [repeated?_cons_of_root? hroot, if_neg hknown, habove]
              · rw [rootNames_cons_of_root? hroot]
                rwa [List.append_assoc, List.singleton_append] at hmem
  · rintro ⟨above, entry, below, d, rfl, habove, hroot, rfl, hmem⟩
    induction above generalizing known with
    | nil =>
        rw [rootNames, List.filterMap_nil, List.map_nil, List.append_nil] at hmem
        rw [List.nil_append, repeated?_cons_of_root? hroot, if_pos hmem]
    | cons first above ih =>
        rw [List.cons_append]
        cases hfirst : first.root? with
        | none =>
            rw [repeated?_cons_of_none hfirst] at habove ⊢
            rw [rootNames_cons_of_none hfirst] at hmem
            exact ih habove hmem
        | some e =>
            rw [repeated?_cons_of_root? hfirst] at habove ⊢
            rw [rootNames_cons_of_root? hfirst] at hmem
            by_cases hknown : e.name ∈ known
            · rw [if_pos hknown] at habove
              cases habove
            · rw [if_neg hknown] at habove ⊢
              apply ih habove
              rwa [List.append_assoc, List.singleton_append]

end Entry

/-- The parameter with the properties that entries declare for it added to those it has. -/
def Parameter.extended (entries : List Entry) (parameter : Parameter) : Parameter :=
  { parameter with
    properties := parameter.properties ++ entries.filterMap (Entry.property? parameter.name) }

namespace Outline

/-- The parameters that entries declare, each with the properties declared below it. -/
def declared : List Entry → Outline
  | [] => []
  | entry :: rest =>
    match entry.root? with
    | none => declared rest
    | some d =>
      ⟨d.tag, d.name, d.description, rest.filterMap (Entry.property? d.name)⟩ :: declared rest

variable {outline : Outline} {d : Declaration} {path : String}

theorem declares_iff {name : String} :
    outline.declares name = true ↔ name ∈ outline.map (·.name) := by
  simp [declares]

theorem names_addProperty (constraint : PropertyConstraint) :
    (outline.addProperty constraint).map (·.name) = outline.map (·.name) := by
  rw [addProperty, List.map_map]
  refine List.map_congr_left fun parameter _ => ?_
  simp only [Function.comp_apply]
  split <;> rfl

theorem property?_of_path (hpath : d.path = some path) (name : String) :
    Entry.property? name (.declaration d) =
      if d.name = name then some ⟨name, path, d.tag, d.description, d.depth⟩ else none := by
  simp only [Entry.property?, hpath]

/-- An entry that declares no property of the parameters adds none to them. -/
theorem map_extended_cons_of_none {entry : Entry}
    (h : ∀ name ∈ outline.map (·.name), entry.property? name = none) (rest : List Entry) :
    outline.map (Parameter.extended (entry :: rest)) = outline.map (Parameter.extended rest) := by
  refine List.map_congr_left fun parameter hmem => ?_
  have hnone := h parameter.name (List.mem_map_of_mem hmem)
  rw [Parameter.extended, Parameter.extended, List.filterMap_cons_none hnone]

theorem map_extended_addProperty (hpath : d.path = some path) (rest : List Entry) :
    (outline.addProperty ⟨d.name, path, d.tag, d.description, d.depth⟩).map
        (Parameter.extended rest) =
      outline.map (Parameter.extended (.declaration d :: rest)) := by
  rw [addProperty, List.map_map]
  refine List.map_congr_left fun parameter _ => ?_
  have hproperty := property?_of_path hpath parameter.name
  simp only [Function.comp_apply]
  by_cases heq : parameter.name = d.name
  · rw [if_pos heq.symm, heq] at hproperty
    rw [if_pos heq, Parameter.extended, Parameter.extended, heq,
      List.filterMap_cons_some hproperty]
    simp only [List.append_assoc, List.singleton_append]
  · rw [if_neg (Ne.symm heq)] at hproperty
    rw [if_neg heq, Parameter.extended, Parameter.extended, List.filterMap_cons_none hproperty]

theorem place_of_root (hpath : d.path = none) :
    outline.place d =
      if d.name ∈ outline.map (·.name) then .duplicate else .placed (outline.addParameter d) := by
  simp only [place, hpath, declares_iff]

theorem place_of_property (hpath : d.path = some path) (hdeep : leastPropertyDepth ≤ d.depth) :
    outline.place d =
      if d.name ∈ outline.map (·.name) then
        .placed (outline.addProperty ⟨d.name, path, d.tag, d.description, d.depth⟩)
      else .orphan := by
  simp only [place, hpath]
  by_cases hknown : d.name ∈ outline.map (·.name)
  · rw [declares_iff.mpr hknown, if_neg (by simp), if_neg (Nat.not_lt.mpr hdeep), if_pos hknown]
  · rw [Bool.eq_false_iff.mpr (mt declares_iff.mp hknown), if_pos (by simp), if_neg hknown]

/-- The outcome of placing entries in order, seen from the whole list. -/
theorem collect_eq (function : Option String) (outline : Outline) (entries : List Entry)
    (hsound : ∀ entry ∈ entries, entry.IsSound) :
    (collect function outline entries).2 =
      match Entry.repeated? (outline.map (·.name)) entries with
      | some name => .error (.duplicateParameter name function)
      | none => .ok (outline.map (Parameter.extended entries) ++ declared entries) := by
  induction entries generalizing outline with
  | nil =>
      have hmap : outline.map (Parameter.extended []) = outline := by
        rw [List.map_congr_left (g := id) fun parameter _ => ?_, List.map_id]
        simp [Parameter.extended]
      rw [collect, Entry.repeated?, declared, hmap, List.append_nil]
  | cons entry rest ih =>
      have hrest := fun outline => ih outline fun e he => hsound e (List.mem_cons_of_mem _ he)
      have hpass (hroot : entry.root? = none)
          (hproperty : ∀ name ∈ outline.map (·.name), entry.property? name = none)
          (hcollect : (collect function outline (entry :: rest)).2 =
            (collect function outline rest).2) :
          (collect function outline (entry :: rest)).2 =
            match Entry.repeated? (outline.map (·.name)) (entry :: rest) with
            | some name => .error (.duplicateParameter name function)
            | none =>
              .ok (outline.map (Parameter.extended (entry :: rest)) ++
                declared (entry :: rest)) := by
        rw [hcollect, hrest, map_extended_cons_of_none hproperty, Entry.repeated?, declared, hroot]
      cases entry with
      | nothing => exact hpass rfl (fun _ _ => rfl) rfl
      | noHeading line => exact hpass rfl (fun _ _ => rfl) rfl
      | emptySegment line => exact hpass rfl (fun _ _ => rfl) rfl
      | declaration d =>
          cases hpath : d.path with
          | none =>
              have hroot : (Entry.declaration d).root? = some d := by
                simp [Entry.root?, Declaration.isRoot, hpath]
              rw [Entry.repeated?, declared, hroot, collect, place_of_root hpath]
              by_cases hknown : d.name ∈ outline.map (·.name)
              · simp only [if_pos hknown]
              · simp only [if_neg hknown]
                have hnames : (outline.addParameter d).map (·.name) =
                    outline.map (·.name) ++ [d.name] := by
                  simp [addParameter]
                rw [hrest, hnames, addParameter, List.map_append,
                  map_extended_cons_of_none fun name _ => Entry.property?_of_root? hroot name]
                simp only [List.map_cons, List.map_nil, Parameter.extended, List.nil_append,
                  List.append_assoc, List.singleton_append]
          | some path =>
              have hroot : (Entry.declaration d).root? = none := by
                simp [Entry.root?, Declaration.isRoot, hpath]
              have hplace : outline.place d = _ :=
                place_of_property hpath (hsound _ List.mem_cons_self (by rw [hpath]; rfl))
              by_cases hknown : d.name ∈ outline.map (·.name)
              · rw [if_pos hknown] at hplace
                rw [Entry.repeated?, declared, hroot, collect, hplace]
                simp only
                rw [hrest, names_addProperty, map_extended_addProperty hpath]
              · rw [if_neg hknown] at hplace
                refine hpass hroot (fun name hname => ?_) (by rw [collect, hplace])
                rw [property?_of_path hpath, if_neg]
                rintro rfl
                exact hknown hname

end Outline

end CallGuard
