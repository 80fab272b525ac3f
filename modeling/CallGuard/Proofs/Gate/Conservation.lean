import CallGuard.Proofs.Gate.Lines
import CallGuard.Proofs.Gate.Reporters
import CallGuard.Proofs.Parameter.Placing
import CallGuard.Standard.Platform

/-!
# No line is lost

Every line that a gate is built from ends in exactly one place. It makes a parameter of the gate, or
a property of one of its parameters, or it is left out with a record that tells so. Only a value
that is no text ends nowhere. In the order of the lines each kind of place is filled from the first
to the last, so none is filled twice and none without a line. Where a parameter is declared again
building ends, and only the lines above have left records.
-/

namespace CallGuard

open Declaration (onLine? rootOn? rootNamesOn)

/-- The record that tells what was left out. -/
def Omission.record (function : Option String) (omission : Omission) : Log.Record :=
  omission.site.record debugSeverity omission.message (omission.extra function)

/-- A line is the one that an omission tells of. -/
def Omission.IsOf (line : Value) : Omission → Prop
  | .noHeading text => line = .text text ∧ Declaration.read text = .noHeading
  | .emptySegment text => line = .text text ∧ Declaration.read text = .emptySegment
  | .orphan name path => ∃ d, onLine? line = some d ∧ d.name = name ∧ d.path = some path

/-- The place of a line: a parameter, a property of a parameter, an omission, or none. -/
inductive Destination
  | parameter (place : Nat)
  | property (place below : Nat)
  | omission (place : Nat)
  | nowhere
  deriving DecidableEq, Repr

namespace Destination

def parameter? : Destination → Option Nat
  | .parameter place => some place
  | _ => none

/-- The place of a property among those of one parameter. -/
def property? (owner : Nat) : Destination → Option Nat
  | .property place below => if place = owner then some below else none
  | _ => none

def omission? : Destination → Option Nat
  | .omission place => some place
  | _ => none

/-- What stands at a place was made from a line; only what is no text has no place. -/
def Receives (outline : Outline) (omitted : List Omission) (line : Value) : Destination → Prop
  | .parameter place =>
    ∃ d parameter, onLine? line = some d ∧ d.path = none ∧ outline[place]? = some parameter ∧
      parameter.tag = d.tag ∧ parameter.name = d.name ∧ parameter.description = d.description
  | .property place below =>
    ∃ d path parameter, onLine? line = some d ∧ d.path = some path ∧
      outline[place]? = some parameter ∧ parameter.name = d.name ∧
      parameter.properties[below]? = some ⟨d.name, path, d.tag, d.description, d.depth⟩
  | .omission place => ∃ omission, omitted[place]? = some omission ∧ omission.IsOf line
  | .nowhere => BuiltinType.isText line = false

end Destination

/--
Destinations account for lines: each receives its line, and in the order of the lines they are all
the parameters, all the properties of each parameter, and all the omissions.
-/
structure Outline.Accounts (outline : Outline) (omitted : List Omission) (lines : List Value)
    (ends : List Destination) : Prop where
  received : List.Forall₂ (fun line place => place.Receives outline omitted line) lines ends
  parameters : ends.filterMap Destination.parameter? = List.range outline.length
  properties : ∀ (place : Nat) (parameter : Parameter), outline[place]? = some parameter →
    ends.filterMap (Destination.property? place) = List.range parameter.properties.length
  omissions : ends.filterMap Destination.omission? = List.range omitted.length

namespace Entry

variable {line : Value}

/-- What a line is when it makes an entry. -/
theorem ofValue_spec (line : Value) :
    match ofValue line with
    | .declaration d => onLine? line = some d
    | .noHeading text => (Omission.noHeading text).IsOf line
    | .emptySegment text => (Omission.emptySegment text).IsOf line
    | .nothing => BuiltinType.isText line = false := by
  cases line with
  | text s =>
      rw [ofValue]
      cases hread : Declaration.read s with
      | declaration d =>
          show onLine? (.text s) = some d
          rw [onLine?_eq, ofValue, hread]
      | noHeading => exact ⟨rfl, hread⟩
      | emptySegment => exact ⟨rfl, hread⟩
  | _ => rfl

theorem ofValue_eq_nothing_iff : ofValue line = .nothing ↔ BuiltinType.isText line = false := by
  cases line with
  | text s =>
      rw [ofValue]
      cases Declaration.read s <;> simp [BuiltinType.isText]
  | _ => exact iff_of_true rfl rfl

end Entry

namespace Outline

variable {function : Option String} {outline next final : Outline} {entry : Entry}
  {omission : Option Omission} {omitted front all : List Omission} {line : Value}
  {lines : List Value} {entries : List Entry} {constraint : PropertyConstraint}
  {parameter : Parameter} {place : Nat}

/-! ### Outlines that grow -/

/-- Each parameter stays at its place, and its properties stay in front of new ones. -/
def Grows (outline next : Outline) : Prop :=
  ∀ (place : Nat) (parameter : Parameter), outline[place]? = some parameter → ∃ grown : Parameter,
    next[place]? = some grown ∧ grown.tag = parameter.tag ∧ grown.name = parameter.name ∧
    grown.description = parameter.description ∧ parameter.properties <+: grown.properties

def propertyCount (outline : Outline) (place : Nat) : Nat :=
  (outline[place]?.map fun parameter => parameter.properties.length).getD 0

/-- All properties, parameter by parameter. -/
def properties (outline : Outline) : List PropertyConstraint :=
  outline.flatMap fun parameter => parameter.properties

/-- The number of parameters and of their properties. -/
def size (outline : Outline) : Nat :=
  outline.length + outline.properties.length

theorem grows_refl (outline : Outline) : outline.Grows outline :=
  fun _ parameter h => ⟨parameter, h, rfl, rfl, rfl, List.prefix_refl _⟩

theorem Grows.trans (first : outline.Grows next) (second : next.Grows final) :
    outline.Grows final := by
  intro place parameter h
  obtain ⟨grown, hgrown, htag, hname, hdescription, hproperties⟩ := first place parameter h
  obtain ⟨last, hlast, htag', hname', hdescription', hproperties'⟩ := second place grown hgrown
  exact ⟨last, hlast, htag'.trans htag, hname'.trans hname, hdescription'.trans hdescription,
    hproperties.trans hproperties'⟩

theorem getElem?_addProperty (outline : Outline) (constraint : PropertyConstraint) (place : Nat) :
    (outline.addProperty constraint)[place]? =
      outline[place]?.map fun parameter =>
        if parameter.name = constraint.name then
          { parameter with properties := parameter.properties ++ [constraint] }
        else parameter := by
  rw [addProperty, List.getElem?_map]

theorem Passes.grows (h : outline.Passes entry omission next) : outline.Grows next := by
  cases h with
  | parameter hpath hnew =>
      intro place parameter hplace
      obtain ⟨hbound, _⟩ := List.getElem?_eq_some_iff.mp hplace
      refine ⟨parameter, ?_, rfl, rfl, rfl, List.prefix_refl _⟩
      rw [addParameter, List.getElem?_append_left hbound, hplace]
  | property hpath hknown hdeep =>
      intro place parameter hplace
      rw [getElem?_addProperty, hplace]
      refine ⟨_, rfl, ?_⟩
      dsimp only
      split
      · exact ⟨rfl, rfl, rfl, List.prefix_append _ _⟩
      · exact ⟨rfl, rfl, rfl, List.prefix_refl _⟩
  | _ => exact grows_refl outline

theorem grows_of_collect (h : collect function outline entries = (omitted, .ok final)) :
    outline.Grows final := by
  induction entries generalizing outline omitted with
  | nil =>
      cases h
      exact grows_refl final
  | cons entry rest ih =>
      obtain ⟨_, next, later, hpasses, hrest, _⟩ := exists_passes_of_collect h
      exact hpasses.grows.trans (ih hrest)

theorem exists_place_of_name {name : String} (h : name ∈ outline.map (·.name)) :
    ∃ (place : Nat) (parameter : Parameter),
      outline[place]? = some parameter ∧ parameter.name = name := by
  obtain ⟨parameter, hmem, hname⟩ := List.mem_map.mp h
  obtain ⟨place, hplace⟩ := List.mem_iff_getElem?.mp hmem
  exact ⟨place, parameter, hplace, hname⟩

theorem propertyCount_of_getElem? (h : outline[place]? = some parameter) :
    outline.propertyCount place = parameter.properties.length := by
  rw [propertyCount, h]
  rfl

/-- Only one parameter gets a new property. -/
theorem propertyCount_addProperty (hdistinct : (outline.map (·.name)).Nodup)
    (hplace : outline[place]? = some parameter) (hname : parameter.name = constraint.name)
    (other : Nat) :
    (outline.addProperty constraint).propertyCount other =
      if place = other then outline.propertyCount other + 1 else outline.propertyCount other := by
  rw [propertyCount, propertyCount, getElem?_addProperty]
  by_cases hsame : place = other
  · subst hsame
    rw [if_pos rfl, hplace]
    simp [hname]
  · rw [if_neg hsame]
    cases hother : outline[other]? with
    | none => rfl
    | some found =>
        have hne : found.name ≠ constraint.name := by
          intro heq
          have hnames : (outline.map (·.name))[place]? = (outline.map (·.name))[other]? := by
            rw [List.getElem?_map, List.getElem?_map, hplace, hother, Option.map_some,
              Option.map_some, hname, heq]
          obtain ⟨hbound, _⟩ := List.getElem?_eq_some_iff.mp hplace
          exact hsame ((List.getElem?_inj (by simpa using hbound) hdistinct).mp hnames)
        simp [hne]

theorem addProperty_of_not_mem (h : constraint.name ∉ outline.map (·.name)) :
    outline.addProperty constraint = outline := by
  rw [addProperty]
  refine (List.map_congr_left fun parameter hmem => ?_).trans (List.map_id outline)
  refine if_neg fun hname => h ?_
  exact List.mem_map.mpr ⟨parameter, hmem, hname⟩

theorem size_cons (parameter : Parameter) (outline : Outline) :
    size (parameter :: outline) = size outline + 1 + parameter.properties.length := by
  rw [size, size, properties, properties, List.flatMap_cons, List.length_cons, List.length_append]
  omega

theorem size_addParameter (outline : Outline) (d : Declaration) :
    (outline.addParameter d).size = outline.size + 1 := by
  have hsame : (outline.addParameter d).properties = outline.properties := by
    rw [properties, properties, addParameter, List.flatMap_append]
    exact List.append_nil _
  rw [size, size, hsame, addParameter, List.length_append, List.length_singleton]
  omega

theorem size_addProperty (hdistinct : (outline.map (·.name)).Nodup)
    (hmem : constraint.name ∈ outline.map (·.name)) :
    (outline.addProperty constraint).size = outline.size + 1 := by
  induction outline with
  | nil => cases hmem
  | cons parameter rest ih =>
      rw [List.map_cons, List.nodup_cons] at hdistinct
      obtain ⟨hfirst, hrest⟩ := hdistinct
      have hcons : addProperty (parameter :: rest) constraint =
          (if parameter.name = constraint.name then
            { parameter with properties := parameter.properties ++ [constraint] }
          else parameter) :: addProperty rest constraint := rfl
      rw [hcons, size_cons, size_cons]
      by_cases hname : parameter.name = constraint.name
      · have hothers : addProperty rest constraint = rest :=
          addProperty_of_not_mem (by rwa [hname] at hfirst)
        rw [if_pos hname, hothers, List.length_append, List.length_singleton]
        omega
      · have hlater := (List.mem_cons.mp hmem).resolve_left (Ne.symm hname)
        rw [if_neg hname, ih hrest hlater]
        omega

/-! ### One line -/

theorem Passes.size_eq (h : outline.Passes entry omission next) (htidy : outline.IsTidy) :
    next.size + omission.toList.length + [entry].countP (· = .nothing) = outline.size + 1 := by
  cases h with
  | nothing => rfl
  | noHeading line => rfl
  | emptySegment line => rfl
  | parameter hpath hnew =>
      rw [size_addParameter]
      rfl
  | property hpath hknown hdeep =>
      rw [size_addProperty htidy.distinct hknown]
      rfl
  | orphan hpath hunknown => rfl

/--
Destinations are, in their order and for each kind, the places that an outline gains when it grows
and more is left out.
-/
structure Fills (outline next : Outline) (omitted left : List Omission)
    (ends : List Destination) : Prop where
  parameters :
    List.range outline.length ++ ends.filterMap Destination.parameter? = List.range next.length
  properties (owner : Nat) :
    List.range (outline.propertyCount owner) ++ ends.filterMap (Destination.property? owner) =
      List.range (next.propertyCount owner)
  omissions :
    List.range omitted.length ++ ends.filterMap Destination.omission? = List.range left.length

theorem fills_nil (outline : Outline) (omitted : List Omission) :
    Fills outline outline omitted omitted [] :=
  ⟨List.append_nil _, fun _ => List.append_nil _, List.append_nil _⟩

theorem Fills.append {ends more : List Destination} {left : List Omission}
    (first : Fills outline next omitted left ends) (second : Fills next final left all more) :
    Fills outline final omitted all (ends ++ more) := by
  refine ⟨?_, fun owner => ?_, ?_⟩
  · rw [List.filterMap_append, ← List.append_assoc, first.parameters, second.parameters]
  · rw [List.filterMap_append, ← List.append_assoc, first.properties, second.properties]
  · rw [List.filterMap_append, ← List.append_assoc, first.omissions, second.omissions]

theorem fills_nowhere (outline : Outline) (omitted : List Omission) :
    Fills outline outline omitted omitted [.nowhere] :=
  ⟨List.append_nil _, fun _ => List.append_nil _, List.append_nil _⟩

theorem fills_omission (outline : Outline) (omitted : List Omission) (last : Omission) :
    Fills outline outline omitted (omitted ++ [last]) [.omission omitted.length] := by
  refine ⟨List.append_nil _, fun _ => List.append_nil _, ?_⟩
  rw [List.length_append]
  exact List.range_succ.symm

theorem propertyCount_addParameter (outline : Outline) (d : Declaration) (owner : Nat) :
    (outline.addParameter d).propertyCount owner = outline.propertyCount owner := by
  rw [propertyCount, propertyCount, addParameter]
  rcases Nat.lt_trichotomy owner outline.length with hlt | rfl | hgt
  · rw [List.getElem?_append_left hlt]
  · simp
  · rw [List.getElem?_eq_none (by simp; omega), List.getElem?_eq_none (by omega)]

theorem fills_parameter (outline : Outline) (omitted : List Omission) (d : Declaration) :
    Fills outline (outline.addParameter d) omitted omitted [.parameter outline.length] := by
  refine ⟨?_, fun owner => ?_, List.append_nil _⟩
  · rw [addParameter, List.length_append]
    exact List.range_succ.symm
  · rw [propertyCount_addParameter]
    exact List.append_nil _

theorem fills_property (hdistinct : (outline.map (·.name)).Nodup)
    (hplace : outline[place]? = some parameter) (hname : parameter.name = constraint.name)
    (omitted : List Omission) :
    Fills outline (outline.addProperty constraint) omitted omitted
      [.property place parameter.properties.length] := by
  refine ⟨?_, fun owner => ?_, List.append_nil _⟩
  · rw [addProperty, List.length_map]
    exact List.append_nil _
  · rw [propertyCount_addProperty hdistinct hplace hname]
    by_cases hsame : place = owner
    · subst hsame
      rw [if_pos rfl, propertyCount_of_getElem? hplace, List.range_succ]
      simp [Destination.property?]
    · rw [if_neg hsame]
      simp [Destination.property?, hsame]

theorem receives_parameter {d : Declaration} (hline : onLine? line = some d) (hpath : d.path = none)
    (hgrows : (outline.addParameter d).Grows final) :
    (Destination.parameter outline.length).Receives final all line := by
  have hnew : (outline.addParameter d)[outline.length]? =
      some ⟨d.tag, d.name, d.description, []⟩ := by
    simp [addParameter]
  obtain ⟨grown, hgrown, htag, hname, hdescription, _⟩ := hgrows _ _ hnew
  exact ⟨d, grown, hline, hpath, hgrown, htag, hname, hdescription⟩

theorem receives_property {d : Declaration} {path : String} (hline : onLine? line = some d)
    (hpath : d.path = some path) (hplace : outline[place]? = some parameter)
    (hname : parameter.name = d.name)
    (hgrows : (outline.addProperty ⟨d.name, path, d.tag, d.description, d.depth⟩).Grows final) :
    (Destination.property place parameter.properties.length).Receives final all line := by
  have hchanged : (outline.addProperty ⟨d.name, path, d.tag, d.description, d.depth⟩)[place]? =
      some { parameter with properties :=
        parameter.properties ++ [⟨d.name, path, d.tag, d.description, d.depth⟩] } := by
    rw [getElem?_addProperty, hplace, Option.map_some, if_pos hname]
  obtain ⟨grown, hgrown, _, hgrownName, _, later, hlater⟩ := hgrows _ _ hchanged
  refine ⟨d, path, grown, hline, hpath, hgrown, hgrownName.trans hname, ?_⟩
  rw [← hlater]
  simp

theorem receives_omission {told : Omission} (hof : told.IsOf line)
    (hall : front ++ [told] <+: all) :
    (Destination.omission front.length).Receives final all line := by
  obtain ⟨later, rfl⟩ := hall
  exact ⟨told, by simp, hof⟩

/--
A line that passes has a place, the next one of its kind. What stands there stays as it is while the
outline grows and more is left out.
-/
theorem Passes.exists_destination (h : outline.Passes (.ofValue line) omission next)
    (htidy : outline.IsTidy) (front : List Omission) :
    ∃ place : Destination, Fills outline next front (front ++ omission.toList) [place] ∧
      ∀ final all, next.Grows final → front ++ omission.toList <+: all →
        place.Receives final all line := by
  have hline := Entry.ofValue_spec line
  generalize Entry.ofValue line = entry at h hline
  cases h with
  | nothing =>
      rw [Option.toList_none, List.append_nil]
      exact ⟨.nowhere, fills_nowhere outline front, fun _ _ _ _ => hline⟩
  | noHeading text =>
      exact ⟨.omission front.length, fills_omission outline front _,
        fun _ _ _ => receives_omission hline⟩
  | emptySegment text =>
      exact ⟨.omission front.length, fills_omission outline front _,
        fun _ _ _ => receives_omission hline⟩
  | @orphan d path hpath hunknown =>
      exact ⟨.omission front.length, fills_omission outline front _,
        fun _ _ _ => receives_omission ⟨d, hline, rfl, hpath⟩⟩
  | @parameter d hpath hnew =>
      rw [Option.toList_none, List.append_nil]
      exact ⟨.parameter outline.length, fills_parameter outline front d,
        fun _ _ hgrows _ => receives_parameter hline hpath hgrows⟩
  | @property d path hpath hknown hdeep =>
      rw [Option.toList_none, List.append_nil]
      obtain ⟨place, parameter, hplace, hname⟩ := exists_place_of_name hknown
      exact ⟨.property place parameter.properties.length,
        fills_property htidy.distinct hplace hname front,
        fun _ _ hgrows _ => receives_property hline hpath hplace hname hgrows⟩

/-! ### All lines -/

theorem size_of_collect (h : collect function outline entries = (omitted, .ok final))
    (htidy : outline.IsTidy) :
    final.size + omitted.length + entries.countP (· = .nothing) =
      outline.size + entries.length := by
  induction entries generalizing outline omitted with
  | nil =>
      cases h
      rfl
  | cons entry rest ih =>
      obtain ⟨omission, next, later, hpasses, hrest, rfl⟩ := exists_passes_of_collect h
      have hfirst := hpasses.size_eq htidy
      have hlater := ih hrest (hpasses.isTidy htidy)
      rw [← List.singleton_append, List.countP_append, List.length_append, List.length_append,
        List.length_singleton]
      omega

/-- The places of lines, from an outline on and with omissions in front of theirs. -/
theorem exists_destinations
    (h : collect function outline (lines.map Entry.ofValue) = (omitted, .ok final))
    (htidy : outline.IsTidy) (front : List Omission) :
    ∃ ends, Fills outline final front (front ++ omitted) ends ∧
      List.Forall₂ (fun line (place : Destination) =>
        place.Receives final (front ++ omitted) line) lines ends := by
  induction lines generalizing outline omitted front with
  | nil =>
      cases h
      rw [List.append_nil]
      exact ⟨[], fills_nil final front, .nil⟩
  | cons line rest ih =>
      rw [List.map_cons] at h
      obtain ⟨omission, next, later, hpasses, hrest, rfl⟩ := exists_passes_of_collect h
      obtain ⟨place, hfills, hreceives⟩ := hpasses.exists_destination htidy front
      obtain ⟨ends, hfillsRest, hends⟩ := ih hrest (hpasses.isTidy htidy) (front ++ omission.toList)
      have hfirst : place.Receives final (front ++ omission.toList ++ later) line :=
        hreceives final _ (grows_of_collect hrest) (List.prefix_append _ _)
      rw [← List.append_assoc]
      exact ⟨place :: ends, hfills.append hfillsRest, .cons hfirst hends⟩

theorem exists_accounts
    (h : collect function [] (lines.map Entry.ofValue) = (omitted, .ok final)) :
    ∃ ends, final.Accounts omitted lines ends := by
  obtain ⟨ends, hfills, hreceived⟩ := exists_destinations h isTidy_nil []
  refine ⟨ends, hreceived, hfills.parameters, fun place parameter hplace => ?_, hfills.omissions⟩
  rw [← propertyCount_of_getElem? hplace]
  exact hfills.properties place

/-- Places and omissions are as many as lines that are texts. -/
theorem count_of_collect
    (h : collect function [] (lines.map Entry.ofValue) = (omitted, .ok final)) :
    final.length + final.properties.length + omitted.length +
      lines.countP (fun line => !BuiltinType.isText line) = lines.length := by
  have hsize := size_of_collect h isTidy_nil
  have hcount : (lines.map Entry.ofValue).countP (· = .nothing) =
      lines.countP fun line => !BuiltinType.isText line := by
    rw [List.countP_map]
    refine List.countP_congr fun line _ => ?_
    simp [Entry.ofValue_eq_nothing_iff]
  have hempty : size [] = 0 := rfl
  rw [hcount, List.length_map, hempty, Nat.zero_add] at hsize
  exact hsize

end Outline

namespace Gate

variable {lines : List Value} {function : String} {omitted : List Omission}

/-- Lines that declare no parameter twice can all be placed. -/
theorem exists_collect_of_nodup (function : Option String) (hdistinct : (rootNamesOn lines).Nodup) :
    ∃ omitted, Outline.collect function [] (lines.map Entry.ofValue) =
      (omitted, .ok (Outline.ofLines lines)) := by
  have hsound : ∀ entry ∈ lines.map Entry.ofValue, entry.IsSound := by
    intro entry hentry
    obtain ⟨line, _, rfl⟩ := List.mem_map.mp hentry
    exact Entry.ofValue_isSound line
  have hcollect := Outline.collect_eq function [] _ hsound
  rw [List.map_nil, Entry.repeated?_ofValue_eq_none_iff.mpr hdistinct] at hcollect
  exact ⟨_, Prod.ext rfl hcollect⟩

/-- Lines are placed up to the first that declares a parameter again. -/
theorem collect_of_repeated {above below : List Value} {line : Value} {d : Declaration}
    (habove : Outline.collect (some function) [] (above.map Entry.ofValue) =
      (omitted, .ok (Outline.ofLines above)))
    (hline : rootOn? line = some d) (hknown : d.name ∈ rootNamesOn above) :
    Outline.collect (some function) [] ((above ++ line :: below).map Entry.ofValue) =
      (omitted, .error (.duplicateParameter d.name (some function))) := by
  obtain ⟨hentry, hpath⟩ := Entry.eq_declaration_of_root? ((Entry.root?_ofValue line).trans hline)
  have hstep : Outline.step (some function) (Outline.ofLines above) (Entry.ofValue line) =
      (none, .error (.duplicateParameter d.name (some function))) := by
    rw [hentry]
    exact Outline.step_of_duplicate hpath (by rw [Outline.names_ofLines]; exact hknown)
  rw [List.map_append, Outline.collect_append_of_ok habove, List.map_cons,
    Outline.collect_cons_of_error hstep, List.append_nil]

end Gate

/-! ### The records of building -/

namespace Session

variable [Platform]

theorem recordingAll_append (session : Session) (records more : List Log.Record) :
    (session.recordingAll records).recordingAll more = session.recordingAll (records ++ more) := by
  rw [recordingAll, recordingAll, recordingAll, List.foldl_append]

/-- Records whose severity is in force are all kept, in order. -/
theorem records_recordingAll {session : Session} {records : List Log.Record} {severity : Int}
    (hrecords : ∀ record ∈ records, record.severity = severity)
    (henabled : session.journal.isEnabled severity = true) :
    (session.recordingAll records).journal.records = session.journal.records ++ records := by
  suffices hjournal : ∀ journal : Log.Journal, journal.isEnabled severity = true →
      (records.foldl Log.Journal.add journal).records = journal.records ++ records from
    hjournal session.journal henabled
  intro journal hin
  induction records generalizing journal with
  | nil => exact (List.append_nil _).symm
  | cons record rest ih =>
      have hadd : journal.add record =
          { journal with
            records := journal.records ++ [record]
            written := journal.written ++ journal.linesFor record } := by
        rw [Log.Journal.add, hrecords record List.mem_cons_self, if_pos hin]
      rw [List.foldl_cons, ih (fun later hlater => hrecords later (List.mem_cons_of_mem _ hlater)) _
        (by rw [hadd]; exact hin), hadd, List.append_assoc, List.singleton_append]

end Session

section

variable [Platform]

theorem Omission.on_logAll (function : Option String) (omitted : List Omission)
    (session : Session) :
    (logAll function omitted).on session =
      (.ok (), session.recordingAll (omitted.map (Omission.record function))) := by
  induction omitted generalizing session with
  | nil => rfl
  | cons omission rest ih =>
      have hfirst : (omission.log function).on session =
          (.ok (), session.recording (omission.record function)) := rfl
      rw [logAll, Run.on_bind_of_ok hfirst, ih]
      rfl

namespace Gate

/-- The record of a gate that was built. -/
def builtRecord (gate : Gate) : Log.Record :=
  buildSite.record debugSeverity
    ("Built validation gate for " ++ gate.function ++ " with " ++ toString gate.outline.length ++
      " parameter(s)")
    [("wrapped_function", .text gate.function),
      ("parameters", .list (gate.parameterNames.map Value.text))]

variable {function : String} {lines : List Value} {registry : Option RegistryId}
  {reporter : Option Reporter} {session built : Session} {omitted : List Omission}
  {outline : Outline} {gate : Gate} {failure : Failure}

theorem on_build_of_ok
    (h : Outline.collect (some function) [] (lines.map Entry.ofValue) = (omitted, .ok outline)) :
    (build function lines registry reporter).on session =
      (.ok { function, outline, registry, reporter },
        session.recordingAll (omitted.map (Omission.record (some function)) ++
          [builtRecord { function, outline, registry, reporter }])) := by
  have hbuild : (Outline.build (some function) (lines.map Entry.ofValue)).on session =
      (.ok outline, session.recordingAll (omitted.map (Omission.record (some function)))) := by
    rw [Outline.build, h]
    exact Run.on_bind_of_ok (Omission.on_logAll _ _ _) _
  rw [build, Run.on_bind_of_ok hbuild, ← Session.recordingAll_append]
  rfl

theorem on_build_of_error
    (h : Outline.collect (some function) [] (lines.map Entry.ofValue) = (omitted, .error failure)) :
    (build function lines registry reporter).on session =
      (.error failure, session.recordingAll (omitted.map (Omission.record (some function)))) := by
  have hbuild : (Outline.build (some function) (lines.map Entry.ofValue)).on session =
      (.error failure, session.recordingAll (omitted.map (Omission.record (some function)))) := by
    rw [Outline.build, h]
    exact Run.on_bind_of_ok (Omission.on_logAll _ _ _) _
  rw [build, Run.on_bind_of_error hbuild]

theorem exists_collect_of_build
    (h : (build function lines registry reporter).on session = (.ok gate, built)) :
    ∃ omitted, Outline.collect (some function) [] (lines.map Entry.ofValue) =
      (omitted, .ok gate.outline) := by
  rcases hcollect : Outline.collect (some function) [] (lines.map Entry.ofValue) with
    ⟨omitted, outcome⟩
  cases outcome with
  | error failure =>
      rw [on_build_of_error hcollect] at h
      cases h
  | ok outline =>
      rw [on_build_of_ok hcollect] at h
      cases h
      exact ⟨omitted, rfl⟩

/--
Every line that a gate is built from has one place: a parameter, a property of one parameter, or an
omission; only a value that is no text has none. Places of one kind are filled in the order of the
lines, each by one line, so there are as many as lines with a place. Building leaves a record for
each omission in this order, and then the record of the gate. Where a parameter is declared again
building fails, and there are only the records of the omissions among the lines above.
-/
theorem lines_are_accounted_for (function : String) (lines : List Value)
    (registry : Option RegistryId) (reporter : Option Reporter) (session : Session) :
    (∀ gate built, (build function lines registry reporter).on session = (.ok gate, built) →
      ∃ omitted ends, gate.outline.Accounts omitted lines ends ∧
        gate.outline.length + gate.outline.properties.length + omitted.length +
          lines.countP (fun line => !BuiltinType.isText line) = lines.length ∧
        built = session.recordingAll
          (omitted.map (Omission.record (some function)) ++ [gate.builtRecord]) ∧
        (session.journal.isEnabled debugSeverity = true →
          built.journal.records = session.journal.records ++
            (omitted.map (Omission.record (some function)) ++ [gate.builtRecord]))) ∧
    ∀ failure built, (build function lines registry reporter).on session = (.error failure, built) →
      ∃ above line below d omitted ends, lines = above ++ line :: below ∧
        rootOn? line = some d ∧ d.name ∈ rootNamesOn above ∧
        failure = .duplicateParameter d.name (some function) ∧
        (Outline.ofLines above).Accounts omitted above ends ∧
        built = session.recordingAll (omitted.map (Omission.record (some function))) ∧
        (session.journal.isEnabled debugSeverity = true →
          built.journal.records =
            session.journal.records ++ omitted.map (Omission.record (some function))) := by
  have homissions (omitted : List Omission) :
      ∀ record ∈ omitted.map (Omission.record (some function)),
        record.severity = debugSeverity := by
    intro record hrecord
    obtain ⟨omission, _, rfl⟩ := List.mem_map.mp hrecord
    rfl
  refine ⟨fun gate built hbuild => ?_, fun failure built hbuild => ?_⟩
  · obtain ⟨omitted, hcollect⟩ := exists_collect_of_build hbuild
    obtain ⟨ends, haccounts⟩ := Outline.exists_accounts hcollect
    rw [on_build_of_ok hcollect] at hbuild
    obtain ⟨hgate, rfl⟩ := Prod.mk.inj hbuild
    rw [Except.ok.inj hgate]
    refine ⟨omitted, ends, haccounts, Outline.count_of_collect hcollect, rfl, ?_⟩
    refine Session.records_recordingAll fun record hrecord => ?_
    rcases List.mem_append.mp hrecord with homission | hlast
    · exact homissions omitted record homission
    · rw [List.mem_singleton.mp hlast]
      rfl
  · have houtcome := on_build function lines registry reporter session
    rw [hbuild] at houtcome
    cases hrepeated : Entry.repeated? [] (lines.map Entry.ofValue) with
    | none =>
        rw [hrepeated] at houtcome
        cases houtcome
    | some name =>
        obtain ⟨above, line, below, d, rfl, habove, hline, rfl, hknown⟩ :=
          Entry.repeated?_ofValue_eq_some_iff.mp hrepeated
        obtain ⟨omitted, hcollect⟩ := exists_collect_of_nodup (some function) habove
        obtain ⟨ends, haccounts⟩ := Outline.exists_accounts hcollect
        rw [on_build_of_error (collect_of_repeated hcollect hline hknown)] at hbuild
        cases hbuild
        exact ⟨above, line, below, d, omitted, ends, rfl, hline, hknown, rfl, haccounts, rfl,
          Session.records_recordingAll (homissions omitted)⟩

end Gate

end

open scoped Standard

namespace Gate

/-- A line for each kind of place: a parameter, its property, three omissions, and no text. -/
def linesOfEveryKind : List Value :=
  [.text "{Object} [x]", .text "{String} [x.a]", .text "x", .text "{String} [x..a]",
    .text "{String} [y.a]", .null]

/-- The same lines above one that declares the parameter again. -/
def linesWithRepetition : List Value :=
  linesOfEveryKind ++ [.text "{Number} [x]", .text "y"]

theorem lines_of_every_kind_are_accounted_for :
    (∃ gate built omitted ends,
      (build "f" linesOfEveryKind none none).on {} = (.ok gate, built) ∧
      gate.outline.Accounts omitted linesOfEveryKind ends ∧
      gate.outline.length + gate.outline.properties.length + omitted.length + 1 = 6) ∧
    ∃ built above line below omitted ends,
      (build "f" linesWithRepetition none none).on {} =
        (.error (.duplicateParameter "x" (some "f")), built) ∧
      linesWithRepetition = above ++ line :: below ∧
      (Outline.ofLines above).Accounts omitted above ends ∧
      built = ({} : Session).recordingAll (omitted.map (Omission.record (some "f"))) := by
  constructor
  · have hcollect : Outline.collect (some "f") [] (linesOfEveryKind.map Entry.ofValue) =
        ([.noHeading "x", .emptySegment "{String} [x..a]", .orphan "y" "a"],
          .ok [⟨"Object", "x", "", [⟨"x", "a", "String", "", 2⟩]⟩]) := by rfl
    have hbuild : (build "f" linesOfEveryKind none none).on {} = _ := on_build_of_ok hcollect
    obtain ⟨omitted, ends, haccounts, hcount, _⟩ :=
      (lines_are_accounted_for "f" linesOfEveryKind none none {}).1 _ _ hbuild
    exact ⟨_, _, omitted, ends, hbuild, haccounts, hcount⟩
  · have hcollect : Outline.collect (some "f") [] (linesWithRepetition.map Entry.ofValue) =
        ([.noHeading "x", .emptySegment "{String} [x..a]", .orphan "y" "a"],
          .error (.duplicateParameter "x" (some "f"))) := by rfl
    have hbuild : (build "f" linesWithRepetition none none).on {} = _ := on_build_of_error hcollect
    obtain ⟨above, line, below, _, omitted, ends, hlines, _, _, _, haccounts, hbuilt, _⟩ :=
      (lines_are_accounted_for "f" _ none none {}).2 _ _ hbuild
    exact ⟨_, above, line, below, omitted, ends, hbuild, hlines, haccounts, hbuilt⟩

end Gate

end CallGuard
