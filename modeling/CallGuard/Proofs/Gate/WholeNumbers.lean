import CallGuard.Proofs.Gate.Reports
import CallGuard.Proofs.Registry.NumericText
import CallGuard.Standard.Platform

/-!
# Parameters that take whole numbers

Every value that counts as a whole number counts as a number too, but for one kind of text: a whole
numeral of a size that no floating-point number has. So a parameter that is declared a number
refuses such a text alone of all that it would take if it were declared a whole number.
-/

namespace CallGuard

open Declaration
open CallGuard.Number CallGuard.Number.Binary64 CallGuard.Text

/-- A text of a whole numeral that is too large for a floating-point number. -/
def Value.IsLongNumeral (v : Value) : Prop :=
  ∃ s negative digits, v = .text s ∧ IsWholeNumeral negative digits (trim s.toList) ∧
    limit ≤ placeValue digits

namespace BuiltinType

/-- A whole numeral is a number just when its own size is small enough. -/
theorem isNumber_of_isWholeNumeral {s : String} {negative : Bool} {digits : List Char}
    (h : IsWholeNumeral negative digits (trim s.toList)) :
    isNumber (.text s) = true ↔ (placeValue digits : ℚ) < limit := by
  have hsize : |Numeral.value ⟨negative, placeValue digits, 0⟩| = placeValue digits := by
    rw [Numeral.abs_value, zpow_zero, mul_one]
  rw [isNumber_text]
  constructor
  · rintro ⟨numeral, hspells, hlimit⟩
    obtain rfl := hspells.unique h.spells
    rwa [hsize] at hlimit
  · intro hlimit
    exact ⟨_, h.spells, by rwa [hsize]⟩

theorem isFinite_of_isWhole {x : Binary64} (h : x.isWhole = true) : x.isFinite = true := by
  obtain ⟨n, hn⟩ := x.isWhole_iff.mp h
  rw [Binary64.isFinite_iff, hn]
  rfl

theorem isInteger_and_not_isNumber_iff {v : Value} :
    isInteger v = true ∧ isNumber v = false ↔ v.IsLongNumeral := by
  constructor
  · rintro ⟨hinteger, hnumber⟩
    cases v with
    | text s =>
        obtain ⟨negative, digits, h⟩ := isInteger_text.mp hinteger
        refine ⟨s, negative, digits, rfl, h, ?_⟩
        rw [Bool.eq_false_iff, ne_eq, isNumber_of_isWholeNumeral h, not_lt] at hnumber
        exact hnumber
    | int n => cases hnumber
    | float x =>
        rw [show isNumber (.float x) = true from isFinite_of_isWhole hinteger] at hnumber
        cases hnumber
    | decimal d =>
        obtain ⟨n, hn⟩ := d.isWhole_iff.mp hinteger
        have hfinite : d.isFinite = true := by
          rw [Decimal.isFinite_iff, hn]
          rfl
        rw [show isNumber (.decimal d) = true from hfinite] at hnumber
        cases hnumber
    | fraction num den =>
        rw [show isNumber (.fraction num den) = true from isFinite_of_isWhole hinteger] at hnumber
        cases hnumber
    | _ => cases hinteger
  · rintro ⟨s, negative, digits, rfl, h, hlong⟩
    refine ⟨isInteger_text.mpr ⟨negative, digits, h⟩, ?_⟩
    rw [Bool.eq_false_iff, ne_eq, isNumber_of_isWholeNumeral h, not_lt]
    exact hlong

end BuiltinType

namespace Gate

open BuiltinType

variable {gate : Gate} {arguments : Arguments} {session : Session}

/-- What stands in the trace of a call stays there when nothing more is inspected. -/
theorem events_of_last (first : Traced Unit) (state : Session × List Event) :
    ((first >>= fun _ => pure ()).on state).2.2 = (first.on state).2.2 := by
  rw [Traced.on_bind]
  rcases first.on state with ⟨outcome, after⟩
  cases outcome with
  | ok _ => rfl
  | error failure => rfl

section

variable [Platform]

/-- A gate with a single parameter without properties reports its argument if that fails. -/
theorem reportsIn_trace_of_single {tag name description : String}
    (houtline : gate.outline = [⟨tag, name, description, []⟩])
    (hregistry : session.registry gate.registry = .builtin) :
    reportsIn (gate.trace arguments session).2.2 =
      match argument? arguments 0 name with
      | none => []
      | some v => if check tag v then [] else [gate.violation name tag v description] := by
  rw [trace, inspect, houtline, inspectFrom]
  cases hargument : argument? arguments 0 name with
  | none => rfl
  | some v =>
      have hcheck : (gate.tracing.check tag v).on (session, []) =
          (.ok (check tag v), session, [.checked tag v]) := by
        have hpasses := Registry.on_checkIn_of_builtin hregistry tag v
        rw [on_tracing_check]
        show (((Registry.checkIn gate.registry tag v).on session).1,
          ((Registry.checkIn gate.registry tag v).on session).2, [] ++ [Event.checked tag v]) = _
        rw [hpasses, List.nil_append]
      have hevents := events_of_last
        (inspectArgument gate.tracing ⟨tag, name, description, []⟩ v) (session, [])
      refine (congrArg reportsIn hevents).trans ?_
      rw [inspectArgument, Traced.on_bind, hcheck]
      cases hpasses : check tag v with
      | true =>
          simp only [hpasses, if_true]
          rfl
      | false =>
          simp only [hpasses, Bool.false_eq_true, if_false]
          rw [on_tracing_report, reportsIn_append, reportsIn_checked, reportsIn_reported,
            List.nil_append]

/-- What a gate with a single parameter finds wrong in a call. -/
theorem refuses_iff {tag name description : String}
    (houtline : gate.outline = [⟨tag, name, description, []⟩])
    (hregistry : session.registry gate.registry = .builtin) :
    reportsIn (gate.trace arguments session).2.2 ≠ [] ↔
      ∃ v, argument? arguments 0 name = some v ∧ check tag v = false := by
  rw [reportsIn_trace_of_single houtline hregistry]
  cases argument? arguments 0 name with
  | none => simp
  | some v =>
      simp only [Option.some.injEq, exists_eq_left']
      cases check tag v with
      | true => simp
      | false => simp

/--
Declared a number, a parameter refuses just those of the arguments that it takes if it is declared
a whole number which are texts of whole numerals too large for a floating-point number.
-/
theorem whole_numbers_pass_as_numbers {d : Declaration} {narrowLine wideLine : Value}
    (hnarrow : rootOn? narrowLine = some { d with tag := "Integer" })
    (hwide : rootOn? wideLine = some { d with tag := "Number" }) :
    (∀ v, isInteger v = true ∧ isNumber v = false ↔ v.IsLongNumeral) ∧
    ∀ function place reporter, ∃ narrow wide : Gate,
      (∀ session,
        ((Gate.build function [narrowLine] place reporter).on session).1 = .ok narrow ∧
        ((Gate.build function [wideLine] place reporter).on session).1 = .ok wide) ∧
      ∀ session : Session, session.registry place = .builtin → ∀ arguments,
        (reportsIn (narrow.trace arguments session).2.2 = [] ∧
          reportsIn (wide.trace arguments session).2.2 ≠ []) ↔
            ∃ v, argument? arguments 0 d.name = some v ∧ v.IsLongNumeral := by
  refine ⟨fun v => isInteger_and_not_isNumber_iff, fun function place reporter => ?_⟩
  have hbuild {tag : String} {line : Value} (h : rootOn? line = some { d with tag })
      (session : Session) : ((Gate.build function [line] place reporter).on session).1 =
        .ok (ofLines function [line] place reporter) := by
    have hnames : rootNamesOn [line] = [d.name] := by
      rw [rootNamesOn, List.filterMap_cons_some h]
      rfl
    have hdistinct : (rootNamesOn [line]).Nodup := hnames ▸ List.nodup_singleton d.name
    obtain ⟨built, hbuilt, -⟩ := exists_build hdistinct place reporter session
    exact congrArg Prod.fst hbuilt
  have houtline {tag : String} {line : Value} (h : rootOn? line = some { d with tag }) :
      (ofLines function [line] place reporter).outline = [⟨tag, d.name, d.description, []⟩] :=
    Outline.ofLines_cons_of_root h []
  refine ⟨ofLines function [narrowLine] place reporter, ofLines function [wideLine] place reporter,
    fun session => ⟨hbuild hnarrow session, hbuild hwide session⟩, ?_⟩
  intro session hregistry arguments
  rw [← not_ne_iff, refuses_iff (houtline hnarrow) hregistry,
    refuses_iff (houtline hwide) hregistry]
  constructor
  · rintro ⟨htaken, v, hargument, hrefused⟩
    refine ⟨v, hargument, isInteger_and_not_isNumber_iff.mp ⟨?_, hrefused⟩⟩
    by_contra hinteger
    exact htaken ⟨v, hargument, Bool.eq_false_iff.mpr hinteger⟩
  · rintro ⟨v, hargument, hlong⟩
    obtain ⟨hinteger, hnumber⟩ := isInteger_and_not_isNumber_iff.mpr hlong
    refine ⟨?_, v, hargument, hnumber⟩
    rintro ⟨other, hother, hrefused⟩
    obtain rfl := Option.some.inj (hargument.symm.trans hother)
    have hpasses : isInteger v = false := hrefused
    rw [hinteger] at hpasses
    cases hpasses

end

open scoped Standard

/-- The text of four hundred nines. -/
def nines : Value := .text (.ofList (.replicate 400 '9'))

theorem isLongNumeral_nines : nines.IsLongNumeral := by
  have hdigits : IsDigits (List.replicate 400 '9') := by
    refine ⟨List.cons_ne_nil _ _, fun c hc => ?_⟩
    rw [List.eq_of_mem_replicate hc]
    decide
  have htext : Signed false (List.replicate 400 '9') (List.replicate 400 '9') := Signed.unsigned _
  have hlength : (List.replicate 400 '9').length ≤ 4300 := by
    rw [List.length_replicate]
    decide
  have hsize : 10 ^ 310 ≤ placeValue (List.replicate 400 '9') := by decide +kernel
  refine ⟨_, false, List.replicate 400 '9', rfl, ?_, limit_le.trans (by exact_mod_cast hsize)⟩
  rw [String.toList_ofList, trim_eq_self (isTrimmed_of_signed htext hdigits)]
  exact ⟨htext, hdigits, hlength⟩

/-- Four hundred nines are taken as a whole number and refused as a number. -/
theorem nines_reported_as_number :
    rootOn? (.text "\x7bInteger\x7d [x]") = some ⟨"Integer", "x", none, "", 1⟩ ∧
      rootOn? (.text "\x7bNumber\x7d [x]") = some ⟨"Number", "x", none, "", 1⟩ ∧
      ∃ narrow wide : Gate,
        ((Gate.build "f" [.text "\x7bInteger\x7d [x]"] none none).on {}).1 = .ok narrow ∧
        ((Gate.build "f" [.text "\x7bNumber\x7d [x]"] none none).on {}).1 = .ok wide ∧
        reportsIn (narrow.trace ⟨[nines], []⟩ {}).2.2 = [] ∧
        reportsIn (wide.trace ⟨[nines], []⟩ {}).2.2 ≠ [] := by
  have hnarrow : rootOn? (.text "\x7bInteger\x7d [x]") = some ⟨"Integer", "x", none, "", 1⟩ := by
    decide +kernel
  have hwide : rootOn? (.text "\x7bNumber\x7d [x]") = some ⟨"Number", "x", none, "", 1⟩ := by
    decide +kernel
  obtain ⟨-, hgates⟩ :=
    whole_numbers_pass_as_numbers (d := ⟨"", "x", none, "", 1⟩) hnarrow hwide
  obtain ⟨narrow, wide, hbuild, hcalls⟩ := hgates "f" none none
  obtain ⟨htaken, hrefused⟩ :=
    (hcalls {} rfl ⟨[nines], []⟩).mpr ⟨nines, rfl, isLongNumeral_nines⟩
  exact ⟨hnarrow, hwide, narrow, wide, (hbuild {}).1, (hbuild {}).2, htaken, hrefused⟩

/-- Not every value that counts as a whole number counts as a number. -/
theorem nines_are_no_number :
    isInteger nines = true ∧ isNumber nines = false ∧
      ¬∀ v, isInteger v = true → isNumber v = true := by
  obtain ⟨hinteger, hnumber⟩ := isInteger_and_not_isNumber_iff.mpr isLongNumeral_nines
  refine ⟨hinteger, hnumber, fun h => ?_⟩
  rw [h nines hinteger] at hnumber
  cases hnumber

end Gate

end CallGuard
