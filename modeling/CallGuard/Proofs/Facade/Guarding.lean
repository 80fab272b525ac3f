import CallGuard.Proofs.Facade.Guarded
import CallGuard.Standard.Platform

/-!
# When a callable can be guarded

A callable that has names and lends its looks is refused only when its documentation declares a
parameter twice. All others of its kind are guarded, and one without parameter lines is left as it
is. But a name is asked for in any case, even where nothing comes of it but a record in the journal,
so a callable without names is always refused, with whatever documentation.
-/

namespace CallGuard.Guarded

open Session Declaration

theorem exists_firstRepeats_iff {lines : List Value} :
    (∃ p, FirstRepeats p lines) ↔ ¬(rootNamesOn lines).Nodup := by
  rw [← Entry.repeated?_ofValue_eq_none_iff, ← Ne, Option.ne_none_iff_exists']
  simp only [Entry.repeated?_ofValue_eq_some_iff]

section

variable [Platform]

variable {c : Callable} {n : String} {registry : Option RegistryId} {reporter : Option Reporter}
  {start : Session}

theorem refusal?_of_lends {lent : Option String × Option String} (hlends : c.lend = .ok lent) :
    refusal? c = none := by
  rw [refusal?, hlends]
  cases c.parameterLines <;> rfl

theorem fst_on_make_of_nodup (hnames : HasNames c n) {lent : Option String × Option String}
    (hlends : c.lend = .ok lent) (hdistinct : (rootNamesOn c.declared).Nodup) (start : Session) :
    ((make c registry reporter).on start).1 = .ok ⟨c, gateOf c n registry reporter⟩ := by
  rw [fst_on_make hnames, Entry.repeated?_ofValue_eq_none_iff.mpr hdistinct,
    refusal?_of_lends hlends]

/-- With lines the name of a callable is asked for before anything else. -/
theorem on_make_of_no_name {lines : List String} {e : Raised}
    (hlines : c.parameterLines = some lines)
    (hname : (Value.callable c).requireAttribute Callable.ownName = .error e) (start : Session) :
    (make c registry reporter).on start = (.error (.raised e), start) := by
  rw [make, hlines]
  dsimp only
  rw [hname]
  rfl

/--
Guarding a callable that has names and lends its looks fails just when two of its lines declare the
same parameter. The failure then names the first parameter that is declared again. In all other
cases it gives the callable itself if it has no lines, and otherwise the callable behind the gate
that is built from its lines. A callable that lacks the name that is asked for is refused whatever
its lines are, with the error of asking for it, and with lines one that does not lend its looks is
refused as well.
-/
theorem refusals_of_make (c : Callable) (registry : Option RegistryId)
    (reporter : Option Reporter) (start : Session) :
    let outcome := ((make c registry reporter).on start).1
    (∀ n lent, HasNames c n → c.lend = .ok lent →
      ((∃ failure, outcome = .error failure) ↔ ¬(rootNamesOn c.declared).Nodup) ∧
      (∀ failure, outcome = .error failure ↔
        ∃ p, FirstRepeats p c.declared ∧ failure = .duplicateParameter p (some n)) ∧
      (c.parameterLines = none → outcome = .ok ⟨c, none⟩) ∧
      ∀ lines, c.parameterLines = some lines → (rootNamesOn (lines.map .text)).Nodup →
        ∃ gate, outcome = .ok ⟨c, some gate⟩ ∧
          ∀ session, ((Gate.build n (lines.map .text) registry reporter).on session).1 =
            .ok gate) ∧
    (c.parameterLines = none → ∀ e,
      (Value.callable c).requireAttribute Callable.shownName = .error e →
        outcome = .error (.raised e)) ∧
    ∀ lines, c.parameterLines = some lines →
      (∀ e, (Value.callable c).requireAttribute Callable.ownName = .error e →
        outcome = .error (.raised e)) ∧
      ∀ n e, (Value.callable c).requireAttribute Callable.ownName = .ok (.text n) →
        (rootNamesOn (lines.map .text)).Nodup → c.lend = .error e →
          outcome = .error (.raised e) := by
  intro outcome
  refine ⟨fun n lent hnames hlends => ?_, fun hlines e hshown => ?_,
    fun lines hlines => ⟨fun e hname => ?_, fun n e hname hdistinct hlend => ?_⟩⟩
  · have herror (failure : Failure) : outcome = .error failure ↔
        ∃ p, FirstRepeats p c.declared ∧ failure = .duplicateParameter p (some n) := by
      refine (fst_on_make_eq_error_iff hnames).trans (or_iff_left ?_)
      rintro ⟨_, e, hrefusal, _⟩
      cases (refusal?_of_lends hlends).symm.trans hrefusal
    refine ⟨?_, herror, fun hnone => ?_, fun lines hlines hdistinct => ?_⟩
    · rw [← exists_firstRepeats_iff]
      constructor
      · rintro ⟨failure, hfailure⟩
        obtain ⟨p, hp, _⟩ := (herror failure).mp hfailure
        exact ⟨p, hp⟩
      · rintro ⟨p, hp⟩
        exact ⟨_, (herror _).mpr ⟨p, hp, rfl⟩⟩
    · obtain ⟨shown, hshown⟩ := hnames.shown
      refine (fst_on_make_of_no_lines hnone start).trans ?_
      rw [hshown]
    · obtain ⟨hdeclared, hne⟩ := declared_of_some hlines
      refine ⟨.ofLines n (lines.map .text) registry reporter, ?_, fun session => ?_⟩
      · refine (fst_on_make_of_nodup hnames hlends (hdeclared ▸ hdistinct) start).trans ?_
        rw [gateOf_of_ne_nil hne, hdeclared]
      · obtain ⟨built, hbuild, _⟩ := Gate.exists_build hdistinct registry reporter session
        rw [hbuild]
        rfl
  · refine (fst_on_make_of_no_lines hlines start).trans ?_
    rw [hshown]
  · exact congrArg Prod.fst (on_make_of_no_name hlines hname start)
  · rw [← (declared_of_some hlines).1] at hdistinct
    refine (fst_on_make_of_lines hlines hname start).trans ?_
    rw [Entry.repeated?_ofValue_eq_none_iff.mpr hdistinct, hlend]

end

open scoped Standard

/-- A callable object, with documentation or without. -/
def service (doc : Option String) : Callable :=
  { (default : Callable) with
    kind := .object
    name := "Svc"
    doc }

/-- A callable object is refused although none of its lines repeats a parameter, or it has none. -/
theorem nameless_callable_is_refused :
    ((service none).parameterLines = none ∧
      ((make (service none) none none).on default).1 =
        .error (.raised ⟨"AttributeError", "'Svc' object has no attribute '__qualname__'"⟩)) ∧
    (service (some "@param {String} [x]")).parameterLines = some ["{String} [x]"] ∧
    (rootNamesOn (service (some "@param {String} [x]")).declared).Nodup ∧
    ((make (service (some "@param {String} [x]")) none none).on default).1 =
      .error (.raised ⟨"AttributeError", "'Svc' object has no attribute '__name__'"⟩) := by
  have hlines : (service (some "@param {String} [x]")).parameterLines = some ["{String} [x]"] := by
    decide +kernel
  have hnone : (service none).parameterLines = none := rfl
  refine ⟨⟨hnone, ?_⟩, hlines, ?_, ?_⟩
  · rw [fst_on_make_of_no_lines hnone]
    rfl
  · rw [Callable.declared, hlines]
    decide +kernel
  · rw [on_make_of_no_name hlines rfl]
    rfl

end CallGuard.Guarded
