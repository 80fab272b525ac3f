import CallGuard.Guarded
import CallGuard.Proofs.Facade.Gates
import CallGuard.Proofs.Facade.Transparent
import CallGuard.Proofs.Module.Wrap
import CallGuard.Proofs.Session.Twins

/-!
# A guarded callable beside a facade

A callable can be guarded by its own documentation, or a facade can be made for a namespace that
has nothing but this callable in it, with the lines of its documentation. Both fail to be made for
the same reason. Otherwise both leave the session as it was but for facades and the journal, and
they pass calls through the same gate on to the same callable.
-/

namespace CallGuard

open Session Declaration

/-- The lines that the documentation of a callable has for it. -/
def Callable.declared (c : Callable) : List Value :=
  (c.parameterLines.getD []).map Value.text

namespace Guarded

def gateOf (c : Callable) (n : String) (registry : Option RegistryId)
    (reporter : Option Reporter) : Option Gate :=
  match c.declared with
  | [] => none
  | lines => some (.ofLines n lines registry reporter)

variable {c : Callable} {n : String} {registry : Option RegistryId} {reporter : Option Reporter}
  {start : Session} {arguments : Arguments}

theorem declared_of_none (h : c.parameterLines = none) : c.declared = [] := by
  rw [Callable.declared, h]
  rfl

theorem declared_of_some {lines : List String} (h : c.parameterLines = some lines) :
    c.declared = lines.map Value.text ∧ c.declared ≠ [] := by
  have hdeclared : c.declared = lines.map Value.text := by
    rw [Callable.declared, h]
    rfl
  refine ⟨hdeclared, ?_⟩
  rw [hdeclared]
  intro hnil
  exact Callable.parameterLines_ne_nil h (List.map_eq_nil_iff.mp hnil)

theorem gateOf_of_ne_nil (h : c.declared ≠ []) :
    gateOf c n registry reporter = some (.ofLines n c.declared registry reporter) := by
  unfold gateOf
  split
  · contradiction
  · rfl

theorem suspends_of_announces (h : c.announcesSuspension = true) :
    c.suspends = true := by
  unfold Callable.announcesSuspension at h
  split at h
  · exact h
  · exact h
  · exact h
  · cases h

variable [Platform]

/-- What a guarded call comes to: its arguments pass the gate, if there is one, and it is made. -/
def invoke (guarded : Guarded) (arguments : Arguments) : Run Value := do
  Facade.passCheck (guarded.gate.map .gate) arguments
  (Value.callable guarded.target).call arguments

theorem invoke_blind (guarded : Guarded) (arguments : Arguments) :
    (guarded.invoke arguments).Blind := by
  have hpass : (Facade.passCheck (guarded.gate.map .gate) arguments).Blind := by
    cases guarded.gate with
    | none => exact Run.Blind.pure ()
    | some gate => exact Run.Blind.pass gate arguments
  exact hpass.bind fun _ => Run.Blind.call _ arguments

/-! ### Guarding a callable -/

theorem on_logUnguarded (name : Value) (session : Session) :
    ∃ logged, (logUnguarded name).on session = (.ok (), logged) := by
  unfold logUnguarded
  split
  · exact ⟨session, rfl⟩
  · exact ⟨_, rfl⟩

/-- A callable without lines is left as it is, if it has the name that is shown for it. -/
theorem fst_on_make_of_no_lines (hlines : c.parameterLines = none) (start : Session) :
    ((make c registry reporter).on start).1 =
      match (Value.callable c).requireAttribute Callable.shownName with
      | .error e => .error (.raised e)
      | .ok _ => .ok ⟨c, none⟩ := by
  rw [make, hlines]
  cases (Value.callable c).requireAttribute Callable.shownName with
  | error e => rfl
  | ok name =>
      obtain ⟨logged, hlogged⟩ := on_logUnguarded name start
      dsimp only
      rw [Run.on_bind_of_ok (Run.on_ofExcept_ok name start), Run.on_bind_of_ok hlogged]
      rfl

/-- A callable with lines gets the gate of these lines under its name, if it lends its looks. -/
theorem fst_on_make_of_lines {lines : List String} (hlines : c.parameterLines = some lines)
    (hname : (Value.callable c).requireAttribute Callable.ownName = .ok (.text n))
    (start : Session) :
    ((make c registry reporter).on start).1 =
      match Entry.repeated? [] (c.declared.map Entry.ofValue) with
      | some p => .error (.duplicateParameter p (some n))
      | none =>
        match c.lend with
        | .error e => .error (.raised e)
        | .ok _ => .ok ⟨c, some (.ofLines n c.declared registry reporter)⟩ := by
  have hplain : (Value.text n).plain = .ok n := rfl
  rw [make, hlines, (declared_of_some hlines).1]
  dsimp only
  rw [hname, Run.on_bind_of_ok (Run.on_ofExcept_ok _ start), hplain,
    Run.on_bind_of_ok (Run.on_ofExcept_ok _ start)]
  have hbuild := Gate.on_build n (lines.map Value.text) registry reporter start
  rcases hrun : (Gate.build n (lines.map Value.text) registry reporter).on start with
    ⟨outcome, built⟩
  rw [hrun] at hbuild
  cases hrepeated : Entry.repeated? [] ((lines.map Value.text).map Entry.ofValue) with
  | some p =>
      rw [hrepeated] at hbuild
      cases hbuild
      rw [Run.on_bind_of_error hrun]
  | none =>
      rw [hrepeated] at hbuild
      cases hbuild
      rw [Run.on_bind_of_ok hrun, guardLooks]
      cases hlend : c.lend with
      | error e =>
          rw [Callable.standIn_of_error hlend]
          rfl
      | ok lent =>
          obtain ⟨looks, hlooks⟩ := Callable.exists_standIn hlend
            (guardName c.announcesSuspension) guardHome
          rw [hlooks]
          rfl

/-- A callable has a name of its own and one that is shown for it. -/
structure HasNames (c : Callable) (n : String) : Prop where
  own : (Value.callable c).requireAttribute Callable.ownName = .ok (.text n)
  shown : ∃ v, (Value.callable c).requireAttribute Callable.shownName = .ok v

/-- Why a callable with lines does not lend its looks, if it does not. -/
def refusal? (c : Callable) : Option Raised :=
  match c.parameterLines, c.lend with
  | some _, .error e => some e
  | _, _ => none

theorem fst_on_make (hnames : HasNames c n) (start : Session) :
    ((make c registry reporter).on start).1 =
      match Entry.repeated? [] (c.declared.map Entry.ofValue) with
      | some p => .error (.duplicateParameter p (some n))
      | none =>
        match refusal? c with
        | some e => .error (.raised e)
        | none => .ok ⟨c, gateOf c n registry reporter⟩ := by
  cases hlines : c.parameterLines with
  | none =>
      obtain ⟨shown, hshown⟩ := hnames.shown
      rw [fst_on_make_of_no_lines hlines, hshown, gateOf, refusal?, hlines,
        declared_of_none hlines]
      rfl
  | some lines =>
      rw [fst_on_make_of_lines hlines hnames.own,
        gateOf_of_ne_nil (declared_of_some hlines).2, refusal?, hlines]
      cases c.lend <;> rfl

theorem fst_on_make_eq_error_iff (hnames : HasNames c n) {failure : Failure} :
    ((make c registry reporter).on start).1 = .error failure ↔
      (∃ p, FirstRepeats p c.declared ∧ failure = .duplicateParameter p (some n)) ∨
      (rootNamesOn c.declared).Nodup ∧ ∃ e, refusal? c = some e ∧ failure = .raised e := by
  rw [fst_on_make hnames]
  cases hrepeated : Entry.repeated? [] (c.declared.map Entry.ofValue) with
  | none =>
      have hdistinct := Entry.repeated?_ofValue_eq_none_iff.mp hrepeated
      have hclear : ¬∃ p, FirstRepeats p c.declared ∧ failure = .duplicateParameter p (some n) := by
        rintro ⟨p, hp, _⟩
        rw [Entry.repeated?_ofValue_eq_some_iff.mpr hp] at hrepeated
        cases hrepeated
      rw [or_iff_right hclear, and_iff_right hdistinct]
      cases refusal? c with
      | none => exact ⟨nofun, nofun⟩
      | some e =>
          constructor
          · intro h
            cases h
            exact ⟨e, rfl, rfl⟩
          · rintro ⟨_, hfound, rfl⟩
            cases hfound
            rfl
  | some p =>
      have hp := Entry.repeated?_ofValue_eq_some_iff.mp hrepeated
      constructor
      · intro h
        cases h
        exact .inl ⟨p, hp, rfl⟩
      · rintro (⟨q, hq, rfl⟩ | ⟨hdistinct, _⟩)
        · rw [Entry.repeated?_ofValue_eq_some_iff.mpr hq] at hrepeated
          cases hrepeated
          rfl
        · rw [Entry.repeated?_ofValue_eq_none_iff.mpr hdistinct] at hrepeated
          cases hrepeated

end Guarded

namespace Facade

/-! ### The lines of one callable -/

variable {n : String} {names : NamespaceId} {start : Session}

theorem linesFor_alone (n : String) (lines : List Value) :
    Gate.linesFor [(n, lines)] n = lines := by
  simp [Gate.linesFor, Table.get?]

theorem symbolsAt_alone {v : Value} (hnames : start.namespaceAt names = [(n, v)]) :
    start.symbolsAt names = [n] := by
  rw [symbolsAt, hnames]
  rfl

theorem get?_alone (n : String) (v : Value) : Table.get? [(n, v)] n = some v := by
  simp [Table.get?]

theorem declared_alone (n : String) (lines : List Value) :
    declared [(n, lines)] [n] = if lines = [] then [] else [n] := by
  rw [declared, List.filter_cons, linesFor_alone]
  cases lines <;> rfl

theorem get?_compiled_alone (c : Callable) (n : String) (registry : Option RegistryId)
    (reporter : Option Reporter) :
    Table.get? (Gate.compiled [(n, c.declared)] registry reporter [n]) n =
      Guarded.gateOf c n registry reporter := by
  by_cases hnil : c.declared = []
  · have hlines : Gate.linesFor [(n, c.declared)] n = [] := by
      rw [linesFor_alone, hnil]
    rw [Gate.compiled_cons_of_nil hlines, Guarded.gateOf, hnil]
    rfl
  · have hlines : Gate.linesFor [(n, c.declared)] n ≠ [] := by
      rw [linesFor_alone]
      exact hnil
    rw [Gate.get?_compiled List.mem_cons_self hlines, linesFor_alone,
      Guarded.gateOf_of_ne_nil hnil]

end Facade

/-! ### What making them leaves alone -/

variable [Platform]

theorem Session.twins_recording (session : Session) (entry : Log.Record) :
    Twins session (session.recording entry) :=
  ⟨session.facades, _, rfl⟩

instance : Lasting Twins where
  refl := Twins.refl
  trans first second := first.trans second

theorem Run.log_keeps_twins (site : Log.Site) (severity : Int) (message : String)
    (extra : Table Value) : (Run.log site severity message extra).Keeps Twins :=
  fun session => session.twins_recording _

theorem Gate.build_keeps_twins (function : String) (lines : List Value)
    (registry : Option RegistryId) (reporter : Option Reporter) :
    (build function lines registry reporter).Keeps Twins := by
  have hlog (omitted : List Omission) : (Omission.logAll (some function) omitted).Keeps Twins := by
    induction omitted with
    | nil => exact Run.Keeps.pure _
    | cons omission rest ih => exact (Run.log_keeps_twins _ _ _ _).bind fun _ => ih
  have houtline : (Outline.build (some function) (lines.map Entry.ofValue)).Keeps Twins := by
    refine (hlog _).bind fun _ => ?_
    split
    · exact Run.Keeps.pure _
    · exact Run.Keeps.throw _
  exact houtline.bind fun outline => (Run.log_keeps_twins _ _ _ _).bind fun _ => Run.Keeps.pure _

theorem Guarded.make_keeps_twins (c : Callable) (registry : Option RegistryId)
    (reporter : Option Reporter) : (make c registry reporter).Keeps Twins := by
  have hlog (name : Value) : (logUnguarded name).Keeps Twins := by
    unfold logUnguarded
    split
    · exact Run.Keeps.pure _
    · exact Run.log_keeps_twins _ _ _ _
  unfold make
  split
  · exact (Run.Keeps.ofExcept _).bind fun name => (hlog name).bind fun _ => Run.Keeps.pure _
  · refine (Run.Keeps.ofExcept _).bind fun name => (Run.Keeps.ofExcept _).bind fun function => ?_
    refine (Gate.build_keeps_twins _ _ _ _).bind fun gate => ?_
    exact (Run.Keeps.ofExcept _).bind fun _ => Run.Keeps.pure _

theorem Facade.wrap_keeps_twins (title : Value) (names : NamespaceId) (ofModule : Bool)
    (declarations : Table (List Value)) (registry : Option RegistryId)
    (reporter : Option Reporter) :
    (wrap title names ofModule declarations registry reporter).Keeps Twins := by
  have hbuild (symbols : List String) :
      (Gate.buildAll declarations registry reporter symbols).Keeps Twins := by
    induction symbols with
    | nil => exact Run.Keeps.pure _
    | cons symbol rest ih =>
        rw [Gate.buildAll]
        split
        · exact ih
        · refine (Gate.build_keeps_twins _ _ _ _).bind fun gate => ?_
          exact ih.bind fun gates => Run.Keeps.pure _
  have hlog (gates : Table Gate) (size : Nat) : (logWrapping title gates size).Keeps Twins := by
    unfold logWrapping
    split
    · exact Run.Keeps.pure _
    · exact Run.log_keeps_twins _ _ _ _
  have hcreate (gates : Table Gate) : (create title names ofModule gates).Keeps Twins := by
    intro session
    rw [on_create]
    split
    · exact ⟨_, session.journal, rfl⟩
    · exact Twins.refl session
  refine Run.Keeps.get.bind fun session => (hbuild _).bind fun gates => ?_
  exact (hlog _ _).bind fun _ => hcreate gates

namespace Facade

/-! ### A facade for one callable -/

/-- A facade leads a symbol to a callable, with a gate before it if there is one. -/
structure LeadsTo (names : NamespaceId) (n : String) (guarded : Guarded) (place : FacadeId)
    (charter : Charter) (session : Session) : Prop where
  names_eq : charter.names = names
  gate : Table.get? charter.gates n = guarded.gate
  serves : session.ServesAt place charter
  bound : Table.get? (session.namespaceAt names) n = some (.callable guarded.target)
  lends : ∃ lent, guarded.target.lend = .ok lent
  looks : ∀ delegate, (session.facadeAt place).known? n = some (.made delegate) →
    delegate.appearance.suspends = guarded.target.announcesSuspension

section Alone

variable {c : Callable} {n : String} {names : NamespaceId} {title : Value}
  {registry : Option RegistryId} {reporter : Option Reporter} {start wrapped : Session}
  {place : FacadeId}

theorem refusal?_alone (n : String) (c : Callable) :
    refusal? [(n, .callable c)] n =
      match c.lend with
      | .ok _ => none
      | .error e => some e := by
  rw [refusal?, get?_alone, Appearance.ofMember]
  cases hlend : c.lend with
  | error e => rw [Callable.standIn_of_error hlend]
  | ok lent =>
      obtain ⟨looks, hlooks⟩ :=
        Callable.exists_standIn hlend (delegateName c.announcesSuspension) delegateHome
      rw [hlooks]

theorem findSome?_alone (n : String) (c : Callable) :
    (declared [(n, c.declared)] [n]).findSome? (refusal? [(n, .callable c)]) =
      Guarded.refusal? c := by
  rw [declared_alone, Guarded.refusal?]
  cases hlines : c.parameterLines with
  | none =>
      rw [if_pos (Guarded.declared_of_none hlines)]
      rfl
  | some lines =>
      rw [if_neg (Guarded.declared_of_some hlines).2, List.findSome?_singleton, refusal?_alone]
      cases c.lend <;> rfl

theorem fst_on_wrap_alone_eq_error_iff (hnames : start.namespaceAt names = [(n, .callable c)])
    {failure : Failure} :
    ((wrap title names false [(n, c.declared)] registry reporter).on start).1 = .error failure ↔
      (∃ p, FirstRepeats p c.declared ∧ failure = .duplicateParameter p (some n)) ∨
      (rootNamesOn c.declared).Nodup ∧ ∃ e, Guarded.refusal? c = some e ∧ failure = .raised e := by
  have hblames : Gate.Blames [(n, c.declared)] [n] failure ↔
      ∃ p, FirstRepeats p c.declared ∧ failure = .duplicateParameter p (some n) := by
    rw [← Gate.findSome?_fault?_eq_some_iff, List.findSome?_singleton, Gate.fault?_eq_some_iff,
      linesFor_alone]
  have hrefused : Refused [(n, c.declared)] [(n, .callable c)] failure ↔
      (rootNamesOn c.declared).Nodup ∧ ∃ e, Guarded.refusal? c = some e ∧ failure = .raised e := by
    constructor
    · rintro ⟨hclear, e, rfl, hfirst⟩
      have hdistinct := hclear n List.mem_cons_self
      rw [linesFor_alone] at hdistinct
      exact ⟨hdistinct, e, (findSome?_alone n c).symm.trans hfirst, rfl⟩
    · rintro ⟨hdistinct, e, hrefusal, rfl⟩
      refine ⟨fun symbol hsymbol => ?_, e, rfl, (findSome?_alone n c).trans hrefusal⟩
      rw [List.mem_singleton.mp hsymbol, linesFor_alone]
      exact hdistinct
  rw [fst_on_wrap_eq_error_iff, symbolsAt_alone hnames, hnames, hblames, hrefused]

theorem exists_leadsTo_of_wrap (hnames : start.namespaceAt names = [(n, .callable c)])
    (hlends : ∃ lent, c.lend = .ok lent)
    (hwrap : (wrap title names false [(n, c.declared)] registry reporter).on start =
      (.ok place, wrapped)) :
    ∃ charter, LeadsTo names n ⟨c, Guarded.gateOf c n registry reporter⟩ place charter wrapped := by
  obtain ⟨before, hquiet, _, hcreate⟩ := exists_of_wrap hwrap
  rw [symbolsAt_alone hnames] at hcreate
  obtain ⟨hserves, facade, hmake, hwrapped⟩ := exists_create _ _ _ _ hcreate
  have hbefore : Table.get? (before.namespaceAt names) n = some (.callable c) := by
    rw [hquiet.namespaceAt, hnames, get?_alone]
  refine ⟨_, rfl, get?_compiled_alone c n registry reporter, hserves, ?_, hlends, ?_⟩
  · rw [hwrapped]
    exact hbefore
  · intro delegate hknown
    obtain ⟨_, hmade, hdelegate⟩ := hserves.serves.known n _ hknown
    cases hmade
    have hplace : place = before.facades.size := by
      rw [on_create, hmake] at hcreate
      cases hcreate
      rfl
    rw [hwrapped, hplace, facadeAt_addFacade_self] at hknown
    have hlooks := hdelegate.appearance (isSome_gate_of_known_make hmake hknown)
    rw [Charter.made, hbefore] at hlooks
    exact Callable.suspends_of_standIn hlooks

end Alone

namespace LeadsTo

variable {names : NamespaceId} {n : String} {guarded : Guarded} {place : FacadeId}
  {charter : Charter} {session after : Session} {delegate : Delegate}

theorem of_facades (h : LeadsTo names n guarded place charter session)
    (hfacades : after.facades = session.facades)
    (hnames : after.namespaceAt names = session.namespaceAt names) :
    LeadsTo names n guarded place charter after := by
  obtain ⟨hserves, _⟩ := upholds_of_facades hfacades h.serves
  refine ⟨h.names_eq, h.gate, hserves, ?_, h.lends, ?_⟩
  · rw [hnames]
    exact h.bound
  · rw [facadeAt_of_facades hfacades]
    exact h.looks

theorem of_sameStores (h : LeadsTo names n guarded place charter session)
    (hsame : session.SameStores after) : LeadsTo names n guarded place charter after :=
  h.of_facades hsame.facades (hsame.namespaceAt names)

/-- Looking the symbol up gives a delegate that looks like the callable, and changes no more. -/
theorem exists_ask (h : LeadsTo names n guarded place charter session) (hs : isReserved n = false) :
    ∃ delegate looked,
      (∀ access, (ask access place (.text n)).on session = (.ok (.made delegate), looked)) ∧
      charter.IsDelegate n delegate ∧
      delegate.appearance.suspends = guarded.target.announcesSuspension ∧
      LeadsTo names n guarded place charter looked ∧ Twins session looked ∧
      looked.journal = session.journal := by
  have hlooked : charter.looks session n =
      guarded.target.standIn (delegateName guarded.target.announcesSuspension) delegateHome := by
    rw [Charter.looks, h.names_eq, h.bound]
    rfl
  have hlent : ∀ e, ¬charter.Refuses session place n e := by
    obtain ⟨lent, hlent⟩ := h.lends
    obtain ⟨looks, hlooks⟩ := Callable.exists_standIn hlent
      (delegateName guarded.target.announcesSuspension) delegateHome
    intro e hrefuses
    cases (hlooked.trans hlooks).symm.trans hrefuses.looks
  obtain ⟨delegate, facade, hask, hdelegate, hknown, hupholds, hnew⟩ :=
    Facade.exists_ask h.serves hs hlent
  obtain ⟨hserves, hkept⟩ := hupholds h.serves
  have hplaced := facadeAt_setFacade_self h.serves.placed facade
  have hsuspends : delegate.appearance.suspends = guarded.target.announcesSuspension := by
    cases hbefore : (session.facadeAt place).known? n with
    | none =>
        exact Callable.suspends_of_standIn (hlooked.symm.trans (hnew hbefore))
    | some member =>
        have hlater := hkept n member hbefore
        rw [hplaced, hknown] at hlater
        cases hlater
        exact h.looks delegate hbefore
  refine ⟨delegate, session.setFacade place facade, hask, hdelegate, hsuspends, ?_,
    session.twins_setFacade place facade, rfl⟩
  refine ⟨h.names_eq, h.gate, hserves, h.bound, h.lends, ?_⟩
  intro found hfound
  rw [hplaced, hknown] at hfound
  cases hfound
  exact hsuspends

/-- Where the symbol is bound to the callable, its delegate passes the same gate and calls it. -/
theorem on_invoke (hdelegate : charter.IsDelegate n delegate) (hnames : charter.names = names)
    (hgate : Table.get? charter.gates n = guarded.gate)
    (hbound : Table.get? (session.namespaceAt names) n = some (.callable guarded.target))
    (arguments : Arguments) :
    (Facade.invoke delegate arguments).on session = (guarded.invoke arguments).on session := by
  rw [Facade.invoke, Guarded.invoke, hdelegate.check, hgate, Run.on_bind, Run.on_bind]
  rcases hpass : (passCheck (guarded.gate.map .gate) arguments).on session with ⟨outcome, checked⟩
  cases outcome with
  | error failure => rfl
  | ok passed =>
      have hkept := (passCheck_keeps _ arguments).of_on hpass
      have hmember : charter.bound? checked n = some guarded.target := by
        rw [Charter.bound?, hnames, hkept.namespaceAt, hbound]
      show (member delegate >>= fun target => target.call arguments).on checked = _
      rw [Run.on_bind, hdelegate.on_member, hmember]

end LeadsTo

end Facade

namespace Guarded

/-! ### Calls of a guarded callable -/

variable {guarded : Guarded}

/--
The error of the arguments of a call, if the call itself ends with it: without a gate, a coroutine
function has to be given arguments that fit before it suspends.
-/
def misfit? (guarded : Guarded) (arguments : Arguments) : Option Raised :=
  if guarded.gate.isNone && guarded.target.announcesSuspension then
    guarded.target.misfit? arguments
  else none

/-- A coroutine function only suspends when it is called, and runs behind its gate when awaited. -/
theorem exists_call_of_announces (h : guarded.target.announcesSuspension = true)
    {arguments : Arguments} (hfits : guarded.misfit? arguments = none) :
    ∃ rest, guarded.call arguments = pure (.suspended rest) ∧
      ∀ session, rest.on session =
        (Run.resumed (guarded.invoke arguments >>= Value.await)).on session := by
  unfold call
  cases hgate : guarded.gate with
  | some gate =>
      simp only [h, if_true]
      refine ⟨_, rfl, fun session => ?_⟩
      rw [invoke, hgate]
      rfl
  | none =>
      have hcall : (Value.callable guarded.target).call arguments =
          pure (.suspended guarded.target arguments.positional arguments.named) := by
        rw [misfit?, hgate, h, Callable.misfit?, suspends_of_announces h] at hfits
        rw [Value.call, if_pos (suspends_of_announces h)]
        cases hbinds : Platform.binds guarded.target arguments with
        | ok _ => rfl
        | error e =>
            rw [hbinds] at hfits
            cases hfits
      simp only [hcall, pure_bind]
      refine ⟨_, rfl, fun session => ?_⟩
      have hinvoke : (guarded.invoke arguments).on session =
          (.ok (.suspended guarded.target arguments.positional arguments.named), session) := by
        rw [invoke, hgate, hcall]
        rfl
      rw [Run.on_resumed_of_suspended hinvoke ⟨_, _, _, rfl⟩, Run.on_bind_of_ok hinvoke]
      rfl

theorem of_misfit? {arguments : Arguments} {e : Raised} (h : guarded.misfit? arguments = some e) :
    guarded.gate = none ∧ guarded.target.announcesSuspension = true ∧
      guarded.target.misfit? arguments = some e := by
  rw [misfit?] at h
  cases hgate : guarded.gate with
  | some gate =>
      rw [hgate] at h
      cases h
  | none =>
      cases hannounces : guarded.target.announcesSuspension with
      | false =>
          rw [hgate, hannounces] at h
          cases h
      | true =>
          rw [hgate, hannounces] at h
          exact ⟨rfl, rfl, h⟩

theorem on_invoke_of_misfit {arguments : Arguments} {e : Raised}
    (h : guarded.misfit? arguments = some e) (session : Session) :
    (guarded.invoke arguments).on session =
      (.error (.raised e),
        { session with
          invocations := ⟨guarded.target.id, arguments⟩ :: session.invocations }) := by
  obtain ⟨hgate, _, hmisfit⟩ := of_misfit? h
  have hcall := guarded.target.on_call arguments session
  rw [hmisfit] at hcall
  rw [invoke, hgate]
  exact hcall

theorem on_call_of_misfit {arguments : Arguments} {e : Raised}
    (h : guarded.misfit? arguments = some e) (session : Session) :
    (guarded.call arguments).on session =
      (.error (.raised e),
        { session with
          invocations := ⟨guarded.target.id, arguments⟩ :: session.invocations }) := by
  obtain ⟨hgate, _, hmisfit⟩ := of_misfit? h
  have hcall := guarded.target.on_call arguments session
  rw [hmisfit] at hcall
  rw [call, hgate]
  exact Run.on_bind_of_error hcall _

theorem call_of_not_announces (h : guarded.target.announcesSuspension = false)
    (arguments : Arguments) :
    guarded.call arguments = guarded.invoke arguments >>= fun v => pure (.ofValue v) := by
  unfold call invoke
  cases guarded.gate with
  | some gate =>
      simp only [h, Bool.false_eq_true, if_false]
      rfl
  | none => rfl

end Guarded

end CallGuard
