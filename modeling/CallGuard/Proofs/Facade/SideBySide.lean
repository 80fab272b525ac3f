import CallGuard.Proofs.Facade.Guarding
import CallGuard.Proofs.Module.Calls
import CallGuard.Standard.Platform
import Mathlib.Logic.Relation

/-!
# Calls side by side

In one session a callable is guarded by its own documentation, in a twin of it a facade stands
before the callable. Each call is made in both. The replies are of one kind: both calls fail alike,
both give the same value, or both are suspended, and then awaiting them comes out alike, whenever
that is. What is left to be awaited is kept with the two sessions, so that a course of calls can go
on before it runs, or end without ever running it. Only a coroutine function that has no lines, and
so is left as it is, fails by itself when it is called with arguments that do not fit. The facade
suspends such a call, and fails in the same way when that is awaited.
-/

namespace CallGuard

open Session Facade Declaration

namespace Guarded

theorem on_map_ofValue (operation : Run Value) (session : Session) :
    (operation >>= fun v => pure (Reply.ofValue v)).on session =
      ((operation.on session).1.map Reply.ofValue, (operation.on session).2) := by
  rw [Run.on_bind]
  rcases operation.on session with ⟨outcome, after⟩
  cases outcome with
  | error failure => rfl
  | ok v => rfl

section

variable [Platform]

/-- Two suspended calls come out alike in twin sessions where the symbol is bound to a callable. -/
def AwaitedAlike (names : NamespaceId) (n : String) (c : Callable) (rest twin : Run Value) : Prop :=
  ∀ session other, Twins session other →
    Table.get? (other.namespaceAt names) n = some (.callable c) → Run.InStep session other rest twin

/-- Two calls have the same outcome, and of two suspended ones the rests come out alike. -/
inductive RepliesAgree (names : NamespaceId) (n : String) (c : Callable) :
    Except Failure Reply → Except Failure Reply → Prop
  | failed (failure : Failure) : RepliesAgree names n c (.error failure) (.error failure)
  | value (v : Value) : RepliesAgree names n c (.ok (.value v)) (.ok (.value v))
  | suspended {rest twin : Run Value} (h : AwaitedAlike names n c rest twin) :
      RepliesAgree names n c (.ok (.suspended rest)) (.ok (.suspended twin))

/--
A call of a guarded callable and one through a facade agree: in their replies, in the calls and
records that they make, and in what the gate checks and reports. A coroutine function that is not
awaited does nothing.
-/
structure CallsAgree (names : NamespaceId) (n : String) (guarded : Guarded) (place : FacadeId)
    (session other : Session) (access : Access) (arguments : Arguments) : Prop where
  replies : RepliesAgree names n guarded.target ((guarded.call arguments).on session).1
    ((callBy access place (.text n) arguments).on other).1
  twins : Twins ((guarded.call arguments).on session).2
    ((callBy access place (.text n) arguments).on other).2
  entries : ∃ entries : List Log.Record,
    ((guarded.call arguments).on session).2.journal =
      entries.foldl Log.Journal.add session.journal ∧
    ((callBy access place (.text n) arguments).on other).2.journal =
      entries.foldl Log.Journal.add other.journal
  events : ∀ gate, guarded.gate = some gate →
    (gate.trace arguments other).2.2 = (gate.trace arguments session).2.2
  unstarted : guarded.target.announcesSuspension = true →
    ((guarded.call arguments).on session).2 = session ∧
    ((callBy access place (.text n) arguments).on other).2.invocations = other.invocations

/--
A call of a coroutine function without lines whose arguments do not fit fails at once, and one
through a facade only when it is awaited.
-/
structure CallsDiffer (names : NamespaceId) (n : String) (guarded : Guarded) (place : FacadeId)
    (session other : Session) (access : Access) (arguments : Arguments) (e : Raised) : Prop where
  direct : (guarded.call arguments).on session =
    (.error (.raised e),
      { session with invocations := ⟨guarded.target.id, arguments⟩ :: session.invocations })
  through : ∃ rest looked,
    (callBy access place (.text n) arguments).on other = (.ok (.suspended rest), looked) ∧
    Twins other looked ∧ looked.journal = other.journal ∧
    ∀ later, Table.get? (later.namespaceAt names) n = some (.callable guarded.target) →
      rest.on later =
        (.error (Run.escaped (.raised e)),
          { later with invocations := ⟨guarded.target.id, arguments⟩ :: later.invocations })

variable {names : NamespaceId} {n : String} {guarded : Guarded} {place : FacadeId}
  {charter : Charter} {session other : Session}

theorem repliesAgree_ofValue (outcome : Except Failure Value) :
    RepliesAgree names n guarded.target (outcome.map Reply.ofValue)
      (outcome.map Reply.ofValue) := by
  cases outcome with
  | error failure => exact .failed failure
  | ok v =>
      cases v with
      | suspended c positional named =>
          apply RepliesAgree.suspended
          intro session other htwins _
          exact (Run.Blind.await (.suspended c positional named)).inStep htwins
      | _ => exact .value _

/-- Behind a delegate the rest of a suspended call is what the guarded callable leaves. -/
theorem awaitedAlike_delegate {delegate : Delegate} {rest : Run Value} {arguments : Arguments}
    (hdelegate : charter.IsDelegate n delegate) (hnames : charter.names = names)
    (hgate : Table.get? charter.gates n = guarded.gate)
    (hrest : ∀ session, rest.on session =
      (Run.resumed (guarded.invoke arguments >>= Value.await)).on session) :
    AwaitedAlike names n guarded.target rest
      (Run.resumed (Facade.invoke delegate arguments >>= Value.await)) := by
  intro session other htwins hbound
  have htwin : (Run.resumed (Facade.invoke delegate arguments >>= Value.await)).on other =
      (Run.resumed (guarded.invoke arguments >>= Value.await)).on other := by
    rw [Run.on_resumed, Run.on_resumed, Run.on_bind, Run.on_bind,
      LeadsTo.on_invoke hdelegate hnames hgate hbound]
  have hblind := ((guarded.invoke_blind arguments).bind Run.Blind.await).resumed
  obtain ⟨houtcome, hafter, hentries⟩ := hblind.inStep htwins
  constructor
  · rw [htwin, hrest]
    exact houtcome
  · rw [htwin, hrest]
    exact hafter
  · rw [htwin, hrest]
    exact hentries

/-- Calls agree if they are suspended. -/
theorem callsAgree_of_announces (htwins : Twins session other)
    (hleads : LeadsTo names n guarded place charter other) (hs : isReserved n = false)
    (access : Access) {arguments : Arguments} (hfits : guarded.misfit? arguments = none)
    (hannounces : guarded.target.announcesSuspension = true) :
    CallsAgree names n guarded place session other access arguments ∧
      LeadsTo names n guarded place charter
        ((callBy access place (.text n) arguments).on other).2 := by
  obtain ⟨delegate, looked, hask, hdelegate, hsuspends, hlooked, hfound, hjournal⟩ :=
    hleads.exists_ask hs
  obtain ⟨rest, hdirect, hrest⟩ := exists_call_of_announces hannounces hfits
  have hthrough :=
    on_callBy_of_suspends (hask access) (hsuspends.trans hannounces) arguments
  have halike := awaitedAlike_delegate hdelegate hleads.names_eq hleads.gate hrest
  refine ⟨⟨?_, ?_, ⟨[], ?_, ?_⟩, fun gate _ => Gate.events_of_twins htwins arguments,
    fun _ => ⟨?_, ?_⟩⟩, ?_⟩
  · rw [hthrough, hdirect]
    exact .suspended halike
  · rw [hthrough, hdirect]
    exact htwins.trans hfound
  · rw [hdirect]
    rfl
  · rw [hthrough]
    exact hjournal
  · rw [hdirect]
    rfl
  · rw [hthrough]
    exact hfound.invocations
  · rw [hthrough]
    exact hlooked

/-- Calls agree if they run at once. -/
theorem callsAgree_of_not_announces (htwins : Twins session other)
    (hleads : LeadsTo names n guarded place charter other) (hs : isReserved n = false)
    (access : Access) (arguments : Arguments)
    (hplain : guarded.target.announcesSuspension = false) :
    CallsAgree names n guarded place session other access arguments ∧
      LeadsTo names n guarded place charter
        ((callBy access place (.text n) arguments).on other).2 := by
  obtain ⟨delegate, looked, hask, hdelegate, hsuspends, hlooked, hfound, hjournal⟩ :=
    hleads.exists_ask hs
  have hdirect : (guarded.call arguments).on session =
      (((guarded.invoke arguments).on session).1.map Reply.ofValue,
        ((guarded.invoke arguments).on session).2) := by
    rw [call_of_not_announces hplain, on_map_ofValue]
  have hcall := on_callBy_of_made (hask access) arguments
  have hthrough : (callBy access place (.text n) arguments).on other =
      (((guarded.invoke arguments).on looked).1.map Reply.ofValue,
        ((guarded.invoke arguments).on looked).2) := by
    have hinvoke :=
      LeadsTo.on_invoke hdelegate hlooked.names_eq hlooked.gate hlooked.bound arguments
    rw [hcall, callDelegate, hsuspends, hplain, ← hinvoke]
    exact on_map_ofValue _ _
  obtain ⟨houtcome, hafter, entries, hown, htwin⟩ :=
    (guarded.invoke_blind arguments).inStep (htwins.trans hfound)
  have hkept := (callDelegate_keeps delegate arguments).of_on (hcall.symm.trans hthrough)
  refine ⟨⟨?_, ?_, ⟨entries, ?_, ?_⟩, fun gate _ => Gate.events_of_twins htwins arguments, ?_⟩, ?_⟩
  · rw [hthrough, hdirect, houtcome]
    exact repliesAgree_ofValue _
  · rw [hthrough, hdirect]
    exact hafter
  · rw [hdirect]
    exact hown
  · rw [hthrough, ← hjournal]
    exact htwin
  · intro hannounces
    cases hplain.symm.trans hannounces
  · rw [hthrough]
    exact hlooked.of_sameStores hkept

/-- A call agrees with one through a facade that leads to the callable, and that still does so. -/
theorem callsAgree_of_leadsTo (htwins : Twins session other)
    (hleads : LeadsTo names n guarded place charter other) (hs : isReserved n = false)
    (access : Access) {arguments : Arguments} (hfits : guarded.misfit? arguments = none) :
    CallsAgree names n guarded place session other access arguments ∧
      LeadsTo names n guarded place charter
        ((callBy access place (.text n) arguments).on other).2 := by
  cases hannounces : guarded.target.announcesSuspension with
  | true => exact callsAgree_of_announces htwins hleads hs access hfits hannounces
  | false => exact callsAgree_of_not_announces htwins hleads hs access arguments hannounces

/-- A call that differs: the facade suspends it, and awaiting that leads to the same failure. -/
theorem callsDiffer_of_leadsTo {e : Raised} (htwins : Twins session other)
    (hleads : LeadsTo names n guarded place charter other) (hs : isReserved n = false)
    (access : Access) {arguments : Arguments} (hmisfit : guarded.misfit? arguments = some e) :
    CallsDiffer names n guarded place session other access arguments e ∧
      Twins ((guarded.call arguments).on session).2
        ((callAwaited access place (.text n) arguments).on other).2 ∧
      LeadsTo names n guarded place charter
        ((callAwaited access place (.text n) arguments).on other).2 := by
  obtain ⟨delegate, looked, hask, hdelegate, hsuspends, hlooked, hfound, hjournal⟩ :=
    hleads.exists_ask hs
  obtain ⟨_, hannounces, _⟩ := of_misfit? hmisfit
  have hthrough :=
    on_callBy_of_suspends (hask access) (hsuspends.trans hannounces) arguments
  have hrest (later : Session)
      (hbound : Table.get? (later.namespaceAt names) n = some (.callable guarded.target)) :
      (Run.resumed (Facade.invoke delegate arguments >>= Value.await)).on later =
        (.error (Run.escaped (.raised e)),
          { later with
            invocations := ⟨guarded.target.id, arguments⟩ :: later.invocations }) := by
    have hinvoke := LeadsTo.on_invoke hdelegate hleads.names_eq hleads.gate hbound arguments
    rw [on_invoke_of_misfit hmisfit] at hinvoke
    exact Run.on_resumed_of_error hinvoke
  have hdirect := on_call_of_misfit hmisfit session
  have hawaited : (callAwaited access place (.text n) arguments).on other =
      (.error (Run.escaped (.raised e)),
        { looked with
          invocations := ⟨guarded.target.id, arguments⟩ :: looked.invocations }) :=
    (Run.on_bind_of_ok hthrough _).trans (hrest looked hlooked.bound)
  refine ⟨⟨hdirect, _, looked, hthrough, hfound, hjournal, hrest⟩, ?_, ?_⟩
  · rw [hdirect, hawaited]
    obtain ⟨facades, journal, rfl⟩ := htwins.trans hfound
    exact ⟨facades, journal, rfl⟩
  · rw [hawaited]
    exact hlooked.of_facades rfl rfl

/-! ### Courses of calls -/

/--
Two sessions side by side, one with the guarded callable and one with the facade, and what earlier
calls have left to be awaited in either.
-/
structure Pair where
  direct : Session
  through : Session
  awaiting : List (Run Value × Run Value)

namespace Pair

/-- What two calls leave to be awaited, if both are suspended. -/
def left : Except Failure Reply → Except Failure Reply → List (Run Value × Run Value)
  | .ok (.suspended rest), .ok (.suspended twin) => [(rest, twin)]
  | _, _ => []

/--
One thing that happens on both sides: a call, the awaiting of an earlier call, or anything else that
has nothing to do with facades and leaves the namespace alone. A call that differs is awaited at
once.
-/
inductive Step (names : NamespaceId) (n : String) (guarded : Guarded) (place : FacadeId)
    (pair : Pair) : Pair → Prop
  | call (access : Access) {arguments : Arguments} (hfits : guarded.misfit? arguments = none) :
      Step names n guarded place pair
        ⟨((guarded.call arguments).on pair.direct).2,
          ((callBy access place (.text n) arguments).on pair.through).2,
          pair.awaiting ++ left ((guarded.call arguments).on pair.direct).1
            ((callBy access place (.text n) arguments).on pair.through).1⟩
  | misfit (access : Access) {arguments : Arguments} {e : Raised}
      (hmisfit : guarded.misfit? arguments = some e) :
      Step names n guarded place pair
        ⟨((guarded.call arguments).on pair.direct).2,
          ((callAwaited access place (.text n) arguments).on pair.through).2, pair.awaiting⟩
  | await {front back : List (Run Value × Run Value)} {rest twin : Run Value}
      (h : pair.awaiting = front ++ (rest, twin) :: back) :
      Step names n guarded place pair
        ⟨(rest.on pair.direct).2, (twin.on pair.through).2, front ++ back⟩
  | both {α : Type} {operation : Run α} (hblind : operation.Blind)
      (hnames : operation.Keeps fun before after =>
        after.namespaceAt names = before.namespaceAt names) :
      Step names n guarded place pair
        ⟨(operation.on pair.direct).2, (operation.on pair.through).2, pair.awaiting⟩

abbrev Course (names : NamespaceId) (n : String) (guarded : Guarded) (place : FacadeId) :
    Pair → Pair → Prop :=
  Relation.ReflTransGen (Step names n guarded place)

/-- Twin sessions, a facade that leads to the callable, and rests of calls that come out alike. -/
structure InStep (names : NamespaceId) (n : String) (guarded : Guarded) (place : FacadeId)
    (charter : Charter) (pair : Pair) : Prop where
  twins : Twins pair.direct pair.through
  leads : LeadsTo names n guarded place charter pair.through
  awaiting : ∀ rests ∈ pair.awaiting,
    AwaitedAlike names n guarded.target rests.1 rests.2 ∧ rests.2.Keeps SameStores

variable {pair later : Pair}

theorem Step.inStep (hs : isReserved n = false) (h : Step names n guarded place pair later)
    (hpair : pair.InStep names n guarded place charter) :
    later.InStep names n guarded place charter := by
  cases h with
  | misfit access hmisfit =>
      obtain ⟨_, htwins, hleads⟩ :=
        callsDiffer_of_leadsTo hpair.twins hpair.leads hs access hmisfit
      exact ⟨htwins, hleads, hpair.awaiting⟩
  | @call access arguments hfits =>
      obtain ⟨hagree, hleads⟩ := callsAgree_of_leadsTo hpair.twins hpair.leads hs access hfits
      refine ⟨hagree.twins, hleads, ?_⟩
      intro rests hrests
      rcases List.mem_append.mp hrests with hrests | hrests
      · exact hpair.awaiting rests hrests
      · have hreplies := hagree.replies
        rcases hcall : (callBy access place (.text n) arguments).on pair.through with ⟨reply, after⟩
        rw [hcall] at hrests hreplies
        generalize ((guarded.call arguments).on pair.direct).1 = own at hrests hreplies
        cases hreplies with
        | failed failure => cases hrests
        | value v => cases hrests
        | suspended halike =>
            rw [List.mem_singleton.mp hrests]
            exact ⟨halike, isMild_of_callBy hcall⟩
  | await hawaiting =>
      rename_i front back rest twin
      have hmem : (rest, twin) ∈ pair.awaiting := by
        rw [hawaiting]
        exact List.mem_append_right front List.mem_cons_self
      obtain ⟨halike, hkeeps⟩ := hpair.awaiting _ hmem
      refine ⟨(halike _ _ hpair.twins hpair.leads.bound).twins,
        hpair.leads.of_sameStores (hkeeps _), ?_⟩
      intro rests hrests
      apply hpair.awaiting
      rw [hawaiting]
      rcases List.mem_append.mp hrests with hrests | hrests
      · exact List.mem_append_left _ hrests
      · exact List.mem_append_right front (List.mem_cons_of_mem _ hrests)
  | both hblind hnames =>
      refine ⟨(hblind.inStep hpair.twins).twins, ?_, hpair.awaiting⟩
      exact hpair.leads.of_facades (hblind.facades_eq _) (hnames _)

theorem Course.inStep (hs : isReserved n = false) (h : Course names n guarded place pair later)
    (hpair : pair.InStep names n guarded place charter) :
    later.InStep names n guarded place charter := by
  induction h with
  | refl => exact hpair
  | tail _ hstep ih => exact hstep.inStep hs ih

end Pair

/--
Guarding a callable by its documentation fails exactly when wrapping a namespace of it alone does,
and with the same failure: the lines declare a parameter twice, unless the callable does not lend
its looks. Otherwise, over any course of calls that are made on both sides, each further call
agrees, and so does what is left to be awaited. Only calls of a coroutine function without lines
whose arguments do not fit differ in when they fail. A callable without parameter lines is left as
it is.
-/
theorem agrees_with_facade_over_course {c : Callable} {n : String} {names : NamespaceId}
    {start : Session} (hname : HasNames c n) (hs : isReserved n = false)
    (hnames : start.namespaceAt names = [(n, .callable c)]) (title : Value)
    (registry : Option RegistryId) (reporter : Option Reporter) :
    (∀ failure, ((make c registry reporter).on start).1 = .error failure ↔
      ((wrap title names false [(n, c.declared)] registry reporter).on start).1 =
        .error failure) ∧
    ∀ lent, c.lend = .ok lent →
      (∀ failure, ((make c registry reporter).on start).1 = .error failure ↔
        ∃ p, FirstRepeats p c.declared ∧ failure = .duplicateParameter p (some n)) ∧
      ∀ guarded decorated place wrapped,
        (make c registry reporter).on start = (.ok guarded, decorated) →
        (wrap title names false [(n, c.declared)] registry reporter).on start =
          (.ok place, wrapped) →
        guarded.target = c ∧ (guarded.gate = none ↔ c.parameterLines = none) ∧
        ∀ pair, Pair.Course names n guarded place ⟨decorated, wrapped, []⟩ pair →
          (∀ access arguments, guarded.misfit? arguments = none →
            CallsAgree names n guarded place pair.direct pair.through access arguments) ∧
          (∀ access arguments e, guarded.misfit? arguments = some e →
            CallsDiffer names n guarded place pair.direct pair.through access arguments e) ∧
          ∀ rests ∈ pair.awaiting, Run.InStep pair.direct pair.through rests.1 rests.2 := by
  refine ⟨fun failure => ?_, fun lent hlends => ⟨fun failure => ?_, ?_⟩⟩
  · rw [fst_on_make_eq_error_iff hname, fst_on_wrap_alone_eq_error_iff hnames]
  · refine (fst_on_make_eq_error_iff hname).trans (or_iff_left ?_)
    rintro ⟨_, e, hrefusal, _⟩
    cases (refusal?_of_lends hlends).symm.trans hrefusal
  intro guarded decorated place wrapped hmake hwrap
  have hguarded : guarded = ⟨c, gateOf c n registry reporter⟩ := by
    have houtcome : ((make c registry reporter).on start).1 = _ := fst_on_make hname start
    rw [hmake, refusal?_of_lends hlends] at houtcome
    split at houtcome
    · cases houtcome
    · exact Except.ok.inj houtcome
  subst hguarded
  refine ⟨rfl, ?_, ?_⟩
  · cases hlines : c.parameterLines with
    | none => simp [gateOf, declared_of_none hlines]
    | some lines =>
        obtain ⟨_, hne⟩ := declared_of_some hlines
        simp [gateOf_of_ne_nil hne]
  intro pair hcourse
  obtain ⟨charter, hleads⟩ := exists_leadsTo_of_wrap hnames ⟨lent, hlends⟩ hwrap
  have hdecorated := (make_keeps_twins c registry reporter).of_on hmake
  have hwrapped := (wrap_keeps_twins _ _ _ _ _ _).of_on hwrap
  have hstarted : Pair.InStep names n ⟨c, gateOf c n registry reporter⟩ place charter
      ⟨decorated, wrapped, []⟩ :=
    ⟨hdecorated.symm.trans hwrapped, hleads, fun rests hrests => absurd hrests List.not_mem_nil⟩
  obtain ⟨htwins, hstill, hawaiting⟩ := hcourse.inStep hs hstarted
  refine ⟨fun access arguments hfits => ?_, fun access arguments e hmisfit => ?_,
    fun rests hrests => ?_⟩
  · exact (callsAgree_of_leadsTo htwins hstill hs access hfits).1
  · exact (callsDiffer_of_leadsTo htwins hstill hs access hmisfit).1
  · exact (hawaiting rests hrests).1 _ _ htwins hstill.bound

end

open scoped Standard

def aloneSession (c : Callable) : Session where
  namespaces := #[[("f", .callable c)]]

/-- A documented function and its facade agree on a number that is no text, and then on a text. -/
theorem documented_function_agrees_with_facade :
    ∃ guarded decorated place wrapped,
      (make Module.documented none (some .raising)).on (aloneSession Module.documented) =
        (.ok guarded, decorated) ∧
      (wrap .null 0 false [("f", Module.documented.declared)] none (some .raising)).on
        (aloneSession Module.documented) = (.ok place, wrapped) ∧
      CallsAgree 0 "f" guarded place decorated wrapped .dotted ⟨[.int 1], []⟩ ∧
      CallsAgree 0 "f" guarded place ((guarded.call ⟨[.int 1], []⟩).on decorated).2
        ((callBy .dotted place (.text "f") ⟨[.int 1], []⟩).on wrapped).2 .indexed
        ⟨[.text "a"], []⟩ := by
  have hnames : HasNames Module.documented "f" := ⟨rfl, .text "f", rfl⟩
  obtain ⟨hiff, hlends⟩ := agrees_with_facade_over_course hnames
    (by decide +kernel : isReserved "f" = false)
    (rfl : (aloneSession Module.documented).namespaceAt 0 = [("f", .callable Module.documented)])
    .null none (some .raising)
  have hlent : Module.documented.lend = .ok (some "f", some "f") := rfl
  obtain ⟨hfails, hagrees⟩ := hlends _ hlent
  have hlines : Module.documented.parameterLines = some ["{String} [x]"] := by decide +kernel
  have hdistinct : (rootNamesOn Module.documented.declared).Nodup := by
    rw [Callable.declared, hlines]
    decide +kernel
  have hok (failure : Failure) : ((make Module.documented none (some .raising)).on
      (aloneSession Module.documented)).1 ≠ .error failure := by
    intro hfailed
    obtain ⟨p, hp, _⟩ := (hfails failure).mp hfailed
    exact exists_firstRepeats_iff.mp ⟨p, hp⟩ hdistinct
  rcases hmake : (make Module.documented none (some .raising)).on
    (aloneSession Module.documented) with ⟨outcome, decorated⟩
  rcases hwrap : (wrap .null 0 false [("f", Module.documented.declared)] none (some .raising)).on
    (aloneSession Module.documented) with ⟨twin, wrapped⟩
  cases outcome with
  | error failure => exact absurd (congrArg Prod.fst hmake) (hok failure)
  | ok guarded =>
      cases twin with
      | error failure =>
          exact absurd ((hiff failure).mpr (congrArg Prod.fst hwrap)) (hok failure)
      | ok place =>
          obtain ⟨htarget, _, hcourse⟩ := hagrees guarded decorated place wrapped hmake hwrap
          have hplain : Module.documented.announcesSuspension = false := rfl
          have hfits (arguments : Arguments) : guarded.misfit? arguments = none := by
            rw [misfit?, htarget, hplain, Bool.and_false]
            rfl
          have hcalled := Relation.ReflTransGen.single
            (Pair.Step.call .dotted (hfits ⟨[.int 1], []⟩) :
              Pair.Step 0 "f" guarded place ⟨decorated, wrapped, []⟩ _)
          exact ⟨guarded, decorated, place, wrapped, rfl, rfl,
            (hcourse _ .refl).1 _ _ (hfits _), (hcourse _ hcalled).1 _ _ (hfits _)⟩

/-- A coroutine function of one parameter, without documentation. -/
def oneParameter : Callable :=
  { (default : Callable) with
    kind := .function
    name := "f"
    owner := "x"
    suspends := true }

/-- Called without its argument, the function fails by itself, but its facade suspends the call. -/
theorem call_without_argument_differs :
    oneParameter.parameterLines = none ∧
    ∃ guarded decorated place wrapped rest looked,
      (make oneParameter none none).on (aloneSession oneParameter) = (.ok guarded, decorated) ∧
      (wrap .null 0 false [("f", oneParameter.declared)] none none).on
        (aloneSession oneParameter) = (.ok place, wrapped) ∧
      ((guarded.call {}).on decorated).1 =
        .error (.raised
          ⟨"TypeError", "f() missing 1 required positional argument: 'x'"⟩) ∧
      (callBy .dotted place (.text "f") {}).on wrapped = (.ok (.suspended rest), looked) :=
  ⟨rfl, _, _, _, _, _, _, rfl, rfl, rfl, rfl⟩

end Guarded

end CallGuard
