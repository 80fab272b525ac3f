import CallGuard.Proofs.Facade.History
import CallGuard.Standard.Platform

/-!
# Dispatch over a history

Whatever has happened since a facade was made, a call through it passes the gate that its symbol had
then and goes on to what the symbol stands for now. A call that the gate ends invokes nothing, and
any other one invokes the member once, with its own arguments. A delegate that suspends does neither
before its result is awaited. Only a symbol without a delegate can fail to get one.
-/

namespace CallGuard

open Session

/-- What a reply comes to: the rest of a suspended call runs. -/
def Reply.awaited : Reply → Run Value
  | .value v => pure v
  | .suspended rest => rest

namespace Facade

/-- A run that goes on with the answer of a member does nothing more than to await a coroutine. -/
structure OnlyAwaits (next : Value → Run Value) : Prop where
  still : ∀ v, (∀ coroutine positional named, v ≠ .suspended coroutine positional named) →
    ∀ session, ((next v).on session).2 = session
  awaits : ∀ coroutine positional named, next (.suspended coroutine positional named) =
    (Value.suspended coroutine positional named).await

theorem onlyAwaits_await : OnlyAwaits Value.await where
  still v h session := by
    cases v with
    | suspended coroutine positional named => exact absurd rfl (h coroutine positional named)
    | _ => rfl
  awaits _ _ _ := rfl

theorem onlyAwaits_awaited : OnlyAwaits fun v => (Reply.ofValue v).awaited where
  still v h session := by
    cases v with
    | suspended coroutine positional named => exact absurd rfl (h coroutine positional named)
    | _ => rfl
  awaits _ _ _ := rfl

end Facade

section Dispatch

variable [Platform]

namespace Facade

def callAwaited (access : Access) (place : FacadeId) (symbol : Value) (arguments : Arguments) :
    Run Value := do
  let reply ← callBy access place symbol arguments
  reply.awaited

namespace Charter

variable (charter : Charter)

def pass (s : String) (arguments : Arguments) : Run Unit :=
  match Table.get? charter.gates s with
  | some gate => gate.pass arguments
  | none => pure ()

def bound? (session : Session) (s : String) : Option Callable :=
  match Table.get? (session.namespaceAt charter.names) s with
  | some (.callable c) => some c
  | _ => none

def absence (s : String) : Failure :=
  match ErrorRecord.dispatch (.text s) charter.title with
  | .ok _ => .noMember s charter.title
  | .error e => .raised e

theorem absence_of_text {title : String} (h : charter.title = .text title) (s : String) :
    charter.absence s = .noMember s (.text title) := by
  have hdispatch : ∃ record, ErrorRecord.dispatch (.text s) (.text title) = .ok record := by
    unfold ErrorRecord.dispatch
    cases htruthy : (Value.text title).truthy with
    | true =>
        simp only [if_true]
        exact ⟨_, rfl⟩
    | false =>
        simp only [Bool.false_eq_true, if_false]
        exact ⟨_, rfl⟩
  obtain ⟨record, hrecord⟩ := hdispatch
  rw [absence, h, hrecord]

/-- How a failure leaves a call that may be suspended. -/
def left (suspends : Bool) (failure : Failure) : Failure :=
  if suspends then Run.escaped failure else failure

/--
The outcome of a call of a symbol and the session after it, told from the session before it. A gate
that fails gives the outcome and nothing else happens. After a gate that passes, the callable that
the symbol is bound to is called once with the arguments of the call. It runs, unless it suspends
and they do not fit it, and only a coroutine that it returns may run besides.
-/
structure Dispatches (s : String) (arguments : Arguments) (suspends : Bool) (before : Session)
    (outcome : Except Failure Value) (final : Session) : Prop where
  refused : ∀ failure checked, (charter.pass s arguments).on before = (.error failure, checked) →
    outcome = .error (left suspends failure) ∧ final = checked
  missing : ∀ checked, (charter.pass s arguments).on before = (.ok (), checked) →
    charter.bound? before s = none →
      outcome = .error (left suspends (charter.absence s)) ∧ final = checked
  unfit : ∀ checked c e, (charter.pass s arguments).on before = (.ok (), checked) →
    charter.bound? before s = some c → c.misfit? arguments = some e →
      outcome = .error (left suspends (.raised e)) ∧
        final = { checked with invocations := ⟨c.id, arguments⟩ :: checked.invocations }
  invoked : ∀ checked c, (charter.pass s arguments).on before = (.ok (), checked) →
    charter.bound? before s = some c → c.misfit? arguments = none →
      ∃ answer ran, (c.run arguments).on checked = (answer, ran) ∧
        ran.invocations = ⟨c.id, arguments⟩ :: checked.invocations ∧
        (final = ran ∨ ∃ coroutine positional named,
          answer = .ok (.suspended coroutine positional named) ∧
          final = ((coroutine.run ⟨positional, named⟩).on ran).2)

end Charter

variable {charter : Charter} {delegate : Delegate} {session : Session} {place : FacadeId}
  {s : String} {arguments : Arguments}

theorem Charter.pass_keeps (charter : Charter) (s : String) (arguments : Arguments) :
    (charter.pass s arguments).Keeps SameStores := by
  unfold pass
  split
  · exact Gate.pass_keeps _ arguments
  · exact Run.Keeps.pure _

theorem Charter.IsDelegate.passCheck_eq (h : charter.IsDelegate s delegate) :
    passCheck delegate.check arguments = charter.pass s arguments := by
  rw [h.check, pass]
  cases Table.get? charter.gates s with
  | none => rfl
  | some gate => rfl

theorem Charter.IsDelegate.on_member (h : charter.IsDelegate s delegate) (session : Session) :
    (member delegate).on session =
      (match charter.bound? session s with
        | some c => .ok (.callable c)
        | none => .error (charter.absence s), session) := by
  have hfind : (delegate.exports.find (.text delegate.symbol)).on session =
      (.ok (Table.get? (session.namespaceAt charter.names) s), session) := by
    rw [h.exports, h.symbol]
    rfl
  have habsent : (do
      let _ ← Run.ofExcept (ErrorRecord.dispatch (.text delegate.symbol) delegate.title)
      throw (.noMember delegate.symbol delegate.title) : Run Value).on session =
        (.error (charter.absence s), session) := by
    rw [h.symbol, h.title, absence]
    cases ErrorRecord.dispatch (.text s) charter.title with
    | ok record => rfl
    | error e => rfl
  rw [member, Run.on_bind_of_ok hfind, bound?]
  cases Table.get? (session.namespaceAt charter.names) s with
  | none => exact habsent
  | some v =>
      cases v with
      | callable c => rfl
      | _ => exact habsent

/-- Calling a callable and going on with the answer runs it once, and at most awaits its answer. -/
theorem OnlyAwaits.exists_run {next : Value → Run Value} (hnext : OnlyAwaits next) {c : Callable}
    {arguments : Arguments} (hfits : c.misfit? arguments = none) (session : Session) :
    ∃ answer ran, (c.run arguments).on session = (answer, ran) ∧
      ran.invocations = ⟨c.id, arguments⟩ :: session.invocations ∧
      ((((Value.callable c).call arguments >>= next).on session).2 = ran ∨
        ∃ coroutine positional named, answer = .ok (.suspended coroutine positional named) ∧
          (((Value.callable c).call arguments >>= next).on session).2 =
            ((coroutine.run ⟨positional, named⟩).on ran).2) := by
  rcases hrun : (c.run arguments).on session with ⟨answer, ran⟩
  have hinvocations : ran.invocations = ⟨c.id, arguments⟩ :: session.invocations := by
    rw [Callable.on_run] at hrun
    cases hrun
    rfl
  have hcall := c.on_call arguments session
  rw [hfits] at hcall
  refine ⟨answer, ran, rfl, hinvocations, ?_⟩
  rw [Run.on_bind, hcall]
  by_cases hsuspends : c.suspends = true
  · left
    simp only [if_pos hsuspends, hnext.awaits, Value.await, Run.on_resumed, hrun]
  · simp only [if_neg hsuspends, hrun]
    cases answer with
    | error failure =>
        left
        rfl
    | ok v =>
        cases v with
        | suspended coroutine positional named =>
            right
            refine ⟨coroutine, positional, named, rfl, ?_⟩
            simp only [hnext.awaits, Value.await, Run.on_resumed]
        | _ =>
            left
            apply hnext.still
            exact fun _ _ _ => nofun

/-- After a gate that passes, a delegate goes on to what its symbol was bound to before the gate. -/
theorem Charter.IsDelegate.on_invoke {checked : Session} (h : charter.IsDelegate s delegate)
    (hpass : (charter.pass s arguments).on session = (.ok (), checked)) :
    (invoke delegate arguments).on session =
      (match charter.bound? session s with
        | some c => (Value.callable c).call arguments
        | none => throw (charter.absence s)).on checked := by
  have hstores : charter.bound? checked s = charter.bound? session s := by
    rw [Charter.bound?, ((charter.pass_keeps s arguments).of_on hpass).namespaceAt, Charter.bound?]
  rw [invoke, h.passCheck_eq, Run.on_bind_of_ok hpass, Run.on_bind, h.on_member, hstores]
  cases charter.bound? session s with
  | some c => rfl
  | none => rfl

theorem dispatches_invoke (h : charter.IsDelegate s delegate) {next : Value → Run Value}
    (hnext : OnlyAwaits next) (arguments : Arguments) (session : Session) :
    charter.Dispatches s arguments false session
      ((invoke delegate arguments >>= next).on session).1
      ((invoke delegate arguments >>= next).on session).2 := by
  refine ⟨fun failure checked hpass => ?_, fun checked hpass hbound => ?_,
    fun checked c e hpass hbound hunfit => ?_, fun checked c hpass hbound hfits => ?_⟩
  · have hfails : (invoke delegate arguments).on session = (.error failure, checked) := by
      rw [invoke, h.passCheck_eq, Run.on_bind_of_error hpass]
    rw [Run.on_bind_of_error hfails]
    exact ⟨rfl, rfl⟩
  · have hfails : (invoke delegate arguments).on session =
        (.error (charter.absence s), checked) := by
      rw [h.on_invoke hpass, hbound]
      rfl
    rw [Run.on_bind_of_error hfails]
    exact ⟨rfl, rfl⟩
  · have hfails : (invoke delegate arguments).on session =
        (.error (.raised e),
          { checked with invocations := ⟨c.id, arguments⟩ :: checked.invocations }) := by
      rw [h.on_invoke hpass, hbound, c.on_call, hunfit]
      rfl
    rw [Run.on_bind_of_error hfails]
    exact ⟨rfl, rfl⟩
  · have hcalls : (invoke delegate arguments >>= next).on session =
        ((Value.callable c).call arguments >>= next).on checked := by
      rw [Run.on_bind, Run.on_bind, h.on_invoke hpass, hbound]
    rw [hcalls]
    exact hnext.exists_run hfits checked

/-- A call that runs when it is awaited dispatches in the same way, and its failure may change. -/
theorem Charter.Dispatches.resumed {outcome : Except Failure Value} {final : Session}
    (h : charter.Dispatches s arguments false session outcome final) :
    charter.Dispatches s arguments true session (outcome.mapError Run.escaped) final := by
  refine ⟨fun failure checked hpass => ?_, fun checked hpass hbound => ?_,
    fun checked c e hpass hbound hunfit => ?_, h.invoked⟩
  · obtain ⟨rfl, hfinal⟩ := h.refused failure checked hpass
    exact ⟨rfl, hfinal⟩
  · obtain ⟨rfl, hfinal⟩ := h.missing checked hpass hbound
    exact ⟨rfl, hfinal⟩
  · obtain ⟨rfl, hfinal⟩ := h.unfit checked c e hpass hbound hunfit
    exact ⟨rfl, hfinal⟩

theorem on_callDelegate_of_suspends (h : delegate.appearance.suspends = true)
    (arguments : Arguments) (session : Session) :
    (callDelegate delegate arguments >>= Reply.awaited).on session =
      (Run.resumed (invoke delegate arguments >>= Value.await)).on session := by
  rw [callDelegate, h]
  rfl

theorem on_callDelegate_of_not_suspends (h : delegate.appearance.suspends = false)
    (arguments : Arguments) (session : Session) :
    (callDelegate delegate arguments >>= Reply.awaited).on session =
      (invoke delegate arguments >>= fun v => (Reply.ofValue v).awaited).on session := by
  rw [callDelegate, h, Run.on_bind, if_neg Bool.false_ne_true, Run.on_bind, Run.on_bind]
  rcases (invoke delegate arguments).on session with ⟨outcome, after⟩
  cases outcome with
  | ok v => rfl
  | error failure => rfl

/-- What a delegate that suspends leaves to be awaited dispatches the call when it runs. -/
theorem Charter.IsDelegate.dispatches_resumed (h : charter.IsDelegate s delegate)
    (arguments : Arguments) (session : Session) :
    charter.Dispatches s arguments true session
      ((Run.resumed (invoke delegate arguments >>= Value.await)).on session).1
      ((Run.resumed (invoke delegate arguments >>= Value.await)).on session).2 := by
  rw [Run.on_resumed]
  exact (dispatches_invoke h onlyAwaits_await arguments session).resumed

/-- Awaiting a call of a delegate dispatches it. -/
theorem Charter.IsDelegate.dispatches_awaited (h : charter.IsDelegate s delegate)
    (arguments : Arguments) (session : Session) :
    charter.Dispatches s arguments delegate.appearance.suspends session
      ((callDelegate delegate arguments >>= Reply.awaited).on session).1
      ((callDelegate delegate arguments >>= Reply.awaited).on session).2 := by
  cases hsuspends : delegate.appearance.suspends with
  | true =>
      rw [on_callDelegate_of_suspends hsuspends]
      exact h.dispatches_resumed arguments session
  | false =>
      rw [on_callDelegate_of_not_suspends hsuspends]
      exact dispatches_invoke h onlyAwaits_awaited arguments session

theorem on_callBy_of_made {access : Access} {looked : Session} {symbol : Value}
    (hask : (ask access place symbol).on session = (.ok (.made delegate), looked))
    (arguments : Arguments) :
    (callBy access place symbol arguments).on session =
      (callDelegate delegate arguments).on looked := by
  rw [callBy, Run.on_bind_of_ok hask]
  rfl

theorem on_callBy_of_suspends {access : Access} {looked : Session} {symbol : Value}
    (hask : (ask access place symbol).on session = (.ok (.made delegate), looked))
    (hsuspends : delegate.appearance.suspends = true) (arguments : Arguments) :
    (callBy access place symbol arguments).on session =
      (.ok (.suspended (Run.resumed (invoke delegate arguments >>= Value.await))), looked) := by
  rw [on_callBy_of_made hask, callDelegate, hsuspends]
  rfl

theorem on_callAwaited_of_made {access : Access} {looked : Session} {symbol : Value}
    (hask : (ask access place symbol).on session = (.ok (.made delegate), looked))
    (arguments : Arguments) :
    (callAwaited access place symbol arguments).on session =
      (callDelegate delegate arguments >>= Reply.awaited).on looked := by
  rw [callAwaited, Run.on_bind, on_callBy_of_made hask, Run.on_bind]

/--
After any history a symbol that is not reserved leads to one delegate, whichever way it is asked
for and whenever it is asked for again. The delegate has the gate that the facade was made with for
the symbol. A call dispatches, and if the delegate suspends, it does so only when it is awaited. A
symbol without a gate that has no delegate yet is refused when what it stands for does not lend its
looks: then looking it up and calling it fail, and nothing changes.
-/
theorem dispatch_over_history {name : Option String} {names : NamespaceId} {ofModule : Bool}
    {gates : Table Gate} {start created now : Session} {place : FacadeId} {s : String}
    (hcreate : (create (Value.ofText? name) names ofModule gates).on start = (.ok place, created))
    (hhistory : History place created now) (hs : isReserved s = false) :
    let charter := Charter.made (Value.ofText? name) names ofModule gates start
    charter.absence s = .noMember s (titleOf (Value.ofText? name)) ∧
    (∀ e, charter.Refuses now place s e → Table.get? gates s = none ∧
      ∀ access, (ask access place (.text s)).on now = (.error (.raised e), now) ∧
        ∀ arguments, (callBy access place (.text s) arguments).on now =
          (.error (.raised e), now)) ∧
    ((∀ e, ¬charter.Refuses now place s e) → ∃ delegate looked,
      charter.IsDelegate s delegate ∧
      ((now.facadeAt place).known? s = none → charter.looks now s = .ok delegate.appearance) ∧
      (∀ access, (ask access place (.text s)).on now = (.ok (.made delegate), looked)) ∧
      (∃ facade, looked = now.setFacade place facade) ∧
      (∀ access later, History place looked later →
        (ask access place (.text s)).on later = (.ok (.made delegate), later)) ∧
      (∀ access arguments,
        charter.Dispatches s arguments delegate.appearance.suspends looked
          ((callAwaited access place (.text s) arguments).on now).1
          ((callAwaited access place (.text s) arguments).on now).2) ∧
      (delegate.appearance.suspends = true → ∀ access arguments, ∃ rest,
        (callBy access place (.text s) arguments).on now = (.ok (.suspended rest), looked) ∧
        ∀ later, charter.Dispatches s arguments true later (rest.on later).1
          (rest.on later).2)) := by
  intro charter
  obtain ⟨hcreated, _⟩ := exists_create _ names ofModule gates hcreate
  obtain ⟨hserves, _⟩ := hhistory.upholds hcreated
  refine ⟨?_, fun e hrefuses => ⟨?_, fun access => ?_⟩, fun hlooks => ?_⟩
  · have htitle : ∃ title, titleOf (Value.ofText? name) = .text title := by
      unfold titleOf
      split
      · cases name with
        | none => rename_i htruthy; cases htruthy
        | some text => exact ⟨text, rfl⟩
      · exact ⟨untitled, rfl⟩
    obtain ⟨title, htitle⟩ := htitle
    rw [Charter.absence_of_text _ htitle, htitle]
  · exact hserves.serves.check_of_unknown hrefuses.unknown
  · have hask := on_ask_of_refuses hserves hs hrefuses access
    exact ⟨hask, fun arguments => Run.on_bind_of_error hask _⟩
  obtain ⟨delegate, facade, hask, hdelegate, hknown, hupholds, hnew⟩ := exists_ask hserves hs hlooks
  refine ⟨delegate, now.setFacade place facade, hdelegate, hnew, hask, ⟨facade, rfl⟩, ?_, ?_, ?_⟩
  · intro access later hlater
    obtain ⟨hlooked, _⟩ := hupholds hserves
    obtain ⟨hstill, hkept⟩ := hlater.upholds hlooked
    refine on_ask_of_known hstill hs (hkept s _ ?_) access
    rw [facadeAt_setFacade_self hserves.placed]
    exact hknown
  · intro access arguments
    rw [on_callAwaited_of_made (hask access)]
    exact hdelegate.dispatches_awaited arguments _
  · intro hsuspends access arguments
    exact ⟨_, on_callBy_of_suspends (hask access) hsuspends arguments,
      hdelegate.dispatches_resumed arguments⟩

end Facade

end Dispatch

open scoped Standard

namespace Facade

/-- A call after its member has been taken away. -/
theorem dispatch_of_missing_member :
    ∃ created now looked,
      (create .null 0 false []).on { namespaces := #[[("f", .callable default)]] } =
        (.ok 0, created) ∧
      History 0 created now ∧
      ((callAwaited .dotted 0 (.text "f") {}).on now) =
        (.error (.noMember "f" (.text "<module>")), looked) := by
  obtain ⟨created, hcreate⟩ : ∃ created, (create (Value.ofText? none) 0 false []).on
      { namespaces := #[[("f", .callable default)]] } = (.ok 0, created) := ⟨_, rfl⟩
  have hhistory : History 0 created
      (created.setNamespace 0 (Table.drop (created.namespaceAt 0) "f")) :=
    .single (.unbind 0 "f")
  obtain ⟨habsence, _, hdelegate⟩ :=
    dispatch_over_history hcreate hhistory (by decide +kernel : isReserved "f" = false)
  obtain ⟨delegate, looked, _, _, _, ⟨facade, rfl⟩, _, hdispatches, _⟩ := hdelegate <| by
    intro e hrefuses
    cases hcreate
    cases hrefuses.looks
  have hmissing := (hdispatches .dotted {}).missing _ rfl
  refine ⟨created, _, _, hcreate, hhistory, Prod.ext ?_ rfl⟩
  rw [(hmissing (by cases hcreate; rfl)).1, habsence]
  cases delegate.appearance.suspends with
  | true => rfl
  | false => rfl

/-- A symbol does not lead to a delegate when the name of what it stands for is a number. -/
theorem look_up_of_numbered_is_refused :
    ∃ created,
      (create (.text "m") 0 false []).on { namespaces := #[[("f", .callable Standard.numbered)]] } =
        (.ok 0, created) ∧
      ∀ access, (ask access 0 (.text "f")).on created =
        (.error (.raised ⟨"TypeError", "__name__ must be set to a string object"⟩), created) :=
  ⟨_, rfl, fun access => by cases access <;> rfl⟩

/-! ### A facade that is initialised anew -/

def guardedSession : Session where
  namespaces := #[[("f", .callable default)]]

def textGate : Gate where
  function := "f"
  outline := [⟨"String", "x", "", []⟩]
  reporter := some .raising

/-- A call of the part that initialises a facade can leave a symbol without its gate. -/
theorem gate_lost_by_initialising :
    ∃ created rewritten final,
      (create (.text "m") 0 false [("f", textGate)]).on guardedSession = (.ok 0, created) ∧
      ((textGate.pass ⟨[.null], []⟩).on created).1 =
        .error (.invalidArgument ⟨"f", "x", "String", .null, ""⟩ "None") ∧
      (callAwaited .dotted 0 (.text "__init__")
        ⟨[.mapping [(.text "f", .callable default)], .mapping []], []⟩).on created =
          (.ok .null, rewritten) ∧
      (callAwaited .dotted 0 (.text "f") ⟨[.null], []⟩).on rewritten = (.ok .null, final) :=
  ⟨_, _, _, rfl, rfl, rfl, rfl⟩

/-! ### A gate that ends an iteration -/

/-- A session with a predicate that ends an iteration, and with a function that suspends. -/
def endingSession : Session where
  behaviour := fun callee _ _ =>
    if callee.definition = 0 then .error ⟨iterationEndKind, "t"⟩ else .ok .null
  registries := #[⟨[("T", .custom (.callable default))]⟩]
  namespaces := #[[("f", .callable { (default : Callable) with
    id := ⟨1, 0⟩
    suspends := true })]]

def endingGate : Gate where
  function := "f"
  outline := [⟨"T", "x", "", []⟩]
  registry := some 0
  reporter := some .raising

/-- The failure of a gate is not the outcome when it ends an iteration in a suspended call. -/
theorem outcome_of_ending_gate :
    ∃ created checked,
      (create (.text "m") 0 false [("f", endingGate)]).on endingSession = (.ok 0, created) ∧
      (endingGate.pass ⟨[.int 1], []⟩).on created =
        (.error (.raised ⟨iterationEndKind, "t"⟩), checked) ∧
      (callAwaited .dotted 0 (.text "f") ⟨[.int 1], []⟩).on created =
        (.error (.raised escapedIterationEnd), checked) := by
  obtain ⟨created, hcreate⟩ : ∃ created,
      (create (.text "m") 0 false [("f", endingGate)]).on endingSession = (.ok 0, created) :=
    ⟨_, rfl⟩
  obtain ⟨checked, hpass⟩ : ∃ checked, (endingGate.pass ⟨[.int 1], []⟩).on created =
      (.error (.raised ⟨iterationEndKind, "t"⟩), checked) := by
    cases hcreate
    exact ⟨_, rfl⟩
  refine ⟨created, checked, hcreate, hpass, ?_⟩
  obtain ⟨hserves, _⟩ := exists_create _ _ _ _ hcreate
  obtain ⟨member, hknown⟩ := Option.isSome_iff_exists.mp (hserves.serves.gated "f" rfl)
  obtain ⟨delegate, rfl, hdelegate⟩ := hserves.serves.known "f" member hknown
  have hask := on_ask_of_known hserves (by decide +kernel : isReserved "f" = false) hknown .dotted
  have hsuspends : delegate.appearance.suspends = true := by
    have hlooks : Except.ok _ = Except.ok delegate.appearance := hdelegate.appearance rfl
    rw [← Except.ok.inj hlooks]
    rfl
  have hdispatches := hdelegate.dispatches_awaited ⟨[.int 1], []⟩ created
  obtain ⟨houtcome, hfinal⟩ := hdispatches.refused _ checked hpass
  rw [on_callAwaited_of_made hask]
  refine Prod.ext ?_ hfinal
  rw [houtcome, hsuspends]
  rfl

end Facade

end CallGuard
