import CallGuard.Proofs.Facade.LookUp
import CallGuard.Proofs.Gate.Inspection

/-!
# Operations uphold a charter

Whatever is looked up or called on the facades of a session, a facade goes on serving its charter
with the delegates that it had. Only three parts of a facade rewrite it when they are called: the
one that initialises it anew and those that set and take away attributes. They are told apart here,
and they may be called on any other facade.
-/

namespace CallGuard

open Session

variable {charter : Facade.Charter} {place other : FacadeId}

theorem Run.Keeps.sameStores {α : Type} {operation : Run α} (h : operation.Keeps Quiet) :
    operation.Keeps SameStores :=
  h.mono fun _ _ hquiet => hquiet.toSameStores

namespace Facade

theorem stateAt_keeps {R : Session → Session → Prop} [Lasting R] (place : FacadeId) :
    (stateAt place).Keeps R :=
  Run.Keeps.get.bind fun _ => Run.Keeps.pure _

theorem namesOf_keeps {R : Session → Session → Prop} [Lasting R] (facade : Facade) :
    facade.namesOf.Keeps R := by
  refine Run.Keeps.get.bind fun session => ?_
  split
  · exact Run.Keeps.pure _
  · exact Run.Keeps.pure _

theorem eq_of_ownTarget?_part {facade : Facade} {names : Namespace} {s name : String}
    {shape : Shape} (h : facade.ownTarget? names s = some (.part name shape)) : s = name := by
  have hpart (found : (facade.shape? s).map (Target.part s) = some (.part name shape)) :
      s = name := by
    obtain ⟨_, _, heq⟩ := Option.map_eq_some_iff.mp found
    cases heq
    rfl
  unfold ownTarget? at h
  split at h
  · exact hpart h
  · rcases Option.or_eq_some_iff.mp h with hheld | ⟨_, hfound⟩
    · obtain ⟨_, _, heq⟩ := Option.map_eq_some_iff.mp hheld
      cases heq
    · exact hpart hfound

end Facade

variable [Platform]

theorem Run.Keeps.upholds {α : Type} {operation : Run α} (h : operation.Keeps SameStores) :
    operation.Keeps (Upholds charter place) :=
  h.mono fun _ _ hsame => hsame.upholds

theorem Exports.find_keeps (exports : Exports) (symbol : Value) :
    (exports.find symbol).Keeps SameStores := by
  have hcall (v : Value) : (some <$> v.callAttribute "get" [symbol]).Keeps SameStores :=
    (v.callAttribute_keeps "get" [symbol]).sameStores.map some
  cases exports with
  | names names ofModule =>
      cases symbol with
      | text name => exact Run.Keeps.get.bind fun session => Run.Keeps.pure _
      | _ => exact Run.Keeps.ofExcept _
  | given v =>
      cases v with
      | mapping entries => exact Run.Keeps.ofExcept _
      | view entries => exact Run.Keeps.ofExcept _
      | _ => exact hcall _

namespace Facade

/-! ### Operations that leave all facades alone -/

theorem makeDelegate_keeps (facade : Facade) (symbol : Value) (check : Option Check)
    (serial : Nat) : (facade.makeDelegate symbol check serial).Keeps SameStores := by
  refine (Run.Keeps.ofExcept _).bind fun exports => ?_
  refine (Run.Keeps.ofExcept _).bind fun title => ?_
  refine (exports.find_keeps symbol).bind fun member => ?_
  split
  · exact (Run.Keeps.ofExcept _).bind fun _ => Run.Keeps.pure _
  · exact (Run.Keeps.ofExcept _).bind fun _ => Run.Keeps.pure _
  · exact Run.Keeps.raise _

theorem makeMember_keeps (facade : Facade) (symbol : Value) (check : Option Check)
    (serial : Nat) : (facade.makeMember symbol check serial).Keeps SameStores := by
  unfold makeMember
  split
  · exact (Value.call_keeps _ _).sameStores.map _
  · exact facade.makeDelegate_keeps symbol check serial

theorem makeMembers_keeps (facade : Facade) (serial : Nat) (entries : List (Value × Value)) :
    (facade.makeMembers serial entries).Keeps SameStores := by
  induction entries generalizing serial with
  | nil => exact Run.Keeps.pure _
  | cons entry rest ih =>
      refine (facade.makeMember_keeps _ _ _).bind fun member => ?_
      exact (ih _).bind fun members => Run.Keeps.pure _

theorem saysReserved_keeps (symbol : Value) : (saysReserved symbol).Keeps SameStores := by
  refine (symbol.callAttribute_keeps _ _).sameStores.bind fun isOwn => ?_
  split
  · exact Run.Keeps.pure _
  · refine (symbol.callAttribute_keeps _ _).sameStores.bind fun opens => ?_
    split
    · exact (symbol.callAttribute_keeps _ _).sameStores.map _
    · exact Run.Keeps.pure _

theorem entriesFrom_keeps (v : Value) : (entriesFrom v).Keeps SameStores := by
  cases v with
  | object type attributes raising =>
      have hmissing : (Run.unlessMissing (Run.ofExcept
          ((Value.object type attributes raising).requireAttribute "keys"))).Keeps SameStores := by
        refine Run.Keeps.tryCatch ((Run.Keeps.ofExcept _).map some) fun failure => ?_
        split
        · split
          · exact Run.Keeps.pure _
          · exact Run.Keeps.throw _
        · exact Run.Keeps.throw _
      refine hmissing.bind fun listing => ?_
      cases listing with
      | none => exact Run.Keeps.raise _
      | some listing =>
          refine (listing.call_keeps _).sameStores.bind fun keys => ?_
          split
          · exact Run.Keeps.pure _
          · exact Run.Keeps.raise _
          · exact Run.Keeps.raise _
  | _ => exact Run.Keeps.ofExcept _

theorem Target.value_keeps (place : FacadeId) (target : Target) :
    (target.value place).Keeps SameStores := by
  cases target with
  | part symbol shape =>
      refine (stateAt_keeps place).bind fun facade => ?_
      exact facade.namesOf_keeps.bind fun names => Run.Keeps.ofExcept _
  | made delegate => exact Run.Keeps.pure _
  | held v => exact Run.Keeps.pure _

theorem readOwn_keeps (place : FacadeId) (name : String) :
    (readOwn place name).Keeps SameStores := by
  refine (stateAt_keeps place).bind fun facade => ?_
  refine facade.namesOf_keeps.bind fun names => ?_
  split
  · exact Target.value_keeps place _
  · exact Run.Keeps.raise _

theorem passCheck_keeps (check : Option Check) (arguments : Arguments) :
    (passCheck check arguments).Keeps SameStores := by
  cases check with
  | none => exact Run.Keeps.pure _
  | some check =>
      cases check with
      | gate gate => exact gate.pass_keeps arguments
      | given v => exact (v.call_keeps _).sameStores.bind fun _ => Run.Keeps.pure _

theorem member_keeps (delegate : Delegate) : (member delegate).Keeps SameStores := by
  refine (delegate.exports.find_keeps _).bind fun found => ?_
  split
  · exact Run.Keeps.pure _
  · exact (Run.Keeps.ofExcept _).bind fun _ => Run.Keeps.throw _

theorem invoke_keeps (delegate : Delegate) (arguments : Arguments) :
    (invoke delegate arguments).Keeps SameStores := by
  refine (passCheck_keeps _ _).bind fun _ => ?_
  exact (member_keeps delegate).bind fun target => (target.call_keeps _).sameStores

end Facade

/-- A reply whose suspended rest leaves the stores alone. -/
def Reply.IsMild : Reply → Prop
  | .value _ => True
  | .suspended rest => rest.Keeps SameStores

theorem Reply.isMild_ofValue (v : Value) : (Reply.ofValue v).IsMild := by
  cases v with
  | suspended c positional named =>
      exact (Value.await_keeps (.suspended c positional named)).sameStores
  | _ => trivial

namespace Facade

theorem callDelegate_keeps (delegate : Delegate) (arguments : Arguments) :
    (callDelegate delegate arguments).Keeps SameStores := by
  unfold callDelegate
  split
  · exact Run.Keeps.pure _
  · exact (invoke_keeps delegate arguments).bind fun result => Run.Keeps.pure _

/-! ### Looking up -/

theorem update_upholds (h : other ≠ place) (change : Facade → Facade) :
    (update other change).Keeps (Upholds charter place) :=
  fun _ => upholds_setFacade_of_ne h _

theorem keepMember_upholds (h : other ≠ place) (symbol : Value) :
    (keepMember other symbol).Keeps (Upholds charter place) := by
  refine (stateAt_keeps other).bind fun facade => ?_
  refine (Run.Keeps.ofExcept _).bind fun delegates => ?_
  cases delegates with
  | kept members =>
      refine (facade.makeMember_keeps _ _ _).upholds.bind fun member => ?_
      exact (update_upholds h _).bind fun _ => Run.Keeps.pure _
  | given v =>
      exact (facade.makeMember_keeps _ _ _).upholds.bind fun _ => Run.Keeps.raise _

theorem obtain_upholds (s : String) : (obtain other s).Keeps (Upholds charter place) := by
  by_cases h : other = place
  · subst h
    intro session hserves
    have hrefl : Upholds charter other session session := Lasting.refl session
    rcases on_obtain hserves s with ⟨delegate, _, hobtain⟩ | ⟨e, _, hobtain⟩ |
      ⟨members, appearance, serial, hunknown, _, hmembers, hobtain⟩
    · rw [hobtain]
      exact hrefl hserves
    · rw [hobtain]
      exact hrefl hserves
    · have hdelegate := hserves.serves.isDelegate_newDelegate hunknown appearance serial
      rw [hobtain]
      apply upholds_setFacade_self (hserves.serves.joined hmembers hunknown hdelegate) _ hserves
      intro symbol member hmember
      rw [known?_joined hmembers, hmember, Option.some_or]
  · refine (stateAt_keeps other).bind fun facade => ?_
    refine (Run.Keeps.ofExcept _).bind fun delegates => ?_
    cases delegates with
    | kept members =>
        simp only
        split
        · exact Run.Keeps.pure _
        · exact keepMember_upholds h _
    | given v =>
        refine (Run.Keeps.ofExcept _).bind fun known => ?_
        split
        · exact (Run.Keeps.ofExcept _).map _
        · exact keepMember_upholds h _

theorem find_upholds (s : String) : (find other s).Keeps (Upholds charter place) := by
  unfold find
  split
  · exact Run.Keeps.raise _
  · exact obtain_upholds s

/-- In a namespace only texts can be found, so any other symbol makes no delegate. -/
theorem exists_makeMember_error {facade : Facade} (hserves : facade.Serves charter)
    {symbol : Value} (h : ∀ s, symbol ≠ .text s) (check : Option Check) (serial : Nat)
    (session : Session) :
    ∃ failure, (facade.makeMember symbol check serial).on session = (.error failure, session) := by
  have hfind : (Exports.names charter.names charter.ofModule).find symbol =
      Run.ofExcept (Value.lookUpKey [] symbol) := by
    cases symbol with
    | text s => exact absurd rfl (h s)
    | _ => rfl
  rw [makeMember, hserves.extra]
  simp only [Value.entryAt?]
  rw [makeDelegate, hserves.exports, hserves.title, require, require,
    Run.on_bind_of_ok (Run.on_ofExcept_ok _ _), Run.on_bind_of_ok (Run.on_ofExcept_ok _ _), hfind,
    Value.lookUpKey]
  cases symbol.keyFault? with
  | some e => exact ⟨_, Run.on_bind_of_error (Run.on_ofExcept_error e session) _⟩
  | none =>
      refine ⟨.raised (Callable.badName Callable.ownName), ?_⟩
      rw [Run.on_bind_of_ok (Run.on_ofExcept_ok _ _)]
      split
      · exact absurd rfl (h _)
      · rename_i hfound
        cases hfound
      · rfl

theorem findAny_upholds (symbol : Value) :
    (findAny other symbol).Keeps (Upholds charter place) := by
  have hkeep (h : ∀ s, symbol ≠ .text s) :
      (keepMember other symbol).Keeps (Upholds charter place) := by
    by_cases hother : other = place
    · subst hother
      intro session hserves
      have hrefl : Upholds charter other session session := Lasting.refl session
      obtain ⟨members, hmembers, hrequire⟩ := hserves.serves.require_delegates
      obtain ⟨failure, hfails⟩ :=
        exists_makeMember_error hserves.serves h none members.length session
      rw [keepMember, Run.on_bind_of_ok (on_stateAt other session), hrequire,
        Run.on_bind_of_ok (Run.on_ofExcept_ok _ _)]
      simp only
      rw [Run.on_bind_of_error hfails]
      exact hrefl hserves
    · exact keepMember_upholds hother symbol
  have hask (h : ∀ s, symbol ≠ .text s) :
      (do
        if ← saysReserved symbol then
          let shown ← Run.ofExcept symbol.plain
          Run.raise ⟨"AttributeError", shown⟩
        else keepMember other symbol : Run Member).Keeps (Upholds charter place) := by
    refine (saysReserved_keeps symbol).upholds.bind fun reserved => ?_
    split
    · exact (Run.Keeps.ofExcept _).bind fun shown => Run.Keeps.raise _
    · exact hkeep h
  cases symbol with
  | text s => exact find_upholds s
  | bytes bs => exact Run.Keeps.raise _
  | byteArray bs => exact Run.Keeps.raise _
  | _ =>
      apply hask
      intro s h
      cases h

theorem lookUp_upholds (symbol : Value) : (lookUp other symbol).Keeps (Upholds charter place) := by
  cases symbol with
  | text s =>
      refine (stateAt_keeps other).bind fun facade => ?_
      refine facade.namesOf_keeps.bind fun names => ?_
      split
      · exact Run.Keeps.pure _
      · exact (find_upholds s).map _
      · exact Run.Keeps.raise _
  | _ => exact Run.Keeps.raise _

theorem ask_upholds (access : Access) (symbol : Value) :
    (ask access other symbol).Keeps (Upholds charter place) := by
  cases access with
  | dotted => exact lookUp_upholds symbol
  | indexed =>
      refine (stateAt_keeps other).bind fun facade => ?_
      split
      · exact lookUp_upholds symbol
      · exact Run.Keeps.raise _

/-! ### Calling -/

theorem initialise_upholds (h : other ≠ place) (exports gates name : Value) :
    (initialise other exports gates name).Keeps (Upholds charter place) := by
  refine (update_upholds h _).bind fun _ => ?_
  refine (entriesFrom_keeps gates).upholds.bind fun entries => ?_
  refine (update_upholds h _).bind fun _ => ?_
  refine (stateAt_keeps other).bind fun facade => ?_
  exact (facade.makeMembers_keeps 0 entries).upholds.bind fun members => update_upholds h _

theorem construct_upholds (arguments : Arguments) :
    (construct arguments).Keeps (Upholds charter place) := by
  intro session hserves
  have hfresh : session.facades.size ≠ place := Nat.ne_of_gt hserves.placed
  have hinitialise : (initialiseWith session.facades.size arguments).Keeps
      (Upholds charter place) :=
    (Run.Keeps.ofExcept _).bind fun bound => initialise_upholds hfresh _ _ _
  have hrest : (do
      initialiseWith session.facades.size arguments
      let facade ← stateAt session.facades.size
      Value.described typeName <$> Run.ofExcept facade.text : Run Value).Keeps
        (Upholds charter place) :=
    hinitialise.bind fun _ => (stateAt_keeps _).bind fun facade => (Run.Keeps.ofExcept _).map _
  have hadded : Upholds charter place session (session.addFacade {}).2 := upholds_addFacade {}
  exact Lasting.trans hadded (hrest _) hserves

def rewriting : List String := ["__init__", "__setattr__", "__delattr__"]

theorem callMethod_upholds {symbol : String} (h : other ≠ place ∨ symbol ∉ rewriting)
    (bound : Table Value) : (callMethod other symbol bound).Keeps (Upholds charter place) := by
  refine (stateAt_keeps other).bind fun facade => ?_
  split
  · have hother : other ≠ place := h.resolve_right fun hsymbol => hsymbol (by simp [rewriting])
    exact (initialise_upholds hother _ _ _).bind fun _ => Run.Keeps.pure _
  · exact (Run.Keeps.ofExcept _).map _
  · refine facade.namesOf_keeps.bind fun names => ?_
    exact (Run.Keeps.ofExcept _).bind fun symbols => Run.Keeps.pure _
  · exact (lookUp_upholds _).bind fun target => (Target.value_keeps other target).upholds
  · exact (findAny_upholds _).map _
  · exact (facade.makeDelegate_keeps _ _ _).upholds.map _

theorem replace_upholds (h : other ≠ place) (changed : Except Raised Facade) :
    (replace other changed).Keeps (Upholds charter place) := by
  refine (Run.Keeps.ofExcept _).bind fun facade => ?_
  exact (update_upholds h _).bind fun _ => Run.Keeps.pure _

theorem callOperator_upholds {symbol : String} (h : other ≠ place ∨ symbol ∉ rewriting)
    (operands : List Value) :
    (callOperator other symbol operands).Keeps (Upholds charter place) := by
  refine (stateAt_keeps other).bind fun facade => ?_
  split
  · exact Run.Keeps.pure _
  · exact (Run.Keeps.ofExcept _).map _
  · exact (Run.Keeps.ofExcept _).map _
  · exact (readOwn_keeps other _).upholds
  · exact Run.Keeps.raise _
  · exact replace_upholds (h.resolve_right fun hsymbol => hsymbol (by simp [rewriting])) _
  · exact replace_upholds (h.resolve_right fun hsymbol => hsymbol (by simp [rewriting])) _
  · exact Run.Keeps.pure _
  · exact Run.Keeps.pure _

theorem callPart_upholds {symbol : String} (h : other ≠ place ∨ symbol ∉ rewriting)
    (shape : Shape) (arguments : Arguments) :
    (callPart other symbol shape arguments).Keeps (Upholds charter place) := by
  refine (stateAt_keeps other).bind fun facade => ?_
  refine facade.namesOf_keeps.bind fun names => ?_
  cases shape with
  | plain => exact Run.Keeps.raise _
  | method signature => exact (Run.Keeps.ofExcept _).bind fun bound => callMethod_upholds h bound
  | operator operands doc =>
      exact (Run.Keeps.ofExcept _).bind fun operands => callOperator_upholds h operands
  | native operands doc =>
      exact (Run.Keeps.ofExcept _).bind fun operands => Run.Keeps.ofExcept _
  | type =>
      simp only
      split
      · exact construct_upholds arguments
      · exact (Value.call_keeps _ arguments).sameStores.upholds

/-- A part that a symbol leads to is the part of that symbol. -/
theorem eq_of_lookUp_part {symbol : Value} {session after : Session} {name : String} {shape : Shape}
    (h : (lookUp other symbol).on session = (.ok (.part name shape), after)) :
    symbol = .text name := by
  cases symbol with
  | text s =>
      obtain ⟨facade, _, _, h⟩ := Run.on_bind_eq_ok_iff.mp h
      obtain ⟨names, _, _, h⟩ := Run.on_bind_eq_ok_iff.mp h
      split at h
      · rename_i target _ hown
        cases h
        rw [eq_of_ownTarget?_part hown]
      · rw [map_eq_pure_bind] at h
        obtain ⟨member, _, _, h⟩ := Run.on_bind_eq_ok_iff.mp h
        cases member with
        | made delegate => cases h
        | given v => cases h
      · cases h
  | _ => cases h

theorem eq_of_ask_part {access : Access} {symbol : Value} {session after : Session} {name : String}
    {shape : Shape} (h : (ask access other symbol).on session = (.ok (.part name shape), after)) :
    symbol = .text name := by
  cases access with
  | dotted => exact eq_of_lookUp_part h
  | indexed =>
      obtain ⟨facade, _, _, h⟩ := Run.on_bind_eq_ok_iff.mp h
      split at h
      · exact eq_of_lookUp_part h
      · cases h

theorem callBy_upholds (access : Access) {symbol : Value}
    (h : other ≠ place ∨ ∀ name ∈ rewriting, symbol ≠ .text name) (arguments : Arguments) :
    (callBy access other symbol arguments).Keeps (Upholds charter place) := by
  intro session
  apply Run.Keeps.related_bind (ask_upholds access symbol session)
  intro target after hask
  cases target with
  | part name shape =>
      have hname := eq_of_ask_part hask
      have hpart : other ≠ place ∨ name ∉ rewriting :=
        h.imp_right fun hsymbol hmem => hsymbol name hmem hname
      exact ((callPart_upholds hpart shape arguments).map Reply.ofValue) after
  | made delegate => exact (callDelegate_keeps delegate arguments).upholds after
  | held v => exact ((v.call_keeps arguments).sameStores.upholds.map Reply.ofValue) after

theorem isMild_of_callDelegate {delegate : Delegate} {arguments : Arguments}
    {session after : Session} {reply : Reply}
    (h : (callDelegate delegate arguments).on session = (.ok reply, after)) : reply.IsMild := by
  unfold callDelegate at h
  split at h
  · cases h
    exact ((invoke_keeps delegate arguments).bind fun result =>
      result.await_keeps.sameStores).resumed
  · obtain ⟨result, _, _, h⟩ := Run.on_bind_eq_ok_iff.mp h
    cases h
    exact Reply.isMild_ofValue result

/-- What a call leaves to be awaited leaves the stores alone, whenever it runs. -/
theorem isMild_of_callBy {access : Access} {symbol : Value} {arguments : Arguments}
    {session after : Session} {reply : Reply}
    (h : (callBy access other symbol arguments).on session = (.ok reply, after)) :
    reply.IsMild := by
  have hvalue {operation : Run Value} {session : Session}
      (h : (Reply.ofValue <$> operation).on session = (.ok reply, after)) : reply.IsMild := by
    rw [map_eq_pure_bind] at h
    obtain ⟨v, _, _, h⟩ := Run.on_bind_eq_ok_iff.mp h
    cases h
    exact Reply.isMild_ofValue v
  obtain ⟨target, _, _, h⟩ := Run.on_bind_eq_ok_iff.mp h
  cases target with
  | part name shape => exact hvalue h
  | made delegate => exact isMild_of_callDelegate h
  | held v => exact hvalue h

end Facade

end CallGuard
