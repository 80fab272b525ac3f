import CallGuard.Proofs.Facade.Charter

/-!
# Looking symbols up

On a facade in service a symbol that is not reserved leads to its delegate: the one that the facade
has already, or a new one, which the facade then has. A new one takes its looks from what the symbol
stands for, and if that does not lend them, looking the symbol up fails and changes nothing. Nothing
else of the session changes in any case, and it makes no difference whether the symbol is looked up
as an attribute or as an item.
-/

namespace CallGuard

open Session

namespace Facade

inductive Access
  | dotted
  | indexed

variable {facade : Facade} {charter : Charter} {session : Session} {place : FacadeId} {s : String}

theorem on_stateAt (place : FacadeId) (session : Session) :
    (stateAt place).on session = (.ok (session.facadeAt place), session) := rfl

theorem on_update (place : FacadeId) (change : Facade → Facade) (session : Session) :
    (update place change).on session =
      (.ok (), session.setFacade place (change (session.facadeAt place))) := rfl

def joined (facade : Facade) (members : List (Value × Member)) (s : String)
    (delegate : Delegate) : Facade :=
  { facade with delegates := some (.kept (members ++ [(.text s, .made delegate)])) }

theorem known?_joined {members : List (Value × Member)}
    (hmembers : facade.delegates = some (.kept members)) (delegate : Delegate) (other : String) :
    (facade.joined members s delegate).known? other =
      (facade.known? other).or (if s = other then some (.made delegate) else none) := by
  unfold known? joined
  simp only [hmembers]
  rw [Value.entryAt?_append]
  rfl

variable [Platform]

def ask : Access → FacadeId → Value → Run Target
  | .dotted => lookUp
  | .indexed => lookUpItem

def callBy (access : Access) (place : FacadeId) (symbol : Value) (arguments : Arguments) :
    Run Reply := do
  let target ← ask access place symbol
  callTarget place target arguments

/-- The looks of the delegate that a symbol without one would come to. -/
def Charter.looks (charter : Charter) (session : Session) (s : String) : Except Raised Appearance :=
  Appearance.ofMember s (Table.get? (session.namespaceAt charter.names) s)

/-- A symbol has no delegate yet, and what it stands for does not lend its looks to one. -/
structure Charter.Refuses (charter : Charter) (session : Session) (place : FacadeId) (s : String)
    (e : Raised) : Prop where
  unknown : (session.facadeAt place).known? s = none
  looks : charter.looks session s = .error e

/-- The delegate that a symbol without one comes to. -/
def Charter.newDelegate (charter : Charter) (s : String) (appearance : Appearance) (serial : Nat) :
    Delegate :=
  { symbol := s
    check := none
    exports := .names charter.names charter.ofModule
    title := charter.title
    appearance
    serial }

/-- A new delegate joins a facade without one for its symbol, and the facade stays in service. -/
theorem Serves.joined {members : List (Value × Member)} {delegate : Delegate}
    (h : facade.Serves charter) (hmembers : facade.delegates = some (.kept members))
    (hunknown : facade.known? s = none) (hdelegate : charter.IsDelegate s delegate) :
    (facade.joined members s delegate).Serves charter := by
  refine ⟨h.exports, h.title, h.extra, h.type, ⟨_, rfl⟩, fun other member hmember => ?_,
    fun other hgated => ?_⟩
  · rw [known?_joined hmembers] at hmember
    by_cases hother : s = other
    · subst hother
      rw [hunknown, Option.none_or, if_pos rfl] at hmember
      cases hmember
      exact ⟨delegate, rfl, hdelegate⟩
    · rw [if_neg hother, Option.or_none] at hmember
      exact h.known other member hmember
  · rw [known?_joined hmembers, Option.isSome_or, h.gated other hgated, Bool.true_or]

theorem Serves.require_delegates (h : facade.Serves charter) :
    ∃ members, facade.delegates = some (.kept members) ∧
      facade.require delegatesName facade.delegates = .ok (.kept members) := by
  obtain ⟨members, hmembers⟩ := h.kept
  refine ⟨members, hmembers, ?_⟩
  rw [hmembers, require]

theorem Serves.check_of_unknown (h : facade.Serves charter) (hunknown : facade.known? s = none) :
    Table.get? charter.gates s = none := by
  cases hgate : Table.get? charter.gates s with
  | none => rfl
  | some gate =>
      have hknown := h.gated s (by rw [hgate]; rfl)
      rw [hunknown] at hknown
      cases hknown

theorem Serves.isDelegate_newDelegate (h : facade.Serves charter)
    (hunknown : facade.known? s = none) (appearance : Appearance) (serial : Nat) :
    charter.IsDelegate s (charter.newDelegate s appearance serial) := by
  have hnone := h.check_of_unknown hunknown
  refine ⟨rfl, ?_, rfl, rfl, fun hgated => ?_⟩
  · rw [hnone]
    rfl
  · rw [hnone] at hgated
    cases hgated

theorem not_refuses_of_gated (h : session.ServesAt place charter)
    (hgated : (Table.get? charter.gates s).isSome) (e : Raised) :
    ¬charter.Refuses session place s e := by
  intro hrefuses
  have hknown := h.serves.gated s hgated
  rw [hrefuses.unknown] at hknown
  cases hknown

/--
A facade in service that knows a symbol gives what it knows; otherwise a new delegate joins, unless
what the symbol stands for does not lend its looks.
-/
theorem on_obtain (h : session.ServesAt place charter) (s : String) :
    (∃ delegate, (session.facadeAt place).known? s = some (.made delegate) ∧
      (obtain place s).on session = (.ok (.made delegate), session)) ∨
    (∃ e, charter.Refuses session place s e ∧
      (obtain place s).on session = (.error (.raised e), session)) ∨
    ∃ members appearance serial, (session.facadeAt place).known? s = none ∧
      charter.looks session s = .ok appearance ∧
      (session.facadeAt place).delegates = some (.kept members) ∧
      (obtain place s).on session =
        (.ok (.made (charter.newDelegate s appearance serial)),
          session.setFacade place ((session.facadeAt place).joined members s
            (charter.newDelegate s appearance serial))) := by
  obtain ⟨members, hmembers, hrequire⟩ := h.serves.require_delegates
  have hknown : (session.facadeAt place).known? s = Value.entryAt? members s := by
    rw [known?, hmembers]
  have hobtain : (obtain place s).on session =
      ((Value.entryAt? members s).elim (keepMember place (.text s)) pure).on session := by
    rw [obtain, Run.on_bind_of_ok (on_stateAt place session), hrequire]
    refine (Run.on_bind_of_ok (Run.on_ofExcept_ok _ _) _).trans ?_
    dsimp only
    cases Value.entryAt? members s with
    | some member => rfl
    | none => rfl
  rw [hobtain]
  cases hentry : Value.entryAt? members s with
  | some member =>
      rw [hentry] at hknown
      obtain ⟨delegate, rfl, _⟩ := h.serves.known s member hknown
      exact Or.inl ⟨delegate, hknown, rfl⟩
  | none =>
      rw [hentry] at hknown
      have hmake : ((session.facadeAt place).makeMember (.text s) none members.length).on session =
          (match charter.looks session s with
            | .error e => .error (.raised e)
            | .ok appearance => .ok (.made (charter.newDelegate s appearance members.length)),
            session) := by
        rw [makeMember, h.serves.extra]
        simp only [Value.entryAt?]
        have hfind : ((Exports.names charter.names charter.ofModule).find (.text s)).on session =
            (.ok (Table.get? (session.namespaceAt charter.names) s), session) := rfl
        rw [makeDelegate, h.serves.exports, h.serves.title, require, require,
          Run.on_bind_of_ok (Run.on_ofExcept_ok _ _), Run.on_bind_of_ok (Run.on_ofExcept_ok _ _),
          Run.on_bind_of_ok hfind]
        dsimp only
        rw [← Charter.looks]
        cases charter.looks session s with
        | error e => rfl
        | ok appearance => rfl
      rw [Option.elim_none, keepMember, Run.on_bind_of_ok (on_stateAt place session), hrequire,
        Run.on_bind_of_ok (Run.on_ofExcept_ok _ _)]
      dsimp only
      cases hlooks : charter.looks session s with
      | error e =>
          rw [hlooks] at hmake
          exact Or.inr (Or.inl ⟨e, ⟨hknown, hlooks⟩, Run.on_bind_of_error hmake _⟩)
      | ok appearance =>
          rw [hlooks] at hmake
          refine Or.inr (Or.inr ⟨members, appearance, members.length, hknown, rfl, hmembers, ?_⟩)
          rw [Run.on_bind_of_ok hmake, Run.on_bind_of_ok (on_update place _ session),
            Value.setEntry_of_none hentry]
          rfl

theorem on_namesOf (h : session.ServesAt place charter) :
    (namesOf (session.facadeAt place)).on session =
      (.ok (session.namespaceAt charter.names), session) := by
  rw [namesOf, Run.on_bind_of_ok (Run.on_get session), h.serves.exports]
  rfl

theorem on_lookUp (h : session.ServesAt place charter) (hs : isReserved s = false) :
    (lookUp place (.text s)).on session = (Target.ofMember <$> obtain place s).on session := by
  rw [lookUp, lookUpName, Run.on_bind_of_ok (on_stateAt place session),
    Run.on_bind_of_ok (on_namesOf h), ownTarget?_eq_none hs h.serves.extra h.serves.type,
    h.serves.type]
  simp only [find, hs]
  rfl

theorem on_ask (h : session.ServesAt place charter) (access : Access) (symbol : Value) :
    (ask access place symbol).on session = (lookUp place symbol).on session := by
  cases access with
  | dotted => rfl
  | indexed =>
      rw [ask, lookUpItem, Run.on_bind_of_ok (on_stateAt place session), h.serves.type]

/-- A symbol that a facade in service knows leads to what it knows, and nothing changes. -/
theorem on_ask_of_known {delegate : Delegate} (h : session.ServesAt place charter)
    (hs : isReserved s = false)
    (hknown : (session.facadeAt place).known? s = some (.made delegate)) (access : Access) :
    (ask access place (.text s)).on session = (.ok (.made delegate), session) := by
  rw [on_ask h, on_lookUp h hs]
  rcases on_obtain h s with ⟨found, hfound, hobtain⟩ | ⟨e, hrefuses, _⟩ | ⟨_, _, _, hunknown, _⟩
  · rw [hknown] at hfound
    cases hfound
    rw [Run.on_map_of_ok hobtain]
    rfl
  · cases hknown.symm.trans hrefuses.unknown
  · cases hknown.symm.trans hunknown

/-- A symbol that is refused leads to nothing but the error, and nothing changes. -/
theorem on_ask_of_refuses {e : Raised} (h : session.ServesAt place charter)
    (hs : isReserved s = false) (hrefuses : charter.Refuses session place s e) (access : Access) :
    (ask access place (.text s)).on session = (.error (.raised e), session) := by
  rw [on_ask h, on_lookUp h hs, map_eq_pure_bind]
  rcases on_obtain h s with ⟨_, hknown, _⟩ | ⟨found, hfound, hobtain⟩ | ⟨_, _, _, _, hlooks, _⟩
  · cases hknown.symm.trans hrefuses.unknown
  · cases hfound.looks.symm.trans hrefuses.looks
    exact Run.on_bind_of_error hobtain _
  · cases hlooks.symm.trans hrefuses.looks

/--
Looking a symbol up that is neither reserved nor refused gives its delegate, which the facade then
has, and changes nothing of the session but the facade.
-/
theorem exists_ask (h : session.ServesAt place charter) (hs : isReserved s = false)
    (hlooks : ∀ e, ¬charter.Refuses session place s e) :
    ∃ delegate facade,
      (∀ access, (ask access place (.text s)).on session =
        (.ok (.made delegate), session.setFacade place facade)) ∧
      charter.IsDelegate s delegate ∧ facade.known? s = some (.made delegate) ∧
      Upholds charter place session (session.setFacade place facade) ∧
      ((session.facadeAt place).known? s = none →
        charter.looks session s = .ok delegate.appearance) := by
  rcases on_obtain h s with ⟨delegate, hknown, hobtain⟩ | ⟨e, hrefuses, _⟩ |
    ⟨members, appearance, serial, hunknown, happearance, hmembers, hobtain⟩
  · have hstill := setFacade_facadeAt h.placed
    obtain ⟨_, hmade, hdelegate⟩ := h.serves.known s _ hknown
    cases hmade
    refine ⟨delegate, session.facadeAt place, ?_, hdelegate, hknown, ?_, fun hnone => ?_⟩
    · intro access
      rw [hstill]
      exact on_ask_of_known h hs hknown access
    · rw [hstill]
      exact Lasting.refl session
    · rw [hknown] at hnone
      cases hnone
  · exact absurd hrefuses (hlooks e)
  · have hdelegate := h.serves.isDelegate_newDelegate hunknown appearance serial
    have hjoined := h.serves.joined hmembers hunknown hdelegate
    refine ⟨charter.newDelegate s appearance serial, (session.facadeAt place).joined members s
      (charter.newDelegate s appearance serial), ?_, hdelegate, ?_, ?_, fun _ => happearance⟩
    · intro access
      rw [on_ask h, on_lookUp h hs, Run.on_map_of_ok hobtain]
      rfl
    · rw [known?_joined hmembers, hunknown, if_pos rfl, Option.none_or]
    · apply upholds_setFacade_self hjoined
      intro other member hmember
      rw [known?_joined hmembers, hmember, Option.some_or]

end Facade

end CallGuard
