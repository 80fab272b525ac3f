import CallGuard.Proofs.Facade.History
import CallGuard.Proofs.Gate.Lines
import CallGuard.Standard.Platform
import Mathlib.Data.List.Basic

/-!
# The gates of a namespace

What gates a namespace gets is settled by the lines of its symbols: a symbol that has lines gets
their gate, however little they declare. Building stops only at a symbol whose lines declare a
parameter twice. Then the first such symbol is blamed, and nothing is made. A facade for the gates
is made unless a symbol with a gate stands for something that does not lend its looks.
-/

namespace CallGuard

open Session Declaration

def Session.symbolsAt (session : Session) (names : NamespaceId) : List String :=
  Table.names (session.namespaceAt names)

theorem Session.mem_symbolsAt {session : Session} {names : NamespaceId} {s : String} {v : Value}
    (h : Table.get? (session.namespaceAt names) s = some v) : s ∈ session.symbolsAt names :=
  Table.isSome_get?_iff.mp (by rw [h]; rfl)

namespace Gate

/-- The lines of a symbol; one that is not declared has none. -/
def linesFor (declarations : Table (List Value)) (symbol : String) : List Value :=
  (Table.get? declarations symbol).getD []

def compiled (declarations : Table (List Value)) (registry : Option RegistryId)
    (reporter : Option Reporter) (symbols : List String) : Table Gate :=
  symbols.filterMap fun symbol =>
    match linesFor declarations symbol with
    | [] => none
    | lines => some (symbol, ofLines symbol lines registry reporter)

def fault? (declarations : Table (List Value)) (symbol : String) : Option Failure :=
  (Entry.repeated? [] ((linesFor declarations symbol).map Entry.ofValue)).map fun name =>
    .duplicateParameter name (some symbol)

/--
A failure blames the first symbol whose lines declare a parameter twice, and of its parameters the
one that is the first to be declared again.
-/
def Blames (declarations : Table (List Value)) (symbols : List String) (failure : Failure) :
    Prop :=
  ∃ before symbol after name, symbols = before ++ symbol :: after ∧
    (∀ earlier ∈ before, (rootNamesOn (linesFor declarations earlier)).Nodup) ∧
    FirstRepeats name (linesFor declarations symbol) ∧
    failure = .duplicateParameter name (some symbol)

variable {declarations : Table (List Value)} {registry : Option RegistryId}
  {reporter : Option Reporter} {symbols : List String} {symbol : String} {failure : Failure}

theorem fault?_eq_none_iff :
    fault? declarations symbol = none ↔ (rootNamesOn (linesFor declarations symbol)).Nodup := by
  rw [fault?, Option.map_eq_none_iff, Entry.repeated?_ofValue_eq_none_iff]

theorem fault?_eq_some_iff :
    fault? declarations symbol = some failure ↔
      ∃ name, FirstRepeats name (linesFor declarations symbol) ∧
        failure = .duplicateParameter name (some symbol) := by
  rw [fault?, Option.map_eq_some_iff]
  simp only [Entry.repeated?_ofValue_eq_some_iff]
  exact exists_congr fun name => and_congr_right fun _ => eq_comm

theorem findSome?_fault?_eq_none_iff :
    symbols.findSome? (fault? declarations) = none ↔
      ∀ symbol ∈ symbols, (rootNamesOn (linesFor declarations symbol)).Nodup := by
  simp only [List.findSome?_eq_none_iff, fault?_eq_none_iff]

theorem findSome?_fault?_eq_some_iff :
    symbols.findSome? (fault? declarations) = some failure ↔
      Blames declarations symbols failure := by
  rw [List.findSome?_eq_some_iff]
  constructor
  · rintro ⟨before, symbol, after, hsplit, hfault, hbefore⟩
    obtain ⟨name, hrepeats, hfailure⟩ := fault?_eq_some_iff.mp hfault
    exact ⟨before, symbol, after, name, hsplit,
      fun earlier hearlier => fault?_eq_none_iff.mp (hbefore earlier hearlier), hrepeats, hfailure⟩
  · rintro ⟨before, symbol, after, name, hsplit, hbefore, hrepeats, hfailure⟩
    exact ⟨before, symbol, after, hsplit, fault?_eq_some_iff.mpr ⟨name, hrepeats, hfailure⟩,
      fun earlier hearlier => fault?_eq_none_iff.mpr (hbefore earlier hearlier)⟩

theorem exists_blames_iff :
    (∃ failure, Blames declarations symbols failure) ↔
      ∃ symbol ∈ symbols, ¬(rootNamesOn (linesFor declarations symbol)).Nodup := by
  simp only [← findSome?_fault?_eq_some_iff, ← Option.isSome_iff_exists,
    ← Option.ne_none_iff_isSome, Ne, findSome?_fault?_eq_none_iff, Classical.not_forall,
    exists_prop]

/-! ### The gates that are built -/

theorem compiled_cons_of_nil (h : linesFor declarations symbol = []) (rest : List String) :
    compiled declarations registry reporter (symbol :: rest) =
      compiled declarations registry reporter rest := by
  rw [compiled, List.filterMap_cons]
  simp only [h]
  rfl

theorem compiled_cons_of_ne_nil (h : linesFor declarations symbol ≠ []) (rest : List String) :
    compiled declarations registry reporter (symbol :: rest) =
      (symbol, ofLines symbol (linesFor declarations symbol) registry reporter) ::
        compiled declarations registry reporter rest := by
  rw [compiled, List.filterMap_cons]
  cases hlines : linesFor declarations symbol with
  | nil => exact absurd hlines h
  | cons line more => rfl

/-- The symbols with a gate are those with lines, in the same order. -/
theorem names_compiled (declarations : Table (List Value)) (registry : Option RegistryId)
    (reporter : Option Reporter) (symbols : List String) :
    Table.names (compiled declarations registry reporter symbols) =
      symbols.filter fun symbol => !(linesFor declarations symbol).isEmpty := by
  induction symbols with
  | nil => rfl
  | cons symbol rest ih =>
      rw [List.filter_cons]
      by_cases hlines : linesFor declarations symbol = []
      · rw [compiled_cons_of_nil hlines, ih, hlines]
        rfl
      · have hkept : (!(linesFor declarations symbol).isEmpty) = true := by simpa using hlines
        rw [compiled_cons_of_ne_nil hlines, if_pos hkept, ← ih]
        rfl

theorem eq_of_mem_compiled {entry : String × Gate}
    (h : entry ∈ compiled declarations registry reporter symbols) :
    entry.2 = ofLines entry.1 (linesFor declarations entry.1) registry reporter := by
  induction symbols with
  | nil => cases h
  | cons symbol rest ih =>
      by_cases hlines : linesFor declarations symbol = []
      · rw [compiled_cons_of_nil hlines] at h
        exact ih h
      · rw [compiled_cons_of_ne_nil hlines] at h
        rcases List.mem_cons.mp h with rfl | h
        · rfl
        · exact ih h

theorem get?_compiled (hsymbol : symbol ∈ symbols) (hlines : linesFor declarations symbol ≠ []) :
    Table.get? (compiled declarations registry reporter symbols) symbol =
      some (ofLines symbol (linesFor declarations symbol) registry reporter) := by
  induction symbols with
  | nil => cases hsymbol
  | cons first rest ih =>
      by_cases hfirst : first = symbol
      · subst hfirst
        rw [compiled_cons_of_ne_nil hlines, Table.get?, if_pos rfl]
      · have hrest := ih ((List.mem_cons.mp hsymbol).resolve_left (Ne.symm hfirst))
        by_cases hnone : linesFor declarations first = []
        · rw [compiled_cons_of_nil hnone, hrest]
        · rw [compiled_cons_of_ne_nil hnone, Table.get?, if_neg hfirst, hrest]

/-! ### The same lines -/

/-- Only the lines of the symbols count, and a further symbol without lines makes no difference. -/
theorem compiled_eq_of_linesFor {other : Table (List Value)} {further : List String}
    (hsame : ∀ symbol ∈ symbols, linesFor declarations symbol = linesFor other symbol)
    (hfurther : ∀ symbol ∈ further, linesFor declarations symbol = []) :
    compiled declarations registry reporter (symbols ++ further) =
      compiled other registry reporter symbols := by
  have hnone : compiled declarations registry reporter further = [] := by
    refine List.filterMap_eq_nil_iff.mpr fun symbol hsymbol => ?_
    rw [hfurther symbol hsymbol]
  have happend : compiled declarations registry reporter (symbols ++ further) =
      compiled declarations registry reporter symbols ++
        compiled declarations registry reporter further := List.filterMap_append
  rw [happend, hnone, List.append_nil]
  refine List.filterMap_congr fun symbol hsymbol => ?_
  rw [hsame symbol hsymbol]

theorem blames_iff_of_linesFor {other : Table (List Value)} {further : List String}
    (hsame : ∀ symbol ∈ symbols, linesFor declarations symbol = linesFor other symbol)
    (hfurther : ∀ symbol ∈ further, linesFor declarations symbol = []) :
    Blames declarations (symbols ++ further) failure ↔ Blames other symbols failure := by
  have hnone : further.findSome? (fault? declarations) = none := by
    refine findSome?_fault?_eq_none_iff.mpr fun symbol hsymbol => ?_
    rw [hfurther symbol hsymbol]
    exact List.nodup_nil
  have hfault : symbols.findSome? (fault? declarations) = symbols.findSome? (fault? other) := by
    rw [← List.head?_filterMap, ← List.head?_filterMap]
    refine congrArg List.head? (List.filterMap_congr fun symbol hsymbol => ?_)
    rw [fault?, fault?, hsame symbol hsymbol]
  rw [← findSome?_fault?_eq_some_iff, ← findSome?_fault?_eq_some_iff, List.findSome?_append, hnone,
    hfault, Option.or_none]

/-! ### Building -/

variable [Platform]

theorem buildAll_keeps (declarations : Table (List Value)) (registry : Option RegistryId)
    (reporter : Option Reporter) (symbols : List String) :
    (buildAll declarations registry reporter symbols).Keeps Quiet := by
  induction symbols with
  | nil => exact Run.Keeps.pure _
  | cons symbol rest ih =>
      rw [buildAll]
      split
      · exact ih
      · refine (build_keeps _ _ _ _).bind fun gate => ?_
        exact ih.bind fun gates => Run.Keeps.pure _

theorem on_buildAll (declarations : Table (List Value)) (registry : Option RegistryId)
    (reporter : Option Reporter) (symbols : List String) (session : Session) :
    ((buildAll declarations registry reporter symbols).on session).1 =
      match symbols.findSome? (fault? declarations) with
      | some failure => .error failure
      | none => .ok (compiled declarations registry reporter symbols) := by
  induction symbols generalizing session with
  | nil => rfl
  | cons symbol rest ih =>
      rw [buildAll, List.findSome?_cons, compiled, List.filterMap_cons]
      show ((match linesFor declarations symbol with
        | [] => buildAll declarations registry reporter rest
        | lines => _ : Run (Table Gate)).on session).1 = _
      rcases hlines : linesFor declarations symbol with _ | ⟨line, more⟩
      · have hfault : fault? declarations symbol = none := by
          rw [fault?, hlines]
          rfl
        simp only [hfault]
        exact ih session
      · have hbuild := on_build symbol (line :: more) registry reporter session
        simp only [fault?, hlines]
        rcases hrun : (build symbol (line :: more) registry reporter).on session with
          ⟨outcome, built⟩
        rw [hrun] at hbuild
        cases hrepeated : Entry.repeated? [] ((line :: more).map Entry.ofValue) with
        | some name =>
            rw [hrepeated] at hbuild
            simp only at hbuild
            subst hbuild
            rw [Run.on_bind_of_error hrun]
            rfl
        | none =>
            rw [hrepeated] at hbuild
            simp only at hbuild
            subst hbuild
            rw [Run.on_bind_of_ok hrun]
            have hrest := ih built
            rcases hgates : (buildAll declarations registry reporter rest).on built with
              ⟨outcome, after⟩
            rw [hgates] at hrest
            cases hfind : rest.findSome? (fault? declarations) with
            | some failure =>
                rw [hfind] at hrest
                simp only at hrest
                subst hrest
                rw [Run.on_bind_of_error hgates]
                simp only [Option.map_none]
            | none =>
                rw [hfind] at hrest
                simp only at hrest
                subst hrest
                rw [Run.on_bind_of_ok hgates]
                simp only [Option.map_none]
                rfl

theorem on_buildAll_eq_error_iff (session : Session) :
    ((buildAll declarations registry reporter symbols).on session).1 = .error failure ↔
      Blames declarations symbols failure := by
  rw [on_buildAll, ← findSome?_fault?_eq_some_iff]
  cases symbols.findSome? (fault? declarations) with
  | none => simp
  | some found => simp

theorem eq_compiled_of_buildAll {session after : Session} {gates : Table Gate}
    (h : (buildAll declarations registry reporter symbols).on session = (.ok gates, after)) :
    gates = compiled declarations registry reporter symbols := by
  have houtcome := on_buildAll declarations registry reporter symbols session
  rw [h] at houtcome
  cases hfind : symbols.findSome? (fault? declarations) with
  | some failure =>
      rw [hfind] at houtcome
      cases houtcome
  | none =>
      rw [hfind] at houtcome
      exact Except.ok.inj houtcome

end Gate

namespace Facade

variable {title : Value} {names : NamespaceId} {ofModule : Bool}
  {declarations : Table (List Value)} {registry : Option RegistryId} {reporter : Option Reporter}
  {start wrapped : Session} {place : FacadeId}

/-- The exported symbols that have lines. -/
def declared (declarations : Table (List Value)) (symbols : List String) : List String :=
  symbols.filter fun symbol => !(Gate.linesFor declarations symbol).isEmpty

theorem declared_append {declarations other : Table (List Value)} {symbols further : List String}
    (hsame : ∀ symbol ∈ symbols,
      Gate.linesFor declarations symbol = Gate.linesFor other symbol)
    (hfurther : ∀ symbol ∈ further, Gate.linesFor declarations symbol = []) :
    declared declarations (symbols ++ further) = declared other symbols := by
  have hnone : declared declarations further = [] := by
    refine List.filter_eq_nil_iff.mpr fun symbol hsymbol => ?_
    rw [hfurther symbol hsymbol]
    exact Bool.false_ne_true
  have hsymbols : declared declarations symbols = declared other symbols := by
    refine List.filter_congr fun symbol hsymbol => ?_
    rw [hsame symbol hsymbol]
  rw [declared, List.filter_append, ← declared, ← declared, hnone, List.append_nil, hsymbols]

variable [Platform]

theorem logWrapping_keeps (name : Value) (gates : Table Gate) (size : Nat) :
    (logWrapping name gates size).Keeps Quiet := by
  unfold logWrapping
  split
  · exact Run.Keeps.pure _
  · exact Run.log_keeps _ _ _ _

theorem exists_logWrapping (name : Value) (gates : Table Gate) (size : Nat) (session : Session) :
    ∃ logged, (logWrapping name gates size).on session = (.ok (), logged) := by
  unfold logWrapping
  split
  · exact ⟨session, rfl⟩
  · exact ⟨_, rfl⟩

theorem on_wrap (title : Value) (names : NamespaceId) (ofModule : Bool)
    (declarations : Table (List Value)) (registry : Option RegistryId) (reporter : Option Reporter)
    (start : Session) :
    (wrap title names ofModule declarations registry reporter).on start =
      (Gate.buildAll declarations registry reporter (start.symbolsAt names) >>= fun gates => do
        logWrapping title gates (start.namespaceAt names).length
        create title names ofModule gates).on start :=
  Run.on_bind_of_ok (Run.on_get start) _

/-- Wrapping fails as the building of the gates does, or else it comes to making the facade. -/
theorem wrap_cases (title : Value) (names : NamespaceId) (ofModule : Bool)
    (declarations : Table (List Value)) (registry : Option RegistryId) (reporter : Option Reporter)
    (start : Session) :
    (∃ failure after,
      (Gate.buildAll declarations registry reporter (start.symbolsAt names)).on start =
        (.error failure, after) ∧
      (wrap title names ofModule declarations registry reporter).on start =
        (.error failure, after)) ∨
    ∃ before, start.Quiet before ∧
      ((Gate.buildAll declarations registry reporter (start.symbolsAt names)).on start).1 =
        .ok (Gate.compiled declarations registry reporter (start.symbolsAt names)) ∧
      (wrap title names ofModule declarations registry reporter).on start =
        (create title names ofModule
          (Gate.compiled declarations registry reporter (start.symbolsAt names))).on before := by
  rw [on_wrap]
  rcases hbuild : (Gate.buildAll declarations registry reporter (start.symbolsAt names)).on start
    with ⟨outcome, built⟩
  cases outcome with
  | error failure => exact Or.inl ⟨failure, built, rfl, Run.on_bind_of_error hbuild _⟩
  | ok gates =>
      have hbuilt := (Gate.buildAll_keeps _ _ _ _).of_on hbuild
      have hgates := Gate.eq_compiled_of_buildAll hbuild
      subst hgates
      obtain ⟨logged, hlogged⟩ := exists_logWrapping title
        (Gate.compiled declarations registry reporter (start.symbolsAt names))
        (start.namespaceAt names).length built
      have hquiet := Lasting.trans hbuilt ((logWrapping_keeps _ _ _).of_on hlogged)
      refine Or.inr ⟨logged, hquiet, rfl, ?_⟩
      rw [Run.on_bind_of_ok hbuild, Run.on_bind_of_ok hlogged]

/-- A facade is only made once all the gates are, and with just these gates. -/
theorem exists_of_wrap
    (hwrap : (wrap title names ofModule declarations registry reporter).on start =
      (.ok place, wrapped)) :
    ∃ before, start.Quiet before ∧
      ((Gate.buildAll declarations registry reporter (start.symbolsAt names)).on start).1 =
        .ok (Gate.compiled declarations registry reporter (start.symbolsAt names)) ∧
      (create title names ofModule
        (Gate.compiled declarations registry reporter (start.symbolsAt names))).on before =
          (.ok place, wrapped) := by
  rcases wrap_cases title names ofModule declarations registry reporter start with
    ⟨failure, after, _, hfails⟩ | ⟨before, hquiet, hbuild, hcreates⟩
  · cases hfails.symm.trans hwrap
  · exact ⟨before, hquiet, hbuild, hcreates.symm.trans hwrap⟩

theorem quiet_of_failed_wrap {failure : Failure} {after : Session}
    (hwrap : (wrap title names ofModule declarations registry reporter).on start =
      (.error failure, after)) : start.Quiet after := by
  rcases wrap_cases title names ofModule declarations registry reporter start with
    ⟨found, reached, hbuild, hfails⟩ | ⟨before, hquiet, _, hcreates⟩
  · cases hfails.symm.trans hwrap
    exact (Gate.buildAll_keeps _ _ _ _).of_on hbuild
  · have hcreate := on_create title names ofModule
      (Gate.compiled declarations registry reporter (start.symbolsAt names)) before
    rw [← hcreates, hwrap] at hcreate
    split at hcreate
    · cases hcreate
    · cases hcreate
      exact hquiet

/-! ### Symbols that are refused a facade -/

/-- Why what a symbol stands for does not lend its looks to a delegate, if it does not. -/
def refusal? (exports : Namespace) (symbol : String) : Option Raised :=
  match Appearance.ofMember symbol (Table.get? exports symbol) with
  | .ok _ => none
  | .error e => some e

/-- The delegates of gates cannot be made when a symbol with a gate is refused. -/
theorem gateDelegates_eq_error_iff {exports : Exports} {members : Namespace} {serial : Nat}
    {gates : Table Gate} {e : Raised} :
    gateDelegates exports title members serial gates = .error e ↔
      (Table.names gates).findSome? (refusal? members) = some e := by
  induction gates generalizing serial with
  | nil => simp only [gateDelegates, Table.names, List.map_nil, List.findSome?_nil, reduceCtorEq]
  | cons entry rest ih =>
      obtain ⟨symbol, gate⟩ := entry
      rw [gateDelegates, Table.names, List.map_cons, List.findSome?_cons, refusal?, ← Table.names]
      cases Appearance.ofMember symbol (Table.get? members symbol) with
      | error found => simp only [bind, Except.bind, Except.error.injEq, Option.some.injEq]
      | ok appearance =>
          refine Iff.trans ?_ (@ih (serial + 1))
          cases gateDelegates exports title members (serial + 1) rest with
          | error found => exact Iff.rfl
          | ok delegates => simp only [bind, Except.bind, reduceCtorEq]

theorem fst_on_create_eq_error_iff {gates : Table Gate} {failure : Failure} :
    ((create title names ofModule gates).on start).1 = .error failure ↔
      ∃ e, failure = .raised e ∧
        (Table.names gates).findSome? (refusal? (start.namespaceAt names)) = some e := by
  have hrefused (e : Raised) :
      gateDelegates (.names names ofModule) (titleOf title) (start.namespaceAt names) 0 gates =
        .error e ↔ (Table.names gates).findSome? (refusal? (start.namespaceAt names)) = some e :=
    gateDelegates_eq_error_iff
  simp only [← hrefused]
  rw [on_create, make]
  cases gateDelegates (.names names ofModule) (titleOf title) (start.namespaceAt names) 0 gates with
  | error found => simp [bind, Except.bind, eq_comm]
  | ok delegates => simp [bind, Except.bind]

/-- A new facade is over the names, and has the gates, that it was made with. -/
theorem exports_and_gates_of_create {gates : Table Gate} {created : Session}
    (hcreate : (create title names ofModule gates).on start = (.ok place, created)) :
    (created.facadeAt place).exports = some (.names names ofModule) ∧
      (created.facadeAt place).gates = some (.built gates) := by
  obtain ⟨-, facade, hmake, rfl⟩ := exists_create _ _ _ _ hcreate
  rw [on_create, hmake] at hcreate
  cases hcreate
  rw [facadeAt_addFacade_self]
  obtain ⟨delegates, _, hfacade⟩ := exists_of_bind_eq_ok hmake
  cases hfacade
  exact ⟨rfl, rfl⟩

/--
A failure to wrap a namespace for which none of its symbols is to blame: the first symbol with lines
that stands for something that does not lend its looks gives its error.
-/
structure Refused (declarations : Table (List Value)) (exports : Namespace) (failure : Failure) :
    Prop where
  blameless : ∀ symbol ∈ Table.names exports,
    (rootNamesOn (Gate.linesFor declarations symbol)).Nodup
  first : ∃ e, failure = .raised e ∧
    (declared declarations (Table.names exports)).findSome? (refusal? exports) = some e

/-- What has come to a namespace since makes no difference if it has no lines. -/
theorem refused_iff_of_names_eq {declarations other : Table (List Value)}
    {exports members : Namespace} {further : List String} {failure : Failure}
    (hnames : Table.names members = Table.names exports ++ further)
    (hmembers : ∀ symbol ∈ Table.names exports,
      Table.get? members symbol = Table.get? exports symbol)
    (hsame : ∀ symbol ∈ Table.names exports,
      Gate.linesFor declarations symbol = Gate.linesFor other symbol)
    (hfurther : ∀ symbol ∈ further, Gate.linesFor declarations symbol = []) :
    Refused declarations members failure ↔ Refused other exports failure := by
  have hblameless : (∀ symbol ∈ Table.names members,
      (rootNamesOn (Gate.linesFor declarations symbol)).Nodup) ↔
      ∀ symbol ∈ Table.names exports, (rootNamesOn (Gate.linesFor other symbol)).Nodup := by
    rw [← Gate.findSome?_fault?_eq_none_iff, ← Gate.findSome?_fault?_eq_none_iff, hnames]
    simp only [Option.eq_none_iff_forall_ne_some, Ne, Gate.findSome?_fault?_eq_some_iff,
      Gate.blames_iff_of_linesFor hsame hfurther]
  have hfirst : (declared declarations (Table.names members)).findSome? (refusal? members) =
      (declared other (Table.names exports)).findSome? (refusal? exports) := by
    rw [hnames, declared_append hsame hfurther, ← List.head?_filterMap, ← List.head?_filterMap]
    refine congrArg List.head? (List.filterMap_congr fun symbol hsymbol => ?_)
    rw [refusal?, refusal?, hmembers symbol (List.mem_filter.mp hsymbol).1]
  constructor
  · rintro ⟨hclear, hrefused⟩
    rw [hfirst] at hrefused
    exact ⟨hblameless.mp hclear, hrefused⟩
  · rintro ⟨hclear, hrefused⟩
    rw [← hfirst] at hrefused
    exact ⟨hblameless.mpr hclear, hrefused⟩

/-- Wrapping fails when a symbol is blamed, or else when one that gets a gate is refused. -/
theorem fst_on_wrap_eq_error_iff {failure : Failure} :
    ((wrap title names ofModule declarations registry reporter).on start).1 = .error failure ↔
      Gate.Blames declarations (start.symbolsAt names) failure ∨
        Refused declarations (start.namespaceAt names) failure := by
  have hblamed (found : Failure) :
      ((Gate.buildAll declarations registry reporter (start.symbolsAt names)).on start).1 =
        .error found ↔ Gate.Blames declarations (start.symbolsAt names) found :=
    Gate.on_buildAll_eq_error_iff start
  rw [← hblamed]
  rcases wrap_cases title names ofModule declarations registry reporter start with
    ⟨found, after, hbuild, hfails⟩ | ⟨before, hquiet, hbuild, hcreates⟩
  · have hblames : Gate.Blames declarations (start.symbolsAt names) found :=
      (hblamed found).mp (congrArg Prod.fst hbuild)
    obtain ⟨symbol, hsymbol, hrepeats⟩ := Gate.exists_blames_iff.mp ⟨found, hblames⟩
    rw [hfails, hbuild]
    simp only [Except.error.injEq]
    exact ⟨Or.inl, fun h => h.resolve_right fun hrefused => hrepeats (hrefused.1 symbol hsymbol)⟩
  · have hdistinct : ∀ symbol ∈ start.symbolsAt names,
        (rootNamesOn (Gate.linesFor declarations symbol)).Nodup := by
      refine Gate.findSome?_fault?_eq_none_iff.mp (Option.eq_none_iff_forall_ne_some.mpr ?_)
      intro found hfault
      cases hbuild.symm.trans ((hblamed found).mpr (Gate.findSome?_fault?_eq_some_iff.mp hfault))
    rw [hcreates, hbuild, fst_on_create_eq_error_iff, hquiet.namespaceAt, Gate.names_compiled,
      ← declared]
    constructor
    · exact fun hrefused => .inr ⟨hdistinct, hrefused⟩
    · rintro (h | hrefused)
      · cases h
      · exact hrefused.first

/--
Wrapping a namespace fails when an exported symbol has lines that declare a parameter twice. The
failure names the first such symbol and its first repeated parameter. If no symbol has such lines,
it can only fail because an exported symbol with lines stands for something that does not lend its
looks, with the error of the first such symbol. No facade is made then. Otherwise the facade has the
gates of exactly the exported symbols that have lines, in their order. A declared property is always
deep enough to be one.
-/
theorem wrap_all_or_nothing (title : Value) (names : NamespaceId) (ofModule : Bool)
    (declarations : Table (List Value)) (registry : Option RegistryId) (reporter : Option Reporter)
    (start : Session) :
    (∀ failure,
      ((Gate.buildAll declarations registry reporter (start.symbolsAt names)).on start).1 =
        .error failure ↔ Gate.Blames declarations (start.symbolsAt names) failure) ∧
    (∀ failure, ((wrap title names ofModule declarations registry reporter).on start).1 =
        .error failure ↔
      Gate.Blames declarations (start.symbolsAt names) failure ∨
        Refused declarations (start.namespaceAt names) failure) ∧
    ((∀ symbol ∈ declared declarations (start.symbolsAt names),
        refusal? (start.namespaceAt names) symbol = none) →
      ∀ failure, ((wrap title names ofModule declarations registry reporter).on start).1 =
        .error failure ↔ Gate.Blames declarations (start.symbolsAt names) failure) ∧
    ((∃ failure, Gate.Blames declarations (start.symbolsAt names) failure) ↔
      ∃ symbol ∈ start.symbolsAt names,
        ¬(rootNamesOn (Gate.linesFor declarations symbol)).Nodup) ∧
    (∀ failure after, (wrap title names ofModule declarations registry reporter).on start =
        (.error failure, after) → start.Quiet after) ∧
    (∀ place wrapped, (wrap title names ofModule declarations registry reporter).on start =
        (.ok place, wrapped) →
      ∃ gates, ((Gate.buildAll declarations registry reporter (start.symbolsAt names)).on start).1 =
          .ok gates ∧
        (wrapped.facadeAt place).gates = some (.built gates) ∧
        Table.names gates = declared declarations (start.symbolsAt names) ∧
        ∀ entry ∈ gates, entry.2.function = entry.1 ∧ entry.2.registry = registry ∧
          entry.2.parameterNames = rootNamesOn (Gate.linesFor declarations entry.1) ∧
          entry.2.outline.length =
            (Gate.linesFor declarations entry.1).countP (fun line => (rootOn? line).isSome) ∧
          entry.2.outline = Outline.ofLines (Gate.linesFor declarations entry.1)) ∧
    ∀ line d path, onLine? line = some d → d.path = some path → 2 ≤ d.depth := by
  refine ⟨fun failure => Gate.on_buildAll_eq_error_iff start,
    fun failure => fst_on_wrap_eq_error_iff, fun hlent failure => ?_, Gate.exists_blames_iff,
    fun failure after => quiet_of_failed_wrap, fun place wrapped hwrapped => ?_,
    fun line d path hline hpath => ?_⟩
  · rw [fst_on_wrap_eq_error_iff]
    refine or_iff_left ?_
    rintro ⟨_, e, _, hrefused⟩
    cases (List.findSome?_eq_none_iff.mpr hlent).symm.trans hrefused
  · obtain ⟨before, _, hbuild, hcreate⟩ := exists_of_wrap hwrapped
    refine ⟨_, hbuild, ?_, Gate.names_compiled _ _ _ _, fun entry hentry => ?_⟩
    · exact (exports_and_gates_of_create hcreate).2
    · rw [Gate.eq_of_mem_compiled hentry]
      exact ⟨rfl, rfl, Outline.names_ofLines _, Outline.length_ofLines _, rfl⟩
  · exact Entry.depth_of_onLine? hline (by rw [hpath]; rfl)

end Facade

open scoped Standard

namespace Facade

def numberedSession : Session where
  namespaces := #[[("f", .callable Standard.numbered)]]

/-- An object whose name is a number is refused although its lines do not repeat a parameter. -/
theorem number_for_a_name_is_refused :
    (∀ failure, ¬Gate.Blames [("f", [.null])] (numberedSession.symbolsAt 0) failure) ∧
      ((wrap (.text "m") 0 false [("f", [.null])] none none).on numberedSession).1 =
        .error (.raised ⟨"TypeError", "__name__ must be set to a string object"⟩) := by
  have hblameless : ∀ symbol ∈ numberedSession.symbolsAt 0,
      (rootNamesOn (Gate.linesFor [("f", [.null])] symbol)).Nodup := by
    intro symbol hsymbol
    obtain rfl := List.mem_singleton.mp hsymbol
    exact List.nodup_nil
  refine ⟨fun failure hblames => ?_, ?_⟩
  · obtain ⟨symbol, hsymbol, hrepeats⟩ := Gate.exists_blames_iff.mp ⟨failure, hblames⟩
    exact hrepeats (hblameless symbol hsymbol)
  · exact fst_on_wrap_eq_error_iff.mpr (.inr ⟨hblameless, _, rfl, rfl⟩)

end Facade

end CallGuard
