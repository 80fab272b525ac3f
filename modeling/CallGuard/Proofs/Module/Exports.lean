import CallGuard.Proofs.Module.Wrap

/-!
# What a module documents

A module exports what it lists, or else its public names. A module can list what it likes: a name
that it does not have, one that stands for the module itself, or one whose value has no
documentation. What is documented are the exported names that stand for callables with parameter
lines.
-/

namespace CallGuard

namespace Namespace

variable {names : Namespace} {listed : Option Value} {s : String}

/--
What a module exports, told from what it answers when it is asked for the list of its exports.
Without a list it exports its public names.
-/
def exportsOf (names : Namespace) (listed : Option Value) : Except Raised (List Value) :=
  match listed with
  | none | some .null => .ok ((publicNames names).map .text)
  | some given => given.items

def isExported (names : Namespace) (listed : Option Value) (s : String) : Bool :=
  match exportsOf names listed with
  | .ok exports =>
    exports.any fun item =>
      match item with
      | .text name => name == s
      | _ => false
  | .error _ => false

/-- The parameter lines of an exported name, if it stands for a callable that has any. -/
def documented? (names : Namespace) (listed : Option Value) (s : String) : Option (List String) :=
  if isExported names listed s then ownLines names s else none

def documentation (names : Namespace) (listed : Option Value) : Table (List Value) :=
  (Table.names names).map fun s => (s, ((documented? names listed s).getD []).map .text)

theorem isExported_iff {exports : List Value} (h : exportsOf names listed = .ok exports) :
    isExported names listed s = true ↔ .text s ∈ exports := by
  rw [isExported, h]
  simp only [List.any_eq_true]
  constructor
  · rintro ⟨item, hmem, hitem⟩
    split at hitem
    · rename_i name
      rwa [← beq_iff_eq.mp hitem]
    · cases hitem
  · intro hmem
    exact ⟨_, hmem, beq_self_eq_true s⟩

theorem linesFor_documentation (names : Namespace) (listed : Option Value) (s : String) :
    Gate.linesFor (documentation names listed) s =
      ((documented? names listed s).getD []).map .text := by
  have hget (all : List String) (f : String → List Value) :
      Table.get? (all.map fun s => (s, f s)) s = if s ∈ all then some (f s) else none := by
    induction all with
    | nil => rfl
    | cons first rest ih =>
        rw [List.map_cons, Table.get?, ih]
        by_cases hfirst : first = s
        · subst hfirst
          rw [if_pos rfl, if_pos List.mem_cons_self]
        · simp only [hfirst, if_false, List.mem_cons, Ne.symm hfirst, false_or]
  rw [Gate.linesFor, documentation, hget]
  by_cases hmem : s ∈ Table.names names
  · rw [if_pos hmem]
    rfl
  · have hnone : documented? names listed s = none := by
      rw [documented?, ownLines, Table.get?_eq_none_iff.mpr hmem, Option.bind_none, ite_self,
        ite_self]
    rw [if_neg hmem, hnone]
    rfl

/-- The documented names are those of exported callables with parameter lines. -/
theorem documented?_eq_some_iff {lines : List String} :
    documented? names listed s = some lines ↔
      isExported names listed s = true ∧ reservedNames.contains s = false ∧
        ∃ c, Table.get? names s = some (.callable c) ∧ c.parameterLines = some lines := by
  rw [documented?, ownLines]
  cases hexported : isExported names listed s with
  | false => simp
  | true =>
      cases hreserved : reservedNames.contains s with
      | true => simp
      | false =>
          simp only [if_true, Bool.false_eq_true, if_false, true_and, Option.bind_eq_some_iff]
          constructor
          · rintro ⟨v, hmember, hlines⟩
            cases v with
            | callable c => exact ⟨c, hmember, hlines⟩
            | _ => cases hlines
          · rintro ⟨c, hmember, hlines⟩
            exact ⟨_, hmember, hlines⟩

theorem isEmpty_linesFor_documentation (names : Namespace) (listed : Option Value) (s : String) :
    (Gate.linesFor (documentation names listed) s).isEmpty =
      (documented? names listed s).isNone := by
  rw [linesFor_documentation, List.isEmpty_map]
  cases hlines : documented? names listed s with
  | none => rfl
  | some lines =>
      obtain ⟨_, _, c, _, hc⟩ := documented?_eq_some_iff.mp hlines
      simpa using Callable.parameterLines_ne_nil hc

theorem kind_missing (names : Namespace) (s : String) :
    (missing names s).kind = attributeErrorKind := by
  unfold missing
  split
  · rfl
  · rfl

variable [Platform]

theorem on_exported {session asked : Session}
    (hlisted : (read? names exportList).on session = (.ok listed, asked)) :
    (exported names).on session = (Run.ofExcept (exportsOf names listed)).on asked := by
  rw [exported, Run.on_bind_of_ok hlisted]
  cases listed with
  | none => rfl
  | some given =>
      cases given with
      | null => rfl
      | _ => rfl

/-- The exports that a module is scanned for are told from its answer. -/
theorem exportsOf_of_exported {session : Session} {exports : List Value}
    (hlisted : ((read? names exportList).on session).1 = .ok listed)
    (hexports : ((exported names).on session).1 = .ok exports) :
    exportsOf names listed = .ok exports := by
  rw [on_exported (Prod.ext hlisted rfl)] at hexports
  cases hanswer : exportsOf names listed with
  | ok found =>
      rw [hanswer] at hexports
      cases hexports
      rfl
  | error e =>
      rw [hanswer] at hexports
      cases hexports

/-! ### Modules that answer by themselves -/

theorem on_read?_of_missing (hfallback : Table.get? names fallback = none)
    (hmember : Table.get? names s = none) (hinherited : inheritedNames.contains s = false)
    (session : Session) : (read? names s).on session = (.ok none, session) := by
  have hread : (read names s).on session = (.error (.raised (missing names s)), session) := by
    rw [read]
    simp only [hmember, ite_self, hinherited, hfallback, Bool.false_eq_true, if_false]
    rfl
  rw [read?, Run.unlessMissing, Run.on_tryCatch, map_eq_pure_bind, Run.on_bind_of_error hread]
  dsimp only
  rw [if_pos (kind_missing names s)]
  rfl

/-- A module in which nothing answers for missing names says of any name whether it has it. -/
theorem exists_read? (hfallback : Table.get? names fallback = none) (s : String)
    (session : Session) : ∃ answer, (read? names s).on session = (.ok answer, session) := by
  cases hreserved : reservedNames.contains s with
  | true => exact ⟨_, Run.on_unlessMissing_of_ok (on_read_of_inherited (.inl hreserved)
      (inherited_of_reserved hreserved) session)⟩
  | false =>
      cases hmember : Table.get? names s with
      | some v =>
          exact ⟨_, Run.on_unlessMissing_of_ok (on_read_of_get? hreserved hmember session)⟩
      | none =>
          cases hinherited : inheritedNames.contains s with
          | true =>
              exact ⟨_, Run.on_unlessMissing_of_ok
                (on_read_of_inherited (.inr hmember) hinherited session)⟩
          | false => exact ⟨_, on_read?_of_missing hfallback hmember hinherited session⟩

/-- The list of exports is the module's own one, unless something answers for a missing one. -/
theorem listed_eq {session : Session}
    (hlisted : ((read? names exportList).on session).1 = .ok listed)
    (hown : (Table.get? names exportList).isSome ∨ Table.get? names fallback = none) :
    listed = Table.get? names exportList := by
  cases hlist : Table.get? names exportList with
  | some v =>
      have hreserved : reservedNames.contains exportList = false := by decide +kernel
      rw [read?, Run.on_unlessMissing_of_ok (on_read_of_get? hreserved hlist session)] at hlisted
      exact (Except.ok.inj hlisted).symm
  | none =>
      rw [hlist] at hown
      have hinherited : inheritedNames.contains exportList = false := by decide +kernel
      rw [on_read?_of_missing (hown.resolve_left Bool.false_ne_true) hlist hinherited] at hlisted
      exact (Except.ok.inj hlisted).symm

end Namespace

end CallGuard
