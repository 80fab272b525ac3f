import CallGuard.Proofs.Gate.LateBinding
import CallGuard.Standard.Platform
import Mathlib.Data.List.DropRight

/-!
# Registries over courses of operations

A registry starts from a mapping of tags to predicates. Then predicates are registered in it and it
goes back to the built-in types, in any order, while the session goes on with other things. What it
comes to depends only on the registrations that were accepted since it last went back. New tags come
last and in the order in which they were first registered, and the last registration of a tag wins.
A registration that is refused changes nothing at all.
-/

namespace CallGuard

open Session

/-- What a predicate says about a value, before it is taken as a truth value. -/
def Predicate.result [Platform] (predicate : Predicate) (v : Value) : Run Value :=
  match predicate with
  | .builtin type => pure (.bool (type.accepts v))
  | .custom p => p.call ⟨[v], []⟩

namespace Registry

/-! ### Registrations on top of a mapping -/

/-- A registry in which predicates are set one after another. -/
def overlay (registry : Registry) (entries : List (String × Predicate)) : Registry :=
  entries.foldl (fun registry entry => registry.set entry.1 entry.2) registry

/-- The tags of entries that are new to a registry, in the order of their first entry. -/
def newTags (registry : Registry) (entries : List (String × Predicate)) : List String :=
  ((entries.map (·.1)).filter (· ∉ registry.tags)).eraseDups

/-- The predicate of the last entry of a tag. -/
def lastFor? (entries : List (String × Predicate)) (tag : String) : Option Predicate :=
  (entries.filter (·.1 = tag)).getLast?.map (·.2)

/-- Tags are distinct and not empty, and their predicates can be called. -/
structure IsSound (registry : Registry) : Prop where
  distinct : registry.tags.Nodup
  entries : ∀ tag predicate, registry.get? tag = some predicate →
    tag ≠ "" ∧ predicate.isCallable = true

section Overlay

variable {registry : Registry} {entries : List (String × Predicate)} {name : String}
  {predicate : Predicate}

theorem tags_set (registry : Registry) (name : String) (predicate : Predicate) :
    (registry.set name predicate).tags =
      if name ∈ registry.tags then registry.tags else registry.tags ++ [name] :=
  Table.names_put registry.entries name predicate

theorem get?_set (registry : Registry) (name tag : String) (predicate : Predicate) :
    (registry.set name predicate).get? tag =
      if name = tag then some predicate else registry.get? tag := by
  by_cases hname : name = tag
  · subst hname
    rw [if_pos rfl]
    exact Table.get?_put_self registry.entries name predicate
  · rw [if_neg hname]
    exact Table.get?_put_of_ne (Ne.symm hname) registry.entries predicate

theorem overlay_concat (registry : Registry) (entries : List (String × Predicate))
    (entry : String × Predicate) :
    registry.overlay (entries ++ [entry]) = (registry.overlay entries).set entry.1 entry.2 :=
  List.foldl_concat ..

/-- A name that occurs again changes nothing in the order of first occurrences. -/
theorem eraseDups_concat (names : List String) (name : String) :
    (names ++ [name]).eraseDups =
      if name ∈ names then names.eraseDups else names.eraseDups ++ [name] := by
  rw [List.eraseDups_append]
  by_cases h : name ∈ names
  · have hnone : [name].removeAll names = [] := by simp [List.removeAll, h]
    rw [if_pos h, hnone]
    exact List.append_nil _
  · have hone : [name].removeAll names = [name] := by simp [List.removeAll, h]
    rw [if_neg h, hone]
    rfl

theorem newTags_concat (registry : Registry) (entries : List (String × Predicate))
    (entry : String × Predicate) :
    registry.newTags (entries ++ [entry]) =
      if entry.1 ∈ registry.tags ++ registry.newTags entries then registry.newTags entries
      else registry.newTags entries ++ [entry.1] := by
  rw [newTags, List.map_append, List.filter_append, List.map_singleton]
  by_cases hknown : entry.1 ∈ registry.tags
  · have hnone : [entry.1].filter (· ∉ registry.tags) = [] := by simp [hknown]
    rw [hnone, List.append_nil, if_pos (List.mem_append_left _ hknown)]
    rfl
  · have hone : [entry.1].filter (· ∉ registry.tags) = [entry.1] := by simp [hknown]
    rw [hone, eraseDups_concat, ← newTags]
    simp only [List.mem_append, hknown, false_or, newTags, List.mem_eraseDups]

theorem lastFor?_concat (entries : List (String × Predicate)) (entry : String × Predicate)
    (tag : String) :
    lastFor? (entries ++ [entry]) tag =
      if entry.1 = tag then some entry.2 else lastFor? entries tag := by
  rw [lastFor?, List.filter_append]
  by_cases hname : entry.1 = tag
  · simp [hname]
  · simp [hname, lastFor?]

/-- Known tags keep their places, and new ones come after them. -/
theorem tags_overlay (registry : Registry) (entries : List (String × Predicate)) :
    (registry.overlay entries).tags = registry.tags ++ registry.newTags entries := by
  induction entries using List.reverseRecOn with
  | nil => exact (List.append_nil _).symm
  | append_singleton entries entry ih =>
      rw [overlay_concat, tags_set, ih, newTags_concat]
      split
      · rfl
      · rw [List.append_assoc]

theorem get?_overlay (registry : Registry) (entries : List (String × Predicate)) (tag : String) :
    (registry.overlay entries).get? tag = (lastFor? entries tag).or (registry.get? tag) := by
  induction entries using List.reverseRecOn with
  | nil => rfl
  | append_singleton entries entry ih =>
      rw [overlay_concat, get?_set, ih, lastFor?_concat]
      split <;> rfl

theorem IsSound.set (h : registry.IsSound) (hname : name ≠ "")
    (hcallable : predicate.isCallable = true) : (registry.set name predicate).IsSound := by
  refine ⟨Table.nodup_names_put h.distinct name predicate, fun tag found hget => ?_⟩
  rw [get?_set] at hget
  split at hget
  · rename_i htag
    cases hget
    exact ⟨htag ▸ hname, hcallable⟩
  · exact h.entries tag found hget

theorem IsSound.overlay (h : registry.IsSound)
    (hentries : ∀ entry ∈ entries, entry.1 ≠ "" ∧ entry.2.isCallable = true) :
    (registry.overlay entries).IsSound := by
  induction entries using List.reverseRecOn with
  | nil => exact h
  | append_singleton entries entry ih =>
      obtain ⟨hname, hcallable⟩ := hentries entry (by simp)
      rw [overlay_concat]
      exact (ih fun other hother => hentries other (List.mem_append_left _ hother)).set hname
        hcallable

theorem isSound_builtin : builtin.IsSound := by
  refine ⟨by decide, fun tag predicate hget => ?_⟩
  obtain ⟨type, _, htype⟩ := List.mem_map.mp (Table.mem_of_get? hget)
  cases htype
  exact ⟨by cases type <;> decide, rfl⟩

theorem ofList_eq_overlay (pairs : List (String × Predicate)) :
    ofList pairs = overlay ⟨[]⟩ pairs := by
  induction pairs using List.reverseRecOn with
  | nil => rfl
  | append_singleton pairs pair ih =>
      rw [overlay_concat, ← ih, ofList, Table.ofList, List.foldl_concat]
      rfl

/-- A mapping of tags that are not empty to predicates that can be called. -/
theorem isSound_ofList {pairs : List (String × Predicate)}
    (h : ∀ pair ∈ pairs, pair.1 ≠ "" ∧ pair.2.isCallable = true) : (ofList pairs).IsSound := by
  rw [ofList_eq_overlay]
  exact IsSound.overlay ⟨List.nodup_nil, nofun⟩ h

end Overlay

/-! ### Changes of a registry -/

/-- What is done to a registry: a predicate is registered for a tag, or it goes back. -/
inductive Change
  | register (tag : Value) (predicate : Predicate)
  | reset

namespace Change

def run [Platform] (place : Option RegistryId) : Change → Run Unit
  | .register tag predicate => registerIn place tag predicate
  | .reset => resetIn place

def isReset : Change → Bool
  | .reset => true
  | .register .. => false

/-- The tag and the predicate of a registration, if it is accepted. -/
def accepted? : Change → Option (String × Predicate)
  | .register (.text name) predicate =>
    if name ≠ "" ∧ predicate.isCallable = true then some (name, predicate) else none
  | _ => none

end Change

/-- The mapping that registrations are made on top of. -/
def base (first : Registry) (changes : List Change) : Registry :=
  if changes.any Change.isReset then .builtin else first

/-- The accepted registrations since the registry last went back, in order. -/
def accepted (changes : List Change) : List (String × Predicate) :=
  (changes.rtakeWhile fun change => !change.isReset).filterMap Change.accepted?

/-- A registry after changes. -/
def after (first : Registry) (changes : List Change) : Registry :=
  (base first changes).overlay (accepted changes)

section Changes

variable {place other : Option RegistryId} {session start now : Session} {first : Registry}
  {changes : List Change} {change : Change} {tag : Value} {predicate : Predicate}

theorem after_concat_reset (first : Registry) (changes : List Change) :
    after first (changes ++ [.reset]) = .builtin := by
  have hnone : accepted (changes ++ [.reset]) = [] := by
    rw [accepted, List.rtakeWhile_concat_neg _ _ _ (by simp [Change.isReset])]
    rfl
  have hbase : base first (changes ++ [.reset]) = .builtin := by simp [base, Change.isReset]
  rw [after, hnone, hbase]
  rfl

theorem after_concat_register (first : Registry) (changes : List Change) (tag : Value)
    (predicate : Predicate) :
    after first (changes ++ [.register tag predicate]) =
      (after first changes).overlay (Change.accepted? (.register tag predicate)).toList := by
  have haccepted : accepted (changes ++ [.register tag predicate]) =
      accepted changes ++ (Change.accepted? (.register tag predicate)).toList := by
    rw [accepted, List.rtakeWhile_concat_pos _ _ _ (by simp [Change.isReset]),
      List.filterMap_append, List.filterMap_cons]
    cases Change.accepted? (.register tag predicate) <;> rfl
  have hbase : base first (changes ++ [.register tag predicate]) = base first changes := by
    simp [base, Change.isReset]
  rw [after, haccepted, hbase, after, overlay, overlay, overlay, List.foldl_append]

theorem eq_of_mem_accepted {entry : String × Predicate} (h : entry ∈ accepted changes) :
    entry.1 ≠ "" ∧ entry.2.isCallable = true := by
  obtain ⟨change, _, hchange⟩ := List.mem_filterMap.mp h
  unfold Change.accepted? at hchange
  split at hchange
  · split at hchange
    · rename_i hvalid
      cases hchange
      exact hvalid
    · cases hchange
  · cases hchange

theorem isSound_after (h : first.IsSound) (changes : List Change) :
    (after first changes).IsSound := by
  refine IsSound.overlay ?_ fun entry hentry => eq_of_mem_accepted hentry
  rw [base]
  split
  · exact isSound_builtin
  · exact h

/-! ### One change in a session -/

variable [Platform]

theorem on_registerIn_of_error {failure : Failure}
    (h : (session.registry place).register tag predicate = .error failure) :
    (registerIn place tag predicate).on session = (.error failure, session) := by
  rw [registerIn, Run.on_bind_of_ok (Run.on_get session)]
  dsimp only
  rw [h]
  rfl

theorem register_of_no_tag (htag : ∀ name, name ≠ "" → tag ≠ .text name) (registry : Registry)
    (predicate : Predicate) :
    registry.register tag predicate =
      .error (match tag.written with
        | .ok written => .configuration (.badTag written)
        | .error e => .raised e) := by
  have hnone : tagOf? tag = none := by
    cases tag with
    | text name =>
        have hempty : name = "" := by
          by_contra hname
          exact htag name hname rfl
        rw [hempty]
        rfl
    | _ => rfl
  rw [register, hnone]
  cases tag.written <;> rfl

theorem register_text {name : String} (hname : name ≠ "") (registry : Registry)
    (predicate : Predicate) :
    registry.register (.text name) predicate =
      if predicate.isCallable then .ok (name, registry.set name predicate)
      else .error (.configuration (.badPredicate name)) := by
  have htag : tagOf? (.text name) = some name := by
    rw [tagOf?, if_neg]
    rwa [String.isEmpty_iff]
  rw [register, htag]

theorem exists_on_registerIn {name : String} (hname : name ≠ "")
    (hcallable : predicate.isCallable = true) (place : Option RegistryId) (session : Session) :
    ∃ entry, (registerIn place (.text name) predicate).on session =
      (.ok (), (session.setRegistry place ((session.registry place).set name predicate)).recording
        entry) := by
  have hregister := register_text hname (session.registry place) predicate
  rw [if_pos hcallable] at hregister
  rw [registerIn, Run.on_bind_of_ok (Run.on_get session)]
  dsimp only
  rw [hregister]
  exact ⟨_, rfl⟩

/-- A registration is accepted and sets a predicate, or it changes nothing. -/
theorem snd_on_registerIn (place : Option RegistryId) (tag : Value) (predicate : Predicate)
    (session : Session) :
    (Change.accepted? (.register tag predicate) = none ∧
      ((registerIn place tag predicate).on session).2 = session) ∨
    ∃ name entry, Change.accepted? (.register tag predicate) = some (name, predicate) ∧
      ((registerIn place tag predicate).on session).2 =
        (session.setRegistry place ((session.registry place).set name predicate)).recording
          entry := by
  by_cases htag : ∀ name, name ≠ "" → tag ≠ .text name
  · left
    have hrefused := register_of_no_tag htag (session.registry place) predicate
    refine ⟨?_, congrArg Prod.snd (on_registerIn_of_error hrefused)⟩
    cases tag with
    | text name => exact if_neg fun hvalid => htag name hvalid.1 rfl
    | _ => rfl
  · push Not at htag
    obtain ⟨name, hname, rfl⟩ := htag
    cases hcallable : predicate.isCallable with
    | true =>
        right
        obtain ⟨entry, hentry⟩ := exists_on_registerIn hname hcallable place session
        exact ⟨name, entry, if_pos ⟨hname, hcallable⟩, congrArg Prod.snd hentry⟩
    | false =>
        left
        have hrefused := register_text hname (session.registry place) predicate
        rw [hcallable] at hrefused
        refine ⟨if_neg fun hvalid => ?_, congrArg Prod.snd (on_registerIn_of_error hrefused)⟩
        rw [hcallable] at hvalid
        exact Bool.false_ne_true hvalid.2

/-! ### Checks -/

/-- A value passes unless the predicate of its tag says something false of it, or fails. -/
theorem fst_on_checkIn (h : (session.registry place).IsSound) (tag : String) (v : Value) :
    ((checkIn place tag v).on session).1 =
      match (session.registry place).get? tag with
      | none => .ok true
      | some predicate => ((predicate.result v).on session).1.map Value.truthy := by
  rw [checkIn, Run.on_bind_of_ok (Run.on_get session), constraint?]
  cases hget : (session.registry place).get? tag with
  | none => rfl
  | some predicate =>
      cases predicate with
      | builtin type => rfl
      | custom p =>
          have hcallable := (h.entries tag _ hget).2
          have hanswer : ((Predicate.answer (.custom p) v).on session).1 =
              ((p.call ⟨[v], []⟩).on session).1.map Value.truthy := by
            rw [Predicate.answer, Run.on_bind]
            rcases (p.call ⟨[v], []⟩).on session with ⟨outcome, called⟩
            cases outcome <;> rfl
          cases p with
          | null => cases hcallable
          | _ => exact hanswer

theorem checkIn_eq_true_iff (h : (session.registry place).IsSound) (tag : String) (v : Value) :
    ((checkIn place tag v).on session).1 = .ok true ↔
      tag ∉ (session.registry place).tags ∨
      ∃ predicate answer, (session.registry place).get? tag = some predicate ∧
        ((predicate.result v).on session).1 = .ok answer ∧ answer.truthy = true := by
  have habsent : tag ∉ (session.registry place).tags ↔ (session.registry place).get? tag = none :=
    Table.get?_eq_none_iff.symm
  rw [fst_on_checkIn h, habsent]
  cases (session.registry place).get? tag with
  | none => simp
  | some predicate =>
      cases hresult : ((predicate.result v).on session).1 <;> simp [hresult, Except.map]

theorem checkIn_eq_error_iff (h : (session.registry place).IsSound) (tag : String) (v : Value)
    (failure : Failure) :
    ((checkIn place tag v).on session).1 = .error failure ↔
      ∃ predicate, (session.registry place).get? tag = some predicate ∧
        ((predicate.result v).on session).1 = .error failure := by
  rw [fst_on_checkIn h]
  cases (session.registry place).get? tag with
  | none => simp
  | some predicate =>
      cases hresult : ((predicate.result v).on session).1 <;> simp [hresult, Except.map]

end Changes

end Registry

/-! ### Courses of operations -/

/-- There is a registry at a place. The shared one is always there. -/
def Session.HasRegistry (session : Session) : Option RegistryId → Prop
  | none => True
  | some place => place < session.registries.size

section Places

variable {place other : Option RegistryId} {session after : Session} {registry : Registry}

theorem Session.registry_setRegistry_self (h : session.HasRegistry place) (registry : Registry) :
    (session.setRegistry place registry).registry place = registry := by
  cases place with
  | none => rfl
  | some place =>
      have hbound : place < session.registries.size := h
      simp [Session.registry, setRegistry, hbound]

theorem Session.hasRegistry_setRegistry (h : session.HasRegistry place) (other : Option RegistryId)
    (registry : Registry) : (session.setRegistry other registry).HasRegistry place := by
  cases place with
  | none => trivial
  | some place =>
      cases other with
      | none => exact h
      | some other => simpa [HasRegistry, setRegistry] using h

theorem Session.Quiet.hasRegistry (hquiet : session.Quiet after) (h : session.HasRegistry place) :
    after.HasRegistry place := by
  cases place with
  | none => trivial
  | some place =>
      have hbound : place < session.registries.size := h
      rwa [← hquiet.registries] at hbound

/-- Creating a registry adds a place for it, and leaves the others. -/
theorem Registry.on_create (registry : Registry) (session : Session) :
    ∃ created, (create registry).on session = (.ok session.registries.size, created) ∧
      created.HasRegistry (some session.registries.size) ∧
      created.registry (some session.registries.size) = registry ∧
      ∀ place, session.HasRegistry place →
        created.HasRegistry place ∧ created.registry place = session.registry place := by
  refine ⟨_, rfl, ?_, ?_, fun place hplace => ?_⟩
  · simp [HasRegistry]
  · simp [Session.registry]
  · cases place with
    | none => exact ⟨trivial, rfl⟩
    | some place =>
        have hbound : place < session.registries.size := hplace
        refine ⟨?_, ?_⟩
        · show place < (session.registries.push registry).size
          rw [Array.size_push]
          exact Nat.lt_succ_of_lt hbound
        · simp [Session.registry, Array.getElem?_push_lt, hbound]

end Places

namespace Registry

variable [Platform]

/-- One operation that a session goes through, and what it does to the registry at a place. -/
inductive Move (place : Option RegistryId) : Session → Option Change → Session → Prop
  | change (change : Change) (before : Session) :
      Move place before (some change) ((change.run place).on before).2
  | elsewhere {other : Option RegistryId} (h : other ≠ place) (change : Change)
      (before : Session) : Move place before none ((change.run other).on before).2
  | create (registry : Registry) (before : Session) :
      Move place before none ((create registry).on before).2
  | calls {before after : Session} (h : before.Quiet after) : Move place before none after

/-- A session is reached by operations, and these are the changes on the way. -/
inductive Course (place : Option RegistryId) (start : Session) : List Change → Session → Prop
  | nil : Course place start [] start
  | snoc {changes : List Change} {between after : Session} {change : Option Change}
      (h : Course place start changes between) (hmove : Move place between change after) :
      Course place start (changes ++ change.toList) after

section Courses

variable {place other : Option RegistryId} {start before now : Session} {first : Registry}
  {changes : List Change} {change : Option Change}

theorem hasRegistry_run (h : before.HasRegistry place) (change : Change)
    (other : Option RegistryId) : ((change.run other).on before).2.HasRegistry place := by
  cases change with
  | register tag predicate =>
      obtain ⟨_, hsame⟩ | ⟨_, entry, _, hset⟩ := snd_on_registerIn other tag predicate before
      · rw [Change.run, hsame]
        exact h
      · rw [Change.run, hset]
        exact (quiet_recording _ entry).hasRegistry (hasRegistry_setRegistry h other _)
  | reset => exact hasRegistry_setRegistry h other .builtin

theorem registry_run_of_ne (h : other ≠ place) (change : Change) (before : Session) :
    ((change.run other).on before).2.registry place = before.registry place := by
  have hadministers : before.Administers other ((change.run other).on before).2 := by
    cases change with
    | register tag predicate => exact .register tag predicate
    | reset => exact .reset
  exact hadministers.administered.elsewhere place (Ne.symm h)

theorem registry_run (h : before.HasRegistry place) (change : Change)
    (hbefore : before.registry place = after first changes) :
    ((change.run place).on before).2.registry place = after first (changes ++ [change]) := by
  cases change with
  | register tag predicate =>
      rw [after_concat_register, ← hbefore]
      obtain ⟨hnone, hsame⟩ | ⟨name, entry, hsome, hset⟩ :=
        snd_on_registerIn place tag predicate before
      · rw [Change.run, hsame, hnone]
        rfl
      · rw [Change.run, hset, (quiet_recording _ entry).registry, registry_setRegistry_self h,
          hsome]
        rfl
  | reset =>
      rw [after_concat_reset]
      exact registry_setRegistry_self h .builtin

theorem Move.registry_eq (hmove : Move place before change now) (hplace : before.HasRegistry place)
    (hbefore : before.registry place = after first changes) :
    now.HasRegistry place ∧ now.registry place = after first (changes ++ change.toList) := by
  cases hmove with
  | change change =>
      exact ⟨hasRegistry_run hplace change place, registry_run hplace change hbefore⟩
  | elsewhere hother change =>
      rw [Option.toList_none, List.append_nil]
      exact ⟨hasRegistry_run hplace change _,
        (registry_run_of_ne hother change before).trans hbefore⟩
  | create registry =>
      obtain ⟨created, hcreate, _, _, hothers⟩ := on_create registry before
      rw [Option.toList_none, List.append_nil, hcreate]
      exact ⟨(hothers place hplace).1, (hothers place hplace).2.trans hbefore⟩
  | calls hquiet =>
      rw [Option.toList_none, List.append_nil]
      exact ⟨hquiet.hasRegistry hplace, (hquiet.registry place).trans hbefore⟩

theorem Course.registry_eq (hcourse : Course place start changes now)
    (hplace : start.HasRegistry place) :
    now.HasRegistry place ∧ now.registry place = after (start.registry place) changes := by
  induction hcourse with
  | nil => exact ⟨hplace, rfl⟩
  | snoc _ hmove ih => exact hmove.registry_eq ih.1 ih.2

/--
A registry over any course of operations that starts from a mapping of tags that are not empty to
predicates that can be called. Its base is this mapping, or the built-in types once it went back.
The tags are those of the base and then the new ones, in the order of their first registration
since. A tag has the predicate of its last registration since, or that of the base. A value passes a
check when the tag is not there or what its predicate says is true, and a check fails as its
predicate does. All tags stay distinct and not empty, with predicates that can be called. What is no
such tag is refused before the predicate is looked at, by a configuration error if it can be written
in one, and then a predicate that cannot be called; a refused registration leaves the whole session
alone.
-/
theorem registry_over_course (hcourse : Course place start changes now)
    (hplace : start.HasRegistry place) (hfirst : (start.registry place).IsSound) :
    (now.registry place).tags = (base (start.registry place) changes).tags ++
      newTags (base (start.registry place) changes) (accepted changes) ∧
    (now.registry place).IsSound ∧
    (∀ tag, (now.registry place).get? tag =
      (lastFor? (accepted changes) tag).or ((base (start.registry place) changes).get? tag)) ∧
    (∀ tag v,
      (((checkIn place tag v).on now).1 = .ok true ↔
        tag ∉ (now.registry place).tags ∨
        ∃ predicate answer, (now.registry place).get? tag = some predicate ∧
          ((predicate.result v).on now).1 = .ok answer ∧ answer.truthy = true) ∧
      ∀ failure, ((checkIn place tag v).on now).1 = .error failure ↔
        ∃ predicate, (now.registry place).get? tag = some predicate ∧
          ((predicate.result v).on now).1 = .error failure) ∧
    (∀ tag predicate, (∀ name, name ≠ "" → tag ≠ .text name) →
      (∀ written, tag.written = .ok written → (registerIn place tag predicate).on now =
        (.error (.configuration (.badTag written)), now)) ∧
      ∀ e, tag.written = .error e → (registerIn place tag predicate).on now =
        (.error (.raised e), now)) ∧
    (∀ name predicate, name ≠ "" → predicate.isCallable = false →
      (registerIn place (.text name) predicate).on now =
        (.error (.configuration (.badPredicate name)), now)) ∧
    ∀ name predicate, name ≠ "" → predicate.isCallable = true →
      ((registerIn place (.text name) predicate).on now).1 = .ok () := by
  obtain ⟨_, hnow⟩ := hcourse.registry_eq hplace
  have hsound : (now.registry place).IsSound := by
    rw [hnow]
    exact isSound_after hfirst changes
  refine ⟨?_, hsound, fun tag => ?_,
    fun tag v => ⟨checkIn_eq_true_iff hsound tag v, checkIn_eq_error_iff hsound tag v⟩,
    fun tag predicate htag => ⟨fun written hwritten => ?_, fun e hwritten => ?_⟩,
    fun name predicate hname hcallable => ?_, fun name predicate hname hcallable => ?_⟩
  · rw [hnow, after, tags_overlay]
  · rw [hnow, after, get?_overlay]
  · have hrefused := register_of_no_tag htag (now.registry place) predicate
    rw [hwritten] at hrefused
    exact on_registerIn_of_error hrefused
  · have hrefused := register_of_no_tag htag (now.registry place) predicate
    rw [hwritten] at hrefused
    exact on_registerIn_of_error hrefused
  · have hrefused := register_text hname (now.registry place) predicate
    rw [hcallable] at hrefused
    exact on_registerIn_of_error hrefused
  · obtain ⟨entry, hentry⟩ := exists_on_registerIn hname hcallable place now
    rw [hentry]

end Courses

end Registry

open scoped Standard

namespace Registry

/-- Answers with what it is called with, and nothing else. -/
def echo : Predicate :=
  .custom (.callable default)

/-- A tag is registered on top of a mapping, one is refused, and one of the mapping is replaced. -/
theorem replaced_tag_keeps_its_place :
    ∃ (place : RegistryId) (start now : Session),
      (create (.ofList [("Only", echo)])).on {} = (.ok place, start) ∧
      Course (some place) start
        [.register (.text "Even") echo, .register (.int 5) echo,
          .register (.text "Only") (.builtin .text)] now ∧
      (now.registry (some place)).tags = ["Only", "Even"] ∧
      (now.registry (some place)).get? "Only" = some (.builtin .text) := by
  obtain ⟨start, hcreate, hplace, hregistry, _⟩ := on_create (.ofList [("Only", echo)]) {}
  have hmapping : start.registry (some 0) = .ofList [("Only", echo)] := hregistry
  have hfirst : (start.registry (some 0)).IsSound := by
    rw [hmapping]
    exact isSound_ofList (by decide)
  have hcourse : Course (some 0) start _ _ :=
    ((Course.nil.snoc (.change (.register (.text "Even") echo) start)).snoc
      (.change (.register (.int 5) echo) _)).snoc
      (.change (.register (.text "Only") (.builtin .text)) _)
  obtain ⟨htags, _, hget, _⟩ := registry_over_course hcourse hplace hfirst
  refine ⟨0, start, _, hcreate, hcourse, ?_, ?_⟩
  · rw [htags, hmapping]
    rfl
  · rw [hget]
    rfl

/-- A number that is too long to be written is refused as a tag, but by another error. -/
theorem long_number_is_refused_otherwise :
    (registerIn none (.int (Nat.pow 10 Number.digitLimit : Nat)) (.builtin .text)).on {} =
      (.error (.raised Value.tooManyDigits), {}) := by
  generalize hn : ((Nat.pow 10 Number.digitLimit : Nat) : Int) = n
  have hlong : Value.intText n = .error Value.tooManyDigits := by
    rw [Value.intText, ← hn, Int.natAbs_natCast]
    exact if_pos (Nat.le_refl _)
  have hwritten : (Value.int n).written = .error Value.tooManyDigits := by
    rw [Value.written, Value.writtenForm, hlong]
  have hnoTag : ∀ name, name ≠ "" → Value.int n ≠ .text name := nofun
  have hrefused := register_of_no_tag hnoTag .builtin (.builtin .text)
  rw [hwritten] at hrefused
  exact on_registerIn_of_error hrefused

end Registry

end CallGuard
