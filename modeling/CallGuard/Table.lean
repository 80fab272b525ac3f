/-!
Tables: named entries in the order in which the names were first set. Setting a known name keeps its
place and replaces its entry; a new name comes last. Looking a name up after a change sees the
change at that name and nothing of it at any other.
-/

namespace CallGuard

/-- Named entries in order. -/
abbrev Table (α : Type) := List (String × α)

namespace Table

variable {α : Type}

/-- The names in order. -/
def names (table : Table α) : List String :=
  table.map (·.1)

def get? (table : Table α) (name : String) : Option α :=
  match table with
  | [] => none
  | entry :: rest => if entry.1 = name then some entry.2 else get? rest name

def has (table : Table α) (name : String) : Bool :=
  (get? table name).isSome

def put (table : Table α) (name : String) (a : α) : Table α :=
  match table with
  | [] => [(name, a)]
  | entry :: rest => if entry.1 = name then (name, a) :: rest else entry :: put rest name a

def drop (table : Table α) (name : String) : Table α :=
  table.filter fun entry => entry.1 ≠ name

/-- The table of pairs set in order. -/
def ofList (pairs : List (String × α)) : Table α :=
  pairs.foldl (fun table pair => put table pair.1 pair.2) []

theorem get?_eq_none_iff {table : Table α} {name : String} :
    get? table name = none ↔ name ∉ names table := by
  induction table with
  | nil => simp [get?, names]
  | cons entry rest ih =>
    by_cases h : entry.1 = name
    · simp [get?, names, h]
    · have h' : ¬ name = entry.1 := fun e => h e.symm
      simp only [names] at ih
      simp [get?, names, h, h', ih]

theorem isSome_get?_iff {table : Table α} {name : String} :
    (get? table name).isSome ↔ name ∈ names table := by
  rw [Option.isSome_iff_ne_none, Ne, get?_eq_none_iff, Decidable.not_not]

theorem mem_of_get? {table : Table α} {name : String} {a : α}
    (h : get? table name = some a) : (name, a) ∈ table := by
  induction table with
  | nil => cases h
  | cons entry rest ih =>
    rw [get?] at h
    split at h
    · rename_i hname
      cases h
      exact hname ▸ List.mem_cons_self
    · exact List.mem_cons_of_mem _ (ih h)

theorem get?_append (first second : Table α) (name : String) :
    get? (first ++ second) name = (get? first name).or (get? second name) := by
  induction first with
  | nil => rfl
  | cons entry rest ih =>
    by_cases h : entry.1 = name
    · simp [get?, h]
    · simp [get?, h, ih]

/-- In a table with distinct names every entry is the one that its name leads to. -/
theorem mem_iff_get? {table : Table α} (h : (names table).Nodup) {name : String} {a : α} :
    (name, a) ∈ table ↔ get? table name = some a := by
  refine ⟨fun hmem => ?_, mem_of_get?⟩
  induction table with
  | nil => cases hmem
  | cons entry rest ih =>
    obtain ⟨hnew, hrest⟩ := List.nodup_cons.mp h
    rw [get?]
    rcases List.mem_cons.mp hmem with rfl | hmem
    · exact if_pos rfl
    · have hother : entry.1 ≠ name := by
        rintro rfl
        exact hnew (List.mem_map.mpr ⟨_, hmem, rfl⟩)
      rw [if_neg hother]
      exact ih hrest hmem

/-- Leaving out entries by their names leaves the other names alone. -/
theorem get?_filter (table : Table α) (kept : String → Bool) (name : String) :
    get? (table.filter fun entry => kept entry.1) name =
      if kept name then get? table name else none := by
  induction table with
  | nil => simp [get?]
  | cons entry rest ih =>
    by_cases hname : entry.1 = name
    · cases hkept : kept name <;> simp [hname, hkept, get?, ih]
    · cases hkept : kept entry.1 <;> simp [hname, hkept, get?, ih]

@[simp]
theorem get?_put_self (table : Table α) (name : String) (a : α) :
    get? (put table name a) name = some a := by
  induction table with
  | nil => simp [put, get?]
  | cons entry rest ih => by_cases h : entry.1 = name <;> simp [put, get?, h, ih]

/-- Setting a name leaves the entries of all others. -/
theorem get?_put_of_ne {name other : String} (h : other ≠ name) (table : Table α) (a : α) :
    get? (put table name a) other = get? table other := by
  have h' : ¬ name = other := fun e => h e.symm
  induction table with
  | nil => simp [put, get?, h']
  | cons entry rest ih =>
    by_cases he : entry.1 = name
    · simp [put, get?, he, h']
    · simp [put, get?, he, ih]

/-- A known name keeps its place, and a new one comes last. -/
theorem names_put (table : Table α) (name : String) (a : α) :
    names (put table name a) =
      if name ∈ names table then names table else names table ++ [name] := by
  induction table with
  | nil => simp [put, names]
  | cons entry rest ih =>
    simp only [names] at ih
    by_cases h : entry.1 = name
    · simp [put, names, h]
    · have h' : ¬ name = entry.1 := fun e => h e.symm
      by_cases hm : name ∈ rest.map (·.1) <;> simp_all [put, names]

theorem nodup_names_put {table : Table α} (h : (names table).Nodup) (name : String) (a : α) :
    (names (put table name a)).Nodup := by
  rw [names_put]
  split
  · exact h
  · rename_i hnew
    refine List.nodup_append.mpr ⟨h, by simp, ?_⟩
    rintro other hother _ hlast rfl
    exact hnew (List.mem_singleton.mp hlast ▸ hother)

theorem nodup_names_ofList (pairs : List (String × α)) : (names (ofList pairs)).Nodup := by
  refine List.foldlRecOn (motive := fun table => (names table).Nodup) _ _ List.nodup_nil ?_
  exact fun table htable pair _ => nodup_names_put htable _ _

/-- Entries that are set one after another win over those that were there. -/
theorem get?_foldl_put {pairs : Table α} (h : (names pairs).Nodup) (table : Table α)
    (name : String) :
    get? (pairs.foldl (fun table pair => put table pair.1 pair.2) table) name =
      (get? pairs name).or (get? table name) := by
  induction pairs generalizing table with
  | nil => rfl
  | cons pair rest ih =>
    obtain ⟨hnew, hrest⟩ := List.nodup_cons.mp h
    rw [List.foldl_cons, ih hrest, get?]
    by_cases hname : pair.1 = name
    · subst hname
      rw [if_pos rfl, get?_put_self, get?_eq_none_iff.mpr hnew]
      rfl
    · rw [if_neg hname, get?_put_of_ne (fun e => hname e.symm)]

/-- Taking a name away leaves the entries of all others. -/
theorem get?_drop (table : Table α) (name other : String) :
    get? (drop table name) other = if other = name then none else get? table other := by
  induction table with
  | nil => simp [drop, get?]
  | cons entry rest ih =>
    by_cases h : entry.1 = name
    · have dropped : drop (entry :: rest) name = drop rest name := by simp [drop, h]
      by_cases ho : other = name
      · rw [dropped, ih, if_pos ho, if_pos ho]
      · have h' : ¬ name = other := fun e => ho e.symm
        simp [dropped, ih, get?, h, h', ho]
    · have kept : drop (entry :: rest) name = entry :: drop rest name := by simp [drop, h]
      by_cases ho : entry.1 = other
      · have h' : ¬ other = name := fun e => h (ho.trans e)
        simp [kept, get?, ho, h']
      · simp [kept, get?, ho, ih]

end Table

end CallGuard
