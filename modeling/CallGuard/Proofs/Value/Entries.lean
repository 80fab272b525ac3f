import CallGuard.Value.Key

/-!
# Entries under text keys

What stands under a text is found at the first entry with that key, and an entry that is set where
there was none comes last.
-/

namespace CallGuard.Value

variable {α : Type} {entries : List (Value × α)} {key : String}

theorem entryAt?_cons_of_ne {k : Value} {a : α} (h : k ≠ .text key) :
    entryAt? ((k, a) :: entries) key = entryAt? entries key := by
  cases k with
  | text s =>
      rw [entryAt?, if_neg]
      rintro rfl
      exact h rfl
  | _ => rfl

theorem entryAt?_eq_none (h : ∀ entry ∈ entries, entry.1 ≠ .text key) :
    entryAt? entries key = none := by
  induction entries with
  | nil => rfl
  | cons entry rest ih =>
      rw [entryAt?_cons_of_ne (h entry List.mem_cons_self)]
      exact ih fun later hlater => h later (List.mem_cons_of_mem entry hlater)

theorem entryAt?_append (entries more : List (Value × α)) (key : String) :
    entryAt? (entries ++ more) key = (entryAt? entries key).or (entryAt? more key) := by
  induction entries with
  | nil => rfl
  | cons entry rest ih =>
      obtain ⟨k, a⟩ := entry
      by_cases hk : k = .text key
      · subst hk
        simp only [List.cons_append, entryAt?, if_true, Option.some_or]
      · rw [List.cons_append, entryAt?_cons_of_ne hk, entryAt?_cons_of_ne hk, ih]

theorem setEntry_of_none (h : entryAt? entries key = none) (a : α) :
    setEntry entries (.text key) a = entries ++ [(.text key, a)] := by
  rw [entryAt?_eq_entryFor?, entryFor?, Option.map_eq_none_iff, List.find?_eq_none] at h
  unfold setEntry
  rw [if_neg]
  intro hany
  obtain ⟨entry, hentry, hsame⟩ := List.any_eq_true.mp hany
  exact h entry hentry hsame

end CallGuard.Value
