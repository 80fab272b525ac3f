import CallGuard.Text.Trim
import Mathlib.Data.List.DropRight

/-!
# Cutting text

The pieces of a text hold all of it but the separators, and a trimmed text is one that neither
starts nor ends with a blank.
-/

namespace CallGuard.Text

variable {p : Char → Bool} {separator c : Char} {front rest cs piece : List Char}

/-! ### Runs of characters -/

theorem takeWhile_of_stop (h : ∀ d ∈ front, p d = true) (hc : p c = false) :
    (front ++ c :: rest).takeWhile p = front := by
  rw [List.takeWhile_append_of_pos h, List.takeWhile_cons_of_neg (by simp [hc]), List.append_nil]

theorem dropWhile_of_stop (h : ∀ d ∈ front, p d = true) (hc : p c = false) :
    (front ++ c :: rest).dropWhile p = c :: rest := by
  rw [List.dropWhile_append_of_pos h, List.dropWhile_cons_of_neg (by simp [hc])]

/-! ### Pieces -/

theorem pieces_eq_splitOn (separator : Char) (cs : List Char) :
    pieces separator cs = cs.splitOn separator := by
  induction cs with
  | nil => rfl
  | cons c cs ih =>
      rw [pieces, List.splitOn_cons_eq_if_modifyHead, ih]
      by_cases hc : c = separator
      · rw [if_pos hc, if_pos (by simp [hc])]
      · rw [if_neg hc, if_neg (by simp [hc])]
        cases hpieces : cs.splitOn separator with
        | nil => exact absurd hpieces (List.splitOn_ne_nil separator cs)
        | cons piece rest => rfl

theorem joinPieces_eq_intercalate (separator : Char) (rows : List (List Char)) :
    joinPieces separator rows = [separator].intercalate rows := by
  induction rows with
  | nil => rfl
  | cons row rest ih =>
      cases rest with
      | nil => simp [joinPieces]
      | cons next rest =>
          rw [joinPieces, ih, List.intercalate_cons_cons]
          · simp
          · simp

theorem pieces_append_of_not_mem {ds : List Char} (h : separator ∉ ds) (cs : List Char) :
    ∃ init last, pieces separator cs = init ++ [last] ∧
      pieces separator (cs ++ ds) = init ++ [last ++ ds] := by
  induction cs with
  | nil =>
      refine ⟨[], [], rfl, ?_⟩
      rw [List.nil_append, pieces_eq_splitOn, List.splitOn_eq_singleton h]
      rfl
  | cons c cs ih =>
      obtain ⟨init, last, hcs, hds⟩ := ih
      rw [List.cons_append, pieces, pieces, hcs, hds]
      by_cases hc : c = separator
      · rw [if_pos hc, if_pos hc]
        exact ⟨[] :: init, last, rfl, rfl⟩
      · rw [if_neg hc, if_neg hc]
        cases init with
        | nil => exact ⟨[], c :: last, rfl, rfl⟩
        | cons first init => exact ⟨(c :: first) :: init, last, rfl, rfl⟩

/-- Texts without the separator are the pieces of what they are joined to. -/
theorem map_pieces_intercalate {texts : List String} (htexts : texts ≠ [])
    (hfree : ∀ text ∈ texts, separator ∉ text.toList) :
    (pieces separator ([separator].intercalate (texts.map String.toList))).map String.ofList =
      texts := by
  have hsplit : ([separator].intercalate (texts.map String.toList)).splitOn separator =
      texts.map String.toList := by
    apply List.splitOn_intercalate
    · simpa using hfree
    · simpa using htexts
  rw [pieces_eq_splitOn, hsplit, List.map_map]
  simp

theorem eq_or_mem_of_mem_intercalate {rows : List (List Char)}
    (h : c ∈ [separator].intercalate rows) : c = separator ∨ ∃ row ∈ rows, c ∈ row := by
  induction rows with
  | nil => simp at h
  | cons row rest ih =>
      cases rest with
      | nil => exact Or.inr ⟨row, List.mem_cons_self, by simpa using h⟩
      | cons next rest =>
          rw [List.intercalate_cons_cons] at h
          rcases List.mem_append.mp h with h | h
          · rcases List.mem_append.mp h with h | h
            · exact Or.inr ⟨row, List.mem_cons_self, h⟩
            · exact Or.inl (List.mem_singleton.mp h)
          · refine (ih h).imp_right ?_
            rintro ⟨found, hfound, hc⟩
            exact ⟨found, List.mem_cons_of_mem row hfound, hc⟩

theorem mem_of_mem_pieces (hpiece : piece ∈ pieces separator cs) (hc : c ∈ piece) :
    c ∈ cs ∧ c ≠ separator := by
  induction cs generalizing piece with
  | nil =>
      rw [List.mem_singleton.mp hpiece] at hc
      cases hc
  | cons d cs ih =>
      rw [pieces] at hpiece
      split at hpiece
      · rcases List.mem_cons.mp hpiece with rfl | hpiece
        · cases hc
        · exact (ih hpiece hc).imp_left (List.mem_cons_of_mem d)
      · rename_i hd
        split at hpiece
        · rename_i hpieces
          exact absurd hpieces (pieces_ne_nil separator cs)
        · rename_i first others hpieces
          rcases List.mem_cons.mp hpiece with rfl | hpiece
          · rcases List.mem_cons.mp hc with rfl | hc
            · exact ⟨List.mem_cons_self, hd⟩
            · have hfirst : first ∈ pieces separator cs := by
                rw [hpieces]
                exact List.mem_cons_self
              exact (ih hfirst hc).imp_left (List.mem_cons_of_mem d)
          · have hother : piece ∈ pieces separator cs := by
              rw [hpieces]
              exact List.mem_cons_of_mem first hpiece
            exact (ih hother hc).imp_left (List.mem_cons_of_mem d)

/-! ### Trimming -/

/-- A text that neither starts nor ends with a blank. -/
structure IsTrimmed (cs : List Char) : Prop where
  head : ∀ c, cs.head? = some c → isBlank c = false
  last : ∀ c, cs.getLast? = some c → isBlank c = false

theorem isBlank_head_trimStart (h : (trimStart cs).head? = some c) : isBlank c = false := by
  have hhead := List.head?_dropWhile_not isBlank cs
  rw [← trimStart, h] at hhead
  exact hhead

theorem trimStart_eq_self (h : ∀ c, cs.head? = some c → isBlank c = false) : trimStart cs = cs := by
  cases cs with
  | nil => rfl
  | cons c cs => exact List.dropWhile_cons_of_neg (by simp [h c rfl])

theorem trimEnd_eq_reverse (cs : List Char) : trimEnd cs = (trimStart cs.reverse).reverse := rfl

theorem trim_eq_self (h : IsTrimmed cs) : trim cs = cs := by
  have hreverse : trimStart cs.reverse = cs.reverse := by
    apply trimStart_eq_self
    rw [List.head?_reverse]
    exact h.last
  rw [trim, trimStart_eq_self h.head, trimEnd_eq_reverse, hreverse, List.reverse_reverse]

theorem trim_sublist (cs : List Char) : (trim cs).Sublist cs :=
  (List.rdropWhile_prefix isBlank (trimStart cs)).sublist.trans (List.dropWhile_sublist isBlank)

/-- Trimming takes blanks away and nothing else. -/
theorem mem_trim (hc : c ∈ cs) (hblank : isBlank c = false) : c ∈ trim cs := by
  have hstart {text : List Char} (hmem : c ∈ text) : c ∈ trimStart text := by
    rw [← List.takeWhile_append_dropWhile (p := isBlank) (l := text), List.mem_append] at hmem
    refine hmem.resolve_left fun hfront => ?_
    rw [List.mem_takeWhile_imp hfront] at hblank
    cases hblank
  rw [trim, trimEnd_eq_reverse, List.mem_reverse]
  exact hstart (List.mem_reverse.mpr (hstart hc))

theorem isTrimmed_trim (cs : List Char) : IsTrimmed (trim cs) := by
  refine ⟨fun c hc => ?_, fun c hc => ?_⟩
  · obtain ⟨blanks, hblanks⟩ := List.rdropWhile_prefix isBlank (trimStart cs)
    have hhead : (trimStart cs).head? = some c := by
      rw [← hblanks, List.head?_append]
      exact Option.or_eq_some_iff.mpr (Or.inl hc)
    exact isBlank_head_trimStart hhead
  · rw [trim, trimEnd_eq_reverse, List.getLast?_reverse] at hc
    exact isBlank_head_trimStart hc

end CallGuard.Text
