import CallGuard.Docstring
import Mathlib.Data.List.DropRight

/-!
# Cleaning keeps the parameter lines

Cleaning a documentation text takes blanks off the fronts of its rows and drops empty rows at both
ends. Rows end at line feeds only, and lines at any line break, so what is taken off the front of a
row can hold whole lines. These are blank, and blanks in front of a line do not count.
-/

namespace CallGuard.Docstring

open CallGuard.Text

variable {line front rest cs : List Char} {c : Char}

theorem payload?_cons_of_blank (hc : isBlank c = true) : payload? (c :: line) = payload? line := by
  have hstart : trimStart (c :: line) = trimStart line := List.dropWhile_cons_of_pos hc
  rw [payload?, payload?, hstart]

/-- The payloads in a text whose first line goes on from the given characters, latest first. -/
def payloadsFrom (line cs : List Char) : List (List Char) :=
  (lines.go line cs).filterMap payload?

theorem payloads_eq_payloadsFrom (cs : List Char) : payloads cs = payloadsFrom [] cs := rfl

theorem payloadsFrom_nil (line : List Char) :
    payloadsFrom line [] = (payload? line.reverse).toList := by
  rw [payloadsFrom, lines.go]
  cases line with
  | nil => rfl
  | cons c line =>
      simp only [List.isEmpty_cons, Bool.false_eq_true, if_false, List.filterMap_cons]
      cases payload? (c :: line).reverse with
      | none => rfl
      | some found => rfl

theorem filterMap_payload?_cons (line : List Char) (later : List (List Char)) :
    (line :: later).filterMap payload? = (payload? line).toList ++ later.filterMap payload? := by
  rw [List.filterMap_cons]
  cases payload? line with
  | none => rfl
  | some found => rfl

theorem lines_go_of_break (hc : isLineBreak c = true)
    (hfeed : ∀ tail, c = '\r' → cs = '\n' :: tail → False) (line : List Char) :
    lines.go line (c :: cs) = line.reverse :: lines.go [] cs := by
  rw [lines.go.eq_3 line c cs hfeed, if_pos hc]

/-- A feed that joins a carriage return would only have ended a blank line, which holds nothing. -/
theorem payloadsFrom_cons_of_break (hc : isLineBreak c = true) (line cs : List Char) :
    payloadsFrom line (c :: cs) = (payload? line.reverse).toList ++ payloads cs := by
  by_cases hfeed : ∃ tail, c = '\r' ∧ cs = '\n' :: tail
  · obtain ⟨tail, rfl, rfl⟩ := hfeed
    have htail : payloads ('\n' :: tail) = payloads tail := by
      have hbreak : isLineBreak '\n' = true := by decide
      rw [payloads, lines, lines_go_of_break hbreak fun _ hreturn _ => absurd hreturn (by decide),
        filterMap_payload?_cons]
      rfl
    rw [payloadsFrom, lines.go.eq_2, filterMap_payload?_cons, htail]
    rfl
  · have hlone : ∀ tail, c = '\r' → cs = '\n' :: tail → False :=
      fun tail hreturn htail => hfeed ⟨tail, hreturn, htail⟩
    rw [payloadsFrom, lines_go_of_break hc hlone, filterMap_payload?_cons]
    rfl

theorem payloadsFrom_cons_of_not_break (hc : isLineBreak c = false) (line cs : List Char) :
    payloadsFrom line (c :: cs) = payloadsFrom (c :: line) cs := by
  have hlone : ∀ tail, c = '\r' → cs = '\n' :: tail → False := by
    rintro _ rfl _
    revert hc
    decide
  rw [payloadsFrom, lines.go.eq_3 line c cs hlone, if_neg (by simp [hc]), payloadsFrom]

/-! ### Blanks in front -/

theorem payloadsFrom_append_of_blank (hc : isBlank c = true) (line cs : List Char) :
    payloadsFrom (line ++ [c]) cs = payloadsFrom line cs := by
  have hline (line : List Char) : payload? (line ++ [c]).reverse = payload? line.reverse := by
    rw [List.reverse_append, List.reverse_singleton, List.singleton_append,
      payload?_cons_of_blank hc]
  induction cs generalizing line with
  | nil => rw [payloadsFrom_nil, payloadsFrom_nil, hline]
  | cons d cs ih =>
      cases hd : isLineBreak d with
      | true => rw [payloadsFrom_cons_of_break hd, payloadsFrom_cons_of_break hd, hline]
      | false =>
          rw [payloadsFrom_cons_of_not_break hd, payloadsFrom_cons_of_not_break hd,
            ← List.cons_append, ih]

theorem payloads_cons_of_blank (hc : isBlank c = true) (cs : List Char) :
    payloads (c :: cs) = payloads cs := by
  rw [payloads_eq_payloadsFrom]
  cases hbreak : isLineBreak c with
  | true =>
      rw [payloadsFrom_cons_of_break hbreak]
      rfl
  | false =>
      rw [payloadsFrom_cons_of_not_break hbreak]
      exact payloadsFrom_append_of_blank hc [] cs

theorem payloads_append_of_blank (h : ∀ c ∈ front, isBlank c = true) (cs : List Char) :
    payloads (front ++ cs) = payloads cs := by
  induction front with
  | nil => rfl
  | cons c front ih =>
      rw [List.cons_append, payloads_cons_of_blank (h c List.mem_cons_self)]
      exact ih fun d hd => h d (List.mem_cons_of_mem c hd)

theorem payloads_trimStart (cs : List Char) : payloads (trimStart cs) = payloads cs := by
  have hspan : cs.takeWhile isBlank ++ trimStart cs = cs := List.takeWhile_append_dropWhile
  have hblank : ∀ c ∈ cs.takeWhile isBlank, isBlank c = true :=
    fun c hc => List.mem_takeWhile_imp hc
  calc payloads (trimStart cs)
      = payloads (cs.takeWhile isBlank ++ trimStart cs) := (payloads_append_of_blank hblank _).symm
    _ = payloads cs := by rw [hspan]

/-! ### Rows -/

theorem payloadsFrom_append_newline (line cs rest : List Char) :
    payloadsFrom line (cs ++ '\n' :: rest) = payloadsFrom line cs ++ payloads rest := by
  induction cs generalizing line with
  | nil => rw [List.nil_append, payloadsFrom_cons_of_break (by decide), payloadsFrom_nil]
  | cons c cs ih =>
      rw [List.cons_append]
      cases hc : isLineBreak c with
      | true =>
          rw [payloadsFrom_cons_of_break hc, payloadsFrom_cons_of_break hc,
            payloads_eq_payloadsFrom, ih, List.append_assoc, payloads_eq_payloadsFrom cs]
      | false => rw [payloadsFrom_cons_of_not_break hc, payloadsFrom_cons_of_not_break hc, ih]

theorem payloads_joinPieces (rows : List (List Char)) :
    payloads (joinPieces '\n' rows) = rows.flatMap payloads := by
  induction rows with
  | nil => rfl
  | cons row later ih =>
      cases later with
      | nil => rw [joinPieces, List.flatMap_singleton]
      | cons next later =>
          rw [joinPieces, payloads_eq_payloadsFrom, payloadsFrom_append_newline, ih]
          · rfl
          · exact List.cons_ne_nil next later

theorem flatMap_payloads_of_empty {rows : List (List Char)}
    (h : ∀ row ∈ rows, row.isEmpty = true) : rows.flatMap payloads = [] := by
  rw [List.flatMap_eq_nil_iff]
  intro row hrow
  rw [List.isEmpty_iff.mp (h row hrow)]
  rfl

theorem flatMap_payloads_dropEmptyEnds (rows : List (List Char)) :
    (dropEmptyEnds rows).flatMap payloads = rows.flatMap payloads := by
  have hdrop (rows : List (List Char)) :
      (rows.dropWhile List.isEmpty).flatMap payloads = rows.flatMap payloads := by
    have hempty : (rows.takeWhile List.isEmpty).flatMap payloads = [] :=
      flatMap_payloads_of_empty fun row hrow => List.mem_takeWhile_imp hrow
    calc (rows.dropWhile List.isEmpty).flatMap payloads
        = (rows.takeWhile List.isEmpty ++ rows.dropWhile List.isEmpty).flatMap payloads := by
          rw [List.flatMap_append, hempty, List.nil_append]
      _ = rows.flatMap payloads := by rw [List.takeWhile_append_dropWhile]
  have hdropEnd : (rows.rdropWhile List.isEmpty).flatMap payloads = rows.flatMap payloads := by
    have hempty : (rows.rtakeWhile List.isEmpty).flatMap payloads = [] :=
      flatMap_payloads_of_empty fun row hrow => List.mem_rtakeWhile_imp hrow
    calc (rows.rdropWhile List.isEmpty).flatMap payloads
        = (rows.rdropWhile List.isEmpty ++ rows.rtakeWhile List.isEmpty).flatMap payloads := by
          rw [List.flatMap_append, hempty, List.append_nil]
      _ = rows.flatMap payloads := by rw [List.rdropWhile_append_rtakeWhile]
  exact (hdrop _).trans hdropEnd

/-! ### The margin -/

/-- No more is taken off a row than blanks: the margin is at most the indentation of the row. -/
theorem isBlank_of_mem_take_margin {rows : List (List Char)} {margin : Nat}
    (hmargin : margin? rows = some margin) {row : List Char} (hrow : row ∈ rows) :
    ∀ c ∈ row.take margin, isBlank c = true := by
  intro c hc
  have hspan : row.takeWhile isBlank ++ trimStart row = row := List.takeWhile_append_dropWhile
  by_cases hempty : (trimStart row).isEmpty = true
  · rw [List.isEmpty_iff.mp hempty, List.append_nil] at hspan
    rw [← hspan] at hc
    exact List.mem_takeWhile_imp (List.mem_of_mem_take hc)
  · have hindent : indent? row = some (row.takeWhile isBlank).length := by
      have hlength := congrArg List.length hspan
      rw [List.length_append] at hlength
      rw [indent?, if_neg hempty]
      congr 1
      omega
    have hle : margin ≤ (row.takeWhile isBlank).length :=
      (List.min?_eq_some_iff.mp hmargin).2 _ (List.mem_filterMap.mpr ⟨row, hrow, hindent⟩)
    rw [← hspan, List.take_append_of_le_length hle] at hc
    exact List.mem_takeWhile_imp (List.mem_of_mem_take hc)

theorem flatMap_payloads_undented (rows : List (List Char)) :
    (undented rows).flatMap payloads = rows.flatMap payloads := by
  cases rows with
  | nil => rfl
  | cons first rest =>
      rw [undented, List.flatMap_cons, List.flatMap_cons, payloads_trimStart]
      cases hmargin : margin? rest with
      | none => rfl
      | some margin =>
          simp only [List.flatMap_map]
          congr 1
          apply List.flatMap_congr
          intro row hrow
          have hblank := isBlank_of_mem_take_margin hmargin hrow
          calc payloads (row.drop margin)
              = payloads (row.take margin ++ row.drop margin) :=
                (payloads_append_of_blank hblank _).symm
            _ = payloads row := by rw [List.take_append_drop]

/-- Cleaning changes nothing but tabs in the parameter lines of a text. -/
theorem payloads_clean (doc : List Char) : payloads (clean doc) = payloads (expandTabs doc) := by
  rw [clean, payloads_joinPieces, flatMap_payloads_dropEmptyEnds, flatMap_payloads_undented,
    ← payloads_joinPieces, joinPieces_pieces]

end CallGuard.Docstring
