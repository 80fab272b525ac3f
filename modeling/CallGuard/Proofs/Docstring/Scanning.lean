import CallGuard.Proofs.Declaration.Spacing
import CallGuard.Proofs.Docstring.Cleaning

/-!
# Scanning a documentation text

A line is tagged when `@param` stands in it as a word after blanks only. A scan comes to the tagged
lines of the text as it was written: what is cleaned before the scan changes at most gaps, and these
only where the text has tabs.
-/

namespace CallGuard.Docstring

open CallGuard.Text CallGuard.Declaration

def IsTagged (line : List Char) : Prop :=
  tag <+: trimStart line ∧ ((trimStart line).drop tag.length).head?.all (!isWord ·)

instance : DecidablePred IsTagged :=
  fun line => inferInstanceAs (Decidable (tag <+: trimStart line ∧ _))

def payloadOf (line : List Char) : List Char :=
  trim ((trimStart line).drop tag.length)

/-- The payloads of the tagged lines of a text, in order. -/
def taggedPayloads (cs : List Char) : List (List Char) :=
  ((lines cs).filter (IsTagged ·)).map payloadOf

/-- The lines that a scan gives when it has found texts. -/
def listed : List (List Char) → Option (List String)
  | [] => none
  | found => some (found.map String.ofList)

variable {c : Char} {cs ds line text : List Char}

/-! ### Tagged lines -/

theorem payload?_eq (line : List Char) :
    payload? line = if IsTagged line then some (payloadOf line) else none := by
  rw [payload?]
  by_cases htag : tag <+: trimStart line
  · have hfront : tag.isPrefixOf (trimStart line) = true := List.isPrefixOf_iff_prefix.mpr htag
    rw [if_pos hfront, payloadOf]
    cases hrest : (trimStart line).drop tag.length with
    | nil =>
        have htagged : IsTagged line := ⟨htag, by simp [hrest]⟩
        rw [if_pos htagged]
        rfl
    | cons c rest =>
        cases hc : isWord c with
        | true =>
            have htagged : ¬IsTagged line := by
              rintro ⟨-, hword⟩
              rw [hrest] at hword
              simp [hc] at hword
            rw [if_neg htagged]
            simp [hc]
        | false =>
            have htagged : IsTagged line := ⟨htag, by simp [hrest, hc]⟩
            rw [if_pos htagged]
            simp [hc]
  · have hfront : ¬tag.isPrefixOf (trimStart line) = true :=
      fun hfront => htag (List.isPrefixOf_iff_prefix.mp hfront)
    have htagged : ¬IsTagged line := fun htagged => htag htagged.1
    rw [if_neg hfront, if_neg htagged]

theorem payloads_eq_taggedPayloads (cs : List Char) : payloads cs = taggedPayloads cs := by
  rw [taggedPayloads, ← List.filterMap_eq_map, List.filterMap_filter, payloads]
  apply List.filterMap_congr
  intro line _
  rw [payload?_eq]
  simp

theorem scan_eq_listed (doc : String) : scan doc = listed (payloads (clean doc.toList)) := by
  rw [scan]
  cases payloads (clean doc.toList) with
  | nil => rfl
  | cons found later => rfl

/-! ### Tabs -/

theorem expandTabs_go_eq_self (h : '\t' ∉ cs) (column : Nat) : expandTabs.go column cs = cs := by
  induction cs generalizing column with
  | nil => rfl
  | cons c cs ih =>
      rw [List.mem_cons, not_or] at h
      rw [expandTabs.go, if_neg (Ne.symm h.1)]
      split
      · rw [ih h.2]
      · rw [ih h.2]

theorem expandTabs_eq_self (h : '\t' ∉ cs) : expandTabs cs = cs :=
  expandTabs_go_eq_self h 0

/-- A tab becomes at least one blank. -/
theorem isGap_replicate (column : Nat) : IsGap (List.replicate (8 - column % 8) ' ') where
  ne_nil := by
    have hwidth : 8 - column % 8 ≠ 0 := by omega
    simpa using hwidth
  spacing := by
    intro c hc
    exact Or.inl (List.eq_of_mem_replicate hc)

theorem respaced_expandTabs_go (column : Nat) (cs : List Char) :
    Respaced cs (expandTabs.go column cs) := by
  have htab : IsGap ['\t'] := ⟨List.cons_ne_nil _ _, by simp [IsSpacing]⟩
  induction cs generalizing column with
  | nil => exact .nil
  | cons c cs ih =>
      rw [expandTabs.go]
      split
      · rename_i hc
        rw [hc]
        exact .gap htab (isGap_replicate column) (ih _)
      · split
        · exact .keep c (ih 0)
        · exact .keep c (ih (column + 1))

theorem respaced_expandTabs (cs : List Char) : Respaced cs (expandTabs cs) :=
  respaced_expandTabs_go 0 cs

/-! ### Texts with other gaps -/

theorem isWord_eq_false_of_isSpacing (h : IsSpacing c) : isWord c = false := by
  rcases h with rfl | rfl
  · decide
  · decide

theorem isLineBreak_eq_false_of_isSpacing (h : IsSpacing c) : isLineBreak c = false := by
  rcases h with rfl | rfl
  · decide
  · decide

theorem not_isSpacing_of_mem_tag : ∀ c ∈ tag, ¬IsSpacing c := by
  have htag : tag = ['@', 'p', 'a', 'r', 'a', 'm'] := String.toList_ofList
  rw [htag]
  simp [IsSpacing]

theorem IsTagged.of_respaced (htagged : IsTagged line) (h : Respaced line text) :
    IsTagged text ∧ Respaced (payloadOf line) (payloadOf text) := by
  obtain ⟨⟨rest, hrest⟩, hword⟩ := htagged
  have hstart := h.trimStart
  rw [← hrest] at hstart hword
  obtain ⟨after, hafter, hsame⟩ := hstart.exists_of_append not_isSpacing_of_mem_tag
  rw [List.drop_left] at hword
  rw [IsTagged, payloadOf, payloadOf, hafter, ← hrest, List.drop_left, List.drop_left]
  refine ⟨⟨List.prefix_append tag after, ?_⟩, hsame.trim⟩
  cases after with
  | nil => rfl
  | cons c later =>
      by_cases hspacing : IsSpacing c
      · simp [isWord_eq_false_of_isSpacing hspacing]
      · obtain ⟨earlier, rfl, -⟩ := hsame.symm.exists_of_cons hspacing
        exact hword

theorem forall₂_payload? (h : Respaced line text) :
    List.Forall₂ Respaced (payload? line).toList (payload? text).toList := by
  rw [payload?_eq, payload?_eq]
  by_cases hline : IsTagged line
  · obtain ⟨htext, hsame⟩ := hline.of_respaced h
    rw [if_pos hline, if_pos htext]
    exact .cons hsame .nil
  · have htext : ¬IsTagged text := fun htext => hline (htext.of_respaced h.symm).1
    rw [if_neg hline, if_neg htext]
    exact .nil

theorem payloadsFrom_append_of_isGap {gap : List Char} (h : IsGap gap) (line cs : List Char) :
    payloadsFrom line (gap ++ cs) = payloadsFrom (gap.reverse ++ line) cs := by
  obtain ⟨-, hspacing⟩ := h
  induction gap generalizing line with
  | nil => rfl
  | cons c gap ih =>
      have hc := isLineBreak_eq_false_of_isSpacing (hspacing c List.mem_cons_self)
      rw [List.cons_append, payloadsFrom_cons_of_not_break hc,
        ih _ (fun d hd => hspacing d (List.mem_cons_of_mem c hd)), List.reverse_cons,
        List.append_assoc]
      rfl

theorem forall₂_payloadsFrom (h : Respaced cs ds) (hline : Respaced line.reverse text.reverse) :
    List.Forall₂ Respaced (payloadsFrom line cs) (payloadsFrom text ds) := by
  induction h generalizing line text with
  | nil =>
      rw [payloadsFrom_nil, payloadsFrom_nil]
      exact forall₂_payload? hline
  | keep c _ ih =>
      cases hc : isLineBreak c with
      | true =>
          rw [payloadsFrom_cons_of_break hc, payloadsFrom_cons_of_break hc]
          exact List.rel_append (forall₂_payload? hline) (ih .nil)
      | false =>
          rw [payloadsFrom_cons_of_not_break hc, payloadsFrom_cons_of_not_break hc]
          apply ih
          rw [List.reverse_cons, List.reverse_cons]
          exact hline.append (.refl [c])
  | gap hbefore hafter _ ih =>
      rw [payloadsFrom_append_of_isGap hbefore, payloadsFrom_append_of_isGap hafter]
      apply ih
      rw [List.reverse_append, List.reverse_append, List.reverse_reverse, List.reverse_reverse]
      exact hline.append (.of_gap hbefore hafter)

/--
A scan gives the payloads of the tagged lines of the text as it was written, whatever its
indentation. Only tabs make a difference: with them each payload may have other gaps, and still
declares the same.
-/
theorem scan_of_tagged_lines (doc : String) :
    scanValue (.text doc) = scan doc ∧
    (∀ c : Callable, c.effectiveDoc = some doc → c.parameterLines = scan doc) ∧
    ('\t' ∉ doc.toList → scan doc = listed (taggedPayloads doc.toList)) ∧
    ∃ scanned, scan doc = listed scanned ∧
      List.Forall₂
        (fun raw found => Respaced raw found ∧
          (ofLine? (.ofList found)).map shape = (ofLine? (.ofList raw)).map shape)
        (taggedPayloads doc.toList) scanned := by
  have hscan : scan doc = listed (payloads (expandTabs doc.toList)) := by
    rw [scan_eq_listed, payloads_clean]
  refine ⟨rfl, fun c hc => ?_, fun htabs => ?_, payloads (expandTabs doc.toList), hscan, ?_⟩
  · rw [Callable.parameterLines, hc, Option.bind_some]
  · rw [hscan, expandTabs_eq_self htabs, payloads_eq_taggedPayloads]
  · have hsame : List.Forall₂ Respaced (payloads doc.toList) (payloads (expandTabs doc.toList)) :=
      forall₂_payloadsFrom (respaced_expandTabs doc.toList) .nil
    rw [← payloads_eq_taggedPayloads]
    exact hsame.imp fun raw found h => ⟨h, (shape_ofLine?_of_respaced h).symm⟩

example :
    scan "Fetch.\n\t@param\t\x7bText\x7d\t[name]\n  @parameter \x7bText\x7d [other]" =
      some ["\x7bText\x7d  [name]"] := by
  decide +kernel

end CallGuard.Docstring
