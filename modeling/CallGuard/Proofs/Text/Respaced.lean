import CallGuard.Proofs.Text.Cutting
import Mathlib.Data.List.Forall2

/-!
# Texts with other gaps

Two texts differ only in their gaps when each run of spaces and tabs in one stands where a run of
spaces and tabs stands in the other. Everything that is not such a gap is the same in both.
-/

namespace CallGuard.Text

def IsSpacing (c : Char) : Prop :=
  c = ' ' ∨ c = '\t'

/-- A run of spaces and tabs. -/
structure IsGap (cs : List Char) : Prop where
  ne_nil : cs ≠ []
  spacing : ∀ c ∈ cs, IsSpacing c

inductive Respaced : List Char → List Char → Prop
  | nil : Respaced [] []
  | keep (c : Char) {cs ds : List Char} (h : Respaced cs ds) : Respaced (c :: cs) (c :: ds)
  | gap {before after cs ds : List Char} (hbefore : IsGap before) (hafter : IsGap after)
      (h : Respaced cs ds) : Respaced (before ++ cs) (after ++ ds)

theorem IsSpacing.isBlank {c : Char} (h : IsSpacing c) : isBlank c = true := by
  rcases h with rfl | rfl <;> rfl

theorem IsGap.isBlank {cs : List Char} (h : IsGap cs) : ∀ c ∈ cs, isBlank c = true :=
  fun c hc => (h.spacing c hc).isBlank

theorem IsGap.reverse {cs : List Char} (h : IsGap cs) : IsGap cs.reverse where
  ne_nil := by simpa using h.ne_nil
  spacing := by simpa using h.spacing

namespace Respaced

variable {c : Char} {front cs ds before after : List Char}

theorem refl (cs : List Char) : Respaced cs cs := by
  induction cs with
  | nil => exact nil
  | cons c cs ih => exact keep c ih

theorem symm (h : Respaced cs ds) : Respaced ds cs := by
  induction h with
  | nil => exact nil
  | keep c _ ih => exact keep c ih
  | gap hbefore hafter _ ih => exact gap hafter hbefore ih

theorem append (hfront : Respaced before after) (h : Respaced cs ds) :
    Respaced (before ++ cs) (after ++ ds) := by
  induction hfront with
  | nil => exact h
  | keep c _ ih => exact keep c ih
  | gap hbefore hafter _ ih =>
      rw [List.append_assoc, List.append_assoc]
      exact gap hbefore hafter ih

theorem of_gap (hbefore : IsGap before) (hafter : IsGap after) : Respaced before after := by
  simpa using gap hbefore hafter nil

theorem reverse (h : Respaced cs ds) : Respaced cs.reverse ds.reverse := by
  induction h with
  | nil => exact nil
  | keep c _ ih =>
      rw [List.reverse_cons, List.reverse_cons]
      exact ih.append (refl [c])
  | gap hbefore hafter _ ih =>
      rw [List.reverse_append, List.reverse_append]
      exact ih.append (of_gap hbefore.reverse hafter.reverse)

/-- A character outside the gaps has its counterpart. -/
theorem exists_of_cons (h : Respaced (c :: cs) ds) (hc : ¬IsSpacing c) :
    ∃ rest, ds = c :: rest ∧ Respaced cs rest := by
  generalize hfull : c :: cs = full at h
  cases h with
  | nil => cases hfull
  | keep d h =>
      cases hfull
      exact ⟨_, rfl, h⟩
  | gap hbefore hafter h =>
      obtain ⟨d, before, rfl⟩ := List.exists_cons_of_ne_nil hbefore.ne_nil
      cases hfull
      exact absurd (hbefore.spacing c List.mem_cons_self) hc

theorem exists_of_append (h : Respaced (front ++ cs) ds) (hfront : ∀ c ∈ front, ¬IsSpacing c) :
    ∃ rest, ds = front ++ rest ∧ Respaced cs rest := by
  induction front generalizing ds with
  | nil => exact ⟨ds, rfl, h⟩
  | cons c front ih =>
      obtain ⟨later, rfl, hlater⟩ := h.exists_of_cons (hfront c List.mem_cons_self)
      obtain ⟨rest, rfl, hrest⟩ := ih hlater fun d hd => hfront d (List.mem_cons_of_mem c hd)
      exact ⟨rest, rfl, hrest⟩

theorem trimStart (h : Respaced cs ds) : Respaced (Text.trimStart cs) (Text.trimStart ds) := by
  induction h with
  | nil => exact nil
  | keep c h ih =>
      cases hc : Text.isBlank c with
      | true =>
          rw [Text.trimStart, Text.trimStart, List.dropWhile_cons_of_pos hc,
            List.dropWhile_cons_of_pos hc]
          exact ih
      | false =>
          rw [Text.trimStart, Text.trimStart, List.dropWhile_cons_of_neg (by simp [hc]),
            List.dropWhile_cons_of_neg (by simp [hc])]
          exact keep c h
  | gap hbefore hafter _ ih =>
      rw [Text.trimStart, Text.trimStart, List.dropWhile_append_of_pos hbefore.isBlank,
        List.dropWhile_append_of_pos hafter.isBlank]
      exact ih

/-- A run of blanks has a run of blanks as its counterpart, though maybe of another length. -/
theorem exists_of_blanks (h : Respaced (front ++ c :: cs) ds)
    (hfront : ∀ d ∈ front, Text.isBlank d = true) (hnil : front ≠ [])
    (hc : Text.isBlank c = false) :
    ∃ blanks rest, blanks ≠ [] ∧ (∀ d ∈ blanks, Text.isBlank d = true) ∧
      ds = blanks ++ c :: rest ∧ Respaced cs rest := by
  have hspacing : ¬IsSpacing c := by
    intro hspacing
    rw [hspacing.isBlank] at hc
    cases hc
  have hstart : Text.trimStart (front ++ c :: cs) = c :: cs := dropWhile_of_stop hfront hc
  have hlater := h.trimStart
  rw [hstart] at hlater
  obtain ⟨rest, hrest, hsame⟩ := hlater.exists_of_cons hspacing
  have hspan : ds.takeWhile Text.isBlank ++ c :: rest = ds := by
    rw [← hrest]
    exact List.takeWhile_append_dropWhile
  refine ⟨ds.takeWhile Text.isBlank, rest, ?_, fun d hd => List.mem_takeWhile_imp hd, hspan.symm,
    hsame⟩
  intro hnone
  rw [hnone, List.nil_append] at hspan
  rw [← hspan] at h
  obtain ⟨earlier, hearlier, -⟩ := h.symm.exists_of_cons hspacing
  obtain ⟨blank, blanks, rfl⟩ := List.exists_cons_of_ne_nil hnil
  have hblank := hfront blank List.mem_cons_self
  rw [List.cons_append, List.cons.injEq] at hearlier
  rw [hearlier.1, hc] at hblank
  cases hblank

theorem trim (h : Respaced cs ds) : Respaced (Text.trim cs) (Text.trim ds) :=
  h.trimStart.reverse.trimStart.reverse

end Respaced

end CallGuard.Text
