import CallGuard.Proofs.Declaration.Grammar
import CallGuard.Proofs.Text.Respaced

/-!
# Gaps do not count in headings

Lines that differ only in their gaps declare the same, but for the description: a heading has a gap
only between its tag and its name, and there any gap will do.
-/

namespace CallGuard.Declaration

open CallGuard.Text

/-- All of a declaration but its description. -/
def shape (d : Declaration) : String × String × Option String × Nat :=
  (d.tag, d.name, d.path, d.depth)

def Heading.words (heading : Heading) : List Char × List Char :=
  (heading.tag, heading.name)

variable {heading : Heading} {c : Char} {gap front cs ds : List Char}

theorem not_isSpacing_of_isAlphanum (h : c.isAlphanum = true) : ¬IsSpacing c := by
  rintro (rfl | rfl)
  · exact absurd h (by decide)
  · exact absurd h (by decide)

theorem not_isSpacing_of_isName (h : c.isAlphanum = true ∨ c = '.') : ¬IsSpacing c := by
  rcases h with h | rfl
  · exact not_isSpacing_of_isAlphanum h
  · rintro (h | h)
    · cases h
    · cases h

theorem not_isSpacing_of_mem_enclosed {opening closing : Char} {word : List Char}
    (hopening : ¬IsSpacing opening) (hclosing : ¬IsSpacing closing)
    (hword : ∀ c ∈ word, ¬IsSpacing c) : ∀ c ∈ opening :: word ++ [closing], ¬IsSpacing c := by
  intro c hc
  rcases List.mem_append.mp hc with hc | hc
  · rcases List.mem_cons.mp hc with rfl | hc
    · exact hopening
    · exact hword c hc
  · rw [List.mem_singleton.mp hc]
    exact hclosing

theorem Heading.Spells.of_respaced (h : heading.Spells gap cs) (hsame : Respaced cs ds) :
    ∃ other : Heading, ∃ blanks, other.Spells blanks ds ∧ other.words = heading.words := by
  obtain ⟨tag, name, rest⟩ := heading
  obtain ⟨htext, htagNil, htagChars, hgapNil, hgapBlank, hnameNil, hnameChars⟩ := h
  simp only at htext htagNil htagChars hnameNil hnameChars
  have htagText : ∀ d ∈ '\x7b' :: tag ++ ['\x7d'], ¬IsSpacing d :=
    not_isSpacing_of_mem_enclosed (by simp [IsSpacing]) (by simp [IsSpacing])
      fun d hd => not_isSpacing_of_isAlphanum (htagChars d hd)
  have hnameText : ∀ d ∈ '[' :: name ++ [']'], ¬IsSpacing d :=
    not_isSpacing_of_mem_enclosed (by simp [IsSpacing]) (by simp [IsSpacing])
      fun d hd => not_isSpacing_of_isName (hnameChars d hd)
  have hparts : cs = ('\x7b' :: tag ++ ['\x7d']) ++ (gap ++ '[' :: ((name ++ [']']) ++ rest)) := by
    simpa using htext
  subst hparts
  obtain ⟨later, rfl, hlater⟩ := hsame.exists_of_append htagText
  obtain ⟨blanks, bracket, hblanksNil, hblanks, rfl, hbracket⟩ :=
    hlater.exists_of_blanks hgapBlank hgapNil (by decide)
  obtain ⟨after, rfl, -⟩ :=
    hbracket.exists_of_append fun d hd => hnameText d (List.mem_cons_of_mem '[' hd)
  exact ⟨⟨tag, name, after⟩, blanks,
    ⟨by simp, htagNil, htagChars, hblanksNil, hblanks, hnameNil, hnameChars⟩, rfl⟩

theorem words_headingAt? (h : Respaced cs ds) :
    (headingAt? cs).map Heading.words = (headingAt? ds).map Heading.words := by
  have hspelled {cs ds : List Char} (h : Respaced cs ds) {heading : Heading}
      (hheading : headingAt? cs = some heading) :
      (headingAt? ds).map Heading.words = some heading.words := by
    obtain ⟨gap, hspells⟩ := exists_spells_of_headingAt? hheading
    obtain ⟨other, blanks, hother, hwords⟩ := hspells.of_respaced h
    rw [headingAt?_of_spells hother, Option.map_some, hwords]
  cases hcs : headingAt? cs with
  | some heading => exact (hspelled h hcs).symm
  | none =>
      cases hds : headingAt? ds with
      | none => rfl
      | some other =>
          have hback := hspelled h.symm hds
          rw [hcs] at hback
          cases hback

theorem heading?_append_of_isGap (h : IsGap front) (cs : List Char) :
    heading? (front ++ cs) = heading? cs := by
  obtain ⟨-, hspacing⟩ := h
  induction front with
  | nil => rfl
  | cons c front ih =>
      have hhere : headingAt? (c :: (front ++ cs)) = none := by
        rcases hspacing c List.mem_cons_self with rfl | rfl
        · rfl
        · rfl
      rw [List.cons_append, heading?, hhere, Option.none_or]
      exact ih fun d hd => hspacing d (List.mem_cons_of_mem c hd)

theorem words_heading? (h : Respaced cs ds) :
    (heading? cs).map Heading.words = (heading? ds).map Heading.words := by
  induction h with
  | nil => rfl
  | keep c h ih =>
      rw [heading?, heading?, Option.map_or, Option.map_or, words_headingAt? (h.keep c), ih]
  | gap hbefore hafter _ ih =>
      rw [heading?_append_of_isGap hbefore, heading?_append_of_isGap hafter, ih]

/-- The words of the heading settle all of a declaration but its description. -/
theorem shape_ofLine?_of_words {line text : String}
    (h : (heading? line.toList).map Heading.words = (heading? text.toList).map Heading.words) :
    (ofLine? line).map shape = (ofLine? text).map shape := by
  cases hline : heading? line.toList with
  | none =>
      rw [hline] at h
      have htext := Option.map_eq_none_iff.mp h.symm
      rw [ofLine?, ofLine?, read, read, hline, htext]
  | some heading =>
      rw [hline] at h
      obtain ⟨other, hother, hwords⟩ := Option.map_eq_some_iff.mp h.symm
      obtain ⟨htag, hname⟩ := Prod.ext_iff.mp hwords
      simp only [Heading.words] at htag hname
      rw [ofLine?, ofLine?, read_of_heading? hline, read_of_heading? hother]
      obtain ⟨root, below, hsegments⟩ :=
        List.exists_cons_of_ne_nil (List.splitOn_ne_nil '.' heading.name)
      by_cases hempty : [] ∈ heading.name.splitOn '.'
      · rw [ofHeading_of_empty hempty, ofHeading_of_empty (hname ▸ hempty)]
      · rw [hsegments] at hempty
        rw [ofHeading_of_segments hsegments hempty,
          ofHeading_of_segments (hname ▸ hsegments) hempty]
        simp only [Option.map_some, shape, Heading.declared, htag]

theorem shape_ofLine?_of_respaced (h : Respaced cs ds) :
    (ofLine? (.ofList cs)).map shape = (ofLine? (.ofList ds)).map shape := by
  apply shape_ofLine?_of_words
  rw [String.toList_ofList, String.toList_ofList]
  exact words_heading? h

end CallGuard.Declaration
