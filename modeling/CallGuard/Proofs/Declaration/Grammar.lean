import CallGuard.Declaration.Reading
import CallGuard.Gate.Operations
import CallGuard.Proofs.Text.Cutting

/-!
# The grammar of declarations

A heading is spelled out by a tag in braces, blanks, and a name in brackets. Reading a line finds
the leftmost place where a heading starts, and what stands there settles the declaration.
-/

namespace CallGuard.Declaration

open CallGuard.Text

/-- A text starts with a heading, whose tag and name a gap of blanks keeps apart. -/
structure Heading.Spells (heading : Heading) (gap cs : List Char) : Prop where
  text : cs = '\x7b' :: heading.tag ++ '\x7d' :: gap ++ '[' :: heading.name ++ ']' :: heading.rest
  tag_ne_nil : heading.tag ≠ []
  tag_chars : ∀ c ∈ heading.tag, c.isAlphanum = true
  gap_ne_nil : gap ≠ []
  gap_blank : ∀ c ∈ gap, isBlank c = true
  name_ne_nil : heading.name ≠ []
  name_chars : ∀ c ∈ heading.name, c.isAlphanum = true ∨ c = '.'

/-- A place of a text where a heading starts. -/
def StartsAt (cs : List Char) (i : Nat) : Prop :=
  ∃ heading : Heading, ∃ gap, heading.Spells gap (cs.drop i)

variable {heading other : Heading} {gap blanks cs : List Char} {i : Nat}

theorem isNameChar_iff {c : Char} : isNameChar c = true ↔ c.isAlphanum = true ∨ c = '.' := by
  simp [isNameChar]

theorem headingAt?_of_spells (h : heading.Spells gap cs) : headingAt? cs = some heading := by
  obtain ⟨tag, name, rest⟩ := heading
  have htext : cs = '\x7b' :: (tag ++ '\x7d' :: (gap ++ '[' :: (name ++ ']' :: rest))) := by
    simpa using h.text
  have htag : tag.isEmpty = false := by simpa using h.tag_ne_nil
  have hname : name.isEmpty = false := by simpa using h.name_ne_nil
  have hnameChars : ∀ c ∈ name, isNameChar c = true :=
    fun c hc => isNameChar_iff.mpr (h.name_chars c hc)
  obtain ⟨blank, blanks, hgap⟩ := List.exists_cons_of_ne_nil h.gap_ne_nil
  rw [htext, headingAt?]
  simp only
  rw [takeWhile_of_stop (p := isTagChar) h.tag_chars (by decide),
    dropWhile_of_stop (p := isTagChar) h.tag_chars (by decide)]
  simp only
  rw [takeWhile_of_stop h.gap_blank (by decide), dropWhile_of_stop h.gap_blank (by decide), hgap]
  simp only
  rw [takeWhile_of_stop hnameChars (by decide), dropWhile_of_stop hnameChars (by decide)]
  simp only [htag, hname, Bool.or_self, Bool.false_eq_true, if_false]

theorem exists_spells_of_headingAt? (h : headingAt? cs = some heading) :
    ∃ gap, heading.Spells gap cs := by
  have hspan {p : Char → Bool} {front rest : List Char} (hrest : front.dropWhile p = rest) :
      front.takeWhile p ++ rest = front := by
    rw [← hrest, List.takeWhile_append_dropWhile]
  unfold headingAt? at h
  split at h
  · rename_i cs
    split at h
    · rename_i gap hgap
      split at h
      · rename_i blank blanks after hblanks hafter
        simp only at h
        split at h
        · rename_i rest hrest
          split at h
          · cases h
          · rename_i hfilled
            cases h
            simp only [Bool.or_eq_true, List.isEmpty_iff, not_or] at hfilled
            refine ⟨gap.takeWhile isBlank, ?_, hfilled.1, ?_, ?_, ?_, hfilled.2, ?_⟩
            · simp only [List.cons_append, List.append_assoc]
              rw [hspan hrest, hspan hafter, hspan hgap]
            · exact fun c hc => List.mem_takeWhile_imp hc
            · rw [hblanks]
              exact List.cons_ne_nil blank blanks
            · exact fun c hc => List.mem_takeWhile_imp hc
            · exact fun c hc => isNameChar_iff.mp (List.mem_takeWhile_imp hc)
        · cases h
      · cases h
    · cases h
  · cases h

theorem headingAt?_eq_some_iff : headingAt? cs = some heading ↔ ∃ gap, heading.Spells gap cs :=
  ⟨exists_spells_of_headingAt?, fun ⟨_, h⟩ => headingAt?_of_spells h⟩

/-- What a text starts with is spelled out in one way only. -/
theorem Heading.Spells.unique (h : heading.Spells gap cs) (hother : other.Spells blanks cs) :
    other = heading ∧ blanks = gap := by
  have hsame := (headingAt?_of_spells hother).symm.trans (headingAt?_of_spells h)
  cases hsame
  refine ⟨rfl, ?_⟩
  have htexts := hother.text.symm.trans h.text
  simpa using htexts

/-! ### The leftmost heading -/

theorem startsAt_zero_iff : StartsAt cs 0 ↔ headingAt? cs ≠ none := by
  rw [Option.ne_none_iff_exists']
  exact exists_congr fun _ => headingAt?_eq_some_iff.symm

theorem not_startsAt_nil : ¬StartsAt [] i := by
  rintro ⟨heading, gap, h⟩
  simpa using h.text

theorem heading?_eq_none_iff : heading? cs = none ↔ ∀ i, ¬StartsAt cs i := by
  induction cs with
  | nil => exact ⟨fun _ _ => not_startsAt_nil, fun _ => rfl⟩
  | cons c cs ih =>
      rw [heading?, Option.or_eq_none_iff, ih]
      constructor
      · rintro ⟨hhere, hlater⟩ i
        cases i with
        | zero => exact fun hstarts => startsAt_zero_iff.mp hstarts hhere
        | succ i => exact hlater i
      · intro h
        exact ⟨not_not.mp fun hhere => h 0 (startsAt_zero_iff.mpr hhere), fun i => h (i + 1)⟩

/-- The search comes to the heading at the least place where one starts. -/
theorem heading?_of_least (h : heading.Spells gap (cs.drop i)) (hleast : ∀ j < i, ¬StartsAt cs j) :
    heading? cs = some heading := by
  induction i generalizing cs with
  | zero =>
      have hhere : headingAt? cs = some heading := headingAt?_of_spells h
      cases cs with
      | nil => cases hhere
      | cons c cs => rw [heading?, hhere, Option.some_or]
  | succ i ih =>
      cases cs with
      | nil => exact absurd ⟨heading, gap, h⟩ not_startsAt_nil
      | cons c cs =>
          have hhere : headingAt? (c :: cs) = none :=
            not_not.mp fun hstarts => hleast 0 (Nat.succ_pos i) (startsAt_zero_iff.mpr hstarts)
          rw [heading?, hhere, Option.none_or]
          exact ih h fun j hj => hleast (j + 1) (Nat.succ_lt_succ hj)

theorem exists_spells_of_heading? (h : heading? cs = some heading) :
    ∃ i gap, heading.Spells gap (cs.drop i) := by
  induction cs with
  | nil => cases h
  | cons c cs ih =>
      rcases Option.or_eq_some_iff.mp h with hhere | ⟨_, hlater⟩
      · exact ⟨0, exists_spells_of_headingAt? hhere⟩
      · obtain ⟨i, gap, hspells⟩ := ih hlater
        exact ⟨i + 1, gap, hspells⟩

/-! ### From headings to declarations -/

/-- What a heading declares, by the segments of its name and the text up to the end of its line. -/
def Heading.declared (heading : Heading) (root : List Char) (below : List (List Char)) :
    Declaration where
  tag := .ofList heading.tag
  name := .ofList root
  path := if below = [] then none else some (.ofList (['.'].intercalate below))
  description :=
    .ofList ((((heading.rest.dropWhile isBlank).takeWhile (· != '\n')).dropWhile
      isBlank).rdropWhile isBlank)
  depth := (root :: below).length

variable {root : List Char} {below : List (List Char)} {line : String} {d : Declaration}

theorem any_isEmpty_iff {segments : List (List Char)} :
    segments.any List.isEmpty = true ↔ [] ∈ segments := by
  rw [List.any_eq_true]
  constructor
  · rintro ⟨segment, hsegment, hempty⟩
    rwa [List.isEmpty_iff.mp hempty] at hsegment
  · exact fun h => ⟨[], h, rfl⟩

theorem ofHeading_of_empty (h : [] ∈ heading.name.splitOn '.') :
    ofHeading heading = .emptySegment := by
  rw [ofHeading, pieces_eq_splitOn]
  cases hsegments : heading.name.splitOn '.' with
  | nil => rfl
  | cons root below =>
      rw [hsegments] at h
      exact if_pos (any_isEmpty_iff.mpr h)

theorem ofHeading_of_segments (hsegments : heading.name.splitOn '.' = root :: below)
    (hfilled : [] ∉ root :: below) :
    ofHeading heading = .declaration (heading.declared root below) := by
  have hempty : ¬(root.isEmpty || below.any List.isEmpty) = true :=
    fun hany => hfilled (any_isEmpty_iff.mp hany)
  rw [ofHeading, pieces_eq_splitOn, hsegments]
  simp only
  rw [if_neg hempty, joinPieces_eq_intercalate]
  simp only [List.isEmpty_iff]
  rfl

theorem read_of_heading? (h : heading? line.toList = some heading) :
    read line = ofHeading heading := by
  rw [read, h]

/-- A declaration on a line comes from a heading there, whose name has no empty segment. -/
theorem exists_heading_of_ofLine? (h : ofLine? line = some d) :
    ∃ heading : Heading, ∃ i gap root below, heading.Spells gap (line.toList.drop i) ∧
      heading.name.splitOn '.' = root :: below ∧ [] ∉ root :: below ∧
      d = heading.declared root below := by
  cases hheading : heading? line.toList with
  | none =>
      rw [ofLine?, read, hheading] at h
      cases h
  | some heading =>
      obtain ⟨i, gap, hspells⟩ := exists_spells_of_heading? hheading
      obtain ⟨root, below, hsegments⟩ :=
        List.exists_cons_of_ne_nil (List.splitOn_ne_nil '.' heading.name)
      rw [ofLine?, read_of_heading? hheading] at h
      by_cases hempty : [] ∈ heading.name.splitOn '.'
      · rw [ofHeading_of_empty hempty] at h
        cases h
      · rw [hsegments] at hempty
        rw [ofHeading_of_segments hsegments hempty] at h
        cases h
        exact ⟨heading, i, gap, root, below, hspells, hsegments, hempty, rfl⟩

theorem ofList_ne_empty {cs : List Char} (h : cs ≠ []) : String.ofList cs ≠ "" :=
  fun heq => h (String.ofList_injective heq)

variable [Platform]

/-- Reading never fails, and what it logs does not change what is read. -/
theorem fst_on_readLogged (line : String) (session : Session) :
    ((readLogged (.text line)).on session).1 = .ok (ofLine? line) := by
  rw [readLogged, ofLine?, Entry.ofValue]
  cases read line with
  | declaration d => rfl
  | noHeading => rfl
  | emptySegment => rfl

/--
What a line declares is settled by the least place where a heading starts on it. Without one the
line holds nothing, and neither does it when the name there has an empty segment. Otherwise the line
holds the declaration of that heading, which meets all the bounds of a declaration.
-/
theorem ofLine?_of_least_start (line : String) :
    (∀ session, ((readLogged (.text line)).on session).1 = .ok (ofLine? line)) ∧
    ((∀ i, ¬StartsAt line.toList i) → ofLine? line = none) ∧
    (∀ i, ∀ heading : Heading, ∀ gap, heading.Spells gap (line.toList.drop i) →
      (∀ j < i, ¬StartsAt line.toList j) →
        (∀ other : Heading, ∀ blanks, other.Spells blanks (line.toList.drop i) →
          other = heading ∧ blanks = gap) ∧
        ([] ∈ heading.name.splitOn '.' → ofLine? line = none) ∧
        ∀ root below, heading.name.splitOn '.' = root :: below → [] ∉ root :: below →
          ofLine? line = some (heading.declared root below)) ∧
    ∀ d, ofLine? line = some d → d.tag ≠ "" ∧ d.name ≠ "" ∧ 1 ≤ d.depth := by
  refine ⟨fst_on_readLogged line, fun hnone => ?_, fun i heading gap hspells hleast => ?_,
    fun d hd => ?_⟩
  · rw [ofLine?, read, heading?_eq_none_iff.mpr hnone]
  · have hheading := heading?_of_least hspells hleast
    refine ⟨fun other blanks hother => hspells.unique hother, fun hempty => ?_,
      fun root below hsegments hfilled => ?_⟩
    · rw [ofLine?, read_of_heading? hheading, ofHeading_of_empty hempty]
    · rw [ofLine?, read_of_heading? hheading, ofHeading_of_segments hsegments hfilled]
  · obtain ⟨heading, i, gap, root, below, hspells, _, hfilled, rfl⟩ := exists_heading_of_ofLine? hd
    have hroot : root ≠ [] := fun hnil => hfilled (by rw [hnil]; exact List.mem_cons_self)
    exact ⟨ofList_ne_empty hspells.tag_ne_nil, ofList_ne_empty hroot, Nat.succ_pos _⟩

example : ofLine? "\x7bText\x7d [a..b] \x7bText\x7d [c]" = none := by
  decide +kernel

end CallGuard.Declaration
