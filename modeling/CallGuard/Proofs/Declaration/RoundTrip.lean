import CallGuard.Proofs.Declaration.Grammar

/-!
# Declarations and their lines

A declaration is well formed when its tag and all segments of its name are words, its depth counts
the segments, and its description is trimmed and stays on one line. Such a declaration is read back
from its own line, whatever the description holds besides, and every declaration that is read from
any line is well formed.
-/

namespace CallGuard.Declaration

open CallGuard.Text

/-- A word is not empty and made of letters and digits of ASCII. -/
structure IsWord (cs : List Char) : Prop where
  ne_nil : cs ≠ []
  alphanumeric : ∀ c ∈ cs, c.isAlphanum = true

instance : DecidablePred IsWord := fun cs =>
  decidable_of_iff (cs ≠ [] ∧ cs.all Char.isAlphanum = true)
    ⟨fun h => ⟨h.1, List.all_eq_true.mp h.2⟩,
      fun h => ⟨h.ne_nil, List.all_eq_true.mpr h.alphanumeric⟩⟩

/-- The segments of the path of a declaration. -/
def below (d : Declaration) : List (List Char) :=
  match d.path with
  | none => []
  | some path => path.toList.splitOn '.'

structure WellFormed (d : Declaration) : Prop where
  tag : IsWord d.tag.toList
  name : IsWord d.name.toList
  path : ∀ segment ∈ d.below, IsWord segment
  depth : d.depth = 1 + d.below.length
  oneLine : '\n' ∉ d.description.toList
  trimmed : IsTrimmed d.description.toList

variable {d : Declaration} {cs : List Char}

theorem IsWord.not_mem_dot (h : IsWord cs) : '.' ∉ cs := by
  intro hdot
  have halphanumeric := h.alphanumeric '.' hdot
  revert halphanumeric
  decide

theorem toList_dottedName (d : Declaration) :
    d.dottedName.toList = ['.'].intercalate (d.name.toList :: d.below) := by
  rw [dottedName, below]
  cases d.path with
  | none => simp
  | some path =>
      simp only
      rw [List.intercalate_cons_of_ne_nil (List.splitOn_ne_nil '.' path.toList),
        List.intercalate_splitOn]
      simp

theorem toList_line (d : Declaration) :
    d.line.toList = '\x7b' :: d.tag.toList ++ '\x7d' :: [' '] ++ '[' :: d.dottedName.toList ++
      ']' :: ' ' :: d.description.toList := by
  simp [line]

/-- The heading of the line of a declaration. -/
def lineHeading (d : Declaration) : Heading where
  tag := d.tag.toList
  name := d.dottedName.toList
  rest := ' ' :: d.description.toList

namespace WellFormed

theorem segments (h : d.WellFormed) : ∀ segment ∈ d.name.toList :: d.below, IsWord segment := by
  intro segment hsegment
  rcases List.mem_cons.mp hsegment with rfl | hsegment
  · exact h.name
  · exact h.path segment hsegment

theorem splitOn_dottedName (h : d.WellFormed) :
    d.dottedName.toList.splitOn '.' = d.name.toList :: d.below := by
  rw [toList_dottedName]
  apply List.splitOn_intercalate
  · exact fun segment hsegment => (h.segments segment hsegment).not_mem_dot
  · exact List.cons_ne_nil _ _

theorem spells (h : d.WellFormed) : d.lineHeading.Spells [' '] d.line.toList where
  text := d.toList_line
  tag_ne_nil := h.tag.ne_nil
  tag_chars := h.tag.alphanumeric
  gap_ne_nil := List.cons_ne_nil _ _
  gap_blank := by simp [isBlank]
  name_ne_nil := by
    intro hnil
    have hname : d.name.toList = [] := by
      have hsplit := h.splitOn_dottedName
      have hdotted : d.dottedName.toList = [] := hnil
      rw [hdotted, List.splitOn_nil] at hsplit
      exact (List.cons.inj hsplit).1.symm
    exact h.name.ne_nil hname
  name_chars := by
    intro c hc
    rw [lineHeading, toList_dottedName] at hc
    rcases eq_or_mem_of_mem_intercalate hc with hdot | ⟨segment, hsegment, hc⟩
    · exact Or.inr hdot
    · exact Or.inl ((h.segments segment hsegment).alphanumeric c hc)

theorem declared_lineHeading (h : d.WellFormed) :
    d.lineHeading.declared d.name.toList d.below = d := by
  have hpath : (if d.below = [] then none else some (String.ofList (['.'].intercalate d.below))) =
      d.path := by
    rw [below]
    cases d.path with
    | none => rfl
    | some path =>
        simp only
        rw [if_neg (List.splitOn_ne_nil '.' path.toList), List.intercalate_splitOn,
          String.ofList_toList]
  have hdescription : trim ((trimStart (' ' :: d.description.toList)).takeWhile (· != '\n')) =
      d.description.toList := by
    have hstart : trimStart (' ' :: d.description.toList) = d.description.toList := by
      rw [trimStart, List.dropWhile_cons_of_pos (by decide)]
      exact trimStart_eq_self h.trimmed.head
    have hline : d.description.toList.takeWhile (· != '\n') = d.description.toList := by
      rw [List.takeWhile_eq_self_iff]
      intro c hc
      exact bne_iff_ne.mpr fun heq => h.oneLine (heq ▸ hc)
    rw [hstart, hline, trim_eq_self h.trimmed]
  have hdepth : (d.name.toList :: d.below).length = d.depth := by
    rw [h.depth, List.length_cons, Nat.add_comm]
  calc d.lineHeading.declared d.name.toList d.below
      = { tag := .ofList d.tag.toList
          name := .ofList d.name.toList
          path := if d.below = [] then none else some (.ofList (['.'].intercalate d.below))
          description :=
            .ofList (trim ((trimStart (' ' :: d.description.toList)).takeWhile (· != '\n')))
          depth := (d.name.toList :: d.below).length } := rfl
    _ = d := by
      rw [hpath, hdescription, hdepth, String.ofList_toList, String.ofList_toList,
        String.ofList_toList]

theorem ofLine?_line (h : d.WellFormed) : ofLine? d.line = some d := by
  have hheading : heading? d.line.toList = some d.lineHeading :=
    heading?_of_least (i := 0) h.spells (fun j hj => absurd hj (Nat.not_lt_zero j))
  have hfilled : [] ∉ d.name.toList :: d.below :=
    fun hempty => (h.segments [] hempty).ne_nil rfl
  rw [ofLine?, read_of_heading? hheading, ofHeading_of_segments h.splitOn_dottedName hfilled,
    h.declared_lineHeading]

end WellFormed

theorem wellFormed_of_ofLine? {line : String} (h : ofLine? line = some d) : d.WellFormed := by
  obtain ⟨heading, i, gap, root, below, hspells, hsegments, hfilled, rfl⟩ :=
    exists_heading_of_ofLine? h
  have hword : ∀ segment ∈ root :: below, IsWord segment := by
    intro segment hsegment
    refine ⟨fun hnil => hfilled (hnil ▸ hsegment), fun c hc => ?_⟩
    rw [← hsegments, ← pieces_eq_splitOn] at hsegment
    obtain ⟨hname, hdot⟩ := mem_of_mem_pieces hsegment hc
    exact (hspells.name_chars c hname).resolve_right hdot
  have hbelow : (heading.declared root below).below = below := by
    by_cases hnil : below = []
    · simp [Declaration.below, Heading.declared, hnil]
    · have hsplit : (['.'].intercalate below).splitOn '.' = below := by
        apply List.splitOn_intercalate _ _ hnil
        exact fun segment hsegment =>
          (hword segment (List.mem_cons_of_mem root hsegment)).not_mem_dot
      simp [Declaration.below, Heading.declared, hnil, hsplit]
  have hdescription : (heading.declared root below).description.toList =
      descriptionOf heading.rest := String.toList_ofList
  refine ⟨?_, ?_, ?_, ?_, ?_, ?_⟩
  · rw [Heading.declared, String.toList_ofList]
    exact ⟨hspells.tag_ne_nil, hspells.tag_chars⟩
  · rw [Heading.declared, String.toList_ofList]
    exact hword root List.mem_cons_self
  · rw [hbelow]
    exact fun segment hsegment => hword segment (List.mem_cons_of_mem root hsegment)
  · rw [hbelow, Nat.add_comm]
    rfl
  · rw [hdescription]
    intro hnewline
    have hline := List.mem_takeWhile_imp ((trim_sublist _).mem hnewline)
    revert hline
    decide
  · rw [hdescription]
    exact isTrimmed_trim _

/--
A well-formed declaration is read back from its own line. Whatever is read from a line is well
formed, so it is read back from its own line as well.
-/
theorem line_round_trip (d : Declaration) :
    (d.WellFormed → ofLine? d.line = some d) ∧
      ∀ line, ofLine? line = some d → d.WellFormed ∧ ofLine? d.line = some d := by
  refine ⟨WellFormed.ofLine?_line, fun line h => ?_⟩
  have hwell := wellFormed_of_ofLine? h
  exact ⟨hwell, hwell.ofLine?_line⟩

example :
    ofLine? "\x7bText\x7d [a.b] see \x7bText\x7d [c]" =
      some ⟨"Text", "a", some "b", "see \x7bText\x7d [c]", 2⟩ := by
  decide +kernel

end CallGuard.Declaration
