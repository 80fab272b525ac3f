import CallGuard.Proofs.Files.Places

/-!
# Plain spellings

Many paths lead to one place, but only one of them names every directory on the way once and adds
nothing. A path in normal form is spelled in this way if it starts with a single slash. What such a
path leads to can be read off it.
-/

namespace CallGuard.Files

/-- A part of a path that leads on to a node of that name. -/
def IsName (part : String) : Prop :=
  part ≠ "" ∧ part ≠ "." ∧ part ≠ ".."

instance : DecidablePred IsName :=
  fun part => inferInstanceAs (Decidable (part ≠ "" ∧ part ≠ "." ∧ part ≠ ".."))

/-- The plain spelling of a place. -/
def spelled (place : List String) : String :=
  "/".intercalate ("" :: place)

/-- Parts that lead straight on from the root. -/
def IsStraight (all : List String) : Prop :=
  ∃ names, (∀ name ∈ names, IsName name) ∧ all = "" :: names

/-- A path that leads straight on from the root, but for a slash at its end. -/
def IsPlain (path : String) : Prop :=
  ∃ all, IsStraight all ∧ (parts path = all ∨ parts path = all ++ [""])

variable {path workingDirectory : String} {tree : Tree} {start names place : List String}

theorem isStraight_concat_iff {front : List String} {last : String} (hlast : IsName last) :
    IsStraight (front ++ [last]) ↔ IsStraight front := by
  constructor
  · rintro ⟨names, hnames, hsame⟩
    cases front with
    | nil => exact absurd (List.cons.inj hsame).1 hlast.1
    | cons first rest =>
        obtain ⟨rfl, rfl⟩ := List.cons.inj hsame
        exact ⟨rest, fun name hname => hnames name (List.mem_append_left _ hname), rfl⟩
  · rintro ⟨names, hnames, rfl⟩
    refine ⟨names ++ [last], fun name hname => ?_, rfl⟩
    rcases List.mem_append.mp hname with hname | hname
    · exact hnames name hname
    · rwa [List.mem_singleton.mp hname]

/-- A path is spelled plainly when what comes before an empty part at its end is straight. -/
theorem isPlain_iff_of_front {front : List String} (habsolute : isAbsolute path = true)
    (hfront : parts path = front ∧ front.getLast? ≠ some "" ∨ parts path = front ++ [""]) :
    IsPlain path ↔ IsStraight front := by
  constructor
  · rintro ⟨all, hall, hparts⟩
    obtain ⟨names, hnames, rfl⟩ := hall
    have hstraight (hsame : front = "" :: names) : IsStraight front := ⟨names, hnames, hsame⟩
    rcases hfront with ⟨hsame, hlast⟩ | hsame
    · rcases hparts with hparts | hparts
      · exact hstraight (hsame.symm.trans hparts)
      · rw [← hsame, hparts, List.getLast?_concat] at hlast
        exact absurd rfl hlast
    · rcases hparts with hparts | hparts
      · obtain ⟨rest, hrest, hne⟩ := exists_parts_of_isAbsolute habsolute
        obtain rfl : rest = names := (List.cons.inj (hrest.symm.trans hparts)).2
        obtain ⟨init, last, rfl⟩ := (List.eq_nil_or_concat rest).resolve_left hne
        rw [List.concat_eq_append, hsame, ← List.cons_append] at hparts
        obtain ⟨_, hlast⟩ := List.append_inj' hparts rfl
        have hempty : "" ∈ init.concat last := by simp [(List.cons.inj hlast).1]
        exact absurd rfl (hnames "" hempty).1
      · exact hstraight (List.append_inj' (hsame.symm.trans hparts) rfl).1
  · exact fun h => ⟨front, h, hfront.imp_left And.left⟩

theorem eq_spelled_of_parts (h : parts path = "" :: names) : path = spelled names := by
  rw [← intercalate_parts path, h, spelled]

theorem parts_spelled (hplace : ∀ name ∈ place, '/' ∉ name.toList) :
    parts (spelled place) = "" :: place := by
  refine parts_intercalate (List.cons_ne_nil _ _) fun name hname => ?_
  rcases List.mem_cons.mp hname with rfl | hname
  · decide
  · exact hplace name hname

namespace Tree

/-! ### What a path leads to -/

theorem follow_of_isDirectoryAt (h : tree.isDirectoryAt start.reverse = true) (part : String) :
    tree.follow (some start) part =
      if part = "" ∨ part = "." then some start
      else if part = ".." then some (start.drop 1)
      else some (part :: start) := by
  rw [follow, h, if_neg (by simp)]
  simp only [Bool.or_eq_true, decide_eq_true_eq]

theorem follow_cases {part : String} (h : tree.follow (some start) part = some place) :
    place = start ∨ place = start.drop 1 ∨ IsName part ∧ place = part :: start := by
  rw [follow_of_isDirectoryAt (isDirectoryAt_of_follow h)] at h
  split at h
  · cases h
    exact .inl rfl
  · rename_i hstays
    split at h
    · cases h
      exact .inr (.inl rfl)
    · rename_i hup
      cases h
      obtain ⟨hempty, hdot⟩ := not_or.mp hstays
      exact .inr (.inr ⟨⟨hempty, hdot, hup⟩, rfl⟩)

theorem follow_of_isName {part : String} (hpart : IsName part)
    (h : tree.follow (some start) part = some place) : place = part :: start := by
  rw [follow_of_isDirectoryAt (isDirectoryAt_of_follow h),
    if_neg (not_or.mpr ⟨hpart.1, hpart.2.1⟩), if_neg hpart.2.2] at h
  exact (Option.some.inj h).symm

/-- The names of a place are parts of the path to it, unless they are those of its start. -/
theorem mem_of_walk (h : tree.walk start names = some place) {name : String}
    (hname : name ∈ place) : name ∈ start ∨ name ∈ names ∧ IsName name := by
  induction names using List.reverseRecOn generalizing place with
  | nil =>
      cases h
      exact .inl hname
  | append_singleton front part ih =>
      obtain ⟨next, hnext, hfollow⟩ := walk_concat_eq_some_iff.mp h
      have hbefore (hmem : name ∈ next) : name ∈ start ∨ name ∈ front ++ [part] ∧ IsName name :=
        (ih hnext hmem).imp_right fun hfront => ⟨List.mem_append_left _ hfront.1, hfront.2⟩
      obtain rfl | rfl | ⟨hpart, rfl⟩ := follow_cases hfollow
      · exact hbefore hname
      · exact hbefore (List.mem_of_mem_drop hname)
      · rcases List.mem_cons.mp hname with rfl | hname
        · exact .inr ⟨by simp, hpart⟩
        · exact hbefore hname

/-- Names alone lead straight to the place that they name. -/
theorem walk_of_names (hnames : ∀ name ∈ names, IsName name)
    (h : tree.walk start names = some place) : place = names.reverse ++ start := by
  induction names using List.reverseRecOn generalizing place with
  | nil =>
      cases h
      rfl
  | append_singleton front part ih =>
      obtain ⟨next, hnext, hfollow⟩ := walk_concat_eq_some_iff.mp h
      have hfront := ih (fun name hname => hnames name (List.mem_append_left _ hname)) hnext
      rw [follow_of_isName (hnames part (by simp)) hfollow, hfront]
      simp

/-- All nodes on the way to a place, given in reverse, are directories. -/
def IsReached (tree : Tree) (place : List String) : Prop :=
  ∀ above, above <:+ place → above ≠ place → tree.isDirectoryAt above.reverse = true

theorem isReached_of_walk (hstart : tree.IsReached start)
    (h : tree.walk start names = some place) : tree.IsReached place := by
  induction names using List.reverseRecOn generalizing place with
  | nil =>
      cases h
      exact hstart
  | append_singleton front part ih =>
      obtain ⟨next, hnext, hfollow⟩ := walk_concat_eq_some_iff.mp h
      have hreached := ih hnext
      have hat := isDirectoryAt_of_follow hfollow
      have hfrom {above : List String} (habove : above <:+ next) :
          tree.isDirectoryAt above.reverse = true := by
        by_cases hnext : above = next
        · rw [hnext, hat]
        · exact hreached above habove hnext
      obtain rfl | rfl | ⟨_, rfl⟩ := follow_cases hfollow
      · exact hreached
      · exact fun above habove _ => hfrom (habove.trans (List.drop_suffix 1 next))
      · intro above habove hne
        exact hfrom ((List.suffix_cons_iff.mp habove).resolve_left hne)

/-- A part that is no name leads from a directory to a directory. -/
theorem exists_follow_of_not_isName {part : String} (hpart : ¬IsName part)
    (hreached : tree.IsReached start) (hat : tree.isDirectoryAt start.reverse = true) :
    ∃ next, tree.follow (some start) part = some next ∧
      tree.isDirectoryAt next.reverse = true := by
  rw [follow_of_isDirectoryAt hat]
  by_cases hstays : part = "" ∨ part = "."
  · exact ⟨start, if_pos hstays, hat⟩
  · have hup : part = ".." := by
      by_contra hup
      obtain ⟨hempty, hdot⟩ := not_or.mp hstays
      exact hpart ⟨hempty, hdot, hup⟩
    rw [if_neg hstays, if_pos hup]
    refine ⟨start.drop 1, rfl, ?_⟩
    cases start with
    | nil => exact hat
    | cons name rest => exact hreached rest (List.suffix_cons name rest) (by simp)

theorem isReached_startOf (h : isAbsolute path = true) (tree : Tree) (workingDirectory : String) :
    tree.IsReached (startOf workingDirectory path) := by
  rw [startOf, if_pos h]
  exact fun above habove hne => absurd (List.suffix_nil.mp habove) hne

theorem walk_root (tree : Tree) (names : List String) :
    tree.walk [] ("" :: names) = tree.walk [] names := rfl

/-- The names of a place that a path from the root leads to are parts of the path. -/
theorem isName_of_place? (habsolute : isAbsolute path = true)
    (h : tree.place? workingDirectory path = some place) :
    ∀ name ∈ place, name ∈ parts path ∧ IsName name := by
  obtain ⟨_, _, hwalk⟩ := place?_eq_some_iff.mp h
  intro name hname
  rw [startOf, if_pos habsolute] at hwalk
  exact (mem_of_walk hwalk (List.mem_reverse.mpr hname)).resolve_left List.not_mem_nil

theorem place?_eq_of_names (hnames : ∀ name ∈ names, IsName name)
    (hparts : parts path = "" :: names) (hne : names ≠ [])
    (h : tree.place? workingDirectory path = some place) : place = names := by
  obtain ⟨_, _, hwalk⟩ := place?_eq_some_iff.mp h
  rw [startOf, if_pos (isAbsolute_of_parts hparts hne), hparts, walk_root] at hwalk
  have hplace := walk_of_names hnames hwalk
  rwa [List.append_nil, List.reverse_inj] at hplace

/-- A last part that is no name leads to a directory if a longer one leads anywhere. -/
theorem isDirectory_of_not_isName {suffix last : String} {front : List String}
    (habsolute : isAbsolute path = true) (hpath : parts path = front ++ [last])
    (happend : parts (path ++ suffix) = front ++ [last ++ suffix]) (hlast : ¬IsName last)
    (h : tree.place? workingDirectory (path ++ suffix) = some place) :
    tree.isDirectory workingDirectory path = true := by
  have hne : path ≠ "" := by
    rintro rfl
    cases habsolute
  obtain ⟨_, hsize, hwalk⟩ := place?_eq_some_iff.mp h
  have hstart : startOf workingDirectory (path ++ suffix) = startOf workingDirectory path := by
    rw [startOf, startOf, isAbsolute_append hne]
  rw [happend, hstart] at hwalk
  obtain ⟨next, hnext, hfollow⟩ := walk_concat_eq_some_iff.mp hwalk
  have hreached := isReached_of_walk (isReached_startOf habsolute tree workingDirectory) hnext
  obtain ⟨final, hfinal, hat⟩ :=
    exists_follow_of_not_isName hlast hreached (isDirectoryAt_of_follow hfollow)
  refine isDirectory_iff.mpr ⟨final.reverse, place?_eq_some_iff.mpr ⟨hne, ?_, ?_⟩, hat⟩
  · rw [String.utf8ByteSize_append] at hsize
    omega
  · rw [hpath, List.reverse_reverse]
    exact walk_concat_eq_some_iff.mpr ⟨next, hnext, hfinal⟩

/-- A slash at the end of a path leads to no file. -/
theorem getLast?_parts_ne_of_isFile (h : tree.isFile workingDirectory path = true) :
    (parts path).getLast? ≠ some "" := by
  intro hlast
  obtain ⟨front, hfront⟩ := List.getLast?_eq_some_iff.mp hlast
  obtain ⟨place, content, hplace, hnode⟩ := isFile_iff.mp h
  obtain ⟨_, _, hwalk⟩ := place?_eq_some_iff.mp hplace
  rw [hfront] at hwalk
  obtain ⟨next, _, hfollow⟩ := walk_concat_eq_some_iff.mp hwalk
  have hat := isDirectoryAt_of_follow hfollow
  rw [follow_empty hat, Option.some_inj] at hfollow
  rw [hfollow, List.reverse_reverse, isDirectoryAt, hnode] at hat
  cases hat

/-- A path to a place is the plain spelling of the place when all its parts are names. -/
theorem eq_spelled_iff (habsolute : isAbsolute path = true)
    (h : tree.place? workingDirectory path = some place) :
    path = spelled place ↔ IsStraight (parts path) := by
  have hnames := isName_of_place? habsolute h
  constructor
  · intro hpath
    refine ⟨place, fun name hname => (hnames name hname).2, ?_⟩
    rw [hpath]
    exact parts_spelled fun name hname => slash_not_mem_of_mem_parts (hnames name hname).1
  · rintro ⟨names, hall, hparts⟩
    obtain ⟨rest, hrest, hne⟩ := exists_parts_of_isAbsolute habsolute
    have hsame : rest = names := (List.cons.inj (hrest.symm.trans hparts)).2
    rw [eq_spelled_of_parts hparts, place?_eq_of_names hall hparts (hsame ▸ hne) h]

end Tree

/-! ### Normal forms -/

theorem normalStep_of_names {kept : List String} (h : ∀ name ∈ kept, IsName name)
    (part : String) :
    normalStep true kept part =
      if part = "" ∨ part = "." then kept
      else if part = ".." then kept.drop 1
      else part :: kept := by
  unfold normalStep
  simp only [Bool.or_eq_true, decide_eq_true_eq, if_true]
  cases kept with
  | nil => rfl
  | cons last before =>
      simp only [(h last List.mem_cons_self).2.2, if_false, List.drop_succ_cons, List.drop_zero]

theorem isName_of_foldl_normalStep (all : List String) (kept : List String)
    (hkept : ∀ name ∈ kept, IsName name ∧ '/' ∉ name.toList)
    (hall : ∀ part ∈ all, '/' ∉ part.toList) :
    ∀ name ∈ all.foldl (normalStep true) kept, IsName name ∧ '/' ∉ name.toList := by
  induction all generalizing kept with
  | nil => exact hkept
  | cons part rest ih =>
      refine ih _ ?_ fun later hlater => hall later (List.mem_cons_of_mem part hlater)
      rw [normalStep_of_names fun name hname => (hkept name hname).1]
      split
      · exact hkept
      · rename_i hstays
        split
        · exact fun name hname => hkept name (List.mem_of_mem_drop hname)
        · rename_i hup
          obtain ⟨hempty, hdot⟩ := not_or.mp hstays
          intro name hname
          rcases List.mem_cons.mp hname with rfl | hname
          · exact ⟨⟨hempty, hdot, hup⟩, hall name List.mem_cons_self⟩
          · exact hkept name hname

theorem leadingSlashes_of_isAbsolute (h : isAbsolute path = true) :
    leadingSlashes path = "/" ∨ leadingSlashes path = "//" := by
  rw [isAbsolute, decide_eq_true_eq] at h
  rw [leadingSlashes]
  split
  · exact .inl rfl
  · exact .inr rfl
  · exact .inl rfl
  · rename_i hother
    obtain ⟨rest, hrest⟩ := List.head?_eq_some_iff.mp h
    exact absurd hrest (hother rest)

theorem normal_of_isAbsolute (h : isAbsolute path = true) :
    normal path =
      leadingSlashes path ++ "/".intercalate ((parts path).foldl (normalStep true) []).reverse := by
  have hlead : leadingSlashes path ≠ "" := by
    rcases leadingSlashes_of_isAbsolute h with hlead | hlead <;> rw [hlead] <;> decide
  rw [normal, decide_eq_true hlead]
  refine if_neg ?_
  rw [String.isEmpty_iff, String.append_eq_empty_iff]
  exact fun hempty => hlead hempty.1

theorem isAbsolute_normal (h : isAbsolute path = true) : isAbsolute (normal path) = true := by
  rw [normal_of_isAbsolute h]
  rcases leadingSlashes_of_isAbsolute h with hlead | hlead <;> rw [hlead] <;>
    exact isAbsolute_append (by decide) _

theorem parts_slash_append (rest : String) : parts ("/" ++ rest) = "" :: parts rest := by
  have happend := parts_append_slash "" rest
  rwa [String.empty_append] at happend

/-- Two slashes at the front are not straight: nothing has a name between them. -/
theorem not_isPlain_of_parts {first : String} {rest : List String}
    (h : parts path = "" :: "" :: first :: rest) : ¬IsPlain path := by
  rintro ⟨_, ⟨names, hnames, rfl⟩, hplain | hplain⟩
  · rw [h, List.cons.injEq] at hplain
    exact (hnames "" (hplain.2 ▸ List.mem_cons_self)).1 rfl
  · rw [h, List.cons_append, List.cons.injEq] at hplain
    cases names with
    | nil => exact absurd hplain.2 (by simp)
    | cons name others =>
        obtain ⟨hname, _⟩ := List.cons.inj hplain.2
        exact (hnames name List.mem_cons_self).1 hname.symm

/-- A normal form from the root is spelled plainly unless it starts with two slashes. -/
theorem isPlain_normal_iff (h : isAbsolute path = true) :
    IsPlain (normal path) ↔ leadingSlashes path = "/" := by
  have hkept := isName_of_foldl_normalStep (parts path) [] nofun
    fun part hpart => slash_not_mem_of_mem_parts hpart
  rw [normal_of_isAbsolute h]
  generalize hnames : ((parts path).foldl (normalStep true) []).reverse = names
  have hname : ∀ name ∈ names, IsName name ∧ '/' ∉ name.toList := by
    rw [← hnames]
    exact fun name hname => hkept name (List.mem_reverse.mp hname)
  rcases leadingSlashes_of_isAbsolute h with hlead | hlead
  · refine iff_of_true ?_ hlead
    rw [hlead]
    refine ⟨"" :: names, ⟨names, fun name hmem => (hname name hmem).1, rfl⟩, ?_⟩
    rw [parts_slash_append]
    cases names with
    | nil => exact .inr rfl
    | cons first rest =>
        rw [parts_intercalate (List.cons_ne_nil first rest) fun name hmem => (hname name hmem).2]
        exact .inl rfl
  · rw [hlead]
    refine iff_of_false ?_ (by decide)
    obtain ⟨first, rest, hparts⟩ := List.exists_cons_of_ne_nil
      (parts_ne_nil ("/".intercalate names))
    apply not_isPlain_of_parts
    rw [← hparts, ← parts_slash_append, ← parts_slash_append, ← String.append_assoc]
    rfl

end CallGuard.Files
