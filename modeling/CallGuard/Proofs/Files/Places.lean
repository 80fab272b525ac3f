import CallGuard.Files.Tree
import CallGuard.Proofs.Text.Cutting

/-!
# Where paths lead

A path is followed part by part. What it leads to is a place, the list of the names of all
directories on the way and of the last node, and different paths can lead to the same place. Adding
a name to a path leads on only from a directory.
-/

namespace CallGuard.Files

open CallGuard.Text

variable {path directory name suffix workingDirectory : String} {tree : Tree}
  {start place : List String}

/-! ### The parts of a path -/

theorem parts_eq_splitOn (path : String) :
    parts path = (path.toList.splitOn '/').map String.ofList := by
  rw [parts, pieces_eq_splitOn]

theorem intercalate_parts (path : String) : "/".intercalate (parts path) = path := by
  apply String.toList_injective
  rw [String.toList_intercalate, parts_eq_splitOn, List.map_map]
  have hsame : String.toList ∘ String.ofList = id := funext fun _ => String.toList_ofList
  rw [hsame, List.map_id]
  exact List.intercalate_splitOn '/'

theorem parts_intercalate {names : List String} (hnames : names ≠ [])
    (hslash : ∀ name ∈ names, '/' ∉ name.toList) : parts ("/".intercalate names) = names := by
  rw [parts, String.toList_intercalate]
  exact map_pieces_intercalate hnames hslash

theorem parts_ne_nil (path : String) : parts path ≠ [] := by
  rw [parts, Ne, List.map_eq_nil_iff]
  exact pieces_ne_nil '/' _

theorem slash_not_mem_of_mem_parts (h : name ∈ parts path) : '/' ∉ name.toList := by
  obtain ⟨piece, hpiece, rfl⟩ := List.mem_map.mp h
  rw [String.toList_ofList]
  exact fun hslash => (mem_of_mem_pieces hpiece hslash).2 rfl

theorem parts_of_not_mem (h : '/' ∉ name.toList) : parts name = [name] := by
  rw [parts_eq_splitOn, List.splitOn_eq_singleton h, List.map_singleton, String.ofList_toList]

theorem parts_append_slash (path rest : String) :
    parts (path ++ "/" ++ rest) = parts path ++ parts rest := by
  rw [parts_eq_splitOn, parts_eq_splitOn, parts_eq_splitOn, String.toList_append,
    String.toList_append, List.append_assoc, ← List.map_append]
  exact congrArg (List.map String.ofList) (List.splitOn_append_cons_self ..)

theorem exists_parts_append (h : '/' ∉ suffix.toList) (path : String) :
    ∃ init last, parts path = init ++ [last] ∧
      parts (path ++ suffix) = init ++ [last ++ suffix] := by
  obtain ⟨init, last, hpath, happend⟩ := pieces_append_of_not_mem h path.toList
  refine ⟨init.map String.ofList, String.ofList last, ?_, ?_⟩
  · rw [parts, hpath, List.map_append, List.map_singleton]
  · rw [parts, String.toList_append, happend, List.map_append, List.map_singleton,
      String.ofList_append, String.ofList_toList]

theorem isAbsolute_of_not_mem (h : '/' ∉ name.toList) : isAbsolute name = false := by
  rw [isAbsolute, decide_eq_false_iff_not]
  exact fun hhead => h (List.mem_of_mem_head? hhead)

theorem exists_join_eq_append (hname : '/' ∉ name.toList) (directory : String) :
    ∃ suffix, join directory name = directory ++ suffix := by
  rw [join, isAbsolute_of_not_mem hname, if_neg Bool.false_ne_true]
  split
  · exact ⟨name, rfl⟩
  · exact ⟨"/" ++ name, String.append_assoc⟩

/-- Only a slash leaves an empty part at the end of a path. -/
theorem getLast?_parts_ne (hpath : path ≠ "") (hslash : path.toList.getLast? ≠ some '/') :
    (parts path).getLast? ≠ some "" := by
  obtain ⟨front, c, hfront⟩ : ∃ front c, path.toList = front ++ [c] := by
    rcases List.eq_nil_or_concat path.toList with hnil | ⟨front, c, hfront⟩
    · exact absurd (String.toList_eq_nil_iff.mp hnil) hpath
    · exact ⟨front, c, hfront.trans (List.concat_eq_append ..)⟩
  have hc : '/' ∉ (String.ofList [c]).toList := by
    rw [hfront, List.getLast?_concat, Ne, Option.some_inj] at hslash
    rw [String.toList_ofList, List.mem_singleton]
    exact Ne.symm hslash
  have happend : path = String.ofList front ++ String.ofList [c] := by
    rw [← String.ofList_append, ← hfront, String.ofList_toList]
  obtain ⟨init, last, _, hparts⟩ := exists_parts_append hc (String.ofList front)
  rw [happend, hparts, List.getLast?_concat, Ne, Option.some_inj, String.append_eq_empty_iff]
  exact fun h => by simpa using congrArg String.toList h.2

/-- A name comes after the parts of a directory, but for an empty part at their end. -/
theorem exists_parts_join (hdirectory : directory ≠ "") (hname : '/' ∉ name.toList) :
    ∃ front, (parts directory = front ∧ front.getLast? ≠ some "" ∨
        parts directory = front ++ [""]) ∧
      parts (join directory name) = front ++ [name] := by
  have hempty : directory.isEmpty = false := by
    rw [Bool.eq_false_iff, Ne, String.isEmpty_iff]
    exact hdirectory
  rw [join, isAbsolute_of_not_mem hname, if_neg Bool.false_ne_true, hempty, Bool.false_or]
  by_cases hslash : directory.toList.getLast? = some '/'
  · obtain ⟨front, hfront⟩ := List.getLast?_eq_some_iff.mp hslash
    have hdirectory : directory = String.ofList front ++ "/" := by
      apply String.toList_injective
      rw [hfront, String.toList_append, String.toList_ofList]
      rfl
    have hparts : parts directory = parts (String.ofList front) ++ [""] := by
      have happend := parts_append_slash (String.ofList front) ""
      rw [String.append_empty, ← hdirectory] at happend
      exact happend
    refine ⟨parts (String.ofList front), .inr hparts, ?_⟩
    rw [if_pos (decide_eq_true hslash), hdirectory, parts_append_slash, parts_of_not_mem hname]
  · refine ⟨parts directory, .inl ⟨rfl, getLast?_parts_ne hdirectory hslash⟩, ?_⟩
    rw [if_neg (by simpa using hslash), parts_append_slash, parts_of_not_mem hname]

theorem isAbsolute_append (h : path ≠ "") (suffix : String) :
    isAbsolute (path ++ suffix) = isAbsolute path := by
  have hne : path.toList ≠ [] := by
    simpa [String.toList_eq_nil_iff] using h
  rw [isAbsolute, isAbsolute, String.toList_append]
  cases hcs : path.toList with
  | nil => exact absurd hcs hne
  | cons c cs => rfl

theorem isAbsolute_join (h : isAbsolute directory = true) (path : String) :
    isAbsolute (join directory path) = true := by
  have hdirectory : directory ≠ "" := by
    rintro rfl
    cases h
  rw [join]
  split
  · assumption
  · split
    · rw [isAbsolute_append hdirectory, h]
    · rw [String.append_assoc, isAbsolute_append hdirectory, h]

theorem isAbsolute_of_isPrefix {front : List Char} (h : isAbsolute path = true)
    (hfront : front <+: path.toList) (hne : front ≠ []) :
    isAbsolute (String.ofList front) = true := by
  obtain ⟨c, cs, rfl⟩ := List.exists_cons_of_ne_nil hne
  obtain ⟨rest, hrest⟩ := hfront
  rw [isAbsolute, decide_eq_true_eq, ← hrest] at h
  rw [isAbsolute, decide_eq_true_eq, String.toList_ofList]
  exact h

theorem isAbsolute_directoryName (h : isAbsolute path = true) :
    isAbsolute (directoryName path) = true := by
  have hhead : path.toList.rdropWhile (· != '/') ≠ [] := by
    rw [Ne, List.rdropWhile_eq_nil_iff]
    intro hall
    have hslash := List.mem_of_mem_head? (of_decide_eq_true h)
    simpa using hall '/' hslash
  have hprefix := List.rdropWhile_prefix (· != '/') path.toList
  change isAbsolute (if (path.toList.rdropWhile (· != '/')).all (· == '/') then
    String.ofList (path.toList.rdropWhile (· != '/'))
    else String.ofList ((path.toList.rdropWhile (· != '/')).rdropWhile (· == '/'))) = true
  split
  · exact isAbsolute_of_isPrefix h hprefix hhead
  · rename_i hall
    refine isAbsolute_of_isPrefix h ((List.rdropWhile_prefix _ _).trans hprefix) ?_
    rw [Ne, List.rdropWhile_eq_nil_iff]
    simpa using hall

theorem isAbsolute_of_parts {rest : List String} (h : parts path = "" :: rest) (hrest : rest ≠ []) :
    isAbsolute path = true := by
  have hpath := intercalate_parts path
  rw [h, String.intercalate_cons_of_ne_nil hrest] at hpath
  rw [← hpath, isAbsolute_append (by decide)]
  rfl

theorem exists_parts_of_isAbsolute (h : isAbsolute path = true) :
    ∃ rest, parts path = "" :: rest ∧ rest ≠ [] := by
  obtain ⟨cs, hcs⟩ := List.head?_eq_some_iff.mp (of_decide_eq_true h)
  have hpath : path = "" ++ "/" ++ String.ofList cs := by
    apply String.toList_injective
    rw [hcs, String.toList_append, String.toList_ofList]
    rfl
  refine ⟨parts (String.ofList cs), ?_, ?_⟩
  · rw [hpath, parts_append_slash]
    rfl
  · exact parts_ne_nil _

/-! ### Following a path -/

namespace Tree

/-- The place, in reverse, that parts lead to from another one. -/
def walk (tree : Tree) (start : List String) (names : List String) : Option (List String) :=
  names.foldl tree.follow (some start)

/-- The place that a path leads to from a working directory. -/
def place? (tree : Tree) (workingDirectory path : String) : Option (List String) :=
  if path.isEmpty || path.utf8ByteSize > longestPath then none
  else (tree.walk (startOf workingDirectory path) (parts path)).map List.reverse

theorem locate?_eq (tree : Tree) (workingDirectory path : String) :
    tree.locate? workingDirectory path = (tree.place? workingDirectory path).bind tree.node? := by
  rw [locate?, place?, walk]
  split
  · rfl
  · cases (parts path).foldl tree.follow (some (startOf workingDirectory path)) <;> rfl

theorem foldl_follow_none (tree : Tree) (names : List String) :
    names.foldl tree.follow none = none := by
  induction names with
  | nil => rfl
  | cons name rest ih => exact ih

@[simp]
theorem walk_nil (tree : Tree) (start : List String) : tree.walk start [] = some start := rfl

theorem walk_append (tree : Tree) (start front rest : List String) :
    tree.walk start (front ++ rest) =
      (tree.walk start front).bind fun next => tree.walk next rest := by
  rw [walk, walk, List.foldl_append]
  cases front.foldl tree.follow (some start) with
  | none => exact tree.foldl_follow_none rest
  | some next => rfl

theorem walk_concat_eq_some_iff {names : List String} :
    tree.walk start (names ++ [name]) = some place ↔
      ∃ next, tree.walk start names = some next ∧ tree.follow (some next) name = some place := by
  rw [walk_append, Option.bind_eq_some_iff]
  rfl

theorem isDirectoryAt_of_follow (h : tree.follow (some start) name = some place) :
    tree.isDirectoryAt start.reverse = true := by
  rw [follow] at h
  by_contra hnot
  rw [if_pos (by simpa using hnot)] at h
  cases h

theorem isDirectory_iff :
    tree.isDirectory workingDirectory path = true ↔
      ∃ place, tree.place? workingDirectory path = some place ∧
        tree.isDirectoryAt place = true := by
  rw [isDirectory, locate?_eq]
  cases tree.place? workingDirectory path with
  | none => simp
  | some place => simp [isDirectoryAt]

theorem isFile_iff :
    tree.isFile workingDirectory path = true ↔
      ∃ place content, tree.place? workingDirectory path = some place ∧
        tree.node? place = some (.file content) := by
  rw [isFile, content?, locate?_eq]
  cases tree.place? workingDirectory path with
  | none => simp
  | some place =>
      rw [Option.bind_some]
      cases hnode : tree.node? place with
      | none => simp [hnode]
      | some node => cases node <;> simp [hnode]

theorem place?_eq_some_iff :
    tree.place? workingDirectory path = some place ↔
      path ≠ "" ∧ path.utf8ByteSize ≤ longestPath ∧
        tree.walk (startOf workingDirectory path) (parts path) = some place.reverse := by
  have hreverse (reached : Option (List String)) :
      reached.map List.reverse = some place ↔ reached = some place.reverse := by
    cases reached with
    | none => simp
    | some found => rw [Option.map_some, Option.some_inj, Option.some_inj, List.reverse_eq_iff]
  rw [place?]
  split
  · rename_i hunfit
    rw [Bool.or_eq_true, String.isEmpty_iff, decide_eq_true_eq] at hunfit
    simp only [reduceCtorEq, false_iff, not_and_or, ne_eq, not_not, not_le]
    exact hunfit.imp_right Or.inl
  · rename_i hfit
    rw [Bool.or_eq_true, String.isEmpty_iff, decide_eq_true_eq, not_or, not_lt] at hfit
    rw [hreverse]
    exact ⟨fun h => ⟨hfit.1, hfit.2, h⟩, fun h => h.2.2⟩

theorem follow_empty (h : tree.isDirectoryAt start.reverse = true) :
    tree.follow (some start) "" = some start := by
  rw [follow, h]
  rfl

/-- A name leads on from a directory only. -/
theorem isDirectory_of_place?_join (hdirectory : directory ≠ "") (hname : '/' ∉ name.toList)
    (h : tree.place? workingDirectory (join directory name) = some place) :
    tree.isDirectory workingDirectory directory = true := by
  obtain ⟨_, hsize, hwalk⟩ := place?_eq_some_iff.mp h
  obtain ⟨suffix, hsuffix⟩ := exists_join_eq_append hname directory
  have hstart : startOf workingDirectory (join directory name) =
      startOf workingDirectory directory := by
    rw [startOf, startOf, hsuffix, isAbsolute_append hdirectory]
  obtain ⟨front, hfront, hjoin⟩ := exists_parts_join hdirectory hname
  rw [hjoin, hstart] at hwalk
  obtain ⟨next, hnext, hfollow⟩ := walk_concat_eq_some_iff.mp hwalk
  have hat := isDirectoryAt_of_follow hfollow
  refine isDirectory_iff.mpr ⟨next.reverse, place?_eq_some_iff.mpr ⟨hdirectory, ?_, ?_⟩, hat⟩
  · rw [hsuffix, String.utf8ByteSize_append] at hsize
    omega
  · rw [List.reverse_reverse]
    rcases hfront with ⟨hparts, _⟩ | hparts
    · rw [hparts, hnext]
    · rw [hparts]
      exact walk_concat_eq_some_iff.mpr ⟨next, hnext, follow_empty hat⟩

end Tree

end CallGuard.Files
