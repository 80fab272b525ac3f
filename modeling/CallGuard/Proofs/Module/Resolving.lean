import CallGuard.Module.File
import CallGuard.Proofs.Files.Places

/-!
# Which file a path stands for

A path names a place, and the place can stand for up to three files: the one at the place itself,
that of a package there, and the one with the suffix of source files added. At most one of them is
tried, and which one it is depends on what stands at the place. So whatever is found is a file and
one of the three. But a directory that is no package keeps the file beside it from being found.
-/

namespace CallGuard.Module

open CallGuard.Files

/-- The files that a place may stand for. -/
def readings (place : String) : List String :=
  [place, join place packageFile] ++
    if place.endsWith sourceSuffix then [] else [place ++ sourceSuffix]

/-- The one file that a place stands for in a tree, told by what stands at the place. -/
inductive StandsFor (tree : Tree) (workingDirectory place : String) : String → Prop
  | itself (h : tree.isFile workingDirectory place = true) :
      StandsFor tree workingDirectory place place
  | package (hdirectory : tree.isDirectory workingDirectory place = true)
      (h : tree.isFile workingDirectory (join place packageFile) = true) :
      StandsFor tree workingDirectory place (join place packageFile)
  | suffixed (hnothing : tree.hasNode workingDirectory place = false)
      (hsuffix : place.endsWith sourceSuffix = false)
      (h : tree.isFile workingDirectory (place ++ sourceSuffix) = true) :
      StandsFor tree workingDirectory place (place ++ sourceSuffix)

/-- A directory that is no package stands beside a source file of the same name. -/
structure Hides (tree : Tree) (workingDirectory place : String) : Prop where
  isDirectory : tree.isDirectory workingDirectory place = true
  noPackage : tree.isFile workingDirectory (join place packageFile) = false
  suffix : place.endsWith sourceSuffix = false
  beside : tree.isFile workingDirectory (place ++ sourceSuffix) = true

section Resolving

variable {tree : Tree} {workingDirectory place path file : String} {directory : Option String}
  {fault : LoadFault}

theorem isFile_of_hasNode (h : tree.hasNode workingDirectory place = true)
    (hdirectory : tree.isDirectory workingDirectory place = false) :
    tree.isFile workingDirectory place = true := by
  rw [Tree.hasNode] at h
  obtain ⟨node, hnode⟩ := Option.isSome_iff_exists.mp h
  rw [Tree.isDirectory, hnode] at hdirectory
  rw [Tree.isFile, Tree.content?, hnode]
  cases node with
  | file content => rfl
  | directory => cases hdirectory

theorem hasNode_of_isFile (h : tree.isFile workingDirectory place = true) :
    tree.hasNode workingDirectory place = true ∧
      tree.isDirectory workingDirectory place = false := by
  rw [Tree.isFile, Tree.content?] at h
  rw [Tree.hasNode, Tree.isDirectory]
  cases hnode : tree.locate? workingDirectory place with
  | none =>
      rw [hnode] at h
      cases h
  | some node =>
      rw [hnode] at h
      cases node with
      | file content => exact ⟨rfl, rfl⟩
      | directory => cases h

theorem fileFor_of_isDirectory (h : tree.isDirectory workingDirectory place = true) :
    fileFor tree workingDirectory place = join place packageFile := by
  rw [fileFor, if_pos h]

theorem fileFor_of_isFile (h : tree.isFile workingDirectory place = true) :
    fileFor tree workingDirectory place = place := by
  obtain ⟨hnode, hdirectory⟩ := hasNode_of_isFile h
  rw [fileFor, hdirectory, hnode, if_neg Bool.false_ne_true, Bool.not_true, Bool.and_false,
    if_neg Bool.false_ne_true]

theorem isDirectory_of_hasNode_eq_false (h : tree.hasNode workingDirectory place = false) :
    tree.isDirectory workingDirectory place = false := by
  rw [Tree.hasNode, Option.isSome_eq_false_iff, Option.isNone_iff_eq_none] at h
  rw [Tree.isDirectory, h]

theorem fileFor_of_no_node (h : tree.hasNode workingDirectory place = false) :
    fileFor tree workingDirectory place =
      if place.endsWith sourceSuffix then place else place ++ sourceSuffix := by
  rw [fileFor, isDirectory_of_hasNode_eq_false h, h, if_neg Bool.false_ne_true]
  cases place.endsWith sourceSuffix <;> rfl

theorem fileFor_mem_readings (tree : Tree) (workingDirectory place : String) :
    fileFor tree workingDirectory place ∈ readings place := by
  rw [fileFor, readings]
  cases place.endsWith sourceSuffix <;> cases tree.isDirectory workingDirectory place <;>
    cases tree.hasNode workingDirectory place <;> simp

theorem isFile_fileFor_iff :
    tree.isFile workingDirectory (fileFor tree workingDirectory place) = true ↔
      StandsFor tree workingDirectory place (fileFor tree workingDirectory place) := by
  constructor
  · intro h
    cases hdirectory : tree.isDirectory workingDirectory place with
    | true =>
        rw [fileFor_of_isDirectory hdirectory] at h ⊢
        exact .package hdirectory h
    | false =>
        cases hnode : tree.hasNode workingDirectory place with
        | true =>
            have hfile := isFile_of_hasNode hnode hdirectory
            rw [fileFor_of_isFile hfile]
            exact .itself hfile
        | false =>
            rw [fileFor_of_no_node hnode] at h ⊢
            cases hsuffix : place.endsWith sourceSuffix with
            | true =>
                rw [hsuffix, if_pos rfl] at h
                rw [(hasNode_of_isFile h).1] at hnode
                cases hnode
            | false =>
                rw [hsuffix, if_neg Bool.false_ne_true] at h
                rw [if_neg Bool.false_ne_true]
                exact .suffixed hnode hsuffix h
  · generalize fileFor tree workingDirectory place = file
    rintro (h | ⟨_, h⟩ | ⟨_, _, h⟩) <;> exact h

theorem StandsFor.eq_fileFor (h : StandsFor tree workingDirectory place file) :
    file = fileFor tree workingDirectory place := by
  cases h with
  | itself h => exact (fileFor_of_isFile h).symm
  | package hdirectory h => exact (fileFor_of_isDirectory hdirectory).symm
  | suffixed hnothing hsuffix h =>
      rw [fileFor_of_no_node hnothing, hsuffix, if_neg Bool.false_ne_true]

theorem candidate_ne_empty (workingDirectory : String) (directory : Option String)
    (path : String) : candidate workingDirectory directory path ≠ "" := by
  have hnormal (path : String) : normal path ≠ "" := by
    rw [normal]
    split
    · decide
    · rename_i hshown
      rwa [String.isEmpty_iff] at hshown
  unfold candidate
  split
  · rename_i habsolute
    rintro rfl
    cases habsolute
  · cases directory with
    | some directory => exact hnormal _
    | none => exact hnormal _

/-- When the file that is tried is none, the others are none either, unless one is hidden. -/
theorem isFile_readings_iff (hplace : place ≠ "") :
    tree.isFile workingDirectory (fileFor tree workingDirectory place) = false ↔
      (∀ file ∈ readings place, tree.isFile workingDirectory file = false) ∨
        Hides tree workingDirectory place := by
  constructor
  · intro h
    have hitself : tree.isFile workingDirectory place = false := by
      by_contra hfile
      rw [Bool.not_eq_false] at hfile
      rw [fileFor_of_isFile hfile, hfile] at h
      cases h
    cases hdirectory : tree.isDirectory workingDirectory place with
    | true =>
        rw [fileFor_of_isDirectory hdirectory] at h
        cases hsuffix : place.endsWith sourceSuffix with
        | true =>
            left
            rw [readings, hsuffix]
            simp [hitself, h]
        | false =>
            cases hbeside : tree.isFile workingDirectory (place ++ sourceSuffix) with
            | true => exact .inr ⟨hdirectory, h, hsuffix, hbeside⟩
            | false =>
                left
                rw [readings, hsuffix]
                simp [hitself, h, hbeside]
    | false =>
        left
        have hnode : tree.hasNode workingDirectory place = false := by
          by_contra hnode
          rw [Bool.not_eq_false] at hnode
          rw [isFile_of_hasNode hnode hdirectory] at hitself
          cases hitself
        have hpackage : tree.isFile workingDirectory (join place packageFile) = false := by
          by_contra hfile
          rw [Bool.not_eq_false] at hfile
          obtain ⟨found, _, hfound, _⟩ := Tree.isFile_iff.mp hfile
          rw [Tree.isDirectory_of_place?_join hplace (by decide) hfound] at hdirectory
          cases hdirectory
        rw [fileFor_of_no_node hnode] at h
        rw [readings]
        cases hsuffix : place.endsWith sourceSuffix with
        | true => simp [hitself, hpackage]
        | false =>
            rw [hsuffix, if_neg Bool.false_ne_true] at h
            simp [hitself, hpackage, h]
  · rintro (hnone | hhides)
    · exact hnone _ (fileFor_mem_readings tree workingDirectory place)
    · rw [fileFor_of_isDirectory hhides.isDirectory]
      exact hhides.noPackage

theorem suffixed_ne_self (place : String) : place ++ sourceSuffix ≠ place := by
  intro h
  have hlength := congrArg String.length h
  have hsuffix : sourceSuffix.length = 3 := by decide
  rw [String.length_append] at hlength
  omega

theorem suffixed_ne_package (place : String) :
    place ++ sourceSuffix ≠ join place packageFile := by
  have hsuffix : sourceSuffix.length = 3 := by decide
  have hpackage : packageFile.length = 11 := by decide
  rw [join, isAbsolute_of_not_mem (by decide), if_neg Bool.false_ne_true]
  intro h
  have hlength := congrArg String.length h
  split at hlength <;> simp only [String.length_append] at hlength <;> omega

theorem resolveFile_eq (tree : Tree) (workingDirectory : String) (directory : Option String)
    (path : String) :
    let file := fileFor tree workingDirectory (candidate workingDirectory directory path)
    resolveFile tree workingDirectory directory path =
      if tree.isFile workingDirectory file then .ok file else .error (.notFound path file) := rfl

/-- A path is resolved to the file that its place stands for. -/
theorem resolveFile_eq_ok_iff :
    resolveFile tree workingDirectory directory path = .ok file ↔
      StandsFor tree workingDirectory (candidate workingDirectory directory path) file := by
  rw [resolveFile_eq]
  constructor
  · intro h
    split at h
    · rename_i hfile
      cases h
      exact isFile_fileFor_iff.mp hfile
    · cases h
  · intro h
    obtain rfl := h.eq_fileFor
    exact if_pos (isFile_fileFor_iff.mpr h)

theorem exists_error_iff :
    (∃ fault, resolveFile tree workingDirectory directory path = .error fault) ↔
      tree.isFile workingDirectory
        (fileFor tree workingDirectory (candidate workingDirectory directory path)) = false := by
  rw [resolveFile_eq, ← Bool.not_eq_true]
  constructor
  · rintro ⟨fault, hfault⟩
    split at hfault
    · cases hfault
    · assumption
  · exact fun hfile => ⟨_, if_neg hfile⟩

/-- A file with the suffix added is what a place stands for when nothing is at the place. -/
theorem standsFor_suffixed_iff (hsuffix : place.endsWith sourceSuffix = false)
    (hbeside : tree.isFile workingDirectory (place ++ sourceSuffix) = true) :
    StandsFor tree workingDirectory place (place ++ sourceSuffix) ↔
      tree.hasNode workingDirectory place = false := by
  constructor
  · intro h
    by_contra hnode
    rw [Bool.not_eq_false] at hnode
    have hfile := h.eq_fileFor
    cases hdirectory : tree.isDirectory workingDirectory place with
    | true =>
        rw [fileFor_of_isDirectory hdirectory] at hfile
        exact suffixed_ne_package place hfile
    | false =>
        rw [fileFor_of_isFile (isFile_of_hasNode hnode hdirectory)] at hfile
        exact suffixed_ne_self place hfile
  · exact fun hnothing => .suffixed hnothing hsuffix hbeside

end Resolving

/--
A path stands for a file when there is one at its place, or that of a package when the place is a
directory, or the one with the suffix added when nothing is at the place. What it stands for is thus
a file and one of the three readings of the place, and the path fails only as one whose file was not
found. That happens when none of the three is a file, and also when a directory that is no package
hides the file with the suffix. That file is found just when nothing at all stands at the place.
-/
theorem resolution_by_what_stands (tree : Tree) (workingDirectory : String)
    (directory : Option String) (path : String) :
    let place := candidate workingDirectory directory path
    let outcome := resolveFile tree workingDirectory directory path
    (∀ file, outcome = .ok file ↔ StandsFor tree workingDirectory place file) ∧
    (∀ file, outcome = .ok file →
      tree.isFile workingDirectory file = true ∧ file ∈ readings place) ∧
    (∀ fault, outcome = .error fault →
      fault.message = "Cannot find module file " ++ path ∧
        ∃ file ∈ readings place, fault = .notFound path file) ∧
    ((∃ fault, outcome = .error fault) ↔
      (∀ file ∈ readings place, tree.isFile workingDirectory file = false) ∨
        Hides tree workingDirectory place) ∧
    (place.endsWith sourceSuffix = false →
      tree.isFile workingDirectory (place ++ sourceSuffix) = true →
      (outcome = .ok (place ++ sourceSuffix) ↔ tree.hasNode workingDirectory place = false)) := by
  intro place outcome
  have houtcome : outcome = _ := resolveFile_eq tree workingDirectory directory path
  have hmem := fileFor_mem_readings tree workingDirectory place
  have hiff (file : String) : outcome = .ok file ↔ StandsFor tree workingDirectory place file :=
    resolveFile_eq_ok_iff
  refine ⟨hiff, fun file hfile => ?_, fun fault hfault => ?_, ?_, fun hsuffix hbeside => ?_⟩
  · have hstands := (hiff file).mp hfile
    obtain rfl := hstands.eq_fileFor
    exact ⟨isFile_fileFor_iff.mpr hstands, hmem⟩
  · rw [houtcome] at hfault
    split at hfault
    · cases hfault
    · cases hfault
      exact ⟨rfl, _, hmem, rfl⟩
  · rw [← isFile_readings_iff (candidate_ne_empty workingDirectory directory path)]
    exact exists_error_iff
  · rw [hiff]
    exact standsFor_suffixed_iff hsuffix hbeside

/-- A tree with a source file and, under its name without the suffix, another node. -/
def besideSource (node : Node) : Tree :=
  ⟨[(["x"], node), (["x.py"], .file (.bytes []))]⟩

/--
A source file is not found beside an empty directory, although it is one of the three readings. And
beside a file without a suffix that other file is found, although it is none of a module.
-/
theorem source_beside_is_not_found :
    (resolveFile (besideSource .directory) "/" (some "/") "./x" =
        .error (.notFound "./x" "/x/__init__.py") ∧
      (besideSource .directory).isFile "/" "/x.py" = true ∧ "/x.py" ∈ readings "/x" ∧
      candidate "/" (some "/") "./x" = "/x") ∧
    resolveFile (besideSource (.file (.bytes []))) "/" (some "/") "./x" = .ok "/x" ∧
    (besideSource (.file (.bytes []))).isFile "/" "/x.py" = true ∧ formatOf? "/x" = none := by
  refine ⟨⟨rfl, rfl, ?_, rfl⟩, rfl, rfl, ?_⟩
  · decide +kernel
  · decide +kernel

end CallGuard.Module
