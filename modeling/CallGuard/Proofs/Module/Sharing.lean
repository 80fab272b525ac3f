import CallGuard.Proofs.Files.Spelling
import CallGuard.Proofs.Module.History
import CallGuard.Proofs.Module.Resolving
import CallGuard.Standard.Platform

/-!
# Which requests share a module

The module of a file is kept under the path that a request was resolved to, so requests for one file
share its module when they are resolved to the same path. Paths below a directory are brought into
normal form first, which leaves one spelling of each place. But a path from the root is taken as it
is, and each of its spellings has a module of its own.
-/

namespace CallGuard.Module

open CallGuard.Files

/-! ### Which spelling a file is found under -/

section Spellings

variable {tree : Tree} {workingDirectory asked file : String} {place : List String}

/-- A file is found under the plain spelling of its place just when it is asked for plainly. -/
theorem StandsFor.eq_spelled_iff (h : StandsFor tree workingDirectory asked file)
    (habsolute : isAbsolute asked = true)
    (hplace : tree.place? workingDirectory file = some place) :
    file = spelled place ↔ IsPlain asked := by
  have hne : asked ≠ "" := by
    rintro rfl
    cases habsolute
  cases h with
  | itself hfile =>
      rw [Tree.eq_spelled_iff habsolute hplace]
      exact (isPlain_iff_of_front habsolute
        (.inl ⟨rfl, Tree.getLast?_parts_ne_of_isFile hfile⟩)).symm
  | package hdirectory hfile =>
      have hpackage : '/' ∉ packageFile.toList := by decide
      obtain ⟨suffix, hsuffix⟩ := exists_join_eq_append hpackage asked
      obtain ⟨front, hfront, hjoin⟩ := exists_parts_join hne hpackage
      have hjoined : isAbsolute (join asked packageFile) = true := by
        rw [hsuffix, isAbsolute_append hne, habsolute]
      rw [Tree.eq_spelled_iff hjoined hplace, hjoin, isStraight_concat_iff (by decide),
        isPlain_iff_of_front habsolute hfront]
  | suffixed hnothing hsuffix hfile =>
      obtain ⟨front, last, hparts, happend⟩ :=
        exists_parts_append (by decide : '/' ∉ sourceSuffix.toList) asked
      have hlast : IsName last := by
        by_contra hlast
        have hdirectory := isDirectory_of_hasNode_eq_false hnothing
        rw [Tree.isDirectory_of_not_isName habsolute hparts happend hlast hplace] at hdirectory
        cases hdirectory
      have hlonger : IsName (last ++ sourceSuffix) := by
        have hlength : 2 < (last ++ sourceSuffix).length := by
          rw [String.length_append]
          exact Nat.lt_of_lt_of_le (by decide) (Nat.le_add_left _ _)
        refine ⟨?_, ?_, ?_⟩ <;> exact fun hsame => absurd (hsame ▸ hlength) (by decide)
      have hextended : isAbsolute (asked ++ sourceSuffix) = true := by
        rw [isAbsolute_append hne, habsolute]
      rw [Tree.eq_spelled_iff hextended hplace, happend, isStraight_concat_iff hlonger,
        ← isStraight_concat_iff hlast]
      refine (isPlain_iff_of_front habsolute (.inl ⟨hparts, ?_⟩)).symm
      rw [List.getLast?_concat, Ne, Option.some_inj]
      exact hlast.1

/--
A path is spelled plainly, seen from a directory: it leads straight on from the root, or it is below
a directory that does not start with two slashes.
-/
def IsPlainFrom (directory path : String) : Prop :=
  if isAbsolute path then IsPlain path else leadingSlashes (join directory path) = "/"

theorem candidate_eq (workingDirectory : String) (directory : Option String) (path : String) :
    candidate workingDirectory directory path =
      if isAbsolute path then path else normal (join (directory.getD workingDirectory) path) := by
  unfold candidate
  cases directory <;> rfl

theorem isAbsolute_candidate {directory : Option String}
    (h : isAbsolute (directory.getD workingDirectory) = true) (path : String) :
    isAbsolute (candidate workingDirectory directory path) = true := by
  rw [candidate_eq]
  split
  · assumption
  · exact isAbsolute_normal (isAbsolute_join h path)

theorem isPlain_candidate_iff {directory : Option String}
    (h : isAbsolute (directory.getD workingDirectory) = true) (path : String) :
    IsPlain (candidate workingDirectory directory path) ↔
      IsPlainFrom (directory.getD workingDirectory) path := by
  rw [candidate_eq, IsPlainFrom]
  split
  · exact Iff.rfl
  · exact isPlain_normal_iff (isAbsolute_join h path)

theorem isAbsolute_of_directoryOf {v : Value} {text : String}
    (hrooted : isAbsolute workingDirectory = true)
    (h : directoryOf workingDirectory v = .ok (.path text)) : isAbsolute text = true := by
  unfold directoryOf at h
  split at h
  · cases h
  · split at h
    · rw [← Directory.path.inj (Except.ok.inj h)]
      exact isAbsolute_directoryName (isAbsolute_normal (isAbsolute_join hrooted _))
    · cases h
    · cases h

end Spellings

/-! ### Requests for one place -/

section

variable [Platform]

/-- A request, seen from a directory, is resolved to a file, and this is the one at a place. -/
structure Designation (request : Request) (session : Session) (directory : Option String)
    (file : String) (place : List String) : Prop where
  rooted : isAbsolute session.workingDirectory = true
  asks : request.AsksFrom session directory
  resolved : resolveFile session.files session.workingDirectory directory request.path = .ok file
  place : session.files.place? session.workingDirectory file = some place

/-- A request asks for the file at a place. -/
def Request.Designates (request : Request) (session : Session) (place : List String) : Prop :=
  ∃ directory file, Designation request session directory file place

/-- A request asks for the file at a place by a path that is spelled plainly. -/
def Request.DesignatesPlainly (request : Request) (session : Session) (place : List String) :
    Prop :=
  ∃ directory file, Designation request session directory file place ∧
    IsPlainFrom (directory.getD session.workingDirectory) request.path

section Sharing

variable {request : Request} {session start after : Session} {attempts : List Attempt}
  {directory : Option String} {file : String} {place : List String}

/-- The directory of a host is told from the root. -/
theorem isAbsolute_of_anchorsOf {host : Host} {anchors : Anchors} {text : String}
    (hrooted : isAbsolute session.workingDirectory = true)
    (h : ((anchorsOf host).on session).1 = .ok anchors) (htext : anchors.directory = .path text) :
    isAbsolute text = true := by
  have hmodule {module : Module} (h : (module.anchors.on session).1 = .ok anchors) :
      isAbsolute text = true := by
    have hon : module.anchors.on session = (.ok anchors, (module.anchors.on session).2) :=
      Prod.ext h rfl
    obtain ⟨found, _, hfound, hon⟩ := Run.on_bind_eq_ok_iff.mp hon
    cases hfound
    obtain ⟨names, _, _, hon⟩ := Run.on_bind_eq_ok_iff.mp hon
    obtain ⟨file, _, _, hon⟩ := Run.on_bind_eq_ok_iff.mp hon
    obtain ⟨directory, _, hdirectory, hon⟩ := Run.on_bind_eq_ok_iff.mp hon
    obtain ⟨package, _, _, hon⟩ := Run.on_bind_eq_ok_iff.mp hon
    cases hon
    obtain rfl : directory = .path text := htext
    cases hof : directoryOf session.workingDirectory (file.getD .null) with
    | error e =>
        rw [hof] at hdirectory
        cases hdirectory
    | ok directory =>
        rw [hof] at hdirectory
        cases hdirectory
        exact isAbsolute_of_directoryOf hrooted hof
  rw [anchorsOf, Run.on_bind_of_ok (Run.on_get session)] at h
  split at h
  · split at h
    · exact hmodule h
    · cases h
  · split at h
    · exact hmodule h
    · rw [← Except.ok.inj h] at htext
      rw [← Directory.path.inj htext]
      exact isAbsolute_directoryName (isAbsolute_normal (isAbsolute_join hrooted _))
  · rw [← Except.ok.inj h] at htext
    cases htext
  · cases h

theorem Designation.isAbsolute_directory (h : Designation request session directory file place) :
    isAbsolute (directory.getD session.workingDirectory) = true := by
  obtain ⟨anchors, hanchors, hstart⟩ := h.asks.anchored
  cases hdirectory : anchors.directory with
  | none =>
      rw [hdirectory] at hstart
      cases hstart
      exact h.rooted
  | path text =>
      rw [hdirectory] at hstart
      cases hstart
      exact isAbsolute_of_anchorsOf h.rooted hanchors hdirectory
  | bytes =>
      rw [hdirectory, startOf] at hstart
      split at hstart
      · cases hstart
        exact h.rooted
      · cases hstart

/-- The file is found under the plain spelling of its place just when it is asked for plainly. -/
theorem Designation.eq_spelled_iff (h : Designation request session directory file place) :
    file = spelled place ↔
      IsPlainFrom (directory.getD session.workingDirectory) request.path := by
  rw [← isPlain_candidate_iff h.isAbsolute_directory]
  exact (resolveFile_eq_ok_iff.mp h.resolved).eq_spelled_iff
    (isAbsolute_candidate h.isAbsolute_directory request.path) h.place

theorem Request.DesignatesPlainly.resolvesTo (h : request.DesignatesPlainly session place) :
    request.ResolvesTo session (spelled place) := by
  obtain ⟨directory, file, hdesignation, hplain⟩ := h
  obtain rfl := hdesignation.eq_spelled_iff.mpr hplain
  exact ⟨directory, hdesignation.asks, hdesignation.resolved⟩

/--
A file is found under the plain spelling of its place just when the path is spelled plainly, seen
from the directory of the host: when it is the path of a file below a directory, however it leads
there, or a path from the root that leads straight on. So whatever else happens in between, requests
that ask for the file at one place in this way use one module: after a body of the file has
succeeded no body of it runs any more, and all facades that are made lead to the names of that
module.
-/
theorem one_module_of_plain_spellings
    (hcourse : Course (fun request session => request.DesignatesPlainly session place)
      (spelled place) start attempts after) :
    (∀ request session directory file, Designation request session directory file place →
      (file = spelled place ↔
        IsPlainFrom (directory.getD session.workingDirectory) request.path)) ∧
    (attempts.Pairwise fun first later =>
      ∀ module, first.Gains module → later.Reuses module) ∧
    ∀ first ∈ attempts, ∀ second ∈ attempts, ∀ facade other,
      first.outcome = .ok facade → second.outcome = .ok other →
      ∃ module, loaded? after (fileModuleName (spelled place)) = some module ∧
        facade.exports = some (.names module.names true) ∧
        other.exports = some (.names module.names true) := by
  have hfiles : FileCourse (spelled place) start attempts after :=
    hcourse.mono fun request session h => h.resolvesTo
  refine ⟨fun request session directory file h => h.eq_spelled_iff, hfiles.pairwise,
    fun first hfirst second hsecond facade other hfacade hother => ?_⟩
  obtain ⟨module, hmodule, hexports⟩ := hfiles.exists_exports hfirst hfacade
  obtain ⟨same, hsame, hothers⟩ := hfiles.exists_exports hsecond hother
  obtain rfl := Option.some.inj (hmodule.symm.trans hsame)
  exact ⟨module, hmodule, hexports, hothers⟩

end Sharing

theorem designation_of_decided {session : Session} {path file : String} {place : List String}
    (h : path ≠ "" ∧ isFilePath path = true ∧ isAbsolute session.workingDirectory = true ∧
      (resolveFile session.files session.workingDirectory none path).toOption = some file ∧
      session.files.place? session.workingDirectory file = some place) :
    Designation (requestOf path) session none file place := by
  obtain ⟨hpath, hfile, hrooted, hresolved, hplace⟩ := h
  exact ⟨hrooted, ⟨hpath, hfile, rfl, _, rfl, rfl⟩, eq_ok_of_toOption hresolved, hplace⟩

/-- A request that is decided to have found a module has made a facade over that module. -/
theorem exists_facade_of_decided {request : Request} {session : Session} {file : String}
    (module : Module) (h : request.ResolvesTo session file)
    (hmade : (request.attempt file session).found.toOption = some module ∧
      (request.attempt file session).outcome.isOk = true) :
    ∃ facade, (request.attempt file session).outcome = .ok facade ∧
      facade.exports = some (.names module.names true) := by
  obtain ⟨_, _, _, _, _, _, hserves⟩ := h.exists_load
  cases houtcome : (request.attempt file session).outcome with
  | error failure =>
      rw [houtcome] at hmade
      cases hmade.2
  | ok facade =>
      exact ⟨facade, rfl, hserves.exports module facade (eq_ok_of_toOption hmade.1) houtcome⟩

end

open scoped Standard

/-- A session with one file of a module. -/
def singleFile : Session where
  files := ⟨[(["a.py"], .file (.source ⟨[("n", .int 1)], none, none⟩))]⟩

/-- The session after a request for the file by a path. -/
def afterRequest (path : String) : Session :=
  ((requestOf path).run.on singleFile).2

/-- Below a directory that is not even there, and from the root: both lead to one module. -/
theorem plain_requests_share_module :
    ∃ first second after,
      Course (fun request session => request.DesignatesPlainly session ["a.py"])
        (spelled ["a.py"]) singleFile [first, second] after ∧
      (first.bodies = 1 ∧ second.bodies = 0) ∧
      ∃ facade other, first.outcome = .ok facade ∧ second.outcome = .ok other ∧
        facade.exports = other.exports := by
  have hbelow : Designation (requestOf "./x/../a") singleFile none "/a.py" ["a.py"] :=
    designation_of_decided (by decide +kernel)
  have hrooted : Designation (requestOf "/a.py") (afterRequest "./x/../a") none "/a.py" ["a.py"] :=
    designation_of_decided (by decide +kernel)
  have hstraight : IsPlainFrom "/" "/a.py" := by
    rw [IsPlainFrom, if_pos (by decide +kernel : isAbsolute "/a.py" = true)]
    exact ⟨["", "a.py"], ⟨["a.py"], by decide, rfl⟩, .inl (by decide +kernel)⟩
  have hcourse : Course (fun request session => request.DesignatesPlainly session ["a.py"])
      (spelled ["a.py"]) singleFile
      [(requestOf "./x/../a").attempt (spelled ["a.py"]) singleFile,
        (requestOf "/a.py").attempt (spelled ["a.py"]) (afterRequest "./x/../a")]
      ((requestOf "/a.py").run.on (afterRequest "./x/../a")).2 :=
    (Course.nil.snoc (.request ⟨none, _, hbelow, rfl⟩)).snoc
      (.request ⟨none, _, hrooted, hstraight⟩)
  obtain ⟨facade, hfacade, _⟩ := exists_facade_of_decided ⟨fileModuleName "/a.py", 0⟩
    (Request.DesignatesPlainly.resolvesTo ⟨none, _, hbelow, rfl⟩) (by decide +kernel)
  obtain ⟨other, hother, _⟩ := exists_facade_of_decided ⟨fileModuleName "/a.py", 0⟩
    (Request.DesignatesPlainly.resolvesTo ⟨none, _, hrooted, hstraight⟩) (by decide +kernel)
  obtain ⟨_, _, hshared⟩ := one_module_of_plain_spellings hcourse
  obtain ⟨module, _, hexports, hothers⟩ :=
    hshared _ (by simp) _ (by simp) facade other hfacade hother
  exact ⟨_, _, _, hcourse, by decide +kernel, facade, other, hfacade, hother,
    hexports.trans hothers.symm⟩

/-- A request by a path with a superfluous part runs the body again, for another module. -/
theorem two_modules_of_one_file :
    (requestOf "/a.py").Designates singleFile ["a.py"] ∧
    (requestOf "/./a.py").Designates (afterRequest "/a.py") ["a.py"] ∧
    (((requestOf "/a.py").attempt "/a.py" singleFile).bodies = 1 ∧
      ((requestOf "/./a.py").attempt "/./a.py" (afterRequest "/a.py")).bodies = 1) ∧
    ∃ facade other,
      ((requestOf "/a.py").attempt "/a.py" singleFile).outcome = .ok facade ∧
      ((requestOf "/./a.py").attempt "/./a.py" (afterRequest "/a.py")).outcome = .ok other ∧
      facade.exports = some (.names 0 true) ∧ other.exports = some (.names 1 true) := by
  have hfirst : Designation (requestOf "/a.py") singleFile none "/a.py" ["a.py"] :=
    designation_of_decided (by decide +kernel)
  have hsecond : Designation (requestOf "/./a.py") (afterRequest "/a.py") none "/./a.py" ["a.py"] :=
    designation_of_decided (by decide +kernel)
  obtain ⟨facade, hfacade, hexports⟩ := exists_facade_of_decided
    ⟨fileModuleName "/a.py", 0⟩ ⟨none, hfirst.asks, hfirst.resolved⟩
    (by decide +kernel)
  obtain ⟨other, hother, hothers⟩ := exists_facade_of_decided
    ⟨fileModuleName "/./a.py", 1⟩ ⟨none, hsecond.asks, hsecond.resolved⟩
    (by decide +kernel)
  exact ⟨⟨none, _, hfirst⟩, ⟨none, _, hsecond⟩, by decide +kernel, facade, other, hfacade, hother,
    hexports, hothers⟩

end CallGuard.Module
