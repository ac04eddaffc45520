import BacklogTrace.Proofs.FileSystem.FileName
import BacklogTrace.Proofs.Location
import BacklogTrace.Proofs.Run.Targets

/-!
Contract: links of the files that a run scans.

The files below the root of a target are linked by the names that lead to them, and a
target that is a single file is linked by the name of the file, whether the target
comes from options or from a source of a configuration. With a repository, the names
stand in its address.

Owns: `Run.Target.LinksBy`.

Does not own: links below a given root (`Proofs.Location`), which files are scanned
(`Harvest`).
-/

namespace BacklogTrace.Run

open CommandLine (Options)
open BacklogTrace.Path (IsRoute IsBelow route)

variable {fileSystem : FileSystem} {options : Options} {config : Config} {directory : Path}
  {source : SourceEntry} {target : Target} {targets : List Target}

/-- A target links a path by names: by the names themselves, or by their address in a
repository. -/
def Target.LinksBy (target : Target) (path : Path) (names : List Text) : Prop :=
  (∃ root, target.location = .below root ∧
      target.location.link path = ['/'].intercalate names) ∨
    ∃ repository root, target.location = .hosted repository root ∧
      repository.IsAddress names (target.location.link path)

/-! ## The root of a target -/

theorem location_of_unhosted (unhosted : source.hosting = none) (root : Path)
    (baseUrl : Option Text) : source.location root baseUrl = .below root := by
  rw [SourceEntry.location, unhosted]

theorem location_of_hosted {hosting : Hosting} (hosted : source.hosting = some hosting)
    (root : Path) (baseUrl : Option Text) :
    source.location root baseUrl =
      .hosted
        { baseUrl := baseUrl.getD "https://github.com".toList
          organization := hosting.organization
          repository := hosting.repository
          branch := hosting.branch.getD "master".toList } root := by
  rw [SourceEntry.location, hosted]
  rfl

/-- A target links what is below its root, or below the directory of a single file. -/
def Target.IsRootedIn (fileSystem : FileSystem) (target : Target) : Prop :=
  target.location = .below (linkRoot fileSystem target.root) ∨
    ∃ repository, target.location = .hosted repository (linkRoot fileSystem target.root)

theorem isRootedIn_targetOfOptions (fileSystem : FileSystem) (options : Options) :
    (targetOfOptions fileSystem options).IsRootedIn fileSystem := by
  cases organization : options.organization with
  | none => exact .inl (by simp [targetOfOptions, organization])
  | some owner =>
      cases repository : options.repository with
      | none => exact .inl (by simp [targetOfOptions, organization, repository])
      | some name => exact .inr ⟨_, by simp [targetOfOptions, organization, repository]; rfl⟩

theorem isRootedIn_targetOfSource
    (given : targetOfSource fileSystem options config directory source = .ok target) :
    target.IsRootedIn fileSystem := by
  unfold targetOfSource at given
  dsimp only at given
  split at given
  case h_1 => exact absurd given (by simp)
  case h_2 =>
    rw [← Except.ok.inj given, Target.IsRootedIn]
    cases hosting : source.hosting with
    | none => exact .inl (location_of_unhosted hosting _ _)
    | some host => exact .inr ⟨_, location_of_hosted hosting _ _⟩

theorem isRootedIn_of_mem_targets (given : Run.targets fileSystem options = .ok targets)
    (member : target ∈ targets) : target.IsRootedIn fileSystem := by
  rw [Run.targets] at given
  cases configured : options.config with
  | none =>
      rw [configured] at given
      rw [← Except.ok.inj given, List.mem_singleton] at member
      rw [member]
      exact isRootedIn_targetOfOptions fileSystem options
  | some path =>
      simp only [configured, targetsOfConfig] at given
      split at given
      case h_1 => exact absurd given (by simp)
      case h_2 config _ =>
        rw [targetsOfSources_eq_mapM] at given
        split at given
        case h_1 => exact absurd given (by simp)
        case h_2 found each =>
          rw [Except.ok.inj given] at each
          have paired := (Traversal.mapM_eq_ok_iff.1 each).flip
          obtain ⟨source, -, ofSource⟩ := Traversal.exists_of_mem paired target member
          exact isRootedIn_targetOfSource ofSource

/-! ## Links -/

/-- A target links a path by the names that its location makes of it, hosted or not. -/
theorem Target.linksBy_of_link {root path : Path} {names : List Text}
    (rooted : target.location = .below root ∨
      ∃ repository, target.location = .hosted repository root)
    (nonempty : names ≠ [])
    (below : (Location.below root).link path = ['/'].intercalate names)
    (hosted : ∀ repository : Repository,
      (Location.hosted repository root).link path = repository.address names) :
    target.LinksBy path names := by
  cases rooted with
  | inl location =>
      refine .inl ⟨root, location, ?_⟩
      rw [location, below]
  | inr location =>
      obtain ⟨repository, location⟩ := location
      refine .inr ⟨repository, root, location, ?_⟩
      rw [location, hosted]
      exact repository.isAddress_address nonempty

theorem Target.IsRootedIn.linksBy_route (rooted : target.IsRootedIn fileSystem)
    (noFile : fileSystem.isFile target.root = false) {names : List Text}
    (isRoute : IsRoute names) : target.LinksBy (target.root.join (route names)) names := by
  have root : linkRoot fileSystem target.root = target.root := by
    rw [linkRoot, noFile, if_neg Bool.false_ne_true]
  rw [Target.IsRootedIn, root] at rooted
  exact Target.linksBy_of_link rooted isRoute.nonempty (Location.link_below _ isRoute)
    fun repository => Location.link_hosted repository _ isRoute

theorem Target.IsRootedIn.linksBy_fileName (rooted : target.IsRootedIn fileSystem)
    (file : fileSystem.isFile target.root = true) {name : Bytes}
    (ends : target.root.fileName? = some name) :
    target.LinksBy target.root [Utf8.decode name] := by
  have root : linkRoot fileSystem target.root = target.root.parent?.getD ⟨[]⟩ := by
    rw [linkRoot, file, if_pos rfl]
  rw [Target.IsRootedIn, root] at rooted
  have below : (Location.below (target.root.parent?.getD ⟨[]⟩)).link target.root =
      ['/'].intercalate [Utf8.decode name] := by
    rw [Location.link_below_parent ends]
    simp
  exact Target.linksBy_of_link rooted (List.cons_ne_nil _ _) below
    fun repository => Location.link_hosted_parent repository ends

/-- Links below a root are made of the names that lead from the root, however it is
spelled. So are those of a source, and of every target of a run; a target that is a
single file is linked by the name of the file. No link is that of two paths below a
root. -/
theorem links_below_root_are_exact :
    (∀ (root : Path) (names : List Text), IsRoute names →
      (Location.below root).link (root.join (route names)) = ['/'].intercalate names ∧
      ∀ repository : Repository, repository.IsAddress names
        ((Location.hosted repository root).link (root.join (route names)))) ∧
    (∀ (source : SourceEntry) (directory : Path) (baseUrl : Option Text) (names : List Text),
      IsRoute names →
      (source.hosting = none →
        (source.location (source.root directory) baseUrl).link
          ((source.root directory).join (route names)) = ['/'].intercalate names) ∧
      ∀ hosting, source.hosting = some hosting →
        Repository.IsAddress
          { baseUrl := baseUrl.getD "https://github.com".toList
            organization := hosting.organization
            repository := hosting.repository
            branch := hosting.branch.getD "master".toList } names
          ((source.location (source.root directory) baseUrl).link
            ((source.root directory).join (route names)))) ∧
    (∀ (fileSystem : FileSystem) (options : Options) (targets : List Target),
      Run.targets fileSystem options = .ok targets → ∀ target ∈ targets,
      (fileSystem.isFile target.root = false → ∀ names, IsRoute names →
        target.LinksBy (target.root.join (route names)) names) ∧
      (fileSystem.isFile target.root = true →
        ∃ name, target.root.fileName? = some name ∧
          target.LinksBy target.root [Utf8.decode name])) ∧
    ∀ root path other : Path, IsBelow root path → IsBelow root other →
      ((Location.below root).link path = (Location.below root).link other → path = other) ∧
      ∀ repository, (Location.hosted repository root).link path =
        (Location.hosted repository root).link other → path = other := by
  refine ⟨?_, ?_, ?_, ?_⟩
  · intro root names isRoute
    refine ⟨Location.link_below root isRoute, fun repository => ?_⟩
    rw [Location.link_hosted repository root isRoute]
    exact repository.isAddress_address isRoute.nonempty
  · intro source directory baseUrl names isRoute
    refine ⟨fun unhosted => ?_, fun hosting hosted => ?_⟩
    · rw [location_of_unhosted unhosted, Location.link_below _ isRoute]
    · rw [location_of_hosted hosted, Location.link_hosted _ _ isRoute]
      exact Repository.isAddress_address _ isRoute.nonempty
  · intro fileSystem options targets given target member
    have rootedIn := isRootedIn_of_mem_targets given member
    refine ⟨fun noFile names isRoute => rootedIn.linksBy_route noFile isRoute, ?_⟩
    intro file
    obtain ⟨name, ends⟩ := FileSystem.exists_fileName?_of_isFile file
    exact ⟨name, ends, rootedIn.linksBy_fileName file ends⟩
  · intro root path other isBelow otherBelow
    exact ⟨Location.eq_of_link_below_eq isBelow otherBelow,
      fun repository => Location.eq_of_link_hosted_eq isBelow otherBelow⟩

/-- A file in a directory. -/
def nestedFile : FileSystem where
  entries :=
    [([Utf8.encode "a".toList], .directory),
      ([Utf8.encode "a".toList, Utf8.encode "A.java".toList], .file [])]

/-- Options that scan the file in a hosted repository. -/
def nestedFileOptions : Options :=
  ⟨.ofText "./a//A.java".toList, none, none, [], [], none, some "/o".toList, some "r".toList,
    none, .text, none, false⟩

/-- Dots and slashes in the spelling of a root do not show in links. -/
theorem links_below_root_are_exact_respelled :
    (Location.below (.ofText "./a/../b//".toList)).link
        (.ofText "./a/../b//src/A.java".toList) = "src/A.java".toList ∧
      (targetOfOptions nestedFile nestedFileOptions).LinksBy
        (.ofText "./a//A.java".toList) ["A.java".toList] := by
  obtain ⟨below, -, ofTargets, -⟩ := links_below_root_are_exact
  have isRoute : IsRoute ["src".toList, "A.java".toList] := by decide
  obtain ⟨link, -⟩ := below (.ofText "./a/../b//".toList) _ isRoute
  obtain ⟨-, single⟩ := ofTargets nestedFile nestedFileOptions _ rfl _ List.mem_cons_self
  obtain ⟨name, ends, linked⟩ := single (by decide +kernel)
  have named : name = Utf8.encode "A.java".toList := by
    have last : (targetOfOptions nestedFile nestedFileOptions).root.fileName? =
        some (Utf8.encode "A.java".toList) := by decide +kernel
    exact Option.some.inj (ends.symm.trans last)
  rw [named, Utf8.decode_encode] at linked
  exact ⟨link, linked⟩

end BacklogTrace.Run
