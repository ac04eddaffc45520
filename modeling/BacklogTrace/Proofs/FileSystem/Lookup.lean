import BacklogTrace.FileSystem.Lookup
import BacklogTrace.Proofs.Path.Spelled

/-!
Contract: following a path, one segment at a time.

A path that can be followed is at a directory before each of its segments. What
comes of a segment depends on what the segment is and on what is found at it; a
name that is free ends a path, and a link begins another.

Owns: `FileSystem.Advances`, `FileSystem.Follows`, `FileSystem.MeetsLink`,
`FileSystem.IsVacant`.

Does not own: what is read or written where a path leads
(`Proofs.FileSystem.Writing`).
-/

namespace BacklogTrace.FileSystem

variable {fileSystem : FileSystem} {place : Place} {segment : Bytes} {rest : List Bytes}
  {progress : Progress}

/-- What following segments from a place comes to, one constructor for each kind
of segment. -/
inductive Advances (fileSystem : FileSystem) : Place → List Bytes → Progress → Prop
  | here (place : Place) : Advances fileSystem place [] (.arrived (.present place))
  | idle {place : Place} {segment : Bytes} {rest : List Bytes} {progress : Progress}
      (directory : fileSystem.node? place = some .directory)
      (idle : Path.isIdle segment = true)
      (further : Advances fileSystem place rest progress) :
      Advances fileSystem place (segment :: rest) progress
  | up {place : Place} {segment : Bytes} {rest : List Bytes} {progress : Progress}
      (directory : fileSystem.node? place = some .directory)
      (busy : Path.isIdle segment = false) (up : segment = [Path.dot, Path.dot])
      (further : Advances fileSystem place.dropLast rest progress) :
      Advances fileSystem place (segment :: rest) progress
  | vacant {place : Place} {segment : Bytes}
      (directory : fileSystem.node? place = some .directory)
      (busy : Path.isIdle segment = false) (notUp : segment ≠ [Path.dot, Path.dot])
      (absent : fileSystem.node? (place ++ [segment]) = none) :
      Advances fileSystem place [segment] (.arrived (.vacant (place ++ [segment])))
  | detour {place : Place} {segment : Bytes} {rest : List Bytes} {target : Path}
      (directory : fileSystem.node? place = some .directory)
      (busy : Path.isIdle segment = false) (notUp : segment ≠ [Path.dot, Path.dot])
      (link : fileSystem.node? (place ++ [segment]) = some (.link target)) :
      Advances fileSystem place (segment :: rest)
        (.detour (startOf target place) (spelledSegments target ++ rest))
  | down {place : Place} {segment : Bytes} {rest : List Bytes} {node : Node}
      {progress : Progress}
      (directory : fileSystem.node? place = some .directory)
      (busy : Path.isIdle segment = false) (notUp : segment ≠ [Path.dot, Path.dot])
      (found : fileSystem.node? (place ++ [segment]) = some node)
      (noLink : ∀ target, node ≠ .link target)
      (further : Advances fileSystem (place ++ [segment]) rest progress) :
      Advances fileSystem place (segment :: rest) progress

/-- A segment is looked up in a directory. -/
theorem node?_of_advance_cons
    (advances : fileSystem.advance place (segment :: rest) = some progress) :
    fileSystem.node? place = some .directory := by
  refine Classical.byContradiction fun other => ?_
  rw [advance, if_pos other] at advances
  exact absurd advances (by simp)

/-- What following a path comes to is what its segments come to. -/
theorem advance_eq_some_iff {segments : List Bytes} :
    fileSystem.advance place segments = some progress ↔
      fileSystem.Advances place segments progress := by
  constructor
  · intro advances
    induction segments generalizing place with
    | nil =>
        rw [← Option.some.inj advances]
        exact .here place
    | cons segment rest inductionHypothesis =>
        have directory := node?_of_advance_cons advances
        rw [advance, if_neg (not_not_intro directory)] at advances
        split at advances
        case isTrue idle => exact .idle directory idle (inductionHypothesis advances)
        case isFalse notIdle =>
          have busy := eq_false_of_ne_true notIdle
          split at advances
          case isTrue up => exact .up directory busy up (inductionHypothesis advances)
          case isFalse notUp =>
            split at advances
            case h_1 absent =>
              cases rest with
              | nil =>
                  rw [← Option.some.inj advances]
                  exact .vacant directory busy notUp absent
              | cons _ _ => exact absurd advances (by simp)
            case h_2 target link =>
              rw [← Option.some.inj advances]
              exact .detour directory busy notUp link
            case h_3 node noLink found =>
              exact .down directory busy notUp found noLink (inductionHypothesis advances)
  · intro advances
    induction advances with
    | here place => rfl
    | idle directory idle _ inductionHypothesis =>
        rw [advance, if_neg (not_not_intro directory), if_pos idle, inductionHypothesis]
    | up directory busy up _ inductionHypothesis =>
        rw [advance, if_neg (not_not_intro directory), if_neg (ne_true_of_eq_false busy), if_pos up,
          inductionHypothesis]
    | vacant directory busy notUp absent =>
        rw [advance, if_neg (not_not_intro directory), if_neg (ne_true_of_eq_false busy),
          if_neg notUp, absent]
        rfl
    | detour directory busy notUp link =>
        rw [advance, if_neg (not_not_intro directory), if_neg (ne_true_of_eq_false busy),
          if_neg notUp, link]
    | @down place segment rest node progress directory busy notUp found noLink _
        inductionHypothesis =>
        rw [advance, if_neg (not_not_intro directory), if_neg (ne_true_of_eq_false busy),
          if_neg notUp, found]
        cases node with
        | link target => exact absurd rfl (noLink target)
        | regular file => exact inductionHypothesis
        | directory => exact inductionHypothesis

/-- Where following segments from a place leads, in stretches from link to link. -/
inductive Follows (fileSystem : FileSystem) : Nat → Place → List Bytes → Destination → Prop
  | arrived {links : Nat} {place : Place} {segments : List Bytes} {destination : Destination}
      (advances : fileSystem.Advances place segments (.arrived destination)) :
      Follows fileSystem links place segments destination
  | detour {links : Nat} {place directory : Place} {segments others : List Bytes}
      {destination : Destination}
      (advances : fileSystem.Advances place segments (.detour directory others))
      (further : Follows fileSystem links directory others destination) :
      Follows fileSystem (links + 1) place segments destination

theorem follow_eq_some_iff {links : Nat} {segments : List Bytes} {destination : Destination} :
    fileSystem.follow links place segments = some destination ↔
      fileSystem.Follows links place segments destination := by
  constructor
  · intro follows
    fun_induction FileSystem.follow fileSystem links place segments with
    | case1 => exact absurd follows (by simp)
    | case2 links place segments reached advances =>
        rw [← Option.some.inj follows]
        exact .arrived (advance_eq_some_iff.1 advances)
    | case3 => exact absurd follows (by simp)
    | case4 place segments directory others advances links inductionHypothesis =>
        exact .detour (advance_eq_some_iff.1 advances) (inductionHypothesis follows)
  · intro follows
    induction follows with
    | @arrived links place segments destination advances =>
        rw [follow.eq_def]
        dsimp only
        rw [advance_eq_some_iff.2 advances]
    | detour advances _ inductionHypothesis =>
        rw [follow, advance_eq_some_iff.2 advances]
        exact inductionHypothesis

/-- Segments of which one is the name of a link, and what is to be followed instead:
the target of the link, then the rest. -/
def MeetsLink (segments others : List Bytes) : Prop :=
  ∃ front segment target rest, segments = front ++ segment :: rest ∧
    Path.isIdle segment = false ∧ segment ≠ [Path.dot, Path.dot] ∧
    others = spelledSegments target ++ rest

theorem MeetsLink.cons {segments others : List Bytes} (meets : MeetsLink segments others)
    (first : Bytes) : MeetsLink (first :: segments) others := by
  obtain ⟨front, segment, target, rest, shape, met⟩ := meets
  exact ⟨first :: front, segment, target, rest, congrArg _ shape, met⟩

theorem Advances.meetsLink {start directory : Place} {segments others : List Bytes}
    (advances : fileSystem.Advances start segments (.detour directory others)) :
    MeetsLink segments others := by
  generalize meets : Progress.detour directory others = progress at advances
  induction advances with
  | here _ => exact absurd meets (by simp)
  | vacant _ _ _ _ => exact absurd meets (by simp)
  | @detour place segment rest target _ busy notUp _ =>
      cases meets
      exact ⟨[], segment, target, rest, rfl, busy, notUp, rfl⟩
  | idle _ _ _ inductionHypothesis => exact (inductionHypothesis meets).cons _
  | up _ _ _ _ inductionHypothesis => exact (inductionHypothesis meets).cons _
  | down _ _ _ _ _ _ inductionHypothesis => exact (inductionHypothesis meets).cons _

/-! ## Free names -/

theorem noSlash_of_mem_spelledSegments {path : Path} :
    ∀ segment ∈ spelledSegments path, Path.slash ∉ segment :=
  fun _ => Path.slash_not_mem_of_mem_splitOn

theorem MeetsLink.noSlash {segments others : List Bytes} (meets : MeetsLink segments others)
    (noSlash : ∀ segment ∈ segments, Path.slash ∉ segment) :
    ∀ segment ∈ others, Path.slash ∉ segment := by
  obtain ⟨front, name, target, rest, shape, -, -, same⟩ := meets
  rw [shape] at noSlash
  rw [same]
  refine List.forall_mem_append.2 ⟨noSlash_of_mem_spelledSegments, ?_⟩
  intro segment member
  exact noSlash segment (by simp [member])

/-- A free name in a directory. -/
def IsVacant (fileSystem : FileSystem) (place : Place) : Prop :=
  ∃ directory name, place = directory ++ [name] ∧ Path.IsName name ∧
    fileSystem.node? directory = some .directory ∧ fileSystem.node? place = none

theorem Advances.isVacant {start : Place} {segments : List Bytes}
    (advances : fileSystem.Advances start segments (.arrived (.vacant place)))
    (noSlash : ∀ segment ∈ segments, Path.slash ∉ segment) : fileSystem.IsVacant place := by
  generalize ends : Progress.arrived (.vacant place) = progress at advances
  induction advances with
  | here _ => exact absurd ends (by simp)
  | @vacant directory name isDirectory busy notUp absent =>
      cases ends
      exact ⟨directory, name, rfl, ⟨noSlash name List.mem_cons_self, busy, notUp⟩, isDirectory,
        absent⟩
  | detour _ _ _ _ => exact absurd ends (by simp)
  | idle _ _ _ inductionHypothesis =>
      exact inductionHypothesis (List.forall_mem_cons.1 noSlash).2 ends
  | up _ _ _ _ inductionHypothesis =>
      exact inductionHypothesis (List.forall_mem_cons.1 noSlash).2 ends
  | down _ _ _ _ _ _ inductionHypothesis =>
      exact inductionHypothesis (List.forall_mem_cons.1 noSlash).2 ends

theorem Follows.isVacant {links : Nat} {start : Place} {segments : List Bytes}
    (follows : fileSystem.Follows links start segments (.vacant place))
    (noSlash : ∀ segment ∈ segments, Path.slash ∉ segment) : fileSystem.IsVacant place := by
  generalize ends : Destination.vacant place = destination at follows
  induction follows with
  | arrived advances =>
      cases ends
      exact advances.isVacant noSlash
  | detour advances _ inductionHypothesis =>
      exact inductionHypothesis (advances.meetsLink.noSlash noSlash) ends

/-- A path that leads to something that does not exist leads to a free name. -/
theorem isVacant_of_locate {path : Path} (leads : fileSystem.locate path = some (.vacant place)) :
    fileSystem.IsVacant place := by
  rw [locate] at leads
  split at leads
  case isTrue => exact absurd leads (by simp)
  case isFalse => exact (follow_eq_some_iff.1 leads).isVacant noSlash_of_mem_spelledSegments

/-- A free name can be taken. -/
theorem IsVacant.fits (vacant : fileSystem.IsVacant place) : fileSystem.Fits place := by
  obtain ⟨directory, name, rfl, named, isDirectory, absent⟩ := vacant
  refine ⟨(isPlace_of_node? isDirectory).concat named, by simp, ?_, ?_⟩
  · rw [List.dropLast_concat]
    exact isDirectory
  · rw [absent]
    exact Option.some_ne_none _ |>.symm

/-- What is no directory can be replaced. -/
theorem fits_of_node? {node : Node} (there : fileSystem.node? place = some node)
    (noDirectory : node ≠ .directory) : fileSystem.Fits place where
  isPlace := isPlace_of_node? there
  below := by
    rintro rfl
    exact noDirectory (Option.some.inj there).symm
  above := node?_dropLast there
  free := by
    rw [there]
    exact fun same => noDirectory (Option.some.inj same)

/-! ## What is there -/

theorem place?_eq_some_iff {path : Path} :
    fileSystem.place? path = some place ↔ fileSystem.locate path = some (.present place) := by
  rw [place?]
  cases fileSystem.locate path with
  | none => simp
  | some destination => cases destination <;> simp

theorem file?_eq_some_iff {path : Path} {file : File} :
    fileSystem.file? path = some file ↔ fileSystem.target? path = some (.regular file) := by
  rw [file?]
  cases fileSystem.target? path with
  | none => simp
  | some node => cases node <;> simp

theorem isFile_iff {path : Path} :
    fileSystem.isFile path = true ↔ ∃ file, fileSystem.target? path = some (.regular file) := by
  rw [isFile, Option.isSome_iff_exists]
  exact exists_congr fun _ => file?_eq_some_iff

theorem pathExists_of_isFile {path : Path} (file : fileSystem.isFile path = true) :
    fileSystem.pathExists path = true := by
  obtain ⟨found, target⟩ := isFile_iff.1 file
  rw [pathExists, target]
  rfl

theorem read?_eq_some_iff {path : Path} {content : Bytes} :
    fileSystem.read? path = some content ↔ fileSystem.read path = .ok content := by
  rw [read?]
  cases fileSystem.read path <;> simp [Except.toOption]

theorem read?_eq_none_iff {path : Path} :
    fileSystem.read? path = none ↔ ∃ reason, fileSystem.read path = .error reason := by
  rw [read?]
  cases fileSystem.read path <;> simp [Except.toOption]

/-- A file cannot be read for its own reason. -/
theorem readFault_of_read {path : Path} {file : File} {reason : Text}
    (given : fileSystem.file? path = some file)
    (fails : fileSystem.read path = .error reason) : file.readFault = some reason := by
  rw [read, file?_eq_some_iff.1 given] at fails
  dsimp only at fails
  rw [File.read] at fails
  split at fails
  case h_1 => exact absurd fails (by simp)
  case h_2 => rw [‹file.readFault = some _›, Except.error.inj fails]

theorem pathExists_of_read? {path : Path} {content : Bytes}
    (holds : fileSystem.read? path = some content) : fileSystem.pathExists path = true := by
  have reads := read?_eq_some_iff.1 holds
  rw [pathExists]
  cases target : fileSystem.target? path with
  | none => simp [read, target] at reads
  | some node => rfl

end BacklogTrace.FileSystem
