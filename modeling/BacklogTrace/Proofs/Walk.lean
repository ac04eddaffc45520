import BacklogTrace.Proofs.FileSystem.Children
import BacklogTrace.Proofs.Path.Below
import BacklogTrace.Walk

/-!
Contract: what a walk lists, and that it ends by itself.

A walk lists entries by paths that lead from its root by names, says of each whether
it is a regular file, and lists no regular file twice. This holds whatever is ignored
and wherever links lead: an entry is listed by the names that lead to it, and the
entries of a directory have different names.

A walk goes through a link only to a place that is not being walked, and otherwise
down to a place with one more name. Places are finite in number and in length, so a
walk is never cut short: a limit to its depth beyond `depthLimit` changes nothing.

Owns: `Walk.IsListing`, `Walk.items` at any depth.

Does not own: which entries are ignored (`Ignore`), the order of a listing, on
which nothing depends.
-/

namespace BacklogTrace.Walk

/-- Entries by paths that lead from a root by names, each said to be a regular file
if it is one, and each regular file once. Nothing is found from a root that is
spelled as nothing. -/
structure IsListing (fileSystem : FileSystem) (root : Path) (items : List Item) : Prop where
  spelled : ∀ path isFile, Item.entry path isFile ∈ items → root.spelling ≠ []
  placed : ∀ path isFile, Item.entry path isFile ∈ items →
    ∃ names, (∀ name ∈ names, Path.IsName name) ∧ path = root.below names
  regular : ∀ path isFile, Item.entry path isFile ∈ items → fileSystem.isFile path = isFile
  distinct : (regularFiles items).Nodup

variable {fileSystem : FileSystem} {root : Path} {items : List Item}

theorem mem_regularFiles_iff {path : Path} :
    path ∈ regularFiles items ↔ Item.entry path true ∈ items := by
  rw [regularFiles, List.mem_filterMap]
  constructor
  · rintro ⟨item, member, given⟩
    split at given
    case h_1 => exact Option.some.inj given ▸ member
    case h_2 => exact absurd given (by simp)
    case h_3 => exact absurd given (by simp)
  · intro member
    exact ⟨_, member, rfl⟩

theorem regularFiles_flatMap {α : Type} (elements : List α) (listings : α → List Item) :
    regularFiles (elements.flatMap listings) =
      elements.flatMap fun element => regularFiles (listings element) :=
  List.filterMap_flatMap

namespace IsListing

theorem nil : IsListing fileSystem root [] :=
  ⟨nofun, nofun, nofun, List.nodup_nil⟩

theorem failed : IsListing fileSystem root [.failed] where
  spelled := by simp
  placed := by simp
  regular := by simp
  distinct := List.nodup_nil

theorem file (nonempty : root.spelling ≠ []) (regular : fileSystem.isFile root = true) :
    IsListing fileSystem root [.entry root true] where
  spelled := fun _ _ _ => nonempty
  placed := by
    intro path isFile member
    cases List.mem_singleton.1 member
    exact ⟨[], List.forall_mem_nil _, rfl⟩
  regular := by
    intro path isFile member
    cases List.mem_singleton.1 member
    exact regular
  distinct := List.nodup_singleton root

/-- A directory goes before what is listed below it. -/
theorem directory (nonempty : root.spelling ≠ []) (directory : fileSystem.isFile root = false)
    (listed : IsListing fileSystem root items) :
    IsListing fileSystem root (.entry root false :: items) where
  spelled := fun _ _ _ => nonempty
  placed := by
    intro path isFile member
    cases List.mem_cons.1 member with
    | inl here =>
        cases here
        exact ⟨[], List.forall_mem_nil _, rfl⟩
    | inr below => exact listed.placed path isFile below
  regular := by
    intro path isFile member
    cases List.mem_cons.1 member with
    | inl here =>
        cases here
        exact directory
    | inr below => exact listed.regular path isFile below
  distinct := listed.distinct

theorem perm {others : List Item} (listed : IsListing fileSystem root items)
    (same : others.Perm items) : IsListing fileSystem root others :=
  ⟨fun path isFile member => listed.spelled path isFile (same.mem_iff.1 member),
    fun path isFile member => listed.placed path isFile (same.mem_iff.1 member),
    fun path isFile member => listed.regular path isFile (same.mem_iff.1 member),
    (same.filterMap _).nodup_iff.2 listed.distinct⟩

/-- The regular files of a listing are what it lists and is a regular file. -/
theorem mem_regularFiles_iff (listed : IsListing fileSystem root items) {path : Path} :
    path ∈ regularFiles items ↔
      (∃ isFile, Item.entry path isFile ∈ items) ∧ fileSystem.isFile path = true := by
  rw [Walk.mem_regularFiles_iff]
  constructor
  · intro member
    exact ⟨⟨true, member⟩, listed.regular path true member⟩
  · rintro ⟨⟨isFile, member⟩, regular⟩
    rw [listed.regular path isFile member] at regular
    exact regular ▸ member

/-- Different regular files of a listing take different steps. -/
theorem eq_of_components_eq (listed : IsListing fileSystem root items) {path other : Path}
    (member : path ∈ regularFiles items) (otherMember : other ∈ regularFiles items)
    (same : path.components = other.components) : path = other := by
  rw [Walk.mem_regularFiles_iff] at member otherMember
  have nonempty := listed.spelled path true member
  obtain ⟨names, named, rfl⟩ := listed.placed path true member
  obtain ⟨others, othersNamed, rfl⟩ := listed.placed other true otherMember
  exact congrArg root.below (Path.names_eq_of_components_eq nonempty named othersNamed same)

/-- Listings below the entries of a directory make a listing of the directory. -/
theorem flatMap {children : List (Bytes × Node)} {listings : Bytes × Node → List Item}
    (nonempty : root.spelling ≠ []) (named : ∀ child ∈ children, Path.IsName child.1)
    (distinct : children.Pairwise fun child other => child.1 ≠ other.1)
    (listed : ∀ child ∈ children,
      IsListing fileSystem (root.join ⟨child.1⟩) (listings child)) :
    IsListing fileSystem root (children.flatMap listings) where
  spelled := fun _ _ _ => nonempty
  placed := by
    intro path isFile member
    obtain ⟨child, among, below⟩ := List.mem_flatMap.1 member
    obtain ⟨names, namesNamed, rfl⟩ := (listed child among).placed path isFile below
    exact ⟨child.1 :: names, List.forall_mem_cons.2 ⟨named child among, namesNamed⟩, rfl⟩
  regular := by
    intro path isFile member
    obtain ⟨child, among, below⟩ := List.mem_flatMap.1 member
    exact (listed child among).regular path isFile below
  distinct := by
    rw [regularFiles_flatMap, List.nodup_flatMap]
    refine ⟨fun child among => (listed child among).distinct, ?_⟩
    refine distinct.imp_of_mem ?_
    intro child other among otherAmong different path below otherBelow
    rw [Walk.mem_regularFiles_iff] at below otherBelow
    -- a path that two entries list begins with the names of both
    obtain ⟨names, namesNamed, rfl⟩ := (listed child among).placed path true below
    obtain ⟨others, othersNamed, same⟩ := (listed other otherAmong).placed _ true otherBelow
    have sameNames : child.1 :: names = other.1 :: others :=
      Path.names_eq_of_components_eq nonempty
        (List.forall_mem_cons.2 ⟨named child among, namesNamed⟩)
        (List.forall_mem_cons.2 ⟨named other otherAmong, othersNamed⟩)
        (congrArg Path.components same)
    exact different (List.cons.inj sameNames).1

end IsListing

/-! ## One entry -/

section

variable {enter other : Path → Place → List Item} {stack : Ignore.Stack} {walking : List Place}
  {path : Path} {place childPlace : Place} {child : Bytes × Node}

theorem isFile_of_place? (leads : fileSystem.place? path = some place) :
    fileSystem.isFile path = true ↔ ∃ file, fileSystem.node? place = some (.regular file) := by
  rw [FileSystem.isFile_iff, FileSystem.target?, leads, Option.bind_some]

theorem isFile_of_directory (leads : fileSystem.place? path = some place)
    (directory : fileSystem.node? place = some .directory) : fileSystem.isFile path = false := by
  rw [← Bool.not_eq_true, isFile_of_place? leads, directory]
  rintro ⟨file, same⟩
  exact absurd same (by simp)

theorem place?_of_childPlace? (nonempty : path.spelling ≠ [])
    (leads : fileSystem.place? path = some place)
    (directory : fileSystem.node? place = some .directory)
    (member : child ∈ fileSystem.children place)
    (given : childPlace? fileSystem path place child = some childPlace) :
    fileSystem.place? (path.join ⟨child.1⟩) = some childPlace := by
  rw [childPlace?] at given
  split at given
  case isTrue => exact given
  case isFalse noLink =>
    rw [← Option.some.inj given]
    refine FileSystem.place?_join nonempty leads directory member fun target link => ?_
    rw [link] at noLink
    exact noLink rfl

/-- At an entry a walk lists nothing, fails, lists a regular file, or lists a directory
and goes on in it. -/
theorem isListing_itemsOfChild (nonempty : path.spelling ≠ [])
    (leads : fileSystem.place? path = some place)
    (directory : fileSystem.node? place = some .directory)
    (member : child ∈ fileSystem.children place)
    (entered : ∀ childPlace, fileSystem.place? (path.join ⟨child.1⟩) = some childPlace →
      fileSystem.node? childPlace = some .directory →
        IsListing fileSystem (path.join ⟨child.1⟩) (enter (path.join ⟨child.1⟩) childPlace)) :
    IsListing fileSystem (path.join ⟨child.1⟩)
      (itemsOfChild fileSystem enter stack walking path place child) := by
  have spelled :=
    Path.spelling_join_ne_nil nonempty (FileSystem.isName_of_mem_children member)
  rw [itemsOfChild]
  cases given : childPlace? fileSystem path place child with
  | none => exact .failed
  | some childPlace =>
      have childLeads := place?_of_childPlace? nonempty leads directory member given
      dsimp only
      cases there : fileSystem.node? childPlace with
      | none => exact .failed
      | some node =>
          cases node with
          | directory =>
              dsimp only
              split
              · exact .failed
              · split
                · exact .nil
                · exact .directory spelled (isFile_of_directory childLeads there)
                    (entered childPlace childLeads there)
          | regular file =>
              dsimp only
              split
              · exact .nil
              · exact .file spelled ((isFile_of_place? childLeads).2 ⟨file, there⟩)
          | link target => exact .failed

end

/-! ## A walk -/

/-- What a walk yields below a directory is a listing of it. -/
theorem isListing_itemsBelow (depth : Nat) (stack : Ignore.Stack) (walking : List Place)
    {path : Path} {place : Place} (nonempty : path.spelling ≠ [])
    (leads : fileSystem.place? path = some place)
    (directory : fileSystem.node? place = some .directory) :
    IsListing fileSystem path (itemsBelow fileSystem depth stack walking path place) := by
  induction depth generalizing stack walking path place with
  | zero => exact .nil
  | succ depth inductionHypothesis =>
      rw [itemsBelow]
      apply IsListing.flatMap nonempty
      · intro child member
        exact FileSystem.isName_of_mem_children member
      · exact fileSystem.pairwise_children place
      · intro child member
        apply isListing_itemsOfChild nonempty leads directory member
        intro childPlace childLeads childDirectory
        have spelled :=
          Path.spelling_join_ne_nil nonempty (FileSystem.isName_of_mem_children member)
        exact inductionHypothesis _ _ spelled childLeads childDirectory

theorem spelling_ne_nil_of_place? {path : Path} {place : Place}
    (leads : fileSystem.place? path = some place) : path.spelling ≠ [] := by
  intro empty
  simp [FileSystem.place?, FileSystem.locate, empty] at leads

theorem isListing_items (fileSystem : FileSystem) (root : Path) :
    IsListing fileSystem root (Walk.items fileSystem root) := by
  rw [Walk.items]
  cases leads : fileSystem.place? root with
  | none => exact .failed
  | some place =>
      have nonempty := spelling_ne_nil_of_place? leads
      dsimp only
      cases there : fileSystem.node? place with
      | none => exact .failed
      | some node =>
          cases node with
          | directory =>
              exact .directory nonempty (isFile_of_directory leads there)
                (isListing_itemsBelow _ _ _ nonempty leads there)
          | regular file => exact .file nonempty ((isFile_of_place? leads).2 ⟨file, there⟩)
          | link target => exact .failed

/-! ## The depth of a walk -/

section

variable {walking : List Place} {path : Path} {place childPlace : Place} {child : Bytes × Node}

/-- The places that are not being walked, the top included. -/
def unwalked (fileSystem : FileSystem) (walking : List Place) : List Place :=
  ([] :: fileSystem.entries.map Prod.fst).filter fun place => !walking.contains place

theorem unwalked_cons (fileSystem : FileSystem) (walking : List Place) (place : Place) :
    unwalked fileSystem (place :: walking) =
      (unwalked fileSystem walking).filter fun other => other != place := by
  rw [unwalked, unwalked, List.filter_filter]
  apply List.filter_congr
  intro other _
  rw [List.contains_cons, Bool.not_or]
  rfl

theorem mem_unwalked_of_node? {node : Node} (there : fileSystem.node? place = some node)
    (fresh : walking.contains place = false) : place ∈ unwalked fileSystem walking := by
  apply List.mem_filter.2
  constructor
  · by_cases top : place = []
    · rw [top]
      exact List.mem_cons_self
    · have listed := Entries.mem_of_node? top there
      exact List.mem_cons_of_mem _ (List.mem_map_of_mem listed)
  · rw [fresh]
    rfl

theorem length_unwalked_cons_le (fileSystem : FileSystem) (walking : List Place) (place : Place) :
    (unwalked fileSystem (place :: walking)).length ≤ (unwalked fileSystem walking).length := by
  rw [unwalked_cons]
  exact List.length_filter_le _ _

theorem length_unwalked_cons_lt {node : Node} (there : fileSystem.node? place = some node)
    (fresh : walking.contains place = false) :
    (unwalked fileSystem (place :: walking)).length < (unwalked fileSystem walking).length := by
  rw [unwalked_cons, List.length_filter_lt_length_iff_exists]
  exact ⟨place, mem_unwalked_of_node? there fresh, by simp⟩

theorem length_le_longestPlace {node : Node} (there : fileSystem.node? place = some node) :
    place.length ≤ longestPlace fileSystem := by
  by_cases top : place = []
  · rw [top]
    exact Nat.zero_le _
  · have listed := Entries.mem_of_node? top there
    exact List.le_max?_getD_of_mem (List.mem_map_of_mem (f := fun entry => entry.1.length) listed)

/-- How much deeper a walk can go: to each place that is not being walked, and from
each place down to the longest. -/
def depthLeft (fileSystem : FileSystem) (walking : List Place) (place : Place) : Nat :=
  (unwalked fileSystem walking).length * (longestPlace fileSystem + 1) +
    (longestPlace fileSystem - place.length)

/-- A walk that enters an entry can go less deep from there. -/
theorem depthLeft_lt (given : childPlace? fileSystem path place child = some childPlace)
    (directory : fileSystem.node? childPlace = some .directory)
    (fresh : isLink child.2 = true → walking.contains childPlace = false) :
    depthLeft fileSystem (childPlace :: walking) childPlace <
      depthLeft fileSystem walking place := by
  have notLonger := length_le_longestPlace directory
  have fewer := length_unwalked_cons_le fileSystem walking childPlace
  rw [childPlace?] at given
  rw [depthLeft, depthLeft]
  split at given
  case isTrue link =>
    have strictly := length_unwalked_cons_lt directory (fresh link)
    have product := Nat.mul_le_mul_right (longestPlace fileSystem + 1) strictly
    rw [Nat.succ_mul] at product
    omega
  case isFalse =>
    have longer : childPlace.length = place.length + 1 := by
      rw [← Option.some.inj given, List.length_append]
      rfl
    have product := Nat.mul_le_mul_right (longestPlace fileSystem + 1) fewer
    omega

/-- What a walk yields at an entry depends on how it goes on in the places it enters. -/
theorem itemsOfChild_congr {enter other : Path → Place → List Item} {stack : Ignore.Stack}
    (same : ∀ childPlace, childPlace? fileSystem path place child = some childPlace →
      fileSystem.node? childPlace = some .directory →
        (isLink child.2 = true → walking.contains childPlace = false) →
          enter (path.join ⟨child.1⟩) childPlace = other (path.join ⟨child.1⟩) childPlace) :
    itemsOfChild fileSystem enter stack walking path place child =
      itemsOfChild fileSystem other stack walking path place child := by
  rw [itemsOfChild, itemsOfChild]
  cases given : childPlace? fileSystem path place child with
  | none => rfl
  | some childPlace =>
      dsimp only
      cases there : fileSystem.node? childPlace with
      | none => rfl
      | some node =>
          cases node with
          | regular file => rfl
          | link target => rfl
          | directory =>
              dsimp only
              split
              case isTrue => rfl
              case isFalse notAgain =>
                rw [same childPlace given there fun link => by simpa [link] using notAgain]

theorem itemsBelow_of_depthLeft_lt {stack : Ignore.Stack} {depth other : Nat}
    (enough : depthLeft fileSystem walking place < depth)
    (alsoEnough : depthLeft fileSystem walking place < other) :
    itemsBelow fileSystem depth stack walking path place =
      itemsBelow fileSystem other stack walking path place := by
  induction depth generalizing other stack walking path place with
  | zero => exact absurd enough (Nat.not_lt_zero _)
  | succ depth inductionHypothesis =>
      cases other with
      | zero => exact absurd alsoEnough (Nat.not_lt_zero _)
      | succ other =>
          rw [itemsBelow, itemsBelow]
          apply List.flatMap_congr
          intro child member
          apply itemsOfChild_congr
          intro childPlace given directory fresh
          have less := depthLeft_lt given directory fresh
          exact inductionHypothesis (by omega) (by omega)

/-- A walk is not cut short: beyond the limit, its depth makes no difference. -/
theorem itemsBelow_of_depthLimit_le (stack : Ignore.Stack) (path : Path)
    (directory : fileSystem.node? place = some .directory) {depth : Nat}
    (enough : depthLimit fileSystem ≤ depth) :
    itemsBelow fileSystem depth stack [place] path place =
      itemsBelow fileSystem (depthLimit fileSystem) stack [place] path place := by
  have others : (unwalked fileSystem [place]).length ≤ fileSystem.entries.length := by
    have fewer : (unwalked fileSystem [place]).length < (unwalked fileSystem []).length :=
      length_unwalked_cons_lt directory rfl
    have all : (unwalked fileSystem []).length = fileSystem.entries.length + 1 := by
      simp [unwalked]
    omega
  have product := Nat.mul_le_mul_right (longestPlace fileSystem + 1) others
  have left : depthLeft fileSystem [place] place < depthLimit fileSystem := by
    rw [depthLeft, depthLimit, Nat.succ_mul]
    omega
  exact itemsBelow_of_depthLeft_lt (by omega) left

end

end BacklogTrace.Walk
