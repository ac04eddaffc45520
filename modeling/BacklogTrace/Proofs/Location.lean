import BacklogTrace.Location
import BacklogTrace.Proofs.Path.Spelled
import BacklogTrace.Proofs.Text.Utf8

/-!
Contract: links of what is below a root.

Names that are text lead from a root to what is below it. A link below the root is
these names with slashes between them, and an address is the same behind the parts of
the repository, from which the slashes around them are taken. No slash is in a name,
so the names can be read off a link, and different paths below a root have different
links.

Owns: `Path.IsRoute`, `Path.IsBelow`, `Repository.IsAddress`.

Does not own: how a root is spelled (`Proofs.Path.Spelled`), which root a scan is
given (`Proofs.Run.Links`).
-/

namespace BacklogTrace

namespace Path

/-! ## Routes -/

/-- A name that is text. -/
structure IsTextName (name : Text) : Prop where
  nonempty : name ≠ []
  noSlash : '/' ∉ name
  notHere : name ≠ ['.']
  notUp : name ≠ ['.', '.']

/-- Names, at least one, that lead from a root to what is below it. -/
structure IsRoute (names : List Text) : Prop where
  nonempty : names ≠ []
  named : ∀ name ∈ names, IsTextName name

instance (name : Text) : Decidable (IsTextName name) :=
  decidable_of_iff (name ≠ [] ∧ '/' ∉ name ∧ name ≠ ['.'] ∧ name ≠ ['.', '.'])
    ⟨fun ⟨nonempty, noSlash, notHere, notUp⟩ => ⟨nonempty, noSlash, notHere, notUp⟩,
      fun ⟨nonempty, noSlash, notHere, notUp⟩ => ⟨nonempty, noSlash, notHere, notUp⟩⟩

instance (names : List Text) : Decidable (IsRoute names) :=
  decidable_of_iff (names ≠ [] ∧ ∀ name ∈ names, IsTextName name)
    ⟨fun ⟨nonempty, named⟩ => ⟨nonempty, named⟩, fun ⟨nonempty, named⟩ => ⟨nonempty, named⟩⟩

/-- The path that is written as names with slashes between them. -/
def route (names : List Text) : Path :=
  .ofText (['/'].intercalate names)

/-- A path to which names that are text lead from a root. -/
def IsBelow (root path : Path) : Prop :=
  ∃ names, IsRoute names ∧ path = root.join (route names)

theorem IsTextName.isName_encode {name : Text} (named : IsTextName name) :
    IsName (Utf8.encode name) where
  noSlash := by
    intro member
    have inText : '/' ∈ name := Utf8.mem_of_mem_encode (by decide) member
    exact named.noSlash inText
  busy := by
    rw [isIdle, Bool.or_eq_false_iff, List.isEmpty_eq_false_iff, beq_eq_false_iff_ne]
    constructor
    · intro same
      exact named.nonempty (Utf8.encode_injective (same.trans Utf8.encode_nil.symm))
    · intro same
      have written : Utf8.encode ['.'] = [dot] := by decide
      exact named.notHere (Utf8.encode_injective (same.trans written.symm))
  notUp := by
    intro same
    have written : Utf8.encode ['.', '.'] = [dot, dot] := by decide
    exact named.notUp (Utf8.encode_injective (same.trans written.symm))

theorem route_eq_spell (names : List Text) : route names = ⟨spell (names.map Utf8.encode)⟩ := by
  rw [route, ofText, spell]
  apply congrArg
  induction names with
  | nil => rfl
  | cons name names inductionHypothesis =>
      cases names with
      | nil => simp
      | cons next others =>
          have separator : Utf8.encode ['/'] = [slash] := by decide
          rw [List.intercalate_cons_cons, List.map_cons, List.map_cons,
            List.intercalate_cons_cons, Utf8.encode_append, Utf8.encode_append,
            inductionHypothesis, separator, List.map_cons]

namespace IsRoute

variable {names others : List Text}

theorem isName_encode (isRoute : IsRoute names) :
    ∀ name ∈ names.map Utf8.encode, IsName name := by
  intro name member
  obtain ⟨text, among, rfl⟩ := List.mem_map.1 member
  exact (isRoute.named text among).isName_encode

theorem relativeTo_join (isRoute : IsRoute names) (root : Path) :
    relativeTo root (root.join (route names)) = route names := by
  have some : names.map Utf8.encode ≠ [] := by simpa using isRoute.nonempty
  rw [route_eq_spell]
  exact Path.relativeTo_join root some isRoute.isName_encode

/-- The names of a route can be read off what is written. -/
theorem eq_of_intercalate_eq (isRoute : IsRoute names) (othersRoute : IsRoute others)
    (same : ['/'].intercalate names = ['/'].intercalate others) : names = others := by
  have read : ∀ {names : List Text}, IsRoute names →
      Sequence.splitOn '/' (['/'].intercalate names) = names := fun isRoute =>
    Sequence.splitOn_intercalate isRoute.nonempty fun name member =>
      (isRoute.named name member).noSlash
  calc
    names = Sequence.splitOn '/' (['/'].intercalate names) := (read isRoute).symm
    _ = Sequence.splitOn '/' (['/'].intercalate others) := by rw [same]
    _ = others := read othersRoute

end IsRoute

theorem shown_route (names : List Text) : (route names).shown = ['/'].intercalate names :=
  Utf8.decode_encode _

/-- The names of names that are spelled. -/
theorem names_spell {names : List Bytes} (named : ∀ name ∈ names, IsName name) :
    (Path.mk (spell names)).names = names.map Utf8.decode := by
  rw [Path.names, components_spell named, List.filterMap_map, ← List.filterMap_eq_map]
  rfl

theorem names_route {names : List Text} (isRoute : IsRoute names) :
    (route names).names = names := by
  have back : Utf8.decode ∘ Utf8.encode = id := funext Utf8.decode_encode
  rw [route_eq_spell, names_spell isRoute.isName_encode, List.map_map, back, List.map_id]

end Path

namespace Repository

/-! ## Addresses -/

/-- What is left of a part of an address without the slashes at its end. -/
structure IsStrippedAtEnd (part core : Text) : Prop where
  around : ∃ after, part = core ++ after ∧ ∀ character ∈ after, character = '/'
  last : core.getLast? ≠ some '/'

/-- What is left of a part of an address without the slashes around it. -/
structure IsStripped (part core : Text) : Prop where
  around : ∃ before after, part = before ++ core ++ after ∧
    (∀ character ∈ before, character = '/') ∧ ∀ character ∈ after, character = '/'
  first : core.head? ≠ some '/'
  last : core.getLast? ≠ some '/'

/-- The address of what names lead to in a repository: the host, the owner, the
repository, the branch and the names, with one slash between each and the next. -/
def IsAddress (repository : Repository) (names : List Text) (link : Text) : Prop :=
  ∃ host owner project branch, IsStrippedAtEnd repository.baseUrl host ∧
    IsStripped repository.organization owner ∧ IsStripped repository.repository project ∧
    IsStripped repository.branch branch ∧
    link = ['/'].intercalate (host :: owner :: project :: "blob".toList :: branch :: names)

theorem isStrippedAtEnd_dropEndWhile (part : Text) :
    IsStrippedAtEnd part (Sequence.dropEndWhile (· == '/') part) where
  around := by
    obtain ⟨after, shape, dropped⟩ := Sequence.exists_append_of_dropEndWhile (· == '/') part
    exact ⟨after, shape, fun character member => by simpa using dropped character member⟩
  last := by
    intro ends
    exact absurd (Sequence.eq_false_of_getLast?_dropEndWhile ends) (by decide)

theorem isStripped_dropSlashes (part : Text) : IsStripped part (dropSlashes part) := by
  have atEnd := isStrippedAtEnd_dropEndWhile (part.dropWhile (· == '/'))
  obtain ⟨after, shape, slashes⟩ := atEnd.around
  refine ⟨⟨part.takeWhile (· == '/'), after, ?_, ?_, slashes⟩, ?_, atEnd.last⟩
  · rw [List.append_assoc, dropSlashes, Sequence.trimWhile, ← shape,
      List.takeWhile_append_dropWhile]
  · intro character member
    simpa using List.all_eq_true.1 List.all_takeWhile character member
  · intro begins
    have first : (part.dropWhile (· == '/')).head? = some '/' := by
      rw [shape, List.head?_append]
      rw [dropSlashes, Sequence.trimWhile] at begins
      rw [begins]
      rfl
    have stays := List.head?_dropWhile_not (· == '/') part
    rw [first] at stays
    exact absurd stays (by decide)

theorem isAddress_address (repository : Repository) {names : List Text} (nonempty : names ≠ []) :
    repository.IsAddress names (repository.address names) := by
  refine ⟨_, _, _, _, isStrippedAtEnd_dropEndWhile _, isStripped_dropSlashes _,
    isStripped_dropSlashes _, isStripped_dropSlashes _, ?_⟩
  cases names with
  | nil => exact absurd rfl nonempty
  | cons first others =>
      simp [address, List.intercalate_cons_cons]

/-- The addresses of a repository begin with the same parts. -/
theorem intercalate_eq_of_address_eq {repository : Repository} {names others : List Text}
    (same : repository.address names = repository.address others) :
    ['/'].intercalate names = ['/'].intercalate others := by
  unfold address at same
  exact (List.cons.inj (List.append_cancel_left same)).2

end Repository

namespace Location

open BacklogTrace.Path (IsRoute IsBelow route)

variable {root path other : Path} {names : List Text} {repository : Repository}

/-! ## Links below a root -/

theorem link_below (root : Path) (isRoute : IsRoute names) :
    (Location.below root).link (root.join (route names)) = ['/'].intercalate names := by
  rw [link, isRoute.relativeTo_join, Path.shown_route]

theorem link_hosted (repository : Repository) (root : Path) (isRoute : IsRoute names) :
    (Location.hosted repository root).link (root.join (route names)) =
      repository.address names := by
  rw [link, isRoute.relativeTo_join, Path.names_route isRoute]

/-- Different paths below a root have different links, if different names are written
differently. -/
theorem eq_of_link_eq {location : Location} {write : List Text → Text}
    (links : ∀ names, IsRoute names → location.link (root.join (route names)) = write names)
    (separates : ∀ names others, write names = write others →
      ['/'].intercalate names = ['/'].intercalate others)
    (isBelow : IsBelow root path) (otherBelow : IsBelow root other)
    (same : location.link path = location.link other) : path = other := by
  obtain ⟨names, isRoute, path⟩ := isBelow
  obtain ⟨others, othersRoute, other⟩ := otherBelow
  rw [path, other, links names isRoute, links others othersRoute] at same
  rw [path, other, isRoute.eq_of_intercalate_eq othersRoute (separates names others same)]

theorem eq_of_link_below_eq (isBelow : IsBelow root path) (otherBelow : IsBelow root other)
    (same : (Location.below root).link path = (Location.below root).link other) :
    path = other := by
  apply eq_of_link_eq (fun _ => link_below root) _ isBelow otherBelow same
  intro names others same
  exact same

theorem eq_of_link_hosted_eq (isBelow : IsBelow root path) (otherBelow : IsBelow root other)
    (same : (Location.hosted repository root).link path =
      (Location.hosted repository root).link other) : path = other := by
  apply eq_of_link_eq (fun _ => link_hosted repository root) _ isBelow otherBelow same
  intro names others same
  exact Repository.intercalate_eq_of_address_eq same

/-! ## Links of single files -/

section

variable {name : Bytes}

theorem link_below_parent (ends : path.fileName? = some name) :
    (Location.below (path.parent?.getD ⟨[]⟩)).link path = Utf8.decode name := by
  rw [link, Path.relativeTo_parent ends]
  rfl

theorem link_hosted_parent (repository : Repository) (ends : path.fileName? = some name) :
    (Location.hosted repository (path.parent?.getD ⟨[]⟩)).link path =
      repository.address [Utf8.decode name] := by
  have single : Path.spell [name] = name := by simp [Path.spell]
  have onlyName : ∀ other ∈ [name], Path.IsName other :=
    List.forall_mem_singleton.2 (Path.isName_of_fileName? ends)
  have names := Path.names_spell onlyName
  rw [single] at names
  rw [link, Path.relativeTo_parent ends, names]
  rfl

end

end Location

end BacklogTrace
