import AisStation.Config.Store
import Mathlib.Data.List.Sort
import Mathlib.Data.String.Basic

/-!
# The files in a directory

A tree of files has no directories of its own: a name is in a directory if the path of some file
leads there. The listing of a directory holds each name once, in the order of the characters, so the
entries of the directory determine it, whatever the order in which the tree holds its files.
-/

namespace AisStation.Config

namespace FileTree

variable {files : FileTree} {directory place : Path} {name : String}

/-! ## Order -/

theorem nodup_eraseDups (names : List String) : names.eraseDups.Nodup := by
  cases names with
  | nil => exact List.nodup_nil
  | cons name rest =>
    rw [List.eraseDups_cons, List.nodup_cons]
    constructor
    · intro hname
      have hother := (List.mem_filter.mp (List.mem_eraseDups.mp hname)).2
      rw [BEq.rfl] at hother
      contradiction
    · exact nodup_eraseDups (rest.filter fun other => !other == name)
termination_by names.length
decreasing_by
  have hfilter := List.length_filter_le (fun other => !other == name) rest
  rw [List.length_cons]
  omega

theorem pairwise_mergeSort (names : List String) :
    (names.eraseDups.mergeSort fun a b => decide (a ≤ b)).Pairwise (· < ·) := by
  have hsorted := List.pairwise_mergeSort' (α := String) (· ≤ ·) names.eraseDups
  have hnodup : (names.eraseDups.mergeSort fun a b => decide (a ≤ b)).Nodup :=
    (List.mergeSort_perm _ _).nodup_iff.mpr (nodup_eraseDups names)
  exact (hsorted.and hnodup).imp fun h => lt_of_le_of_ne h.1 h.2

theorem names_pairwise (files : FileTree) (directory : Path) :
    (files.names directory).Pairwise (· < ·) := by
  rw [names]
  cases files.locate? directory with
  | none => exact List.Pairwise.nil
  | some place => exact pairwise_mergeSort _

/-! ## Members -/

theorem append_prefix_iff {path : Path} :
    place ++ [name] <+: path ↔ place <+: path ∧ path[place.length]? = some name := by
  constructor
  · rintro ⟨rest, rfl⟩
    refine ⟨⟨name :: rest, by simp⟩, by simp⟩
  · rintro ⟨⟨rest, rfl⟩, hname⟩
    rw [List.getElem?_append_right (Nat.le_refl _), Nat.sub_self] at hname
    cases rest with
    | nil => contradiction
    | cons step rest =>
      obtain rfl := Option.some.inj hname
      exact ⟨rest, by simp⟩

theorem mem_names (hplace : files.locate? directory = some place) :
    name ∈ files.names directory ↔ ∃ file ∈ files.files, place ++ [name] <+: file.1 := by
  rw [names, hplace]
  dsimp only
  rw [List.mem_mergeSort, List.mem_eraseDups, List.mem_filterMap]
  refine exists_congr fun file => and_congr_right fun _ => ?_
  rw [append_prefix_iff, ← List.isPrefixOf_iff_prefix]
  cases List.isPrefixOf place file.1 <;> simp

/-- There is something at a place if the path of some file leads there. -/
theorem isSome_lookup_or_isDirectory {path : Path} (haround : isAround path = false) :
    ((files.files.lookup path).isSome = true ∨ files.isDirectory path = true) ↔
      ∃ file ∈ files.files, path <+: file.1 := by
  rw [List.lookup_isSome_iff, isDirectory, haround, Bool.false_or, List.any_eq_true]
  constructor
  · rintro (⟨file, hfile, heq⟩ | ⟨file, hfile, hinside⟩)
    · exact ⟨file, hfile, eq_of_beq heq ▸ List.prefix_rfl⟩
    · obtain ⟨hfront, -⟩ := Bool.and_eq_true_iff.mp hinside
      exact ⟨file, hfile, List.isPrefixOf_iff_prefix.mp hfront⟩
  · rintro ⟨file, hfile, hfront⟩
    -- The path ends inside that of the file, or it is that of the file.
    by_cases hlength : path.length < file.1.length
    · refine Or.inr ⟨file, hfile, Bool.and_eq_true_iff.mpr ⟨?_, decide_eq_true hlength⟩⟩
      exact List.isPrefixOf_iff_prefix.mpr hfront
    · have heq : path = file.1 := hfront.eq_of_length_le (Nat.le_of_not_lt hlength)
      exact Or.inl ⟨file, hfile, heq ▸ BEq.rfl⟩

/-- Is the text the name of a step that leads on, and neither one back nor the front of an absolute
path? -/
def IsName (name : String) : Prop :=
  name ≠ ".." ∧ name ≠ "/" ∧ name ≠ "//"

theorem isAround_append (h : IsName name) : isAround (place ++ [name]) = false := by
  obtain ⟨hback, hroot, hroots⟩ := h
  cases place with
  | nil => simp [isAround, hback, hroot, hroots]
  | cons step place => simp [isAround, hback]

theorem locate?_append (h : IsName name) :
    files.locate? (directory ++ [name]) = (files.locate? directory).map (· ++ [name]) := by
  rw [locate?, List.foldlM_append]
  change (files.locate? directory).bind _ = _
  cases files.locate? directory with
  | none => rfl
  | some place =>
    have hstep : files.stepTo? place name = some (place ++ [name]) := by
      rw [stepTo?, if_pos (by simp [h.1])]
    simp [hstep]

/-- A directory lists what there is in it. -/
theorem mem_names_iff (h : IsName name) :
    name ∈ files.names directory ↔ (files.entry? (directory ++ [name])).isSome = true := by
  cases hplace : files.locate? directory with
  | none =>
    simp [names, entry?, hplace, locate?_append h]
  | some place =>
    rw [mem_names hplace, ← isSome_lookup_or_isDirectory (isAround_append h), entry?,
      locate?_append h, hplace]
    cases hlookup : files.files.lookup (place ++ [name]) <;>
      cases hdirectory : files.isDirectory (place ++ [name]) <;> simp [hlookup, hdirectory]

end FileTree

/-! ## Overrides -/

/-- The names of all entries of a directory that are laid over a base file, in order. -/
structure IsListing (files : FileTree) (directory : Path) (names : List String) : Prop where
  sorted : names.Pairwise (· < ·)
  mem_iff : ∀ name, name ∈ names ↔
    isOverride name = true ∧ (files.entry? (directory ++ [name])).isSome = true

theorem IsListing.eq {files : FileTree} {directory : Path} {names names' : List String}
    (h : IsListing files directory names) (h' : IsListing files directory names') :
    names = names' :=
  h.sorted.eq_of_mem_iff h'.sorted fun name => (h.mem_iff name).trans (h'.mem_iff name).symm

theorem isName_of_isOverride {name : String} (h : isOverride name = true) :
    FileTree.IsName name := by
  refine ⟨?_, ?_, ?_⟩ <;>
    · rintro rfl
      revert h
      decide +kernel

theorem isListing_names (files : FileTree) (directory : Path) :
    IsListing files directory ((files.names directory).filter isOverride) := by
  refine ⟨(files.names_pairwise directory).filter _, fun name => ?_⟩
  rw [List.mem_filter, and_comm]
  exact and_congr_right fun h => FileTree.mem_names_iff (isName_of_isOverride h)

end AisStation.Config
