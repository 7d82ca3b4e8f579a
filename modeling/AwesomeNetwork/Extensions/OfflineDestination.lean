import Mathlib.Data.List.Induction
import AwesomeNetwork.Extensions.URL

/-! # Where an offline file is

The last path component of a URL may be empty, a slash, or a text that leads elsewhere: one
that stands for the folder itself or for its parent, or one that holds slashes, which were
percent-encoded in the URL. Otherwise it names a file directly inside the folder.
-/

namespace AwesomeNetwork

namespace FilePath

theorem resolved_append (first second : FilePath) :
    resolved (first ++ second) = second.foldl (fun parents component =>
      if component = "." then parents
      else if component = ".." then parents.dropLast
      else parents ++ [component]) first.resolved :=
  List.foldl_append

/-- A component that is neither `"."` nor `".."` is resolved to itself. -/
theorem resolved_append_file (path : FilePath) {component : String} (here : component ≠ ".")
    (parent : component ≠ "..") :
    resolved (path ++ [component]) = path.resolved ++ [component] := by
  rw [resolved_append, List.foldl_cons, List.foldl_nil, if_neg here, if_neg parent]

/-- Resolving a path adds no component. -/
theorem mem_resolved {path : FilePath} {component : String} (member : component ∈ path.resolved) :
    component ∈ path := by
  induction path using List.reverseRecOn with
  | nil => cases member
  | append_singleton path last ih =>
      rw [resolved_append, List.foldl_cons, List.foldl_nil] at member
      split at member
      · exact List.mem_append_left _ (ih member)
      · split at member
        · exact List.mem_append_left _ (ih (List.dropLast_subset _ member))
        · rcases List.mem_append.mp member with earlier | final
          · exact List.mem_append_left _ (ih earlier)
          · exact List.mem_append_right _ final

/-- A component without a slash is appended as it is. -/
theorem appendingPathComponent_of_slashless (path : FilePath) {component : String}
    (named : component ≠ "") (slashless : '/' ∉ component.toList) :
    path.appendingPathComponent component = path ++ [component] := by
  have filled : component.toList ≠ [] := by
    intro empty
    exact named (String.toList_eq_nil_iff.mp empty)
  have kept : [component.toList].filter (· ≠ []) = [component.toList] :=
    List.filter_cons_of_pos (decide_eq_true filled)
  unfold appendingPathComponent
  rw [List.splitOn_eq_singleton slashless, kept, List.map_singleton, String.ofList_toList]

end FilePath

namespace URL

/-- The last path component is the name of a file: it stands neither for the folder
itself nor for its parent, and leads to no other folder. -/
def HasFileName (url : URL) : Prop :=
  url.lastPathComponent ≠ "" ∧ url.lastPathComponent ≠ "." ∧ url.lastPathComponent ≠ ".." ∧
    '/' ∉ url.lastPathComponent.toList

instance (url : URL) : Decidable url.HasFileName := inferInstanceAs (Decidable (_ ∧ _))

/-- The directory that a folder stands for. -/
def folderDirectory : Option String → FilePath
  | some folder => destination folder
  | none => documentsDirectory

/-- The path of the file named by the last path component directly inside the folder. -/
def filePath (url : URL) (folder : Option String) : FilePath :=
  (folderDirectory folder).resolved ++ [url.lastPathComponent]

variable {url other : URL} {folder : Option String}

/-- The place of a file is one component appended to the directory of its folder. -/
theorem offlineFileDestination_eq (url : URL) (folder : Option String) :
    url.offlineFileDestination folder =
      (folderDirectory folder).appendingPathComponent url.lastPathComponent := by
  cases folder <;> rfl

/-- The parts of a text between its slashes hold none. -/
theorem slashless_of_mem_splitOn {text component : List Char}
    (member : component ∈ text.splitOn '/') : '/' ∉ component := by
  induction text generalizing component with
  | nil =>
      cases List.mem_singleton.mp member
      exact List.not_mem_nil
  | cons letter text ih =>
      rw [List.splitOn_cons_eq_if_modifyHead] at member
      split at member
      · rcases List.mem_cons.mp member with rfl | later
        · exact List.not_mem_nil
        · exact ih later
      · next different =>
          cases parts : text.splitOn '/' with
          | nil => exact (List.splitOn_ne_nil '/' text parts).elim
          | cons first rest =>
              rw [parts] at member ih
              rcases List.mem_cons.mp member with rfl | later
              · intro slash
                rcases List.mem_cons.mp slash with same | inside
                · exact different (beq_iff_eq.mpr same.symm)
                · exact ih List.mem_cons_self inside
              · exact ih (List.mem_cons_of_mem first later)

/-- A file name leads to the file of that name inside the folder. -/
theorem resolved_destination (named : url.HasFileName) :
    (url.offlineFileDestination folder).resolved = url.filePath folder := by
  obtain ⟨filled, here, parent, slashless⟩ := named
  rw [offlineFileDestination_eq, FilePath.appendingPathComponent_of_slashless _ filled slashless,
    FilePath.resolved_append_file _ here parent]
  rfl

/-- Appending a slash denotes the same directory. -/
theorem appendingPathComponent_slash (path : FilePath) :
    path.appendingPathComponent "/" = path := List.append_nil path

theorem appendingPathComponent_empty (path : FilePath) :
    path.appendingPathComponent "" = path := List.append_nil path

/-- A file of a folder is neither the folder nor above it. -/
theorem filePath_not_prefix (url : URL) (folder : Option String) :
    ¬ url.filePath folder <+: (folderDirectory folder).resolved := by
  intro above
  have short := above.length_le
  unfold filePath at short
  rw [List.length_append, List.length_singleton] at short
  exact Nat.not_succ_le_self _ short

/-- Inside one folder, the last path component decides the path. -/
theorem filePath_inj {first second : URL} {folder : Option String} :
    first.filePath folder = second.filePath folder ↔
      first.lastPathComponent = second.lastPathComponent := by
  unfold filePath
  rw [List.append_cancel_left_eq, List.singleton_inj]

/-- The components that are appended hold no slash. -/
theorem slashless_of_mem_append {path : FilePath} {text component : String}
    (slashless : ∀ other ∈ path, '/' ∉ other.toList)
    (member : component ∈ path.appendingPathComponent text) : '/' ∉ component.toList := by
  rcases List.mem_append.mp member with inside | appended
  · exact slashless component inside
  · obtain ⟨letters, part, rfl⟩ := List.mem_map.mp appended
    rw [String.toList_ofList]
    exact slashless_of_mem_splitOn (List.mem_of_mem_filter part)

theorem slashless_documentsDirectory :
    ∀ component ∈ documentsDirectory, '/' ∉ component.toList := by decide

theorem slashless_folderDirectory (folder : Option String) :
    ∀ component ∈ folderDirectory folder, '/' ∉ component.toList := by
  cases folder with
  | none => exact slashless_documentsDirectory
  | some folder => exact fun _ => slashless_of_mem_append slashless_documentsDirectory

/-- The last path component holds no slash that was escaped. -/
def NamesOneComponent (url : URL) : Prop :=
  url.lastPathComponent = "/" ∨ '/' ∉ url.lastPathComponent.toList

instance (url : URL) : Decidable url.NamesOneComponent := inferInstanceAs (Decidable (_ ∨ _))

/-- One component that is no file name leads to the folder or to its parent. -/
theorem resolved_destination_of_unnamed (single : url.NamesOneComponent)
    (unnamed : ¬ url.HasFileName) (folder : Option String) :
    (url.offlineFileDestination folder).resolved <+: (folderDirectory folder).resolved := by
  rw [offlineFileDestination_eq]
  rcases single with root | slashless
  · exact root ▸ (appendingPathComponent_slash _).symm ▸ List.prefix_refl _
  by_cases filled : url.lastPathComponent = ""
  · exact filled ▸ (appendingPathComponent_empty _).symm ▸ List.prefix_refl _
  rw [FilePath.appendingPathComponent_of_slashless _ filled slashless, FilePath.resolved_append,
    List.foldl_cons, List.foldl_nil]
  split
  · exact List.prefix_refl _
  · next here =>
      split
      · exact List.dropLast_prefix _
      · next parent => exact (unnamed ⟨filled, here, parent, slashless⟩).elim

/-- Only a file name leads to the file of that name: any other last component leads to the
folder, to its parent, or along components without the slashes that it holds. -/
theorem resolved_destination_eq_filePath_iff :
    (url.offlineFileDestination folder).resolved = url.filePath folder ↔ url.HasFileName := by
  refine ⟨fun same => ?_, resolved_destination⟩
  have slashless : '/' ∉ url.lastPathComponent.toList := by
    have last : url.lastPathComponent ∈ (url.offlineFileDestination folder).resolved := by
      rw [same]
      exact List.mem_append_right _ (List.mem_singleton_self _)
    rw [offlineFileDestination_eq] at last
    exact slashless_of_mem_append (slashless_folderDirectory folder) (FilePath.mem_resolved last)
  by_contra unnamed
  have above := resolved_destination_of_unnamed (Or.inr slashless) unnamed folder
  rw [same] at above
  exact url.filePath_not_prefix folder above

end URL

end AwesomeNetwork
