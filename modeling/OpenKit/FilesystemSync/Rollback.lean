import OpenKit.FilesystemSync.Effects

namespace OpenKit
namespace FilesystemSync

open Foundation List
open Foundation.Effect

/-!
# Undoing an interrupted apply

Whatever strikes an apply, the target stays in a shape that the rollback knows
how to undo: a private path can hold anything, a reviewed path holds a file or
nothing, a parent that was missing before may have been made, and every other
path is as it was.  `Undoable` is that shape.  Every program of a call keeps it,
and a rollback that returns has turned it back into the original tree.

The last step needs a condition.  A rollback walks from an added file outwards
and leaves at the first parent that is missing, so it does not find a directory whose
added files all lack their own directory.  Such a directory is there for a moment while
the parents of a path are made, outermost first, or removed, innermost first.  `covered`
says that there is none, and a fault must not strike while there is one.
-/

variable {platform : SyncPlatform} {ignored : List Path} {original edited : FileTree Content}
  {input : ApplyStagedFilesystemChangesInput} {edit : WorkspaceChangedPath}
  {entry : FileState}

/-! ## Reviews of one target -/

/-- The change set of a call was built from a snapshot of the target and one of
an edited copy, both with the same ignored paths. -/
structure ReviewOf (platform : SyncPlatform) (ignored : List Path)
    (original edited : FileTree Content) (input : ApplyStagedFilesystemChangesInput) : Prop where
  before : input.before = createFilesystemSnapshotManifest platform ignored original
  built : buildFilesystemWorkspaceChangeSet input.changeSet.id input.before
    (createFilesystemSnapshotManifest platform ignored edited) = .ok input.changeSet

/-- No path of the target and no reviewed path runs through a replacement root. -/
def PrivateNamesFree (platform : SyncPlatform) (original : FileTree Content)
    (input : ApplyStagedFilesystemChangesInput) : Prop :=
  ∀ reviewed ∈ filesystemReplacementPaths input.changeSet,
    original.node? (filesystemReplacementRoot platform input.workspaceId input.reviewId reviewed) = none /\
      ∀ changedPath ∈ input.changeSet.changedPaths,
        ¬ filesystemReplacementRoot platform input.workspaceId input.reviewId reviewed <+:
          changedPath.path

/-- Every directory that was made on the way to an added path leads to an added path whose
own directory is there. -/
def covered (input : ApplyStagedFilesystemChangesInput) (tree : FileTree Content) : Bool :=
  let added := input.changeSet.changedPaths.filter (·.status = .added)
  added.all (fun changedPath => changedPath.path.parents.all (fun parent =>
    (directoriesOf input.before).contains parent || !tree.isDirectory parent ||
      added.any (fun other =>
        other.path.parents.contains parent && tree.isDirectory other.path.dropLast)))

/-- The states in which a fault may strike. -/
def Exposed (input : ApplyStagedFilesystemChangesInput) (state : SyncState) : Prop :=
  covered input state.target

def Reviewed (input : ApplyStagedFilesystemChangesInput) (path : Path) : Prop :=
  ∃ changedPath ∈ input.changeSet.changedPaths, changedPath.path = path

/-- A directory that an apply makes on the way to an added file. -/
def Created (original : FileTree Content) (input : ApplyStagedFilesystemChangesInput) (path : Path) :
    Prop :=
  original.node? path = none /\ ∃ changedPath ∈ input.changeSet.changedPaths,
    changedPath.status = .added /\ path ∈ changedPath.path.parents

/-- A shape of the target that a rollback can undo. -/
def Undoable (platform : SyncPlatform) (original : FileTree Content)
    (input : ApplyStagedFilesystemChangesInput) (tree : FileTree Content) : Prop :=
  ∀ path, Private platform input path \/ tree.node? path = original.node? path \/
    (Reviewed input path /\ (tree.node? path = none \/
      ∃ content mode, tree.node? path = some (.file content (permissionsSummary mode)))) \/
    (Created original input path /\ (tree.node? path = none \/
      ∃ permissions, tree.node? path = some (.directory permissions)))

/-- A directory that the apply made leads to an added path of `rest` whose own directory is
there. -/
def CoveredBy (original : FileTree Content) (input : ApplyStagedFilesystemChangesInput)
    (rest : List WorkspaceChangedPath) (tree : FileTree Content) : Prop :=
  ∀ path, Created original input path -> tree.isDirectory path ->
    ∃ changedPath ∈ input.changeSet.changedPaths, changedPath ∈ rest /\
      changedPath.status = .added /\ path ∈ changedPath.path.parents /\
      tree.isDirectory changedPath.path.dropLast

/-- A target that a rollback turns back into the original one. -/
structure Restorable (platform : SyncPlatform) (original : FileTree Content)
    (input : ApplyStagedFilesystemChangesInput) (tree : FileTree Content) : Prop where
  undoable : Undoable platform original input tree
  covered : CoveredBy original input input.changeSet.changedPaths tree

/-- Every reviewed path fits the target, as the preparation of a rollback checks. -/
def Admissible (platform : SyncPlatform) (original : FileTree Content)
    (input : ApplyStagedFilesystemChangesInput) : Prop :=
  ∀ changedPath ∈ input.changeSet.changedPaths,
    requireTargetMatchesBefore platform input.before original changedPath = .ok ()

section Reviews

variable {path : Path} {tree : FileTree Content}

theorem digestBuffer_injective (injective : Function.Injective platform.sha256) :
    Function.Injective platform.digestBuffer := by
  intro left right same
  exact injective (String.append_right_inj _ |>.mp same)

variable (legal : Admissible platform original input)
  (review : ReviewOf platform ignored original edited input)
  (free : PrivateNamesFree platform original input)
  (mem : edit ∈ input.changeSet.changedPaths)

include review mem

theorem ReviewOf.changed : changedPath? (fileEntriesByPath input.before)
      (fileEntriesByPath (createFilesystemSnapshotManifest platform ignored edited))
      edit.path = some edit :=
  (mem_changedPaths_iff review.built).mp mem

theorem ReviewOf.visible : Visible ignored edit.path := by
  have changed := review.changed mem
  rw [review.before] at changed
  rcases changedPath?_cases changed with ⟨_, _, found, _⟩ | ⟨_, found, _⟩ | ⟨_, _, found, _⟩ |
    ⟨_, _, found, _⟩
  all_goals exact (fileEntriesByPath_get?_iff.mp found).1

/-- A path is added exactly when the base snapshot does not know it. -/
theorem ReviewOf.added_iff :
    edit.status = .added <-> (fileEntriesByPath input.before).get? edit.path = none := by
  rcases changedPath?_cases (review.changed mem) with ⟨_, absent, _, status, _⟩ |
    ⟨_, found, _, status⟩ | ⟨_, _, found, _, status, _⟩ | ⟨_, _, found, _, _, status, _⟩
  · simp [status, absent]
  · simp [status, found]
  · simp [status, found]
  · simp [status, found]

theorem ReviewOf.not_added (found : (fileEntriesByPath input.before).get? edit.path = some entry) :
    edit.status ≠ .added := by
  rw [Ne, review.added_iff mem, found]
  exact Option.some_ne_none entry

theorem ReviewOf.distinct {other : WorkspaceChangedPath}
    (otherMember : other ∈ input.changeSet.changedPaths) (same : edit.path = other.path) :
    edit = other :=
  inj_on_of_nodup_map (changedPaths_nodup review.built) mem otherMember same

/-- A path that stays is a file of the edited tree, and the review has its permissions. -/
theorem ReviewOf.edited_file (stays : edit.status ≠ .deleted) :
    ∃ data mode, edited.node? edit.path = some (.file data mode) /\
      edit.newPermissions = some (permissionsSummary mode) := by
  have changed := review.changed mem
  rcases changedPath?_cases changed with ⟨_, _, found, _, _, _, perms⟩ | ⟨_, _, _, status⟩ |
    ⟨_, _, _, found, _, _, _, perms⟩ | ⟨_, _, _, found, _, _, _, _, perms⟩
  · rcases (fileEntriesByPath_get?_iff.mp found).2 with ⟨data, mode, file, rfl⟩
    exact ⟨data, mode, file, perms⟩
  · exact absurd status stays
  · rcases (fileEntriesByPath_get?_iff.mp found).2 with ⟨data, mode, file, rfl⟩
    exact ⟨data, mode, file, perms⟩
  · rcases (fileEntriesByPath_get?_iff.mp found).2 with ⟨data, mode, file, rfl⟩
    exact ⟨data, mode, file, perms⟩

theorem ReviewOf.safe : isSafeRelativePath edit.path :=
  (build_ok review.built).2.2 edit mem

omit mem

theorem ReviewOf.known (found : (fileEntriesByPath input.before).get? path = some entry) :
    ∃ data perms, original.node? path = some (.file data perms) /\
      entry = ⟨data.length, platform.digestBuffer data, permissionsSummary perms⟩ := by
  rw [review.before] at found
  exact (fileEntriesByPath_get?_iff.mp found).2

omit review in
theorem mem_directoriesOf_iff :
    path ∈ directoriesOf (createFilesystemSnapshotManifest platform ignored tree) <->
      Visible ignored path /\ ∃ perms, tree.node? path = some (.directory perms) := by
  unfold directoriesOf
  rw [mem_filterMap]
  constructor
  · rintro ⟨⟨place, kind⟩, mem, selected⟩
    cases kind with
    | directory perms =>
      cases selected
      rcases (mem_manifest_visible_iff (by simp)).mp mem with ⟨visible, node, found, same⟩
      cases node with
      | directory mode => exact ⟨visible, mode, found⟩
      | file | symlink | special => cases same
    | file | symlink | ignored => cases selected
  · rintro ⟨visible, perms, found⟩
    refine ⟨⟨path, .directory (permissionsSummary perms)⟩, ?_, rfl⟩
    exact (mem_manifest_visible_iff (by simp)).mpr ⟨visible, _, found, rfl⟩

/-- The base snapshot knows no directory where the target had nothing. -/
theorem ReviewOf.unknown_of_absent (absent : original.node? path = none) :
    path ∉ directoriesOf input.before := by
  intro known
  rw [review.before, mem_directoriesOf_iff, absent] at known
  rcases known.2 with ⟨_, never⟩
  cases never

/-! ## What an admissible target looks like -/

include legal mem

theorem Admissible.added (added : edit.status = .added) :
    original.node? edit.path = none /\ WritableParents edit.path original := by
  have fits := legal edit mem
  rcases bind_inv fits with ⟨current, read, fits⟩
  rw [(review.added_iff mem).mp added] at fits
  rw [refuse_eq_ok_iff, Bool.not_eq_false', Bool.and_eq_true, Option.isNone_iff_eq_none] at fits
  rw [fits.1] at read
  exact readState_none read

omit mem

theorem Admissible.reviewed_not_directory (reviewed : Reviewed input path)
    (perms : Permissions) : original.node? path ≠ some (.directory perms) := by
  rcases reviewed with ⟨edit, mem, rfl⟩
  intro folder
  cases found : (fileEntriesByPath input.before).get? edit.path with
  | none =>
    have absent := (legal.added review mem ((review.added_iff mem).mpr found)).1
    rw [folder] at absent
    cases absent
  | some =>
    rcases review.known found with ⟨data, mode, file, _⟩
    rw [folder] at file
    cases file

omit legal

theorem ReviewOf.parent_of_known {parent : Path}
    (found : (fileEntriesByPath input.before).get? path = some entry)
    (leads : parent ∈ path.parents) : ∃ perms, original.node? parent = some (.directory perms) := by
  rcases review.known found with ⟨data, mode, file, _⟩
  rcases Path.mem_parents_iff.mp leads with ⟨named, isPrefix, apart⟩
  exact FileTree.directory_of_ancestor file isPrefix named apart

include legal mem

/-- On the way to an added path no other reviewed path lies. -/
theorem Admissible.parent_not_reviewed (added : edit.status = .added)
    (leads : path ∈ edit.path.parents) : ¬ Reviewed input path := by
  rintro ⟨other, otherMember, rfl⟩
  rcases Path.mem_parents_iff.mp leads with ⟨named, isPrefix, apart⟩
  rcases review.edited_file mem (by simp [added]) with ⟨_, _, file, _⟩
  rcases FileTree.directory_of_ancestor file isPrefix named apart with ⟨perms, folder⟩
  by_cases deleted : other.status = .deleted
  · -- a deleted path was a file, and an added path has none above it
    cases found : (fileEntriesByPath input.before).get? other.path with
    | none =>
      rw [(review.added_iff otherMember).mpr found] at deleted
      cases deleted
    | some =>
      rcases review.known found with ⟨_, _, was, _⟩
      have clear := (legal.added review mem added).2 other.path leads
      simp [was] at clear
  · rcases review.edited_file otherMember deleted with ⟨_, _, again, _⟩
    cases folder.symm.trans again

omit legal review

include free

theorem PrivateNamesFree.public_of_ancestor (isPrefix : path <+: edit.path) :
    ¬ Private platform input path := by
  rintro ⟨reviewed, listed, below⟩
  exact (free reviewed listed).2 edit mem (below.trans isPrefix)

omit mem

theorem PrivateNamesFree.original_none (isPrivate : Private platform input path) :
    original.node? path = none := by
  rcases isPrivate with ⟨reviewed, listed, below⟩
  exact cleared_of_absent replacementRoot_named (free reviewed listed).1 path below

/-! ## Steps that keep the shape -/

variable {old new : FileTree Content} {rest : List WorkspaceChangedPath}

omit free

include legal review

theorem covered_iff :
    covered input tree <-> CoveredBy original input input.changeSet.changedPaths tree := by
  simp only [covered, all_eq_true, any_eq_true, mem_filter, decide_eq_true_eq, Bool.or_eq_true,
    Bool.and_eq_true, Bool.not_eq_true', contains_iff_mem]
  constructor
  · rintro covers path ⟨absent, edit, mem, added, leads⟩ folder
    rcases covers edit ⟨mem, added⟩ path leads with (known | bare) |
      ⟨other, ⟨otherMember, otherAdded⟩, way, inner⟩
    · exact absurd known (review.unknown_of_absent absent)
    · rw [folder] at bare
      cases bare
    · exact ⟨other, otherMember, otherMember, otherAdded, way, inner⟩
  · rintro covers edit ⟨mem, added⟩ parent leads
    by_cases known : parent ∈ directoriesOf input.before
    · exact .inl (.inl known)
    cases folder : tree.isDirectory parent with
    | false => exact .inl (.inr rfl)
    | true =>
      have absent : original.node? parent = none := by
        refine ((legal.added review mem added).2 parent leads).resolve_right ?_
        intro held
        apply known
        rw [review.before, mem_directoriesOf_iff]
        exact ⟨(review.visible mem).of_ancestor (Path.mem_parents_iff.mp leads).2.1, held⟩
      rcases covers parent ⟨absent, edit, mem, added, leads⟩ folder with
        ⟨other, otherMember, _, otherAdded, way, inner⟩
      exact .inr ⟨other, ⟨otherMember, otherAdded⟩, way, inner⟩

omit legal review

/-- Only the parents of added paths matter. -/
theorem CoveredBy.congr (covers : CoveredBy original input rest old)
    (same : ∀ edit ∈ input.changeSet.changedPaths, edit.status = .added ->
      ∀ parent ∈ edit.path.parents, new.node? parent = old.node? parent) :
    CoveredBy original input rest new := by
  have directories : ∀ edit ∈ input.changeSet.changedPaths, edit.status = .added ->
      ∀ parent ∈ edit.path.parents, new.isDirectory parent = old.isDirectory parent := by
    intro edit mem added parent leads
    unfold FileTree.isDirectory
    rw [same edit mem added parent leads]
  rintro path ⟨absent, edit, mem, added, leads⟩ folder
  rw [directories edit mem added path leads] at folder
  rcases covers path ⟨absent, edit, mem, added, leads⟩ folder with
    ⟨other, otherMember, listed, otherAdded, way, inner⟩
  refine ⟨other, otherMember, listed, otherAdded, way, ?_⟩
  rw [directories other otherMember otherAdded _ (Path.dropLast_mem_of_mem way)]
  exact inner

theorem restorable_of_same (same : tree.Same original) :
    Restorable platform original input tree where
  undoable := fun path => .inr (.inl (same path))
  covered := by
    rintro path ⟨absent, edit, mem, added, leads⟩ folder
    rcases FileTree.isDirectory_iff.mp folder with root | ⟨perms, held⟩
    · exact absurd root (Path.mem_parents_iff.mp leads).1
    · rw [same, absent] at held
      cases held

variable (undoable : Undoable platform original input old)
  (restorable : Restorable platform original input old)

section Undoable

include undoable

/-- A step that changes only private paths. -/
theorem Undoable.sameButPrivate (same : SameButPrivate platform input old new) :
    Undoable platform original input new := by
  intro path
  by_cases isPrivate : Private platform input path
  · exact .inl isPrivate
  · rw [same path isPrivate]
    exact undoable path

include legal review

/-- A directory of the original target is still there. -/
theorem Undoable.original_directory {perms : Permissions} (isPublic : ¬ Private platform input path)
    (folder : original.node? path = some (.directory perms)) :
    old.node? path = some (.directory perms) := by
  rcases undoable path with isPrivate | same | ⟨reviewed, _⟩ | ⟨⟨absent, _⟩, _⟩
  · exact absurd isPrivate isPublic
  · exact same.trans folder
  · exact absurd folder (legal.reviewed_not_directory review reviewed perms)
  · rw [folder] at absent
    cases absent

include free mem

omit legal in
/-- A path that was a file never becomes a directory. -/
theorem Undoable.known_not_directory
    (found : (fileEntriesByPath input.before).get? edit.path = some entry)
    (perms : Permissions) : old.node? edit.path ≠ some (.directory perms) := by
  rcases review.known found with ⟨data, mode, file, _⟩
  intro folder
  rcases undoable edit.path with isPrivate | same | ⟨_, absent | ⟨_, _, held⟩⟩ | ⟨⟨absent, _⟩, _⟩
  · exact free.public_of_ancestor mem (prefix_refl _) isPrivate
  · rw [same, file] at folder
    cases folder
  · rw [absent] at folder
    cases folder
  · rw [held] at folder
    cases folder
  · rw [file] at absent
    cases absent

/-- Only directories are in the way of a reviewed path. -/
theorem Undoable.writable : WritableParents edit.path old := by
  intro parent leads
  have isPublic := free.public_of_ancestor mem (Path.mem_parents_iff.mp leads).2.1
  cases found : (fileEntriesByPath input.before).get? edit.path with
  | some =>
    rcases review.parent_of_known found leads with ⟨perms, folder⟩
    exact .inr ⟨perms, undoable.original_directory legal review isPublic folder⟩
  | none =>
    have added := (review.added_iff mem).mpr found
    rcases undoable parent with isPrivate | same | ⟨reviewed, _⟩ | ⟨_, shape⟩
    · exact absurd isPrivate isPublic
    · rw [same]
      exact (legal.added review mem added).2 parent leads
    · exact absurd reviewed (legal.parent_not_reviewed review mem added leads)
    · exact shape

/-- Making the missing parents of a reviewed path. -/
theorem Undoable.grown (grown : Grown (· ∈ edit.path.parents) old new) :
    Undoable platform original input new := by
  intro path
  rcases grown path with same | ⟨leads, absent, folder⟩
  · rw [same]
    exact undoable path
  have isPublic : ¬ Private platform input path :=
    free.public_of_ancestor mem (Path.mem_parents_iff.mp leads).2.1
  have notOriginal : ∀ perms, original.node? path ≠ some (.directory perms) := by
    intro perms original
    have present := undoable.original_directory legal review isPublic original
    rw [absent] at present
    cases present
  refine .inr (.inr (.inr ⟨?_, .inr folder⟩))
  cases found : (fileEntriesByPath input.before).get? edit.path with
  | some =>
    rcases review.parent_of_known found leads with ⟨perms, original⟩
    exact absurd original (notOriginal perms)
  | none =>
    have added := (review.added_iff mem).mpr found
    rcases (legal.added review mem added).2 path leads with missing | ⟨perms, held⟩
    · exact ⟨missing, edit, mem, added, leads⟩
    · exact absurd held (notOriginal perms)

omit legal

/-- Removing parents that the base snapshot does not know. -/
theorem Undoable.emptied {reason : Prop}
    (emptied : EmptiedUpTo (directoriesOf input.before) edit.path reason old new) :
    Undoable platform original input new := by
  rcases emptied with ⟨_, ⟨gone, split, pruned⟩, _⟩
  intro path
  rw [pruned.nodes]
  split
  next removed =>
    rcases pruned.unknown path removed with ⟨unknown, perms, was⟩
    have leads : path ∈ edit.path.parents := by
      rw [<- mem_reverse, split]
      exact mem_append_left _ removed
    have isPrefix := (Path.mem_parents_iff.mp leads).2.1
    rcases undoable path with isPrivate | same | ⟨reviewed, _⟩ | ⟨created, _⟩
    · exact absurd isPrivate (free.public_of_ancestor mem isPrefix)
    · refine absurd ?_ unknown
      rw [review.before, mem_directoriesOf_iff]
      exact ⟨(review.visible mem).of_ancestor isPrefix, perms, same ▸ was⟩
    · exact .inr (.inr (.inl ⟨reviewed, .inl rfl⟩))
    · exact .inr (.inr (.inr ⟨created, .inl rfl⟩))
  · exact undoable path

omit review free

/-- Writing a file, or removing one, at a reviewed path. -/
theorem Undoable.write {node : Option (Node Content)}
    (shape : node = none \/ ∃ data mode, node = some (.file data (permissionsSummary mode)))
    (wrote : ∀ path, new.node? path = if path = edit.path then node else old.node? path) :
    Undoable platform original input new := by
  intro path
  rw [wrote path]
  by_cases here : path = edit.path
  · rw [if_pos here]
    exact .inr (.inr (.inl ⟨⟨edit, mem, here.symm⟩, shape⟩))
  · rw [if_neg here]
    exact undoable path

theorem Undoable.replaced {mode : Permissions}
    (listed : edit.path ∈ filesystemReplacementPaths input.changeSet)
    (replaced : Replaced (filesystemReplacementRoot platform input.workspaceId input.reviewId
      edit.path) edit.path (some (permissionsSummary mode)) old new) :
    Undoable platform original input new := by
  intro path
  by_cases below : filesystemReplacementRoot platform input.workspaceId input.reviewId
      edit.path <+: path
  · exact .inl ⟨edit.path, listed, below⟩
  by_cases here : path = edit.path
  · subst here
    rcases replaced.2 with same | ⟨data, _, wrote⟩
    · rw [same]
      exact undoable edit.path
    · exact .inr (.inr (.inl ⟨⟨edit, mem, rfl⟩, .inr ⟨data, mode, wrote⟩⟩))
  · rw [replaced.1 path below here]
    exact undoable path

end Undoable

include legal review free restorable

/-- A step that touches private and reviewed paths only. -/
theorem Restorable.elsewhere (undoable : Undoable platform original input new)
    (elsewhere : ∀ path, ¬ Private platform input path -> ¬ Reviewed input path ->
      new.node? path = old.node? path) : Restorable platform original input new := by
  refine ⟨undoable, restorable.covered.congr ?_⟩
  intro edit mem added parent leads
  exact elsewhere parent (free.public_of_ancestor mem (Path.mem_parents_iff.mp leads).2.1)
    (legal.parent_not_reviewed review mem added leads)

theorem Restorable.sameButPrivate (same : SameButPrivate platform input old new) :
    Restorable platform original input new :=
  restorable.elsewhere legal review free (restorable.undoable.sameButPrivate same)
    (fun path isPublic _ => same path isPublic)

include mem

theorem Restorable.write {node : Option (Node Content)}
    (shape : node = none \/ ∃ data mode, node = some (.file data (permissionsSummary mode)))
    (wrote : ∀ path, new.node? path = if path = edit.path then node else old.node? path) :
    Restorable platform original input new := by
  refine restorable.elsewhere legal review free (restorable.undoable.write mem shape wrote) ?_
  intro path _ notReviewed
  rw [wrote, if_neg]
  exact fun here => notReviewed ⟨edit, mem, here.symm⟩

theorem Restorable.replaced {mode : Permissions}
    (listed : edit.path ∈ filesystemReplacementPaths input.changeSet)
    (replaced : Replaced (filesystemReplacementRoot platform input.workspaceId input.reviewId
      edit.path) edit.path (some (permissionsSummary mode)) old new) :
    Restorable platform original input new := by
  refine restorable.elsewhere legal review free (restorable.undoable.replaced mem listed replaced) ?_
  intro path isPublic notReviewed
  exact replaced.1 path (fun below => isPublic ⟨edit.path, listed, below⟩)
    (fun here => notReviewed ⟨edit, mem, here.symm⟩)

/-- When all parents of a reviewed path are there, those that were made lead to it. -/
theorem Restorable.prepared (prepared : Prepared edit.path old new) :
    Restorable platform original input new := by
  refine ⟨restorable.undoable.grown legal review free mem prepared.grown, ?_⟩
  intro path created folder
  by_cases was : old.isDirectory path
  · rcases restorable.covered path created was with ⟨other, otherMember, listed, added, way, inner⟩
    exact ⟨other, otherMember, listed, added, way, prepared.grown.isDirectory inner⟩
  have leads : path ∈ edit.path.parents := by
    rcases prepared.grown path with same | ⟨leads, _⟩
    · unfold FileTree.isDirectory at was folder
      rw [same] at folder
      exact absurd folder was
    · exact leads
  have added : edit.status = .added := by
    rw [review.added_iff mem]
    cases found : (fileEntriesByPath input.before).get? edit.path with
    | none => rfl
    | some =>
      rcases review.parent_of_known found leads with ⟨_, held⟩
      rw [created.1] at held
      cases held
  exact ⟨edit, mem, mem, added, leads, prepared.folders _ (Path.dropLast_mem_of_mem leads)⟩

omit legal review free restorable

theorem mem_filesystemReplacementPaths (status : edit.status ≠ .modeChanged) :
    edit.path ∈ filesystemReplacementPaths input.changeSet := by
  refine mem_map.mpr ⟨edit, mem_filter.mpr ⟨mem, ?_⟩, rfl⟩
  simpa using status

end Reviews

/-! ## Putting paths back -/

/-- A rollback that has still to visit `rest`: the other reviewed paths are as
they were, and a directory that the apply made leads to a path of `rest`. -/
structure Restoring (platform : SyncPlatform) (original : FileTree Content)
    (input : ApplyStagedFilesystemChangesInput) (rest : List WorkspaceChangedPath)
    (tree : FileTree Content) : Prop where
  undoable : Undoable platform original input tree
  clean : ∀ path, Private platform input path -> tree.node? path = none
  restored : ∀ changedPath ∈ input.changeSet.changedPaths, changedPath ∉ rest ->
    tree.node? changedPath.path = original.node? changedPath.path
  pending : CoveredBy original input rest tree

section Restoring

variable {rest : List WorkspaceChangedPath} {old middle new : FileTree Content} {path : Path}

variable (review : ReviewOf platform ignored original edited input)
  (free : PrivateNamesFree platform original input) (legal : Admissible platform original input)
  (mem : edit ∈ input.changeSet.changedPaths)

theorem Restoring.initial (restorable : Restorable platform original input old)
    (clean : ∀ path, Private platform input path -> old.node? path = none) :
    Restoring platform original input input.changeSet.changedPaths.reverse old where
  undoable := restorable.undoable
  clean := clean
  restored := fun _ mem missing => absurd (mem_reverse.mpr mem) missing
  pending := by
    intro path created folder
    rcases restorable.covered path created folder with ⟨edit, mem, _, rest⟩
    exact ⟨edit, mem, mem_reverse.mpr mem, rest⟩

include free

/-- When every path has been visited, the target is the original one. -/
theorem Restoring.same (restoring : Restoring platform original input [] old) :
    old.Same original := by
  intro path
  rcases restoring.undoable path with isPrivate | same | ⟨⟨edit, mem, rfl⟩, _⟩ |
    ⟨created, gone | ⟨perms, folder⟩⟩
  · rw [restoring.clean path isPrivate, free.original_none isPrivate]
  · exact same
  · exact restoring.restored edit mem not_mem_nil
  · rw [gone, created.1]
  · rcases restoring.pending path created (FileTree.isDirectory_iff.mpr (.inr ⟨perms, folder⟩)) with
      ⟨_, _, never, _⟩
    exact absurd never not_mem_nil

omit free in
/-- The state of a rollback depends on the nodes of the target only. -/
theorem Restoring.congr (restoring : Restoring platform original input rest old)
    (same : new.Same old) : Restoring platform original input rest new where
  undoable := by
    intro path
    rw [same path]
    exact restoring.undoable path
  clean := by
    intro path isPrivate
    rw [same path]
    exact restoring.clean path isPrivate
  restored := by
    intro edit mem visited
    rw [same]
    exact restoring.restored edit mem visited
  pending := restoring.pending.congr (fun _ _ _ parent _ => same parent)

include review legal mem

/-- The clean and the restored paths after a visit that writes its own path only. -/
theorem Restoring.visited (restoring : Restoring platform original input (edit :: rest) old)
    (back : new.node? edit.path = original.node? edit.path)
    (elsewhere : ∀ path, path ≠ edit.path -> new.node? path = old.node? path) :
    (∀ path, Private platform input path -> new.node? path = none) /\
      (∀ changedPath ∈ input.changeSet.changedPaths, changedPath ∉ rest ->
        new.node? changedPath.path = original.node? changedPath.path) /\
      CoveredBy original input (edit :: rest) new := by
  refine ⟨?_, ?_, restoring.pending.congr ?_⟩
  · intro path isPrivate
    have apart : path ≠ edit.path := by
      intro same
      exact free.public_of_ancestor mem (same ▸ prefix_refl _) isPrivate
    rw [elsewhere path apart]
    exact restoring.clean path isPrivate
  · intro other otherMember notQueued
    by_cases same : other = edit
    · exact same ▸ back
    have apart : other.path ≠ edit.path :=
      fun equal => same (review.distinct otherMember mem equal)
    rw [elsewhere _ apart]
    exact restoring.restored other otherMember (not_mem_cons_of_ne_of_not_mem same notQueued)
  · intro other otherMember added parent leads
    refine elsewhere parent (fun here => ?_)
    exact legal.parent_not_reviewed review otherMember added leads ⟨edit, mem, here.symm⟩

/-- A path that was a file has its file back. -/
theorem Restoring.known (restoring : Restoring platform original input (edit :: rest) old)
    (notAdded : edit.status ≠ .added) (undoable : Undoable platform original input new)
    (back : new.node? edit.path = original.node? edit.path)
    (elsewhere : ∀ path, path ≠ edit.path -> new.node? path = old.node? path) :
    Restoring platform original input rest new := by
  rcases restoring.visited review free legal mem back elsewhere with ⟨clean, restored, pending⟩
  refine ⟨undoable, clean, restored, ?_⟩
  intro path created folder
  rcases pending path created folder with ⟨owner, ownerMember, queued, added, leads, inner⟩
  refine ⟨owner, ownerMember, (mem_cons.mp queued).resolve_left ?_, added, leads, inner⟩
  intro same
  exact notAdded (same ▸ added)

omit legal mem in
/-- What a directory that the apply made can hold. -/
theorem Undoable.entry_cases (undoable : Undoable platform original input new) {entry : Path}
    (created : Created original input entry.dropLast) (present : new.node? entry ≠ none) :
    (Private platform input entry /\ ∃ child ∈ input.changeSet.changedPaths,
        child.status = .added /\ child.path.dropLast = entry.dropLast) \/
      (∃ child ∈ input.changeSet.changedPaths, child.status = .added /\ child.path = entry) \/
      (Created original input entry /\ new.isDirectory entry) := by
  rcases id created with ⟨absent, owner, ownerMember, _, leads⟩
  rcases Path.mem_parents_iff.mp leads with ⟨named, isPrefix, _⟩
  have added_of : ∀ child ∈ input.changeSet.changedPaths,
      child.path.dropLast = entry.dropLast -> child.status = .added := by
    intro child childMember inside
    rw [review.added_iff childMember]
    cases found : (fileEntriesByPath input.before).get? child.path with
    | none => rfl
    | some =>
      rcases review.known found with ⟨_, _, file, _⟩
      have above := FileTree.isDirectory_dropLast file
      rw [inside, FileTree.isDirectory_iff, absent] at above
      simp [named] at above
  rcases undoable entry with isPrivate | same | ⟨⟨child, childMember, rfl⟩, _⟩ |
    ⟨isCreated, gone | ⟨perms, folder⟩⟩
  · refine .inl ⟨isPrivate, ?_⟩
    rcases isPrivate with ⟨reviewed, listed, below⟩
    rcases mem_map.mp listed with ⟨child, kept, rfl⟩
    -- a private root lies next to its file, and nothing else private is next to it
    have folder : child.path.dropLast = entry.dropLast := by
      by_cases same : filesystemReplacementRoot platform input.workspaceId input.reviewId
          child.path = entry
      · rw [<- same, filesystemReplacementRoot, dropLast_concat]
      · exact absurd ⟨child.path, listed, Path.prefix_dropLast below same⟩
          (free.public_of_ancestor ownerMember isPrefix)
    exact ⟨child, (mem_filter.mp kept).1, added_of child (mem_filter.mp kept).1 folder, folder⟩
  · have entryNamed : entry ≠ [] := fun empty => named (by rw [empty]; rfl)
    have missing : original.node? entry = none :=
      FileTree.node?_eq_none_of_ancestor (List.dropLast_prefix entry) named (Path.dropLast_ne entryNamed)
        (by simp [absent])
    exact absurd (same.trans missing) present
  · exact .inr (.inl ⟨child, childMember, added_of child childMember rfl, rfl⟩)
  · exact absurd gone present
  · exact .inr (.inr ⟨isCreated, FileTree.isDirectory_iff.mpr (.inr ⟨perms, folder⟩)⟩)

section Emptied

variable {gone left : List Path} {owner : WorkspaceChangedPath}
  (split : edit.path.parents.reverse = gone ++ left)
  (pruned : Pruned (directoriesOf input.before) gone old new)

omit free legal review mem

include pruned

theorem isDirectory_of_kept (kept : path ∉ gone) : new.isDirectory path = old.isDirectory path := by
  unfold FileTree.isDirectory
  rw [pruned.nodes, if_neg kept]

theorem not_gone_of_isDirectory (named : path ≠ []) (folder : new.isDirectory path) :
    path ∉ gone := by
  intro removed
  rcases FileTree.isDirectory_iff.mp folder with root | ⟨perms, held⟩
  · exact named root
  · rw [pruned.nodes, if_pos removed] at held
    cases held

include split

/-- A queued path still has its directory, or the way to it runs along the emptied one. -/
theorem owner_kept_or_leads (leads : path ∈ owner.path.parents) (queued : owner ∈ edit :: rest)
    (inner : old.isDirectory owner.path.dropLast) :
    (owner ∈ rest /\ new.isDirectory owner.path.dropLast) \/
      (path ∈ edit.path.parents /\ old.isDirectory edit.path.dropLast) := by
  rcases mem_cons.mp queued with rfl | later
  · exact .inr ⟨leads, inner⟩
  by_cases removed : owner.path.dropLast ∈ gone
  · have ownerLeads : owner.path.dropLast ∈ edit.path.parents := by
      rw [<- mem_reverse, split]
      exact mem_append_left _ removed
    rcases Path.mem_parents_iff.mp leads with ⟨named, isPrefix, apart⟩
    refine .inr ⟨Path.mem_parents_of_prefix named (Path.prefix_dropLast isPrefix apart) ownerLeads, ?_⟩
    -- the first one to go is the directory of the file
    rw [Path.parents_reverse
      (Path.mem_parents_iff.mp (Path.dropLast_mem_of_mem ownerLeads)).1] at split
    cases gone with
    | nil => exact absurd removed not_mem_nil
    | cons first =>
      rw [(cons.inj split).1]
      exact FileTree.isDirectory_iff.mpr (.inr (pruned.unknown first mem_cons_self).2)
  · exact .inl ⟨later, (isDirectory_of_kept pruned removed).trans inner⟩

omit pruned in
/-- The removal stops at a parent at or below one that it leaves. -/
theorem exists_stop (leads : path ∈ edit.path.parents) (kept : path ∉ gone) :
    ∃ stop, left.head? = some stop /\ stop ∈ edit.path.parents /\ path <+: stop /\
      ∀ other ∈ edit.path.parents, other ∉ gone -> other.length <= stop.length := by
  have ordered : (gone ++ left).Pairwise (fun inner outer => outer.length < inner.length) := by
    rw [<- split, pairwise_reverse]
    exact edit.path.parents_pairwise
  have listed : ∀ other ∈ edit.path.parents, other ∉ gone -> other ∈ left := by
    intro other otherLeads stays
    rw [<- mem_reverse, split] at otherLeads
    exact (mem_append.mp otherLeads).resolve_left stays
  cases left with
  | nil => exact absurd (listed path leads kept) not_mem_nil
  | cons stop outer =>
    have longest : ∀ other ∈ stop :: outer, other.length <= stop.length := by
      intro other among
      rcases mem_cons.mp among with rfl | later
      · exact le_refl _
      · exact Nat.le_of_lt ((pairwise_cons.mp (pairwise_append.mp ordered).2.1).1 other later)
    have stopLeads : stop ∈ edit.path.parents := by
      rw [<- mem_reverse, split]
      exact mem_append_right _ mem_cons_self
    refine ⟨stop, rfl, stopLeads, ?_, fun other otherLeads stays =>
      longest other (listed other otherLeads stays)⟩
    exact prefix_of_prefix_length_le (Path.mem_parents_iff.mp leads).2.1
      (Path.mem_parents_iff.mp stopLeads).2.1 (longest path (listed path leads kept))

end Emptied

omit free legal in
/-- Emptying the parents of an added path leaves no directory behind that leads to it
alone. -/
theorem CoveredBy.emptied (added : edit.status = .added)
    (covers : CoveredBy original input (edit :: rest) old)
    (emptied : EmptiedUpTo (directoriesOf input.before) edit.path
      (old.node? edit.path.dropLast = none) old new)
    (filled : ∀ entry, Created original input entry.dropLast -> new.node? entry ≠ none ->
      (∃ child ∈ input.changeSet.changedPaths, child ∈ rest /\ child.status = .added /\
          child.path.dropLast = entry.dropLast) \/
        (Created original input entry /\ new.isDirectory entry)) :
    CoveredBy original input rest new := by
  rcases emptied with ⟨left, ⟨gone, split, pruned⟩, stops⟩
  intro path created folder
  rcases id created with ⟨absent, _, _, _, ownLeads⟩
  have named := (Path.mem_parents_iff.mp ownLeads).1
  have unmoved := not_gone_of_isDirectory pruned named folder
  rcases covers path created ((isDirectory_of_kept pruned unmoved) ▸ folder) with
    ⟨owner, ownerMember, queued, ownerAdded, leads, inner⟩
  rcases owner_kept_or_leads split pruned leads queued inner with ⟨later, still⟩ | ⟨leads, inner⟩
  · exact ⟨owner, ownerMember, later, ownerAdded, leads, still⟩
  rcases exists_stop split leads unmoved with ⟨stop, first, stopLeads, above, longest⟩
  have missing : original.node? stop = none :=
    cleared_of_absent named absent stop above
  rcases stops stop first with known | holds | bare
  · exact absurd known (review.unknown_of_absent missing)
  · rcases FileTree.hasEntry_iff.mp holds with ⟨entry, node, found, rfl⟩
    rcases filled entry ⟨missing, edit, mem, added, stopLeads⟩ (by simp [found]) with
      ⟨child, childMember, later, childAdded, inside⟩ | ⟨entryCreated, entryFolder⟩
    · refine ⟨child, childMember, later, childAdded, ?_, inside ▸ FileTree.isDirectory_dropLast found⟩
      refine Path.mem_parents_of_prefix named (inside ▸ above) (Path.dropLast_mem_parents ?_)
      exact inside ▸ (Path.mem_parents_iff.mp stopLeads).1
    · -- a directory that was made below the stop leads to a path that is still queued
      have entryNamed := (new.rooted entry node found).1
      have entryKept := not_gone_of_isDirectory pruned entryNamed entryFolder
      rcases covers entry entryCreated ((isDirectory_of_kept pruned entryKept) ▸ entryFolder)
        with ⟨other, otherMember, otherQueued, otherAdded, otherLeads, otherInner⟩
      rcases owner_kept_or_leads split pruned otherLeads otherQueued otherInner with
        ⟨later, still⟩ | ⟨entryLeads, _⟩
      · exact ⟨other, otherMember, later, otherAdded, Path.mem_parents_of_prefix named
          (above.trans (List.dropLast_prefix entry)) otherLeads, still⟩
      · have shorter := longest entry entryLeads entryKept
        have longer := Path.length_lt (List.dropLast_prefix entry) (Path.dropLast_ne entryNamed)
        omega
  · rcases FileTree.isDirectory_iff.mp inner with root | ⟨perms, held⟩
    · exact absurd root (Path.mem_parents_iff.mp (Path.dropLast_mem_of_mem leads)).1
    · rw [bare] at held
      cases held

/-- An added file is gone, and so are the directories that lead to nothing that the
rollback has yet to visit. -/
theorem Restoring.added (restoring : Restoring platform original input (edit :: rest) old)
    (added : edit.status = .added) (undoable : Undoable platform original input new)
    (gone : middle.node? edit.path = none)
    (elsewhere : ∀ path, path ≠ edit.path -> middle.node? path = old.node? path)
    (emptied : EmptiedUpTo (directoriesOf input.before) edit.path
      (middle.node? edit.path.dropLast = none) middle new) :
    Restoring platform original input rest new := by
  have absent := (legal.added review mem added).1
  rcases restoring.visited review free legal mem (gone.trans absent.symm) elsewhere with
    ⟨clean, restored, pending⟩
  rcases id emptied with ⟨_, ⟨removed, split, pruned⟩, _⟩
  have cleanAfter : ∀ path, Private platform input path -> new.node? path = none := by
    intro path isPrivate
    rw [pruned.nodes, clean path isPrivate, ite_self]
  have restoredAfter : ∀ other ∈ input.changeSet.changedPaths, other ∉ rest ->
      new.node? other.path = original.node? other.path := by
    intro other otherMember notQueued
    have before := restored other otherMember notQueued
    rw [pruned.nodes, if_neg, before]
    intro away
    rcases pruned.unknown other.path away with ⟨_, perms, folder⟩
    rw [before] at folder
    exact legal.reviewed_not_directory review ⟨other, otherMember, rfl⟩ perms folder
  refine ⟨undoable, cleanAfter, restoredAfter, pending.emptied review mem added emptied ?_⟩
  intro entry created present
  rcases undoable.entry_cases review free created present with ⟨isPrivate, _⟩ |
    ⟨child, childMember, childAdded, rfl⟩ | isCreated
  · exact absurd (cleanAfter entry isPrivate) present
  · refine .inl ⟨child, childMember, ?_, childAdded, rfl⟩
    by_contra done
    rw [restoredAfter child childMember done,
      (legal.added review childMember childAdded).1] at present
    exact present rfl
  · exact .inr isCreated

end Restoring

/-! ## The writes of a call -/

/-- The files that a review changes have no setuid, setgid or sticky bit. -/
def PlainModes (original : FileTree Content) (input : ApplyStagedFilesystemChangesInput) : Prop :=
  ∀ changedPath ∈ input.changeSet.changedPaths, ∀ content mode,
    original.node? changedPath.path = some (.file content mode) -> permissionsSummary mode = mode

section Calls

variable {exposed : SyncState -> Prop} {start state : SyncState}

variable (injective : Function.Injective platform.sha256) (plain : PlainModes original input)
  (review : ReviewOf platform ignored original edited input)
  (free : PrivateNamesFree platform original input)
  (legal : Admissible platform original input)
  (mem : edit ∈ input.changeSet.changedPaths)
  (restorable : Restorable platform original input state.target)

include free mem review legal

/-- A file of the review is replaced through its own private root. -/
theorem installStaged_keeps (changes : edit.status ≠ .modeChanged) (stays : edit.status ≠ .deleted) :
    Keeps exposed (Within start (Restorable platform original input))
      (installStaged platform input edit) := by
  have listed := mem_filesystemReplacementPaths mem changes
  have outside := (free edit.path listed).2 edit mem
  rcases review.edited_file mem stays with ⟨_, mode, _, perms⟩
  refine keeps_bind keeps_reading ?_
  rintro _ _ ⟨tree, rfl, restorable⟩
  rw [perms]
  refine holds_mono (replaceFileFromSource_holds replacementRoot_named outside (fun _ => rfl)) ?_ ?_
  · rintro _ _ ⟨next, rfl, _, data, copied, _, installed⟩
    exact ⟨next, rfl, restorable.replaced legal review free mem listed installed.replaced⟩
  · rintro _ _ ⟨next, rfl, replaced⟩
    exact ⟨next, rfl, restorable.replaced legal review free mem listed replaced⟩

theorem writeReviewed_keeps : Keeps exposed (Within start (Restorable platform original input))
      (writeReviewed platform input edit) := by
  intro state reached
  unfold writeReviewed
  split
  · refine onTarget_rule ?_ reached
    rcases reached with ⟨tree, rfl, restorable⟩
    intro next removed
    exact ⟨next, rfl,
      restorable.write legal review free mem (.inl rfl) (FileTree.unlink_ok removed)⟩
  next status =>
    have known : ∃ entry, (fileEntriesByPath input.before).get? edit.path = some entry := by
      rw [<- Option.ne_none_iff_exists', Ne, <- review.added_iff mem, status]
      decide
    rcases review.edited_file mem (by simp [status]) with ⟨_, mode, _, perms⟩
    rw [perms]
    refine onTarget_rule ?_ reached
    rcases reached with ⟨tree, rfl, restorable⟩
    intro next changed
    rcases FileTree.chmod_ok changed with ⟨data, _, _, nodes⟩ | ⟨old, folder, nodes⟩
    · exact ⟨next, rfl, restorable.write legal review free mem (.inr ⟨data, mode, rfl⟩) nodes⟩
    · rcases known with ⟨entry, found⟩
      exact absurd folder (restorable.undoable.known_not_directory review free mem found old)
  next status =>
    exact installStaged_keeps review free legal mem (by simp [status]) (by simp [status]) reached
  next status =>
    exact installStaged_keeps review free legal mem (by simp [status]) (by simp [status]) reached

/-- Writing one reviewed path keeps the target restorable, wherever it ends. -/
theorem applyPath_keeps : Keeps (Exposed input) (Within start (Restorable platform original input))
      (applyPath platform input edit) := by
  refine keeps_bind keeps_reading (fun _ => keeps_bind demand_keeps (fun _ => ?_))
  rintro _ ⟨tree, rfl, restorable⟩
  refine holds_call (prepareWritablePathWithinRoot_holds (review.safe mem)
    (restorable.undoable.writable legal review free mem)) ?_ ?_
  · rintro _ _ ⟨ready, rfl, prepared⟩
    exact writeReviewed_keeps review free legal mem
      ⟨ready, rfl, restorable.prepared legal review free mem prepared⟩
  · rintro _ _ ⟨here, ready, rfl, grown⟩
    exact ⟨ready, rfl, restorable.undoable.grown legal review free mem grown,
      (covered_iff legal review).mp here⟩

/-! ## Restoring from any restorable target -/

variable {current : Option FileState}

/-- Restoring one path leaves a restorable target, and it takes the path off the
list of those that a rollback has still to visit. -/
def RestoredTo (platform : SyncPlatform) (original : FileTree Content)
    (input : ApplyStagedFilesystemChangesInput) (changedPath : WorkspaceChangedPath)
    (old new : FileTree Content) : Prop :=
  Restorable platform original input new /\ ∀ rest,
    Restoring platform original input (changedPath :: rest) old ->
      Restoring platform original input rest new

omit legal free

include injective plain

/-- The content and permissions of the base manifest are those of the original file. -/
theorem ReviewOf.original_of_entry
    (found : (fileEntriesByPath input.before).get? edit.path = some entry) {data : Content}
    (same : platform.digestBuffer data = entry.digest) :
    original.node? edit.path = some (.file data entry.permissions) := by
  rcases review.known found with ⟨held, mode, file, rfl⟩
  rw [digestBuffer_injective injective same, plain edit mem held mode file]
  exact file

include free legal restorable

theorem restoreEntry_holds
    (found : (fileEntriesByPath input.before).get? edit.path = some entry) {backup : Content}
    (read : backupOf state edit.path = .ok backup)
    (valid : platform.digestBuffer backup = entry.digest)
    (changed : edit.status = .modeChanged -> ∃ data mode,
      state.target.node? edit.path = some (.file data mode) /\
        platform.digestBuffer data = entry.digest) :
    Holds exposed (restoreEntry platform input edit entry) state
      (fun _ => Within state (RestoredTo platform original input edit state.target))
      (fun _ => Within state (Restorable platform original input)) := by
  have notAdded := review.not_added mem found
  have kept : Within state (Restorable platform original input) state := Within.intro restorable
  have summary : ∃ mode, entry.permissions = permissionsSummary mode := by
    rcases review.known found with ⟨_, mode, _, rfl⟩
    exact ⟨mode, rfl⟩
  rcases summary with ⟨mode, summary⟩
  unfold restoreEntry
  split
  next status =>
    rcases changed status with ⟨data, _, file, same⟩
    have back := review.original_of_entry injective plain mem found same
    refine onTarget_rule ?_ kept
    intro next chmodded
    rcases FileTree.chmod_ok chmodded with ⟨held, old, was, nodes⟩ | ⟨old, folder, _⟩
    · cases file.symm.trans was
      have after := restorable.write legal review free mem (.inr ⟨data, mode, by rw [summary]⟩) nodes
      refine ⟨next, rfl, after, ?_⟩
      intro rest restoring
      refine restoring.known review free legal mem notAdded after.undoable ?_ ?_
      · rw [nodes, if_pos rfl, back]
      · intro path apart
        rw [nodes, if_neg apart]
    · cases file.symm.trans folder
  · apply holds_bind
    refine demand_rule ?_ kept
    intro listed
    have listed := of_decide_eq_true listed
    have outside := (free edit.path listed).2 edit mem
    refine holds_mono (replaceFileFromSource_holds replacementRoot_named outside (fun _ => rfl)) ?_ ?_
    · rintro _ _ ⟨next, rfl, cleared, data, copiedMode, copied, installed⟩
      have after := restorable.replaced legal review free mem listed (summary ▸ installed.replaced)
      refine ⟨next, rfl, after, ?_⟩
      intro rest restoring
      have content_eq : data = backup := by
        rw [read] at copied
        cases copied
        rfl
      refine restoring.known review free legal mem notAdded after.undoable ?_ ?_
      · rw [installed.2, content_eq, review.original_of_entry injective plain mem found valid]
        rfl
      · intro path apart
        by_cases below : filesystemReplacementRoot platform input.workspaceId input.reviewId
            edit.path <+: path
        · rw [cleared path below, restoring.clean path ⟨edit.path, listed, below⟩]
        · exact installed.1 path below apart
    · rintro _ _ ⟨next, rfl, replaced⟩
      exact ⟨next, rfl, restorable.replaced legal review free mem listed (summary ▸ replaced)⟩

omit injective plain free legal restorable in
/-- A change of permissions declares the content that the base manifest has. -/
theorem ReviewOf.modeChanged_digest (status : edit.status = .modeChanged)
    (found : (fileEntriesByPath input.before).get? edit.path = some entry) :
    edit.digest = entry.digest := by
  rcases changedPath?_cases (review.changed mem) with ⟨_, _, _, other, _⟩ | ⟨_, _, _, other⟩ |
    ⟨_, _, _, _, other, _⟩ | ⟨before, after, known, _, same, _, declared, _⟩
  · rw [status] at other
    cases other
  · rw [status] at other
    cases other
  · rw [status] at other
    cases other
  · rw [found] at known
    cases known
    rw [declared, same]

theorem restoreFile_holds (changed : edit.status = .modeChanged -> ∃ data mode,
      state.target.node? edit.path = some (.file data mode) /\
        platform.digestBuffer data = edit.digest) :
    Holds exposed (restoreFile platform input edit
        ((fileEntriesByPath input.before).get? edit.path)) state
      (fun _ => Within state (RestoredTo platform original input edit state.target))
      (fun _ => Within state (Restorable platform original input)) := by
  have kept : Within state (Restorable platform original input) state := Within.intro restorable
  apply holds_bind
  refine look_rule ?_ kept
  intro backup read
  split
  · exact holds_raise kept
  rename_i found
  apply holds_bind
  refine demand_rule ?_ kept
  intro valid
  refine restoreEntry_holds injective plain review free legal mem restorable found read
    (of_decide_eq_true valid) ?_
  intro status
  rcases changed status with ⟨data, mode, file, same⟩
  exact ⟨data, mode, file, same.trans (review.modeChanged_digest mem status found)⟩

omit injective plain

theorem removeAdded_holds (added : edit.status = .added) (old : FileTree Content)
    (gone : state.target.node? edit.path = none)
    (elsewhere : ∀ path, path ≠ edit.path -> state.target.node? path = old.node? path) :
    Holds (Exposed input) (removeAddedParentDirectories edit.path (directoriesOf input.before)) state
      (fun _ => Within state (RestoredTo platform original input edit old))
      (fun _ => Within state (Restorable platform original input)) := by
  refine holds_mono (removeParents_holds _ (review.safe mem)
    (restorable.undoable.writable legal review free mem)) ?_ ?_
  · rintro _ _ ⟨next, rfl, emptied⟩
    have after := restorable.undoable.emptied review free mem emptied
    refine ⟨next, rfl, ⟨after, ?_⟩, ?_⟩
    · have covers : CoveredBy original input (edit :: input.changeSet.changedPaths) state.target := by
        intro path created folder
        rcases restorable.covered path created folder with ⟨other, otherMember, _, rest⟩
        exact ⟨other, otherMember, mem_cons_of_mem _ otherMember, rest⟩
      refine covers.emptied review mem added emptied ?_
      intro entry created present
      rcases after.entry_cases review free created present with
        ⟨_, child, childMember, childAdded, inside⟩ | ⟨child, childMember, childAdded, rfl⟩ | isCreated
      · exact .inl ⟨child, childMember, childMember, childAdded, inside⟩
      · exact .inl ⟨child, childMember, childMember, childAdded, rfl⟩
      · exact .inr isCreated
    · intro rest restoring
      exact restoring.added review free legal mem added after gone elsewhere emptied
  · rintro _ _ ⟨here, next, rfl, emptied⟩
    exact ⟨next, rfl, restorable.undoable.emptied review free mem emptied,
      (covered_iff legal review).mp here⟩

omit restorable in
/-- When the target has what the apply wrote, all parents of the path are there. -/
theorem parents_present {tree : FileTree Content} (undoable : Undoable platform original input tree)
    (read : readFilesystemFileState platform tree edit.path = .ok current)
    (applied : matchesApplied edit current) :
    ∀ parent ∈ edit.path.parents, tree.node? parent ≠ none := by
  intro parent leads
  rcases Path.mem_parents_iff.mp leads with ⟨named, isPrefix, apart⟩
  cases current with
  | some =>
    rcases readState_some read with ⟨data, mode, file, _⟩
    rcases FileTree.directory_of_ancestor file isPrefix named apart with ⟨perms, folder⟩
    simp [folder]
  | none =>
    have notAdded : edit.status ≠ .added := by
      intro status
      unfold matchesApplied at applied
      rw [status] at applied
      cases applied
    cases found : (fileEntriesByPath input.before).get? edit.path with
    | none => exact absurd ((review.added_iff mem).mpr found) notAdded
    | some =>
      rcases review.parent_of_known found leads with ⟨perms, folder⟩
      rw [undoable.original_directory legal review
        (free.public_of_ancestor mem isPrefix) folder]
      exact nofun

include injective plain

theorem restoreApplied_holds
    (read : readFilesystemFileState platform state.target edit.path = .ok current)
    (applied : matchesApplied edit current) :
    Holds (Exposed input) (restoreApplied platform input edit
        ((fileEntriesByPath input.before).get? edit.path)) state
      (fun _ => Within state (RestoredTo platform original input edit state.target))
      (fun _ => Within state (Restorable platform original input)) := by
  have present := parents_present review free legal mem restorable.undoable read applied
  refine holds_call (prepareWritablePathWithinRoot_holds (review.safe mem)
    (restorable.undoable.writable legal review free mem)) ?_ ?_
  · rintro _ _ ⟨ready, rfl, prepared⟩
    have same := prepared.grown.same present
    have ready := restorable.prepared legal review free mem prepared
    split
    next added =>
      apply holds_bind
      refine onTarget_rule ?_ ⟨_, rfl, ready⟩
      intro next removed
      have nodes := FileTree.unlink_ok removed
      refine holds_mono (removeAdded_holds review free legal mem
        (ready.write legal review free mem (.inl rfl) nodes) added state.target
        (by rw [nodes, if_pos rfl]) (fun path apart => ?_)) (fun _ _ ended => ended)
        (fun _ _ ended => ended)
      rw [nodes, if_neg apart]
      exact same path
    · refine holds_mono (restoreFile_holds injective plain review free legal mem ready ?_) ?_
        (fun _ _ ended => ended)
      · intro status
        unfold matchesApplied at applied
        rw [status] at applied
        rcases (Option.any_eq_true _ _).mp applied with ⟨held, rfl, declared⟩
        rcases readState_some read with ⟨data, mode, file, rfl⟩
        unfold changedFileMatchesDeclaration at declared
        rw [Bool.and_eq_true, Bool.and_eq_true, decide_eq_true_eq] at declared
        exact ⟨data, mode, (same _).trans file, declared.1.1.symm⟩
      · rintro _ _ ⟨final, rfl, after, restored⟩
        exact ⟨final, rfl, after, fun rest restoring => restored rest (restoring.congr same)⟩
  · rintro _ _ ⟨here, ready, rfl, grown⟩
    exact ⟨ready, rfl, restorable.undoable.grown legal review free mem grown,
      (covered_iff legal review).mp here⟩

omit legal in
/-- A reviewed file that looks like the one of the base manifest is the original one. -/
theorem back_of_matches (found : (fileEntriesByPath input.before).get? edit.path = some entry)
    {data : Content} {mode : Permissions}
    (file : state.target.node? edit.path = some (.file data mode))
    (same : platform.digestBuffer data = entry.digest /\ permissionsSummary mode = entry.permissions) :
    state.target.node? edit.path = original.node? edit.path := by
  rcases restorable.undoable edit.path with isPrivate | original | ⟨_, gone | ⟨held, plainMode, wrote⟩⟩ |
    ⟨_, gone | ⟨_, folder⟩⟩
  · exact absurd isPrivate (free.public_of_ancestor mem (prefix_refl _))
  · exact original
  · rw [gone] at file
    cases file
  · cases file.symm.trans wrote
    rw [file, review.original_of_entry injective plain mem found same.1, <- same.2,
      permissionsSummary_idem]
  · rw [gone] at file
    cases file
  · cases file.symm.trans folder

theorem restorePath_holds : Holds (Exposed input) (restorePath platform input edit) state
      (fun _ => Within state (RestoredTo platform original input edit state.target))
      (fun _ => Within state (Restorable platform original input)) := by
  have kept : Within state (Restorable platform original input) state := Within.intro restorable
  apply holds_bind
  refine look_rule ?_ kept
  intro current read
  split
  next before =>
    split
    next isNew =>
      rw [Bool.and_eq_true, Option.isNone_iff_eq_none, decide_eq_true_eq] at isNew
      rw [isNew.1] at before
      have absent : current = none := Option.isNone_iff_eq_none.mp before
      rw [absent] at read
      exact removeAdded_holds review free legal mem restorable isNew.2 _
        (readState_none read).1 (fun _ _ => rfl)
    next notNew =>
      cases found : (fileEntriesByPath input.before).get? edit.path with
      | none =>
        rw [found, (review.added_iff mem).mpr found] at notNew
        exact absurd rfl notNew
      | some =>
        rw [found] at before
        rcases (Option.any_eq_true _ _).mp before with ⟨held, rfl, same⟩
        rcases readState_some read with ⟨data, mode, file, rfl⟩
        rw [Bool.and_eq_true, decide_eq_true_eq, decide_eq_true_eq] at same
        refine holds_pure (Within.intro ⟨restorable, ?_⟩)
        intro rest restoring
        exact restoring.known review free legal mem (review.not_added mem found) restorable.undoable
          (back_of_matches injective plain review free mem restorable found file same) (fun _ _ => rfl)
  · apply holds_bind
    refine demand_rule ?_ kept
    intro applied
    exact restoreApplied_holds injective plain review free legal mem restorable read applied

end Calls

end FilesystemSync
end OpenKit
