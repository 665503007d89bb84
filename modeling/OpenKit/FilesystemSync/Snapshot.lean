import Mathlib.Data.List.Sort
import OpenKit.Foundation.Fallible
import OpenKit.Foundation.FileTree
import OpenKit.Foundation.Text

namespace OpenKit
namespace FilesystemSync

open Foundation List OrderedMap

/-!
# Snapshots and change sets of a filesystem workspace

`filesystem-workspace-sync.ts` compares two scans of a directory.  A manifest
lists the entries of one scan with their digests and permissions, and
`buildFilesystemWorkspaceChangeSet` turns two manifests into the list of files
that a reviewer is asked to accept.  Changes to directories and symbolic links
that the later apply could not reproduce are refused here.

File contents are texts, since nothing below looks inside them; a permission
summary such as `0644` is the number that it spells, without the sticky, setgid and
setuid bits.  A scan passes over FIFOs, sockets and devices.
-/

/-- The bytes of a regular file. -/
abbrev Content := String

/-- What the process supplies: the hash function, and the permissions that a
created file or directory gets when a mode is asked for. -/
structure SyncPlatform where
  sha256 : String -> String
  masked : Permissions -> Permissions

/-- The errors that the functions of this file throw. -/
inductive SyncError where
  /-- A refused or failed system call. -/
  | errno (code : Errno)
  /-- `OperationError('workspace_sync_review_failed', message, 404)`. -/
  | operation (message : String)
  /-- `ZodError` with one issue. -/
  | zod (message : String)
  /-- A plain `Error`. -/
  | failure (message : String)
  /-- `AggregateError` with its message. -/
  | aggregate (message : String)
  /-- The durable finalizer refused; `unknown` is a commit that may have happened. -/
  | persist (unknown : Bool)
  /-- `AggregateError([error, rollbackError], 'Filesystem workspace apply and rollback failed')`. -/
  | applyAndRollback (error rollback : SyncError)
  deriving DecidableEq, Repr

/-! ## Manifests -/

/-- What a snapshot records about one path. -/
inductive EntryKind where
  | file (size : Nat) (digest : String) (permissions : Permissions)
  | directory (permissions : Permissions)
  /-- Ignored with the reason `symlink`. -/
  | symlink
  /-- Ignored with the reason `ignored-prefix:` and the rule that matched. -/
  | ignored (rule : Path)
  deriving DecidableEq, Repr

structure FilesystemSnapshotEntry where
  path : Path
  kind : EntryKind
  deriving DecidableEq, Repr

/-- A snapshot; the lineage fields and the digest over the entries are left out. -/
structure FilesystemSnapshotManifest where
  entries : List FilesystemSnapshotEntry
  deriving DecidableEq, Repr

variable (platform : SyncPlatform)

def SyncPlatform.digestBuffer (content : Content) : String :=
  "sha256:" ++ platform.sha256 content

def defaultIgnoredPathPrefixes : List Path := [[".git"], ["node_modules"]]

/-- The first rule that covers a path; a rule without names covers nothing. -/
def ignoreReasonFor (path : Path) (rules : List Path) : Option Path :=
  rules.find? (fun rule => !rule.isEmpty && rule.isPrefixOf path)

/-- `mode & 0o777`. -/
def permissionsSummary (mode : Permissions) : Permissions :=
  ⟨mode.val &&& 0o777, Nat.lt_of_le_of_lt Nat.and_le_right (by decide)⟩

/-- The record of a node that no rule covers. -/
def kindOf : Node Content -> Option EntryKind
  | .symlink _ => some .symlink
  | .directory mode => some (.directory (permissionsSummary mode))
  | .file content mode =>
    some (.file content.length (platform.digestBuffer content) (permissionsSummary mode))
  | .special => none

/-- The entry of one node.  A scan does not enter an ignored directory, so the
nodes below it have none. -/
def entryFor (rules : List Path) (path : Path) (node : Node Content) :
    Option FilesystemSnapshotEntry :=
  if (ignoreReasonFor path.dropLast rules).isSome then none
  else
    match ignoreReasonFor path rules with
    | some rule => some ⟨path, .ignored rule⟩
    | none => (kindOf platform node).map (⟨path, ·⟩)

/-- `collectEntries` from the root. -/
def collectEntries (rules : List Path) (tree : FileTree Content) : List FilesystemSnapshotEntry :=
  tree.nodes.entries.filterMap (fun entry => entryFor platform rules entry.1 entry.2)

/-- The order of `Array.prototype.sort` and of `compareCodeUnits` on path texts. -/
def pathLe (left right : Path) : Prop :=
  codeUnitsLe left.text right.text

instance : DecidableRel pathLe :=
  fun _ _ => inferInstanceAs (Decidable (_ = true))

def createFilesystemSnapshotManifest (ignoredPathPrefixes : List Path)
    (tree : FileTree Content) : FilesystemSnapshotManifest where
  entries := (collectEntries platform (defaultIgnoredPathPrefixes ++ ignoredPathPrefixes) tree).insertionSort
    (fun left right => pathLe left.path right.path)

/-! ## Change sets -/

inductive ChangedPathStatus where
  | added | modified | deleted | modeChanged
  deriving DecidableEq, Repr

/-- One reviewed path.  `digest` and `size` describe the new file, or the old
one of a deleted path. -/
structure WorkspaceChangedPath where
  path : Path
  status : ChangedPathStatus
  digest : String
  size : Nat
  (newPermissions oldPermissions : Option Permissions)
  deriving DecidableEq, Repr

structure WorkspaceChangeSet where
  id : String
  changedPaths : List WorkspaceChangedPath
  deriving DecidableEq, Repr

/-- What a manifest says about a regular file. -/
structure FileState where
  size : Nat
  digest : String
  permissions : Permissions
  deriving DecidableEq, Repr

def FilesystemSnapshotEntry.fileState? (entry : FilesystemSnapshotEntry) : Option FileState :=
  match entry.kind with
  | .file size digest permissions => some ⟨size, digest, permissions⟩
  | _ => none

def fileEntriesByPath (manifest : FilesystemSnapshotManifest) : OrderedMap Path FileState :=
  ofPairs (manifest.entries.filterMap (fun entry =>
    entry.fileState?.map (fun state => (entry.path, state))))

/-- A directory or a symbolic link, the entries that the apply does not write itself. -/
def FilesystemSnapshotEntry.isRelevant (entry : FilesystemSnapshotEntry) : Bool :=
  match entry.kind with
  | .directory _ => true
  | .symlink => true
  | _ => false

def relevantEntries (manifest : FilesystemSnapshotManifest) :
    OrderedMap Path FilesystemSnapshotEntry :=
  ofPairs ((manifest.entries.filter (·.isRelevant)).map (fun entry => (entry.path, entry)))

/-- `0755`. -/
def standardDirectory : Permissions := 0o755

/-- A new directory that the apply creates on the way to an added file. -/
def isImplicitDirectory (afterFiles : List Path) (path : Path) (before after : Option FilesystemSnapshotEntry) :
    Bool :=
  before.isNone && after.map (·.kind) = some (.directory standardDirectory) &&
    afterFiles.any (fun file => path.isPrefixOf file && path ≠ file)

def assertSupportedNonFileChanges (before after : FilesystemSnapshotManifest) :
    Except SyncError Unit :=
  let beforeEntries := relevantEntries before
  let afterEntries := relevantEntries after
  let afterFiles := (after.entries.filter (·.fileState?.isSome)).map (·.path)
  match (beforeEntries.keys ++ afterEntries.keys).find? (fun path =>
      !(beforeEntries.get? path = afterEntries.get? path ||
        isImplicitDirectory afterFiles path (beforeEntries.get? path) (afterEntries.get? path))) with
  | some path => .error (.failure ("Unsupported non-file filesystem change: " ++ path.text))
  | none => .ok ()

def changedPath? (beforeFiles afterFiles : OrderedMap Path FileState) (path : Path) :
    Option WorkspaceChangedPath :=
  match beforeFiles.get? path, afterFiles.get? path with
  | none, some after =>
    some ⟨path, .added, after.digest, after.size, some after.permissions, none⟩
  | some before, none =>
    some ⟨path, .deleted, before.digest, before.size, none, some before.permissions⟩
  | some before, some after =>
    if before.digest ≠ after.digest then
      some ⟨path, .modified, after.digest, after.size, some after.permissions,
        some before.permissions⟩
    else if before.permissions ≠ after.permissions then
      some ⟨path, .modeChanged, after.digest, after.size, some after.permissions,
        some before.permissions⟩
    else none
  | none, none => none

/-- `isSafeWorkspaceRelativePath`, and the test of `assertSafeRelativePath`. -/
def isSafeRelativePath (path : Path) : Bool :=
  !path.isEmpty && path.head? ≠ some "" && ".." ∉ path &&
    path.all (!·.toList.contains '\x00')

def buildFilesystemWorkspaceChangeSet (changeSetId : String)
    (before after : FilesystemSnapshotManifest) : Except SyncError WorkspaceChangeSet := do
  assertSupportedNonFileChanges before after
  let beforeFiles := fileEntriesByPath before
  let afterFiles := fileEntriesByPath after
  let paths := ((beforeFiles.keys ++ afterFiles.keys).dedup).insertionSort pathLe
  let changedPaths := paths.filterMap (changedPath? beforeFiles afterFiles)
  refuse (changedPaths.any (!isSafeRelativePath ·.path))
    (.zod "path must be relative to the workspace and must not escape it")
  .ok ⟨changeSetId, changedPaths⟩

/-! ## What a manifest says about its tree -/

section Manifests

variable {platform : SyncPlatform} {ignored : List Path} {tree : FileTree Content} {path : Path}
  {entry : FilesystemSnapshotEntry}

/-- A path that a scan with these extra rules records with its content. -/
def Visible (ignored : List Path) (path : Path) : Prop :=
  ignoreReasonFor path (defaultIgnoredPathPrefixes ++ ignored) = none

theorem ignoreReasonFor_eq_none_iff {rules : List Path} :
    ignoreReasonFor path rules = none <-> ∀ rule ∈ rules, rule ≠ [] -> ¬ rule <+: path := by
  unfold ignoreReasonFor
  rw [find?_eq_none]
  constructor
  · intro none rule mem named covered
    apply none rule mem
    simp [named, covered]
  · intro uncovered rule mem matched
    rw [Bool.and_eq_true, Bool.not_eq_true', isPrefixOf_iff_prefix] at matched
    refine uncovered rule mem ?_ matched.2
    intro empty
    rw [empty] at matched
    cases matched.1

/-- Everything that leads to a visible path is visible. -/
theorem Visible.of_ancestor {parent : Path} (visible : Visible ignored path)
    (isPrefix : parent <+: path) : Visible ignored parent := by
  unfold Visible at visible ⊢
  rw [ignoreReasonFor_eq_none_iff] at visible ⊢
  intro rule mem named covered
  exact visible rule mem named (covered.trans isPrefix)

/-- A summary has no further bits to leave out. -/
theorem permissionsSummary_idem (mode : Permissions) :
    permissionsSummary (permissionsSummary mode) = permissionsSummary mode := by
  apply Fin.ext
  simp [permissionsSummary, Nat.and_assoc]

theorem entryFor_of_visible (visible : Visible ignored path) (node : Node Content) :
    entryFor platform (defaultIgnoredPathPrefixes ++ ignored) path node =
      (kindOf platform node).map (⟨path, ·⟩) := by
  have above := visible.of_ancestor (List.dropLast_prefix path)
  unfold entryFor
  rw [above, visible]
  rfl

theorem entryFor_eq_some {node : Node Content}
    (recorded : entryFor platform (defaultIgnoredPathPrefixes ++ ignored) path node = some entry) :
    entry.path = path /\ ((∃ rule, entry.kind = .ignored rule) \/
        Visible ignored path /\ kindOf platform node = some entry.kind) := by
  unfold entryFor at recorded
  split at recorded
  · cases recorded
  split at recorded
  next rule _ =>
    cases recorded
    exact ⟨rfl, .inl ⟨rule, rfl⟩⟩
  next visible =>
    rcases Option.map_eq_some_iff.mp recorded with ⟨kind, made, rfl⟩
    exact ⟨rfl, .inr ⟨visible, made⟩⟩

theorem mem_manifest_iff :
    entry ∈ (createFilesystemSnapshotManifest platform ignored tree).entries <->
      ∃ path node, tree.node? path = some node /\
        entryFor platform (defaultIgnoredPathPrefixes ++ ignored) path node = some entry := by
  unfold createFilesystemSnapshotManifest
  rw [mem_insertionSort, collectEntries, mem_filterMap]
  constructor
  · rintro ⟨⟨path, node⟩, mem, recorded⟩
    exact ⟨path, node, (get?_eq_some_iff ..).mpr mem, recorded⟩
  · rintro ⟨path, node, found, recorded⟩
    exact ⟨(path, node), (get?_eq_some_iff ..).mp found, recorded⟩

theorem mem_manifest_visible_iff {kind : EntryKind} (recorded : ∀ rule, kind ≠ .ignored rule) :
    (⟨path, kind⟩ : FilesystemSnapshotEntry) ∈
        (createFilesystemSnapshotManifest platform ignored tree).entries <->
      Visible ignored path /\
        ∃ node, tree.node? path = some node /\ kindOf platform node = some kind := by
  rw [mem_manifest_iff]
  constructor
  · rintro ⟨place, node, found, made⟩
    rcases entryFor_eq_some made with ⟨rfl, ⟨rule, ignoredKind⟩ | ⟨visible, same⟩⟩
    · exact absurd ignoredKind (recorded rule)
    · exact ⟨visible, node, found, same⟩
  · rintro ⟨visible, node, found, made⟩
    exact ⟨path, node, found, by rw [entryFor_of_visible visible node, made]; rfl⟩

/-- A manifest lists each path once. -/
theorem manifest_paths_nodup :
    ((createFilesystemSnapshotManifest platform ignored tree).entries.map (·.path)).Nodup := by
  unfold createFilesystemSnapshotManifest
  have sorted := perm_insertionSort
    (fun left right : FilesystemSnapshotEntry => pathLe left.path right.path)
    (collectEntries platform (defaultIgnoredPathPrefixes ++ ignored) tree)
  rw [(sorted.map (·.path)).nodup_iff]
  exact tree.nodes.nodup.sublist
    (map_filterMap_sublist (fun _ _ made => (entryFor_eq_some made).1) tree.nodes.entries)

/-- What the file index of a manifest finds. -/
theorem fileEntriesByPath_get?_iff {state : FileState} :
    (fileEntriesByPath (createFilesystemSnapshotManifest platform ignored tree)).get? path = some state <->
      Visible ignored path /\ ∃ data perms,
        tree.node? path = some (.file data perms) /\
          state = ⟨data.length, platform.digestBuffer data, permissionsSummary perms⟩ := by
  unfold fileEntriesByPath
  have pairs : (((createFilesystemSnapshotManifest platform ignored tree).entries.filterMap
      (fun entry => entry.fileState?.map (fun state => (entry.path, state)))).map Prod.fst).Nodup := by
    refine manifest_paths_nodup.sublist (map_filterMap_sublist ?_ _)
    intro entry kept made
    rcases Option.map_eq_some_iff.mp made with ⟨state, _, rfl⟩
    rfl
  rw [get?_ofPairs_iff _ pairs, mem_filterMap]
  constructor
  · rintro ⟨⟨place, kind⟩, mem, made⟩
    cases kind with
    | file size digest perms =>
      cases made
      rcases (mem_manifest_visible_iff (by simp)).mp mem with ⟨visible, node, found, same⟩
      cases node with
      | file data mode =>
        cases same
        exact ⟨visible, data, mode, found, rfl⟩
      | directory | symlink | special => cases same
    | directory | symlink | ignored => cases made
  · rintro ⟨visible, data, perms, found, rfl⟩
    refine ⟨⟨path, .file data.length (platform.digestBuffer data) (permissionsSummary perms)⟩, ?_,
      rfl⟩
    exact (mem_manifest_visible_iff (by simp)).mpr ⟨visible, _, found, rfl⟩

end Manifests

/-! ## What a built change set lists -/

section ChangeSets

variable {beforeFiles afterFiles : OrderedMap Path FileState} {path : Path}
  {edit : WorkspaceChangedPath}

theorem changedPath?_path (changed : changedPath? beforeFiles afterFiles path = some edit) :
    edit.path = path := by
  unfold changedPath? at changed
  split at changed
  · cases changed
    rfl
  · cases changed
    rfl
  · split at changed
    · cases changed
      rfl
    · split at changed
      · cases changed
        rfl
      · cases changed
  · cases changed

/-- What the four kinds of change say about the two manifests. -/
theorem changedPath?_cases (changed : changedPath? beforeFiles afterFiles path = some edit) :
    (∃ after, beforeFiles.get? path = none /\ afterFiles.get? path = some after /\
        edit.status = .added /\ edit.digest = after.digest /\
        edit.size = after.size /\ edit.newPermissions = some after.permissions) \/
      (∃ before, beforeFiles.get? path = some before /\ afterFiles.get? path = none /\
        edit.status = .deleted) \/
      (∃ before after, beforeFiles.get? path = some before /\ afterFiles.get? path = some after /\
        edit.status = .modified /\ edit.digest = after.digest /\
        edit.size = after.size /\ edit.newPermissions = some after.permissions) \/
      ∃ before after, beforeFiles.get? path = some before /\ afterFiles.get? path = some after /\
        before.digest = after.digest /\ edit.status = .modeChanged /\
        edit.digest = after.digest /\ edit.size = after.size /\
        edit.newPermissions = some after.permissions := by
  unfold changedPath? at changed
  split at changed
  next after absent present =>
    cases changed
    exact .inl ⟨after, absent, present, rfl, rfl, rfl, rfl⟩
  next before present absent =>
    cases changed
    exact .inr (.inl ⟨before, present, absent, rfl⟩)
  next before after old new =>
    split at changed
    · cases changed
      exact .inr (.inr (.inl ⟨before, after, old, new, rfl, rfl, rfl, rfl⟩))
    rename_i same
    split at changed
    · cases changed
      exact .inr (.inr (.inr ⟨before, after, old, new, not_not.mp same, rfl, rfl, rfl, rfl⟩))
    · cases changed
  · cases changed

variable {changeSetId : String} {before after : FilesystemSnapshotManifest}
  {changeSet : WorkspaceChangeSet}
  (built : buildFilesystemWorkspaceChangeSet changeSetId before after = .ok changeSet)

include built

theorem build_ok : assertSupportedNonFileChanges before after = .ok () /\ changeSet.changedPaths =
        ((((fileEntriesByPath before).keys ++ (fileEntriesByPath after).keys).dedup).insertionSort
          pathLe).filterMap (changedPath? (fileEntriesByPath before) (fileEntriesByPath after)) /\
      ∀ edit ∈ changeSet.changedPaths, isSafeRelativePath edit.path := by
  rcases bind_inv built with ⟨_, valid, rest⟩
  rcases bind_inv rest with ⟨_, safe, made⟩
  cases made
  refine ⟨valid, rfl, ?_⟩
  rw [refuse_eq_ok_iff, any_eq_false] at safe
  intro edit mem
  have unsafeFree := safe edit mem
  simpa using unsafeFree

/-- A change set lists exactly the paths whose file differs. -/
theorem mem_changedPaths_iff : edit ∈ changeSet.changedPaths <->
      changedPath? (fileEntriesByPath before) (fileEntriesByPath after) edit.path =
        some edit := by
  rw [(build_ok built).2.1, mem_filterMap]
  constructor
  · rintro ⟨path, _, changed⟩
    rw [changedPath?_path changed]
    exact changed
  · intro changed
    refine ⟨edit.path, ?_, changed⟩
    rw [mem_insertionSort, mem_dedup, mem_append, mem_keys_iff, mem_keys_iff]
    rcases changedPath?_cases changed with ⟨_, _, found, _⟩ | ⟨_, found, _⟩ | ⟨_, _, found, _⟩ |
      ⟨_, _, found, _⟩
    · exact .inr (Option.isSome_iff_exists.mpr ⟨_, found⟩)
    · exact .inl (Option.isSome_iff_exists.mpr ⟨_, found⟩)
    · exact .inl (Option.isSome_iff_exists.mpr ⟨_, found⟩)
    · exact .inl (Option.isSome_iff_exists.mpr ⟨_, found⟩)

theorem changedPaths_nodup : (changeSet.changedPaths.map (·.path)).Nodup := by
  rw [(build_ok built).2.1]
  generalize listed : (((fileEntriesByPath before).keys ++ (fileEntriesByPath after).keys).dedup).insertionSort
    pathLe = paths
  have distinct : paths.Nodup := by
    rw [<- listed, (perm_insertionSort pathLe _).nodup_iff]
    exact nodup_dedup _
  have sublist : ((paths.filterMap (changedPath? (fileEntriesByPath before)
      (fileEntriesByPath after))).map (·.path)).Sublist (paths.map id) :=
    map_filterMap_sublist (fun _ _ => changedPath?_path) paths
  rw [map_id] at sublist
  exact distinct.sublist sublist

end ChangeSets

end FilesystemSync
end OpenKit
