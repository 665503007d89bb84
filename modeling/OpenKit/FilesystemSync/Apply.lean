import OpenKit.Foundation.Interruption
import OpenKit.FilesystemSync.Snapshot

namespace OpenKit
namespace FilesystemSync

open Foundation
open Foundation.Effect

/-!
# Applying a reviewed change set

`applyStagedFilesystemChanges` writes the accepted files of a review into the
target directory.  Before the first write it publishes a rollback root with the
files that it is going to replace.  When a write fails, the handler of the same
call undoes the writes; when the process stops, the recovery phase of the next
call for the review does.

Both root directories are trees of their own, so paths cannot leave them and
`realpath` has nothing to resolve.  The private names below the staging root
(the rollback root, its preparation and the owner file) are fields of the
state: reviewed paths that use them are refused before anything is read.  Every
system call is one primitive step that may fail or stop; a sequence of calls
that only read is one step.
-/

/-! ## State -/

/-- The lineage that a rollback marker and a preparation owner share. -/
structure RollbackOwner where
  (changeSetId reviewId stagingRootIdentity targetRootDigest targetRootIdentity : String)
  version : Nat
  workspaceId : String
  deriving DecidableEq, Repr

structure FilesystemRollbackMarker extends RollbackOwner where
  replacementPaths : List Path
  deriving DecidableEq, Repr

/-- A record file: written whole, or cut off by a fault. -/
inductive RecordFile (α : Type) where
  | written (record : α)
  | torn
  deriving DecidableEq, Repr

/-- A rollback root: the backups below `files`, when that directory is there,
and `ready.json`. -/
structure RollbackRoot where
  files : Option (List (Path × Content))
  ready : Option (RecordFile FilesystemRollbackMarker)
  deriving DecidableEq, Repr

inductive ApplyStatus where
  | applied | conflicted
  deriving DecidableEq, Repr

structure WorkspaceApplyResult where
  (id workspaceId reviewId changeSetId : String)
  status : ApplyStatus
  (appliedPaths skippedPaths : List Path)
  conflictRecords : List String
  deriving DecidableEq, Repr

/-- Both directories, the private files of one review and the result that its
durable finalizer has committed. -/
structure SyncState where
  (target staged : FileTree Content)
  (targetRootIdentity stagingRootIdentity : String)
  (rollback preparation : Option RollbackRoot)
  owner : Option (RecordFile RollbackOwner)
  committed : Option WorkspaceApplyResult

/-- How the durable finalizer of a call answers.  After an unknown answer the
result may or may not have been committed. -/
inductive PersistReply where
  | commits | refuses
  | unknown (durable : Bool)
  deriving DecidableEq, Repr

structure ApplyStagedFilesystemChangesInput where
  (workspaceId reviewId : String)
  changeSet : WorkspaceChangeSet
  before : FilesystemSnapshotManifest
  (stagingRootIdentity targetRoot targetRootIdentity : String)

/-- A program of this file.  A torn copy leaves any content behind. -/
abbrev SyncEffect (α : Type) := Effect SyncState (Option Content) SyncError α

/-! ## Primitive steps -/

/-- One system call that reads, or several in a row. -/
def look {α : Type} (read : SyncState -> Except SyncError α) : SyncEffect α :=
  reading (.errno .eio) read

/-- One system call that writes below the target root. -/
def onTarget (act : FileTree Content -> Except Errno (FileTree Content)) : SyncEffect Unit :=
  atomic (.errno .eio) (fun state =>
    match act state.target with
    | .ok tree => .ok { state with target := tree }
    | .error code => .error (.errno code))

/-- One system call that writes a private file below the staging root. -/
def onRollback (act : SyncState -> Except SyncError (Option RollbackRoot)) : SyncEffect Unit :=
  atomic (.errno .eio) (fun state =>
    (act state).map (fun root => { state with rollback := root }))

def onPreparation (act : SyncState -> Except SyncError (Option RollbackRoot)) : SyncEffect Unit :=
  atomic (.errno .eio) (fun state =>
    (act state).map (fun root => { state with preparation := root }))

/-- `fsync` of a file or directory: it changes nothing and may fail. -/
def synchronize : SyncEffect Unit :=
  look (fun _ => .ok ())

/-- `if (!met) throw error`. -/
def demand (met : Bool) (error : SyncError) : SyncEffect Unit :=
  if met then pure () else raise error

def assertSafeRelativePath (path : Path) : SyncEffect Unit :=
  demand (isSafeRelativePath path) (.zod ("Unsafe filesystem workspace path: " ++ path.text))

/-! ## Reading one path -/

/-- Walk down to a path without following links.  The first segment that is no
directory decides the error. -/
def requireExistingPathWithinRoot (tree : FileTree Content) (path : Path) :
    Except SyncError (Node Content) :=
  if isSafeRelativePath path then
    match path.parents.find? (!tree.isDirectory ·) with
    | some parent =>
      match tree.node? parent with
      | none => .error (.errno .enoent)
      | some (.symlink _) => .error (.operation "unsafe filesystem symlink path.")
      | some _ => .error (.operation "unsafe filesystem path parent.")
    | none =>
      match tree.node? path with
      | none => .error (.errno .enoent)
      | some (.symlink _) => .error (.operation "unsafe filesystem symlink path.")
      | some node => .ok node
  else .error (.zod ("Unsafe filesystem workspace path: " ++ path.text))

variable (platform : SyncPlatform) (input : ApplyStagedFilesystemChangesInput)

def readFilesystemFileState (tree : FileTree Content) (path : Path) :
    Except SyncError (Option FileState) :=
  match requireExistingPathWithinRoot tree path with
  | .ok (.file content mode) =>
    .ok (some ⟨content.length, platform.digestBuffer content, permissionsSummary mode⟩)
  | .ok _ => .error (.operation "Filesystem path is not a regular file.")
  | .error (.errno .enoent) => .ok none
  | .error error => .error error

/-- `existsSync`, which follows links. -/
def existsSync (tree : FileTree Content) (path : Path) : Bool :=
  match tree.node? path with
  | some (.symlink reached) => reached.contains []
  | some _ => true
  | none =>
    path.parents.any (fun parent =>
      match tree.node? parent with
      | some (.symlink reached) => reached.contains (path.drop parent.length)
      | _ => false)

variable (changedPath : WorkspaceChangedPath)

def changedFileMatchesDeclaration (state : FileState) : Bool :=
  changedPath.digest = state.digest && changedPath.size = state.size &&
    changedPath.newPermissions = some state.permissions

variable (before : FilesystemSnapshotManifest)

def requireTargetMatchesBefore
    (tree : FileTree Content) (changedPath : WorkspaceChangedPath) : Except SyncError Unit := do
  let current <- readFilesystemFileState platform tree changedPath.path
  match (fileEntriesByPath before).get? changedPath.path with
  | some entry =>
    refuse (!decide (current = some entry))
      (.operation "Filesystem target changed after review preflight.")
  | none =>
    refuse (!(current.isNone && changedPath.status = .added))
      (.operation "Filesystem target changed after review preflight.")

/-! ## Conflict preflight -/

def detectWritableParentConflict (tree : FileTree Content) (path : Path) : Option String :=
  path.parents.findSome? (fun parent =>
    if existsSync tree parent then
      match tree.node? parent with
      | some (.directory _) => none
      | _ => some ("Target parent is not a directory: " ++ parent.text)
    else none)

/-- Whether the staged file is still the reviewed one; a deleted path has none. -/
def stagedMatches (staged : FileTree Content) (changedPath : WorkspaceChangedPath) : Bool :=
  match changedPath.status with
  | .deleted => true
  | _ =>
    match readFilesystemFileState platform staged changedPath.path with
    | .ok (some state) => changedFileMatchesDeclaration changedPath state
    | _ => false

/-- The conflict of a path that the base manifest knows. -/
def baseConflict (target : FileTree Content) (path : Path) : Option String :=
  match (fileEntriesByPath before).get? path with
  | none => some ("Missing base manifest entry: " ++ path.text)
  | some entry =>
    if existsSync target path then
      match requireExistingPathWithinRoot target path with
      | .error _ => some ("Target path escapes workspace root: " ++ path.text)
      | .ok (.file content mode) =>
        if platform.digestBuffer content ≠ entry.digest then
          some ("Target path changed since snapshot: " ++ path.text)
        else if permissionsSummary mode ≠ entry.permissions then
          some ("Target permissions changed since snapshot: " ++ path.text)
        else none
      | .ok _ => some ("Target path is not a file: " ++ path.text)
    else some ("Target path is missing: " ++ path.text)

/-- The conflict that the preflight reports for one path. -/
def conflictOf (state : SyncState) (changedPath : WorkspaceChangedPath) : Option String :=
  if stagedMatches platform state.staged changedPath then
    match changedPath.status with
    | .added =>
      if existsSync state.target changedPath.path then
        some ("Target path already exists: " ++ changedPath.path.text)
      else detectWritableParentConflict state.target changedPath.path
    | _ => baseConflict platform before state.target changedPath.path
  else some ("Staged path changed since review: " ++ changedPath.path.text)

def detectConflicts : SyncEffect (List String) := do
  input.changeSet.changedPaths.forM (assertSafeRelativePath ·.path)
  look (fun state =>
    .ok (input.changeSet.changedPaths.filterMap (conflictOf platform input.before state)))

/-! ## Replacing one file -/

/-- The private sibling directory in which the new content of a path is made. -/
def filesystemReplacementRoot (workspaceId operationId : String) (path : Path) : Path :=
  path.dropLast ++ [".openkit-write-" ++
    platform.sha256 (workspaceId ++ "\x00" ++ operationId ++ "\x00" ++ path.text)]

/-- The paths below a root, each after everything that lies in it. -/
def pathsBelow (tree : FileTree Content) (root : Path) : List Path :=
  (tree.nodes.keys.filter (root.isPrefixOf ·)).insertionSort
    (fun left right => right.length <= left.length)

def removeNode (path : Path) (tree : FileTree Content) : Except Errno (FileTree Content) :=
  if (tree.node? path).any Node.isDirectory then tree.rmdir path else tree.unlink path

/-- `rm(path, { recursive: true, force: true })`, one entry after the other. -/
def removePrivateTree (root : Path) : SyncEffect Unit := do
  let paths <- look (fun state => .ok (pathsBelow state.target root))
  paths.forM (fun path => onTarget (removeNode path))

def removeFilesystemReplacementRoot (root : Path) : SyncEffect Unit := do
  let found <- look (fun state => .ok (state.target.node? root))
  match found with
  | none => pure ()
  | some (.directory _) => removePrivateTree root
  | some _ => raise (.operation "Unsafe filesystem replacement root.")

/-- `mkdir` that reports whether the directory is new. -/
def mkdirIfAbsent (path : Path) (permissions : Permissions) : SyncEffect Bool := do
  let made <- attempt (onTarget (·.mkdir path permissions))
  match made with
  | .ok () => pure true
  | .error (.errno .eexist) => pure false
  | .error error => raise error

def prepareFilesystemParent (candidate : Path) : SyncEffect Unit := do
  let created <- mkdirIfAbsent candidate (platform.masked standardDirectory)
  if created then do
    onTarget (·.chmod candidate standardDirectory)
    synchronize
    synchronize
  else pure ()

def prepareWritablePathWithinRoot (path : Path) : SyncEffect Unit := do
  assertSafeRelativePath path
  path.parents.forM (fun candidate => do
    prepareFilesystemParent platform candidate
    let found <- look (fun state => .ok (state.target.node? candidate))
    demand (found.any Node.isDirectory) (.operation "unsafe filesystem path parent."))

/-- `copyFile(source, temporary)`; a fault leaves some part of the content. -/
def copyFile (source : SyncState -> Except SyncError (Content × Permissions)) (temporary : Path) :
    SyncEffect Unit :=
  step (.errno .eio)
    (fun state => do
      let copied <- source state
      match state.target.writeFile temporary copied.1 copied.2 with
      | .ok tree => .ok ((), { state with target := tree })
      | .error code => .error (.errno code))
    (fun left state =>
      match left with
      | none => state
      | some content =>
        match state.target.writeFile temporary content 0 with
        | .ok tree => { state with target := tree }
        | .error _ => state)

/-- `if (permissions) await chmod(path, permissions)`. -/
def chmodIfGiven (path : Path) : Option Permissions -> SyncEffect Unit
  | some mode => onTarget (·.chmod path mode)
  | none => pure ()

/-- Fill the replacement root and rename its content over the target. -/
def publishReplacement (source : SyncState -> Except SyncError (Content × Permissions))
    (target : Path) (permissions : Option Permissions) (root : Path) : SyncEffect Unit := do
  onTarget (·.chmod root 0o700)
  copyFile source (root ++ ["content"])
  chmodIfGiven (root ++ ["content"]) permissions
  synchronize
  onTarget (·.rename (root ++ ["content"]) target)
  synchronize
  synchronize

def replaceFileFromSource (source : SyncState -> Except SyncError (Content × Permissions))
    (target : Path) (permissions : Option Permissions) (root : Path) : SyncEffect Unit := do
  let found <- look (fun state => .ok (state.target.node? target))
  demand (found.all Node.isFile) (.operation "Filesystem target is not a regular file.")
  onTarget (·.mkdir root (platform.masked 0o700))
  let operation <- attempt (publishReplacement source target permissions root)
  let cleanup <- attempt (removeFilesystemReplacementRoot root)
  match operation, cleanup with
  | .ok (), .ok () => pure ()
  | .error error, .ok () => raise error
  | .ok (), .error error => raise error
  | .error _, .error _ => raise (.aggregate "Filesystem file replacement and cleanup failed.")

def cleanupFilesystemReplacementRoots (replacementPaths : List Path) : SyncEffect Unit :=
  replacementPaths.forM (fun path =>
    removeFilesystemReplacementRoot
      (filesystemReplacementRoot platform input.workspaceId input.reviewId path))

def assertFilesystemReplacementRootsAbsent (replacementPaths : List Path) : SyncEffect Unit :=
  replacementPaths.forM (fun path => do
    let found <- look (fun state => .ok (state.target.node?
      (filesystemReplacementRoot platform input.workspaceId input.reviewId path)))
    demand found.isNone (.operation "Unproven filesystem replacement root."))

/-! ## The rollback marker -/

/-- The paths that are written through a replacement root. -/
def filesystemReplacementPaths (changeSet : WorkspaceChangeSet) : List Path :=
  (changeSet.changedPaths.filter (·.status ≠ .modeChanged)).map (·.path)

/-- Refuse unsafe and repeated replacement paths. -/
def assertReplacementPaths (paths : List Path) : SyncEffect Unit := do
  paths.forM assertSafeRelativePath
  demand (decide paths.Nodup) (.zod "Duplicate filesystem replacement path")

/-- The lineage of a call. -/
def ownerOf : RollbackOwner where
  changeSetId := input.changeSet.id
  reviewId := input.reviewId
  stagingRootIdentity := input.stagingRootIdentity
  targetRootDigest := platform.digestBuffer input.targetRoot
  targetRootIdentity := input.targetRootIdentity
  version := 1
  workspaceId := input.workspaceId

def markerOf : FilesystemRollbackMarker :=
  { ownerOf platform input with
    replacementPaths := filesystemReplacementPaths input.changeSet }

/-- A rollback root without entries. -/
def RollbackRoot.isEmpty (root : RollbackRoot) : Bool :=
  root.files.isNone && root.ready.isNone

/-- Read and check the marker of a published rollback root.  The answer says
whether there is one. -/
def readFilesystemRollbackMarker : SyncEffect Bool := do
  let found <- look (.ok ·.rollback)
  match found with
  | none => pure false
  | some root =>
    if root.isEmpty then do
      onRollback (fun _ => .ok none)
      pure false
    else
      match root.ready with
      | some (.written marker) => do
          demand (decide (marker.toRollbackOwner = ownerOf platform input))
            (.zod ("Filesystem rollback lineage mismatch: " ++ input.reviewId))
          assertReplacementPaths marker.replacementPaths
          demand (decide (marker.replacementPaths = filesystemReplacementPaths input.changeSet))
            (.zod ("Filesystem rollback replacement lineage mismatch: " ++ input.reviewId))
          pure true
      | _ => raise (.failure ("Filesystem rollback marker is unreadable: " ++ input.reviewId))

/-- `removePrivateTreeInventory`: `ready.json` goes last. -/
def removePrivateTreeInventory (backups : List Path) : SyncEffect Unit := do
  backups.forM (fun path => onRollback (fun state =>
    .ok (state.rollback.map (fun root =>
      { root with files := root.files.map (fun files => files.filter (·.1 ≠ path)) }))))
  onRollback (fun state => .ok (state.rollback.map (fun root => { root with files := none })))
  onRollback (fun state => .ok (state.rollback.map (fun root => { root with ready := none })))
  onRollback (fun _ => .ok none)

def cleanupFilesystemRollback : SyncEffect Unit := do
  cleanupFilesystemReplacementRoots platform input (filesystemReplacementPaths input.changeSet)
  let found <- look (.ok ·.rollback)
  match found with
  | none => pure ()
  | some root =>
    if root.isEmpty then onRollback (fun _ => .ok none)
    else do
      demand root.ready.isSome (.operation "Filesystem rollback root contains unknown content.")
      removePrivateTreeInventory ((root.files.getD []).map Prod.fst)

/-! ## Preparing the rollback -/

def removeOwner : SyncEffect Unit :=
  atomic (.errno .eio) (fun state => .ok { state with owner := none })

/-- `removePrivateTree` of the preparation: its entries go before it does. -/
def removePreparation : SyncEffect Unit := do
  onPreparation (fun state => .ok (state.preparation.map (fun _ => ⟨none, none⟩)))
  onPreparation (fun _ => .ok none)

def cleanupFilesystemRollbackPreparation : SyncEffect Unit := do
  let found <- look (fun state => .ok (state.preparation, state.owner))
  match found with
  | (none, none) => pure ()
  | (_, none) =>
    raise (.operation "Filesystem rollback preparation owner is not a regular file.")
  | (_, some .torn) =>
    raise (.failure ("Filesystem rollback preparation owner is unreadable: " ++ input.reviewId))
  | (preparation, some (.written owner)) => do
      demand (decide (owner = ownerOf platform input))
        (.zod ("Filesystem rollback preparation owner mismatch: " ++ input.reviewId))
      if preparation.isSome then removePreparation else pure ()
      removeOwner

/-- Write the owner file, which must not be there yet. -/
def writeOwner : SyncEffect Unit :=
  step (.errno .eio)
    (fun state =>
      if state.owner.isSome then .error (.errno .eexist)
      else .ok ((), { state with owner := some (.written (ownerOf platform input)) }))
    (fun left state =>
      if left.isSome && state.owner.isNone then { state with owner := some .torn } else state)

/-- The regular file that a copy reads. -/
def fileAt (tree : FileTree Content) (path : Path) : Except SyncError (Content × Permissions) :=
  match tree.node? path with
  | some (.file content permissions) => .ok (content, permissions)
  | some _ => .error (.errno .eisdir)
  | none => .error (.errno .enoent)

/-- Back up one path that will be replaced, changed or deleted. -/
def backUp : SyncEffect Unit := do
  look (requireTargetMatchesBefore platform input.before ·.target changedPath)
  if changedPath.status = .added then pure ()
  else do
    let _ <- look (requireExistingPathWithinRoot ·.target changedPath.path)
    assertSafeRelativePath changedPath.path
    onPreparation (fun state => do
      let copied <- fileAt state.target changedPath.path
      .ok (state.preparation.map (fun root =>
        { root with files := some (root.files.getD [] ++ [(changedPath.path, copied.1)]) })))

def writeReady : SyncEffect Unit :=
  step (.errno .eio)
    (fun state =>
      .ok ((), { state with
        preparation := state.preparation.map (fun root =>
          { root with ready := some (.written (markerOf platform input)) }) }))
    (fun left state =>
      if left.isSome then
        { state with
          preparation := state.preparation.map (fun root => { root with ready := some .torn }) }
      else state)

/-- `rename(preparation, rollbackRoot)`: an empty directory may be replaced. -/
def publishRollback : SyncEffect Unit := do
  synchronize
  atomic (.errno .eio) (fun state =>
    if state.rollback.all RollbackRoot.isEmpty then
      .ok { state with rollback := state.preparation, preparation := none }
    else .error (.errno .enotempty))
  synchronize

/-- Remove the preparation if this call made it. -/
def removeCreated (preparationCreated : Bool) : SyncEffect (Except SyncError Unit) :=
  if preparationCreated then attempt removePreparation else pure (.ok ())

/-- Undo a failed preparation and report its error. -/
def abandonPreparation (preparationCreated : Bool) (error : SyncError) : SyncEffect Unit := do
  let first <- removeCreated preparationCreated
  let second <- attempt removeOwner
  match first, second with
  | .ok (), .ok () => raise error
  | _, _ => raise (.aggregate "Filesystem rollback preparation and cleanup failed.")

def prepareFilesystemRollback : SyncEffect Unit := do
  writeOwner platform input
  let made <- attempt (do
    synchronize
    onPreparation (fun state =>
      if state.preparation.isSome then .error (.errno .eexist) else .ok (some ⟨none, none⟩)))
  match made with
  | .error error => abandonPreparation false error
  | .ok () =>
    let published <- attempt (do
      synchronize
      input.changeSet.changedPaths.forM (backUp platform input)
      writeReady platform input
      publishRollback)
    match published with
    | .error error => abandonPreparation true error
    | .ok () =>
      let removed <- attempt removeOwner
      match removed with
      | .error error => abandonPreparation false error
      | .ok () => pure ()

/-! ## Restoring -/

/-- The parents of an added path, innermost first. -/
def removeParents (beforeDirectories : List Path) : List Path -> SyncEffect Unit
  | [] => pure ()
  | parent :: outer =>
    if parent ∈ beforeDirectories then pure ()
    else do
      let found <- attempt (look (requireExistingPathWithinRoot ·.target parent))
      match found with
      | .error (.errno .enoent) => pure ()
      | .error error => raise error
      | .ok _ => do
          let removed <- attempt (onTarget (·.rmdir parent))
          match removed with
          | .error (.errno .enotempty) => pure ()
          | .error error => raise error
          | .ok () => removeParents beforeDirectories outer

def removeAddedParentDirectories (path : Path) (beforeDirectories : List Path) : SyncEffect Unit :=
  removeParents beforeDirectories path.parents.reverse

def directoriesOf (manifest : FilesystemSnapshotManifest) : List Path :=
  manifest.entries.filterMap (fun entry =>
    match entry.kind with
    | .directory _ => some entry.path
    | _ => none)

/-- The backup of a path below the published rollback root. -/
def backupOf (state : SyncState) (path : Path) : Except SyncError Content :=
  match (state.rollback.bind (·.files)).bind (fun files => files.find? (·.1 = path)) with
  | some file => .ok file.2
  | none => .error (.errno .enoent)

/-- Whether the target has the file that the base manifest records, or none when
it records none. -/
def matchesBefore (before current : Option FileState) : Bool :=
  match before with
  | some entry => current.any (fun state =>
    state.digest = entry.digest && state.permissions = entry.permissions)
  | none => current.isNone

/-- Whether the target still has what the apply wrote at a path. -/
def matchesApplied (current : Option FileState) : Bool :=
  match changedPath.status with
  | .deleted => current.isNone
  | _ => current.any (changedFileMatchesDeclaration changedPath)

/-- Put back the content or the permissions that the base manifest records. -/
def restoreEntry (entry : FileState) : SyncEffect Unit :=
  if changedPath.status = .modeChanged then
    onTarget (·.chmod changedPath.path entry.permissions)
  else do
    demand (decide (changedPath.path ∈ filesystemReplacementPaths input.changeSet))
      (.zod ("Filesystem rollback replacement is unproven: " ++ changedPath.path.text))
    replaceFileFromSource platform
      (fun state => (backupOf state changedPath.path).map (fun content => (content, 0)))
      changedPath.path (some entry.permissions)
      (filesystemReplacementRoot platform input.workspaceId input.reviewId changedPath.path)

variable (before : Option FileState)

/-- Restore a path from its backup, which must be the file of the base manifest. -/
def restoreFile : SyncEffect Unit := do
  let backup <- look (backupOf · changedPath.path)
  match before with
  | none => raise (.operation "Filesystem rollback backup is invalid.")
  | some entry => do
      demand (decide (platform.digestBuffer backup = entry.digest))
        (.operation "Filesystem rollback backup is invalid.")
      restoreEntry platform input changedPath entry

/-- Undo a path whose current file is the one that the apply wrote. -/
def restoreApplied : SyncEffect Unit := do
  prepareWritablePathWithinRoot platform changedPath.path
  if changedPath.status = .added then do
    onTarget (·.unlink changedPath.path)
    removeAddedParentDirectories changedPath.path (directoriesOf input.before)
  else restoreFile platform input changedPath before

/-- Undo one reviewed path, given what the base manifest says about it. -/
def restoreFrom : SyncEffect Unit := do
  let current <- look (readFilesystemFileState platform ·.target changedPath.path)
  if matchesBefore before current then
    if before.isNone && changedPath.status = .added then
      removeAddedParentDirectories changedPath.path (directoriesOf input.before)
    else pure ()
  else do
    demand (matchesApplied changedPath current)
      (.operation "Filesystem rollback target changed after apply.")
    restoreApplied platform input changedPath before

/-- Undo one reviewed path. -/
def restorePath : SyncEffect Unit :=
  restoreFrom platform input changedPath ((fileEntriesByPath input.before).get? changedPath.path)

/-- Undo the given paths and count the ones that failed. -/
def restorePaths (platform : SyncPlatform) (input : ApplyStagedFilesystemChangesInput) :
    List WorkspaceChangedPath -> SyncEffect Nat
  | [] => pure 0
  | changedPath :: rest => do
      let restored <- attempt (restorePath platform input changedPath)
      let failures <- restorePaths platform input rest
      match restored with
      | .ok () => pure failures
      | .error _ => pure (failures + 1)

def restoreFilesystemRollback : SyncEffect Unit := do
  let failures <- restorePaths platform input input.changeSet.changedPaths.reverse
  demand (decide (failures = 0))
    (.aggregate "Filesystem rollback found conflicting target state.")

/-- What the handler and the recovery both do. -/
def rollBack : SyncEffect Unit := do
  cleanupFilesystemReplacementRoots platform input (filesystemReplacementPaths input.changeSet)
  restoreFilesystemRollback platform input
  cleanupFilesystemRollback platform input

def recoverFilesystemRollback : SyncEffect Unit := do
  let published <- readFilesystemRollbackMarker platform input
  if published then rollBack platform input
  else
    assertFilesystemReplacementRootsAbsent platform input
      (filesystemReplacementPaths input.changeSet)

/-! ## One call -/

def filesystemRollbackDirectoryName (workspaceId reviewId : String) : String :=
  ".openkit-workspace-rollback-" ++ platform.sha256 (workspaceId ++ "\x00" ++ reviewId)

/-- The private names below the staging root. -/
def reservedPaths : List Path :=
  let name := filesystemRollbackDirectoryName platform input.workspaceId input.reviewId
  [[name], [name ++ ".prepare"], [name ++ ".prepare.owner.json"]]

def requireFilesystemRootIdentities : SyncEffect Unit :=
  look (fun state =>
    refuse (!(state.stagingRootIdentity = input.stagingRootIdentity &&
        state.targetRootIdentity = input.targetRootIdentity))
      (.operation "Filesystem workspace root identity changed after review staging."))

/-- Refuse unsafe paths and paths that use a private name. -/
def assertUnreserved : SyncEffect Unit :=
  input.changeSet.changedPaths.forM (fun changedPath => do
    assertSafeRelativePath changedPath.path
    demand (!(reservedPaths platform input).any (·.isPrefixOf changedPath.path))
      (.operation "Reserved filesystem workspace path."))

/-- The part of a call that comes before the conflict preflight. -/
def recoveryPhase : SyncEffect Unit := do
  requireFilesystemRootIdentities input
  requireFilesystemRootIdentities input
  assertUnreserved platform input
  assertReplacementPaths (filesystemReplacementPaths input.changeSet)
  cleanupFilesystemRollbackPreparation platform input
  recoverFilesystemRollback platform input

/-- `chmod(targetPath, parsePermissionsSummary(newPermissions ?? ''))`. -/
def chmodReviewed (path : Path) : Option Permissions -> SyncEffect Unit
  | some mode => onTarget (·.chmod path mode)
  | none => raise (.zod "Invalid permission summary: ")

/-- Copy a staged file over its target. -/
def installStaged : SyncEffect Unit := do
  let _ <- look (requireExistingPathWithinRoot ·.staged changedPath.path)
  replaceFileFromSource platform (fileAt ·.staged changedPath.path)
    changedPath.path changedPath.newPermissions
    (filesystemReplacementRoot platform input.workspaceId input.reviewId changedPath.path)

def writeReviewed : SyncEffect Unit :=
  match changedPath.status with
  | .deleted => onTarget (·.unlink changedPath.path)
  | .modeChanged => chmodReviewed changedPath.path changedPath.newPermissions
  | .added => installStaged platform input changedPath
  | .modified => installStaged platform input changedPath

def applyPath : SyncEffect Unit := do
  look (requireTargetMatchesBefore platform input.before ·.target changedPath)
  assertSafeRelativePath changedPath.path
  prepareWritablePathWithinRoot platform changedPath.path
  writeReviewed platform input changedPath

variable (reply : PersistReply)

def persistResult (result : WorkspaceApplyResult) : SyncEffect Unit :=
  match reply with
  | .commits => atomic (.errno .eio) (fun state => .ok { state with committed := some result })
  | .refuses => raise (.persist false)
  | .unknown durable => do
      atomic (.errno .eio) (fun state =>
        .ok (if durable then { state with committed := some result } else state))
      raise (.persist true)

def conflictedResult (conflicts : List String) : WorkspaceApplyResult where
  id := "war_" ++ input.reviewId
  workspaceId := input.workspaceId
  reviewId := input.reviewId
  changeSetId := input.changeSet.id
  status := .conflicted
  appliedPaths := []
  skippedPaths := input.changeSet.changedPaths.map (·.path)
  conflictRecords := conflicts

def appliedResult : WorkspaceApplyResult where
  id := "war_" ++ input.reviewId
  workspaceId := input.workspaceId
  reviewId := input.reviewId
  changeSetId := input.changeSet.id
  status := .applied
  appliedPaths := input.changeSet.changedPaths.map (·.path)
  skippedPaths := []
  conflictRecords := []

/-- Undo the writes of a failed apply and report its error. -/
def undoAndReport (error : SyncError) : SyncEffect Unit := do
  let undone <- attempt (rollBack platform input)
  match undone with
  | .ok () => raise error
  | .error rollbackError => raise (.applyAndRollback error rollbackError)

/-- The handler of a failed apply. -/
def handleFailure : SyncError -> SyncEffect Unit
  -- the result may be committed, so nothing is undone
  | .persist true => raise (.persist true)
  | error => undoAndReport platform input error

/-- Write every path and commit the result; undo the writes when that fails. -/
def writeAndPersist : SyncEffect Unit := do
  let ran <- attempt (do
    input.changeSet.changedPaths.forM (applyPath platform input)
    persistResult reply (appliedResult input))
  match ran with
  | .ok () => pure ()
  | .error error => handleFailure platform input error

/-- The part of a call after its recovery phase. -/
def applyPhase : SyncEffect WorkspaceApplyResult := do
  let conflicts <- detectConflicts platform input
  if conflicts ≠ [] then do
    persistResult reply (conflictedResult input conflicts)
    pure (conflictedResult input conflicts)
  else do
    prepareFilesystemRollback platform input
    let published <- readFilesystemRollbackMarker platform input
    demand published (.failure ("Filesystem rollback marker was not published: " ++ input.reviewId))
    writeAndPersist platform input reply
    cleanupFilesystemRollback platform input
    pure (appliedResult input)

def applyStagedFilesystemChanges : SyncEffect WorkspaceApplyResult := do
  recoveryPhase platform input
  applyPhase platform input reply

/-! ## Runs -/

/-- One call for a review: how its finalizer answers and which faults strike it. -/
structure ApplyCall where
  reply : PersistReply
  faults : Faults SyncState (Option Content)

/-- What one call answers, and the state it leaves for whatever reason it ends. -/
def runApply (call : ApplyCall) (state : SyncState) :
    Except (Halt SyncError) WorkspaceApplyResult × SyncState :=
  let ran := applyStagedFilesystemChanges platform input call.reply ⟨state, call.faults⟩
  (ran.1, ran.2.state)

/-- The state after a sequence of calls for one review. -/
def stateAfter (calls : List ApplyCall) (state : SyncState) : SyncState :=
  runCalls (fun call current => (runApply platform input call current).2) calls state

end FilesystemSync
end OpenKit
