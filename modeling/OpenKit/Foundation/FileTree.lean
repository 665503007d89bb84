import Mathlib.Algebra.GroupWithZero.Nat
import Mathlib.Data.List.Infix
import OpenKit.Foundation.OrderedMap

namespace OpenKit
namespace Foundation

open List OrderedMap

/-!
# File trees

The part of a file system that lies below one root directory.  A path is the
list of names from the root down, so it cannot leave the root.  A tree maps
paths to nodes, and its proof field says that every node lies in a directory:
operations that would break this are refused with the error number that the
operating system reports.

Symbolic links are never followed by the operations here.  A link only keeps
the list of paths that exist behind it, which is what `existsSync` can see.
-/

/-- Names from the root down; the empty list is the root itself. -/
abbrev Path := List String

/-- The mode bits of a file or directory: nine for access, and above them sticky, setgid
and setuid. -/
abbrev Permissions := Fin 4096

instance Permissions.neZero : NeZero 4096 := ⟨by decide⟩

/-- What a path names. -/
inductive Node (α : Type) where
  | file (content : α) (permissions : Permissions)
  | directory (permissions : Permissions)
  | symlink (reached : List Path)
  /-- A FIFO, a socket or a device. -/
  | special
  deriving DecidableEq, Repr

/-- The error numbers that the programs of this development tell apart. -/
inductive Errno where
  | enoent | enotdir | eexist | enotempty | eisdir | eio
  deriving DecidableEq, Repr

def Node.isDirectory {α : Type} : Node α -> Bool
  | .directory _ => true
  | _ => false

/-- A regular file. -/
def Node.isFile {α : Type} : Node α -> Bool
  | .file _ _ => true
  | _ => false

theorem Node.isDirectory_iff {α : Type} {node : Node α} :
    node.isDirectory <-> ∃ perms, node = .directory perms := by
  cases node with
  | file | directory | symlink | special => simp [Node.isDirectory]

/-! ## Paths -/

namespace Path

/-- The directories that lead to a path, outermost first, without the root. -/
def parents (path : Path) : List Path :=
  (List.range (path.length - 1)).map (fun index => path.take (index + 1))

/-- A path as the source writes it. -/
def text (path : Path) : String :=
  "/".intercalate path

variable {path parent : Path}

theorem length_lt (isPrefix : parent <+: path) (apart : parent ≠ path) :
    parent.length < path.length := by
  refine Nat.lt_of_le_of_ne isPrefix.length_le ?_
  intro equal
  exact apart (isPrefix.eq_of_length equal)

theorem mem_parents_iff :
    parent ∈ parents path <-> parent ≠ [] /\ parent <+: path /\ parent ≠ path := by
  unfold parents
  rw [mem_map]
  constructor
  · rintro ⟨index, mem, rfl⟩
    have bound := mem_range.mp mem
    refine ⟨?_, take_prefix _ _, ?_⟩
    · intro empty
      have size := congrArg List.length empty
      simp only [length_take, length_nil] at size
      omega
    · intro same
      have size := congrArg List.length same
      simp only [length_take] at size
      omega
  · rintro ⟨nonempty, isPrefix, apart⟩
    have shorter := length_lt isPrefix apart
    have positive := length_pos_iff.mpr nonempty
    refine ⟨parent.length - 1, mem_range.mpr (by omega), ?_⟩
    rw [Nat.sub_add_cancel positive]
    exact (prefix_iff_eq_take.mp isPrefix).symm

/-- Outer directories come before inner ones. -/
theorem parents_pairwise (path : Path) :
    path.parents.Pairwise (fun outer inner => outer.length < inner.length) := by
  unfold parents
  rw [pairwise_map]
  refine pairwise_lt_range.imp_of_mem ?_
  intro first second _ inRange less
  have bound := mem_range.mp inRange
  rw [length_take, length_take]
  omega

/-- A proper prefix of a path lies in or above the directory of the path. -/
theorem prefix_dropLast (isPrefix : parent <+: path) (apart : parent ≠ path) :
    parent <+: path.dropLast := by
  have shorter := length_lt isPrefix apart
  refine prefix_of_prefix_length_le isPrefix (List.dropLast_prefix path) ?_
  rw [length_dropLast]
  omega

theorem dropLast_ne (named : path ≠ []) : path.dropLast ≠ path := by
  intro same
  have size := congrArg List.length same
  rw [length_dropLast] at size
  have positive := length_pos_iff.mpr named
  omega

/-- The directory of a path leads to it. -/
theorem dropLast_mem_parents (named : path.dropLast ≠ []) : path.dropLast ∈ parents path := by
  rw [mem_parents_iff]
  refine ⟨named, dropLast_prefix path, dropLast_ne ?_⟩
  intro empty
  exact named (by rw [empty]; rfl)

theorem dropLast_mem_of_mem (leads : parent ∈ parents path) : path.dropLast ∈ parents path := by
  rcases mem_parents_iff.mp leads with ⟨named, isPrefix, apart⟩
  refine dropLast_mem_parents (fun empty => named ?_)
  exact prefix_nil.mp (empty ▸ prefix_dropLast isPrefix apart)

/-- What leads to a directory on the way to a path leads to the path. -/
theorem mem_parents_of_prefix {outer : Path} (named : outer ≠ []) (above : outer <+: parent)
    (leads : parent ∈ parents path) : outer ∈ parents path := by
  rcases mem_parents_iff.mp leads with ⟨_, isPrefix, apart⟩
  refine mem_parents_iff.mpr ⟨named, above.trans isPrefix, ?_⟩
  rintro rfl
  exact apart (isPrefix.eq_of_length_le above.length_le)

theorem parents_dropLast (leads : parent ∈ parents path.dropLast) : parent ∈ parents path := by
  rcases mem_parents_iff.mp leads with ⟨named, isPrefix, apart⟩
  refine mem_parents_iff.mpr ⟨named, isPrefix.trans (List.dropLast_prefix path), ?_⟩
  rintro rfl
  exact apart (isPrefix.eq_of_length_le (List.dropLast_prefix parent).length_le)

/-- The innermost directory on the way to a path is its own. -/
theorem parents_reverse (named : path.dropLast ≠ []) :
    path.parents.reverse = path.dropLast :: (parents path.dropLast).reverse := by
  have positive := length_pos_iff.mpr named
  rw [length_dropLast] at positive
  have size : path.length - 1 = path.length - 1 - 1 + 1 := by omega
  unfold parents
  rw [size, range_succ, map_append, map_singleton, reverse_append, length_dropLast, <- size,
    <- dropLast_eq_take]
  refine congrArg (fun outer => path.dropLast :: outer.reverse) (map_congr_left ?_)
  intro index inRange
  have bound := mem_range.mp inRange
  rw [dropLast_eq_take, take_take]
  congr 1
  omega

end Path

/-! ## Trees -/

/-- Nodes below one root.  Every node lies in a directory. -/
structure FileTree (α : Type) where
  nodes : OrderedMap Path (Node α)
  rooted : ∀ path node, nodes.get? path = some node ->
    path ≠ [] /\ (path.dropLast = [] \/
      ∃ permissions, nodes.get? path.dropLast = some (.directory permissions))

namespace FileTree

variable {α : Type} {tree : FileTree α}

/-- The node at a path, `lstat`. -/
def node? (tree : FileTree α) (path : Path) : Option (Node α) :=
  tree.nodes.get? path

/-- The root or a directory node: a place where entries can be made. -/
def isDirectory (tree : FileTree α) (path : Path) : Bool :=
  path.isEmpty || (tree.node? path).any Node.isDirectory

/-- A directory that is not empty. -/
def hasEntry (tree : FileTree α) (path : Path) : Bool :=
  tree.nodes.keys.any (·.dropLast = path)

/-- Two trees with the same nodes. -/
def Same (left right : FileTree α) : Prop :=
  ∀ path, left.node? path = right.node? path

/-- The tree without nodes. -/
def empty : FileTree α where
  nodes := OrderedMap.empty
  rooted := by
    intro path node found
    cases found

variable {path : Path}

theorem isDirectory_iff : tree.isDirectory path <->
      path = [] \/ ∃ perms, tree.node? path = some (.directory perms) := by
  unfold isDirectory
  rw [Bool.or_eq_true, List.isEmpty_iff, Option.any_eq_true]
  constructor
  · rintro (root | ⟨node, found, isDir⟩)
    · exact .inl root
    · rcases Node.isDirectory_iff.mp isDir with ⟨perms, rfl⟩
      exact .inr ⟨perms, found⟩
  · rintro (root | ⟨perms, found⟩)
    · exact .inl root
    · exact .inr ⟨_, found, rfl⟩

theorem hasEntry_iff : tree.hasEntry path <->
      ∃ entry node, tree.node? entry = some node /\ entry.dropLast = path := by
  unfold hasEntry
  rw [any_eq_true]
  constructor
  · rintro ⟨entry, mem, inside⟩
    rcases Option.isSome_iff_exists.mp ((mem_keys_iff ..).mp mem) with ⟨node, found⟩
    exact ⟨entry, node, found, of_decide_eq_true inside⟩
  · rintro ⟨entry, node, found, inside⟩
    refine ⟨entry, (mem_keys_iff ..).mpr ?_, decide_eq_true inside⟩
    exact Option.isSome_iff_exists.mpr ⟨node, found⟩

variable {node : Node α}

theorem isDirectory_dropLast (found : tree.node? path = some node) :
    tree.isDirectory path.dropLast :=
  isDirectory_iff.mpr (tree.rooted path node found).2

variable {parent : Path}

/-- What lies below a directory lies in one of its entries. -/
theorem hasEntry_of_ancestor (found : tree.node? path = some node) (isPrefix : parent <+: path)
    (apart : parent ≠ path) : tree.hasEntry parent := by
  induction path using List.reverseRecOn generalizing node with
  | nil => exact absurd (prefix_nil.mp isPrefix) apart
  | append_singleton front last ih =>
    have within := Path.prefix_dropLast isPrefix apart
    rw [dropLast_concat] at within
    by_cases same : parent = front
    · exact hasEntry_iff.mpr ⟨_, node, found, by rw [dropLast_concat, same]⟩
    have above := isDirectory_dropLast found
    rw [dropLast_concat, isDirectory_iff] at above
    rcases above with root | ⟨perms, folder⟩
    · rw [root] at within same
      exact absurd (prefix_nil.mp within) same
    · exact ih folder within same

theorem directory_of_ancestor (found : tree.node? path = some node) (isPrefix : parent <+: path)
    (named : parent ≠ []) (apart : parent ≠ path) :
    ∃ perms, tree.node? parent = some (.directory perms) := by
  rcases hasEntry_iff.mp (hasEntry_of_ancestor found isPrefix apart) with
    ⟨entry, child, inside, rfl⟩
  exact (isDirectory_iff.mp (isDirectory_dropLast inside)).resolve_left named

/-- Below a path that is no directory there is nothing. -/
theorem node?_eq_none_of_ancestor (isPrefix : parent <+: path) (named : parent ≠ [])
    (apart : parent ≠ path) (absent : ∀ perms, tree.node? parent ≠ some (.directory perms)) :
    tree.node? path = none := by
  cases found : tree.node? path with
  | none => rfl
  | some =>
    rcases directory_of_ancestor found isPrefix named apart with ⟨perms, folder⟩
    exact absurd folder (absent perms)

/-! ## The two ways to change a tree -/

/-- What a new node at a path needs: a directory above it, and a directory in
its own place when there are entries below it. -/
structure Fits (tree : FileTree α) (path : Path) (node : Node α) : Prop where
  named : path ≠ []
  above : tree.isDirectory path.dropLast
  below : tree.hasEntry path -> node.isDirectory

def put (tree : FileTree α) (path : Path) (node : Node α) (fits : tree.Fits path node) :
    FileTree α where
  nodes := tree.nodes.set path node
  rooted := by
    intro candidate found lookup
    rw [get?_set] at lookup
    rw [get?_set]
    by_cases same : candidate = path
    · subst same
      refine ⟨fits.named, ?_⟩
      rw [if_neg (Path.dropLast_ne fits.named)]
      exact isDirectory_iff.mp fits.above
    · rw [if_neg same] at lookup
      refine ⟨(tree.rooted candidate found lookup).1, ?_⟩
      by_cases inside : candidate.dropLast = path
      · have isDir := fits.below (hasEntry_iff.mpr ⟨candidate, found, lookup, inside⟩)
        rcases Node.isDirectory_iff.mp isDir with ⟨permissions, rfl⟩
        exact .inr ⟨permissions, by rw [if_pos inside]⟩
      · rw [if_neg inside]
        exact (tree.rooted candidate found lookup).2

/-- Remove the node at a path without entries. -/
def drop (tree : FileTree α) (path : Path) (bare : tree.hasEntry path = false) : FileTree α where
  nodes := tree.nodes.remove path
  rooted := by
    intro candidate found lookup
    rw [get?_remove] at lookup
    split at lookup
    · cases lookup
    refine ⟨(tree.rooted candidate found lookup).1, ?_⟩
    have outside : candidate.dropLast ≠ path := by
      intro inside
      rw [hasEntry_iff.mpr ⟨candidate, found, lookup, inside⟩] at bare
      cases bare
    rw [get?_remove, if_neg outside]
    exact (tree.rooted candidate found lookup).2

@[simp] theorem node?_drop {bare : tree.hasEntry path = false} (other : Path) :
    (tree.drop path bare).node? other =
      if other = path then none else tree.node? other :=
  get?_remove ..

/-! ## Operations -/

instance {path : Path} {node : Node α} : Decidable (tree.Fits path node) :=
  decidable_of_iff (path ≠ [] /\ tree.isDirectory path.dropLast /\
      (tree.hasEntry path -> node.isDirectory))
    ⟨fun parts => ⟨parts.1, parts.2.1, parts.2.2⟩, fun fits => ⟨fits.named, fits.above, fits.below⟩⟩

/-- Put a node at a path, or report that the directory above it is missing. -/
def place (tree : FileTree α) (path : Path) (node : Node α) : Except Errno (FileTree α) :=
  if fits : tree.Fits path node then .ok (tree.put path node fits)
  else if tree.hasEntry path then .error .eisdir
  else if (tree.node? path.dropLast).isSome then .error .enotdir
  else .error .enoent

def mkdir (tree : FileTree α) (path : Path) (permissions : Permissions) :
    Except Errno (FileTree α) :=
  if (tree.node? path).isSome then .error .eexist
  else tree.place path (.directory permissions)

/-- `chmod`; a symbolic link would be followed and is refused here, as is a special file. -/
def chmod (tree : FileTree α) (path : Path) (permissions : Permissions) :
    Except Errno (FileTree α) :=
  match tree.node? path with
  | some (.file content _) => tree.place path (.file content permissions)
  | some (.directory _) => tree.place path (.directory permissions)
  | some _ => .error .eio
  | none => .error .enoent

/-- Create or overwrite a regular file. -/
def writeFile (tree : FileTree α) (path : Path) (content : α) (permissions : Permissions) :
    Except Errno (FileTree α) :=
  match tree.node? path with
  | some (.directory _) => .error .eisdir
  | some (.symlink _) => .error .eio
  | some .special => .error .eio
  | _ => tree.place path (.file content permissions)

/-- `rm(path, { force: true })`: an absent path is no error, a directory is. -/
def unlink (tree : FileTree α) (path : Path) : Except Errno (FileTree α) :=
  match tree.node? path with
  | some (.directory _) => .error .eisdir
  | _ => if bare : tree.hasEntry path = false then .ok (tree.drop path bare) else .error .eisdir

def rmdir (tree : FileTree α) (path : Path) : Except Errno (FileTree α) :=
  match tree.node? path with
  | none => .error .enoent
  | some (.directory _) =>
    if bare : tree.hasEntry path = false then .ok (tree.drop path bare) else .error .enotempty
  | some _ => .error .enotdir

/-- `rename` of a regular file, replacing a file that is in its way. -/
def rename (tree : FileTree α) (source target : Path) : Except Errno (FileTree α) :=
  match tree.node? source with
  | some (.file content permissions) =>
    match tree.unlink source with
    | .ok moved =>
      match moved.node? target with
      | some (.directory _) => .error .eisdir
      | _ => moved.place target (.file content permissions)
    | .error error => .error error
  | some _ => .error .eio
  | none => .error .enoent

/-! ## What a successful operation did -/

variable {next : FileTree α} {perms : Permissions} {data : α} {source target : Path}

theorem place_ok (placed : tree.place path node = .ok next) (other : Path) :
    next.node? other = if other = path then some node else tree.node? other := by
  unfold place at placed
  split at placed
  · cases placed
    exact get?_set ..
  · split at placed
    · cases placed
    · split at placed <;> cases placed

theorem mkdir_ok (made : tree.mkdir path perms = .ok next) :
    tree.node? path = none /\ ∀ other, next.node? other =
      if other = path then some (.directory perms) else tree.node? other := by
  unfold mkdir at made
  split at made
  · cases made
  next free =>
    exact ⟨by simpa using free, place_ok made⟩

theorem chmod_ok (changed : tree.chmod path perms = .ok next) :
    (∃ data old, tree.node? path = some (.file data old) /\ ∀ other, next.node? other =
        if other = path then some (.file data perms) else tree.node? other) \/
      ∃ old, tree.node? path = some (.directory old) /\ ∀ other, next.node? other =
        if other = path then some (.directory perms) else tree.node? other := by
  unfold chmod at changed
  split at changed
  next data old found =>
    exact .inl ⟨data, old, found, place_ok changed⟩
  next old found =>
    exact .inr ⟨old, found, place_ok changed⟩
  · cases changed
  · cases changed

theorem writeFile_ok (wrote : tree.writeFile path data perms = .ok next)
    (other : Path) : next.node? other =
      if other = path then some (.file data perms) else tree.node? other := by
  unfold writeFile at wrote
  split at wrote
  · cases wrote
  · cases wrote
  · cases wrote
  · exact place_ok wrote other

theorem unlink_ok (removed : tree.unlink path = .ok next) (other : Path) :
    next.node? other = if other = path then none else tree.node? other := by
  unfold unlink at removed
  split at removed
  · cases removed
  split at removed
  · cases removed
    exact node?_drop other
  · cases removed

theorem rmdir_ok (removed : tree.rmdir path = .ok next) :
    (∃ perms, tree.node? path = some (.directory perms)) /\ ∀ other,
      next.node? other = if other = path then none else tree.node? other := by
  unfold rmdir at removed
  split at removed
  · cases removed
  next perms found =>
    split at removed
    · cases removed
      exact ⟨⟨perms, found⟩, node?_drop⟩
    · cases removed
  · cases removed

/-- A directory is kept only for what is in it. -/
theorem rmdir_refused {code : Errno} (found : tree.node? path = some (.directory perms))
    (refused : tree.rmdir path = .error code) : code = .enotempty /\ tree.hasEntry path := by
  unfold rmdir at refused
  rw [found] at refused
  dsimp only at refused
  split at refused
  · cases refused
  next filled =>
    cases refused
    exact ⟨rfl, eq_true_of_ne_false filled⟩

theorem rename_ok (moved : tree.rename source target = .ok next) :
    ∃ data perms, tree.node? source = some (.file data perms) /\
      ∀ other, next.node? other =
        if other = target then some (.file data perms)
        else if other = source then none else tree.node? other := by
  unfold rename at moved
  split at moved
  next data perms found =>
    refine ⟨data, perms, found, ?_⟩
    split at moved
    next unlinked =>
      split at moved
      · cases moved
      · intro other
        rw [place_ok moved other, unlink_ok unlinked other]
    · cases moved
  · cases moved
  · cases moved

/-! ## When an operation succeeds -/

variable {old : Permissions}

theorem place_of_fits (fits : tree.Fits path node) :
    tree.place path node = .ok (tree.put path node fits) :=
  dif_pos fits

theorem hasEntry_eq_false_of_not_directory (named : path ≠ [])
    (absent : ∀ perms, tree.node? path ≠ some (.directory perms)) : tree.hasEntry path = false := by
  cases inside : tree.hasEntry path with
  | false => rfl
  | true =>
    rcases hasEntry_iff.mp inside with ⟨entry, node, found, rfl⟩
    rcases (tree.rooted entry node found).2 with root | ⟨perms, folder⟩
    · exact absurd root named
    · exact absurd folder (absent perms)

/-- A node can be replaced by one that is a directory if it was one. -/
theorem place_of_present {old : Node α} (node : Node α) (found : tree.node? path = some old)
    (kept : old.isDirectory -> node.isDirectory) : ∃ next, tree.place path node = .ok next := by
  have named := (tree.rooted path old found).1
  refine ⟨_, place_of_fits ⟨named, isDirectory_dropLast found, ?_⟩⟩
  intro inside
  apply kept
  by_contra other
  rw [hasEntry_eq_false_of_not_directory named] at inside
  · cases inside
  · intro perms folder
    rw [found] at folder
    cases folder
    exact other rfl

theorem mkdir_of_absent (perms : Permissions) (named : path ≠ [])
    (absent : tree.node? path = none) (above : tree.isDirectory path.dropLast) :
    ∃ next, tree.mkdir path perms = .ok next := by
  unfold mkdir
  rw [absent]
  exact ⟨_, place_of_fits ⟨named, above, fun _ => rfl⟩⟩

theorem chmod_of_directory (perms : Permissions) (found : tree.node? path = some (.directory old)) :
    ∃ next, tree.chmod path perms = .ok next /\ ∀ other, next.node? other =
      if other = path then some (.directory perms) else tree.node? other := by
  unfold chmod
  rw [found]
  rcases place_of_present (.directory perms) found (fun _ => rfl) with ⟨next, placed⟩
  exact ⟨next, placed, place_ok placed⟩

end FileTree

end Foundation
end OpenKit
