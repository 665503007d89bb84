import OpenKit.FilesystemSync.Apply

namespace OpenKit
namespace FilesystemSync

open Foundation List
open Foundation.Effect FileTree

/-!
# What the steps of an apply do to the target

One specification for each function that writes below the target root.  It says
what the function leaves when it returns and what it leaves when it ends early,
as a relation between the two trees, path by path.  The functions that only
write private files of the staging root leave the target alone.

All of these hold for every set of exposed states.  The two functions that make and
remove the parents of a path pass through states in which only some of the parents are
there; they end early in exposed states only.
-/

variable {halted : SyncState -> Prop} {post : Unit -> SyncState -> Prop}

variable {exposed : SyncState -> Prop} {state : SyncState}

/-! ## Rules for the primitive steps -/

section Rules

variable {α : Type} {read : SyncState -> Except SyncError α}
  {act : FileTree Content -> Except Errno (FileTree Content)} {met : Bool} {error : SyncError}

theorem look_rule {post : α -> SyncState -> Prop}
    (answered : ∀ value, read state = .ok value -> post value state) (kept : halted state) :
    Holds exposed (look read) state post (fun _ => halted) :=
  holds_reading answered (fun _ _ => kept) (fun _ => ⟨kept, kept⟩)

theorem onTarget_rule
    (acted : ∀ tree, act state.target = .ok tree -> post () { state with target := tree })
    (kept : halted state) : Holds exposed (onTarget act) state post (fun _ => halted) := by
  refine holds_atomic ?_ (fun _ _ => kept) (fun _ => ⟨kept, kept⟩)
  intro written wrote
  split at wrote
  next tree done =>
    cases wrote
    exact acted tree done
  · cases wrote

/-- A read that is answered. -/
theorem look_ok {post : α -> SyncState -> Prop} {value : α} (answered : read state = .ok value)
    (holds : post value state) (struck : exposed state -> halted state) :
    Holds exposed (look read) state post (fun _ => halted) := by
  refine holds_step_ok ?_ holds (fun here _ => ⟨struck here, struck here⟩)
  rw [answered]
  rfl

theorem onTarget_ok {tree : FileTree Content} (acted : act state.target = .ok tree)
    (holds : post () { state with target := tree }) (struck : exposed state -> halted state) :
    Holds exposed (onTarget act) state post (fun _ => halted) := by
  refine holds_step_ok ?_ holds (fun here _ => ⟨struck here, struck here⟩)
  dsimp only
  rw [acted]
  rfl

theorem synchronize_ok (holds : post () state) (struck : exposed state -> halted state) :
    Holds exposed synchronize state post (fun _ => halted) :=
  look_ok rfl holds struck

theorem demand_rule (granted : met -> post () state) (kept : halted state) :
    Holds exposed (demand met error) state post (fun _ => halted) := by
  unfold demand
  split
  next isMet =>
    exact holds_pure (granted isMet)
  · exact holds_raise kept

theorem demand_ok {halted : Halt SyncError -> SyncState -> Prop} (isMet : met)
    (holds : post () state) : Holds exposed (demand met error) state post halted := by
  rw [isMet]
  exact holds_pure holds

theorem demand_keeps {inv : SyncState -> Prop} : Keeps exposed inv (demand met error) :=
  fun _ kept => demand_rule (fun _ => kept) kept

theorem synchronize_rule (passed : post () state) (kept : halted state) :
    Holds exposed synchronize state post (fun _ => halted) :=
  look_rule (fun _ _ => passed) kept

theorem attempt_rule {body : SyncEffect α} {post : Except SyncError α -> SyncState -> Prop}
    (caught : SyncState -> Prop)
    (held : Holds exposed body state (fun value => post (.ok value)) (fun _ => caught))
    (continues : ∀ error after, caught after -> post (.error error) after)
    (stops : ∀ after, caught after -> halted after) :
    Holds exposed (attempt body) state post (fun _ => halted) := by
  apply holds_attempt
  refine holds_mono held (fun _ _ ended => ended) ?_
  intro reason after ended
  cases reason with
  | thrown error => exact continues error after ended
  | stopped => exact stops after ended

/-- A write whose error is looked at. -/
theorem tryOnTarget_rule {post : Except SyncError Unit -> SyncState -> Prop}
    (acted : ∀ tree, act state.target = .ok tree -> post (.ok ()) { state with target := tree })
    (refused : ∀ code, act state.target = .error code -> post (.error (.errno code)) state)
    (struck : exposed state -> post (.error (.errno .eio)) state /\ halted state) :
    Holds exposed (attempt (onTarget act)) state post (fun _ => halted) := by
  apply holds_attempt
  refine holds_atomic ?_ ?_ struck
  · intro written wrote
    split at wrote
    next tree done =>
      cases wrote
      exact acted tree done
    · cases wrote
  · intro error failed
    split at failed
    · cases failed
    rename_i code done
    cases failed
    exact refused code done

end Rules

section PrivateRules

variable {act : SyncState -> Except SyncError (Option RollbackRoot)}

theorem private_rule {write : SyncState -> Option RollbackRoot -> SyncState}
    (acted : ∀ root, act state = .ok root -> post () (write state root)) (kept : halted state) :
    Holds exposed (atomic (.errno .eio) (fun state => (act state).map (write state)) :
      SyncEffect Unit) state post (fun _ => halted) := by
  refine holds_atomic ?_ (fun _ _ => kept) (fun _ => ⟨kept, kept⟩)
  intro written wrote
  rcases exists_of_map_ok wrote with ⟨root, done, rfl⟩
  exact acted root done

theorem onRollback_rule
    (acted : ∀ root, act state = .ok root -> post () { state with rollback := root })
    (kept : halted state) : Holds exposed (onRollback act) state post (fun _ => halted) :=
  private_rule acted kept

theorem onPreparation_rule
    (acted : ∀ root, act state = .ok root -> post () { state with preparation := root })
    (kept : halted state) : Holds exposed (onPreparation act) state post (fun _ => halted) :=
  private_rule acted kept

theorem removeOwner_rule (acted : post () { state with owner := none }) (kept : halted state) :
    Holds exposed removeOwner state post (fun _ => halted) := by
  refine holds_atomic ?_ (fun _ _ => kept) (fun _ => ⟨kept, kept⟩)
  intro written wrote
  cases wrote
  exact acted

end PrivateRules

/-! ## Changing one part of the target -/

variable {start : SyncState} {root path : Path} {tree : FileTree Content}
  {property : FileTree Content -> Prop}

/-- A state that differs from another one in its target only. -/
def Within (start : SyncState) (property : FileTree Content -> Prop) (state : SyncState) : Prop :=
  ∃ tree, state = { start with target := tree } /\ property tree

theorem Within.intro (holds : property start.target) : Within start property start :=
  ⟨start.target, rfl, holds⟩

theorem Within.mono {weaker : FileTree Content -> Prop} (within : Within start property state)
    (implied : ∀ tree, property tree -> weaker tree) : Within start weaker state := by
  rcases within with ⟨tree, same, holds⟩
  exact ⟨tree, same, implied tree holds⟩

/-- Nothing changed outside of the subtree of a path. -/
def SameOutside (root : Path) (old new : FileTree Content) : Prop :=
  ∀ path, ¬ root <+: path -> new.node? path = old.node? path

/-- There is nothing in the subtree of a path. -/
def Cleared (root : Path) (tree : FileTree Content) : Prop :=
  ∀ path, root <+: path -> tree.node? path = none

theorem SameOutside.trans {first second third : FileTree Content}
    (one : SameOutside root first second) (two : SameOutside root second third) :
    SameOutside root first third := by
  intro path outside
  rw [two path outside, one path outside]

theorem cleared_of_absent (named : root ≠ []) (absent : tree.node? root = none) :
    Cleared root tree := by
  intro path inside
  by_cases same : root = path
  · exact same ▸ absent
  · refine node?_eq_none_of_ancestor inside named same ?_
    intro perms
    simp [absent]

theorem removeNode_ok {next : FileTree Content} (removed : removeNode path tree = .ok next)
    (other : Path) : next.node? other = if other = path then none else tree.node? other := by
  unfold removeNode at removed
  split at removed
  · exact (rmdir_ok removed).2 other
  · exact unlink_ok removed other

theorem mem_pathsBelow_iff :
    path ∈ pathsBelow tree root <-> (tree.node? path).isSome /\ root <+: path := by
  unfold pathsBelow
  rw [mem_insertionSort, mem_filter, OrderedMap.mem_keys_iff, isPrefixOf_iff_prefix]
  rfl

/-- Removing a private tree touches its subtree only, and empties it. -/
theorem removePrivateTree_holds (root : Path) : Holds exposed (removePrivateTree root) state
      (fun _ => Within state (fun tree => SameOutside root state.target tree /\ Cleared root tree))
      (fun _ => Within state (SameOutside root state.target)) := by
  apply holds_bind
  apply look_rule
  · intro paths read
    cases read
    -- what is still to be removed is all that is left below the root
    refine holds_mono (holds_forM (fun rest => Within state (fun tree =>
      SameOutside root state.target tree /\
        ∀ path, root <+: path -> tree.node? path ≠ none -> path ∈ rest)) ?_ ?_) ?_
      (fun _ _ ended => ended)
    · apply Within.intro
      refine ⟨fun _ _ => rfl, ?_⟩
      intro path inside present
      exact mem_pathsBelow_iff.mpr ⟨Option.isSome_iff_ne_none.mpr present, inside⟩
    · intro path rest before suffix reached
      have below := (mem_pathsBelow_iff.mp (suffix.subset mem_cons_self)).2
      rcases reached with ⟨tree, rfl, outside, left⟩
      apply onTarget_rule
      · intro next removed
        refine ⟨next, rfl, ?_, ?_⟩
        · intro other isOutside
          have apart : other ≠ path := by
            intro same
            exact isOutside (same ▸ below)
          rw [removeNode_ok removed, if_neg apart]
          exact outside other isOutside
        · intro other inside present
          rw [removeNode_ok removed] at present
          split at present
          · exact absurd rfl present
          rename_i apart
          rcases mem_cons.mp (left other inside present) with same | later
          · exact absurd same apart
          · exact later
      · exact ⟨tree, rfl, outside⟩
    · intro _ after reached
      refine reached.mono ?_
      rintro tree ⟨outside, left⟩
      refine ⟨outside, ?_⟩
      intro path inside
      by_contra present
      exact absurd (left path inside present) not_mem_nil
  · exact Within.intro (fun _ _ => rfl)

theorem removeFilesystemReplacementRoot_holds (named : root ≠ []) :
    Holds exposed (removeFilesystemReplacementRoot root) state
      (fun _ => Within state (fun tree => SameOutside root state.target tree /\ Cleared root tree))
      (fun _ => Within state (SameOutside root state.target)) := by
  have still : Within state (SameOutside root state.target) state :=
    Within.intro (fun _ _ => rfl)
  apply holds_bind
  refine look_rule ?_ still
  intro found read
  have looked : state.target.node? root = found := Except.ok.inj read
  cases found with
  | none => exact holds_pure (Within.intro ⟨fun _ _ => rfl, cleared_of_absent named looked⟩)
  | some node =>
    cases node with
    | directory => exact removePrivateTree_holds root
    | file | symlink | special => exact holds_raise still

/-! ## Making the parents of a path -/

variable {old middle new : FileTree Content} {perms : Permissions} {platform : SyncPlatform}
  {other : Path}

/-- Some of the given paths were made directories where nothing was. -/
def Grown (made : Path -> Prop) (old new : FileTree Content) : Prop :=
  ∀ path, new.node? path = old.node? path \/
    made path /\ old.node? path = none /\
      ∃ permissions, new.node? path = some (.directory permissions)

theorem Grown.isDirectory {made : Path -> Prop} (grown : Grown made old new)
    (was : old.isDirectory path) : new.isDirectory path := by
  rcases grown path with same | ⟨_, _, folder⟩
  · unfold FileTree.isDirectory at was ⊢
    rw [same]
    exact was
  · exact isDirectory_iff.mpr (.inr folder)

/-- One more directory is made. -/
theorem Grown.trans {made : Path -> Prop} (first : Grown made old middle) (leads : made other)
    (second : Grown (· = other) middle new) : Grown made old new := by
  intro path
  rcases second path with same | ⟨rfl, absent, folder⟩
  · rw [same]
    exact first path
  · rcases first path with same | ⟨_, _, _, present⟩
    · exact .inr ⟨leads, same ▸ absent, folder⟩
    · rw [absent] at present
      cases present

/-- Where every parent was there, nothing was made. -/
theorem Grown.same (grown : Grown (· ∈ path.parents) old new)
    (present : ∀ parent ∈ path.parents, old.node? parent ≠ none) : new.Same old := by
  intro other
  rcases grown other with same | ⟨leads, absent, _⟩
  · exact same
  · exact absurd absent (present other leads)

/-- The missing parents of a path were made, and all of them are directories. -/
structure Prepared (path : Path) (old new : FileTree Content) : Prop where
  grown : Grown (· ∈ path.parents) old new
  folders : ∀ parent ∈ path.parents, new.isDirectory parent

/-- Nothing but directories is in the way of a path. -/
def WritableParents (path : Path) (tree : FileTree Content) : Prop :=
  ∀ parent ∈ path.parents, tree.node? parent = none \/
    ∃ permissions, tree.node? parent = some (.directory permissions)

/-- A parent that is missing is made with the standard permissions. -/
theorem prepareFilesystemParent_holds (named : path ≠ [])
    (above : state.target.isDirectory path.dropLast)
    (shape : state.target.node? path = none \/
      ∃ perms, state.target.node? path = some (.directory perms)) :
    Holds exposed (prepareFilesystemParent platform path) state
      (fun _ => Within state (fun tree => Grown (· = path) state.target tree /\
        ∃ perms, tree.node? path = some (.directory perms)))
      (fun _ after => exposed after /\ Within state (Grown (· = path) state.target) after) := by
  have still : Within state (Grown (· = path) state.target) state := Within.intro (fun _ => .inl rfl)
  apply holds_bind
  apply holds_bind
  rcases shape with absent | ⟨perms, folder⟩
  · rcases mkdir_of_absent (platform.masked standardDirectory) named absent above with ⟨made, mkdir⟩
    have nodes := (mkdir_ok mkdir).2
    rcases chmod_of_directory standardDirectory
      ((nodes path).trans (if_pos rfl)) with ⟨final, chmod, modes⟩
    have grows : ∀ tree perms, (∀ other, tree.node? other =
        if other = path then some (.directory perms) else state.target.node? other) ->
        Grown (· = path) state.target tree := by
      intro tree perms written other
      rw [written]
      split
      next here => exact .inr ⟨here, here ▸ absent, perms, rfl⟩
      · exact .inl rfl
    have remade : ∀ other, final.node? other = if other = path
        then some (.directory standardDirectory) else state.target.node? other := by
      intro other
      rw [modes, nodes]
      split <;> rfl
    refine tryOnTarget_rule ?_ ?_ (fun here => ⟨holds_raise ⟨here, still⟩, here, still⟩)
    · intro tree got
      cases mkdir.symm.trans got
      apply holds_pure
      apply holds_bind
      refine onTarget_ok chmod ?_ (fun here => ⟨here, made, rfl, grows made _ nodes⟩)
      have grown := grows final _ remade
      apply holds_bind
      refine synchronize_ok (synchronize_ok ⟨final, rfl, grown, standardDirectory, ?_⟩
        (⟨·, final, rfl, grown⟩)) (⟨·, final, rfl, grown⟩)
      rw [remade, if_pos rfl]
    · intro code got
      cases mkdir.symm.trans got
  · have present : state.target.mkdir path (platform.masked standardDirectory) = .error .eexist := by
      rw [FileTree.mkdir, folder]
      rfl
    refine tryOnTarget_rule ?_ ?_ (fun here => ⟨holds_raise ⟨here, still⟩, here, still⟩)
    · intro tree got
      cases present.symm.trans got
    · intro code got
      cases present.symm.trans got
      exact holds_pure (holds_pure (Within.intro ⟨fun _ => .inl rfl, perms, folder⟩))

theorem prepareWritablePathWithinRoot_holds (safe : isSafeRelativePath path)
    (writable : WritableParents path state.target) :
    Holds exposed (prepareWritablePathWithinRoot platform path) state
      (fun _ => Within state (Prepared path state.target))
      (fun _ after => exposed after /\ Within state (Grown (· ∈ path.parents) state.target) after) := by
  apply holds_bind
  refine demand_ok safe ?_
  -- every parent that is no longer in the list is a directory
  refine holds_mono (holds_forM (fun rest => Within state (fun tree =>
    Grown (· ∈ path.parents) state.target tree /\
      ∀ parent ∈ path.parents, parent ∉ rest -> tree.isDirectory parent))
    (Within.intro ⟨fun _ => .inl rfl, fun _ leads missing => absurd leads missing⟩) ?_) ?_
    (fun _ _ ended => ended)
  · rintro candidate rest _ suffix ⟨tree, rfl, grown, done⟩
    have leads : candidate ∈ path.parents := suffix.subset mem_cons_self
    have ordered := pairwise_cons.mp (path.parents_pairwise.sublist suffix.sublist)
    rcases Path.mem_parents_iff.mp leads with ⟨named, isPrefix, _⟩
    -- the directory above is shorter, so its turn has been
    have above : tree.isDirectory candidate.dropLast := by
      by_cases root : candidate.dropLast = []
      · exact isDirectory_iff.mpr (.inl root)
      have shorter : candidate.dropLast.length < candidate.length :=
        Path.length_lt (List.dropLast_prefix candidate) (Path.dropLast_ne named)
      refine done _ (Path.mem_parents_of_prefix root (List.dropLast_prefix candidate) leads) ?_
      intro queued
      rcases mem_cons.mp queued with same | later
      · exact Path.dropLast_ne named same
      · have longer := ordered.1 _ later
        omega
    have shape : tree.node? candidate = none \/
        ∃ perms, tree.node? candidate = some (.directory perms) := by
      rcases grown candidate with same | ⟨_, _, folder⟩
      · rw [same]
        exact writable candidate leads
      · exact .inr folder
    refine holds_call (prepareFilesystemParent_holds named above shape) ?_ ?_
    · rintro _ _ ⟨next, rfl, more, folder⟩
      have reached := grown.trans leads more
      apply holds_bind
      refine look_ok rfl (demand_ok ?_ ⟨next, rfl, reached, ?_⟩) (⟨·, next, rfl, reached⟩)
      · rcases folder with ⟨perms, folder⟩
        rw [folder]
        rfl
      · intro parent parentLeads visited
        by_cases here : parent = candidate
        · exact here ▸ isDirectory_iff.mpr (.inr folder)
        · exact more.isDirectory (done parent parentLeads (not_mem_cons_of_ne_of_not_mem here visited))
    · rintro _ after ⟨here, next, rfl, more⟩
      exact ⟨here, next, rfl, grown.trans leads more⟩
  · rintro _ _ ⟨tree, rfl, grown, done⟩
    exact ⟨tree, rfl, grown, fun parent leads => done parent leads not_mem_nil⟩

/-! ## Replacing one file -/

variable {target : Path} {source : SyncState -> Except SyncError (Content × Permissions)}
  {input : ApplyStagedFilesystemChangesInput} {data : Content}

/-- Outside of a private subtree at most one path changed, and it holds a file with
the given permissions when it did. -/
def Replaced (root target : Path) (permissions : Option Permissions) (old new : FileTree Content) :
    Prop :=
  (∀ path, ¬ root <+: path -> path ≠ target -> new.node? path = old.node? path) /\
    (new.node? target = old.node? target \/
      ∃ content mode, new.node? target = some (.file content (permissions.getD mode)))

/-- Outside of a private subtree exactly one path was written. -/
def Installed (root target : Path) (node : Node Content) (old new : FileTree Content) : Prop :=
  (∀ path, ¬ root <+: path -> path ≠ target -> new.node? path = old.node? path) /\
    new.node? target = some node

variable {given : Option Permissions} {mode : Permissions}

theorem Installed.replaced (installed : Installed root target (.file data (given.getD mode)) old new) :
    Replaced root target given old new :=
  ⟨installed.1, .inr ⟨data, mode, installed.2⟩⟩

theorem SameOutside.replaced (same : SameOutside root old new) (outside : ¬ root <+: target) :
    Replaced root target given old new :=
  ⟨fun path isOutside _ => same path isOutside, .inl (same target outside)⟩

theorem Replaced.sameOutside (replaced : Replaced root target given old middle)
    (same : SameOutside root middle new) (outside : ¬ root <+: target) :
    Replaced root target given old new := by
  refine ⟨?_, ?_⟩
  · intro path isOutside apart
    rw [same path isOutside, replaced.1 path isOutside apart]
  · rw [same target outside]
    exact replaced.2

/-- A step that writes one path below the private root. -/
theorem SameOutside.of_write {node : Option (Node Content)} (same : SameOutside root old middle)
    (inside : root <+: path)
    (wrote : ∀ other, new.node? other = if other = path then node else middle.node? other) :
    SameOutside root old new := by
  intro other outside
  have apart : other ≠ path := by
    intro equal
    exact outside (equal ▸ inside)
  rw [wrote other, if_neg apart]
  exact same other outside

theorem chmod_sameOutside (same : SameOutside root old middle) (inside : root <+: path)
    (changed : middle.chmod path perms = .ok new) : SameOutside root old new := by
  rcases chmod_ok changed with ⟨_, _, _, nodes⟩ | ⟨_, _, nodes⟩
  · exact same.of_write inside nodes
  · exact same.of_write inside nodes

/-- A copy writes its destination only, whole when it returns. -/
theorem copyFile_holds {temporary : Path} (inside : root <+: temporary) :
    Holds exposed (copyFile source temporary) state
      (fun _ => Within state (fun tree => SameOutside root state.target tree /\
        ∃ data perms, source state = .ok (data, perms) /\
          tree.node? temporary = some (.file data perms)))
      (fun _ => Within state (SameOutside root state.target)) := by
  have still : Within state (SameOutside root state.target) state :=
    Within.intro (fun _ _ => rfl)
  refine holds_step ?_ (fun _ _ => still) ?_
  · intro _ written acted
    rcases bind_inv acted with ⟨copied, read, wrote⟩
    split at wrote
    next tree done =>
      cases wrote
      have nodes := writeFile_ok done
      refine ⟨tree, rfl, SameOutside.of_write (fun _ _ => rfl) inside nodes,
        copied.1, copied.2, read, ?_⟩
      rw [nodes, if_pos rfl]
    · cases wrote
  · refine fun _ left => and_self_iff.mpr ?_
    split
    · exact still
    · split
      next tree done =>
        exact ⟨tree, rfl, SameOutside.of_write (fun _ _ => rfl) inside (writeFile_ok done)⟩
      · exact still

theorem chmodIfGiven_holds {perms : Option Permissions} {mode : Permissions}
    (inside : root <+: path) (found : state.target.node? path = some (.file data mode)) :
    Holds exposed (chmodIfGiven path perms) state
      (fun _ => Within state (fun tree => SameOutside root state.target tree /\
        tree.node? path = some (.file data (perms.getD mode))))
      (fun _ => Within state (SameOutside root state.target)) := by
  have still : SameOutside root state.target state.target := fun _ _ => rfl
  cases perms with
  | none => exact holds_pure (Within.intro ⟨still, found⟩)
  | some =>
    refine onTarget_rule ?_ (Within.intro still)
    intro tree changed
    refine ⟨tree, rfl, chmod_sameOutside still inside changed, ?_⟩
    rcases chmod_ok changed with ⟨held, old, file, nodes⟩ | ⟨old, folder, _⟩
    · rw [found] at file
      cases file
      rw [nodes, if_pos rfl]
      rfl
    · rw [found] at folder
      cases folder

/-- Publishing the content of a replacement root renames a whole file over the
target. -/
theorem publishReplacement_holds {perms : Option Permissions} (outside : ¬ root <+: target)
    (steady : ∀ tree, source { state with target := tree } = source state) :
    Holds exposed (publishReplacement source target perms root) state
      (fun _ => Within state (fun tree => ∃ data mode, source state = .ok (data, mode) /\
        Installed root target (.file data (perms.getD mode)) state.target tree))
      (fun _ => Within state (Replaced root target perms state.target)) := by
  have inside : root <+: root ++ ["content"] := prefix_append root _
  have early : ∀ {after : SyncState}, Within state (SameOutside root state.target) after ->
      Within state (Replaced root target perms state.target) after := by
    intro after within
    exact within.mono (fun _ same => same.replaced outside)
  have still : Within state (SameOutside root state.target) state :=
    Within.intro (fun _ _ => rfl)
  apply holds_bind
  refine onTarget_rule ?_ (early still)
  intro opened changed
  have first : SameOutside root state.target opened :=
    chmod_sameOutside (fun _ _ => rfl) (prefix_refl root) changed
  refine holds_call (copyFile_holds inside) ?_ ?_
  · rintro _ _ ⟨filled, rfl, second, data, mode, read, copied⟩
    rw [steady] at read
    refine holds_call (chmodIfGiven_holds inside copied) ?_ ?_
    · rintro _ _ ⟨ready, rfl, third, found⟩
      have whole : SameOutside root state.target ready := (first.trans second).trans third
      have reached : Within state (SameOutside root state.target) { state with target := ready } :=
        ⟨ready, rfl, whole⟩
      apply holds_bind
      refine synchronize_rule ?_ (early reached)
      apply holds_bind
      refine onTarget_rule ?_ (early reached)
      intro moved renamed
      rcases rename_ok renamed with ⟨held, given, moving, nodes⟩
      cases found.symm.trans moving
      have installed : Installed root target (.file data (perms.getD mode))
          state.target moved := by
        refine ⟨?_, by rw [nodes, if_pos rfl]⟩
        intro path isOutside apart
        have elsewhere : path ≠ root ++ ["content"] := by
          intro same
          exact isOutside (same ▸ inside)
        rw [nodes, if_neg apart, if_neg elsewhere]
        exact whole path isOutside
      have done : Within state (Replaced root target perms state.target) { state with target := moved } :=
        ⟨moved, rfl, installed.replaced⟩
      apply holds_bind
      refine synchronize_rule ?_ done
      exact synchronize_rule ⟨moved, rfl, data, mode, read, installed⟩ done
    · rintro _ _ ⟨tree, rfl, third⟩
      exact early ⟨tree, rfl, (first.trans second).trans third⟩
  · rintro _ _ ⟨tree, rfl, second⟩
    exact early ⟨tree, rfl, first.trans second⟩

/-- Replacing a file leaves no trace of the replacement root when it returns. -/
theorem replaceFileFromSource_holds {perms : Option Permissions} (named : root ≠ [])
    (outside : ¬ root <+: target)
    (steady : ∀ tree, source { state with target := tree } = source state) :
    Holds exposed (replaceFileFromSource platform source target perms root) state
      (fun _ => Within state (fun tree => Cleared root tree /\
        ∃ data mode, source state = .ok (data, mode) /\
          Installed root target (.file data (perms.getD mode)) state.target tree))
      (fun _ => Within state (Replaced root target perms state.target)) := by
  have still : Within state (Replaced root target perms state.target) state :=
    Within.intro ⟨fun _ _ _ => rfl, .inl rfl⟩
  apply holds_bind
  refine look_rule ?_ still
  intro found _
  apply holds_bind
  refine demand_rule ?_ still
  intro _
  apply holds_bind
  refine onTarget_rule ?_ still
  intro opened made
  have first : SameOutside root state.target opened :=
    SameOutside.of_write (fun _ _ => rfl) (prefix_refl root) (mkdir_ok made).2
  -- the operation installed the file or left the target replaced; the root goes in both cases
  refine holds_then (?_ : Holds exposed _ _ (fun op => Within state (fun tree =>
    Replaced root target perms state.target tree /\ (op = .ok () ->
      ∃ data mode, source state = .ok (data, mode) /\
        Installed root target (.file data (perms.getD mode)) state.target tree))) _) ?_
  · refine attempt_rule (Within state (Replaced root target perms state.target))
      (holds_mono (publishReplacement_holds outside (fun tree => ?_)) ?_ ?_) ?_ (fun _ ended => ended)
    · exact (steady tree).trans (steady opened).symm
    · rintro _ _ ⟨tree, rfl, data, mode, read, installed⟩
      rw [steady] at read
      have whole : Installed root target (.file data (perms.getD mode)) state.target tree := by
        refine ⟨?_, installed.2⟩
        intro path isOutside apart
        rw [installed.1 path isOutside apart]
        exact first path isOutside
      exact ⟨tree, rfl, whole.replaced, fun _ => ⟨data, mode, read, whole⟩⟩
    · rintro _ _ ⟨tree, rfl, replaced⟩
      refine ⟨tree, rfl, ?_, ?_⟩
      · intro path isOutside apart
        rw [replaced.1 path isOutside apart]
        exact first path isOutside
      · rcases replaced.2 with same | wrote
        · exact .inl (same.trans (first target outside))
        · exact .inr wrote
    · intro error after reached
      exact reached.mono (fun tree replaced => ⟨replaced, nofun⟩)
  · rintro op _ ⟨middle, rfl, replaced, finished⟩
    apply holds_bind
    refine attempt_rule (Within state (Replaced root target perms state.target))
      (holds_mono (removeFilesystemReplacementRoot_holds named) ?_ ?_) ?_ (fun _ ended => ended)
    · rintro _ _ ⟨tree, rfl, same, cleared⟩
      cases op with
      | error => exact holds_raise ⟨tree, rfl, replaced.sameOutside same outside⟩
      | ok =>
        rcases finished rfl with ⟨data, mode, read, installed⟩
        refine holds_pure ⟨tree, rfl, cleared, data, mode, read, ?_, ?_⟩
        · intro path isOutside apart
          rw [same path isOutside]
          exact installed.1 path isOutside apart
        · rw [same target outside]
          exact installed.2
    · rintro _ _ ⟨tree, rfl, same⟩
      exact ⟨tree, rfl, replaced.sameOutside same outside⟩
    · intro error after reached
      cases op with
      | ok | error => exact holds_raise reached

theorem replacementRoot_named {workspaceId operationId : String} :
    filesystemReplacementRoot platform workspaceId operationId path ≠ [] := by
  unfold filesystemReplacementRoot
  simp

/-- A path below one of the replacement roots of a call. -/
def Private (platform : SyncPlatform) (input : ApplyStagedFilesystemChangesInput) (path : Path) :
    Prop :=
  ∃ reviewed ∈ filesystemReplacementPaths input.changeSet,
    filesystemReplacementRoot platform input.workspaceId input.reviewId reviewed <+: path

def SameButPrivate (platform : SyncPlatform) (input : ApplyStagedFilesystemChangesInput)
    (old new : FileTree Content) : Prop :=
  ∀ path, ¬ Private platform input path -> new.node? path = old.node? path

/-- The private paths are gone, and nothing else changed. -/
structure Swept (platform : SyncPlatform) (input : ApplyStagedFilesystemChangesInput)
    (old new : FileTree Content) : Prop where
  outside : SameButPrivate platform input old new
  clean : ∀ path, Private platform input path -> new.node? path = none

/-- The cleanup of a call empties its replacement roots and touches nothing else. -/
theorem cleanupFilesystemReplacementRoots_holds :
    Holds exposed (cleanupFilesystemReplacementRoots platform input
        (filesystemReplacementPaths input.changeSet)) state
      (fun _ => Within state (Swept platform input state.target))
      (fun _ => Within state (SameButPrivate platform input state.target)) := by
  -- every root that is no longer in the list is empty
  refine holds_mono (holds_forM (fun rest => Within state (fun tree =>
    SameButPrivate platform input state.target tree /\
      ∀ reviewed ∈ filesystemReplacementPaths input.changeSet, reviewed ∉ rest ->
        Cleared (filesystemReplacementRoot platform input.workspaceId input.reviewId reviewed) tree))
    ?_ ?_) ?_ (fun _ _ ended => ended)
  · exact Within.intro ⟨fun _ _ => rfl, fun _ mem missing => absurd mem missing⟩
  · rintro reviewed rest _ suffix ⟨tree, rfl, same, cleared⟩
    have listed : reviewed ∈ filesystemReplacementPaths input.changeSet :=
      suffix.subset mem_cons_self
    have onlyPrivate : ∀ next, SameOutside
        (filesystemReplacementRoot platform input.workspaceId input.reviewId reviewed) tree next ->
        SameButPrivate platform input state.target next := by
      intro next outside path isPublic
      have isOutside : ¬ filesystemReplacementRoot platform input.workspaceId input.reviewId
          reviewed <+: path := fun below => isPublic ⟨reviewed, listed, below⟩
      rw [outside path isOutside]
      exact same path isPublic
    refine holds_mono (removeFilesystemReplacementRoot_holds replacementRoot_named) ?_ ?_
    · rintro _ _ ⟨next, rfl, outside, empty⟩
      refine ⟨next, rfl, onlyPrivate next outside, ?_⟩
      intro other mem done path below
      by_cases here : filesystemReplacementRoot platform input.workspaceId input.reviewId
          reviewed <+: path
      · exact empty path here
      rw [outside path here]
      refine cleared other mem ?_ path below
      intro queued
      rcases mem_cons.mp queued with equal | later
      · exact here (equal ▸ below)
      · exact done later
    · rintro _ _ ⟨next, rfl, outside⟩
      exact ⟨next, rfl, onlyPrivate next outside⟩
  · rintro _ _ ⟨tree, rfl, same, cleared⟩
    refine ⟨tree, rfl, same, ?_⟩
    rintro path ⟨reviewed, mem, below⟩
    exact cleared reviewed mem not_mem_nil path below

/-! ## Reading one path -/

variable {left right : FileTree Content}

theorem requireExisting_ok {node : Node Content}
    (found : requireExistingPathWithinRoot tree path = .ok node) : tree.node? path = some node := by
  unfold requireExistingPathWithinRoot at found
  split at found
  · split at found
    · split at found <;> cases found
    · split at found
      · cases found
      · cases found
      rename_i present
      cases found
      exact present
  · cases found

/-- A path that is reported missing is missing, and so is everything from the
first missing parent on. -/
theorem requireExisting_enoent
    (missing : requireExistingPathWithinRoot tree path = .error (.errno .enoent)) :
    tree.node? path = none /\ WritableParents path tree := by
  unfold requireExistingPathWithinRoot at missing
  split at missing
  · split at missing
    next first hit =>
      split at missing
      next absent =>
        rcases find?_eq_some_iff_append.mp hit with ⟨_, before, after, split, above⟩
        have firstLeads : first ∈ path.parents := mem_of_find?_eq_some hit
        rcases Path.mem_parents_iff.mp firstLeads with ⟨named, isPrefix, apart⟩
        have none_below : ∀ other, first <+: other -> tree.node? other = none :=
          cleared_of_absent named absent
        refine ⟨none_below path isPrefix, ?_⟩
        intro parent leads
        rcases Path.mem_parents_iff.mp leads with ⟨parentNamed, parentPrefix, _⟩
        rcases prefix_or_prefix_of_prefix isPrefix parentPrefix with below | inside
        · exact .inl (none_below parent below)
        by_cases same : parent = first
        · exact .inl (same ▸ absent)
        have earlier : parent ∈ before := by
          have ordered := path.parents_pairwise
          rw [split, pairwise_append] at ordered
          rw [split] at leads
          rcases mem_append.mp leads with inFront | behind
          · exact inFront
          rcases mem_cons.mp behind with equal | later
          · exact absurd equal same
          have longer := (pairwise_cons.mp ordered.2.1).1 parent later
          have shorter := inside.length_le
          omega
        have isDirectory := above parent earlier
        rw [Bool.not_not] at isDirectory
        rcases isDirectory_iff.mp isDirectory with root | folder
        · exact absurd root parentNamed
        · exact .inr folder
      · cases missing
      · cases missing
    next allDirectories =>
      rw [find?_eq_none] at allDirectories
      split at missing
      next absent =>
        refine ⟨absent, ?_⟩
        intro parent leads
        have isDirectory := allDirectories parent leads
        rw [Bool.not_eq_true', Bool.not_eq_false] at isDirectory
        rcases isDirectory_iff.mp isDirectory with root | folder
        · exact absurd root (Path.mem_parents_iff.mp leads).1
        · exact .inr folder
      · cases missing
      · cases missing
  · cases missing

theorem readState_none (read : readFilesystemFileState platform tree path = .ok none) :
    tree.node? path = none /\ WritableParents path tree := by
  unfold readFilesystemFileState at read
  split at read
  · cases read
  · cases read
  next missing =>
    exact requireExisting_enoent missing
  · cases read

theorem readState_some {found : FileState}
    (read : readFilesystemFileState platform tree path = .ok (some found)) :
    ∃ data perms, tree.node? path = some (.file data perms) /\
      found = ⟨data.length, platform.digestBuffer data, permissionsSummary perms⟩ := by
  unfold readFilesystemFileState at read
  split at read
  next data perms present =>
    cases read
    exact ⟨data, perms, requireExisting_ok present, rfl⟩
  · cases read
  · cases read
  · cases read

theorem requireExisting_of_node {node : Node Content} (safe : isSafeRelativePath path)
    (found : tree.node? path = some node) (noLink : ∀ reached, node ≠ .symlink reached) :
    requireExistingPathWithinRoot tree path = .ok node := by
  have allDirectories : path.parents.find? (!tree.isDirectory ·) = none := by
    rw [find?_eq_none]
    intro parent leads
    rcases Path.mem_parents_iff.mp leads with ⟨named, isPrefix, apart⟩
    rw [isDirectory_iff.mpr (.inr (directory_of_ancestor found isPrefix named apart))]
    exact Bool.false_ne_true
  unfold requireExistingPathWithinRoot
  rw [if_pos safe, allDirectories, found]
  cases node with
  | symlink reached => exact absurd rfl (noLink reached)
  | file | directory | special => rfl

theorem requireExisting_of_absent (safe : isSafeRelativePath path)
    (writable : WritableParents path tree) (absent : tree.node? path = none) :
    requireExistingPathWithinRoot tree path = .error (.errno .enoent) := by
  unfold requireExistingPathWithinRoot
  rw [if_pos safe]
  split
  next parent hit =>
    have leads := mem_of_find?_eq_some hit
    have notDirectory := find?_some hit
    rcases writable parent leads with none | folder
    · rw [none]
    · rw [isDirectory_iff.mpr (.inr folder)] at notDirectory
      cases notDirectory
  · rw [absent]

/-- What leads to a safe path is safe. -/
theorem isSafe_of_prefix {front : Path} (safe : isSafeRelativePath path) (named : front ≠ [])
    (isPrefix : front <+: path) : isSafeRelativePath front := by
  rcases isPrefix with ⟨rest, rfl⟩
  cases front with
  | nil => exact absurd rfl named
  | cons =>
    simp only [isSafeRelativePath, Bool.and_eq_true, decide_eq_true_eq, all_append, mem_append,
      not_or] at safe ⊢
    exact ⟨⟨⟨rfl, safe.1.1.2⟩, safe.1.2.1⟩, safe.2.1⟩

theorem requireExisting_congr (same : left.Same right) (path : Path) :
    requireExistingPathWithinRoot left path = requireExistingPathWithinRoot right path := by
  unfold requireExistingPathWithinRoot
  have directories : left.isDirectory = right.isDirectory := by
    funext other
    unfold isDirectory
    rw [same other]
  rw [directories, same path]
  simp only [same _]

/-! ## Removing the parents of an added path -/

/-- Some directories that the base snapshot does not know were removed. -/
structure Pruned (beforeDirectories gone : List Path) (old new : FileTree Content) : Prop where
  nodes : ∀ path, new.node? path = if path ∈ gone then none else old.node? path
  unknown : ∀ path ∈ gone, path ∉ beforeDirectories /\
    ∃ permissions, old.node? path = some (.directory permissions)

theorem Pruned.refl (beforeDirectories : List Path) (tree : FileTree Content) :
    Pruned beforeDirectories [] tree tree :=
  ⟨fun _ => rfl, fun _ never => absurd never not_mem_nil⟩

/-- A directory that went first, then more of them. -/
theorem Pruned.cons {beforeDirectories gone : List Path} (removed : old.rmdir path = .ok middle)
    (unknown : path ∉ beforeDirectories) (pruned : Pruned beforeDirectories gone middle new) :
    Pruned beforeDirectories (path :: gone) old new := by
  rcases rmdir_ok removed with ⟨was, nodes⟩
  refine ⟨fun other => ?_, fun other mem => ?_⟩
  · rw [pruned.nodes, nodes]
    by_cases here : other = path <;> simp [here]
  · rcases mem_cons.mp mem with rfl | later
    · exact ⟨unknown, was⟩
    · rcases pruned.unknown other later with ⟨unlisted, perms, folder⟩
      rw [nodes] at folder
      split at folder
      · cases folder
      · exact ⟨unlisted, perms, folder⟩

/-- Parents were removed from the innermost one outwards, up to the first of `left`. -/
def Emptied (beforeDirectories parents left : List Path) (old new : FileTree Content) : Prop :=
  ∃ gone, parents = gone ++ left /\ Pruned beforeDirectories gone old new

theorem Emptied.refl (beforeDirectories parents : List Path) (tree : FileTree Content) :
    Emptied beforeDirectories parents parents tree tree :=
  ⟨[], rfl, Pruned.refl _ _⟩

/-- The removal went on to a parent that the base snapshot knows or that holds something
else, unless it stopped for another `reason`. -/
def EmptiedUpTo (beforeDirectories : List Path) (path : Path) (reason : Prop)
    (old new : FileTree Content) : Prop :=
  ∃ left, Emptied beforeDirectories path.parents.reverse left old new /\
    ∀ next ∈ left.head?, next ∈ beforeDirectories \/ new.hasEntry next \/ reason

theorem emptiedUpTo_none (beforeDirectories : List Path) (path : Path) {reason : Prop}
    (holds : reason) (tree : FileTree Content) :
    EmptiedUpTo beforeDirectories path reason tree tree :=
  ⟨_, Emptied.refl _ _ _, fun _ _ => .inr (.inr holds)⟩

/-- From a directory that is there the removal goes on to one that the base snapshot knows
or that holds something else. -/
theorem removeParents_present (beforeDirectories : List Path) (safe : isSafeRelativePath path)
    (present : path.dropLast ≠ [] ->
      ∃ perms, state.target.node? path.dropLast = some (.directory perms)) :
    Holds exposed (removeParents beforeDirectories path.parents.reverse) state
      (fun _ => Within state (EmptiedUpTo beforeDirectories path False state.target))
      (fun _ after => exposed after /\
        Within state (EmptiedUpTo beforeDirectories path True state.target) after) := by
  induction path using List.reverseRecOn generalizing state with
  | nil => exact holds_pure (Within.intro ⟨[], Emptied.refl _ _ _, nofun⟩)
  | append_singleton front last ih =>
    by_cases named : front = []
    · subst named
      exact holds_pure (Within.intro ⟨[], Emptied.refl _ _ _, nofun⟩)
    rw [dropLast_concat] at present
    rcases present named with ⟨perms, folder⟩
    have safeFront := isSafe_of_prefix safe named (prefix_append front [last])
    have still : Within state (EmptiedUpTo beforeDirectories (front ++ [last]) True state.target)
        state := Within.intro (emptiedUpTo_none _ _ trivial _)
    have first : (Path.parents (front ++ [last])).reverse = front :: (Path.parents front).reverse := by
      rw [Path.parents_reverse (by rwa [dropLast_concat]), dropLast_concat]
    unfold EmptiedUpTo at still ⊢
    rw [first] at still ⊢
    unfold removeParents
    split
    next known =>
      refine holds_pure (Within.intro ⟨_, Emptied.refl _ _ _, ?_⟩)
      rintro next ⟨⟩
      exact .inl known
    rename_i unknown
    apply holds_bind
    apply holds_attempt
    refine holds_reading ?_ ?_ (fun here => ⟨holds_raise ⟨here, still⟩, here, still⟩)
    · intro node _
      apply holds_bind
      refine tryOnTarget_rule ?_ ?_ (fun here => ⟨holds_raise ⟨here, still⟩, here, still⟩)
      · intro tree removed
        refine holds_mono (ih safeFront ?_) ?_ ?_
        · intro inner
          rcases (isDirectory_iff.mp (isDirectory_dropLast folder)).resolve_left inner with
            ⟨mode, outer⟩
          refine ⟨mode, ?_⟩
          rw [(rmdir_ok removed).2, if_neg (Path.dropLast_ne named)]
          exact outer
        · rintro _ _ ⟨final, rfl, left, ⟨gone, split, pruned⟩, stops⟩
          exact ⟨final, rfl, left, ⟨front :: gone, by rw [split]; rfl, pruned.cons removed unknown⟩,
            stops⟩
        · rintro _ after ⟨here, final, rfl, left, ⟨gone, split, pruned⟩, stops⟩
          exact ⟨here, final, rfl, left,
            ⟨front :: gone, by rw [split]; rfl, pruned.cons removed unknown⟩, stops⟩
      · intro code refused
        rcases rmdir_refused folder refused with ⟨rfl, filled⟩
        refine holds_pure (Within.intro ⟨_, Emptied.refl _ _ _, ?_⟩)
        rintro next ⟨⟩
        exact .inr (.inl filled)
    · intro error refused
      rw [requireExisting_of_node safeFront folder (by simp)] at refused
      cases refused

/-- The removal does nothing when the directory of the path is missing. -/
theorem removeParents_holds (beforeDirectories : List Path) (safe : isSafeRelativePath path)
    (writable : WritableParents path state.target) :
    Holds exposed (removeParents beforeDirectories path.parents.reverse) state
      (fun _ => Within state (EmptiedUpTo beforeDirectories path
        (state.target.node? path.dropLast = none) state.target))
      (fun _ after => exposed after /\
        Within state (EmptiedUpTo beforeDirectories path True state.target) after) := by
  by_cases present : path.dropLast ≠ [] ->
      ∃ perms, state.target.node? path.dropLast = some (.directory perms)
  · refine holds_mono (removeParents_present beforeDirectories safe present) ?_
      (fun _ _ ended => ended)
    rintro _ _ ⟨tree, rfl, left, emptied, stops⟩
    refine ⟨tree, rfl, left, emptied, fun next first => ?_⟩
    rcases stops next first with known | filled | never
    · exact .inl known
    · exact .inr (.inl filled)
    · exact never.elim
  · rw [Classical.not_imp] at present
    rcases present with ⟨named, notDirectory⟩
    have absent := (writable _ (Path.dropLast_mem_parents named)).resolve_right notDirectory
    have still : Within state (EmptiedUpTo beforeDirectories path True state.target) state :=
      Within.intro (emptiedUpTo_none _ _ trivial _)
    have leaves : Within state (EmptiedUpTo beforeDirectories path
        (state.target.node? path.dropLast = none) state.target) state :=
      Within.intro (emptiedUpTo_none _ _ absent _)
    have safeAbove := isSafe_of_prefix safe named (List.dropLast_prefix path)
    have writableAbove : WritableParents path.dropLast state.target := fun parent leads =>
      writable parent (Path.parents_dropLast leads)
    rw [Path.parents_reverse named]
    unfold removeParents
    split
    · exact holds_pure leaves
    apply holds_bind
    apply holds_attempt
    refine holds_reading ?_ ?_ (fun here => ⟨holds_raise ⟨here, still⟩, here, still⟩)
    · intro node found
      rw [requireExisting_of_absent safeAbove writableAbove absent] at found
      cases found
    · intro error refused
      rw [requireExisting_of_absent safeAbove writableAbove absent] at refused
      cases refused
      exact holds_pure leaves

/-! ## Private files of the staging root -/

/-- A state that differs from another one in the preparation of a rollback only. -/
def Preparing (start state : SyncState) : Prop :=
  ∃ preparation owner, state = { start with preparation := preparation, owner := owner }

theorem Preparing.refl (start : SyncState) : Preparing start start := ⟨_, _, rfl⟩

/-- The preparation of a rollback and its owner do not matter. -/
def Unprepared (inv : SyncState -> Prop) : Prop :=
  ∀ ⦃start state⦄, inv start -> Preparing start state -> inv state

section Unprepared

variable {inv : SyncState -> Prop} (unprepared : Unprepared inv)

include unprepared

theorem removeOwner_keeps : Keeps exposed inv removeOwner :=
  fun _ kept => removeOwner_rule (unprepared kept ⟨_, _, rfl⟩) kept

theorem removePreparation_keeps : Keeps exposed inv removePreparation := by
  refine keeps_bind ?_ (fun _ => ?_)
  · exact fun _ kept => onPreparation_rule (fun _ _ => unprepared kept ⟨_, _, rfl⟩) kept
  · exact fun _ kept => onPreparation_rule (fun _ _ => unprepared kept ⟨_, _, rfl⟩) kept

theorem cleanupFilesystemRollbackPreparation_keeps :
    Keeps exposed inv (cleanupFilesystemRollbackPreparation platform input) := by
  refine keeps_bind keeps_reading ?_
  intro found
  split
  · exact keeps_pure
  · exact keeps_raise
  · exact keeps_raise
  · refine keeps_bind demand_keeps (fun _ => ?_)
    split
    · exact keeps_bind (removePreparation_keeps unprepared) (fun _ => removeOwner_keeps unprepared)
    · exact removeOwner_keeps unprepared

theorem abandonPreparation_keeps (created : Bool) (error : SyncError) :
    Keeps exposed inv (abandonPreparation created error) := by
  refine keeps_bind ?_ (fun first => keeps_bind (keeps_attempt (removeOwner_keeps unprepared)) ?_)
  · unfold removeCreated
    split
    · exact keeps_attempt (removePreparation_keeps unprepared)
    · exact keeps_pure
  · intro second
    split
    · exact keeps_raise
    · exact keeps_raise

end Unprepared

theorem assertReplacementPaths_keeps (inv : SyncState -> Prop) (paths : List Path) :
    Keeps exposed inv (assertReplacementPaths paths) :=
  keeps_bind (keeps_forM (fun _ _ => demand_keeps)) (fun _ => demand_keeps)

/-- Reading the marker removes an empty rollback root and changes nothing else. -/
theorem readFilesystemRollbackMarker_holds :
    Holds exposed (readFilesystemRollbackMarker platform input) state (fun shown after =>
        (shown /\ after = state /\
            ∃ root, state.rollback = some root /\ root.isEmpty = false) \/
          (shown = false /\ after = { state with rollback := none } /\
            ∀ root, state.rollback = some root -> root.isEmpty))
      (fun _ after => after = state) := by
  apply holds_bind
  refine look_rule ?_ rfl
  intro found read
  have looked : state.rollback = found := Except.ok.inj read
  cases found with
  | none =>
    refine holds_pure (.inr ⟨rfl, ?_, ?_⟩)
    · rw [<- looked]
    · intro root present
      rw [looked] at present
      cases present
  | some root =>
    change Holds exposed (if root.isEmpty then _ else _) state _ _
    split
    next isEmpty =>
      apply holds_bind
      refine onRollback_rule ?_ rfl
      intro removed done
      cases done
      refine holds_pure (.inr ⟨rfl, rfl, ?_⟩)
      intro other present
      rw [looked] at present
      cases present
      exact isEmpty
    next notEmpty =>
      have held : ∃ root, state.rollback = some root /\ root.isEmpty = false :=
        ⟨root, looked, eq_false_of_ne_true notEmpty⟩
      split
      · apply holds_bind
        refine demand_rule ?_ rfl
        intro _
        refine holds_then (assertReplacementPaths_keeps (· = state) _ rfl) ?_
        rintro _ _ rfl
        apply holds_bind
        refine demand_rule ?_ rfl
        intro _
        exact holds_pure (.inl ⟨rfl, rfl, held⟩)
      · exact holds_raise rfl

/-- A state that differs from another one in its private files only. -/
def Beside (start state : SyncState) : Prop :=
  ∃ rollback preparation owner, state =
    { start with rollback := rollback, preparation := preparation, owner := owner }

theorem Beside.refl (start : SyncState) : Beside start start := ⟨_, _, _, rfl⟩

/-- A rollback root is new only when every reviewed path fits the target. -/
def PublishedWith (platform : SyncPlatform) (input : ApplyStagedFilesystemChangesInput)
    (start state : SyncState) : Prop :=
  Beside start state /\ (state.rollback = start.rollback \/
    ∀ changedPath ∈ input.changeSet.changedPaths,
      requireTargetMatchesBefore platform input.before start.target changedPath = .ok ())

theorem Preparing.published (preparing : Preparing start state) :
    PublishedWith platform input start state := by
  rcases preparing with ⟨preparation, owner, rfl⟩
  exact ⟨⟨_, _, _, rfl⟩, .inl rfl⟩

theorem publishedWith_unprepared : Unprepared (PublishedWith platform input start) := by
  rintro _ _ ⟨⟨rollback, _, _, rfl⟩, fits⟩ ⟨preparation, owner, rfl⟩
  exact ⟨⟨rollback, preparation, owner, rfl⟩, fits⟩

theorem backUp_holds (edit : WorkspaceChangedPath) (reached : Preparing start state) :
    Holds exposed (backUp platform input edit) state (fun _ after => Preparing start after /\
        requireTargetMatchesBefore platform input.before start.target edit = .ok ())
      (fun _ => Preparing start) := by
  rcases reached with ⟨preparation, owner, rfl⟩
  apply holds_bind
  refine look_rule ?_ ⟨_, _, rfl⟩
  intro _ fits
  split
  · exact holds_pure ⟨⟨_, _, rfl⟩, fits⟩
  apply holds_bind
  refine look_rule ?_ ⟨_, _, rfl⟩
  intro _ _
  apply holds_bind
  refine demand_rule (fun _ => ?_) ⟨_, _, rfl⟩
  refine onPreparation_rule ?_ ⟨_, _, rfl⟩
  intro _ _
  exact ⟨⟨_, _, rfl⟩, fits⟩

/-- Filling the preparation and renaming it checks every reviewed path first. -/
theorem fillPreparation_holds (reached : Preparing start state) :
    Holds exposed (do
        synchronize
        input.changeSet.changedPaths.forM (backUp platform input)
        writeReady platform input
        publishRollback) state
      (fun _ => PublishedWith platform input start) (fun _ => PublishedWith platform input start) := by
  apply holds_bind
  refine synchronize_rule ?_ reached.published
  refine holds_call (holds_forM (fun rest after => Preparing start after /\
    ∀ edit ∈ input.changeSet.changedPaths, edit ∉ rest ->
      requireTargetMatchesBefore platform input.before start.target edit = .ok ())
    ⟨reached, fun _ mem missing => absurd mem missing⟩ ?_) ?_ (fun _ _ ended => ended)
  · rintro edit rest before suffix ⟨preparing, checked⟩
    refine holds_mono (backUp_holds edit preparing) ?_ (fun _ _ ended => ended.published)
    rintro _ after ⟨still, fits⟩
    refine ⟨still, ?_⟩
    intro other mem done
    by_cases same : other = edit
    · exact same ▸ fits
    exact checked other mem (not_mem_cons_of_ne_of_not_mem same done)
  · rintro _ after ⟨⟨preparation, owner, rfl⟩, checked⟩
    have fits : ∀ edit ∈ input.changeSet.changedPaths,
        requireTargetMatchesBefore platform input.before start.target edit = .ok () :=
      fun edit mem => checked edit mem not_mem_nil
    have anywhere : ∀ rollback preparation owner, PublishedWith platform input start
        { start with rollback := rollback, preparation := preparation, owner := owner } :=
      fun _ _ _ => ⟨⟨_, _, _, rfl⟩, .inr fits⟩
    apply holds_bind
    refine holds_step ?_ (fun _ _ => anywhere _ _ _) ?_
    · intro _ written wrote
      cases wrote
      apply holds_bind
      refine synchronize_rule ?_ (anywhere _ _ _)
      apply holds_bind
      refine holds_atomic ?_ (fun _ _ => anywhere _ _ _) (fun _ => ⟨anywhere _ _ _, anywhere _ _ _⟩)
      intro renamed moved
      split at moved
      · cases moved
        exact synchronize_rule (anywhere _ _ _) (anywhere _ _ _)
      · cases moved
    · intro _ left
      split
      · exact ⟨anywhere _ _ _, anywhere _ _ _⟩
      · exact ⟨anywhere _ _ _, anywhere _ _ _⟩

theorem prepareFilesystemRollback_holds :
    Holds exposed (prepareFilesystemRollback platform input) state
      (fun _ => PublishedWith platform input state)
      (fun _ => PublishedWith platform input state) := by
  have still := Preparing.refl state
  apply holds_bind
  refine holds_step ?_ (fun _ _ => still.published) ?_
  · intro _ written wrote
    split at wrote
    · cases wrote
    cases wrote
    have owned : Preparing state { state with owner := some (.written (ownerOf platform input)) } :=
      ⟨_, _, rfl⟩
    apply holds_bind
    refine attempt_rule (Preparing state) ?_ ?_ (fun _ ended => ended.published)
    · apply holds_bind
      refine synchronize_rule ?_ owned
      refine onPreparation_rule ?_ owned
      intro root _
      have made : Preparing state { state with
          preparation := root, owner := some (.written (ownerOf platform input)) } := ⟨_, _, rfl⟩
      apply holds_bind
      refine attempt_rule (PublishedWith platform input state) ?_ ?_ (fun _ ended => ended)
      · refine holds_mono (fillPreparation_holds made) ?_ (fun _ _ ended => ended)
        intro _ after shown
        apply holds_bind
        refine attempt_rule (PublishedWith platform input state)
          (removeOwner_rule ?_ shown) ?_ (fun _ ended => ended)
        · exact holds_pure (publishedWith_unprepared shown ⟨_, _, rfl⟩)
        · intro error later ended
          exact abandonPreparation_keeps publishedWith_unprepared false error ended
      · intro error after shown
        exact abandonPreparation_keeps publishedWith_unprepared true error shown
    · intro error after preparing
      exact abandonPreparation_keeps publishedWith_unprepared false error preparing.published
  · intro _ left
    split
    · exact ⟨Preparing.published ⟨_, _, rfl⟩, Preparing.published ⟨_, _, rfl⟩⟩
    · exact ⟨still.published, still.published⟩

/-- Removing the inventory of a rollback root writes that root only. -/
theorem removePrivateTreeInventory_keeps (backups : List Path) :
    Keeps exposed (Beside start) (removePrivateTreeInventory backups) := by
  have wrote : ∀ act, Keeps exposed (Beside start) (onRollback act) := by
    rintro act _ ⟨rollback, preparation, owner, rfl⟩
    exact onRollback_rule (fun _ _ => ⟨_, _, _, rfl⟩) ⟨_, _, _, rfl⟩
  refine keeps_bind (keeps_forM (fun _ _ => wrote _)) (fun _ => ?_)
  exact keeps_bind (wrote _) (fun _ => keeps_bind (wrote _) (fun _ => wrote _))

end FilesystemSync
end OpenKit
