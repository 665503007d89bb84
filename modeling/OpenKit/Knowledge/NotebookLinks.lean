import OpenKit.Foundation.Json
import OpenKit.Foundation.OrderedMap
import OpenKit.Foundation.Text

namespace OpenKit
namespace Knowledge

open Foundation List

/-!
# Validation of a notebook edit

A candidate is read page by page, but broken links are looked for only where the
edit can have broken one: a changed page may link to what the candidate holds,
and an unchanged page may not link to or cite what the candidate removes.
-/

def MAX_DIAGNOSTICS : Nat := 100

structure NotebookError where
  (pageId code : String)
  target : Option String

structure OkfDocument where
  body : String
  frontmatter : JsonFields
  reserved : Bool

structure PageLink where
  (target resolved : String)

structure PageReference where
  objectId : String
  contentDigest : Option String

inductive OwnerKind where
  | user | workspace | server
deriving DecidableEq

structure NotebookInput where
  ownerKind : OwnerKind
  pageScopeId : Option String
  (base candidate : OrderedMap String String)
  registeredSources : OrderedMap String (Option String)
  suppressedPageIds : List String

/-- The readers of documents, links and references and the check of one page.
`knowledgeBase` is that of a page scope, `sourceDigest` that of a decoded pointer. -/
structure NotebookPlatform where
  parseOkfDocument : String -> String -> Option OkfDocument
  pageLinks : String -> String -> List PageLink
  parseKnowledgePageSourceReference : Option String -> String -> Option PageReference
  knowledgeBase : String -> Option String
  sourceDigest : String -> String -> String -> Option String
  assertSourcePointerEdit : String -> String -> Bool
  validateKnowledgePageCandidate :
    NotebookInput -> String -> String -> List String -> Bool × List String
  sha256 : String -> String

structure NotebookValidationResult where
  (changedPaths removedPaths sourceReferences : List String)
  errors : List NotebookError
  diagnosticsTruncated : Bool

def pageId (path : String) : String := .ofList (path.toList.take (path.length - 3))

def isSource (path : String) : Bool := "@sources/".toList.isPrefixOf path.toList

def OkfDocument.list (document : OkfDocument) (field : String) : List Json :=
  match document.frontmatter.value? field with
  | some (.list items) => items
  | _ => []

namespace NotebookInput

variable (platform : NotebookPlatform) (input : NotebookInput)

def isChanged (path : String) : Bool := input.base.get? path ≠ input.candidate.get? path

def changedPaths : List String :=
  ((input.base.keys ∪ input.candidate.keys).mergeSort codeUnitsLe).filter input.isChanged

def removedPaths : List String := input.changedPaths.filter (· ∉ input.candidate.keys)

def suppressedPaths : List String :=
  if input.ownerKind = .user then input.suppressedPageIds.map (· ++ ".md") else []

def knowledgeIds : List String :=
  (input.candidate.keys.filter fun path =>
    !isSource path && (path.splitOn "/").getLast? ∉ [some "index.md", some "log.md"]).map pageId

/-- The checked edit of a pointer, as the reference to its source. -/
def sourceEdit (path content : String) : Option String := do
  let knowledgeBase <- platform.knowledgeBase (input.pageScopeId.getD "")
  guard (input.ownerKind = .workspace)
  let id := pageId (.ofList (path.toList.drop 9))
  let digest <- platform.sourceDigest knowledgeBase id content
  guard (input.registeredSources.get? id = some (some digest))
  guard ((input.base.get? path).all (platform.assertSourcePointerEdit · content))
  return s!"source:{id}@{digest}"

def references (document : OkfDocument) (field : String) : List (Option PageReference) :=
  (document.list field).map fun
    | .text reference => platform.parseKnowledgePageSourceReference input.pageScopeId reference
    | _ => none

def isSubject (reference : PageReference) : Bool :=
  (input.candidate.get? (reference.objectId ++ ".md")).any fun target =>
    reference.contentDigest.all (· = "sha256:" ++ platform.sha256 target)

/-- The codes of the errors of a changed page. -/
def pageErrors (path content : String) (document : OkfDocument) : List String :=
  let report := platform.validateKnowledgePageCandidate input path content input.knowledgeIds
  let fields := document.frontmatter
  (if !report.1 || report.2 ≠ [] then "notebook.invalid_page" :: report.2 else []) ++
  (if !isSource path && (fields.value? "openkit_entry_id").isSome
      && !fields.hasText "openkit_entry_id" (pageId path) then
    ["notebook.page_identity_mismatch"] else []) ++
  if fields.hasText "type" "Observation" then
    ((input.references platform document "subject_refs").filter fun subject =>
      !subject.any (input.isSubject platform)).map fun _ => "notebook.invalid_subject_reference"
  else []

def isBroken (path : String) (link : PageLink) : Bool :=
  !(link.resolved ∈ input.suppressedPaths && link.resolved ∉ input.candidate.keys) &&
    if input.isChanged path then link.resolved ∉ input.candidate.keys
    else link.resolved ∈ input.removedPaths

/-- The targets that are reported; an unchanged page reports one error, without it. -/
def linkErrors (path : String) (document : OkfDocument) : List (Option String) :=
  let broken := (platform.pageLinks path document.body).filter (input.isBroken path)
  if input.isChanged path then broken.map (some ·.target) else (broken.take 1).map fun _ => none

def losesCitation (document : OkfDocument) : Bool :=
  (input.references platform document "source_refs").any (·.any fun reference =>
    reference.objectId ++ ".md" ∈ input.removedPaths
      && reference.objectId ++ ".md" ∉ input.suppressedPaths)

def validatePage (path content : String) : List NotebookError × List String :=
  let fail := fun code => (⟨pageId path, code, none⟩ : NotebookError)
  let edit := if isSource path && input.isChanged path
    then (input.sourceEdit platform path content).map ([·]) else some []
  match edit, platform.parseOkfDocument path content with
  | none, _ => ([fail "notebook.invalid_source_edit"], [])
  | some sources, none => ([fail "notebook.invalid_document"], sources)
  | some sources, some document =>
    if path = "index.md" && !document.frontmatter.hasText "okf_version" "0.2" then
      ([fail "notebook.invalid_document"], sources)
    else
      let checked := input.isChanged path && !document.reserved
      ((if checked then (input.pageErrors platform path content document).map fail else []) ++
        (input.linkErrors platform path document).map
          (⟨pageId path, "notebook.unresolved_page_link", ·⟩) ++
        if !input.isChanged path && input.losesCitation platform document then
          [fail "notebook.unresolved_page_reference"] else [],
      sources ++ if checked then (document.list "source_refs").filterMap fun
          | .text reference => some reference
          | _ => none
        else [])

def validateNotebookCandidate : NotebookValidationResult :=
  let removed := (input.removedPaths.filter isSource).map
    (⟨pageId ·, "notebook.invalid_source_edit", none⟩)
  let pages := (input.candidate.entries.mergeSort fun left right =>
    codeUnitsLe (pageId left.1) (pageId right.1)).map fun page =>
      input.validatePage platform page.1 page.2
  let errors := removed ++ pages.flatMap (·.1)
  { changedPaths := input.changedPaths, removedPaths := input.removedPaths
    sourceReferences := (pages.flatMap (·.2)).eraseDups.mergeSort codeUnitsLe
    errors := errors.take MAX_DIAGNOSTICS
    diagnosticsTruncated := MAX_DIAGNOSTICS < errors.length }

/-! ## Closure -/

def Links (path content target : String) : Prop :=
  ∃ document, platform.parseOkfDocument path content = some document /\
    ∃ link ∈ platform.pageLinks path document.body, link.resolved = target

def Cites (path content target : String) : Prop :=
  ∃ document, platform.parseOkfDocument path content = some document /\
    ∃ reference, some reference ∈ input.references platform document "source_refs" /\
      reference.objectId ++ ".md" = target

def Available (files : OrderedMap String String) (path : String) : Prop :=
  path ∈ files.keys \/ path ∈ input.suppressedPaths

end NotebookInput

section

open NotebookInput

variable {platform : NotebookPlatform} {input : NotebookInput} {path data : String}

/-- A validation without errors has read every page to its end. -/
theorem page_of_accepted (accepted : (input.validateNotebookCandidate platform).errors = [])
    (held : input.candidate.get? path = some data) :
    ∃ document, platform.parseOkfDocument path data = some document /\
      (∀ link ∈ platform.pageLinks path document.body, input.isBroken path link = false) /\
      (input.isChanged path = false -> input.losesCitation platform document = false) := by
  have clean : (input.validatePage platform path data).1 = [] := by
    have entry := (OrderedMap.get?_eq_some_iff ..).mp held
    simp only [validateNotebookCandidate, MAX_DIAGNOSTICS, take_eq_nil_iff, append_eq_nil_iff,
      flatMap_eq_nil_iff, mem_map, mem_mergeSort] at accepted
    rcases accepted with never | ⟨-, pages⟩
    · cases never
    · exact pages _ ⟨_, entry, rfl⟩
  unfold validatePage at clean
  dsimp only at clean
  split at clean
  · cases clean
  · cases clean
  next document _ parsed =>
    split at clean
    · cases clean
    simp only [append_eq_nil_iff, map_eq_nil_iff] at clean
    refine ⟨document, parsed, fun link mem => ?_, fun still => ?_⟩
    · have whole := clean.1.2
      unfold linkErrors at whole
      split at whole <;> simp_all
    · simpa [still] using clean.2

end

open NotebookInput in
/-- In an accepted edit of a closed notebook every link of every page leads to a page of the
candidate or a suppressed one, and so does every citation of an unchanged page. -/
theorem notebook_validation_keeps_links_closed (platform : NotebookPlatform) (input : NotebookInput)
    (closed : ∀ path content target, input.base.get? path = some content ->
      Links platform path content target \/ input.Cites platform path content target ->
      input.Available input.base target)
    (accepted : (input.validateNotebookCandidate platform).errors = []) :
    ∀ path content target, input.candidate.get? path = some content ->
      (Links platform path content target -> input.Available input.candidate target) /\
      (input.isChanged path = false -> input.Cites platform path content target ->
        input.Available input.candidate target) := by
  intro path content target held
  obtain ⟨document, parsed, links, citations⟩ := page_of_accepted accepted held
  -- An unchanged page was one of the base, so what it leads to can only have been removed.
  have removed (unchanged : input.isChanged path = false)
      (leads : Links platform path content target \/ input.Cites platform path content target)
      (lost : ¬ input.Available input.candidate target) : target ∈ input.removedPaths := by
    have same : input.base.get? path = some content := by
      rw [<- held]
      simpa [isChanged] using unchanged
    obtain ⟨gone, unsuppressed⟩ := not_or.mp lost
    have kept := (closed _ _ _ same leads).resolve_right unsuppressed
    have none : input.candidate.get? target = none := by simpa [OrderedMap.mem_keys_iff] using gone
    have found := Option.isSome_iff_ne_none.mp ((OrderedMap.mem_keys_iff _ _).mp kept)
    simp [removedPaths, changedPaths, isChanged, kept, gone, none, found]
  refine ⟨fun leads => ?_, fun unchanged cites => ?_⟩ <;> by_contra lost <;>
    obtain ⟨gone, unsuppressed⟩ := not_or.mp lost
  · obtain ⟨other, same, link, member, rfl⟩ := id leads
    cases same.symm.trans parsed
    have whole := links link member
    cases changed : input.isChanged path with
    | true => simp [isBroken, changed, gone, unsuppressed] at whole
    | false =>
      have := removed changed (.inl leads) lost
      simp [isBroken, changed, this, unsuppressed] at whole
  · obtain ⟨other, same, reference, member, rfl⟩ := id cites
    cases same.symm.trans parsed
    have kept := citations unchanged
    simp only [losesCitation, any_eq_false] at kept
    refine kept _ member ?_
    simpa [unsuppressed] using removed unchanged (.inr cites) lost

/-- An old page links to `c.md`, every other one to `a.md` and `d.md`; each cites `a.md`. -/
def plainNotebook : NotebookPlatform where
  parseOkfDocument _ content := some ⟨content, [("source_refs", .list [.text "a"])], false⟩
  pageLinks _ body :=
    if body = "old" then [⟨"c.md", "c.md"⟩] else [⟨"a.md", "a.md"⟩, ⟨"d.md", "d.md"⟩]
  parseKnowledgePageSourceReference _ reference := some ⟨reference, none⟩
  knowledgeBase _ := none
  sourceDigest _ _ _ := none
  assertSourcePointerEdit _ _ := true
  validateKnowledgePageCandidate _ _ _ _ := (true, [])
  sha256 := id

/-- `a.md` changes, `b.md` stays, `c.md` goes, and `d.md` is suppressed. -/
def editedPage : NotebookInput where
  ownerKind := .user
  pageScopeId := none
  base := .ofPairs [("a.md", "old"), ("b.md", "kept"), ("c.md", "kept")]
  candidate := .ofPairs [("a.md", "new"), ("b.md", "kept")]
  registeredSources := .empty
  suppressedPageIds := ["d"]

open NotebookInput in
theorem edited_page_keeps_link :
    "c.md" ∈ editedPage.removedPaths /\ editedPage.isChanged "b.md" = false /\
      editedPage.Available editedPage.candidate "a.md" /\
      editedPage.Available editedPage.candidate "d.md" := by
  have removed (path : String) : path ∈ editedPage.removedPaths ↔ path = "c.md" := by
    have keys : editedPage.base.keys ∪ editedPage.candidate.keys = ["c.md", "a.md", "b.md"] := by
      decide
    have gone : ∀ path ∈ ["c.md", "a.md", "b.md"], (editedPage.isChanged path = true /\
        path ∉ editedPage.candidate.keys ↔ path = "c.md") := by decide
    simp only [removedPaths, changedPaths, keys, mem_filter, mem_mergeSort, decide_eq_true_iff,
      and_assoc]
    refine ⟨fun left => (gone path left.1).mp left.2, ?_⟩
    rintro rfl
    exact ⟨mem_cons_self, (gone _ mem_cons_self).mpr rfl⟩
  have still : editedPage.isChanged "b.md" = false := by decide
  have accepted : (editedPage.validateNotebookCandidate plainNotebook).errors = [] := by
    have first : (editedPage.validatePage plainNotebook "a.md" "new").1 = [] := by decide
    have source : isSource "b.md" = false /\ isSource "c.md" = false := by decide
    have second : (editedPage.validatePage plainNotebook "b.md" "kept").1 = [] := by
      simp [validatePage, linkErrors, isBroken, losesCitation, references, removed, still, source,
        plainNotebook, OkfDocument.list, JsonFields.value?]
    have sources : editedPage.removedPaths.filter isSource = [] := by
      simp [filter_eq_nil_iff, removed, source]
    have entries : editedPage.candidate.entries = [("a.md", "new"), ("b.md", "kept")] := rfl
    have pages : ∀ page ∈ editedPage.candidate.entries,
        (editedPage.validatePage plainNotebook page.1 page.2).1 = [] := by
      simpa [entries] using ⟨first, second⟩
    simp only [validateNotebookCandidate, sources, map_nil, nil_append, take_eq_nil_iff,
      flatMap_eq_nil_iff, mem_map, mem_mergeSort]
    refine .inr ?_
    rintro _ ⟨page, mem, rfl⟩
    exact pages page mem
  have closed : ∀ path content target, editedPage.base.get? path = some content ->
      Links plainNotebook path content target \/ editedPage.Cites plainNotebook path content target ->
      editedPage.Available editedPage.base target := by
    have listed : ∀ target ∈ ["a.md", "c.md", "d.md"],
        editedPage.Available editedPage.base target := by
      unfold Available
      decide
    rintro path content _ - (⟨_, parsed, link, member, rfl⟩ | ⟨_, parsed, _, member, rfl⟩) <;>
      cases parsed <;> refine listed _ ?_
    · simp only [plainNotebook] at member
      split at member <;> aesop
    · cases Option.some.inj (mem_singleton.mp member)
      decide
  have kept := notebook_validation_keeps_links_closed plainNotebook editedPage closed accepted
  refine ⟨(removed _).mpr rfl, still, ?_, ?_⟩
  · refine (kept "b.md" "kept" "a.md" rfl).2 still ⟨_, rfl, ⟨"a", none⟩, ?_, rfl⟩
    exact mem_singleton_self _
  · refine (kept "a.md" "new" "d.md" rfl).1 ⟨_, rfl, ⟨"d.md", "d.md"⟩, ?_, rfl⟩
    exact mem_cons_of_mem _ (mem_singleton_self _)

end Knowledge
end OpenKit
