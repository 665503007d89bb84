import OpenKit.Foundation.Table
import OpenKit.Policy.PermissionDecisions
import OpenKit.Policy.Selection

namespace OpenKit
namespace Policy

open Foundation List RecordProductPermissionDecisionInput Tables

/-!
# Use limits and Audit links over every history

The recorder recounts past consumption each time.  Three facts about the tables
carry the bound through a history: every stored row reads back, a row that names
consumed statements is one that the count of its home includes, and a committed
call found its count below the limit.  The digest of a statement determines the
statement, so all calls that name it have the same limit.

A call may bring its own Audit id, and then the recorder writes no Audit event
and does not look for one.  The link between decisions and Audit events is
therefore stated for the decisions that leave the Audit to the recorder.
-/

variable {formats : RecordFormats}

/-! ## What a validated call publishes -/

variable {input : RecordProductPermissionDecisionInput} {allocated auditEventId : String}
  {prepared : PreparedRecord}

/-- The call leaves the Audit to the recorder and names its Workspace. -/
def RecordProductPermissionDecisionInput.WritesAudit
    (input : RecordProductPermissionDecisionInput) : Prop :=
  PolicyKernel.present input.auditEventId = none /\
    (input.ownerScope = .workspace -> (PolicyKernel.present input.workspaceId).isSome)

/-- The requested uses are those of real statements, with their own limits. -/
def RecordProductPermissionDecisionInput.UsesBacked
    (input : RecordProductPermissionDecisionInput) (digest : PolicyDigest) : Prop :=
  ∀ uses ∈ input.uses, ∀ use ∈ uses, ∃ statement : PolicyStatement,
    use.statement = ⟨statement.id, digest.statement statement⟩ /\
      statement.fields.lifetime.uses = some use.limit

/-- What a passed validation says about the prepared record. -/
structure Prepares (formats : RecordFormats) (input : RecordProductPermissionDecisionInput)
    (auditEventId : String) (prepared : PreparedRecord) : Prop where
  home : input.permissionDecisionDb = .ok prepared.home
  row : prepared.row = (input.retained auditEventId).toRow
  audit : prepared.audit = input.linkedAudit formats auditEventId
  uses : parseUses formats input.uses = .ok prepared.uses
  readable : readPermissionDecisionRow formats prepared.row = .ok (input.retained auditEventId)
  consumption : (prepared.uses = [] /\ input.consumedStatements = []) \/
    (input.mayConsume /\ exactUses prepared.uses input.consumedStatements)

theorem prepare_spec (ready : input.prepare formats allocated = .ok prepared) :
    Prepares formats input (input.permissionDecisionAuditEventId allocated) prepared := by
  unfold prepare at ready
  simp only [bind_eq_ok_iff, refuse_eq_ok_iff, failOn_eq_ok_iff, exists_and_left,
    exists_const] at ready
  rcases ready with ⟨_, home, hit, _, parsedMediation, _, parsed, consistent, _, _, uses,
    parsedUses, mayConsume, exact, shown⟩
  cases shown
  refine ⟨hit, rfl, rfl, parsedUses, ?_, ?_⟩
  · apply readPermissionDecisionRow_toRow parsedMediation parsed
    intro mediation found
    have kept : input.mediation = some mediation := found
    have own : input.enforcementPoint = mediation.enforcementPoint := by
      simpa [kept] using consistent
    exact own
  · by_cases finite : uses ≠ [] \/ input.consumedStatements ≠ []
    · simp only [finite, decide_true, Bool.true_and, Bool.not_eq_false'] at mayConsume exact
      exact .inr ⟨mayConsume, exact⟩
    · simp only [not_or, not_not] at finite
      exact .inl finite

theorem parseUses_ok {uses : Option (List StatementUse)} {list : List StatementUse}
    (parsed : parseUses formats uses = .ok list) : list = uses.getD [] := by
  unfold parseUses at parsed
  split at parsed
  · cases parsed
    rfl
  · cases parsed
  · rcases bind_inv parsed with ⟨_, _, parsed⟩
    cases parsed
    rfl

def PermissionDecisionRow.consumedStatements (row : PermissionDecisionRow) :
    List PolicyStatementReference :=
  match row.mediation with
  | none => []
  | some mediation => mediation.consumedStatements

/-- A row that is counted for every statement that it names. -/
structure Counted (home : Home) (row : PermissionDecisionRow) : Prop where
  owned : countedRow home row
  final : ∀ mediation ∈ row.mediation, mediation.role = .final /\ mediation.kernelAllows

variable (spec : Prepares formats input auditEventId prepared)

include spec

theorem Prepares.counted (consuming : prepared.row.consumedStatements ≠ []) :
    Counted prepared.home prepared.row := by
  have sameConsumed : prepared.row.consumedStatements = input.consumedStatements := by
    rw [spec.row]
    rfl
  rcases spec.consumption with nothing | ⟨mayConsume, _⟩
  · exact absurd (sameConsumed.trans nothing.2) consuming
  simp only [RecordProductPermissionDecisionInput.mayConsume, Bool.and_eq_true,
    decide_eq_true_eq] at mayConsume
  rcases mayConsume with ⟨⟨⟨owns, allowed⟩, _⟩, mediated⟩
  have hit := spec.home
  rw [spec.row]
  refine ⟨?_, ?_⟩
  · unfold RecordProductPermissionDecisionInput.permissionDecisionDb at hit
    unfold RecordProductPermissionDecisionInput.ownsHome at owns
    cases scope : input.ownerScope with
    | server => simp [scope] at owns
    | workspace =>
      cases handle : input.workspaceDb with
      | none => simp [scope, handle] at owns
      | some =>
        simp only [scope, handle, Except.ok.injEq] at hit
        simp only [scope, handle, Option.isSome_some, Option.map_some, true_and,
          decide_eq_true_eq] at owns
        rw [<- hit]
        simp [countedRow, PermissionDecisionRetained.toRow, retained, scope, owns, allowed]
    | user =>
      cases handle : input.userDb with
      | none => simp [scope, handle] at owns
      | some =>
        simp only [scope, handle] at hit
        split at hit
        · cases hit
        rw [<- Except.ok.inj hit]
        simp only [scope, handle, Option.isSome_some, Bool.true_and,
          Option.isNone_iff_eq_none] at owns
        simp [countedRow, PermissionDecisionRetained.toRow,
          RecordProductPermissionDecisionInput.retained, scope, owns, allowed]
  · intro mediation found
    have kept : input.mediation = some mediation := found
    simp only [kept, Bool.and_eq_true, decide_eq_true_eq] at mediated
    exact mediated.1

/-! ## A committed call -/

variable {home : Home} {store after : Store}

/-- The tables after a committed call. -/
def Tables.append (tables : Tables) (prepared : PreparedRecord) : Tables where
  decisions := tables.decisions ++ [prepared.row]
  audits := tables.audits ++ prepared.audit.toList

omit spec

private theorem onHome_ok {write : Tables -> Except String Tables}
    (ran : onHome home write store = (.ok (), after)) :
    ∃ tables, write (store home) = .ok tables /\ after = store.put home tables := by
  have written := Writes.update_ok ran
  split at written
  next tables wrote =>
    cases written
    exact ⟨tables, wrote, rfl⟩
  · cases written

/-- A committed call passed its validation, found every limit free, and
appended one row and its Audit event. -/
theorem record_ok (committed : recordProductPermissionDecisionInDb formats input allocated store =
      (.ok (), after)) :
    ∃ prepared, Prepares formats input (input.permissionDecisionAuditEventId allocated) prepared /\
      usesRemain formats prepared.home (store prepared.home) prepared.uses = .ok () /\
      after = store.put prepared.home ((store prepared.home).append prepared) := by
  rcases Writes.bind_ok committed with ⟨prepared, middle, validated, ran⟩
  rcases Writes.query_ok validated with ⟨ready, still⟩
  subst still
  refine ⟨prepared, prepare_spec ready, ?_⟩
  rcases Writes.bind_ok (Writes.atomically_ok ran) with ⟨_, second, counted, inserted⟩
  rcases Writes.query_ok counted with ⟨remain, still⟩
  subst still
  refine ⟨remain, ?_⟩
  rcases Writes.bind_ok inserted with ⟨_, third, decided, audited⟩
  rcases onHome_ok decided with ⟨tables, insertedRow, wroteRow⟩
  simp only [insertDecision, bind_eq_ok_iff, refuse_eq_ok_iff, exists_and_left,
    exists_const] at insertedRow
  rcases insertedRow with ⟨_, _, appended⟩
  cases appended
  subst wroteRow
  cases linked : prepared.audit with
  | none =>
    rw [linked] at audited
    rcases Writes.query_ok audited with ⟨_, still⟩
    rw [still]
    simp [append, linked]
  | some =>
    rw [linked] at audited
    rcases onHome_ok audited with ⟨final, insertedAudit, wroteAudit⟩
    simp only [insertAuditEvent, bind_eq_ok_iff, refuse_eq_ok_iff, failOn_eq_ok_iff,
      exists_and_left, exists_const] at insertedAudit
    rcases insertedAudit with ⟨_, _, appended⟩
    cases appended
    rw [wroteAudit]
    simp [append, linked, Store.put]

/-- A call that throws changes no table of any home. -/
theorem record_error {thrown : String}
    (failed : recordProductPermissionDecisionInDb formats input allocated store =
      (.error thrown, after)) : after = store := by
  unfold recordProductPermissionDecisionInDb Writes.andThen Writes.query at failed
  cases ready : input.prepare formats allocated with
  | error =>
    rw [ready] at failed
    cases failed
    rfl
  | ok =>
    rw [ready] at failed
    exact Writes.atomically_error failed

/-! ## The recount -/

variable {tables : Tables} {statement : PolicyStatementReference}

def Tables.consumptions (tables : Tables) (statement : PolicyStatementReference) : Nat :=
  tables.decisions.countP fun row =>
    row.result = .allow &&
      match row.mediation with
      | none => false
      | some mediation =>
        mediation.role = .final && statement ∈ mediation.consumedStatements

/-- Every row reads back, and every row that consumes anything is counted. -/
structure Tables.Recountable (formats : RecordFormats) (home : Home) (tables : Tables) : Prop where
  readable : ∀ row ∈ tables.decisions,
    readPermissionDecisionRow formats row = .ok row.project
  counted : ∀ row ∈ tables.decisions, row.consumedStatements ≠ [] -> Counted home row

theorem countedRow_allow {row : PermissionDecisionRow} (counted : countedRow home row) :
    row.result = .allow := by
  cases home with
  | server => cases counted
  | workspace _ | user _ =>
    simp only [countedRow, Bool.and_eq_true, decide_eq_true_eq] at counted
    exact counted.2

theorem readPolicyStatementUseCount_ok {count : Nat} (recountable : tables.Recountable formats home)
    (read : readPolicyStatementUseCount formats home tables statement = .ok count) :
    count = tables.consumptions statement := by
  have rowsRead : (tables.decisions.filter (countedRow home)).mapM
      (readPermissionDecisionRow formats) =
      .ok ((tables.decisions.filter (countedRow home)).map PermissionDecisionRow.project) := by
    apply mapM_eq_ok_map
    intro row mem
    exact recountable.readable row (mem_filter.mp mem).1
  unfold readPolicyStatementUseCount at read
  simp only [bind_eq_ok_iff, failOn_eq_ok_iff, rowsRead] at read
  rcases read with ⟨_, _, decisions, sameRows, counted⟩
  cases sameRows
  cases counted
  rw [filter_map, length_map, filter_filter, <- countP_eq_length_filter]
  apply countP_congr
  intro row mem
  -- A row that names no statement is counted by neither side.
  cases mediated : row.mediation with
  | none => simp [consumesStatement, PermissionDecisionRow.project, mediated]
  | some mediation =>
    by_cases names : statement ∈ mediation.consumedStatements
    · have consuming : row.consumedStatements ≠ [] := by
        simp only [PermissionDecisionRow.consumedStatements, mediated]
        exact ne_nil_of_mem names
      have counted := recountable.counted row mem consuming
      rcases counted.final mediation mediated with ⟨isFinal, allows⟩
      simp [consumesStatement, PermissionDecisionRow.project, mediated, names, isFinal, allows,
        counted.owned, countedRow_allow counted.owned]
    · simp [consumesStatement, PermissionDecisionRow.project, mediated, names]

theorem consumptions_append_le (tables : Tables) (prepared : PreparedRecord)
    (statement : PolicyStatementReference) : (tables.append prepared).consumptions statement <=
      tables.consumptions statement +
        if statement ∈ prepared.row.consumedStatements then 1 else 0 := by
  unfold consumptions append
  rw [countP_append, countP_singleton]
  apply Nat.add_le_add_left
  cases mediated : prepared.row.mediation with
  | none => simp
  | some mediation =>
    by_cases names : statement ∈ mediation.consumedStatements
    · simp only [PermissionDecisionRow.consumedStatements, mediated, names, if_true]
      split <;> omega
    · simp [names]

/-- The effect's own check implies that its decision is among the counted. -/
theorem exists_of_policyStatementUsedByDecision {workspaceId : String} {expected : PolicyUseDecision}
    (used : policyStatementUsedByDecision formats workspaceId tables statement expected = .ok true) :
    ∃ row ∈ tables.decisions, row.decisionId = expected.decisionId /\ row.result = .allow /\
      ∃ mediation, row.mediation = some mediation /\ mediation.role = .final /\
        statement ∈ mediation.consumedStatements := by
  rcases bind_inv used with ⟨_, _, used⟩
  split at used
  · cases used
  rename_i row hit
  rcases bind_inv used with ⟨decision, read, used⟩
  split at used
  · cases used
  rename_i mediation mediated
  split at used
  next facts =>
    simp only [isExpectedUse, Bool.and_eq_true, decide_eq_true_eq] at facts
    have named := find?_some hit
    simp only [Bool.and_eq_true, decide_eq_true_eq] at named
    have sameDecision : decision = row.project := by
      simp only [readPermissionDecisionRow, bind_eq_ok_iff] at read
      rcases read with ⟨_, _, _, _, returned⟩
      exact (Except.ok.inj returned).symm
    subst sameDecision
    exact ⟨row, mem_of_find?_eq_some hit, named.1.1, facts.1.1.1.1.1.1.1, mediation, mediated,
      facts.1.1.1.1.1.2, facts.2⟩
  · cases used

/-- Decisions that the effects' own check accepts are counted once each. -/
theorem length_le_consumptions {workspaceId : String} {honoured : List PolicyUseDecision}
    (distinct : (honoured.map PolicyUseDecision.decisionId).Nodup) (used : ∀ expected ∈ honoured,
      policyStatementUsedByDecision formats workspaceId tables statement expected = .ok true) :
    honoured.length <= tables.consumptions statement := by
  unfold consumptions
  rw [countP_eq_length_filter, <- length_map PolicyUseDecision.decisionId,
    <- length_map (fun row : PermissionDecisionRow => row.decisionId)]
  refine (distinct.subperm ?_).length_le
  intro decisionId mem
  rcases mem_map.mp mem with ⟨expected, inList, rfl⟩
  rcases exists_of_policyStatementUsedByDecision (used expected inList) with
    ⟨row, stored, named, allowed, mediation, mediated, isFinal, consumed⟩
  exact mem_map.mpr ⟨row, mem_filter.mpr ⟨stored, by simp [allowed, mediated, isFinal, consumed]⟩,
    named⟩

/-! ## Histories -/

variable {digest : PolicyDigest}

/-- One call of the recorder with the Audit id that it would allocate. -/
structure RecordCall where
  input : RecordProductPermissionDecisionInput
  allocated : String

/-- The store after one call, committed or not. -/
def recordCall (formats : RecordFormats) (call : RecordCall) (store : Store) : Store :=
  (recordProductPermissionDecisionInDb formats call.input call.allocated store).2

/-- The Audit event is the one that the decision names, and names the decision. -/
def Linked (row : PermissionDecisionRow) (audit : AuditEvent) : Prop :=
  row.auditEventId = some audit.id /\ audit.permissionDecisionId = some row.decisionId

include spec

private theorem linked_of_mem {audit : AuditEvent} (wrote : audit ∈ prepared.audit.toList) :
    Linked prepared.row audit := by
  rw [spec.audit, Option.mem_toList] at wrote
  rw [spec.row]
  unfold linkedAudit at wrote
  split at wrote
  · cases wrote
  · split at wrote <;> split at wrote <;> cases wrote <;> exact ⟨rfl, rfl⟩

/-- A call that leaves the Audit to the recorder writes one. -/
private theorem linkedAudit_of_writesAudit
    (unsupplied : PolicyKernel.present input.auditEventId = none)
    (named : input.ownerScope = .workspace -> (PolicyKernel.present input.workspaceId).isSome) :
    ∃ audit, prepared.audit = some audit /\ Linked prepared.row audit := by
  have wrote : (input.linkedAudit formats auditEventId).isSome := by
    have hit := spec.home
    unfold permissionDecisionDb at hit
    unfold linkedAudit
    cases scope : input.ownerScope with
    | server =>
      cases core : input.coreDb with
      | false => simp [scope, core] at hit
      | true => simp [unsupplied]
    | workspace =>
      cases handle : input.workspaceDb with
      | none => simp [scope, handle] at hit
      | some => simp [unsupplied, named scope]
    | user =>
      cases handle : input.userDb with
      | none => simp [scope, handle] at hit
      | some => simp [unsupplied]
  rcases Option.isSome_iff_exists.mp wrote with ⟨audit, shown⟩
  have inPrepared : prepared.audit = some audit := spec.audit.trans shown
  refine ⟨audit, inPrepared, linked_of_mem spec ?_⟩
  rw [inPrepared]
  exact mem_singleton.mpr rfl

/-- Every call that records this decision leaves the Audit to the recorder. -/
def AuditedBy (calls : List RecordCall) (decisionId : String) : Prop :=
  ∀ call ∈ calls, call.input.decisionId = decisionId -> call.input.WritesAudit

/-- What a history keeps in the tables of one home. -/
structure Recorded (formats : RecordFormats) (digest : PolicyDigest) (calls : List RecordCall)
    (home : Home) (tables : Tables) : Prop where
  recountable : tables.Recountable formats home
  bounded : ∀ (statement : PolicyStatement) (limit : Nat),
    statement.fields.lifetime.uses = some limit ->
      tables.consumptions ⟨statement.id, digest.statement statement⟩ <= limit
  audited : ∀ row ∈ tables.decisions, AuditedBy calls row.decisionId ->
    ∃ audit ∈ tables.audits, Linked row audit
  decided : ∀ audit ∈ tables.audits, ∃ row ∈ tables.decisions, Linked row audit

omit spec in
theorem recorded_empty (digest : PolicyDigest) (calls : List RecordCall) (home : Home) :
    Recorded formats digest calls home empty := by
  refine ⟨⟨forall_mem_nil _, forall_mem_nil _⟩, ?_, forall_mem_nil _, forall_mem_nil _⟩
  intro statement limit _
  exact Nat.zero_le limit

private theorem recountable_append (atHome : prepared.home = home)
    (recountable : tables.Recountable formats home) :
    (tables.append prepared).Recountable formats home := by
  refine ⟨?_, ?_⟩
  · refine forall_mem_concat recountable.readable ?_
    have read := spec.readable
    simp only [readPermissionDecisionRow, bind_eq_ok_iff] at read ⊢
    rcases read with ⟨_, parsedMediation, _, parsed, _⟩
    exact ⟨(), parsedMediation, (), parsed, rfl⟩
  · refine forall_mem_concat recountable.counted ?_
    rw [<- atHome]
    exact spec.counted

variable (injective : Function.Injective digest.statement)

include injective

/-- A committed call consumes a statement only below the statement's limit. -/
private theorem below_limit (backed : input.UsesBacked digest)
    (recountable : tables.Recountable formats prepared.home)
    (remain : usesRemain formats prepared.home tables prepared.uses = .ok ())
    {statement : PolicyStatement} {limit : Nat}
    (limited : statement.fields.lifetime.uses = some limit)
    (consumed : (⟨statement.id, digest.statement statement⟩ : PolicyStatementReference) ∈
      prepared.row.consumedStatements) :
    tables.consumptions ⟨statement.id, digest.statement statement⟩ < limit := by
  have inInput : (⟨statement.id, digest.statement statement⟩ : PolicyStatementReference) ∈
      input.consumedStatements := by
    rw [spec.row] at consumed
    exact consumed
  rcases spec.consumption with nothing | ⟨_, exact⟩
  · rw [nothing.2] at inInput
    cases inInput
  simp only [exactUses, Bool.and_eq_true, decide_eq_true_eq] at exact
  rcases mem_map.mp (exact.2.mem_iff.mpr inInput) with ⟨use, requested, named⟩
  have unlimited := forM_eq_ok_iff.mp remain use requested
  simp only [bind_eq_ok_iff, refuse_eq_ok_iff, decide_eq_false_iff_not] at unlimited
  rcases unlimited with ⟨count, read, below⟩
  rw [readPolicyStatementUseCount_ok recountable read, named] at below
  -- The digest determines the statement, and with it the limit of the use.
  cases supplied : input.uses with
  | none =>
    have none := parseUses_ok spec.uses
    rw [supplied] at none
    rw [none] at requested
    cases requested
  | some uses =>
    have all := parseUses_ok spec.uses
    rw [supplied] at all
    rw [all] at requested
    rcases backed uses supplied use requested with ⟨backing, reference, backedLimit⟩
    have sameDigest := congrArg PolicyStatementReference.digest (named.symm.trans reference)
    have same : statement = backing := injective sameDigest
    rw [<- same, limited] at backedLimit
    cases backedLimit
    omega

variable {calls : List RecordCall}

omit spec

variable {call : RecordCall}

/-- One committed call keeps what the history keeps. -/
private theorem recorded_append (mem : call ∈ calls) (backed : call.input.UsesBacked digest)
    (spec : Prepares formats call.input
      (call.input.permissionDecisionAuditEventId call.allocated) prepared)
    (remain : usesRemain formats prepared.home tables prepared.uses = .ok ())
    (recorded : Recorded formats digest calls prepared.home tables) :
    Recorded formats digest calls prepared.home (tables.append prepared) := by
  have newRow : prepared.row ∈ (tables.append prepared).decisions :=
    mem_append_right _ (mem_singleton.mpr rfl)
  refine ⟨recountable_append spec rfl recorded.recountable, ?_, ?_, ?_⟩
  · intro statement limit limited
    have grown := consumptions_append_le tables prepared ⟨statement.id, digest.statement statement⟩
    have before := recorded.bounded statement limit limited
    split at grown
    next consumed =>
      have below := below_limit spec injective backed recorded.recountable remain limited consumed
      omega
    · omega
  · intro row inRows audited
    rcases mem_append.mp inRows with old | new
    · rcases recorded.audited row old audited with ⟨audit, inAudits, linked⟩
      exact ⟨audit, mem_append_left _ inAudits, linked⟩
    cases mem_singleton.mp new
    have sameId : call.input.decisionId = prepared.row.decisionId := by
      rw [spec.row]
      rfl
    rcases audited call mem sameId with ⟨unsupplied, named⟩
    rcases linkedAudit_of_writesAudit spec unsupplied named with ⟨audit, wrote, linked⟩
    refine ⟨audit, mem_append_right _ ?_, linked⟩
    rw [wrote]
    exact mem_singleton.mpr rfl
  · intro audit inAudits
    rcases mem_append.mp inAudits with old | new
    · rcases recorded.decided audit old with ⟨row, inRows, linked⟩
      exact ⟨row, mem_append_left _ inRows, linked⟩
    · exact ⟨prepared.row, newRow, linked_of_mem spec new⟩

/-- Every call, committed or not, keeps what the history keeps in every home. -/
theorem recordCall_recorded (mem : call ∈ calls) (backed : call.input.UsesBacked digest)
    (recorded : ∀ home, Recorded formats digest calls home (store home)) (home : Home) :
    Recorded formats digest calls home (recordCall formats call store home) := by
  cases ran : recordProductPermissionDecisionInDb formats call.input call.allocated store with
  | mk result after =>
    have sameStore : recordCall formats call store = after := congrArg Prod.snd ran
    rw [sameStore]
    cases result with
    | error =>
      rw [record_error ran]
      exact recorded home
    | ok =>
      rcases record_ok ran with ⟨prepared, spec, remain, wrote⟩
      rw [wrote, Store.put]
      by_cases here : home = prepared.home
      · subst here
        rw [Function.update_self]
        exact recorded_append injective mem backed spec remain (recorded prepared.home)
      · rw [Function.update_of_ne here]
        exact recorded home

/-- Every home of every history satisfies the recorded invariant. -/
theorem recordCalls_recorded (backed : ∀ call ∈ calls, call.input.UsesBacked digest) (home : Home) :
    Recorded formats digest calls home
      (runCalls (recordCall formats) calls (fun _ => empty) home) := by
  have all : ∀ home, Recorded formats digest calls home
      (runCalls (recordCall formats) calls (fun _ => empty) home) := by
    apply runCalls_invariant
      (fun store : Store => ∀ home, Recorded formats digest calls home (store home))
    · intro call mem store recorded
      exact recordCall_recorded injective mem (backed call mem) recorded
    · intro home
      exact recorded_empty digest calls home
  exact all home

omit injective

/-- Over every history of calls against any policy statements: in each home, no
statement is consumed beyond its limit; a call that throws changes nothing; a
decision whose Audit is left to the recorder exists exactly when an Audit event
for it exists; and every Audit event is linked with its decision. -/
theorem recordedHistory_bounded_and_audited (formats : RecordFormats) (digest : PolicyDigest)
    (injective : Function.Injective digest.statement) (calls : List RecordCall)
    (backed : ∀ call ∈ calls, call.input.UsesBacked digest) :
    let store := runCalls (recordCall formats) calls (fun _ => empty)
    (∀ (home : Home) (statement : PolicyStatement) (limit : Nat),
      statement.fields.lifetime.uses = some limit ->
        (store home).consumptions ⟨statement.id, digest.statement statement⟩ <= limit) /\
    (∀ (call : RecordCall) (thrown : String) (after : Store),
      recordProductPermissionDecisionInDb formats call.input call.allocated store =
        (.error thrown, after) -> after = store) /\
    (∀ (home : Home) (decisionId : String), AuditedBy calls decisionId ->
      ((∃ row ∈ (store home).decisions, row.decisionId = decisionId) <->
        ∃ audit ∈ (store home).audits, audit.permissionDecisionId = some decisionId)) /\
    (∀ (home : Home), ∀ audit ∈ (store home).audits,
      ∃ row ∈ (store home).decisions, Linked row audit) := by
  intro store
  have recorded : ∀ home, Recorded formats digest calls home (store home) :=
    recordCalls_recorded injective backed
  refine ⟨?_, ?_, ?_, ?_⟩
  · intro home
    exact (recorded home).bounded
  · intro call thrown after failed
    exact record_error failed
  · intro home decisionId auditedBy
    constructor
    · intro present
      rcases present with ⟨row, inRows, named⟩
      subst named
      rcases (recorded home).audited row inRows auditedBy with ⟨audit, inAudits, linked⟩
      exact ⟨audit, inAudits, linked.2⟩
    · intro present
      rcases present with ⟨audit, inAudits, named⟩
      rcases (recorded home).decided audit inAudits with ⟨row, inRows, linked⟩
      refine ⟨row, inRows, ?_⟩
      exact Option.some.inj (linked.2.symm.trans named)
  · intro home
    exact (recorded home).decided

/-- Over every history of calls, however many effects are dispatched, a statement with
a limit is honoured for at most that many different decisions. -/
theorem honoured_decisions_within_limit (formats : RecordFormats) (digest : PolicyDigest)
    (injective : Function.Injective digest.statement) (calls : List RecordCall)
    (backed : ∀ call ∈ calls, call.input.UsesBacked digest) (workspaceId : String)
    (statement : PolicyStatement) (limit : Nat) (limited : statement.fields.lifetime.uses = some limit)
    (honoured : List PolicyUseDecision)
    (distinct : (honoured.map PolicyUseDecision.decisionId).Nodup)
    (used : ∀ expected ∈ honoured, policyStatementUsedByDecision formats workspaceId
      (runCalls (recordCall formats) calls (fun _ => empty) (.workspace workspaceId))
      ⟨statement.id, digest.statement statement⟩ expected = .ok true) : honoured.length <= limit :=
  (length_le_consumptions distinct used).trans
    ((recordCalls_recorded injective backed _).bounded statement limit limited)

/-! ## A grant for one use, and a call with its own Audit id -/

def officeSubject : PolicySubject where
  principal := ⟨.human, "alice"⟩
  onBehalfOf := none
  actor := ⟨.user, "alice", none⟩
  process := none
  credentialKind := .session
  responsibleHumanId := "alice"

/-- A permission that may be used once. -/
def onceGrant : PolicyStatement :=
  .permission
    { id := "once-grant", author := ⟨.human, "alice"⟩, authority := .human "alice"
      authoredAt := "2026-01-01"
      scope := ⟨[⟨.human, "alice"⟩], ["tool.use"], [.mcpTool "office" "files" "read"]⟩
      lifetime := ⟨⟨.workspace "office", "workspace", "office"⟩, none, some 1⟩
      state := .active, effect := .allow, grant := .ordinary }

/-- Formats that find no issue. -/
def acceptingFormats : RecordFormats where
  policyDecision := fun _ => none
  retained := fun _ => none
  isPolicyDigest := fun _ => true
  policyInvocation := fun _ => none
  reference := fun _ => none
  isRequestId := fun _ => true
  audit := fun _ => none

/-- A final allow in the office Workspace that consumes these uses. -/
def officeAllow (decisionId : String) (uses : List StatementUse) (auditEventId : Option String) :
    RecordProductPermissionDecisionInput where
  coreDb := false
  workspaceDb := some ⟨"office", .workspace⟩
  userDb := none
  decisionId := decisionId
  ownerScope := .workspace
  workspaceId := some "office"
  policyEngineVersion := "nanocore-policy:v1"
  policySnapshotId := "policy"
  action := "tool.use"
  contextSummary := none
  result := .allow
  reasonCode := "granted"
  enforcementPoint := "mcp.call@decide"
  mediation := some
    { operation := "mcp.call", stage := .decide, proposalDigest := "proposal"
      authorizationRevision := "revision", subject := officeSubject, role := .final
      binding := none, kernel := some (some ⟨.allow, "granted"⟩), invocations := []
      consumedStatements := uses.map StatementUse.statement }
  policyInvocation := none
  uses := if uses = [] then none else some uses
  requiredApprovalKind := none
  approvalId := none
  auditEventId := auditEventId
  auditActor := none
  createdAt := "2026-01-01"

def onceUse (digest : PolicyDigest) : StatementUse :=
  ⟨⟨onceGrant.id, digest.statement onceGrant⟩, 1⟩

/-- Two calls that both want the one use. -/
def contendedCalls (digest : PolicyDigest) : List RecordCall :=
  [⟨officeAllow "pd_1" [onceUse digest] none, "aud_1"⟩,
    ⟨officeAllow "pd_2" [onceUse digest] none, "aud_2"⟩]

private theorem contendedCalls_backed (digest : PolicyDigest) :
    ∀ call ∈ contendedCalls digest, call.input.UsesBacked digest := by
  intro call mem uses supplied use requested
  refine ⟨onceGrant, ?_⟩
  have shape : call.input.uses = some [onceUse digest] := by
    simp only [contendedCalls, mem_cons, not_mem_nil, or_false] at mem
    rcases mem with first | second
    · rw [first]
      rfl
    · rw [second]
      rfl
  rw [shape] at supplied
  cases supplied
  cases mem_singleton.mp requested
  exact ⟨rfl, rfl⟩

theorem contendedCalls_use_once :
    (∀ call ∈ contendedCalls textDigest, call.input.UsesBacked textDigest) /\
      (runCalls (recordCall acceptingFormats) (contendedCalls textDigest)
        (fun _ => empty) (.workspace "office")).consumptions
          ⟨onceGrant.id, textDigest.statement onceGrant⟩ <= 1 := by
  refine ⟨contendedCalls_backed textDigest, ?_⟩
  exact (recordedHistory_bounded_and_audited acceptingFormats textDigest
    textDigest_injective.statement (contendedCalls textDigest)
    (contendedCalls_backed textDigest)).1 (.workspace "office") onceGrant 1 rfl

/-- A collision-free digest that is short on the grant. -/
def onceDigest : PolicyDigest :=
  { textDigest with
    statement := fun statement => if statement = onceGrant then "once" else textCode statement }

theorem onceDigest_injective : Function.Injective onceDigest.statement := by
  have unary (statement : PolicyStatement) : textCode statement ≠ "once" := by
    intro same
    have letters := congrArg (fun text : String => 'o' ∈ text.toList) same
    simp [textCode, unaryText] at letters
  intro left right same
  simp only [onceDigest] at same
  split at same <;> split at same
  · simp_all
  · exact absurd same.symm (unary right)
  · exact absurd same (unary left)
  · exact textCode_injective same

theorem contended_grant_honoured_once :
    let tables := runCalls (recordCall acceptingFormats) (contendedCalls onceDigest)
      (fun _ => empty) (.workspace "office")
    (policyStatementUsedByDecision acceptingFormats "office" tables (onceUse onceDigest).statement
      ⟨"pd_1", "proposal", "policy", "revision"⟩).toOption = some true /\
    ∀ other, (policyStatementUsedByDecision acceptingFormats "office" tables
      (onceUse onceDigest).statement other) = .ok true -> other.decisionId = "pd_1" := by
  intro tables
  have first : (policyStatementUsedByDecision acceptingFormats "office" tables
      (onceUse onceDigest).statement ⟨"pd_1", "proposal", "policy", "revision"⟩).toOption =
        some true := by
    decide +kernel
  refine ⟨first, ?_⟩
  intro other used
  by_contra differs
  have bounded := honoured_decisions_within_limit acceptingFormats onceDigest onceDigest_injective
    (contendedCalls onceDigest) (contendedCalls_backed onceDigest) "office" onceGrant 1 rfl
    [other, ⟨"pd_1", "proposal", "policy", "revision"⟩] (by simpa using differs)
    (forall_mem_cons.mpr ⟨used, forall_mem_singleton.mpr (toOption_eq_some_iff.mp first)⟩)
  simp at bounded

/-- The use of the grant in another Workspace. -/
def labAllow : RecordProductPermissionDecisionInput :=
  { officeAllow "pd_2" [onceUse onceDigest] none with
    workspaceDb := some ⟨"lab", .workspace⟩, workspaceId := some "lab" }

/-- A call that brings an Audit id commits its decision and no Audit event, and the grant
for one use is consumed once in each of two Workspaces. -/
theorem suppliedAudit_commits_without_audit :
    (let result := recordProductPermissionDecisionInDb acceptingFormats
      (officeAllow "pd_1" [] (some "aud_elsewhere")) "aud_1" (fun _ => empty)
    result.1.isOk /\
      (result.2 (.workspace "office")).decisions.map (·.decisionId) = ["pd_1"] /\
      (result.2 (.workspace "office")).audits.length = 0) /\
    let store := runCalls (recordCall acceptingFormats)
      [⟨officeAllow "pd_1" [onceUse onceDigest] none, "aud_1"⟩, ⟨labAllow, "aud_2"⟩]
      (fun _ => empty)
    (store (.workspace "office")).consumptions (onceUse onceDigest).statement = 1 /\
      (store (.workspace "lab")).consumptions (onceUse onceDigest).statement = 1 := by
  decide +kernel

end Policy
end OpenKit
