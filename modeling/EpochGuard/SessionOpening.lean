import EpochGuard.Service

/-!
# Opening a session

What `createSession` makes of a store without business records: every check of
its captures passes, so the mutation is its writes alone.
-/

namespace EpochGuard

open Json Checked

namespace Service

open Fixtures

/-- Nothing is stored that a new session could collide with. -/
structure Pristine (database : EpochDatabase) : Prop where
  world : database.toWorld = emptyWorld
  queries : database.roleQuerySpecs = []
  assignments : database.runAssignments = []
  receipts : database.receipts = []
  sessions : database.sessions = []

section Captures

variable [Sha256]

/-- The version of the World that a query observes: the one in force at the head
and the only one of its revision, with a hash that is its own and a value of the
shape that the role asks for. -/
structure Observable (world : World) (spec : RoleQuerySpec) (version : ResourceVersion) :
    Prop where
  resource : resourceIdFor spec.source spec.entityKey = some version.resourceId
  current : world.resourceVersions.filter (coversAt version.resourceId.val world.headSeq) =
    [version]
  named : world.resourceVersions.filter
    (hasRevision version.resourceId.val version.sourceRevision) = [version]
  head : world.headSeq ≤ maxSafeInteger
  revision : version.sourceRevision ≤ maxSafeInteger
  started : version.validFromSeq ≤ world.headSeq
  unended : version.validUntilSeq = none
  verified : version.Verified
  value : ∃ observed, observationFor spec.role version.value.val = some observed

variable {world : World} {spec : RoleQuerySpec} {version : ResourceVersion}

/-- What a role observes is accepted by the schema. -/
theorem Observable.parses (h : Observable world spec version) : version.parses := by
  intro u hu
  simp [h.unended] at hu

theorem Observable.at_head (h : Observable world spec version) :
    resolveResourceVersionAt world version.resourceId.val world.headSeq = .ok (some version) := by
  simp [resolveResourceVersionAt, h.head, h.current, h.parses, h.verified]

/-- The version at the head is found again by its identity. -/
theorem Observable.identified (h : Observable world spec version) :
    resolveResourceVersionByIdentity world spec.source spec.entityKey version.sourceRevision =
      .ok (some version) := by
  rw [resolveResourceVersionByIdentity_eq_some]
  exact ⟨h.resource, rfl, h.named, h.revision, h.parses, h.verified⟩

/-- The receipt of an observation at the head. -/
def receiptFor (database : EpochDatabase) (assignment : RunAssignment) (spec : RoleQuerySpec)
    (version : ResourceVersion) (nonce : String) (issuedAt : Timestamp) : ObservationReceipt where
  receiptId := assignment.receiptId
  sessionId := assignment.sessionId
  actionHash := assignment.actionHash
  agentId := assignment.agentId
  runAssignmentId := assignment.assignmentId
  role := assignment.role
  source := spec.source
  entityKey := spec.entityKey
  queryHash := spec.queryHash
  sourceRevision := version.sourceRevision
  valueHash := version.valueHash
  observedAtSeq := database.headSeq
  nonce
  issuedAt

variable {database : EpochDatabase} {action : ActionIntent} {assignment : RunAssignment}
  {nonce : String} {issuedAt : Timestamp}

/-- An assignment to a query of its own action, of which nothing is stored but itself. -/
structure Unissued (database : EpochDatabase) (action : ActionIntent) (spec : RoleQuerySpec)
    (assignment : RunAssignment) (nonce : String) : Prop where
  intact : action.parses
  unused : assignment.status = .CREATED ∧ assignment.boundRunId = none ∧
    assignment.consumedByDecisionCertificateId = none
  session : assignment.sessionId = action.sessionId
  hash : assignment.actionHash = action.actionHash
  rebuilt : spec = buildRoleQuerySpec action.toActionCanonicalFields assignment.role
  query : assignment.queryHash = spec.queryHash
  stored : single? database.runAssignments (fun a => a.assignmentId = assignment.assignmentId) =
    some assignment
  queries : spec ∈ database.roleQuerySpecs ∧ ∀ q ∈ database.roleQuerySpecs,
    q.queryHash = spec.queryHash → canonicalJson q.toJson = canonicalJson spec.toJson
  fresh : ∀ r ∈ database.receipts, r.receiptId ≠ assignment.receiptId ∧
    r.runAssignmentId ≠ assignment.assignmentId ∧ r.nonce ≠ nonce
  length : 32 ≤ jsLength nonce ∧ jsLength nonce ≤ 512

theorem Unissued.role (h : Unissued database action spec assignment nonce) :
    spec.role = assignment.role := by
  rw [h.rebuilt, buildRoleQuerySpec_role]

/-- Every check of an issuance passes, and the receipt is appended. -/
theorem issue_succeeds (issuedAt : Timestamp)
    (h : Unissued database action spec assignment nonce)
    (hversion : Observable database.toWorld spec version) :
    ReceiptIssuer.issue database { action, assignment, querySpec := spec } nonce issuedAt =
      .ok ({ database with
          receipts := database.receipts ++
            [receiptFor database assignment spec version nonce issuedAt] },
        { receipt := receiptFor database assignment spec version nonce issuedAt
          resourceVersion := version }) := by
  have hqueries : (database.roleQuerySpecs.filter fun q => q.queryHash = spec.queryHash).forM
      (fun q => assertCanonicalEqual q.toJson spec.toJson
        "Stored RoleQuerySpec differs from the Receipt issuance input") = .ok () := by
    apply forM_eq_ok.mpr
    intro q hq
    obtain ⟨hmem, hhash⟩ := List.mem_filter.mp hq
    exact require_pos (h.queries.2 q hmem (of_decide_eq_true hhash))
  have hstored : (database.roleQuerySpecs.filter fun q => q.queryHash = spec.queryHash) ≠ [] := by
    apply List.ne_nil_of_mem
    exact List.mem_filter.mpr ⟨h.queries.1, by simp⟩
  have hfresh : ∀ r ∈ database.receipts, r.receiptId ≠ assignment.receiptId ∧
      r.runAssignmentId ≠ assignment.assignmentId :=
    fun r hr => ⟨(h.fresh r hr).1, (h.fresh r hr).2.1⟩
  have hreceipt : resolveReceiptResourceVersion database.toWorld
      (receiptFor database assignment spec version nonce issuedAt) = .ok version := by
    simp [resolveReceiptResourceVersion, receiptFor, hversion.identified, hversion.started,
      hversion.unended]
  unfold ReceiptIssuer.issue
  simp only [bind_eq_ok, require_eq_ok, orStop_eq_ok, pure_eq_ok, assertCanonicalEqual]
  refine ⟨(), h.intact, (), h.unused, (), ⟨h.session, h.hash⟩, (), ⟨h.role.symm, h.query⟩, (), ?_,
    assignment, h.stored, (), rfl, (), hstored, (), hqueries, (), hfresh, _, hversion.resource, _,
    hversion.at_head, version, rfl, (), fun r hr => (h.fresh r hr).2.2, (), h.length, version,
    hreceipt, rfl⟩
  rw [← h.rebuilt]

/-- The hash of the pack of a capture; `none` only for a World value of the wrong form. -/
def packHashFor (assignment : RunAssignment) (spec : RoleQuerySpec) (receipt : ObservationReceipt)
    (version : ResourceVersion) : Option Sha256Digest :=
  (buildPayload spec assignment receipt version).map fun payload =>
    sha256Digest (canonicalJson payload)

/-- The pack of a receipt that was issued just now. -/
theorem pack_succeeds (issuedAt : Timestamp)
    (h : Unissued database action spec assignment nonce)
    (hversion : Observable database.toWorld spec version)
    (hpath : evidencePackRelativePath assignment.sessionId assignment.role
      assignment.assignmentId = some assignment.evidencePackRelativePath) :
    ∃ built, buildCanonicalEvidencePack
        { action, querySpec := spec, assignment
          receipt := receiptFor database assignment spec version nonce issuedAt
          resourceVersion := version, worldHeadSeq := database.headSeq } = .ok built ∧
      packHashFor assignment spec (receiptFor database assignment spec version nonce issuedAt)
        version = some built.evidencePackHash := by
  obtain ⟨observed, hobserved⟩ := hversion.value
  have hinterval : database.headSeq ∈ version.interval := by
    have hmem : version ∈ database.resourceVersions.filter
        (coversAt version.resourceId.val database.headSeq) := by
      simp [hversion.current]
    simpa [coversAt] using (List.mem_filter.mp hmem).2
  have hbindings : assertBindings
      { action, querySpec := spec, assignment
        receipt := receiptFor database assignment spec version nonce issuedAt
        resourceVersion := version, worldHeadSeq := database.headSeq } = .ok () := by
    unfold assertBindings
    simp only [bind_eq_ok, require_eq_ok, orStop_eq_ok]
    refine ⟨(), hversion.head, (), ⟨h.session, h.hash⟩, (), ⟨h.role.symm, h.query⟩, (), ?_, (), ?_,
      version.resourceId, hversion.resource, (), ⟨rfl, rfl, rfl⟩, (), ⟨le_refl _, hinterval⟩, (),
      ?_, _, hpath, rfl⟩
    · rw [← h.rebuilt]
    · exact ⟨rfl, rfl, rfl, rfl, rfl, rfl, h.query.symm, rfl, rfl⟩
    · simp [hversion.unended]
  simp [buildCanonicalEvidencePack, h.intact, hversion.parses, hversion.verified, hbindings,
    packHashFor, buildPayload, hobserved]

/-! ### The steps of a fixture -/

/-- The version that a query finds at the head. -/
def versionAtHead (world : World) (spec : RoleQuerySpec) : Option ResourceVersion := do
  let resourceId ← resourceIdFor spec.source spec.entityKey
  world.resourceVersions.find? (coversAt resourceId.val world.headSeq)

theorem Observable.versionAtHead_eq (h : Observable world spec version) :
    versionAtHead world spec = some version := by
  have hfind := congrArg List.head? h.current
  rw [List.head?_filter] at hfind
  simp [versionAtHead, h.resource, hfind]

/-- The writes of `captureInitial`, without its checks. -/
def captured (prepared : Prepared) (ports : CreateSessionPorts) (fixture : EpochGuardFixture)
    (verified : PerRole RoleAgentRegistration) (role : Role) : Prepared :=
  let { database, session, packs } := prepared
  let ids := ports.captures.get role
  let spec := fixture.querySpec role
  match newAssignment session role (verified.get role) ports.runtimeLabel ports.timestamp
      ids.assignmentId ids.receiptId, versionAtHead database.toWorld spec with
  | .ok assignment, some version =>
      let named := { session with
        activeAttemptIds := session.activeAttemptIds.set role (some ids.attemptId) }
      let receipt := receiptFor database assignment spec version ids.nonce ids.issuedAt
      let packed := { assignment with
        evidencePackHash :=
          (packHashFor assignment spec receipt version).getD assignment.evidencePackHash }
      let appended := { database with
        runAssignments := database.runAssignments ++ [assignment]
        attempts := database.attempts ++ [initialAttemptForAssignment assignment ids.attemptId]
        receipts := database.receipts ++ [receipt] }
      { database := (appended.setSession named).setAssignment packed
        session := named
        packs := packs + 1 }
  | _, _ => prepared

/-- A capture does not touch the world. -/
theorem captured_world (prepared : Prepared) (ports : CreateSessionPorts)
    (fixture : EpochGuardFixture) (verified : PerRole RoleAgentRegistration) (role : Role) :
    (captured prepared ports fixture verified role).database.toWorld =
      prepared.database.toWorld := by
  obtain ⟨database, session, packs⟩ := prepared
  simp only [captured]
  split <;> rfl

/-- What the checks of the captures rely on, after those of some roles. -/
structure Capturing (request : CreateSessionRequest) (ports : CreateSessionPorts)
    (done : List Role) (prepared : Prepared) : Prop where
  scenario : prepared.session.scenarioId = request.scenarioId
  session : prepared.session.sessionId = ports.sessionId
  action : prepared.session.action.parses ∧ prepared.session.action.sessionId = ports.sessionId ∧
    prepared.session.action.toActionCanonicalFields =
      (getEpochGuardFixture request.scenarioId).action
  hash : prepared.session.actionHash = prepared.session.action.actionHash
  queries : prepared.database.roleQuerySpecs =
    ROLES.map (getEpochGuardFixture request.scenarioId).querySpec
  assignments : prepared.database.runAssignments.map RunAssignment.assignmentId =
    done.map fun role => (ports.captures.get role).assignmentId
  receipts : ∀ r ∈ prepared.database.receipts, ∃ role ∈ done,
    r.receiptId = (ports.captures.get role).receiptId ∧
      r.runAssignmentId = (ports.captures.get role).assignmentId ∧
      r.nonce = (ports.captures.get role).nonce
  packs : prepared.packs = done.length

/-- What the identifiers and nonces of a new session have to be. -/
structure CreateSessionPorts.Fit (ports : CreateSessionPorts) : Prop where
  session : isPathSegment ports.sessionId.val = true
  assignment : ∀ role, isPathSegment (ports.captures.get role).assignmentId.val = true
  nonce : ∀ role, 32 ≤ jsLength (ports.captures.get role).nonce ∧
    jsLength (ports.captures.get role).nonce ≤ 512
  apart : ∀ role other, role ≠ other →
    (ports.captures.get role).assignmentId ≠ (ports.captures.get other).assignmentId ∧
      (ports.captures.get role).receiptId ≠ (ports.captures.get other).receiptId ∧
      (ports.captures.get role).nonce ≠ (ports.captures.get other).nonce

variable {request : CreateSessionRequest} {ports : CreateSessionPorts} {done : List Role}
  {prepared : Prepared} {verified : PerRole RoleAgentRegistration} {role : Role}

/-- The queries of a fixture have a hash each. -/
def QueriesApart (fixture : EpochGuardFixture) : Prop :=
  ∀ role other, (fixture.querySpec role).queryHash = (fixture.querySpec other).queryHash →
    role = other

/-- What the captures read of a new assignment. -/
structure AssignedTo (session : EpochSession) (role : Role) (ids : CaptureIds)
    (assignment : RunAssignment) : Prop where
  path : evidencePackRelativePath assignment.sessionId assignment.role assignment.assignmentId =
    some assignment.evidencePackRelativePath
  unused : assignment.status = .CREATED ∧ assignment.boundRunId = none ∧
    assignment.consumedByDecisionCertificateId = none
  bound : assignment.sessionId = session.sessionId ∧ assignment.actionHash = session.actionHash
  owner : assignment.role = role
  named : assignment.assignmentId = ids.assignmentId ∧ assignment.receiptId = ids.receiptId
  query : assignment.queryHash =
    ((getEpochGuardFixture session.scenarioId).querySpec role).queryHash

/-- The assignment of a capture passes its checks, under the identifiers of its
role. -/
theorem newAssignment_succeeds (verified : PerRole RoleAgentRegistration) (role : Role)
    (hopen : Capturing request ports done prepared) (hfit : ports.Fit) :
    ∃ assignment, newAssignment prepared.session role (verified.get role) ports.runtimeLabel
        ports.timestamp (ports.captures.get role).assignmentId
        (ports.captures.get role).receiptId = .ok assignment ∧
      AssignedTo prepared.session role (ports.captures.get role) assignment := by
  have hpath : ∃ path, evidencePackRelativePath prepared.session.sessionId role
      (ports.captures.get role).assignmentId = some path := by
    simp [evidencePackRelativePath, hopen.session, hfit.session, hfit.assignment role]
  obtain ⟨path, hpath⟩ := hpath
  simp only [newAssignment, hpath, orStop]
  refine ⟨_, rfl, ?_⟩
  exact ⟨hpath, ⟨rfl, rfl, rfl⟩, ⟨rfl, rfl⟩, rfl, ⟨rfl, rfl⟩, rfl⟩

/-- A capture of a role that has none passes its checks. -/
theorem capture_succeeds (verified : PerRole RoleAgentRegistration) {step : FixtureCaptureStep}
    (hqueries : QueriesApart (getEpochGuardFixture request.scenarioId)) (hfit : ports.Fit)
    (hopen : Capturing request ports done prepared) (hrole : step.role ∉ done)
    (hhead : prepared.database.headSeq = step.expectedHeadSeq)
    (hversion : Observable prepared.database.toWorld
      ((getEpochGuardFixture request.scenarioId).querySpec step.role) version) :
    captureInitial prepared ports (getEpochGuardFixture request.scenarioId) verified step =
        .ok (captured prepared ports (getEpochGuardFixture request.scenarioId) verified
          step.role) ∧
      Capturing request ports (done ++ [step.role])
        (captured prepared ports (getEpochGuardFixture request.scenarioId) verified
          step.role) := by
  obtain ⟨assignment, hnew, hassigned⟩ :=
    newAssignment_succeeds verified step.role hopen hfit
  obtain ⟨database, session, packs⟩ := prepared
  have hspec : ∀ role, ((getEpochGuardFixture request.scenarioId).querySpec role) =
      buildRoleQuerySpec session.action.toActionCanonicalFields role := by
    intro role
    rw [hopen.action.2.2]
    rfl
  -- the captures so far are of other roles, and so under other identifiers
  have hapart : ∀ other ∈ done, (ports.captures.get other).assignmentId ≠ assignment.assignmentId ∧
      (ports.captures.get other).receiptId ≠ assignment.receiptId ∧
      (ports.captures.get other).nonce ≠ (ports.captures.get step.role).nonce := by
    intro other hother
    rw [hassigned.named.1, hassigned.named.2]
    exact hfit.apart other step.role fun h => hrole (h ▸ hother)
  have hstored : single? (database.runAssignments ++ [assignment])
      (fun a => a.assignmentId = assignment.assignmentId) = some assignment := by
    have hnone : database.runAssignments.filter
        (fun a => a.assignmentId = assignment.assignmentId) = [] := by
      rw [List.filter_eq_nil_iff]
      intro a ha
      have hmem : a.assignmentId ∈ done.map fun role =>
          (ports.captures.get role).assignmentId := by
        rw [← hopen.assignments]
        exact List.mem_map_of_mem ha
      obtain ⟨other, hother, heq⟩ := List.mem_map.mp hmem
      simp [← heq, (hapart other hother).1]
    rw [single?_eq_some, List.filter_append, hnone]
    simp
  -- nothing has been issued for the new assignment, whatever else of the store has
  -- changed
  have hunissued : ∀ changed : EpochDatabase,
      changed.runAssignments = database.runAssignments ++ [assignment] →
      changed.roleQuerySpecs = database.roleQuerySpecs →
      changed.receipts = database.receipts →
      Unissued changed session.action
        ((getEpochGuardFixture request.scenarioId).querySpec step.role) assignment
        (ports.captures.get step.role).nonce := by
    intro changed hassignments hspecs hreceipts
    refine ⟨hopen.action.1, hassigned.unused, ?_, ?_, ?_, ?_, ?_, ?_, ?_, hfit.nonce step.role⟩
    · rw [hassigned.bound.1, hopen.session, hopen.action.2.1]
    · rw [hassigned.bound.2, hopen.hash]
    · rw [hspec, hassigned.owner]
    · rw [hassigned.query, hopen.scenario]
    · rw [hassignments, hstored]
    · rw [hspecs, hopen.queries]
      refine ⟨List.mem_map_of_mem (mem_ROLES _), fun q hq hhash => ?_⟩
      obtain ⟨other, -, rfl⟩ := List.mem_map.mp hq
      rw [hqueries other step.role hhash]
    · rw [hreceipts]
      intro r hr
      obtain ⟨other, hother, hid, hassignment, hnonce⟩ := hopen.receipts r hr
      rw [hid, hassignment, hnonce]
      exact ⟨(hapart other hother).2.1, (hapart other hother).1, (hapart other hother).2.2⟩
  -- the session and the store as `captureInitial` has them before it issues the
  -- receipt
  let named := { session with
    activeAttemptIds := session.activeAttemptIds.set step.role
      (some (ports.captures.get step.role).attemptId) }
  let appended := { database with
    runAssignments := database.runAssignments ++ [assignment]
    attempts := database.attempts ++
      [initialAttemptForAssignment assignment (ports.captures.get step.role).attemptId] }
  have hready := hunissued (appended.setSession named) rfl rfl rfl
  obtain ⟨built, hbuilt, hhash⟩ := pack_succeeds (ports.captures.get step.role).issuedAt hready
    hversion hassigned.path
  have hissue := issue_succeeds (ports.captures.get step.role).issuedAt hready hversion
  have hcaptured : captured ⟨database, session, packs⟩ ports
      (getEpochGuardFixture request.scenarioId) verified step.role =
        { database := ({ appended.setSession named with
            receipts := database.receipts ++ [receiptFor database assignment
              ((getEpochGuardFixture request.scenarioId).querySpec step.role) version
              (ports.captures.get step.role).nonce
              (ports.captures.get step.role).issuedAt] }).setAssignment
                { assignment with evidencePackHash := built.evidencePackHash }
          session := named
          packs := packs + 1 } := by
    have hpacked : packHashFor assignment
        ((getEpochGuardFixture request.scenarioId).querySpec step.role)
        (receiptFor database assignment
          ((getEpochGuardFixture request.scenarioId).querySpec step.role) version
          (ports.captures.get step.role).nonce (ports.captures.get step.role).issuedAt)
        version = some built.evidencePackHash := hhash
    simp only [captured, hnew, hversion.versionAtHead_eq, hpacked]
    rfl
  rw [hcaptured]
  constructor
  · simp only [captureInitial, issueAndPack, bind_eq_ok, require_eq_ok, pure_eq_ok, Prod.exists]
    exact ⟨(), hhead, assignment, hnew, _, ⟨_, _, hissue, built, hbuilt, rfl⟩, rfl⟩
  · refine ⟨hopen.scenario, hopen.session, hopen.action, hopen.hash, hopen.queries, ?_, ?_, ?_⟩
    · have hassignments : database.runAssignments.map RunAssignment.assignmentId =
          done.map fun role => (ports.captures.get role).assignmentId := hopen.assignments
      show (modifyWhere _ _ (database.runAssignments ++ [assignment])).map _ = _
      rw [map_modifyWhere fun a _ ha => (of_decide_eq_true ha).symm, List.map_append,
        hassignments, List.map_append, List.map_singleton, List.map_singleton, hassigned.named.1]
    · intro r hr
      rcases List.mem_append.mp hr with hmem | hmem
      · obtain ⟨other, hother, hreceipt⟩ := hopen.receipts r hmem
        exact ⟨other, List.mem_append_left _ hother, hreceipt⟩
      · obtain rfl := List.mem_singleton.mp hmem
        exact ⟨step.role, by simp, hassigned.named.2, hassigned.named.1, rfl⟩
    · have hpacks : packs = done.length := hopen.packs
      show packs + 1 = (done ++ [step.role]).length
      rw [List.length_append, List.length_singleton, hpacks]

/-- The writes of one step of a fixture, without its checks. -/
def uncheckedStep (ports : CreateSessionPorts) (fixture : EpochGuardFixture)
    (verified : PerRole RoleAgentRegistration) (prepared : Prepared) :
    FixtureInitialStep → Prepared
  | .commit step =>
      { prepared with
        database := { prepared.database with
          toWorld := (applyFixtureCommit prepared.database.toWorld step).toOption.getD
            prepared.database.toWorld } }
  | .capture step => captured prepared ports fixture verified step.role

/-- The steps find in the World what they ask for: each commit succeeds, and
each capture finds its head and something to observe. -/
def Plays (fixture : EpochGuardFixture) : World → List FixtureInitialStep → Prop
  | _, [] => True
  | world, .commit step :: rest =>
      ∃ next, applyFixtureCommit world step = .ok next ∧ Plays fixture next rest
  | world, .capture step :: rest =>
      world.headSeq = step.expectedHeadSeq ∧
        (∃ version, Observable world (fixture.querySpec step.role) version) ∧
        Plays fixture world rest

/-- The roles of the captures, in their order. -/
def capturedRoles (steps : List FixtureInitialStep) : List Role :=
  steps.filterMap fun
    | .commit _ => none
    | .capture step => some step.role

/-- All steps of a fixture succeed, from a store in which each of its captures
finds the world that it asks for. -/
theorem steps_succeed (verified : PerRole RoleAgentRegistration)
    (hqueries : QueriesApart (getEpochGuardFixture request.scenarioId)) (hfit : ports.Fit)
    {steps : List FixtureInitialStep}
    (hopen : Capturing request ports done prepared)
    (hplays : Plays (getEpochGuardFixture request.scenarioId) prepared.database.toWorld steps)
    (hroles : (done ++ capturedRoles steps).Nodup) :
    steps.foldlM (initialStep ports (getEpochGuardFixture request.scenarioId) verified) prepared =
        .ok (steps.foldl (uncheckedStep ports (getEpochGuardFixture request.scenarioId) verified)
          prepared) ∧
      Capturing request ports (done ++ capturedRoles steps)
        (steps.foldl (uncheckedStep ports (getEpochGuardFixture request.scenarioId) verified)
          prepared) := by
  induction steps generalizing done prepared with
  | nil => exact ⟨rfl, by simpa [capturedRoles] using hopen⟩
  | cons step rest ih =>
    cases step with
    | commit step =>
      obtain ⟨next, hnext, hrest⟩ := hplays
      -- a commit changes the world alone
      have hopen' : Capturing request ports done
          (uncheckedStep ports (getEpochGuardFixture request.scenarioId) verified prepared
            (.commit step)) :=
        ⟨hopen.scenario, hopen.session, hopen.action, hopen.hash, hopen.queries,
          hopen.assignments, hopen.receipts, hopen.packs⟩
      have hworld : (uncheckedStep ports (getEpochGuardFixture request.scenarioId) verified prepared
          (.commit step)).database.toWorld = next := by
        simp [uncheckedStep, hnext, Except.toOption]
      obtain ⟨hrun, hlast⟩ := ih hopen' (hworld.symm ▸ hrest) hroles
      refine ⟨?_, hlast⟩
      rw [List.foldlM_cons, List.foldl_cons, ← hrun]
      simp [initialStep, uncheckedStep, hnext, Except.toOption, Bind.bind, Except.bind,
        Pure.pure, Except.pure]
    | capture step =>
      obtain ⟨hhead, ⟨version, hversion⟩, hrest⟩ := hplays
      have hroles' : ((done ++ [step.role]) ++ capturedRoles rest).Nodup := by
        rw [List.append_assoc]
        exact hroles
      -- each role is captured once
      have hrole : step.role ∉ done := by
        intro hmem
        have hdisjoint := List.disjoint_of_nodup_append hroles
        exact hdisjoint hmem List.mem_cons_self
      obtain ⟨hcapture, hopen'⟩ := capture_succeeds verified hqueries hfit hopen
        hrole hhead hversion
      have hworld := captured_world prepared ports (getEpochGuardFixture request.scenarioId)
        verified step.role
      obtain ⟨hrun, hlast⟩ := ih hopen' (hworld.symm ▸ hrest) hroles'
      rw [List.append_assoc] at hlast
      refine ⟨?_, hlast⟩
      rw [List.foldlM_cons, List.foldl_cons]
      show (captureInitial prepared ports _ verified step >>= _) = _
      rw [hcapture]
      exact hrun

/-! ### The mutation -/

/-- Three queries that are stored in a store without any. -/
theorem storeQuerySpecs_succeed {fixture : EpochGuardFixture} {database : EpochDatabase}
    (hqueries : QueriesApart fixture) (hnone : database.roleQuerySpecs = []) :
    ROLES.foldlM (fun db role => storeQuerySpec db (fixture.querySpec role)) database =
      .ok { database with roleQuerySpecs := ROLES.map fixture.querySpec } := by
  have hapart : ∀ role other, role ≠ other →
      ¬(fixture.querySpec role).queryHash = (fixture.querySpec other).queryHash :=
    fun role other hne heq => hne (hqueries role other heq)
  simp [ROLES, List.foldlM_cons, storeQuerySpec, hnone, hapart, Bind.bind, Except.bind, Pure.pure,
    Except.pure]

/-- The session of a request, before its captures. -/
def openingSession (request : CreateSessionRequest) (ports : CreateSessionPorts) : EpochSession :=
  let fixture := getEpochGuardFixture request.scenarioId
  newSession request
    { fixture.action with
      actionId := ports.actionId
      sessionId := ports.sessionId
      actionHash := actionHash fixture.action
      idempotencyKey := idempotencyKeyFor ports.sessionId (actionHash fixture.action) }
    ports.sessionId ports.timestamp

/-- The store and the new session before the captures. -/
def starting (database : EpochDatabase) (request : CreateSessionRequest)
    (ports : CreateSessionPorts) : Prepared :=
  let fixture := getEpochGuardFixture request.scenarioId
  let session := openingSession request ports
  { database := { database with
      toWorld := { emptyWorld with headSeq := fixture.bootstrapHeadSeq }
      roleQuerySpecs := ROLES.map fixture.querySpec
      sessions := database.sessions ++ [session] }
    session
    packs := 0 }

/-- The writes of `createSession` in a store without business records. -/
def opened (database : EpochDatabase) (request : CreateSessionRequest)
    (verified : PerRole RoleAgentRegistration) (ports : CreateSessionPorts) : EpochDatabase :=
  let fixture := getEpochGuardFixture request.scenarioId
  let prepared := fixture.initialSteps.foldl (uncheckedStep ports fixture verified)
    (starting database request ports)
  appendEvent prepared.database prepared.session "SESSION_STATE" "DISPATCHING" [] ports.event

omit [Sha256] in
theorem jsLength_le (s : String) : jsLength s ≤ 2 * s.length := by
  have hunits : ∀ c : Char, (charUnits c).length ≤ 2 := by
    intro c
    unfold charUnits
    split <;> simp
  unfold jsLength
  rw [js_eq_flatMap, List.length_flatMap, ← String.length_toList]
  generalize s.toList = cs
  induction cs with
  | nil => simp
  | cons c rest ih =>
    have hc := hunits c
    simp only [List.map_cons, List.sum_cons, List.length_cons]
    omega

omit [Sha256] in
theorem jsLength_idempotencyKeyFor (sessionId : OpaqueId) (hash : Sha256Digest) :
    jsLength (idempotencyKeyFor sessionId hash) ≤ 768 := by
  have hid : sessionId.val.length ≤ 256 := by
    have hok := sessionId.ok
    rw [← String.length_toList]
    unfold isOpaqueId isOpaqueIdText at hok
    split at hok
    · exact absurd hok (by simp)
    · rename_i heq
      rw [heq]
      simp only [Bool.and_eq_true, decide_eq_true_eq] at hok
      simp only [List.length_cons]
      omega
  have htag : "sha256:".toList.length = 7 := rfl
  have hhash : hash.val.length = 71 := by
    unfold Sha256Digest.val Sha256Digest.chars
    rw [String.length_ofList, List.length_append, hash.ok.1, htag]
  have hbound := jsLength_le (idempotencyKeyFor sessionId hash)
  rw [idempotencyKeyFor, String.length_append, String.length_append, hhash] at hbound
  have hcolon : ":".length = 1 := rfl
  rw [idempotencyKeyFor]
  omega

/-- The session that is opened is accepted by the schema of the store. -/
theorem openingSession_parses (request : CreateSessionRequest) (ports : CreateSessionPorts) :
    (openingSession request ports).action.parses := by
  refine ⟨?_, jsLength_idempotencyKeyFor _ _, rfl, rfl⟩
  show 0 < (getEpochGuardFixture request.scenarioId).action.requestedUnits
  cases request.scenarioId <;> decide

section Whole

variable {database : EpochDatabase} (hpristine : Pristine database) (hfit : ports.Fit)
  (hqueries : QueriesApart (getEpochGuardFixture request.scenarioId))
  (hplays : Plays (getEpochGuardFixture request.scenarioId)
    { emptyWorld with headSeq := (getEpochGuardFixture request.scenarioId).bootstrapHeadSeq }
    (getEpochGuardFixture request.scenarioId).initialSteps)
  (hroles : capturedRoles (getEpochGuardFixture request.scenarioId).initialSteps = ROLES)

include hpristine hfit hqueries hplays hroles

/-- The steps of the fixture pass, from the new session on. -/
theorem openingSteps_succeed (verified : PerRole RoleAgentRegistration) :
    (getEpochGuardFixture request.scenarioId).initialSteps.foldlM
        (initialStep ports (getEpochGuardFixture request.scenarioId) verified)
        (starting database request ports) =
      .ok ((getEpochGuardFixture request.scenarioId).initialSteps.foldl
        (uncheckedStep ports (getEpochGuardFixture request.scenarioId) verified)
        (starting database request ports)) ∧
    Capturing request ports ROLES ((getEpochGuardFixture request.scenarioId).initialSteps.foldl
      (uncheckedStep ports (getEpochGuardFixture request.scenarioId) verified)
      (starting database request ports)) := by
  have hopen : Capturing request ports [] (starting database request ports) := by
    refine ⟨rfl, rfl, ⟨openingSession_parses request ports, rfl, rfl⟩, rfl, rfl, ?_, ?_, rfl⟩
    · simp [starting, hpristine.assignments]
    · simp [starting, hpristine.receipts]
  obtain ⟨hsteps, hlast⟩ := steps_succeed verified hqueries hfit hopen hplays
    (by rw [List.nil_append, hroles]; decide)
  rw [List.nil_append, hroles] at hlast
  exact ⟨hsteps, hlast⟩

/-- With nothing stored that could collide, every check of `createSession` passes. -/
theorem createSession_of_plays :
    createSession database request verified ports =
      .ok (opened database request verified ports) := by
  have haction : buildFixtureActionIntent request.scenarioId ports.sessionId ports.actionId =
      .ok (openingSession request ports).action := by
    simp only [buildFixtureActionIntent, bind_eq_ok, require_eq_ok, pure_eq_ok]
    exact ⟨(), openingSession_parses request ports, rfl⟩
  have hworld : initializeFixtureWorld database.toWorld
      (getEpochGuardFixture request.scenarioId) =
        .ok { emptyWorld with
          headSeq := (getEpochGuardFixture request.scenarioId).bootstrapHeadSeq } := by
    rw [hpristine.world]
    rfl
  obtain ⟨hsteps, hlast⟩ :=
    openingSteps_succeed hpristine hfit hqueries hplays hroles verified
  have hnone : database.sessions.find? (fun s =>
      !isTerminalSession s.state && s.frozenAssignments = request.assignments) = none := by
    simp [hpristine.sessions]
  have hfresh : database.headSeq = 0 ∧ database.worldCommits = [] ∧
      database.resourceVersions = [] := by
    rw [hpristine.world]
    exact ⟨rfl, rfl, rfl⟩
  unfold createSession
  simp only [hnone, bind_eq_ok, require_eq_ok, mapError_eq_ok, pure_eq_ok]
  refine ⟨(), hfresh, _, ⟨_, hworld, _, haction, _, storeQuerySpecs_succeed hqueries ?_, ?_⟩, (),
    hlast.packs, rfl⟩
  · exact hpristine.queries
  · exact hsteps

end Whole

/-! ### What the schema asks of the result -/

/-- What the schema asks of a session that opens, its World apart. -/
structure Readable (prepared : Prepared) : Prop where
  action : prepared.session.action.parses
  sessions : ∀ s ∈ prepared.database.sessions, s.action.parses
  attempts : ∀ t ∈ prepared.database.attempts, t.parses

omit [Sha256] in
theorem initialAttemptForAssignment_parses (assignment : RunAssignment) (attemptId : OpaqueId) :
    (initialAttemptForAssignment assignment attemptId).parses := by
  refine ⟨⟨?_, rfl⟩, ?_⟩
  · intro s hs
    cases hs
  · intro t ht
    cases ht

theorem Readable.captured (h : Readable prepared) (ports : CreateSessionPorts)
    (fixture : EpochGuardFixture) (verified : PerRole RoleAgentRegistration) (role : Role) :
    Readable (captured prepared ports fixture verified role) := by
  obtain ⟨database, session, packs⟩ := prepared
  simp only [Service.captured]
  split
  · refine ⟨h.action, ?_, ?_⟩
    · intro s hs
      rcases mem_modifyWhere.mp hs with ⟨_, -, -, rfl⟩ | ⟨hold, -⟩
      · exact h.action
      · exact h.sessions s hold
    · intro t ht
      rcases List.mem_append.mp ht with hold | hnew
      · exact h.attempts t hold
      · rw [List.mem_singleton.mp hnew]
        exact initialAttemptForAssignment_parses _ _
  · exact h

theorem Readable.steps (h : Readable prepared) (ports : CreateSessionPorts)
    (fixture : EpochGuardFixture) (verified : PerRole RoleAgentRegistration)
    (steps : List FixtureInitialStep) :
    Readable (steps.foldl (uncheckedStep ports fixture verified) prepared) := by
  induction steps generalizing prepared with
  | nil => exact h
  | cons step rest ih =>
    apply ih
    cases step with
    | commit step => exact ⟨h.action, h.sessions, h.attempts⟩
    | capture step => exact h.captured ports fixture verified step.role

/-- Each assignment has one receipt. -/
def Receipted (database : EpochDatabase) : Prop :=
  database.receipts.map ObservationReceipt.runAssignmentId =
    database.runAssignments.map RunAssignment.assignmentId

theorem receipted_captured (h : Receipted prepared.database) (ports : CreateSessionPorts)
    (fixture : EpochGuardFixture) (verified : PerRole RoleAgentRegistration) (role : Role) :
    Receipted (captured prepared ports fixture verified role).database := by
  obtain ⟨database, session, packs⟩ := prepared
  simp only [captured]
  split
  · rename_i assignment version hassignment hversion
    have hids : ∀ packed : RunAssignment, packed.assignmentId = assignment.assignmentId →
        (modifyWhere (fun a => a.assignmentId = packed.assignmentId) (fun _ => packed)
          (database.runAssignments ++ [assignment])).map RunAssignment.assignmentId =
            (database.runAssignments ++ [assignment]).map RunAssignment.assignmentId := by
      intro packed hid
      exact map_modifyWhere fun a _ ha => (of_decide_eq_true ha).symm
    refine Eq.trans ?_ (hids _ ?_).symm
    · show (database.receipts ++ [_]).map _ = _
      rw [List.map_append, List.map_append, h]
      rfl
    · rfl
  · exact h

theorem receipted_steps (h : Receipted prepared.database) (ports : CreateSessionPorts)
    (fixture : EpochGuardFixture) (verified : PerRole RoleAgentRegistration)
    (steps : List FixtureInitialStep) :
    Receipted (steps.foldl (uncheckedStep ports fixture verified) prepared).database := by
  induction steps generalizing prepared with
  | nil => exact h
  | cons step rest ih =>
    apply ih
    cases step with
    | commit step => exact h
    | capture step => exact receipted_captured h ports fixture verified step.role

/-- The World after steps whose commits go through. -/
def playedWorld : World → List FixtureInitialStep → World
  | world, [] => world
  | world, .commit step :: rest =>
      playedWorld ((applyFixtureCommit world step).toOption.getD world) rest
  | world, .capture _ :: rest => playedWorld world rest

theorem steps_world (prepared : Prepared) (ports : CreateSessionPorts)
    (fixture : EpochGuardFixture) (verified : PerRole RoleAgentRegistration)
    (steps : List FixtureInitialStep) :
    (steps.foldl (uncheckedStep ports fixture verified) prepared).database.toWorld =
      playedWorld prepared.database.toWorld steps := by
  induction steps generalizing prepared with
  | nil => rfl
  | cons step rest ih =>
    rw [List.foldl_cons, ih]
    cases step with
    | commit step => rfl
    | capture step =>
      simp only [uncheckedStep, playedWorld]
      rw [captured_world]

theorem opened_parses_of_played {database : EpochDatabase} (hparses : database.parses)
    (hworld : ∀ v ∈ (playedWorld
      { emptyWorld with headSeq := (getEpochGuardFixture request.scenarioId).bootstrapHeadSeq }
      (getEpochGuardFixture request.scenarioId).initialSteps).resourceVersions, v.parses) :
    (opened database request verified ports).parses := by
  have hstart : Readable (starting database request ports) := by
    refine ⟨openingSession_parses request ports, ?_, hparses.2.1⟩
    intro s hs
    rcases List.mem_append.mp hs with hold | hnew
    · exact hparses.2.2 s hold
    · rw [List.mem_singleton.mp hnew]
      exact openingSession_parses request ports
  have hlast := hstart.steps ports (getEpochGuardFixture request.scenarioId) verified
    (getEpochGuardFixture request.scenarioId).initialSteps
  refine ⟨?_, hlast.attempts, hlast.sessions⟩
  intro v hv
  have hmem : v ∈ ((getEpochGuardFixture request.scenarioId).initialSteps.foldl
      (uncheckedStep ports (getEpochGuardFixture request.scenarioId) verified)
      (starting database request ports)).database.toWorld.resourceVersions := hv
  rw [steps_world] at hmem
  exact hworld v hmem

end Captures

/-! ## The two fixtures -/

section Fixed

attribute [local instance] Sha256.standard

/-- The checks of `Observable`, on the open versions of a World. -/
def observes (world : World) (spec : RoleQuerySpec) (version : ResourceVersion) : Bool :=
  resourceIdFor spec.source spec.entityKey = some version.resourceId &&
    coversAt version.resourceId.val world.headSeq version &&
    (world.resourceVersions.filter
      (coversAt version.resourceId.val world.headSeq)).length = 1 &&
    (world.resourceVersions.filter
      (hasRevision version.resourceId.val version.sourceRevision)).length = 1 &&
    world.headSeq ≤ maxSafeInteger && version.sourceRevision ≤ maxSafeInteger &&
    version.validFromSeq ≤ world.headSeq && version.validUntilSeq = none && version.Verified &&
    (observationFor spec.role version.value.val).isSome

theorem filter_eq_singleton {α : Type} {p : α → Bool} {l : List α} {a : α} (ha : a ∈ l)
    (hp : p a = true) (h : (l.filter p).length = 1) : l.filter p = [a] := by
  obtain ⟨b, hb⟩ := List.length_eq_one_iff.mp h
  have hmem : a ∈ l.filter p := List.mem_filter.mpr ⟨ha, hp⟩
  rw [hb] at hmem ⊢
  rw [List.mem_singleton.mp hmem]

theorem observable_of_observes {world : World} {spec : RoleQuerySpec} {version : ResourceVersion}
    (hmem : version ∈ world.resourceVersions) (h : observes world spec version = true) :
    Observable world spec version := by
  simp only [observes, Bool.and_eq_true, decide_eq_true_eq, Option.isSome_iff_exists] at h
  obtain ⟨⟨⟨⟨⟨⟨⟨⟨⟨hresource, hcovers⟩, hcurrent⟩, hnamed⟩, hhead⟩, hrevision⟩, hstarted⟩,
    hunended⟩, hverified⟩, hvalue⟩ := h
  exact ⟨hresource, filter_eq_singleton hmem hcovers hcurrent,
    filter_eq_singleton hmem (by simp [hasRevision]) hnamed, hhead, hrevision, hstarted, hunended,
    hverified, hvalue⟩

def plays (fixture : EpochGuardFixture) : World → List FixtureInitialStep → Bool
  | _, [] => true
  | world, .commit step :: rest =>
      match applyFixtureCommit world step with
      | .ok next => plays fixture next rest
      | .error _ => false
  | world, .capture step :: rest =>
      world.headSeq = step.expectedHeadSeq &&
        world.resourceVersions.any (observes world (fixture.querySpec step.role)) &&
        plays fixture world rest

theorem plays_of_true {fixture : EpochGuardFixture} {world : World}
    {steps : List FixtureInitialStep} (h : plays fixture world steps = true) :
    Plays fixture world steps := by
  induction steps generalizing world with
  | nil => trivial
  | cons step rest ih =>
    cases step with
    | commit step =>
      simp only [plays] at h
      split at h
      · rename_i next hnext
        exact ⟨next, hnext, ih h⟩
      · exact absurd h (by simp)
    | capture step =>
      simp only [plays, Bool.and_eq_true, decide_eq_true_eq, List.any_eq_true] at h
      obtain ⟨⟨hhead, version, hmem, hobserves⟩, hrest⟩ := h
      exact ⟨hhead, ⟨version, observable_of_observes hmem hobserves⟩, ih hrest⟩

/-- No two roles of a fixture ask the same question. -/
theorem queriesApart (scenarioId : ScenarioId) :
    QueriesApart (getEpochGuardFixture scenarioId) := by
  have hnormal : ∀ role other, (normalFixture.querySpec role).queryHash =
      (normalFixture.querySpec other).queryHash → role = other := by decide +kernel
  cases scenarioId with
  | normalWorldV1 => exact hnormal
  | impossibleCollageV1 => exact hnormal

/-- The commits of a fixture bring the world to each head that its captures ask
for. -/
theorem fixture_plays (scenarioId : ScenarioId) :
    plays (getEpochGuardFixture scenarioId)
      { emptyWorld with headSeq := (getEpochGuardFixture scenarioId).bootstrapHeadSeq }
      (getEpochGuardFixture scenarioId).initialSteps = true := by
  cases scenarioId <;> decide +kernel

theorem capturedRoles_eq (scenarioId : ScenarioId) :
    capturedRoles (getEpochGuardFixture scenarioId).initialSteps = ROLES := by
  cases scenarioId <;> rfl

theorem playedWorld_parses (scenarioId : ScenarioId) :
    ∀ v ∈ (playedWorld
      { emptyWorld with headSeq := (getEpochGuardFixture scenarioId).bootstrapHeadSeq }
      (getEpochGuardFixture scenarioId).initialSteps).resourceVersions, v.parses := by
  cases scenarioId <;> decide +kernel

variable {database : EpochDatabase} {request : CreateSessionRequest}
  {verified : PerRole RoleAgentRegistration} {ports : CreateSessionPorts}

/-- Every check of `createSession` passes in a store without business records. -/
theorem createSession_eq (hpristine : Pristine database) (hfit : ports.Fit) :
    createSession database request verified ports =
      .ok (opened database request verified ports) :=
  createSession_of_plays hpristine hfit (queriesApart _) (plays_of_true (fixture_plays _))
    (capturedRoles_eq _)

/-- The opened session has one assignment for each role, in the order of the
roles. -/
theorem opened_assignments (hpristine : Pristine database) (hfit : ports.Fit) :
    (opened database request verified ports).runAssignments.map RunAssignment.assignmentId =
      ROLES.map fun role => (ports.captures.get role).assignmentId :=
  (openingSteps_succeed hpristine hfit (queriesApart _) (plays_of_true (fixture_plays _))
    (capturedRoles_eq _) verified).2.assignments

theorem opened_receipts (hpristine : Pristine database) :
    Receipted (opened database request verified ports) := by
  refine receipted_steps ?_ ports (getEpochGuardFixture request.scenarioId) verified
    (getEpochGuardFixture request.scenarioId).initialSteps
  simp [Receipted, starting, hpristine.receipts, hpristine.assignments]

theorem opened_parses (hparses : database.parses) :
    (opened database request verified ports).parses :=
  opened_parses_of_played hparses (playedWorld_parses _)

end Fixed

end Service

end EpochGuard
