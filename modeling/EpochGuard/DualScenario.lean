import EpochGuard.ResetRuns

/-!
# Two scenarios in two stores

`DualScenarioEpochGuardService` routes the two fixed demo scenarios to a store
each and admits one session at a time over both. A queue in memory serializes
the requests, but neither the tasks that earlier requests left in the background
nor the two files.
-/

namespace EpochGuard

open Json Checked Runs

namespace DualScenario

open Service DecisionParser

/-! ## Partitions -/

/-- The two stores of the server, one for each scenario. Each has its own
ledger, sessions and registrations. -/
inductive ScenarioPartitionName where
  | normal | impossible
deriving DecidableEq, Repr

def ScenarioPartitionName.text : ScenarioPartitionName → String
  | .normal => "normal"
  | .impossible => "impossible"

def ScenarioPartitionName.scenarioId : ScenarioPartitionName → ScenarioId
  | .normal => .normalWorldV1
  | .impossible => .impossibleCollageV1

/-- The store in which the sessions of a scenario live. -/
def partitionForScenario : ScenarioId → ScenarioPartitionName
  | .normalWorldV1 => .normal
  | .impossibleCollageV1 => .impossible

@[simp] theorem scenarioId_partitionForScenario (scenarioId : ScenarioId) :
    (partitionForScenario scenarioId).scenarioId = scenarioId := by
  cases scenarioId <;> rfl

/-- The states in which a session leaves the Agents free for the next one. -/
def TERMINAL_SESSION_STATES : List SessionState :=
  [.UNSTABLE_WORLD, .CONSISTENT_DENY, .COMMIT_RACE, .COMMITTED, .FAILED, .INTERRUPTED]

/-- The service and its partitions mean the same by a terminal session. -/
theorem mem_TERMINAL_SESSION_STATES {state : SessionState} :
    state ∈ TERMINAL_SESSION_STATES ↔ isTerminalSession state = true := by
  cases state <;> decide

/-- What a request is refused with before any of the partitions has seen it. -/
inductive DualScenarioError where
  | agentsBusy (activeSessionId : OpaqueId) (assignments : PerRole OpaqueId)
  | projectionMismatch (sessionId : String) (snapshotRevision : Nat)
  | roleProfileMismatch (role : Role) (agentId : OpaqueId)
  | sessionNotFound (sessionId : OpaqueId)

abbrev Answered := Except DualScenarioError

/-! ## Registrations -/

/-- What a store says of the Agents of the roles: nothing at all, or one
registration for each role. -/
inductive RegistrationState where
  | PRISTINE
  | COMPLETE (registrations : List RoleAgentRegistration)

/-- Nothing is stored in the `BUSINESS_COLLECTIONS`. -/
def hasNoBusiness (database : EpochDatabase) : Bool :=
  database.worldCommits.isEmpty && database.resourceVersions.isEmpty &&
    database.roleQuerySpecs.isEmpty && database.runAssignments.isEmpty &&
    database.receipts.isEmpty && database.sessions.isEmpty && database.attempts.isEmpty &&
    database.decisions.isEmpty && database.validations.isEmpty &&
    database.jointValidityCertificates.isEmpty && database.noCutProofs.isEmpty &&
    database.refreshPlans.isEmpty && database.permits.isEmpty && database.effects.isEmpty &&
    database.diagnostics.isEmpty && database.rejectedOutputArtifacts.isEmpty &&
    database.auditEvents.isEmpty

def byRole (left right : RoleAgentRegistration) : Prop :=
  ROLES.idxOf left.role ≤ ROLES.idxOf right.role

instance : DecidableRel byRole := fun _ _ => inferInstanceAs (Decidable (_ ≤ _))

def sortedRegistrations (registrations : List RoleAgentRegistration) :
    List RoleAgentRegistration :=
  registrations.insertionSort byRole

/-- The registrations of a store, which are none or one for each role with
distinct Agents. A store without registrations must be an untouched one. -/
def inspectRegistrations (database : EpochDatabase) (partitionName : ScenarioPartitionName) :
    Except String RegistrationState :=
  let registrations := database.roleAgentRegistrations
  let store := partitionName.text ++ " EpochStore"
  if registrations = [] then do
    require (database.headSeq = 0 ∧ hasNoBusiness database = true)
      (store ++ " has business data without Role registrations")
    return .PRISTINE
  else do
    require (registrations.length = ROLES.length)
      (store ++ " must contain either zero or three Role registrations")
    let roles := (registrations.map RoleAgentRegistration.role).dedup
    let agentIds := (registrations.map RoleAgentRegistration.agentId).dedup
    require (roles.length = ROLES.length ∧ (∀ role ∈ ROLES, role ∈ roles) ∧
        agentIds.length = ROLES.length)
      (store ++ " Role registrations are duplicated or incomplete")
    return .COMPLETE (sortedRegistrations registrations)

/-- The fields of the text that identifies a registration. -/
def registrationIdentity (registration : RoleAgentRegistration) :=
  (registration.role, registration.agentId, registration.agentNameAtRegistration,
    registration.roleProfileVersion, registration.agentsMdDigest)

/-- Both stores register the same Agents under the same roles, names and
versions. -/
def sameRegistrationIdentity (left right : List RoleAgentRegistration) : Bool :=
  let sortedLeft := sortedRegistrations left
  let sortedRight := sortedRegistrations right
  (List.range ROLES.length).all fun index =>
    sortedLeft[index]?.map registrationIdentity = sortedRight[index]?.map registrationIdentity

/-! ## Scans -/

/-- A session and the store that it was found in. -/
structure SessionLocation where
  partition : ScenarioPartitionName
  session : EpochSession

/-- Both stores as they were read together, with the sessions of both and those
among them that hold the Agents. -/
structure StoreScan where
  normalDatabase : EpochDatabase
  impossibleDatabase : EpochDatabase
  sessions : List SessionLocation
  active : List SessionLocation

/-- The sessions of both stores, those of the normal partition first. -/
def locations (normalDatabase impossibleDatabase : EpochDatabase) : List SessionLocation :=
  normalDatabase.sessions.map (SessionLocation.mk .normal) ++
    impossibleDatabase.sessions.map (SessionLocation.mk .impossible)

/-- One session of the scan, after those that it has seen. -/
def scanSession (snapshotRevision : Nat) (seen : List SessionLocation)
    (location : SessionLocation) : Answered (List SessionLocation) := do
  let mismatch := .projectionMismatch location.session.sessionId.val snapshotRevision
  require (location.session.scenarioId = location.partition.scenarioId) mismatch
  require (∀ l ∈ seen, l.session.sessionId ≠ location.session.sessionId) mismatch
  return seen ++ [location]

/-- `scanStores`: the sessions of both stores, and which of them are active. Of
several active sessions the error names the first. The source orders them with
`localeCompare` and the model by code units; on the lowercase identifiers that
`randomUUID` draws the two orders are one, and nothing but the identifier in
that error depends on them. -/
def scanStores (normalDatabase impossibleDatabase : EpochDatabase) : Answered StoreScan := do
  let snapshotRevision :=
    max normalDatabase.snapshotRevision impossibleDatabase.snapshotRevision
  let sessions ← (locations normalDatabase impossibleDatabase).foldlM
    (scanSession snapshotRevision) []
  let active := sessions.filter fun l => l.session.state ∉ TERMINAL_SESSION_STATES
  let first := (JointValidity.sortIds (active.map fun l => l.session.sessionId)).head?
  require (active.length ≤ 1)
    (.projectionMismatch ((first.map OpaqueId.val).getD "dual-scenario") snapshotRevision)
  return { normalDatabase, impossibleDatabase, sessions, active }

/-- The Agents that a new session asks for are the registered ones, and both
stores agree on who is registered. Whatever disagrees is reported as a
projection mismatch. -/
def validateCreateAssignments (request : CreateSessionRequest) (scan : StoreScan) :
    Answered Unit := do
  let mismatch := .projectionMismatch "dual-scenario"
    (max scan.normalDatabase.snapshotRevision scan.impossibleDatabase.snapshotRevision)
  let normalState ←
    (inspectRegistrations scan.normalDatabase .normal).mapError fun _ => mismatch
  let impossibleState ←
    (inspectRegistrations scan.impossibleDatabase .impossible).mapError fun _ => mismatch
  match normalState, impossibleState with
  | .COMPLETE normal, .COMPLETE impossible => do
      require (sameRegistrationIdentity normal impossible = true) mismatch
      ROLES.forM fun role => do
        let registration ← orStop (normal.find? fun r => r.role = role) mismatch
        require (request.assignments.get role = registration.agentId)
          (.roleProfileMismatch role (request.assignments.get role))
  | _, _ => throw mismatch

/-! ## Requests under the lock -/

/-- The requests that are decided over both partitions, under one lock. -/
inductive DualRequest where
  | createSession (request : CreateSessionRequest)
  | refresh (sessionId : OpaqueId) (request : RefreshPlanner.RefreshSessionRequest)
  | commit (sessionId : OpaqueId) (expectedSessionRevision : Nat)
  | resetDemo

/-- What the request that holds the lock still has to write. A commit that loses
a race has a second write, and a reset has one for each partition; `answering`
has none left. -/
inductive Holder where
  | createSession (request : CreateSessionRequest)
  | refresh (target : ScenarioPartitionName) (sessionId : OpaqueId)
      (request : RefreshPlanner.RefreshSessionRequest)
  | commit (target : ScenarioPartitionName) (sessionId : OpaqueId) (expectedSessionRevision : Nat)
  | recordCommitRace (target : ScenarioPartitionName) (sessionId : OpaqueId)
  | resetDemo (targets : List ScenarioPartitionName)
  | answering

/-- The servers of both partitions, and the request that holds the lock over
them. -/
structure DualServer where
  normal : Server
  impossible : Server
  holder : Option Holder

namespace DualServer

/-- The server of a partition. -/
def server (dual : DualServer) : ScenarioPartitionName → Server
  | .normal => dual.normal
  | .impossible => dual.impossible

def set (dual : DualServer) (target : ScenarioPartitionName) (server : Server)
    (holder : Option Holder) : DualServer :=
  match target with
  | .normal => { normal := server, impossible := dual.impossible, holder }
  | .impossible => { normal := dual.normal, impossible := server, holder }

def locations (dual : DualServer) : List SessionLocation :=
  DualScenario.locations dual.normal.database dual.impossible.database

def scan (dual : DualServer) : Answered StoreScan :=
  scanStores dual.normal.database dual.impossible.database

end DualServer

/-- Where a session is: in exactly one of the stores. -/
def locateSession (dual : DualServer) (sessionId : OpaqueId) : Answered SessionLocation := do
  let scan ← dual.scan
  match scan.sessions.filter fun l => l.session.sessionId = sessionId with
  | [] => throw (.sessionNotFound sessionId)
  | [location] => return location
  | _ => throw (.projectionMismatch sessionId.val
      (max scan.normalDatabase.snapshotRevision scan.impossibleDatabase.snapshotRevision))

/-- No session may be active. -/
def requireIdle (scan : StoreScan) : Answered Unit :=
  match scan.active with
  | active :: _ =>
      throw (.agentsBusy active.session.sessionId active.session.frozenAssignments)
  | [] => return ()

/-- What a request does first when it gets the lock: it reads both stores
together and is refused or finds its partition. Only this decision is made over
both of them; each partition checks once more when it writes. -/
def acquire (dual : DualServer) : DualRequest → Answered Holder
  | .createSession request => do
      let scan ← dual.scan
      validateCreateAssignments request scan
      requireIdle scan
      return .createSession request
  | .refresh sessionId request => do
      let location ← locateSession dual sessionId
      return .refresh location.partition sessionId request
  | .commit sessionId expectedSessionRevision => do
      let location ← locateSession dual sessionId
      return .commit location.partition sessionId expectedSessionRevision
  | .resetDemo => do
      let scan ← dual.scan
      requireIdle scan
      -- the order of the two writes is fixed; they are not one transaction
      return .resetDemo [.normal, .impossible]

deriving instance DecidableEq for CreateSessionRequest

/-- What is left to write after a write of the request, if it is its next one. -/
def Holder.advance : Holder → ScenarioPartitionName → Call → Option Holder
  | .createSession request, target, .createSession asked _ =>
      if target = partitionForScenario request.scenarioId ∧ asked = request then some .answering
      else none
  | .refresh located sessionId request, target, .claimRefreshPlan id asked _ _ _ _ _ _ =>
      if target = located ∧ id = sessionId ∧ asked = request then some .answering else none
  | .commit located sessionId expectedSessionRevision, target, .commit id expected _ _ =>
      if target = located ∧ id = sessionId ∧ expected = expectedSessionRevision then
        some (.recordCommitRace located sessionId)
      else none
  | .recordCommitRace located sessionId, target, .recordCommitRace id _ =>
      if target = located ∧ id = sessionId then some .answering else none
  | .resetDemo (located :: rest), target, .resetDemo _ =>
      if target = located then some (.resetDemo rest) else none
  | _, _, _ => none

/-- What happens to the two partitions. A request takes the lock, decides,
writes to the stores call by call and gives the lock back; the continuations of
both partitions go on without it. -/
inductive DualEvent where
  /-- A request gets the lock, and is refused at once or goes on. -/
  | acquire (request : DualRequest)
  /-- The request that holds the lock writes to a store. -/
  | write (target : ScenarioPartitionName) (call : Call)
  /-- The request that holds the lock returns or throws, wherever it is; a
  refresh may leave the rest of its task to the background. -/
  | release
  | background (target : ScenarioPartitionName) (event : Event)
  /-- A registration of the initialization; a copied store gets three. -/
  | register (target : ScenarioPartitionName) (registration : RoleAgentRegistration)
  /-- The process starts again and initializes a partition. -/
  | start (target : ScenarioPartitionName) (timestamp : Timestamp) (ids : OpaqueId → RecoveryIds)

/-- The session that an event opens. -/
def DualEvent.opened : DualEvent → Option OpaqueId
  | .write _ call => call.opened
  | _ => none

section Admission

variable [Sha256] [OutputPorts]

def step (dual : DualServer) : DualEvent → Option DualServer
  | .acquire request => do
      guard (dual.holder.isNone = true)
      match acquire dual request with
      | .ok holder => return { dual with holder := some holder }
      | .error _ => return dual
  | .write target call => do
      let holder ← dual.holder
      let left ← holder.advance target call
      let server ← serve (dual.server target) (.request call)
      return dual.set target server (some left)
  | .release => return { dual with holder := none }
  | .background target event => do
      guard (event.index.isSome = true)
      let server ← serve (dual.server target) event
      return dual.set target server dual.holder
  | .register target registration => do
      let server ← serve (dual.server target) (.request (.registerRole registration))
      return dual.set target server dual.holder
  | .start target timestamp ids => do
      let server ← serve (dual.server target) (.restart timestamp ids)
      return dual.set target server none

def emptyDual : DualServer := ⟨emptyServer, emptyServer, none⟩

/-! ## What holds of both stores -/

/-- A session is open in one of the stores at most, and in none while a request
to create one goes on. -/
structure DualInv (used : List OpaqueId) (dual : DualServer) : Prop where
  jobs : ∀ p, Jobs used (dual.server p)
  scenario : ∀ p, ∀ s ∈ (dual.server p).database.sessions, s.scenarioId = p.scenarioId
  apart : ∀ p q, p ≠ q → ∀ s ∈ (dual.server p).database.sessions,
    ∀ t ∈ (dual.server q).database.sessions, s.sessionId ≠ t.sessionId
  alone : ∀ p q, p ≠ q → ∀ s ∈ (dual.server p).database.sessions,
    ∀ t ∈ (dual.server q).database.sessions,
      isTerminalSession s.state = true ∨ isTerminalSession t.state = true
  closed : ∀ request, dual.holder = some (.createSession request) →
    ∀ p, ∀ s ∈ (dual.server p).database.sessions, isTerminalSession s.state = true

variable {used : List OpaqueId} {dual next : DualServer}

omit [Sha256] [OutputPorts] in
@[simp] theorem DualServer.server_set (target : ScenarioPartitionName) (server : Server)
    (holder : Option Holder) (p : ScenarioPartitionName) :
    (dual.set target server holder).server p = if p = target then server else dual.server p := by
  cases target <;> cases p <;> rfl

omit [Sha256] [OutputPorts] in
@[simp] theorem DualServer.holder_set (target : ScenarioPartitionName) (server : Server)
    (holder : Option Holder) : (dual.set target server holder).holder = holder := by
  cases target <;> rfl

omit [Sha256] [OutputPorts] in
theorem settles_refl (database : EpochDatabase) : Settles database database :=
  fun s hs => ⟨s, hs, rfl, id⟩

/-- Where no session is opened in either store, all of it is kept. -/
theorem DualInv.settle (h : DualInv used dual) (hjobs : ∀ p, Jobs used (next.server p))
    (hsettles : ∀ p, Settles (dual.server p).database (next.server p).database)
    (hholder : ∀ request, next.holder = some (.createSession request) →
      ∀ p, ∀ s ∈ (dual.server p).database.sessions, isTerminalSession s.state = true) :
    DualInv used next where
  jobs := hjobs
  scenario := by
    intro p s hs
    obtain ⟨t, ht, hsame, -⟩ := hsettles p s hs
    exact (congrArg Prod.snd hsame).trans (h.scenario p t ht)
  apart := by
    intro p q hne s hs t ht hid
    obtain ⟨s', hs', hsame, -⟩ := hsettles p s hs
    obtain ⟨t', ht', hsame', -⟩ := hsettles q t ht
    have hs : s.sessionId = s'.sessionId := congrArg Prod.fst hsame
    have ht : t.sessionId = t'.sessionId := congrArg Prod.fst hsame'
    exact h.apart p q hne s' hs' t' ht' (hs.symm.trans (hid.trans ht))
  alone := by
    intro p q hne s hs t ht
    obtain ⟨s', hs', -, hterminal⟩ := hsettles p s hs
    obtain ⟨t', ht', -, hterminal'⟩ := hsettles q t ht
    exact (h.alone p q hne s' hs' t' ht').imp hterminal hterminal'
  closed := by
    intro request hheld p s hs
    obtain ⟨s', hs', -, hterminal⟩ := hsettles p s hs
    exact hterminal (hholder request hheld p s' hs')

/-- An event of one partition that opens no session there. -/
theorem DualInv.served (h : DualInv used dual) {target : ScenarioPartitionName} {event : Event}
    {server : Server} {holder : Option Holder} (hopened : event.opened = none)
    (hserve : serve (dual.server target) event = some server)
    (hholder : ∀ request, holder = some (.createSession request) →
      dual.holder = some (.createSession request)) :
    DualInv used (dual.set target server holder) := by
  obtain ⟨hjobs, hsettles⟩ := (h.jobs target).serve hopened hserve
  refine h.settle (fun p => ?_) (fun p => ?_) fun request hheld => ?_
  · rw [DualServer.server_set]
    split
    · exact hjobs
    · exact h.jobs p
  · rw [DualServer.server_set]
    split
    · rename_i heq
      exact heq ▸ hsettles
    · exact settles_refl _
  · rw [DualServer.holder_set] at hheld
    exact h.closed request (hholder request hheld)

/-- The write of a request to create a session. -/
theorem DualInv.created (h : DualInv used dual) {request : CreateSessionRequest}
    {ports : CreateSessionPorts} {server : Server}
    (hheld : dual.holder = some (.createSession request)) (hfresh : ports.sessionId ∉ used)
    (hserve : serve (dual.server (partitionForScenario request.scenarioId))
      (.request (.createSession request ports)) = some server) :
    DualInv (used ++ [ports.sessionId])
      (dual.set (partitionForScenario request.scenarioId) server (some .answering)) := by
  obtain ⟨hjobs, -, session, hsessions, hscenario⟩ := (h.jobs _).create hfresh hserve
  have hid : session.sessionId = ports.sessionId := congrArg Prod.fst hscenario
  have hclosed := h.closed request hheld
  -- a session of either store is the new one or one from before
  have hcases : ∀ p, ∀ s ∈ ((dual.set (partitionForScenario request.scenarioId) server
      (some .answering)).server p).database.sessions,
      s = session ∧ p = partitionForScenario request.scenarioId ∨
        p ≠ partitionForScenario request.scenarioId ∧ s ∈ (dual.server p).database.sessions := by
    intro p s hs
    rw [DualServer.server_set] at hs
    split at hs
    · rename_i heq
      rw [hsessions, List.mem_singleton] at hs
      exact .inl ⟨hs, heq⟩
    · rename_i hne
      exact .inr ⟨hne, hs⟩
  constructor
  · intro p
    rw [DualServer.server_set]
    split
    · exact hjobs
    · exact (h.jobs p).mono _
  · intro p s hs
    rcases hcases p s hs with ⟨rfl, rfl⟩ | ⟨-, hs⟩
    · rw [scenarioId_partitionForScenario]
      exact congrArg Prod.snd hscenario
    · exact h.scenario p s hs
  · intro p q hne s hs t ht heq
    rcases hcases p s hs with ⟨rfl, rfl⟩ | ⟨-, hs⟩ <;>
      rcases hcases q t ht with ⟨rfl, rfl⟩ | ⟨-, ht⟩
    · exact hne rfl
    · exact hfresh (hid ▸ heq ▸ (h.jobs q).sessions t ht)
    · exact hfresh (hid ▸ heq ▸ (h.jobs p).sessions s hs)
    · exact h.apart p q hne s hs t ht heq
  · intro p q hne s hs t ht
    rcases hcases p s hs with ⟨rfl, rfl⟩ | ⟨-, hs⟩
    · rcases hcases q t ht with ⟨-, rfl⟩ | ⟨-, ht⟩
      · exact absurd rfl hne
      · exact .inr (hclosed q t ht)
    · exact .inl (hclosed p s hs)
  · intro asked hasked
    rw [DualServer.holder_set] at hasked
    cases hasked

/-! ## Scans of both stores -/

omit [Sha256] [OutputPorts] in
theorem scan_locations {snapshotRevision : Nat} {locations seen : List SessionLocation}
    (hscenario : ∀ l ∈ locations, l.session.scenarioId = l.partition.scenarioId)
    (hnodup : ((seen ++ locations).map fun l => l.session.sessionId).Nodup) :
    locations.foldlM (scanSession snapshotRevision) seen = .ok (seen ++ locations) := by
  induction locations generalizing seen with
  | nil => simp [pure_eq_ok]
  | cons location rest ih =>
    have hfresh : ∀ l ∈ seen, l.session.sessionId ≠ location.session.sessionId := by
      rw [List.map_append, List.map_cons] at hnodup
      intro l hl heq
      exact List.disjoint_of_nodup_append hnodup (List.mem_map_of_mem hl) (by simp [heq])
    have hseen : scanSession snapshotRevision seen location = .ok (seen ++ [location]) := by
      simp only [scanSession, bind_eq_ok, require_eq_ok, pure_eq_ok]
      exact ⟨(), hscenario location List.mem_cons_self, (), hfresh, trivial⟩
    have hrest : ((seen ++ [location] ++ rest).map fun l => l.session.sessionId).Nodup := by
      simpa using hnodup
    rw [List.foldlM_cons, bind_eq_ok]
    refine ⟨_, hseen, ?_⟩
    simpa using ih (fun l hl => hscenario l (List.mem_cons_of_mem _ hl)) hrest

omit [Sha256] [OutputPorts] in
theorem mem_locations {l : SessionLocation} :
    l ∈ dual.locations ↔ l.session ∈ (dual.server l.partition).database.sessions := by
  obtain ⟨partition, session⟩ := l
  cases partition <;> simp [DualServer.locations, locations, DualServer.server]

theorem DualInv.nodup (h : DualInv used dual) :
    (dual.locations.map fun l => l.session.sessionId).Nodup := by
  have hsingle (p : ScenarioPartitionName) :
      ((dual.server p).database.sessions.map EpochSession.sessionId).Nodup := by
    have hlength := (h.jobs p).alone
    match hsessions : (dual.server p).database.sessions with
    | [] => exact List.nodup_nil
    | [s] => exact List.nodup_singleton _
    | s :: t :: rest => simp [hsessions] at hlength
  simp only [DualServer.locations, locations, List.map_append, List.map_map]
  refine List.Nodup.append (hsingle .normal) (hsingle .impossible) ?_
  intro id hid hid'
  obtain ⟨s, hs, rfl⟩ := List.mem_map.mp hid
  obtain ⟨t, ht, heq⟩ := List.mem_map.mp hid'
  exact h.apart .normal .impossible (by decide) s hs t ht heq.symm

theorem DualInv.scenarios (h : DualInv used dual) :
    ∀ l ∈ dual.locations, l.session.scenarioId = l.partition.scenarioId :=
  fun l hl => h.scenario l.partition l.session (mem_locations.mp hl)

theorem DualInv.single (h : DualInv used dual) :
    (dual.locations.filter fun l => !isTerminalSession l.session.state).length ≤ 1 := by
  have hlength (p : ScenarioPartitionName) :
      (((dual.server p).database.sessions.map (SessionLocation.mk p)).filter
        fun l => !isTerminalSession l.session.state).length ≤ 1 :=
    (List.length_filter_le _ _).trans (by simpa using (h.jobs p).alone)
  have hnone {p q : ScenarioPartitionName} (hne : p ≠ q) {s : EpochSession}
      (hs : s ∈ (dual.server p).database.sessions) (hopen : isTerminalSession s.state = false) :
      ((dual.server q).database.sessions.map (SessionLocation.mk q)).filter
        (fun l => !isTerminalSession l.session.state) = [] := by
    refine List.filter_eq_nil_iff.mpr fun l hl => ?_
    obtain ⟨t, ht, rfl⟩ := List.mem_map.mp hl
    have hterminal := (h.alone p q hne s hs t ht).resolve_left (by simp [hopen])
    simp [hterminal]
  have hnormal := hlength .normal
  have himpossible := hlength .impossible
  simp only [DualServer.server] at hnormal himpossible
  rw [DualServer.locations, locations, List.filter_append, List.length_append]
  by_cases hopen : ∃ s ∈ (dual.server .normal).database.sessions,
      isTerminalSession s.state = false
  · obtain ⟨s, hs, hopen⟩ := hopen
    have himpossible := hnone (q := .impossible) (by decide) hs hopen
    simp only [DualServer.server] at himpossible
    rw [himpossible]
    simpa using hnormal
  · have hempty : (dual.normal.database.sessions.map (SessionLocation.mk .normal)).filter
        (fun l => !isTerminalSession l.session.state) = [] := by
      refine List.filter_eq_nil_iff.mpr fun l hl => ?_
      obtain ⟨s, hs, rfl⟩ := List.mem_map.mp hl
      simpa using fun hfalse => hopen ⟨s, hs, hfalse⟩
    rw [hempty]
    simpa using himpossible

omit [Sha256] [OutputPorts] in
theorem active_eq (sessions : List SessionLocation) :
    (sessions.filter fun l => l.session.state ∉ TERMINAL_SESSION_STATES) =
      sessions.filter fun l => !isTerminalSession l.session.state := by
  refine List.filter_congr fun l _ => ?_
  simp only [mem_TERMINAL_SESSION_STATES]
  cases isTerminalSession l.session.state <;> rfl

/-- The scan of both stores succeeds. -/
theorem DualInv.scan_eq (h : DualInv used dual) :
    dual.scan = .ok ⟨dual.normal.database, dual.impossible.database, dual.locations,
      dual.locations.filter fun l => !isTerminalSession l.session.state⟩ := by
  have hsessions : dual.locations.foldlM (scanSession (max dual.normal.database.snapshotRevision
      dual.impossible.database.snapshotRevision)) [] = .ok ([] ++ dual.locations) :=
    scan_locations h.scenarios (by simpa using h.nodup)
  rw [List.nil_append, DualServer.locations] at hsessions
  simp only [DualServer.scan, scanStores, bind_eq_ok, require_eq_ok, pure_eq_ok]
  refine ⟨_, hsessions, (), ?_, ?_⟩
  · rw [active_eq]
    exact h.single
  · rw [active_eq]
    rfl

/-! ## Runs -/

theorem DualInv.acquired (h : DualInv used dual) {request : DualRequest} {holder : Holder}
    (hacquire : acquire dual request = .ok holder) {asked : CreateSessionRequest}
    (hheld : holder = .createSession asked) :
    ∀ p, ∀ s ∈ (dual.server p).database.sessions, isTerminalSession s.state = true := by
  subst hheld
  cases request with
  | createSession request =>
    simp only [acquire, bind_eq_ok, pure_eq_ok, h.scan_eq, Except.ok.injEq] at hacquire
    obtain ⟨_, rfl, _, _, _, hidle, _⟩ := hacquire
    simp only [requireIdle] at hidle
    split at hidle
    · simp at hidle
    · rename_i hnone
      intro p s hs
      have hclosed := List.filter_eq_nil_iff.mp hnone ⟨p, s⟩ (mem_locations.mpr hs)
      simpa using hclosed
  | refresh | commit =>
    simp only [acquire, bind_eq_ok, pure_eq_ok] at hacquire
    obtain ⟨_, -, hholder⟩ := hacquire
    cases hholder
  | resetDemo =>
    simp only [acquire, bind_eq_ok, pure_eq_ok] at hacquire
    obtain ⟨_, -, -, -, hholder⟩ := hacquire
    cases hholder

omit [Sha256] [OutputPorts] in
/-- What a request writes. -/
theorem Holder.advance_cases {holder left : Holder} {target : ScenarioPartitionName} {call : Call}
    (h : holder.advance target call = some left) :
    (∃ request ports, holder = .createSession request ∧
      target = partitionForScenario request.scenarioId ∧ call = .createSession request ports ∧
      left = .answering) ∨
    call.opened = none ∧ ∀ request, left ≠ .createSession request := by
  unfold Holder.advance at h
  split at h
  all_goals try simp only [Option.ite_none_right_eq_some, Option.some.injEq] at h
  case h_1 =>
    obtain ⟨⟨rfl, rfl⟩, rfl⟩ := h
    exact .inl ⟨_, _, rfl, rfl, rfl, rfl⟩
  case h_6 => cases h
  all_goals
    obtain ⟨-, rfl⟩ := h
    exact .inr ⟨rfl, fun _ => by simp⟩

theorem DualInv.step (h : DualInv used dual) {event : DualEvent}
    (hfresh : ∀ id, event.opened = some id → id ∉ used)
    (hstep : step dual event = some next) : DualInv (used ++ event.opened.toList) next := by
  have hsame (hopened : event.opened = none) (hnext : DualInv used next) :
      DualInv (used ++ event.opened.toList) next := by
    simpa [hopened] using hnext
  cases event with
  | acquire request =>
    simp only [DualScenario.step, Option.bind_eq_bind, Option.bind_eq_some_iff,
      Option.guard_eq_some', Option.pure_def] at hstep
    obtain ⟨-, -, hstep⟩ := hstep
    refine hsame rfl ?_
    split at hstep
    · rename_i holder hacquire
      obtain rfl := Option.some.inj hstep
      refine h.settle h.jobs (fun p => settles_refl _) fun asked hheld => ?_
      exact h.acquired hacquire (Option.some.inj hheld)
    · exact Option.some.inj hstep ▸ h
  | write target call =>
    simp only [DualScenario.step, Option.bind_eq_bind, Option.bind_eq_some_iff,
      Option.pure_def, Option.some.injEq] at hstep
    obtain ⟨holder, hheld, left, hadvance, server, hserve, rfl⟩ := hstep
    -- only the request that holds the lock opens a session
    rcases Holder.advance_cases hadvance with
      ⟨request, ports, rfl, rfl, rfl, rfl⟩ | ⟨hopened, hleft⟩
    · exact h.created hheld (hfresh _ rfl) hserve
    · have hcall : (Event.request call).opened = none := hopened
      refine hsame hopened (h.served hcall hserve fun request heq => ?_)
      exact absurd (Option.some.inj heq) (hleft request)
  | release =>
    simp only [DualScenario.step, Option.pure_def, Option.some.injEq] at hstep
    subst hstep
    exact hsame rfl (h.settle h.jobs (fun p => settles_refl _) fun _ hheld => by cases hheld)
  | background target event =>
    simp only [DualScenario.step, Option.bind_eq_bind, Option.bind_eq_some_iff,
      Option.guard_eq_some', Option.pure_def, Option.some.injEq] at hstep
    obtain ⟨-, hindex, server, hserve, rfl⟩ := hstep
    have hopened : event.opened = none := by
      cases event <;> first | rfl | cases hindex
    exact hsame rfl (h.served hopened hserve fun _ => id)
  | register target registration =>
    simp only [DualScenario.step, Option.bind_eq_bind, Option.bind_eq_some_iff,
      Option.pure_def, Option.some.injEq] at hstep
    obtain ⟨server, hserve, rfl⟩ := hstep
    exact hsame rfl (h.served rfl hserve fun _ => id)
  | start target timestamp ids =>
    simp only [DualScenario.step, Option.bind_eq_bind, Option.bind_eq_some_iff,
      Option.pure_def, Option.some.injEq] at hstep
    obtain ⟨server, hserve, rfl⟩ := hstep
    exact hsame rfl (h.served rfl hserve fun _ hheld => by cases hheld)

theorem dualInv_empty : DualInv [] emptyDual where
  jobs := fun p => by cases p <;> exact jobs_emptyServer
  scenario := fun p s hs => by cases p <;> exact absurd hs List.not_mem_nil
  apart := fun p q _ s hs => by cases p <;> exact absurd hs List.not_mem_nil
  alone := fun p q _ s hs => by cases p <;> exact absurd hs List.not_mem_nil
  closed := fun _ hheld => by cases hheld

theorem DualInv.run {events : List DualEvent} (h : DualInv used dual)
    (hfresh : (used ++ events.filterMap DualEvent.opened).Nodup)
    (hrun : run DualScenario.step dual events = some next) :
    ∃ used', DualInv used' next := by
  induction events generalizing used dual with
  | nil =>
    rw [run_nil] at hrun
    exact ⟨used, hrun ▸ h⟩
  | cons event rest ih =>
    obtain ⟨middle, hstep, hrest⟩ := run_cons.mp hrun
    have hsplit : (event :: rest).filterMap DualEvent.opened =
        event.opened.toList ++ rest.filterMap DualEvent.opened := by
      cases hopened : event.opened <;> simp [hopened]
    rw [hsplit, ← List.append_assoc] at hfresh
    have hnew : ∀ id, event.opened = some id → id ∉ used := by
      intro id hopened hused
      rw [hopened] at hfresh
      have hfirst := (List.nodup_append.mp hfresh).1
      exact List.disjoint_of_nodup_append hfirst hused (by simp)
    exact ih (h.step hnew hstep) hfresh hrest

/-! ## Admission -/

omit [OutputPorts] in
/-- A partition that is idle does not find its Agents busy. -/
theorem createSession_not_busy {database : EpochDatabase}
    (hclosed : ∀ s ∈ database.sessions, isTerminalSession s.state = true)
    (request : CreateSessionRequest) (verified : PerRole RoleAgentRegistration)
    (ports : CreateSessionPorts) (id : OpaqueId) :
    Service.createSession database request verified ports ≠ .error (.agentsBusy id) := by
  intro h
  unfold Service.createSession at h
  dsimp only at h
  split at h
  · rename_i conflicting hfound
    have hopen := List.find?_some hfound
    simp [hclosed conflicting (List.mem_of_find?_eq_some hfound)] at hopen
  · simp only [bind_eq_error, require_eq_error, mapError_eq_error, pure_ne_error] at h
    simp at h

/-- Sessions are admitted over both stores. In every run in which identifiers
are fresh, one session at most is open; every session is in one store, that of
its scenario; the scan succeeds; and a request to create a session that names
the registered Agents is refused as busy exactly where a session is open when it
gets the lock, by the service or, later, by a partition. -/
theorem dualAdmission_global {events : List DualEvent} {dual : DualServer}
    (hfresh : (events.filterMap DualEvent.opened).Nodup)
    (hrun : Runs.run DualScenario.step emptyDual events = some dual) :
    (dual.locations.filter fun l => !isTerminalSession l.session.state).length ≤ 1 ∧
    (dual.locations.map fun l => l.session.sessionId).Nodup ∧
    (∀ l ∈ dual.locations, l.session.scenarioId = l.partition.scenarioId) ∧
    (∃ scan, dual.scan = .ok scan ∧
      ∀ request, validateCreateAssignments request scan = .ok () →
        ((∃ id assignments,
            acquire dual (.createSession request) = .error (.agentsBusy id assignments)) ↔
          ∃ l ∈ dual.locations, isTerminalSession l.session.state = false) ∧
        ((∀ l ∈ dual.locations, isTerminalSession l.session.state = true) →
          acquire dual (.createSession request) = .ok (.createSession request))) ∧
    ∀ request, dual.holder = some (.createSession request) → ∀ verified ports id,
      Service.createSession (dual.server (partitionForScenario request.scenarioId)).database
        request verified ports ≠ .error (.agentsBusy id) := by
  obtain ⟨used, hinv⟩ := dualInv_empty.run (by simpa using hfresh) hrun
  refine ⟨hinv.single, hinv.nodup, hinv.scenarios, ⟨_, hinv.scan_eq, fun request hvalid => ?_⟩,
    fun request hheld => createSession_not_busy (hinv.closed request hheld _) request⟩
  have hacquire : acquire dual (.createSession request) =
      (requireIdle ⟨dual.normal.database, dual.impossible.database, dual.locations,
        dual.locations.filter fun l => !isTerminalSession l.session.state⟩).bind
          fun _ => .ok (.createSession request) := by
    simp only [acquire, hinv.scan_eq, Bind.bind, Except.bind, hvalid, Pure.pure, Except.pure]
  have hidle (hclosed : ∀ l ∈ dual.locations, isTerminalSession l.session.state = true) :
      (dual.locations.filter fun l => !isTerminalSession l.session.state) = [] :=
    List.filter_eq_nil_iff.mpr fun l hl => by simp [hclosed l hl]
  rw [hacquire]
  refine ⟨⟨?_, ?_⟩, fun hclosed => ?_⟩
  · rintro ⟨id, assignments, hbusy⟩
    by_contra hnone
    rw [hidle fun l hl => by simpa using fun hopen => hnone ⟨l, hl, hopen⟩] at hbusy
    cases hbusy
  · rintro ⟨l, hl, hopen⟩
    have hactive : l ∈ dual.locations.filter fun l => !isTerminalSession l.session.state :=
      List.mem_filter.mpr ⟨hl, by simp [hopen]⟩
    match hfilter : dual.locations.filter fun l => !isTerminalSession l.session.state with
    | [] => simp [hfilter] at hactive
    | active :: rest =>
      rw [hfilter]
      exact ⟨_, _, rfl⟩
  · rw [hidle hclosed]
    rfl

end Admission

namespace Sample

open EpochGuard.Service.Sample

def request : CreateSessionRequest := ⟨.normalWorldV1, PerRole.ofFn agentId⟩

/-- Both stores get the registrations; a session of the normal scenario is
created and starts to collect. -/
def events : List DualEvent :=
  ROLES.map (fun role => .register .normal (registration role)) ++
    ROLES.map (fun role => .register .impossible (registration role)) ++
    [.acquire (.createSession request), .write .normal (.createSession request createPorts),
      .release, .background .normal (.work 0 (.transitionToCollecting sessionId time (stamp time)))]

theorem events_fresh : (events.filterMap DualEvent.opened).Nodup := by
  decide

theorem events_run : (Runs.run DualScenario.step emptyDual events).any (fun dual =>
    decide (dual.locations.map (fun l => l.session.state) = [.COLLECTING]) &&
      (dual.scan.bind fun scan => validateCreateAssignments request scan).isOk) = true := by
  have hregistered : Runs.run DualScenario.step emptyDual
      (ROLES.map (fun role => .register .normal (registration role)) ++
        ROLES.map (fun role => .register .impossible (registration role)) ++
          [.acquire (.createSession request)]) =
        some ⟨⟨registered, []⟩, ⟨registered, []⟩, some (.createSession request)⟩ := rfl
  have hcreated : DualScenario.step
      ⟨⟨registered, []⟩, ⟨registered, []⟩, some (.createSession request)⟩
      (.write .normal (.createSession request createPorts)) =
        some ⟨createdServer .normalWorldV1, ⟨registered, []⟩, some .answering⟩ := by
    have hadvance : (Holder.createSession request).advance .normal
        (.createSession request createPorts) = some .answering := rfl
    have hserved : serve (DualServer.server
        ⟨⟨registered, []⟩, ⟨registered, []⟩, some (.createSession request)⟩ .normal)
        (.request (.createSession request createPorts)) = some (createdServer .normalWorldV1) :=
      serve_createSession .normalWorldV1
    simp only [DualScenario.step, hadvance, hserved, Option.bind_eq_bind, Option.bind_some]
    rfl
  have hevents : events =
      (ROLES.map (fun role => .register .normal (registration role)) ++
        ROLES.map (fun role => .register .impossible (registration role)) ++
          [.acquire (.createSession request)]) ++
        .write .normal (.createSession request createPorts) ::
          [.release, .background .normal
            (.work 0 (.transitionToCollecting sessionId time (stamp time)))] := rfl
  rw [hevents, Runs.run_append_of_eq hregistered, Runs.run_cons_of_eq hcreated]
  decide +kernel

end Sample

open Sample EpochGuard.Service.Sample in
/-- While that session is open, another one is refused. -/
theorem dualAdmission_global_sample : ∃ dual,
    Runs.run DualScenario.step emptyDual Sample.events = some dual ∧
      ∃ id assignments, acquire dual (.createSession request) =
        .error (.agentsBusy id assignments) := by
  obtain ⟨dual, hrun, hchecks⟩ := (Option.any_eq_true _ _).mp events_run
  rw [Bool.and_eq_true, decide_eq_true_eq] at hchecks
  obtain ⟨hstates, hvalid⟩ := hchecks
  obtain ⟨-, -, -, ⟨scan, hscan, hadmission⟩, -⟩ := dualAdmission_global events_fresh hrun
  have hvalid : validateCreateAssignments request scan = .ok () := by
    rw [hscan] at hvalid
    cases hchecked : validateCreateAssignments request scan with
    | ok => rfl
    | error => simp [Except.bind, hchecked, Except.isOk, Except.toBool] at hvalid
  refine ⟨dual, hrun, (hadmission request hvalid).1.mpr ?_⟩
  have hmem : SessionState.COLLECTING ∈ dual.locations.map fun l => l.session.state := by
    rw [hstates]
    exact List.mem_singleton_self _
  obtain ⟨l, hl, hstate⟩ := List.mem_map.mp hmem
  exact ⟨l, hl, by rw [hstate]; rfl⟩

end DualScenario

end EpochGuard
