import EpochGuard.DecisionParser
import EpochGuard.SnapshotContract

/-!
# The snapshot decoder of the dashboard

`SessionDashboardSnapshotSchema` as the dashboard applies it to a JSON value:
strict objects of literals, enumerations, bounded texts and arrays, and then
the rules between the fields.
-/

namespace EpochGuard

namespace SnapshotContract

open Json DecisionParser

/-! ## Dates and times -/

/-- Two decimal digits. -/
def twoDigits? (a b : Char) : Option Nat :=
  if a.isDigit && b.isDigit then some (digitsValue [a, b]) else none

def isLeapYear (year : Nat) : Bool := year % 4 = 0 && (year % 100 ≠ 0 || year % 400 = 0)

def daysInMonth (year month : Nat) : Nat :=
  if month = 2 then if isLeapYear year then 29 else 28
  else if month = 4 ∨ month = 6 ∨ month = 9 ∨ month = 11 then 30 else 31

/-- The days from the first day of the year 0 to a date. -/
def dayNumber (year month day : Nat) : Nat :=
  365 * year + (year + 3) / 4 - (year + 99) / 100 + (year + 399) / 400 +
    ((List.range (month - 1)).map fun m => daysInMonth year (m + 1)).sum + (day - 1)

def EPOCH_DAY : Nat := dayNumber 1970 1 1

/-- `HH:MM`, in minutes. -/
def clock? : List Char → Option (Nat × List Char)
  | h1 :: h2 :: ':' :: m1 :: m2 :: rest => do
      let hours ← twoDigits? h1 h2
      let minutes ← twoDigits? m1 m2
      if hours < 24 && minutes < 60 then some (60 * hours + minutes, rest) else none
  | _ => none

/-- The optional seconds with their optional fraction, in milliseconds: digits
after the third one are dropped. -/
def seconds? : List Char → Option (Nat × List Char)
  | ':' :: s1 :: s2 :: rest => do
      let seconds ← twoDigits? s1 s2
      if seconds < 60 then
        match rest with
        | '.' :: fraction =>
            let digits := fraction.takeWhile Char.isDigit
            if digits = [] then none
            else some (1000 * seconds + digitsValue ((digits ++ ['0', '0']).take 3),
              fraction.dropWhile Char.isDigit)
        | _ => some (1000 * seconds, rest)
      else none
  | ':' :: _ => none
  | rest => some (0, rest)

/-- `Z`, or an offset from it in minutes. -/
def zone? : List Char → Option Int
  | ['Z'] => some 0
  | '+' :: rest => (clock? rest).bind fun r => if r.2 = [] then some (r.1 : Int) else none
  | '-' :: rest => (clock? rest).bind fun r => if r.2 = [] then some (-(r.1 : Int)) else none
  | _ => none

/-- `z.string().datetime({ offset: true })`, with the instant that `Date.parse`
reads from it. -/
def dateTime? : List Char → Option Int
  | y1 :: y2 :: y3 :: y4 :: '-' :: m1 :: m2 :: '-' :: d1 :: d2 :: 'T' :: rest => do
      let century ← twoDigits? y1 y2
      let year := 100 * century + (← twoDigits? y3 y4)
      let month ← twoDigits? m1 m2
      let day ← twoDigits? d1 d2
      let (minutes, rest) ← clock? rest
      let (millis, rest) ← seconds? rest
      let offset ← zone? rest
      if 1 ≤ month && month ≤ 12 && 1 ≤ day && day ≤ daysInMonth year month then
        some ((((dayNumber year month day : Int) - EPOCH_DAY) * 1440 + minutes - offset) * 60000 +
          millis)
      else none
  | _ => none

example : dateTime? "2026-08-29T12:00:05.000Z".toList = some 1788004805000 := by decide

/-! ## Schemas -/

def timestamp? : Value → Option Timestamp
  | .str s => do
      let cs ← asciiChars? s
      let millis ← dateTime? cs
      some ⟨String.ofList cs, millis⟩
  | _ => none

/-- `z.number().int().nonnegative()` -/
def count? : Value → Option Nat
  | .num n => n.safeNat?
  | _ => none

def countUpTo? (longest : Nat) (value : Value) : Option Nat :=
  (count? value).filter (· ≤ longest)

/-- `z.number().nonnegative()` -/
def nonnegative? : Value → Option JsNumber
  | .num n => if n.numeral.head? = some '-' then none else some n
  | _ => none

def boolean? : Value → Option Bool
  | .bool b => some b
  | _ => none

/-- `z.literal` of a natural number, and of a text. -/
def literalNat? (n : Nat) (value : Value) : Option Unit :=
  (count? value).bind fun m => if m = n then some () else none

def literal? (text : String) : Value → Option Unit
  | .str s => if s = js text then some () else none
  | _ => none

/-- `z.enum` -/
def oneOf? {α : Type} (members : List (String × α)) : Value → Option α
  | .str s => (members.find? fun m => js m.1 = s).map Prod.snd
  | _ => none

def nullable {α : Type} (read : Value → Option α) : Value → Option (Option α)
  | .null => some none
  | value => (read value).map some

def array? {α : Type} (read : Value → Option α) : Value → Option (List α)
  | .arr items => items.mapM read
  | _ => none

def arrayUpTo? {α : Type} (longest : Nat) (read : Value → Option α) (value : Value) :
    Option (List α) :=
  (array? read value).filter fun items => items.length ≤ longest

/-- The own properties of an object. -/
abbrev Fields := List (JsString × Value)

/-- A field of a schema, read from the property with its key. -/
def Fields.get {α : Type} (fields : Fields) (key : String) (read : Value → Option α) : Option α :=
  (fields.find? fun e => e.1 = js key).bind fun e => read e.2

/-- An `optional` field. -/
def Fields.getOptional {α : Type} (fields : Fields) (key : String) (read : Value → Option α) :
    Option (Option α) :=
  match fields.find? fun e => e.1 = js key with
  | none => some none
  | some e => (read e.2).map some

/-- `z.object({ … }).strict()`: the fields of the schema and no other ones, an own
`__proto__` property apart, which the check for unknown keys skips. -/
def strictObject {α : Type} (keys : List String) (read : Fields → Option α) :
    Value → Option α
  | .obj entries =>
      if entries.all fun e => e.1 = protoKey || keys.any fun key => e.1 = js key then read entries
      else none
  | _ => none

/-! ## Enumerations -/

def ROLE_NAMES : List (String × Role) := ROLES.map fun role => (role.name, role)

def SCENARIO_IDS : List (String × ScenarioId) :=
  [.normalWorldV1, .impossibleCollageV1].map fun scenario => (scenario.name, scenario)

def VERDICTS : List (String × Verdict) := [("ALLOW", .ALLOW), ("DENY", .DENY)]

def SESSION_STATES : List (String × SessionState) :=
  [("CREATED", .CREATED), ("DISPATCHING", .DISPATCHING), ("COLLECTING", .COLLECTING),
    ("VALIDATING", .VALIDATING), ("BLOCKED_NO_CUT", .BLOCKED_NO_CUT),
    ("HISTORICAL_STALE", .HISTORICAL_STALE), ("REOBSERVING", .REOBSERVING),
    ("UNSTABLE_WORLD", .UNSTABLE_WORLD), ("CONSISTENT_DENY", .CONSISTENT_DENY),
    ("READY_AT_CURRENT_HEAD", .READY_AT_CURRENT_HEAD), ("COMMITTING", .COMMITTING),
    ("COMMITTED", .COMMITTED), ("COMMIT_RACE", .COMMIT_RACE), ("FAILED", .FAILED),
    ("INTERRUPTED", .INTERRUPTED)]

def FAILURE_CODES : List (String × FailureCode) :=
  [("ROLE_PROFILE_MISMATCH", .ROLE_PROFILE_MISMATCH), ("AGENTS_BUSY", .AGENTS_BUSY),
    ("RUN_FAILED", .RUN_FAILED), ("RUN_TIMEOUT", .RUN_TIMEOUT),
    ("OUTPUT_MALFORMED", .OUTPUT_MALFORMED), ("BINDING_MISMATCH", .BINDING_MISMATCH),
    ("DECISION_INVALID", .DECISION_INVALID), ("ACTION_HASH_MISMATCH", .ACTION_HASH_MISMATCH),
    ("QUERY_HASH_MISMATCH", .QUERY_HASH_MISMATCH),
    ("HISTORY_UNVERIFIABLE", .HISTORY_UNVERIFIABLE),
    ("UNVERIFIABLE_SOURCE", .UNVERIFIABLE_SOURCE), ("UNCOMPARABLE_CLOCKS", .UNCOMPARABLE_CLOCKS),
    ("NO_VALID_OBSERVED_WORLD_CUT", .NO_VALID_OBSERVED_WORLD_CUT),
    ("HISTORICAL_BUT_STALE_NOW", .HISTORICAL_BUT_STALE_NOW),
    ("CONSISTENT_DENY", .CONSISTENT_DENY), ("UNSTABLE_WORLD", .UNSTABLE_WORLD),
    ("COMMIT_RACE", .COMMIT_RACE), ("ALREADY_REOBSERVING", .ALREADY_REOBSERVING),
    ("STALE_VIEW", .STALE_VIEW), ("MISSING_ACTION_FIELDS", .MISSING_ACTION_FIELDS),
    ("SESSION_NOT_FOUND", .SESSION_NOT_FOUND), ("UNSUPPORTED_SCHEMA", .UNSUPPORTED_SCHEMA),
    ("PROJECTION_MISMATCH", .PROJECTION_MISMATCH)]

def REFRESH_PLAN_REASON_CODES : List (String × FailureCode) :=
  [("NO_VALID_OBSERVED_WORLD_CUT", .NO_VALID_OBSERVED_WORLD_CUT),
    ("HISTORICAL_BUT_STALE_NOW", .HISTORICAL_BUT_STALE_NOW)]

/-- `ARTIFACT_REF_KINDS` without `ENVELOPE_DIGEST` -/
def OPAQUE_ARTIFACT_REF_KINDS : List (String × RecordRefKind) :=
  [RecordRefKind.ATTEMPT, .ASSIGNMENT, .RUN, .REJECTED_OUTPUT, .RECEIPT, .SOURCE_VERSION,
    .VALIDATION, .PROOF, .REFRESH_PLAN, .PERMIT, .EFFECT].map fun kind => (kind.name, kind)

/-- The states of an attempt that is in flight: all but `ACCEPTED`. -/
def IN_FLIGHT_ATTEMPT_STATES : List (String × AttemptState) :=
  [("ASSIGNMENT_CREATED", .ASSIGNMENT_CREATED), ("DISPATCHING", .DISPATCHING),
    ("QUEUED", .QUEUED), ("RUNNING", .RUNNING), ("COMPLETED", .COMPLETED), ("FAILED", .FAILED),
    ("INTERRUPTED", .INTERRUPTED), ("OUTPUT_REJECTED", .OUTPUT_REJECTED)]

def EVIDENCE_STATES : List (String × EvidenceState) :=
  [("CURRENT", .CURRENT), ("RETAINED", .RETAINED), ("INVALID_AT_HEAD", .INVALID_AT_HEAD)]

def GATE_STATES : List (String × GateState) :=
  [("WAITING", .WAITING), ("CHECKING", .CHECKING), ("LOCKED", .LOCKED), ("READY", .READY),
    ("RELEASED", .RELEASED), ("FAILED", .FAILED)]

def JOINT_VALIDITY_STATES : List (String × JointValidityState) :=
  [("PENDING", .PENDING), ("VALID_CURRENT", .VALID_CURRENT), ("NO_CUT", .NO_CUT),
    ("HISTORICAL_STALE", .HISTORICAL_STALE)]

/-- The states of a plan that is shown: all but `INVALIDATED`. -/
def REFRESH_PLAN_STATES : List (String × RefreshPlanState) :=
  [("AVAILABLE", .AVAILABLE), ("CLAIMED", .CLAIMED), ("COMPLETED", .COMPLETED)]

def COORDINATION_MODES : List (String × CoordinationMode) :=
  [("PENDING", .PENDING), ("CONCURRENT", .CONCURRENT),
    ("SEQUENTIAL_FALLBACK", .SEQUENTIAL_FALLBACK)]

def AVAILABLE_ACTIONS : List (String × AvailableAction) :=
  [("REOBSERVE_INVALID", .REOBSERVE_INVALID), ("COMMIT", .COMMIT)]

def DIAGNOSTIC_KINDS : List (String × DiagnosticKind) :=
  [("EXPECTED_BLOCK", .EXPECTED_BLOCK), ("SYSTEM_FAILURE", .SYSTEM_FAILURE),
    ("TRANSIENT_RACE", .TRANSIENT_RACE)]

def DIAGNOSTIC_STAGES : List (String × DiagnosticStage) :=
  [("DISPATCH", .DISPATCH), ("RUN", .RUN), ("PARSE", .PARSE), ("NORMALIZE", .NORMALIZE),
    ("COMPOSE", .COMPOSE), ("VALIDATE", .VALIDATE), ("PLAN_REFRESH", .PLAN_REFRESH),
    ("ISSUE_PERMIT", .ISSUE_PERMIT), ("COMMIT", .COMMIT), ("EFFECT", .EFFECT),
    ("PROJECTION", .PROJECTION)]

def RECOMMENDED_ACTIONS : List (String × RecommendedAction) :=
  [("NONE", .NONE), ("NEW_SESSION", .NEW_SESSION), ("REOBSERVE_INVALID", .REOBSERVE_INVALID)]

/-! ## The parts of a snapshot -/

def runUsage? : Value → Option RunUsage :=
  strictObject ["inputTokens", "cachedInputTokens", "outputTokens"] fun fields => do
    let inputTokens ← fields.getOptional "inputTokens" count?
    let cachedInputTokens ← fields.getOptional "cachedInputTokens" count?
    let outputTokens ← fields.getOptional "outputTokens" count?
    return { inputTokens, cachedInputTokens, outputTokens }

def artifactRef? : Value → Option ArtifactRef :=
  strictObject ["kind", "id"] fun fields =>
    (do
      fields.get "kind" (literal? "ENVELOPE_DIGEST")
      return .ENVELOPE_DIGEST (← fields.get "id" digest?)) <|>
    (do
      let kind ← fields.get "kind" (oneOf? OPAQUE_ARTIFACT_REF_KINDS)
      return .record kind (← fields.get "id" opaqueId?))

def safetyDiagnosticView? : Value → Option SafetyDiagnostics.SafetyDiagnosticView :=
  strictObject ["diagnosticId", "kind", "stage", "reasonCode", "role", "relevantIds", "auditSeq",
      "recommendedAction"] fun fields => do
    let diagnosticId ← fields.get "diagnosticId" opaqueId?
    let kind ← fields.get "kind" (oneOf? DIAGNOSTIC_KINDS)
    let stage ← fields.get "stage" (oneOf? DIAGNOSTIC_STAGES)
    let reasonCode ← fields.get "reasonCode" (oneOf? FAILURE_CODES)
    let role ← fields.get "role" (nullable (oneOf? ROLE_NAMES))
    let relevantIds ← fields.get "relevantIds" (array? artifactRef?)
    let auditSeq ← fields.get "auditSeq" count?
    let recommendedAction ← fields.get "recommendedAction" (oneOf? RECOMMENDED_ACTIONS)
    return { diagnosticId, kind, stage, reasonCode, role, relevantIds, auditSeq,
             recommendedAction }

def dashboardEvent? : Value → Option DashboardEvent :=
  strictObject ["eventId", "sequence", "type", "status", "role", "summary", "createdAt"]
      fun fields => do
    let eventId ← fields.get "eventId" opaqueId?
    let sequence ← fields.get "sequence" count?
    let type ← fields.get "type" (text? 1 128)
    let status ← fields.get "status" (text? 1 128)
    let role ← fields.get "role" (nullable (oneOf? ROLE_NAMES))
    let summary ← fields.get "summary" (text? 1 1000)
    let createdAt ← fields.get "createdAt" timestamp?
    return { eventId, sequence, type, status, role, summary, createdAt }

def receiptView? : Value → Option ReceiptView :=
  strictObject ["receiptId", "sourceRevision", "observedAtSeq", "validFromSeq", "validUntilSeq"]
      fun fields => do
    let receiptId ← fields.get "receiptId" opaqueId?
    let sourceRevision ← fields.get "sourceRevision" count?
    let observedAtSeq ← fields.get "observedAtSeq" count?
    let validFromSeq ← fields.get "validFromSeq" count?
    let validUntilSeq ← fields.get "validUntilSeq" (nullable count?)
    return { receiptId, sourceRevision, observedAtSeq, validFromSeq, validUntilSeq }

/-- `EvidencePackRelativePathSchema`: the path of a session's pack. -/
def evidencePackRelativePath? (value : Value) : Option JsString := do
  let s ← text? 1 1024 value
  let cs ← asciiChars? s
  match cs.splitOn '/' with
  | [root, sessions, session, role, file] =>
      let name := file.take (file.length - 5)
      if root = ".epochguard".toList && sessions = "sessions".toList &&
          isPathSegment (String.ofList session) &&
          ROLES.any (fun r => r.name.toList = role) &&
          isPathSegment (String.ofList name) && name ++ ".json".toList = file then
        some s
      else none
  | _ => none

def runtimeProofView? : Value → Option RuntimeProofView :=
  strictObject ["assignmentId", "threadId", "runtimeLabel", "roleProfileVersion",
      "promptTemplateVersion", "agentsMdDigest", "evidencePackRelativePath", "evidencePackHash",
      "runStartedAt", "runCompletedAt", "outputDigest", "usage"] fun fields => do
    let assignmentId ← fields.get "assignmentId" opaqueId?
    let threadId ← fields.get "threadId" (nullable (text? 1 512))
    let runtimeLabel ← fields.get "runtimeLabel" (text? 1 256)
    let roleProfileVersion ← fields.get "roleProfileVersion" opaqueId?
    let promptTemplateVersion ← fields.get "promptTemplateVersion" opaqueId?
    let agentsMdDigest ← fields.get "agentsMdDigest" digest?
    let evidencePackRelativePath ← fields.get "evidencePackRelativePath"
      evidencePackRelativePath?
    let evidencePackHash ← fields.get "evidencePackHash" digest?
    let runStartedAt ← fields.get "runStartedAt" (nullable timestamp?)
    let runCompletedAt ← fields.get "runCompletedAt" (nullable timestamp?)
    let outputDigest ← fields.get "outputDigest" (nullable digest?)
    let usage ← fields.get "usage" (nullable runUsage?)
    return { assignmentId, threadId, runtimeLabel, roleProfileVersion, promptTemplateVersion,
             agentsMdDigest, evidencePackRelativePath, evidencePackHash, runStartedAt,
             runCompletedAt, outputDigest, usage }

def activeDecisionView? : Value → Option ActiveDecisionView :=
  strictObject ["certificateId", "runId", "verdict", "factSummary", "evidenceState", "receipt",
      "runtimeProof"] fun fields => do
    let certificateId ← fields.get "certificateId" opaqueId?
    let runId ← fields.get "runId" opaqueId?
    let verdict ← fields.get "verdict" (oneOf? VERDICTS)
    let factSummary ← fields.get "factSummary" (text? 1 500)
    let evidenceState ← fields.get "evidenceState" (oneOf? EVIDENCE_STATES)
    let receipt ← fields.get "receipt" receiptView?
    let runtimeProof ← fields.get "runtimeProof" runtimeProofView?
    return { certificateId, runId, verdict, factSummary, evidenceState, receipt, runtimeProof }

/-- The timeline of the attempt is checked with it (`addAttemptTimelineIssue`). -/
def inFlightAttemptView? : Value → Option InFlightAttemptView :=
  strictObject ["attemptId", "assignmentId", "runId", "status", "runStartedAt",
      "runCompletedAt"] fun fields => do
    let attemptId ← fields.get "attemptId" opaqueId?
    let assignmentId ← fields.get "assignmentId" opaqueId?
    let runId ← fields.get "runId" (nullable opaqueId?)
    let status ← fields.get "status" (oneOf? IN_FLIGHT_ATTEMPT_STATES)
    let runStartedAt ← fields.get "runStartedAt" (nullable timestamp?)
    let runCompletedAt ← fields.get "runCompletedAt" (nullable timestamp?)
    if attemptTimelineIsValid status runId runStartedAt runCompletedAt then
      some { attemptId, assignmentId, runId, status, runStartedAt, runCompletedAt }
    else none

def agentSnapshotView? : Value → Option AgentSnapshotView :=
  strictObject ["role", "agentId", "agentNameAtAssignment", "runCount", "activeDecision",
      "inFlightAttempt"] fun fields => do
    let role ← fields.get "role" (oneOf? ROLE_NAMES)
    let agentId ← fields.get "agentId" opaqueId?
    let agentNameAtAssignment ← fields.get "agentNameAtAssignment" (text? 1 80)
    let runCount ← fields.get "runCount" count?
    let activeDecision ← fields.get "activeDecision" (nullable activeDecisionView?)
    let inFlightAttempt ← fields.get "inFlightAttempt" (nullable inFlightAttemptView?)
    return { role, agentId, agentNameAtAssignment, runCount, activeDecision, inFlightAttempt }

/-- `z.array(AgentSnapshotViewSchema).length(3)` -/
def agents? : Value → Option (PerRole AgentSnapshotView)
  | .arr [i, b, p] => do
      let inventory ← agentSnapshotView? i
      let budget ← agentSnapshotView? b
      let policy ← agentSnapshotView? p
      return { inventory, budget, policy }
  | _ => none

def witnessView? : Value → Option WitnessView :=
  strictObject ["role", "receiptId", "from", "until"] fun fields => do
    let role ← fields.get "role" (oneOf? ROLE_NAMES)
    let receiptId ← fields.get "receiptId" opaqueId?
    let start ← fields.get "from" count?
    let stop ← fields.get "until" (nullable count?)
    return ⟨role, receiptId, start, stop⟩

def witness? : Value → Option (WitnessView × WitnessView)
  | .arr [first, second] => do
      let earliestEnd ← witnessView? first
      let latestStart ← witnessView? second
      return (earliestEnd, latestStart)
  | _ => none

def noCutProofView? : Value → Option NoCutProofView :=
  strictObject ["proofId", "dependencySetHash", "lowerBound", "upperBound", "witness"]
      fun fields => do
    let proofId ← fields.get "proofId" opaqueId?
    let dependencySetHash ← fields.get "dependencySetHash" digest?
    let lowerBound ← fields.get "lowerBound" count?
    let upperBound ← fields.get "upperBound" count?
    let witness ← fields.get "witness" witness?
    return { proofId, dependencySetHash, lowerBound, upperBound, witness }

def snapshotAction? : Value → Option ActionCanonicalFields :=
  strictObject ["type", "campaignId", "requestedUnits", "estimatedCostCents", "market"]
      fun fields => do
    fields.get "type" (literal? "PUBLISH_CAMPAIGN")
    let campaignId ← fields.get "campaignId" opaqueId?
    let requestedUnits ← fields.get "requestedUnits" fun v => (count? v).filter (0 < ·)
    let estimatedCostCents ← fields.get "estimatedCostCents" count?
    fields.get "market" (literal? "SG")
    return { campaignId, requestedUnits, estimatedCostCents }

def gateView? : Value → Option GateView :=
  strictObject ["state", "reasonCode", "effectsInSession", "permitId", "effectId"]
      fun fields => do
    let state ← fields.get "state" (oneOf? GATE_STATES)
    let reasonCode ← fields.get "reasonCode" (nullable (oneOf? FAILURE_CODES))
    let effectsInSession ← fields.get "effectsInSession" count?
    let permitId ← fields.get "permitId" (nullable opaqueId?)
    let effectId ← fields.get "effectId" (nullable opaqueId?)
    return { state, reasonCode, effectsInSession, permitId, effectId }

def metricsView? : Value → Option MetricsView :=
  strictObject ["activeDecisions", "requiredDecisions", "allowDecisions", "denyDecisions",
      "reobservedAgents", "totalAgents", "rerunsAvoided", "verificationLatencyMs"]
      fun fields => do
    let activeDecisions ← fields.get "activeDecisions" (countUpTo? 3)
    fields.get "requiredDecisions" (literalNat? 3)
    let allowDecisions ← fields.get "allowDecisions" (countUpTo? 3)
    let denyDecisions ← fields.get "denyDecisions" (countUpTo? 3)
    let reobservedAgents ← fields.get "reobservedAgents" (countUpTo? 3)
    fields.get "totalAgents" (literalNat? 3)
    let rerunsAvoided ← fields.get "rerunsAvoided" (countUpTo? 2)
    let verificationLatencyMs ← fields.get "verificationLatencyMs" (nullable nonnegative?)
    return { activeDecisions, allowDecisions, denyDecisions, reobservedAgents, rerunsAvoided,
             verificationLatencyMs }

def jointValidityView? : Value → Option JointValidityView :=
  strictObject ["state", "lowerBound", "upperBound", "currentHeadCovered", "noCutProof"]
      fun fields => do
    let state ← fields.get "state" (oneOf? JOINT_VALIDITY_STATES)
    let lowerBound ← fields.get "lowerBound" (nullable count?)
    let upperBound ← fields.get "upperBound" (nullable count?)
    let currentHeadCovered ← fields.get "currentHeadCovered" (nullable boolean?)
    let noCutProof ← fields.get "noCutProof" (nullable noCutProofView?)
    return { state, lowerBound, upperBound, currentHeadCovered, noCutProof }

def refreshPlanView? : Value → Option RefreshPlanView :=
  strictObject ["refreshPlanId", "status", "agentIds", "reasonCode"] fun fields => do
    let refreshPlanId ← fields.get "refreshPlanId" opaqueId?
    let status ← fields.get "status" (oneOf? REFRESH_PLAN_STATES)
    let agentIds ← fields.get "agentIds" fun v =>
      (arrayUpTo? 3 opaqueId? v).filter fun ids => 1 ≤ ids.length
    let reasonCode ← fields.get "reasonCode" (oneOf? REFRESH_PLAN_REASON_CODES)
    return { refreshPlanId, status, agentIds, reasonCode }

def CONTRACT_VERSION : String := "epochguard-contract-v8"

def CONTRACT_DIGEST : String :=
  "sha256:127f9fcf14bd15d89db5d6a071484c622e12a5004721becab19961bc289d913a"

/-- `SessionDashboardSnapshotShapeSchema` -/
def snapshotShape? : Value → Option Snapshot :=
  strictObject ["schemaVersion", "contractVersion", "contractDigest", "snapshotRevision",
      "sessionRevision", "stateUpdatedAt", "generatedAt", "sessionId", "scenarioId",
      "coordinationMode", "sessionState", "action", "actionHash", "worldHead", "gate", "metrics",
      "agents", "jointValidity", "refreshPlan", "availableActions", "latestDiagnostics",
      "events"] fun fields => do
    fields.get "schemaVersion" (literalNat? 1)
    fields.get "contractVersion" (literal? CONTRACT_VERSION)
    fields.get "contractDigest" (literal? CONTRACT_DIGEST)
    let snapshotRevision ← fields.get "snapshotRevision" count?
    let sessionRevision ← fields.get "sessionRevision" count?
    let stateUpdatedAt ← fields.get "stateUpdatedAt" timestamp?
    let generatedAt ← fields.get "generatedAt" timestamp?
    let sessionId ← fields.get "sessionId" opaqueId?
    let scenarioId ← fields.get "scenarioId" (oneOf? SCENARIO_IDS)
    let coordinationMode ← fields.get "coordinationMode" (oneOf? COORDINATION_MODES)
    let sessionState ← fields.get "sessionState" (oneOf? SESSION_STATES)
    let action ← fields.get "action" snapshotAction?
    let actionHash ← fields.get "actionHash" digest?
    let worldHead ← fields.get "worldHead" count?
    let gate ← fields.get "gate" gateView?
    let metrics ← fields.get "metrics" metricsView?
    let agents ← fields.get "agents" agents?
    let jointValidity ← fields.get "jointValidity" jointValidityView?
    let refreshPlan ← fields.get "refreshPlan" (nullable refreshPlanView?)
    let availableActions ← fields.get "availableActions"
      (arrayUpTo? 2 (oneOf? AVAILABLE_ACTIONS))
    let latestDiagnostics ← fields.get "latestDiagnostics" (arrayUpTo? 3 safetyDiagnosticView?)
    let events ← fields.get "events" (arrayUpTo? 6 dashboardEvent?)
    return { snapshotRevision, sessionRevision, stateUpdatedAt, generatedAt, sessionId,
             scenarioId, coordinationMode, sessionState, action, actionHash, worldHead, gate,
             metrics, agents, jointValidity, refreshPlan, availableActions, latestDiagnostics,
             events }

/-- `SessionDashboardSnapshotSchema.safeParse` -/
def decodeSnapshot [Sha256] (value : Value) : Option Snapshot :=
  (snapshotShape? value).filter fun snapshot => addSnapshotInvariantIssues snapshot = []

end SnapshotContract

end EpochGuard
