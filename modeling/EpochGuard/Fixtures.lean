import EpochGuard.ReceiptIssuer

/-!
# Fixtures

`fixtures.ts`: the two demonstration scenarios, as the World commits and the
captures of a new session.
-/

namespace EpochGuard

open Json Checked

namespace Fixtures

def FIXTURE_ACTION : ActionCanonicalFields where
  campaignId := ⟨"campaign_42", by decide⟩
  requestedUnits := 1
  estimatedCostCents := 500000

/-- A value that the fixture commits to a resource, under the source's own
revision if it has one. -/
structure FixtureResourceChange where
  source : Source
  entityKey : OpaqueId
  value : Value
  sourceRevision : Option Nat := none

/-- A commit of the fixture, which must become the commit of a given number. -/
structure FixtureCommitStep where
  expectedSeq : Nat
  reason : String
  createdAt : Timestamp
  changes : List FixtureResourceChange

/-- A role observes the world at a given head. -/
structure FixtureCaptureStep where
  role : Role
  expectedHeadSeq : Nat
deriving DecidableEq

/-- A step of the scenario before the session waits for decisions. -/
inductive FixtureInitialStep where
  | commit (step : FixtureCommitStep)
  | capture (step : FixtureCaptureStep)

/-- A scenario: how the world starts, what is to be done in it, and when each
role looks. -/
structure EpochGuardFixture where
  scenarioId : ScenarioId
  bootstrapHeadSeq : Nat
  action : ActionCanonicalFields
  initialSteps : List FixtureInitialStep
  refreshCapture : Option FixtureCaptureStep

/-- The entity of a source in the fixture World. -/
def fixtureEntity : Source → OpaqueId
  | .inventory | .budget => FIXTURE_ACTION.campaignId
  | .policy => market

def availableUnits (n : Nat) : Value := jobj [("availableUnits", jnat n)]
def remainingBudgetCents (n : Nat) : Value := jobj [("remainingBudgetCents", jnat n)]
def permitted (b : Bool) : Value := jobj [("permitted", .bool b)]

def change (source : Source) (value : Value) : FixtureResourceChange where
  source := source
  entityKey := fixtureEntity source
  value := value

def normalFixture : EpochGuardFixture where
  scenarioId := .normalWorldV1
  bootstrapHeadSeq := 9
  action := FIXTURE_ACTION
  initialSteps :=
    [.commit
      { expectedSeq := 10
        reason := "normal fixture establishes one jointly valid World cut"
        createdAt := ⟨"2025-01-01T00:00:10.000Z", 1735689610000⟩
        changes := [change .inventory (availableUnits 1),
          change .budget (remainingBudgetCents 800000), change .policy (permitted true)] },
      .capture ⟨.inventory, 10⟩, .capture ⟨.budget, 10⟩, .capture ⟨.policy, 10⟩]
  refreshCapture := none

def impossibleFixture : EpochGuardFixture where
  scenarioId := .impossibleCollageV1
  bootstrapHeadSeq := 17
  action := FIXTURE_ACTION
  initialSteps :=
    [.commit
      { expectedSeq := 18
        reason := "impossible fixture publishes inventory availability"
        createdAt := ⟨"2025-01-01T00:00:18.000Z", 1735689618000⟩
        changes := [change .inventory (availableUnits 1)] },
      .capture ⟨.inventory, 18⟩,
      .commit
      { expectedSeq := 19
        reason := "impossible fixture publishes sufficient budget"
        createdAt := ⟨"2025-01-01T00:00:19.000Z", 1735689619000⟩
        changes := [change .budget (remainingBudgetCents 800000)] },
      .capture ⟨.budget, 19⟩,
      .commit
      { expectedSeq := 20
        reason := "impossible fixture exhausts budget"
        createdAt := ⟨"2025-01-01T00:00:20.000Z", 1735689620000⟩
        changes := [change .budget (remainingBudgetCents 0)] },
      .commit
      { expectedSeq := 21
        reason := "impossible fixture publishes policy permission"
        createdAt := ⟨"2025-01-01T00:00:21.000Z", 1735689621000⟩
        changes := [change .policy (permitted true)] },
      .capture ⟨.policy, 21⟩]
  refreshCapture := some ⟨.budget, 21⟩

/-- The fixture of a scenario. -/
def getEpochGuardFixture : ScenarioId → EpochGuardFixture
  | .normalWorldV1 => normalFixture
  | .impossibleCollageV1 => impossibleFixture

variable [Sha256]

/-- `fixture.querySpecs[role]` -/
def EpochGuardFixture.querySpec (fixture : EpochGuardFixture) (role : Role) : RoleQuerySpec :=
  buildRoleQuerySpec fixture.action role

/-- The intent of a session: the action of its scenario under the identifiers of
the session. -/
def buildFixtureActionIntent (scenarioId : ScenarioId) (sessionId actionId : OpaqueId) :
    Except String ActionIntent := do
  let fixture := getEpochGuardFixture scenarioId
  let hashedAction := actionHash fixture.action
  let intent : ActionIntent :=
    { fixture.action with
      actionId
      sessionId
      actionHash := hashedAction
      idempotencyKey := idempotencyKeyFor sessionId hashedAction }
  require intent.parses "Invalid ActionIntent"
  return intent

/-- Starts a scenario at its declared boundary; it never rewinds history. -/
def initializeFixtureWorld (world : World) (fixture : EpochGuardFixture) :
    Except String World := do
  require (world.headSeq = 0 ∧ world.worldCommits = [] ∧ world.resourceVersions = [])
    "Fixture World initialization requires an empty World ledger"
  return { world with headSeq := fixture.bootstrapHeadSeq }

def commitInputFor (step : FixtureCommitStep) : Except String WorldLedger.WorldCommitInput := do
  let changes ← step.changes.mapM fun c => do
    let resourceId ← orStop (resourceIdFor c.source c.entityKey) "Invalid resource identifier"
    return { resourceId := resourceId.val, value := c.value,
             sourceRevision := some (natNumber (c.sourceRevision.getD step.expectedSeq)) }
  return { changes, reason := step.reason, expectedSeq := some (natNumber step.expectedSeq),
           createdAt := some step.createdAt }

/-- Applies one commit step of a fixture at its declared sequence. -/
def applyFixtureCommit (world : World) (step : FixtureCommitStep) : Except String World := do
  let input ← commitInputFor step
  let committed ← WorldLedger.commit world input
  return committed.1

end Fixtures

end EpochGuard
