import EpochGuard.EffectGateSafety
import EpochGuard.EffectRetry
import EpochGuard.EffectRace
import EpochGuard.SessionHistory
import EpochGuard.Replay
import EpochGuard.RunDispatch
import EpochGuard.OutputAcceptance
import EpochGuard.RefreshClaims
import EpochGuard.RoleJoin
import EpochGuard.SnapshotSafety
import EpochGuard.WebSha256
import EpochGuard.CanonicalHashes
import EpochGuard.ReceiptVersions
import EpochGuard.SessionController
import EpochGuard.AgentStops
import EpochGuard.AgentTranscripts
import EpochGuard.DualScenario
import EpochGuard.CodexRunner
import EpochGuard.PackWrites
import EpochGuard.StoreRestarts
import EpochGuard.AgentRoutes
import EpochGuard.WrittenDecisions
