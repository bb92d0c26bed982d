import X424.AcceptanceRaces
import X424.Api.AuthorizedIssuance
import X424.Api.IssuedRequirement
import X424.Api.ResultRoutes
import X424.Api.VerifyRoute
import X424.Auth.Issuance
import X424.Auth.Resources
import X424.Base64
import X424.Canonical
import X424.CanonicalOrder
import X424.ChallengeSize
import X424.Client.Order
import X424.Client.SignatureRoundTrip
import X424.Handoff.Cancellation
import X424.Handoff.Completion
import X424.Handoff.Equivalence
import X424.Handoff.Readback
import X424.Handoff.Release
import X424.Keys.PairwiseDeriver
import X424.ManagedIssuance
import X424.Metadata.SignedMetadata
import X424.Middleware.HeaderReplay
import X424.Middleware.Rejection
import X424.Middleware.Retry
import X424.Middleware.Soundness
import X424.Ops.Limits
import X424.Ops.Redaction
import X424.Ops.RedisLimits
import X424.ProofHeader
import X424.ProviderReplayRuns
import X424.ProviderSlots
import X424.Providers.WorldAgreement
import X424.Providers.WorldBinding
import X424.Providers.WorldPaths
import X424.Providers.WorldProfile
import X424.Providers.WorldRequests
import X424.Providers.WorldSessions
import X424.RequirementEquivalence
import X424.RequirementReadings
import X424.ResultStores
import X424.Schemas.Requirement
import X424.SingleUse
import X424.TenantIsolation
