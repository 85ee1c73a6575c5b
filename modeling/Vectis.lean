import Vectis.Core.Sharing.Reconstruct
import Vectis.Core.Sharing.Combine
import Vectis.Core.Storage.Erasure
import Vectis.Core.Storage.TokenBatch
import Vectis.Io.Http.OneTime
import Vectis.Io.Http.KeyCache
import Vectis.Io.Http.Auth
import Vectis.Core.AuditChain.Durability
import Vectis.Core.AuditChain.Tamper
import Vectis.Core.Aad
import Vectis.Core.ErrorDetail
import Vectis.Core.HostPort
import Vectis.Core.Fpe.Format
import Vectis.Core.SubjectSeeds
import Vectis.Core.DomainAad
import Vectis.Io.Http.ConfigReload
import Vectis.Io.Http.Derivations
import Vectis.Io.Http.KeyLoad
import Vectis.Ops.KeyLoad
import Vectis.Ops.Message.Delivery
import Vectis.Ops.Message.Transport
import Vectis.Ops.Sharing
import Vectis.Ops.SignedTokens
import Vectis.Ops.Tokenization
import Vectis.Core.Blocking
import Vectis.Core.ConfigLoader.EnvRender
import Vectis.Core.Masking
import Vectis.Core.TimeAttestation
import Vectis.Io.Cli.ConfigStore
import Vectis.Io.Cli.ConfigWrite
import Vectis.Io.Cli.OfflineValidation
import Vectis.Io.Cli.KeyFiles
import Vectis.Io.Http.Time
import Vectis.Ops.Commitments
import Vectis.Ops.KeyIndex
import Vectis.Core.RemoteRoutes
import Vectis.Ops.ConfigSignature
import Vectis.Ops.SlhDsa.Artifacts
