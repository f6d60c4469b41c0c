import Passwd.InteractionPool
import Passwd.Base64Text
import Passwd.JsonRoundTrip
import Passwd.VaultItem
import Passwd.VaultListing
import Passwd.IdentifierNormalization
import Passwd.RowTable
import Passwd.ServerStore
import Passwd.ServerEffects
import Passwd.PasskeyRecord
import Passwd.ServerAuth
import Passwd.ServerHandlers
import Passwd.ServerPasskeys
import Passwd.ServerRecovery
import Passwd.ServerTransitions
import Passwd.ServerRequests
import Passwd.ServerAssertions
import Passwd.RefreshTokenRuns
import Passwd.TotpRuns
import Passwd.TokenIssuance
import Passwd.EncString
import Passwd.KeyHierarchy
import Passwd.ClientSession
import Passwd.AccountRequests
import Passwd.ClientRuns
import Passwd.KeySurvival
import Passwd.ItemShape
import Passwd.ItemRoundTrip
import Passwd.ItemNormalization
import Passwd.VaultExport
import Passwd.ExportRoundTrip
import Passwd.HostMatching
import Passwd.ExtensionLocking
import Passwd.ExtensionSession
import Passwd.RequestScope
import Passwd.InteractionLog
import Passwd.LockoutRuns
import Passwd.RefreshFamilies
import Passwd.StoreIntegrity
import Passwd.StoreChanges
import Passwd.TableChange
import Passwd.OwnerIsolation
import Passwd.MessageDeduction
import Passwd.ItemSharing
import Passwd.SymbolicClient
import Passwd.ZeroKnowledge
import Passwd.ConcurrentLockout
import Passwd.PartialFailures
import Passwd.FailedSignIns
import Passwd.ExistenceOracle
import Passwd.StoreAgreement
import Passwd.AccountDeletion
import Passwd.AuditCompleteness
import Passwd.OfflineVault
import Passwd.VaultSessions
import Passwd.DesktopActions
import Passwd.DesktopUpdates
import Passwd.JsonPrefix
import Passwd.InterruptedSaves
import Passwd.CsvText
import Passwd.CsvRoundTrip
import Passwd.ImportAgreement
import Passwd.SharedItemSecrecy
import Passwd.ChallengeStore
import Passwd.ClientAddresses
import Passwd.CeremonyRuns
import Passwd.SignatureCounters
import Passwd.ItemFormats
import Passwd.EnvelopeCodec
import Passwd.AccessTokens
import Passwd.Base32Text
import Passwd.BreachReports
import Passwd.FixedWindow
import Passwd.MarkedLog
import Passwd.RateLimits
import Passwd.SealedSecrets
import Passwd.SignInAlerts
import Passwd.TotpAgreement
import Passwd.TotpSecrets
import Passwd.BackupRestore
import Passwd.ShareReads
import Passwd.HttpAccess
import Passwd.RequestArrival
