import AuthService.Rotation
import AuthService.BruteForce
import AuthService.AutoUnlock
import AuthService.Lockout
import AuthService.Reuse
import AuthService.Chains
import AuthService.Failures
import AuthService.Authentication
import AuthService.ResetRace
import AuthService.SessionCap
import AuthService.AccessTokens
import AuthService.Reconnect
import AuthService.EventDelivery
import AuthService.UnlockJob
import AuthService.Deletion
import AuthService.Enumeration
import AuthService.Blacklist
import AuthService.Privileges
import AuthService.EventStream
import AuthService.AuditTrail
import AuthService.Statuses
import AuthService.MaxSessions
import AuthService.Lifecycle
import AuthService.Interruptions
import AuthService.RoleChanges
import AuthService.Retries
import AuthService.OverEviction
import AuthService.Dating
import AuthService.ForensicWindow
import AuthService.DanglingLinks
import AuthService.NonInterference
import AuthService.ValidationPipe
import AuthService.RevocationRecords
import AuthService.Introspection
import AuthService.DeviceIdentity
import AuthService.RevokeToken
import AuthService.Configuration
import AuthService.Expiries
import AuthService.Registration
import AuthService.Provenance
import AuthService.RoleProvenance
import AuthService.Reports
import AuthService.ResetCleanup
import AuthService.Interlinking
import AuthService.Ingress
import AuthService.RedisOutage
import AuthService.PasswordSecrecy
