import AtronixX.Library.Transition
import AtronixX.Library.Tables
import AtronixX.Library.Sealed
import AtronixX.Library.Fallible
import AtronixX.Errors
import AtronixX.Crypto
import AtronixX.Database
import AtronixX.Storage
import AtronixX.VaultPairing
import AtronixX.RestoreLoss
import AtronixX.BackupConsistency
import AtronixX.Gate
import AtronixX.GateSoundness
import AtronixX.Connection
import AtronixX.Registry
import AtronixX.TrustBinding
import AtronixX.SessionCap
import AtronixX.AccountDeletion
import AtronixX.Sftp
import AtronixX.SftpCoherence
import AtronixX.SftpDelete
import AtronixX.Live
import AtronixX.Library.Custody
import AtronixX.Ownership
import AtronixX.Orphans
import AtronixX.Zombies
import AtronixX.CloseTarget
import AtronixX.Enforcement
import AtronixX.Library.AsyncLock
import AtronixX.OrderedProcessor
import AtronixX.Library.Chunks
import AtronixX.Library.Regex
import AtronixX.PtyFeed
import AtronixX.Library.Text
import AtronixX.Library.Bounded
import AtronixX.Scrollback
import AtronixX.FirstContact
import AtronixX.AddressTrust
import AtronixX.Library.Address
import AtronixX.Library.AddressText
import AtronixX.PublicTarget
import AtronixX.Notices
import AtronixX.Library.Owned
import AtronixX.HostStore
import AtronixX.Groups
import AtronixX.Library.Programs
import AtronixX.Library.Numerals
import AtronixX.Library.TextPattern
import AtronixX.Callbacks
import AtronixX.Wizard
import AtronixX.WizardCompleteness
import AtronixX.Handlers
import AtronixX.AdminHandlers
import AtronixX.HandlerCalls
import AtronixX.AdminPowers
import AtronixX.HostQuota
import AtronixX.Schema
import AtronixX.RestoredSchema
import AtronixX.BackupFormat
import AtronixX.BackupRoundTrip
import AtronixX.Keyboards
import AtronixX.Buttons
import AtronixX.ButtonRouting
import AtronixX.Library.EnvFile
import AtronixX.Config
import AtronixX.Installer
import AtronixX.Configuration
import AtronixX.Library.SlidingWindow
import AtronixX.RateLimit
import AtronixX.Library.Calendars
import AtronixX.JalaliDate
import AtronixX.FieldChecks
import AtronixX.WizardCredentials
import AtronixX.IdleClose
import AtronixX.RenderedView
import AtronixX.RenderLoop
import AtronixX.BroadcastLock
import AtronixX.SftpUpload
import AtronixX.BackupOpening
import AtronixX.Subscriptions
import AtronixX.Library.Renewals
import AtronixX.PaidTime
import AtronixX.Library.Turns
import AtronixX.ToolQuota
import AtronixX.PaperRoll
import AtronixX.Messages
import AtronixX.Pagination
import AtronixX.Library.Contracts
import AtronixX.Rows
import AtronixX.RowContracts
import AtronixX.RowInvariant
import AtronixX.Library.Transactions
import AtronixX.DatabaseLock
import AtronixX.Library.AsyncSemaphore
import AtronixX.Transfers
import AtronixX.Membership
import AtronixX.TerminalInput
import AtronixX.Broadcast
import AtronixX.Library.Base64
import AtronixX.Encodings
import AtronixX.SftpTree
import AtronixX.Dispatch
import AtronixX.SavedHost
import AtronixX.KeyFile
import AtronixX.Announcements
import AtronixX.BackupSchedule
import AtronixX.WizardSecrecy
