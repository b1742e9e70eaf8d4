import PppManager.Effect.Machine
import PppManager.CText.Scan
import PppManager.Manager.Clients
import PppManager.Manager.Kills
import PppManager.Manager.LinkEvents
import PppManager.Manager.Sessions
import PppManager.Manager.Status
import PppManager.Shell.Words
import PppManager.Manager.Credentials
import PppManager.Effect.Backlog
import PppManager.Manager.EventLoop
import PppManager.Manager.Launches
import PppManager.Effect.Lockstep
import PppManager.Manager.Blind
import PppManager.Manager.InsertedReads
import PppManager.Manager.LinkKeys
import PppManager.Manager.Local
import PppManager.Manager.Points
import PppManager.Manager.Numbers
import PppManager.Manager.Connected
import PppManager.Manager.Isolation
import PppManager.Manager.WanKeys
import PppManager.Effect.Loops
import PppManager.Manager.TableBounds
import PppManager.Manager.Reload
import PppManager.Effect.Fields
import PppManager.Manager.Rollback
import PppManager.Manager.Locks
import PppManager.Manager.Balance
import PppManager.Manager.LockDiscipline
import PppManager.Manager.WanAccess
import PppManager.Effect.Pool
import PppManager.Manager.Deadlock
import PppManager.Manager.Search
import PppManager.Manager.IfStats
import PppManager.Manager.Addresses
import PppManager.Manager.IpcpParams
import PppManager.Manager.LastChange
import PppManager.Manager.Socket
import PppManager.Manager.Mapped
import PppManager.Effect.Checked
import PppManager.Manager.LostEvents
import PppManager.Manager.Arrays
import PppManager.Effect.Timers
import PppManager.Manager.Disconnects
import PppManager.Manager.Recipients
import PppManager.Manager.NullEntries
import PppManager.Manager.RejectedParams
import PppManager.Manager.StartReports
import PppManager.Manager.Truncation
import PppManager.Manager.WanLookup
import PppManager.Manager.Processes
import PppManager.CText.Matches
import PppManager.Manager.VendorParams
import PppManager.Manager.Resets
import PppManager.Manager.Ipv6cpParams
import PppManager.Manager.StringGetters
import PppManager.Effect.Steady
import PppManager.Manager.Getters
import PppManager.Manager.SetGet
import PppManager.Manager.SessionData
import PppManager.Manager.SessionTable
import PppManager.Manager.Provisioning
import PppManager.Effect.Views
import PppManager.Effect.Endings
import PppManager.Effect.Traces
import PppManager.Manager.Sections
import PppManager.Manager.SectionPoints
import PppManager.Manager.Interleavings
import PppManager.Manager.Waiting
import PppManager.Manager.Deliveries
import PppManager.Manager.CatchingUp
import PppManager.Manager.SessionModel
import PppManager.Manager.SessionRuns
import PppManager.Files.Tree
import PppManager.Manager.DuidFiles
