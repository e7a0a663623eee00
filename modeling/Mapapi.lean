import Mapapi.Lib.Table
import Mapapi.Lib.Prog
import Mapapi.Lib.Runs
import Mapapi.Models
import Mapapi.Permissions
import Mapapi.Requests
import Mapapi.Orm
import Mapapi.Resolution
import Mapapi.TakeInCharge
import Mapapi.Collaborations
import Mapapi.OrgAssignments
import Mapapi.Participation
import Mapapi.Tasks
import Mapapi.Server
import Mapapi.Engagement
import Mapapi.Refinement
import Mapapi.Definitive
import Mapapi.Coverage
import Mapapi.Leadership
import Mapapi.AntiGel
import Mapapi.Tacit
import Mapapi.OneWinner
import Mapapi.Joining
import Mapapi.Accounts
import Mapapi.Acting
import Mapapi.Escalation
import Mapapi.IncidentTasks
import Mapapi.TaskRows
import Mapapi.TaskWrites
import Mapapi.IncidentPut
import Mapapi.Workflow
import Mapapi.Closure
import Mapapi.Failures
import Mapapi.Progress
import Mapapi.Declared
import Mapapi.Membership
import Mapapi.Consent
import Mapapi.Lib.Protocol
import Mapapi.Prologue
import Mapapi.AnsweredOnce
import Mapapi.Timers
import Mapapi.ConcurrentProgress
import Mapapi.Interventions
import Mapapi.PermissionChain
import Mapapi.Trash
import Mapapi.Purge
import Mapapi.PinLogin
import Mapapi.Lib.Alone
import Mapapi.LastAdmin
import Mapapi.Chat
import Mapapi.UserRemoval
import Mapapi.Destruction
import Mapapi.Lib.Broker
import Mapapi.Consumers
import Mapapi.PublicViews
import Mapapi.BulkTrash
import Mapapi.Accepting
import Mapapi.BulkFold
import Mapapi.Predictions
import Mapapi.Lib.Aggregate
import Mapapi.Impact
import Mapapi.Points
import Mapapi.Lib.Seen
import Mapapi.PasswordResets
import Mapapi.OneTimeCodes
import Mapapi.Ivr
import Mapapi.Dispatch
import Mapapi.FieldReports
import Mapapi.LeaderNotices
import Mapapi.Suggestions
import Mapapi.TaskCreation
import Mapapi.Posting
import Mapapi.Periods
import Mapapi.WeekReports
import Mapapi.PredictionMapper
import Mapapi.Percentage
import Mapapi.Lib.Replica
import Mapapi.Lib.Delivery
import Mapapi.TaskBoard
import Mapapi.Lib.Footprint
import Mapapi.Footprint
import Mapapi.Isolation
import Mapapi.Lib.Paging
import Mapapi.Inbox
import Mapapi.Lib.Drain
import Mapapi.PeriodicTasks
import Mapapi.Lib.View
import Mapapi.Assistant
import Mapapi.Lib.Register
import Mapapi.PinRequests
import Mapapi.AgentPins
