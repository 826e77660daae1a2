import Roster.Api.Answers
import Roster.Api.Document
import Roster.Api.Forms
import Roster.Api.Replies
import Roster.Api.Route
import Roster.ApiError
import Roster.Base64
import Roster.Decimal.Binary64
import Roster.Digits
import Roster.EmailRule
import Roster.Failure
import Roster.Hash.Argon2
import Roster.Hash.Blake2b
import Roster.Hash.Bytes
import Roster.Hash.Hmac
import Roster.Hash.Sha2
import Roster.Http.Boundary
import Roster.Http.MediaType
import Roster.Http.Message
import Roster.Http.Target
import Roster.Http.Traffic
import Roster.Json.Error
import Roster.Json.Reader
import Roster.Json.Record
import Roster.Json.Scalars
import Roster.Json.Value
import Roster.Limiter
import Roster.Membership
import Roster.Moment
import Roster.Net.Address
import Roster.Net.Domain
import Roster.Net.DomainTable
import Roster.Net.Punycode
import Roster.Net.Url
import Roster.Password.Cost
import Roster.Password.Hasher
import Roster.Password.Stored
import Roster.Program
import Roster.Role
import Roster.Service.Credentials
import Roster.Service.Members
import Roster.Service.Workspaces
import Roster.Settings.DatabaseAddress
import Roster.Settings.EnvFile
import Roster.Settings.Ini
import Roster.Settings.Listen
import Roster.Settings.Number
import Roster.Settings.Service
import Roster.Settings.Source
import Roster.Settings.Toml
import Roster.Settings.Tree
import Roster.Settings.Yaml
import Roster.Site
import Roster.Store.Error
import Roster.Store.State
import Roster.Store.Table
import Roster.Text.BidiTable
import Roster.Text.Blank
import Roster.Text.CaseTable
import Roster.Text.Lowercase
import Roster.Text.Normal
import Roster.Text.NormalTable
import Roster.Text.PrintableTable
import Roster.Text.Quoted
import Roster.Text.Rows
import Roster.Text.Utf8
import Roster.Token.Algorithm
import Roster.Token.Claims
import Roster.Token.Codec
import Roster.Token.Header
import Roster.Token.Issuer
import Roster.Token.Key
import Roster.User
import Roster.Uuid
import Roster.Validation
import Roster.Workspace
import Roster.World
import Roster.Proofs.Service.Runs
import Roster.Proofs.Service.Command
import Roster.Proofs.Service.Roll
import Roster.Proofs.Service.Decisions
import Roster.Proofs.Service.Ownership
import Roster.Proofs.Base64
import Roster.Proofs.Json.Reading
import Roster.Proofs.Service.Outcomes
import Roster.Proofs.Store.Saves
import Roster.Proofs.Text.Encoding
import Roster.Proofs.Text.Splitting
import Roster.Proofs.Text.NormalForm
import Roster.Proofs.Token.Claims
import Roster.Proofs.Uuid
import Roster.Proofs.Token.Codec
import Roster.Proofs.Token.Issue
import Roster.Proofs.Service.Sessions
import Roster.Proofs.Store.Clients
import Roster.Proofs.Service.Escalation
import Roster.Proofs.Service.UnitOfWork
import Roster.Proofs.Service.Pool
import Roster.Proofs.Service.Interleaving
import Roster.Proofs.Json.Lexing
import Roster.Proofs.Json.Following
import Roster.Proofs.Json.Nesting
import Roster.Proofs.Json.Keys
import Roster.Proofs.Token.Agreement
import Roster.Proofs.Token.Soundness
import Roster.Proofs.Service.Failures
import Roster.Proofs.Store.Versions
import Roster.Proofs.Store.Growth
import Roster.Proofs.Service.Views
import Roster.Proofs.Service.History
import Roster.Proofs.Service.Deletion
import Roster.Proofs.Service.Conflicts
import Roster.Proofs.Service.Accounts
import Roster.Proofs.Service.Registration
import Roster.Proofs.Api.Calls
import Roster.Proofs.Api.Boundary
import Roster.Proofs.Service.Standings
import Roster.Proofs.Service.Demotion
import Roster.Proofs.Service.Denial
import Roster.Proofs.Service.Headcount
import Roster.Proofs.Service.Privacy
import Roster.Proofs.Limits.Quota
import Roster.Proofs.Limits.Arrivals
import Roster.Proofs.Limits.Budget
import Roster.Proofs.Limits.Waiting
import Roster.Proofs.Service.Upholding
import Roster.Proofs.Service.Addresses
import Roster.Proofs.Api.Fields
import Roster.Proofs.Digits
import Roster.Proofs.Hash.Lengths
import Roster.Proofs.Password.Grammar
import Roster.Proofs.Password.Verification
import Roster.Proofs.Store.Orders
import Roster.Proofs.Settings.Checks
import Roster.Proofs.Settings.Production
import Roster.Proofs.Api.Headers
