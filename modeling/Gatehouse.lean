import Gatehouse.Auth.Flow
import Gatehouse.Auth.State
import Gatehouse.Decimal.Binary64
import Gatehouse.Decimal.Reading
import Gatehouse.Decimal.Width
import Gatehouse.Digest.Argon2
import Gatehouse.Digest.Blake2b
import Gatehouse.Digest.Hmac
import Gatehouse.Digest.Row
import Gatehouse.Digest.Sha256
import Gatehouse.Encoding.Base64
import Gatehouse.Encoding.Hex
import Gatehouse.Error
import Gatehouse.Files
import Gatehouse.Http.ApiError
import Gatehouse.Http.Bearer
import Gatehouse.Http.Components
import Gatehouse.Http.ContentType
import Gatehouse.Http.Form
import Gatehouse.Http.Guard
import Gatehouse.Http.Request
import Gatehouse.Http.Service
import Gatehouse.Identity.Role
import Gatehouse.Identity.User
import Gatehouse.Json.Fault
import Gatehouse.Json.Record
import Gatehouse.Json.Scan
import Gatehouse.Json.Value
import Gatehouse.Main
import Gatehouse.Password.Command
import Gatehouse.Password.HashText
import Gatehouse.Password.Verify
import Gatehouse.Pattern.CharSet
import Gatehouse.Pattern.Engine
import Gatehouse.Pattern.Glob
import Gatehouse.Pattern.Key
import Gatehouse.Pattern.Regex
import Gatehouse.Pattern.Syntax
import Gatehouse.Policy.Default
import Gatehouse.Policy.Engine
import Gatehouse.Policy.Matcher
import Gatehouse.Policy.Model
import Gatehouse.Policy.Rule
import Gatehouse.Policy.Source
import Gatehouse.Proofs.Auth.AccessToken
import Gatehouse.Proofs.Auth.Failures
import Gatehouse.Proofs.Auth.FirstFailure
import Gatehouse.Proofs.Auth.Flow
import Gatehouse.Proofs.Auth.Logout
import Gatehouse.Proofs.Auth.Refresh
import Gatehouse.Proofs.Auth.Run
import Gatehouse.Proofs.Auth.Sessions
import Gatehouse.Proofs.Decimal.Reading
import Gatehouse.Proofs.Decimal.Shortest
import Gatehouse.Proofs.Digest.Length
import Gatehouse.Proofs.Encoding.Base64
import Gatehouse.Proofs.Encoding.Hex
import Gatehouse.Proofs.Http.Bearer
import Gatehouse.Proofs.Http.ErrorPage
import Gatehouse.Proofs.Http.Forms
import Gatehouse.Proofs.Http.Grants
import Gatehouse.Proofs.Http.Identity
import Gatehouse.Proofs.Http.RefreshToken
import Gatehouse.Proofs.Http.Run
import Gatehouse.Proofs.Http.Startup
import Gatehouse.Proofs.Http.Unanswered
import Gatehouse.Proofs.Http.Whoami
import Gatehouse.Proofs.Identity.History
import Gatehouse.Proofs.Identity.Role
import Gatehouse.Proofs.Identity.Seed
import Gatehouse.Proofs.Json.Number
import Gatehouse.Proofs.Json.Record
import Gatehouse.Proofs.Json.Scalar
import Gatehouse.Proofs.Json.Skip
import Gatehouse.Proofs.Lookup
import Gatehouse.Proofs.Outcome
import Gatehouse.Proofs.Password.Command
import Gatehouse.Proofs.Password.Hash
import Gatehouse.Proofs.Pattern.Engine
import Gatehouse.Proofs.Pattern.Matching
import Gatehouse.Proofs.Pattern.Path
import Gatehouse.Proofs.Policy.Builtin
import Gatehouse.Proofs.Policy.Consulted
import Gatehouse.Proofs.Policy.Decision
import Gatehouse.Proofs.Policy.DefaultRules
import Gatehouse.Proofs.Policy.Groupings
import Gatehouse.Proofs.Policy.Lines
import Gatehouse.Proofs.Policy.OtherSubjects
import Gatehouse.Proofs.Policy.Precedence
import Gatehouse.Proofs.Policy.Run
import Gatehouse.Proofs.Policy.Text
import Gatehouse.Proofs.Session.History
import Gatehouse.Proofs.Session.Store
import Gatehouse.Proofs.Settings.Checked
import Gatehouse.Proofs.Settings.Environment
import Gatehouse.Proofs.Settings.Field
import Gatehouse.Proofs.Settings.Layer
import Gatehouse.Proofs.Settings.Lifetime
import Gatehouse.Proofs.Settings.Precedence
import Gatehouse.Proofs.Settings.Scalar
import Gatehouse.Proofs.Settings.Tree
import Gatehouse.Proofs.Settings.Variable
import Gatehouse.Proofs.Text.Blank
import Gatehouse.Proofs.Text.Order
import Gatehouse.Proofs.Text.Utf8
import Gatehouse.Proofs.Time.Instant
import Gatehouse.Proofs.Token.Claims
import Gatehouse.Proofs.Token.Header
import Gatehouse.Proofs.Token.Lifetime
import Gatehouse.Proofs.Token.Members
import Gatehouse.Proofs.Token.RoundTrip
import Gatehouse.Proofs.Token.Verify
import Gatehouse.Proofs.Toml.Distinct
import Gatehouse.Session.Store
import Gatehouse.Settings.Basic
import Gatehouse.Settings.Document
import Gatehouse.Settings.Environment
import Gatehouse.Settings.EnvironmentFile
import Gatehouse.Settings.Error
import Gatehouse.Settings.Field
import Gatehouse.Settings.Load
import Gatehouse.Settings.Tree
import Gatehouse.Startup
import Gatehouse.Text.Alphanumeric
import Gatehouse.Text.Blank
import Gatehouse.Text.Quoted
import Gatehouse.Text.Table.Alphanumeric
import Gatehouse.Text.Table.Digit
import Gatehouse.Text.Table.Escaped
import Gatehouse.Text.Table.Folding
import Gatehouse.Text.Table.Word
import Gatehouse.Text.Utf8
import Gatehouse.Time.Instant
import Gatehouse.Time.Rfc3339
import Gatehouse.Token.Claims
import Gatehouse.Token.Header
import Gatehouse.Token.Maker
import Gatehouse.Toml.Document
import Gatehouse.Toml.Scan
import Gatehouse.Uuid
