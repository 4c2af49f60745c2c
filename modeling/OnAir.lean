import OnAir.Digest.Hmac
import OnAir.Bytes.Hex
import OnAir.Bytes.Base64
import OnAir.Deflate.Frame
import OnAir.Text.Digit
import OnAir.Text.Printable
import OnAir.Text.Encoding
import OnAir.Text.Quoted
import OnAir.Number.Double
import OnAir.Json.Reader
import OnAir.Json.Writer
import OnAir.Url.Publish
import OnAir.Url.Endpoint
import OnAir.Json.Integer
import OnAir.Time.Calendar
import OnAir.Time.Clock
import OnAir.Seal.Signature
import OnAir.Seal.Token
import OnAir.Seal.Sealer
import OnAir.Text.Cut
import OnAir.Text.Punycode
import OnAir.Config.Settings
import OnAir.Validation.Field
import OnAir.Log
import OnAir.Log.Layout
import OnAir.Failure
import OnAir.Answer
import OnAir.Text.Order
import OnAir.Store.Statement
import OnAir.Ingest
import OnAir.Directory
import OnAir.Login.Flow
import OnAir.Store.QueryLog
import OnAir.Submission
import OnAir.Time.HttpDate
import OnAir.Http.Request
import OnAir.Http.Cookie
import OnAir.Http.Jar
import OnAir.Http.Response
import OnAir.Http.Route
import OnAir.Http.Body
import OnAir.App.Basic
import OnAir.App.Admission
import OnAir.App.Handlers
import OnAir.App.Serve
import OnAir.App.Lifecycle
import OnAir.Config.Server
import OnAir.Charset.Names
import OnAir.Text.SmallLetters
import OnAir.Url.HostName
import OnAir.Proofs.Text.Cut
import OnAir.Proofs.Text.Utf8
import OnAir.Proofs.Bytes.Base64
import OnAir.Proofs.Bytes.Hex
import OnAir.Proofs.Json.Scan
import OnAir.Proofs.Json.RoundTrip
import OnAir.Proofs.Number.Rounding
import OnAir.Proofs.Number.Nearest
import OnAir.Proofs.Seal.Token
import OnAir.Proofs.Time.Clock
import OnAir.Proofs.Seal.Expiry
import OnAir.Proofs.Seal.Authenticity
import OnAir.Proofs.Seal.Lifetime
import OnAir.Proofs.World
import OnAir.Proofs.Login.Steps
import OnAir.Proofs.Login.Run
import OnAir.Proofs.Text.Order
import OnAir.Proofs.Store.Maps
import OnAir.Proofs.Store.Statement
import OnAir.Proofs.Channel.Operations
import OnAir.Proofs.Channel.Model
import OnAir.Proofs.Channel.Refinement
import OnAir.Proofs.World.Alike
import OnAir.Proofs.World.Triple
import OnAir.Proofs.Store.Outcome
import OnAir.Proofs.Channel.Outcome
import OnAir.Proofs.Store.Side
import OnAir.Proofs.Store.Beside
import OnAir.Proofs.Channel.Beside
import OnAir.Proofs.Service.Calls
import OnAir.Proofs.Ingest.Verdict
import OnAir.Proofs.Ingest.Beside
import OnAir.Proofs.Service.Beside
import OnAir.Proofs.Login.Ambient
import OnAir.Proofs.App.Beside
import OnAir.Proofs.App.Atomicity
import OnAir.Proofs.Store.Owners
import OnAir.Proofs.Service.Isolation
import OnAir.Proofs.Login.Consumption
import OnAir.Proofs.Service.Run
import OnAir.Proofs.Service.History
import OnAir.Proofs.Http.Route
import OnAir.Proofs.Http.Jar
import OnAir.Proofs.App.Cookies
import OnAir.Proofs.App.Callback
import OnAir.Proofs.Url.Percent
import OnAir.Proofs.Url.Publish
import OnAir.Proofs.Service.Announcement
import OnAir.Proofs.App.Publishers
import OnAir.Proofs.App.PublishUrl
import OnAir.Proofs.Provider.Answers
import OnAir.Proofs.Login.Lifetime
import OnAir.Proofs.Login.Spent
import OnAir.Proofs.App.Admission
import OnAir.Proofs.App.Visit
import OnAir.Proofs.App.Browser
import OnAir.Proofs.Store.Secrecy
import OnAir.Proofs.App.Secrecy
import OnAir.Proofs.Service.Credentials
import OnAir.Proofs.Service.Hiding
import OnAir.Proofs.App.Traffic
import OnAir.Proofs.Channel.Outage
import OnAir.Proofs.Service.Outage
import OnAir.Proofs.App.Calls
import OnAir.Proofs.App.Outage
import OnAir.Proofs.Store.Handback
import OnAir.Proofs.App.Protection
import OnAir.Proofs.Channel.Reordering
import OnAir.Proofs.Service.Ranking
import OnAir.Proofs.Provider.Parameters
import OnAir.Proofs.App.Lifespan
import OnAir.Proofs.Login.Discretion
import OnAir.Proofs.Provider.Results
import OnAir.Proofs.Config.StoreUrl
import OnAir.Proofs.Config.Blanks
import OnAir.Proofs.Config.Masking
import OnAir.Proofs.Channel.Tags
import OnAir.Proofs.App.RandomTexts
import OnAir.Proofs.App.Pictures
