import FeatureFlags.Binary64.Arithmetic
import FeatureFlags.Binary64.Basic
import FeatureFlags.Binary64.Decimal
import FeatureFlags.Client.Evaluation
import FeatureFlags.Config.File
import FeatureFlags.Config.Moment
import FeatureFlags.Config.Quantity
import FeatureFlags.Config.Schema
import FeatureFlags.Config.Setting
import FeatureFlags.Deflate.Container
import FeatureFlags.Deflate.Inflate
import FeatureFlags.Deflate.PrefixCode
import FeatureFlags.Deflate.Reader
import FeatureFlags.Digest.Adler32
import FeatureFlags.Digest.Crc32
import FeatureFlags.Digest.Sha1
import FeatureFlags.Error
import FeatureFlags.Evaluation.Bucket
import FeatureFlags.Evaluation.Error
import FeatureFlags.Evaluation.Matching
import FeatureFlags.Evaluation.Rules
import FeatureFlags.Evaluation.VariantRange
import FeatureFlags.Flag.Decode
import FeatureFlags.Flag.Definition
import FeatureFlags.Flag.Snapshot
import FeatureFlags.Json.Equality
import FeatureFlags.Json.Reader
import FeatureFlags.Json.Value
import FeatureFlags.Json.Writer
import FeatureFlags.Log.Entry
import FeatureFlags.Log.Line
import FeatureFlags.Log.Logger
import FeatureFlags.Net.Address
import FeatureFlags.Net.ContentType
import FeatureFlags.Net.Domain
import FeatureFlags.Net.Form
import FeatureFlags.Net.Label.Basic
import FeatureFlags.Net.Label.Check
import FeatureFlags.Net.Label.Data
import FeatureFlags.Net.Percent
import FeatureFlags.Net.Punycode
import FeatureFlags.Net.Resolve
import FeatureFlags.Net.Url
import FeatureFlags.Pattern.CharTest
import FeatureFlags.Pattern.Node
import FeatureFlags.Pattern.Reader
import FeatureFlags.Pattern.Search
import FeatureFlags.Pattern.Syntax
import FeatureFlags.Pattern.Trail
import FeatureFlags.Poller.State
import FeatureFlags.Poller.Step
import FeatureFlags.Service.Basic
import FeatureFlags.Service.Coding
import FeatureFlags.Service.Http
import FeatureFlags.Service.Memory
import FeatureFlags.Service.Redirect
import FeatureFlags.Session.Operation
import FeatureFlags.Session.State
import FeatureFlags.Text.Base64
import FeatureFlags.Text.Case
import FeatureFlags.Text.CaseFold
import FeatureFlags.Text.CharacterName
import FeatureFlags.Text.Charset
import FeatureFlags.Text.Charset.Basic
import FeatureFlags.Text.Charset.Big5
import FeatureFlags.Text.Charset.CodePage
import FeatureFlags.Text.Charset.Cp932Extension
import FeatureFlags.Text.Charset.Escaped
import FeatureFlags.Text.Charset.Gb18030
import FeatureFlags.Text.Charset.Gb2312
import FeatureFlags.Text.Charset.Gbk
import FeatureFlags.Text.Charset.Hkscs
import FeatureFlags.Text.Charset.Iso2022
import FeatureFlags.Text.Charset.Japanese
import FeatureFlags.Text.Charset.JisX0208
import FeatureFlags.Text.Charset.JisX0212
import FeatureFlags.Text.Charset.JisX0213
import FeatureFlags.Text.Charset.Korean
import FeatureFlags.Text.Charset.KsX1001
import FeatureFlags.Text.Charset.Multibyte
import FeatureFlags.Text.Charset.Name
import FeatureFlags.Text.Charset.SimplifiedChinese
import FeatureFlags.Text.Charset.Table
import FeatureFlags.Text.Charset.TraditionalChinese
import FeatureFlags.Text.Charset.Utf7
import FeatureFlags.Text.Charset.Wide
import FeatureFlags.Text.CodeTable
import FeatureFlags.Text.Composed
import FeatureFlags.Text.Letter
import FeatureFlags.Text.Numeral
import FeatureFlags.Text.Printable
import FeatureFlags.Text.Quoted
import FeatureFlags.Text.Utf8
import FeatureFlags.Yaml.Cursor
import FeatureFlags.Yaml.Document
import FeatureFlags.Yaml.Graph
import FeatureFlags.Yaml.Lexer
import FeatureFlags.Yaml.Literal
import FeatureFlags.Yaml.Scalar
import FeatureFlags.Yaml.Tag
import FeatureFlags.Proofs.Poller.Turn
import FeatureFlags.Proofs.Poller.Invariant
import FeatureFlags.Proofs.Poller.Reading
import FeatureFlags.Proofs.Poller.Shutdown
import FeatureFlags.Proofs.Poller.Wakeup
import FeatureFlags.Proofs.Evaluation.Escape
import FeatureFlags.Proofs.Client.Fallback
import FeatureFlags.Proofs.Poller.Deadlock
import FeatureFlags.Proofs.Poller.Lifecycle
import FeatureFlags.Proofs.Poller.Reload
import FeatureFlags.Proofs.Poller.Return
import FeatureFlags.Proofs.Poller.Accounts
import FeatureFlags.Proofs.Poller.Closing
import FeatureFlags.Proofs.Evaluation.Inconclusive
import FeatureFlags.Proofs.Client.Remote
import FeatureFlags.Proofs.Service.Escape
import FeatureFlags.Proofs.Client.Lifetime
import FeatureFlags.Proofs.Binary64.Rounding
import FeatureFlags.Proofs.Binary64.Order
import FeatureFlags.Proofs.Evaluation.Place
import FeatureFlags.Proofs.Evaluation.Rollout
import FeatureFlags.Proofs.Client.Subject
import FeatureFlags.Proofs.Flag.Grammar
import FeatureFlags.Proofs.Flag.Thinning
import FeatureFlags.Proofs.Binary64.Magnitude
import FeatureFlags.Proofs.Flag.Percentage
import FeatureFlags.Proofs.Evaluation.Allocation
import FeatureFlags.Proofs.Evaluation.Rearrangement
import FeatureFlags.Proofs.Evaluation.Partition
import FeatureFlags.Proofs.Config.Validation
import FeatureFlags.Proofs.Poller.Endurance
import FeatureFlags.Proofs.Text.Utf8
import FeatureFlags.Proofs.Yaml.Failure
import FeatureFlags.Proofs.Yaml.Refusal
import FeatureFlags.Proofs.Config.Loading
import FeatureFlags.Proofs.Json.Exact
import FeatureFlags.Proofs.Json.Equality
import FeatureFlags.Proofs.Evaluation.Stability
import FeatureFlags.Proofs.Evaluation.Expectation
import FeatureFlags.Proofs.Evaluation.Unknown
import FeatureFlags.Proofs.Flag.Clamping
import FeatureFlags.Proofs.Evaluation.Extremes
import FeatureFlags.Proofs.Service.Outcome
import FeatureFlags.Proofs.Net.Form
import FeatureFlags.Proofs.Json.Reread
import FeatureFlags.Proofs.Net.Resource
import FeatureFlags.Proofs.Service.Request
import FeatureFlags.Proofs.Evaluation.Operator
import FeatureFlags.Proofs.Evaluation.Dependence
import FeatureFlags.Proofs.Evaluation.Complement
import FeatureFlags.Proofs.Json.Nearest
import FeatureFlags.Proofs.Evaluation.Ordering
import FeatureFlags.Proofs.Evaluation.Containment
import FeatureFlags.Proofs.Flag.Decision
import FeatureFlags.Proofs.Binary64.Nearest
import FeatureFlags.Proofs.Evaluation.Interval
import FeatureFlags.Proofs.Flag.Index
import FeatureFlags.Proofs.Json.Equivalence
import FeatureFlags.Proofs.Evaluation.Interchange
