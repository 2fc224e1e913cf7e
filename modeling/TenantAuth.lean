import TenantAuth.Base64
import TenantAuth.CommandLine.Console
import TenantAuth.CommandLine.EnvFile
import TenantAuth.CommandLine.Grammar
import TenantAuth.CommandLine.Help
import TenantAuth.CommandLine.Invocation
import TenantAuth.CommandLine.Session
import TenantAuth.Envelope.ApiResponse
import TenantAuth.Envelope.AppError
import TenantAuth.Envelope.ErrorEnvelope
import TenantAuth.Files.Directory
import TenantAuth.Gate.Bearer
import TenantAuth.Gate.Context
import TenantAuth.Gate.Correlation
import TenantAuth.Gate.Extract
import TenantAuth.Gate.Layer
import TenantAuth.Gate.RoleGate
import TenantAuth.Hash.Sha256
import TenantAuth.Hash.Sha512
import TenantAuth.Http.MediaType
import TenantAuth.Http.Message
import TenantAuth.Http.Target
import TenantAuth.Identity.AuthError
import TenantAuth.Identity.Principal
import TenantAuth.Identity.RoleSet
import TenantAuth.Json.Binary64
import TenantAuth.Json.Fault
import TenantAuth.Json.Read
import TenantAuth.Json.Reader
import TenantAuth.Json.Record
import TenantAuth.Json.Scalar
import TenantAuth.Json.Skip
import TenantAuth.Json.Value
import TenantAuth.Json.Write
import TenantAuth.Log.Directive
import TenantAuth.Log.Filter
import TenantAuth.Log.Level
import TenantAuth.Log.Start
import TenantAuth.Main
import TenantAuth.Password.Blowfish
import TenantAuth.Password.Hash
import TenantAuth.Proofs.Base64
import TenantAuth.Proofs.Base64.Canonical
import TenantAuth.Proofs.CommandLine.Invocation
import TenantAuth.Proofs.CommandLine.Outcome
import TenantAuth.Proofs.CommandLine.Reporting
import TenantAuth.Proofs.CommandLine.Session
import TenantAuth.Proofs.Envelope.ApiResponse
import TenantAuth.Proofs.Envelope.ErrorEnvelope
import TenantAuth.Proofs.Formats
import TenantAuth.Proofs.Gate.Admission
import TenantAuth.Proofs.Gate.Authentication
import TenantAuth.Proofs.Gate.Bearer
import TenantAuth.Proofs.Gate.Commutation
import TenantAuth.Proofs.Gate.Correlation
import TenantAuth.Proofs.Gate.Credential
import TenantAuth.Proofs.Gate.Isolation
import TenantAuth.Proofs.Gate.LookAlike
import TenantAuth.Proofs.Gate.Nested
import TenantAuth.Proofs.Gate.RoleGate
import TenantAuth.Proofs.Gate.Stack
import TenantAuth.Proofs.Gate.Tagging
import TenantAuth.Proofs.Gate.Tenancy
import TenantAuth.Proofs.Gate.WriteOnce
import TenantAuth.Proofs.Http.Headers
import TenantAuth.Proofs.Identity.RoleSet
import TenantAuth.Proofs.Json.Extent
import TenantAuth.Proofs.Json.FreeForm
import TenantAuth.Proofs.Json.Nesting
import TenantAuth.Proofs.Json.Outline
import TenantAuth.Proofs.Json.Passing
import TenantAuth.Proofs.Json.Phase
import TenantAuth.Proofs.Json.Pretty
import TenantAuth.Proofs.Json.Records
import TenantAuth.Proofs.Json.Scalars
import TenantAuth.Proofs.Json.Skipping
import TenantAuth.Proofs.Json.Steps
import TenantAuth.Proofs.Json.Yields
import TenantAuth.Proofs.Log.Directive
import TenantAuth.Proofs.Log.Start
import TenantAuth.Proofs.Outcome
import TenantAuth.Proofs.Password.Hash
import TenantAuth.Proofs.Password.Key
import TenantAuth.Proofs.Password.Stored
import TenantAuth.Proofs.Password.Verify
import TenantAuth.Proofs.Service.Correlation
import TenantAuth.Proofs.Service.Exchange
import TenantAuth.Proofs.Service.Handler
import TenantAuth.Proofs.Service.Nested
import TenantAuth.Proofs.Service.Refresh
import TenantAuth.Proofs.Service.RejectedTokens
import TenantAuth.Proofs.Service.Routing
import TenantAuth.Proofs.Settings.Fields
import TenantAuth.Proofs.Settings.File
import TenantAuth.Proofs.Settings.Fitness
import TenantAuth.Proofs.Settings.Layers
import TenantAuth.Proofs.Settings.Override
import TenantAuth.Proofs.Settings.ReadBack
import TenantAuth.Proofs.Text.Ascii
import TenantAuth.Proofs.Text.Blank
import TenantAuth.Proofs.Text.Utf8
import TenantAuth.Proofs.Tls.Agreement
import TenantAuth.Proofs.Tls.Body
import TenantAuth.Proofs.Tls.Credentials
import TenantAuth.Proofs.Tls.Material
import TenantAuth.Proofs.Tls.Sections
import TenantAuth.Proofs.Token.Authenticity
import TenantAuth.Proofs.Token.Decode
import TenantAuth.Proofs.Token.Issuance
import TenantAuth.Proofs.Token.LifeCycle
import TenantAuth.Proofs.Token.Payload
import TenantAuth.Proofs.Token.Refresh
import TenantAuth.Proofs.Token.Registered
import TenantAuth.Proofs.Token.Session
import TenantAuth.Proofs.Token.Usable
import TenantAuth.Proofs.Token.Verify
import TenantAuth.Proofs.Token.Window
import TenantAuth.Random
import TenantAuth.Regex.Basic
import TenantAuth.Regex.Bracket
import TenantAuth.Regex.CharSet
import TenantAuth.Regex.ClassName
import TenantAuth.Regex.Escape
import TenantAuth.Regex.Match
import TenantAuth.Regex.Pattern
import TenantAuth.Regex.Reader
import TenantAuth.Regex.Room
import TenantAuth.Regex.Unicode.Age
import TenantAuth.Regex.Unicode.Break
import TenantAuth.Regex.Unicode.Category
import TenantAuth.Regex.Unicode.Class
import TenantAuth.Regex.Unicode.Folding
import TenantAuth.Regex.Unicode.Property
import TenantAuth.Regex.Unicode.Script
import TenantAuth.Service.Application
import TenantAuth.Service.Handler
import TenantAuth.Service.PathPattern
import TenantAuth.Service.Refresh
import TenantAuth.Settings.Basic
import TenantAuth.Settings.ConfigError
import TenantAuth.Settings.FromJson
import TenantAuth.Settings.FromYaml
import TenantAuth.Settings.Resolve
import TenantAuth.Settings.Validate
import TenantAuth.Text.Alphanumeric
import TenantAuth.Text.Blank
import TenantAuth.Text.Decimal
import TenantAuth.Text.Printable
import TenantAuth.Text.Quoted
import TenantAuth.Text.Utf8
import TenantAuth.Tls.Certificate
import TenantAuth.Tls.Credentials
import TenantAuth.Tls.Curve
import TenantAuth.Tls.Der
import TenantAuth.Tls.Fault
import TenantAuth.Tls.Pem
import TenantAuth.Tls.SigningKey
import TenantAuth.Token.Claims
import TenantAuth.Token.Header
import TenantAuth.Token.Instant
import TenantAuth.Token.Manager
import TenantAuth.Token.Signed
import TenantAuth.Token.WebKey
import TenantAuth.Yaml.Node
import TenantAuth.Yaml.Property
import TenantAuth.Yaml.Scalar
import TenantAuth.Yaml.Scan
import TenantAuth.Yaml.Scanner
import TenantAuth.Yaml.Source
import TenantAuth.Yaml.Token
