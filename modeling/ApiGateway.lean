import ApiGateway.Text.Blank
import ApiGateway.Text.Occurrence
import ApiGateway.Text.Letter
import ApiGateway.Text.Case
import ApiGateway.Json.Reader
import ApiGateway.Json.Printer
import ApiGateway.Json.Predicates
import ApiGateway.Digest.Sha256
import ApiGateway.Time.Pattern
import ApiGateway.Time.Reading
import ApiGateway.Time.Retention
import ApiGateway.Expression.Token
import ApiGateway.Expression.Parser
import ApiGateway.Expression.Evaluation
import ApiGateway.Path.Template
import ApiGateway.Path.Target
import ApiGateway.Headers
import ApiGateway.Record.Row
import ApiGateway.Network.BaseUrl
import ApiGateway.Masking
import ApiGateway.Secrets
import ApiGateway.Environment
import ApiGateway.Transport
import ApiGateway.Catalog.Decoding
import ApiGateway.Catalog.Compiled
import ApiGateway.Signing
import ApiGateway.Service.Proxy
import ApiGateway.Yaml.Scalar
import ApiGateway.Yaml.Token
import ApiGateway.Yaml.Value
import ApiGateway.Files
import ApiGateway.Catalog.Source
import ApiGateway.Settings
import ApiGateway.Audit.Store
import ApiGateway.Audit.Interleaving
import ApiGateway.Dispatch.Replay
import ApiGateway.CommandLine.Disk
import ApiGateway.Main
import ApiGateway.Proofs.Masking.Secrecy
import ApiGateway.Proofs.Catalog.Requests
import ApiGateway.Proofs.Catalog.Payloads
import ApiGateway.Proofs.Dispatch.Outcome
import ApiGateway.Proofs.Dispatch.Recording
import ApiGateway.Proofs.Dispatch.Resending
import ApiGateway.Proofs.Expression.Printing
import ApiGateway.Proofs.Audit.Agreement
import ApiGateway.Proofs.Audit.Recovery
import ApiGateway.Proofs.Audit.Survival
import ApiGateway.Proofs.Json.Growth
import ApiGateway.Proofs.Path.Writing
import ApiGateway.Proofs.Json.Canonical
import ApiGateway.Proofs.Dispatch.Signatures
import ApiGateway.Proofs.Audit.States
import ApiGateway.Proofs.Audit.Replays
import ApiGateway.Proofs.Dispatch.Replaying
import ApiGateway.Proofs.Masking.Independence
import ApiGateway.Proofs.Catalog.Acceptance
import ApiGateway.Proofs.Headers
import ApiGateway.Proofs.Catalog.Headers
import ApiGateway.Proofs.Dispatch.Sending
import ApiGateway.Proofs.Dispatch.HeaderMap
import ApiGateway.Proofs.Dispatch.Bodies
import ApiGateway.Proofs.Masking.Places
import ApiGateway.Proofs.Masking.Names
import ApiGateway.Proofs.Path.Keys
import ApiGateway.Proofs.Dispatch.Injection
import ApiGateway.Proofs.Path.Spelling
import ApiGateway.Proofs.Catalog.Targets
import ApiGateway.Proofs.Catalog.Reading
import ApiGateway.Proofs.Dispatch.Failures
import ApiGateway.Proofs.Audit.Alone
import ApiGateway.Proofs.Audit.Visibility
import ApiGateway.Proofs.Audit.Races
import ApiGateway.Proofs.Audit.Duplicates
import ApiGateway.Proofs.Catalog.Extractions
import ApiGateway.Proofs.Catalog.Orders
import ApiGateway.Proofs.Dispatch.Schedules
import ApiGateway.Proofs.Masking.Exposure
import ApiGateway.Proofs.Expression.Places
import ApiGateway.Proofs.Catalog.Paths
import ApiGateway.Proofs.Audit.Purges
import ApiGateway.Proofs.Expression.Substrings
import ApiGateway.Proofs.Time.Retention
import ApiGateway.Proofs.Expression.Formulas
import ApiGateway.Proofs.Expression.Comparison
import ApiGateway.Proofs.Masking.Shape
import ApiGateway.Proofs.Secrets
import ApiGateway.Proofs.Expression.Offsets
import ApiGateway.Proofs.Path.Acceptance
import ApiGateway.Proofs.Time.NumericTexts
import ApiGateway.Proofs.Dispatch.Environments
