import GraphIngest.Main
import GraphIngest.Refinement.Codec
import GraphIngest.History.Versions
import GraphIngest.Proofs.Columns.Scope
import GraphIngest.Proofs.Validation.Report
import GraphIngest.Proofs.Cypher.Reads
import GraphIngest.Proofs.Json.Integer
import GraphIngest.Proofs.Json.Layout
import GraphIngest.Proofs.Json.Literal
import GraphIngest.Proofs.Json.Reading
import GraphIngest.Proofs.Refinement.FirstRun
import GraphIngest.Proofs.Refinement.Uses
import GraphIngest.Proofs.Refinement.Log
import GraphIngest.Proofs.Json.Decoding
import GraphIngest.Proofs.Model.Codec
import GraphIngest.Proofs.Model.Texts
import GraphIngest.Proofs.Columns.Codec
import GraphIngest.Proofs.Timestamp.Calendar
import GraphIngest.Proofs.Timestamp.Text
import GraphIngest.Proofs.History.Reachable
import GraphIngest.Proofs.History.Saved
import GraphIngest.Proofs.History.WellFormed
import GraphIngest.Proofs.Text.Bytes
import GraphIngest.Proofs.Text.Segments
import GraphIngest.Proofs.Text.Trim
import GraphIngest.Proofs.FileName
import GraphIngest.Proofs.Columns.Staged
import GraphIngest.Proofs.Cypher.Reader
import GraphIngest.Proofs.Cypher.ReadBack
import GraphIngest.Proofs.Cypher.ConstraintNames
import GraphIngest.Proofs.Diagram.Property
import GraphIngest.Proofs.Diagram.RoundTrip
import GraphIngest.Proofs.Diagram.Imported
import GraphIngest.Proofs.Loader.Files
import GraphIngest.Proofs.Cypher.Token
import GraphIngest.Proofs.Cypher.Indented
import GraphIngest.Proofs.Cypher.Strategies
import GraphIngest.Proofs.Validation.MoreColumns
import GraphIngest.Proofs.Cypher.Endpoints
import GraphIngest.Proofs.Loader.Config
import GraphIngest.Proofs.Exporter
import GraphIngest.Proofs.Files.Tree
import GraphIngest.Proofs.Files.Reading
import GraphIngest.Proofs.History.Files
import GraphIngest.Proofs.CommandLine.Accepted
import GraphIngest.Proofs.CommandLine.Appended
import GraphIngest.Proofs.CommandLine.Arguments
import GraphIngest.Proofs.CommandLine.Effects
import GraphIngest.Proofs.CommandLine.Runs
import GraphIngest.Proofs.CommandLine.Verdicts
import GraphIngest.Proofs.Fingerprint
import GraphIngest.Proofs.Cypher.FileLiteral
import GraphIngest.Proofs.Text.Visible
import GraphIngest.Proofs.Loader.Statements
import GraphIngest.Proofs.Model.Issues
import GraphIngest.Proofs.History.Versions
