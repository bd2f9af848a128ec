import DiagnosticDigest.FileTree
import DiagnosticDigest.Main
import DiagnosticDigest.Proofs.Collection.Delivery
import DiagnosticDigest.Proofs.Collection.Malformed
import DiagnosticDigest.Proofs.Collection.Undecodable
import DiagnosticDigest.Proofs.CommandLine.Reading
import DiagnosticDigest.Proofs.Controls
import DiagnosticDigest.Proofs.Extraction
import DiagnosticDigest.Proofs.Fields
import DiagnosticDigest.Proofs.Integers
import DiagnosticDigest.Proofs.Json.Faults
import DiagnosticDigest.Proofs.Json.Ordered
import DiagnosticDigest.Proofs.Json.Prompt
import DiagnosticDigest.Proofs.Json.PromptDocument
import DiagnosticDigest.Proofs.Json.PromptTokens
import DiagnosticDigest.Proofs.Json.Sharing
import DiagnosticDigest.Proofs.Line
import DiagnosticDigest.Proofs.Program
import DiagnosticDigest.Proofs.Report.Invariance
import DiagnosticDigest.Proofs.Report.Order
import DiagnosticDigest.Proofs.Report.Sections
import DiagnosticDigest.Proofs.Spelling
