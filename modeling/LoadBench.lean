import LoadBench.Address.Cursor
import LoadBench.CommandLine.ClientTool
import LoadBench.CommandLine.ServerTool
import LoadBench.Main
import LoadBench.Octets
import LoadBench.Proofs.Binary64.Notation
import LoadBench.Proofs.Control.Conversation
import LoadBench.Proofs.Json.Fields
import LoadBench.Proofs.Control.Message
import LoadBench.Proofs.Json.Value
import LoadBench.Proofs.Trial.Store
import LoadBench.Proofs.Control.Remote
import LoadBench.Proofs.Process.Launch
import LoadBench.Proofs.Process.SingleInstance
import LoadBench.Proofs.Control.Overlong
import LoadBench.Proofs.Control.Spawning
import LoadBench.Proofs.Trial.Agreement
import LoadBench.Proofs.Trial.Availability
import LoadBench.Proofs.Trial.Foreign
import LoadBench.Proofs.Trial.Lookup
import LoadBench.Proofs.Trial.Truncation
import LoadBench.Proofs.Control.Codec
import LoadBench.Proofs.Process.Rows
import LoadBench.Proofs.Process.Queries
import LoadBench.Proofs.Process.Effects
import LoadBench.Proofs.Zmtp.Frame
import LoadBench.Proofs.Zmtp.Session
import LoadBench.Proofs.Ports.Addresses
import LoadBench.Proofs.Address.Text
import LoadBench.Proofs.Process.Finding
import LoadBench.Proofs.Generator.Acceptance
import LoadBench.Proofs.Flow.Tag
import LoadBench.Proofs.Flow.Plan
import LoadBench.Proofs.Address.Sequence
import LoadBench.Proofs.Address.Traversal
import LoadBench.Proofs.Address.Carry
import LoadBench.Proofs.Address.Specification
import LoadBench.Proofs.Flow.Options
import LoadBench.Proofs.Control.LastLine
import LoadBench.Proofs.Control.Arrangement
import LoadBench.Proofs.Zmtp.Delimiting
import LoadBench.Proofs.Ports.Dialogue
import LoadBench.Proofs.Text.Words
import LoadBench.Proofs.Generator.Percentages
import LoadBench.Proofs.Configuration
