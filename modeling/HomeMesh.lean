import HomeMesh.Main
import HomeMesh.Outbox
import HomeMesh.PowerRails
import HomeMesh.Profile.Json
import HomeMesh.Wire.Profile
import HomeMesh.Proofs.Enumerated
import HomeMesh.Proofs.ChannelSet
import HomeMesh.Proofs.Node.Run
import HomeMesh.Proofs.Node.Reaction
import HomeMesh.Proofs.Node.Step
import HomeMesh.Proofs.Node.WrapGuard
import HomeMesh.Proofs.Node.TrueTime
import HomeMesh.Proofs.Deadline.Node
import HomeMesh.Proofs.Deadline.Simulation
import HomeMesh.Proofs.Wire.Primitive
import HomeMesh.Proofs.Wire.Envelope
import HomeMesh.Proofs.Bus
import HomeMesh.Proofs.Mesh.Run
import HomeMesh.Proofs.Mesh.Agreement
import HomeMesh.Proofs.Wire.Groups
import HomeMesh.Proofs.Wire.Format
import HomeMesh.Proofs.Wire.Layout
import HomeMesh.Proofs.PowerRails
import HomeMesh.Proofs.PowerRails.Binding
import HomeMesh.Proofs.Node.Warnings
import HomeMesh.Proofs.Node.Exchange
import HomeMesh.Proofs.Node.Spacing
import HomeMesh.Proofs.Applier
import HomeMesh.Proofs.Applier.ChangingSets
import HomeMesh.Proofs.Node.Forgetting
import HomeMesh.Proofs.Node.Translation
import HomeMesh.Proofs.Node.Account
import HomeMesh.Proofs.Node.Exclusion
import HomeMesh.Proofs.Node.Interference
import HomeMesh.Proofs.Mesh.Round
import HomeMesh.Proofs.Mesh.Alert
import HomeMesh.Proofs.Node.Table
import HomeMesh.Proofs.Node.Visibility
import HomeMesh.Proofs.Decimal
import HomeMesh.Proofs.Json.Numeral
import HomeMesh.Proofs.Json.Grammar
import HomeMesh.Proofs.Json.RoundTrip
import HomeMesh.Proofs.Single.Spelling
import HomeMesh.Proofs.Profile.Validation
import HomeMesh.Proofs.Profile.RoundTrip
import HomeMesh.Proofs.Wire.Front
import HomeMesh.Proofs.Wire.Profile
import HomeMesh.Proofs.Bus.History
import HomeMesh.Proofs.Mesh.Independence
import HomeMesh.Proofs.Node.Frame
import HomeMesh.Proofs.Node.ClimateHistory
import HomeMesh.Proofs.Node.Waning
import HomeMesh.Proofs.Node.Flush
import HomeMesh.Proofs.Wire.PrefixFree
import HomeMesh.Proofs.Node.Interleaving
import HomeMesh.Proofs.Node.Absorption
import HomeMesh.Proofs.Mesh.Echo
import HomeMesh.Proofs.Node.Interchange
import HomeMesh.Proofs.Single.Nearest
import HomeMesh.Proofs.Node.ClimateReport
import HomeMesh.Proofs.Profile.Rearrangement
