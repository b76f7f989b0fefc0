import PassThru.Client
import PassThru.CommandLine.Run
import PassThru.Main
import PassThru.Decimal.Shortest
import PassThru.Emulator.Dispatch
import PassThru.Json.Models
import PassThru.Json.Printer
import PassThru.Native.Layout
import PassThru.Settings.Load
import PassThru.Proofs.Emulator.Operations
import PassThru.Proofs.Emulator.Reception
import PassThru.Proofs.Emulator.Step
import PassThru.Proofs.Emulator.Run
import PassThru.Proofs.Emulator.Wiring
import PassThru.Proofs.Emulator.Topology
import PassThru.Proofs.Emulator.Pins
import PassThru.Proofs.Native.Slots
import PassThru.Proofs.Client.Reading
import PassThru.Proofs.Emulator.Effect
import PassThru.Proofs.Emulator.Queues
import PassThru.Proofs.Emulator.Delivery
import PassThru.Proofs.Emulator.Failures
import PassThru.Proofs.Emulator.Atomicity
import PassThru.Proofs.Emulator.Deeds
import PassThru.Proofs.Emulator.Handles
import PassThru.Proofs.Emulator.Gates
import PassThru.Proofs.Emulator.Lifecycle
import PassThru.Proofs.Native.RoundTrip
import PassThru.Proofs.Native.Widening
import PassThru.Proofs.Emulator.Widening
import PassThru.Proofs.Client.Operations
import PassThru.Proofs.Client.Widths
import PassThru.Proofs.Native.Decoding
import PassThru.Proofs.Client.Arguments
import PassThru.Proofs.Client.Outputs
import PassThru.Proofs.Client.CallProtocol
import PassThru.Proofs.Emulator.Names
import PassThru.Proofs.Emulator.Contract
import PassThru.Proofs.Client.LawfulCalls
import PassThru.Proofs.Client.Agreement
import PassThru.Proofs.CommandLine.Monitoring
import PassThru.Proofs.Emulator.Scopes
import PassThru.Proofs.Emulator.Brackets
import PassThru.Proofs.Native.Examination
import PassThru.Proofs.Client.Forwarding
import PassThru.Proofs.Emulator.Issued
import PassThru.Proofs.Emulator.Oversized
import PassThru.Proofs.Emulator.Voltages
import PassThru.Proofs.Client.Answers
import PassThru.Proofs.Client.Voltages
import PassThru.Proofs.Emulator.Waiting
import PassThru.Proofs.Client.Selecting
import PassThru.Proofs.Client.Queueing
import PassThru.Proofs.Emulator.Configuration
import PassThru.Proofs.Emulator.Contents
import PassThru.Proofs.Emulator.Filtering
import PassThru.Proofs.Client.Configuring
import PassThru.Proofs.Emulator.Listing
import PassThru.Proofs.Client.Scanning
import PassThru.Proofs.Emulator.Isolation
import PassThru.Proofs.Emulator.Opening
import PassThru.Proofs.Client.Opening
import PassThru.Proofs.Emulator.Timestamps
import PassThru.Proofs.Client.Timestamps
import PassThru.Proofs.Client.Connecting
import PassThru.Proofs.CommandLine.Batches
import PassThru.Proofs.Standard.Codes
import PassThru.Proofs.Client.Statuses
import PassThru.Proofs.Client.Shapes
import PassThru.Proofs.Json.Forms
import PassThru.Proofs.Json.Models
import PassThru.Proofs.Library
import PassThru.Proofs.Text.Sequences
import PassThru.Proofs.Text.Lossy
import PassThru.Proofs.Text.Cutting
import PassThru.Proofs.Client.Texts
import PassThru.Proofs.Native.Refilling
