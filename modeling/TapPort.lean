import TapPort.Device.Memory
import TapPort.Device.Scripted
import TapPort.Guarded
import TapPort.Main
import TapPort.Proofs.Args.Grammar
import TapPort.Proofs.Args.Reading
import TapPort.Proofs.Args.RoundTrip
import TapPort.Proofs.Buffer.Checked
import TapPort.Proofs.Buffer.Tape
import TapPort.Proofs.Burst.Receive
import TapPort.Proofs.Burst.Send
import TapPort.Proofs.Command.Course
import TapPort.Proofs.Command.Descriptors
import TapPort.Proofs.Command.Ending
import TapPort.Proofs.Command.Polling
import TapPort.Proofs.Custody
import TapPort.Proofs.Device.Apart
import TapPort.Proofs.Device.Chronicled
import TapPort.Proofs.Device.Exchanging
import TapPort.Proofs.Device.Hom
import TapPort.Proofs.Device.Interface
import TapPort.Proofs.Device.Journaled
import TapPort.Proofs.Device.Keeping
import TapPort.Proofs.Device.Memory
import TapPort.Proofs.Device.Receiving
import TapPort.Proofs.Device.Recorded
import TapPort.Proofs.Device.Rings
import TapPort.Proofs.Device.Sending
import TapPort.Proofs.Device.Tenure
import TapPort.Proofs.History
import TapPort.Proofs.Host.Basic
import TapPort.Proofs.Host.Delivery
import TapPort.Proofs.Host.Interleaving
import TapPort.Proofs.Host.Reflection
import TapPort.Proofs.Host.Sessions
import TapPort.Proofs.Host.Transmission
import TapPort.Proofs.Independence
import TapPort.Proofs.Json.Fields
import TapPort.Proofs.Json.Layout
import TapPort.Proofs.Json.Leaves
import TapPort.Proofs.Lists
import TapPort.Proofs.Pool.Balance
import TapPort.Proofs.Pool.Circulation
import TapPort.Proofs.Pool.Restoring
import TapPort.Proofs.Pool.Scrubbing
import TapPort.Proofs.Port.Answers
import TapPort.Proofs.Port.Balance
import TapPort.Proofs.Port.Bursts
import TapPort.Proofs.Port.Counting
import TapPort.Proofs.Port.Course
import TapPort.Proofs.Port.Identity
import TapPort.Proofs.Port.Independence
import TapPort.Proofs.Port.Machine
import TapPort.Proofs.Port.Naming
import TapPort.Proofs.Port.Polling
import TapPort.Proofs.Port.Reception
import TapPort.Proofs.Port.Refinement
import TapPort.Proofs.Port.Reflection
import TapPort.Proofs.Port.Rounds
import TapPort.Proofs.Port.Setup
import TapPort.Proofs.Port.Site
import TapPort.Proofs.Port.Sound
import TapPort.Proofs.Port.Statistics
import TapPort.Proofs.Port.Stopping
import TapPort.Proofs.Port.Supply
import TapPort.Proofs.Port.Title
import TapPort.Proofs.Port.Totals
import TapPort.Proofs.Port.Transition
import TapPort.Proofs.Registry
import TapPort.Proofs.Registry.Ids
import TapPort.Proofs.Registry.Interfaces
import TapPort.Proofs.Registry.Registered
import TapPort.Proofs.Registry.Requested
import TapPort.Proofs.Report.Decoding
import TapPort.Proofs.Report.Table
import TapPort.Proofs.Session.Descriptors
import TapPort.Proofs.Session.Held
import TapPort.Proofs.Session.Hom
import TapPort.Proofs.Session.Identity
import TapPort.Proofs.Session.Ids
import TapPort.Proofs.Session.Moves
import TapPort.Proofs.Session.Probes
import TapPort.Proofs.Stats
import TapPort.Proofs.Stats.Entries
import TapPort.Proofs.Streak
import TapPort.Proofs.Text.Columns
import TapPort.Proofs.Text.Numeral
import TapPort.Proofs.Text.Utf8
import TapPort.Proofs.Text.Words
import TapPort.Proofs.Tun.Descriptors
import TapPort.Proofs.Tun.Echo
import TapPort.Proofs.Tun.Failures
import TapPort.Proofs.Tun.Opening
import TapPort.Proofs.Tun.Overlay
import TapPort.Proofs.Tun.Request
import TapPort.Proofs.Upkeep
import TapPort.Scenario.Buffers
import TapPort.Scenario.Counters
import TapPort.Scenario.Handles
import TapPort.Scenario.Queues
import TapPort.Scenario.Session
import TapPort.Scenario.Slots
import TapPort.Tun.Request
