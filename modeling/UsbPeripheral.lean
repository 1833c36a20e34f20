import UsbPeripheral.Bench
import UsbPeripheral.ByteMap
import UsbPeripheral.Bytes
import UsbPeripheral.Catalog
import UsbPeripheral.Channel.Basic
import UsbPeripheral.Channel.Fault
import UsbPeripheral.Channel.Operation
import UsbPeripheral.CommandLine.Help
import UsbPeripheral.CommandLine.Parameter
import UsbPeripheral.CommandLine.Programs
import UsbPeripheral.CommandLine.Reader
import UsbPeripheral.Descriptor.Device
import UsbPeripheral.Descriptor.Endpoint
import UsbPeripheral.Descriptor.Kind
import UsbPeripheral.Descriptor.Text
import UsbPeripheral.DeviceState
import UsbPeripheral.Emulation.Bus
import UsbPeripheral.Emulation.Script
import UsbPeripheral.Errno
import UsbPeripheral.Event
import UsbPeripheral.Gadget.Basic
import UsbPeripheral.Gadget.Control
import UsbPeripheral.Gadget.Events
import UsbPeripheral.Gadget.Standard
import UsbPeripheral.Journal
import UsbPeripheral.Kernel.RawChannel
import UsbPeripheral.Kernel.Record
import UsbPeripheral.Kernel.Request
import UsbPeripheral.Kernel.TransferBuffer
import UsbPeripheral.Profile
import UsbPeripheral.Profiles.Declared
import UsbPeripheral.Profiles.Keyboard
import UsbPeripheral.Profiles.Printer
import UsbPeripheral.Proofs.Dispatch
import UsbPeripheral.Proofs.Workers
import UsbPeripheral.Routing
import UsbPeripheral.Settings
import UsbPeripheral.Setup.Packet
import UsbPeripheral.Setup.RequestType
import UsbPeripheral.Setup.StandardRequest
import UsbPeripheral.Text.Hex
import UsbPeripheral.Text.Quoted
import UsbPeripheral.Text.Utf16
import UsbPeripheral.Text.Utf8
import UsbPeripheral.Udc
import UsbPeripheral.Worker.Basic
import UsbPeripheral.Worker.Depot
import UsbPeripheral.Worker.Feed
import UsbPeripheral.Worker.Receiver
import UsbPeripheral.Worker.Roster
import UsbPeripheral.Worker.Sender
import UsbPeripheral.Proofs.Selection
import UsbPeripheral.Proofs.Requests
import UsbPeripheral.Channel.Traced
import UsbPeripheral.Proofs.Mirrors
import UsbPeripheral.Proofs.Completion
import UsbPeripheral.Proofs.Interruption
import UsbPeripheral.Proofs.Pipes
import UsbPeripheral.Proofs.Events
import UsbPeripheral.Proofs.Moves
import UsbPeripheral.Proofs.Lapse
import UsbPeripheral.Proofs.Consistency
import UsbPeripheral.Proofs.Service
import UsbPeripheral.Proofs.Answers
import UsbPeripheral.Proofs.Refusal
import UsbPeripheral.Proofs.Outlook
import UsbPeripheral.Proofs.History
import UsbPeripheral.Proofs.HaltLog
import UsbPeripheral.Proofs.Wedges
import UsbPeripheral.Proofs.Steady
import UsbPeripheral.Proofs.Transfers
import UsbPeripheral.Proofs.DataStages
import UsbPeripheral.Proofs.Delivery
import UsbPeripheral.Proofs.Threads
import UsbPeripheral.Proofs.Resemblance
import UsbPeripheral.Proofs.Suspension
import UsbPeripheral.Proofs.Retirement
import UsbPeripheral.Proofs.Twins
import UsbPeripheral.Proofs.Forgetting
import UsbPeripheral.Proofs.Descriptors
import UsbPeripheral.Proofs.Deeds
import UsbPeripheral.Proofs.Rounds
import UsbPeripheral.Proofs.Sending
import UsbPeripheral.Proofs.Holes
import UsbPeripheral.Proofs.Stopping
import UsbPeripheral.Proofs.Cuts
import UsbPeripheral.Proofs.Accounts
import UsbPeripheral.Proofs.Reconfiguration
import UsbPeripheral.Proofs.Outward
import UsbPeripheral.Proofs.Tallies
import UsbPeripheral.Proofs.Losses
import UsbPeripheral.Proofs.Languages
import UsbPeripheral.Proofs.Latest
import UsbPeripheral.Proofs.Configurations
import UsbPeripheral.Proofs.Records
import UsbPeripheral.Proofs.RequestTypes
import UsbPeripheral.Proofs.Marshalling
import UsbPeripheral.Proofs.Names
import UsbPeripheral.Proofs.Binding
import UsbPeripheral.Proofs.EndpointTables
import UsbPeripheral.Proofs.Classes
import UsbPeripheral.Proofs.Routes
import UsbPeripheral.Proofs.DeviceIds
import UsbPeripheral.Proofs.KeyboardStates
import UsbPeripheral.Proofs.Supplies
import UsbPeripheral.Proofs.Framing
