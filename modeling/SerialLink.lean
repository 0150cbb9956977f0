import SerialLink.Library.Loop
import SerialLink.Library.Backpressure
import SerialLink.Library.Region
import SerialLink.Library.CString
import SerialLink.Library.Run
import SerialLink.Library.Slot
import SerialLink.Library.Attempt
import SerialLink.Library.Mutex
import SerialLink.Library.Turns
import SerialLink.Library.FirstMatch
import SerialLink.Library.Varint
import SerialLink.Library.Cells
import SerialLink.Library.Server
import SerialLink.Library.SharedCell
import SerialLink.Wire
import SerialLink.Device.Client
import SerialLink.Device.Receiver
import SerialLink.Device.HeaderParsing
import SerialLink.Device.Payload
import SerialLink.Device.Fragmentation
import SerialLink.Device.Rejection
import SerialLink.Device.WholeFrame
import SerialLink.Device.BackToBack
import SerialLink.Device.Machine
import SerialLink.Device.Sequence
import SerialLink.Device.Refusal
import SerialLink.Device.Termination
import SerialLink.Device.BufferSafety
import SerialLink.Device.Answer
import SerialLink.Device.Exchange
import SerialLink.Device.NoAck
import SerialLink.Device.Silence
import SerialLink.Device.Egress
import SerialLink.Device.MgmtProxy
import SerialLink.Device.HciProxy
import SerialLink.Device.Interfaces
import SerialLink.Device.Preemption
import SerialLink.Device.VirtualSerial
import SerialLink.Device.Multiplexer
import SerialLink.Device.HciEvents
import SerialLink.Device.MgmtServer
import SerialLink.Device.NetIfRequests
import SerialLink.Device.TwoInterfaces
import SerialLink.Host.Bus
import SerialLink.Host.Reception
import SerialLink.Host.Thread
import SerialLink.Host.Retry
import SerialLink.Host.Mailbox
import SerialLink.Host.Matching
import SerialLink.Host.Send
import SerialLink.Host.Handshake
import SerialLink.Host.Counter
import SerialLink.Host.Length
import SerialLink.Host.Reassembly
import SerialLink.Host.Response
import SerialLink.Host.Preemption
import SerialLink.Host.VirtualHci
import SerialLink.Link.AckEcho
import SerialLink.Link.Composition
import SerialLink.Link.OneWay
import SerialLink.Link.DataPath
import SerialLink.Link.Spurious
import SerialLink.Link.Transmission
import SerialLink.Link.DataTx
import SerialLink.Link.Codec
import SerialLink.Link.Agreement
import SerialLink.Link.Counters
import SerialLink.Link.EgressBytes
import SerialLink.Link.HciBridge
import SerialLink.Link.HciCommands
import SerialLink.Link.SharedLine
import SerialLink.Session.Protocol
import SerialLink.Session.MockDevice
import SerialLink.Session.Peer
import SerialLink.Session.Session
import SerialLink.Session.Recovery
import SerialLink.Session.Coexist
import SerialLink.Session.AtMostOnce
import SerialLink.Session.Stream
import SerialLink.Session.HciCommand
import SerialLink.Session.HciVersion
import SerialLink.Session.Notifications
import SerialLink.Wifi.Messages
import SerialLink.Wifi.Events
import SerialLink.Wifi.ScanBatches
import SerialLink.Wifi.Requests
import SerialLink.Wifi.Handlers
import SerialLink.Wifi.Operations
import SerialLink.Wifi.Parameters
import SerialLink.Wifi.Errors
import SerialLink.Wifi.Commands
import SerialLink.Wifi.Dispatch
import SerialLink.Wifi.PowerSave
import SerialLink.Wifi.Narrowing
import SerialLink.Wifi.RadioRestore
import SerialLink.Wifi.RawInjection
import SerialLink.Wifi.ScanCallback
import SerialLink.Wifi.RawCapture
import SerialLink.Wifi.Capture
import SerialLink.Wifi.CliParameters
import SerialLink.Wifi.RawReports
import SerialLink.Wifi.Readback
import SerialLink.Wifi.RequestServer
import SerialLink.Wifi.ApStorage
