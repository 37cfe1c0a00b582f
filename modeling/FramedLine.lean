import FramedLine.Circular
import FramedLine.Checksum
import FramedLine.Stuffing
import FramedLine.Status
import FramedLine.Config
import FramedLine.Failure
import FramedLine.Geometry
import FramedLine.PacketRing.Writer
import FramedLine.PacketRing.Reader
import FramedLine.Diagnostic
import FramedLine.Frame
import FramedLine.Inbound
import FramedLine.Link.Basic
import FramedLine.Link.Service
import FramedLine.Link.Waiting
import FramedLine.Link.Wire
import FramedLine.Device.Scripted
import FramedLine.Device.Stream
import FramedLine.Proofs.Circular.Position
import FramedLine.Proofs.Circular.Distance
import FramedLine.Proofs.PacketRing.Execution
import FramedLine.Proofs.PacketRing.Queue
import FramedLine.Proofs.PacketRing.Layout
import FramedLine.Proofs.PacketRing.Refinement
import FramedLine.Proofs.PacketRing.Writing
import FramedLine.Proofs.PacketRing.Reading
import FramedLine.Proofs.PacketRing.Operation
import FramedLine.Proofs.PacketRing.BoundedQueue
import FramedLine.Proofs.PacketRing.Exchange
import FramedLine.Proofs.Checksum
import FramedLine.Proofs.Detection
import FramedLine.Proofs.Stuffing
import FramedLine.Proofs.Stuffing.Inverse
import FramedLine.Proofs.PacketRing.Contents
import FramedLine.Proofs.PacketRing.Ownership
import FramedLine.Proofs.PacketRing.Snapshot
import FramedLine.Proofs.Inbound.Reception
import FramedLine.Proofs.Inbound.Grammar
import FramedLine.Proofs.Frame
import FramedLine.Proofs.Outbound.Transmission
import FramedLine.Proofs.Outbound.Driver
import FramedLine.Proofs.Outbound.Call
import FramedLine.Proofs.Outbound.Line
import FramedLine.Proofs.Outbound.Arming
import FramedLine.Proofs.Inbound.Following
import FramedLine.Proofs.Inbound.RoundTrip
import FramedLine.Proofs.Link.Delivery
import FramedLine.Proofs.Link.Event
import FramedLine.Proofs.Link.Notification
import FramedLine.Proofs.Outbound.Admission
import FramedLine.Proofs.Outbound.Building
import FramedLine.Proofs.Link.Recording
import FramedLine.Proofs.Link.Servicing
import FramedLine.Proofs.Link.Session
import FramedLine.Proofs.Inbound.Corruption
import FramedLine.Proofs.Inbound.Waking
import FramedLine.Proofs.Trailer
import FramedLine.Proofs.Inbound.Invariant
import FramedLine.Proofs.Link.Taking
import FramedLine.Proofs.Link.Polling
import FramedLine.Proofs.Link.Ledger
import FramedLine.Proofs.Link.Waiting
import FramedLine.Proofs.PacketRing.Blockwise
import FramedLine.Proofs.Link.Streaming
import FramedLine.Proofs.Outbound.Reporting
import FramedLine.Proofs.Diagnostic
import FramedLine.Proofs.Link.Tracing
import FramedLine.Proofs.Link.Diagnosis
