import Roam.Interaction.Resumption
import Roam.Interaction.Contract
import Roam.Data.Buffer
import Roam.Node.Message
import Roam.Node.SimpleTimer
import Roam.Node.TrueTime
import Roam.Node.Object
import Roam.Node.Setters
import Roam.Node.Protocol
import Roam.Node.Serial
import Roam.Node.Session
import Roam.Node.Walk
import Roam.Node.Validity
import Roam.Node.Capacity
import Roam.Node.Bounds
import Roam.Interaction.Lockstep
import Roam.Interaction.Pair
import Roam.Node.Radio
import Roam.Node.Frames
import Roam.Data.Lines
import Roam.Node.TypedLines
import Roam.Node.SerialBuffers
import Roam.Node.Commands
import Roam.Node.Rollback
import Roam.Node.Unsolicited
import Roam.Node.Deadline
import Roam.Node.Link
import Roam.Node.Tracking
import Roam.Node.Dialogue
import Roam.Node.Withdrawal
import Roam.Node.Exchange
import Roam.Node.Commitment
import Roam.Node.Agreement
import Roam.Node.PacketErrors
import Roam.Interaction.Host
import Roam.RangeTest.Base
import Roam.RangeTest.Walk
import Roam.RangeTest.Log
import Roam.RangeTest.Requests
import Roam.RangeTest.Buttons
import Roam.Data.Routes
import Roam.Bridge.Sketches
import Roam.Bridge.Forwarding
import Roam.Bridge.Reception
import Roam.Bridge.Loops
import Roam.Bridge.Delivery
import Roam.Bridge.Conservation
import Roam.Bridge.InBounds
import Roam.Data.MovingAverage
import Roam.Node.Statistics
import Roam.Bridge.Packets
import Roam.Node.Arming
import Roam.Node.Segments
import Roam.Data.Separated
import Roam.RangeTest.Csv
import Roam.RangeTest.TestMessage
import Roam.Node.RealTime
import Roam.Interaction.Phases
import Roam.Node.Episodes
import Roam.Node.Callbacks
import Roam.Node.Responses
import Roam.Interaction.Refinement
import Roam.RangeTest.Endpoint
import Roam.RangeTest.Records
import Roam.RangeTest.Testimony
import Roam.Interaction.Lossy
import Roam.Data.Numerals
import Roam.RangeTest.Card
import Roam.Bridge.Relay
import Roam.Node.Apart
import Roam.Interaction.Shadow
import Roam.Bridge.Acknowledged
import Roam.Bridge.AckShadow
import Roam.Bridge.Acks
import Roam.Bridge.Hopping
import Roam.Bridge.Joins
import Roam.Bridge.Handshake
