import MPQuic.AckHandler.AckScheduling
import MPQuic.AckHandler.Agreement
import MPQuic.AckHandler.ClosePath
import MPQuic.AckHandler.LossAlarm
import MPQuic.Congestion.Cubic
import MPQuic.FlowControl.ConnectionTotals
import MPQuic.FlowControl.ReturnedCredit
import MPQuic.FlowControl.SendCredit
import MPQuic.Handshake.ConnectionParameters
import MPQuic.Handshake.DowngradeCheck
import MPQuic.Handshake.VerifiedConfig
import MPQuic.PacketNumberGenerator.Skipping
import MPQuic.PacketPacker.Nonces
import MPQuic.PacketPacker.PacketSize
import MPQuic.PacketUnpacker.FrameLoop
import MPQuic.Scheduler.PathSelection
import MPQuic.Session.PathIdentity
import MPQuic.Stream.UnreadBytes
import MPQuic.Stream.UnreliableDelivery
import MPQuic.Stream.WriteCall
import MPQuic.StreamFramer.CongestionGate
import MPQuic.StreamFramer.Splitting
import MPQuic.StreamsMap.Accepting
import MPQuic.StreamsMap.Fairness
import MPQuic.StreamsMap.OwnStreams
import MPQuic.StreamsMap.RobinIndex
import MPQuic.Wire.PacketNumber
