import SpindleLink.Session
import SpindleLink.Proofs.StreamChunks
import SpindleLink.Proofs.Reception
import SpindleLink.Proofs.Resynchronisation
import SpindleLink.Proofs.Traffic
import SpindleLink.Proofs.LineTraffic
import SpindleLink.Proofs.Transmission
import SpindleLink.Proofs.DriveTraffic
import SpindleLink.Proofs.BusDiscipline
import SpindleLink.Proofs.CommandForm
import SpindleLink.Proofs.Conservation
import SpindleLink.Proofs.DriveOrders
import SpindleLink.Proofs.HangingOrders
import SpindleLink.Proofs.Holdings
import SpindleLink.Proofs.PortCalls
import SpindleLink.Proofs.Connecting
import SpindleLink.Proofs.Disconnecting
import SpindleLink.Proofs.StationRuns
import SpindleLink.Proofs.FrameCodecs
import SpindleLink.Proofs.ErrorDetection
import SpindleLink.Proofs.Ownership
import SpindleLink.Proofs.OwnershipRuns
import SpindleLink.Proofs.Arrival
import SpindleLink.Proofs.Misalignment
import SpindleLink.Proofs.Lifecycle
import SpindleLink.Proofs.Slots
import SpindleLink.Proofs.Sending
import SpindleLink.Proofs.WaitBounds
import SpindleLink.Proofs.SpeedAgreement
import SpindleLink.Proofs.FailedReadings
import SpindleLink.Proofs.FailedSendings
import SpindleLink.Proofs.LinkFailures
import SpindleLink.Proofs.Inquiries
import SpindleLink.Proofs.Collecting
import SpindleLink.Proofs.ByteConservation
import SpindleLink.Proofs.Deadlines
import SpindleLink.Proofs.FirstFaults
import SpindleLink.Proofs.SerialTwins
import SpindleLink.Proofs.SerialOperations
import SpindleLink.Proofs.SerialRuns
import SpindleLink.Proofs.ReportForm
import SpindleLink.Proofs.DoubleValues
import SpindleLink.Proofs.AcceptedSettings
import SpindleLink.Proofs.SettingsPrecedence
import SpindleLink.Proofs.PlainRuns
import SpindleLink.Proofs.ReadingWarnings
import SpindleLink.Proofs.SendingWarnings
import SpindleLink.Proofs.IntegrityPair
import SpindleLink.Proofs.FrequencyTexts
import SpindleLink.Proofs.ChannelPorts
import SpindleLink.Proofs.ChannelRuns
import SpindleLink.Proofs.RefillRounds
