import TopicWire.Bytes
import TopicWire.Field
import TopicWire.Flag
import TopicWire.Buffer
import TopicWire.Error
import TopicWire.Payload
import TopicWire.IdSet
import TopicWire.Sequence
import TopicWire.Frame
import TopicWire.Reader
import TopicWire.Receiver
import TopicWire.Code.Basic
import TopicWire.Code.Kind
import TopicWire.Code.Choice
import TopicWire.Text.Unprintable
import TopicWire.Text.Quoted
import TopicWire.Text.Hex
import TopicWire.Text.Utf8
import TopicWire.Text.Structured
import TopicWire.Text.Column
import TopicWire.Datagram.Basic
import TopicWire.Datagram.Encode
import TopicWire.Datagram.Decode
import TopicWire.Datagram.Structured
import TopicWire.Datagram.Describe
import TopicWire.Capture.Directory
import TopicWire.Capture.Track
import TopicWire.Capture.Stats
import TopicWire.Capture.Log
import TopicWire.Capture.Report
import TopicWire.Command.Arguments
import TopicWire.Command.Libraries
import TopicWire.Command.Sample
import TopicWire.Command.Run
import TopicWire.Main
import TopicWire.Proofs.FieldPlacement
import TopicWire.Proofs.IdSetOrderings
import TopicWire.Proofs.FrameCut
import TopicWire.Proofs.WireGrammar
import TopicWire.Proofs.DecodeFinality
import TopicWire.Proofs.DecodeGrammar
import TopicWire.Proofs.ReaderRun
import TopicWire.Proofs.ChunkInvariance
import TopicWire.Proofs.FrameOutcome
import TopicWire.Proofs.InPlaceReading
import TopicWire.Proofs.StreamRoundTrip
import TopicWire.Proofs.CanonicalForm
import TopicWire.Proofs.Completion
import TopicWire.Proofs.RefusalOrder
import TopicWire.Proofs.ReaderCursor
import TopicWire.Proofs.Shortfall
import TopicWire.Proofs.ReceiverStanding
import TopicWire.Proofs.TopicConservation
import TopicWire.Proofs.StatsAccount
import TopicWire.Proofs.ReportText
import TopicWire.Proofs.CaptureAccount
import TopicWire.Proofs.KindAgreement
import TopicWire.Proofs.HexDump
import TopicWire.Proofs.LossyStream
import TopicWire.Proofs.TopicIndependence
import TopicWire.Proofs.IdSetCodec
import TopicWire.Proofs.BufferRoom
import TopicWire.Proofs.PayloadLimit
import TopicWire.Proofs.MessageText
import TopicWire.Proofs.QuotedText
import TopicWire.Proofs.ReportLine
import TopicWire.Proofs.IdSetPatch
import TopicWire.Proofs.ReportFilter
import TopicWire.Proofs.SummaryOrder
import TopicWire.Proofs.FieldInverse
