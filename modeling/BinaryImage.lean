import BinaryImage.Address.Accumulator
import BinaryImage.AddressRange.Containment
import BinaryImage.ByteOrder.Decoder
import BinaryImage.SegmentTable.Encoding
import BinaryImage.SegmentTable.Parsing
import BinaryImage.Specimen.Behaviour
import BinaryImage.Text.Utf8.RoundTrip
import BinaryImage.Proofs.Checked.Failures
import BinaryImage.Proofs.ByteOrder.Carried
import BinaryImage.Proofs.SegmentTable.Layout
import BinaryImage.Proofs.SegmentTable.Placement
import BinaryImage.Proofs.SegmentTable.Scan
import BinaryImage.Proofs.SegmentTable.Outcome
import BinaryImage.Proofs.SegmentTable.RoundTrip
import BinaryImage.Proofs.SegmentTable.Truncation
import BinaryImage.Proofs.SegmentTable.LoopStates
import BinaryImage.Proofs.SegmentTable.Continuation
import BinaryImage.Proofs.SegmentTable.Unambiguity
import BinaryImage.Proofs.SegmentTable.NormalForm
import BinaryImage.Proofs.SegmentTable.Safety
import BinaryImage.Proofs.Text.BoundedRun
import BinaryImage.Proofs.Entity.Description
import BinaryImage.Proofs.Hierarchy.Composition
import BinaryImage.Proofs.Hierarchy.TreeOrder
import BinaryImage.Proofs.Hierarchy.Locality
import BinaryImage.Proofs.Entity.Ownership
import BinaryImage.Proofs.ByteOrder.FieldRow
import BinaryImage.Proofs.ByteOrder.DecoderRun
import BinaryImage.Proofs.Trace.CallLog
import BinaryImage.Proofs.SegmentTable.Dropped
import BinaryImage.Proofs.Entity.TwoPasses
import BinaryImage.Proofs.Entity.Identity
import BinaryImage.Proofs.Entity.RootDescription
import BinaryImage.Proofs.Address.AccumulatorRun
import BinaryImage.Proofs.Address.SumTree
import BinaryImage.Proofs.AddressRange.Queries
import BinaryImage.Proofs.AddressRange.Points
import BinaryImage.Proofs.AddressRange.Enclosure
import BinaryImage.Proofs.AddressRange.Tiling
import BinaryImage.Proofs.Address.ReversedRun
import BinaryImage.Proofs.ByteOrder.InPlace
import BinaryImage.Proofs.SegmentTable.Conversion
import BinaryImage.Proofs.ByteOrder.ReadFailures
import BinaryImage.Proofs.Status.NumericForm
import BinaryImage.Proofs.Text.Intervals
import BinaryImage.Proofs.AddressRange.Rendering
import BinaryImage.Proofs.Context.LogRun
