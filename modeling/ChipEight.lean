import ChipEight.Arity
import ChipEight.Bands
import ChipEight.Batch
import ChipEight.LookupTable
import ChipEight.Machine.Difference
import ChipEight.Machine.Notice
import ChipEight.Main
import ChipEight.Numeral
import ChipEight.Proofs.Drawing
import ChipEight.Proofs.Locality
import ChipEight.Proofs.NextAddress
import ChipEight.Proofs.Redraw
import ChipEight.Proofs.Playing
import ChipEight.Proofs.FaultStability
import ChipEight.Proofs.Restart
import ChipEight.Proofs.WriteSets
import ChipEight.Proofs.LastWriter
import ChipEight.Proofs.UnknownWords
import ChipEight.Proofs.CompleteTrace
import ChipEight.Proofs.Dialects
import ChipEight.Proofs.Outputs
import ChipEight.Proofs.RandomStream
import ChipEight.Proofs.Pausing
import ChipEight.Proofs.RegisterArithmetic
import ChipEight.Proofs.DrawingTwice
import ChipEight.Proofs.RegisterTransfer
import ChipEight.Proofs.ProgressBar
import ChipEight.Proofs.KeyWait
import ChipEight.Proofs.Timers
import ChipEight.Proofs.Boxes
import ChipEight.Proofs.Bytes
import ChipEight.Proofs.Loading
import ChipEight.Proofs.Rendering
import ChipEight.Proofs.TraceLines
import ChipEight.Proofs.HeldKeys
import ChipEight.Proofs.WordFields
