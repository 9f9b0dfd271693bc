import CilThunk.Main
import CilThunk.Proofs.Code.AcceptedRun
import CilThunk.Proofs.Code.BufferTrace
import CilThunk.Proofs.Code.Layout
import CilThunk.Proofs.Code.BuiltCode
import CilThunk.Proofs.Code.PopFirst
import CilThunk.Proofs.Code.SealedCode
import CilThunk.Proofs.Lowering.Session
import CilThunk.Proofs.Lowering.StackMachine
import CilThunk.Proofs.Code.Grammar
import CilThunk.Proofs.Lowering.Request
import CilThunk.Proofs.Lowering.RowCounter
import CilThunk.Proofs.Lowering.SignatureTable
import CilThunk.Proofs.Lowering.Outcomes
import CilThunk.Proofs.Body.StoreOrder
import CilThunk.Proofs.Body.StreamReader
import CilThunk.Proofs.Lowering.ThunkRun
import CilThunk.Proofs.Lowering.Independence
import CilThunk.Proofs.CommandLine.Gathering
import CilThunk.Proofs.CommandLine.Notices
import CilThunk.Proofs.CommandLine.LowerOutcome
import CilThunk.Proofs.Lowering.StoreHistory
import CilThunk.Proofs.Code.BufferRun
import CilThunk.Proofs.Lowering.ThunkOnBuffer
import CilThunk.Proofs.Code.FirstOffence
import CilThunk.Proofs.Code.BrokenCode
import CilThunk.Proofs.Code.Concatenation
import CilThunk.Proofs.Code.CheckedLoop
import CilThunk.Proofs.Code.ShortestForm
import CilThunk.Proofs.Text.Padding
import CilThunk.Proofs.Declaration.Grammar
import CilThunk.Proofs.CommandLine.Operands
import CilThunk.Proofs.Listing.Recovery
import CilThunk.Proofs.Intrinsic.Endings
import CilThunk.Proofs.Settings.Overlay
import CilThunk.Proofs.Body.JsonReader
