import Ebml.Cursor.Operation
import Ebml.Date
import Ebml.Edtd.Compilation
import Ebml.Walk
import Ebml.Proofs.Cursor.Ahead
import Ebml.Proofs.Cursor.Balance
import Ebml.Proofs.Cursor.Buffer
import Ebml.Proofs.Cursor.Composition
import Ebml.Proofs.Cursor.Consumption
import Ebml.Proofs.Cursor.Default
import Ebml.Proofs.Cursor.Delivery
import Ebml.Proofs.Cursor.Exhaustion
import Ebml.Proofs.Cursor.Fitting
import Ebml.Proofs.Cursor.Limits
import Ebml.Proofs.Cursor.Misuse
import Ebml.Proofs.Cursor.Raising
import Ebml.Proofs.Cursor.Resumption
import Ebml.Proofs.Date
import Ebml.Proofs.Edtd.Alias
import Ebml.Proofs.Edtd.Copies
import Ebml.Proofs.Edtd.DefaultText
import Ebml.Proofs.Edtd.Defaults
import Ebml.Proofs.Edtd.Demand
import Ebml.Proofs.Edtd.Extension
import Ebml.Proofs.Edtd.FirstFault
import Ebml.Proofs.Edtd.HeaderBlock
import Ebml.Proofs.Edtd.HeaderEntries
import Ebml.Proofs.Edtd.Identifier
import Ebml.Proofs.Edtd.Ignored
import Ebml.Proofs.Edtd.LongestMatch
import Ebml.Proofs.Edtd.RangeText
import Ebml.Proofs.Edtd.Rearrangement
import Ebml.Proofs.Edtd.Representation
import Ebml.Proofs.Edtd.Scanner
import Ebml.Proofs.Edtd.Slots
import Ebml.Proofs.Edtd.Table
import Ebml.Proofs.Edtd.Unquoting
import Ebml.Proofs.Limits
import Ebml.Proofs.Payload.Arrival
import Ebml.Proofs.Truncation
import Ebml.Proofs.Vint.Word
import Ebml.Proofs.Walk.Rounds
