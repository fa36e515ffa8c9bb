import Ebml.ElementType
import Ebml.Payload

namespace Ebml

inductive Value where
  | int (value : Int)
  | uint (value : Nat)
  | float (value : Binary64)
  | string (text : String)
  -- Nanoseconds from the start of 2001.
  | date (nanoseconds : Int)
  | binary (bytes : Bytes)
deriving DecidableEq, Repr

end Ebml
