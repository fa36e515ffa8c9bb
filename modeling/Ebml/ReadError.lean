import Ebml.Definition
import Ebml.Vint

namespace Ebml

inductive ReadError where
  | io (reason : String)
  | vint (error : VintError)
  | truncated (id : ElementId) (missing : Nat)
  | overflowsParent (id : ElementId) (size available : Nat)
  | idTooLong (length maximum : Nat)
  | sizeTooLong (length maximum : Nat)
  | unknownSize (id : ElementId)
  | noElement
  | payloadConsumed (id : ElementId)
  | invalidPayload (id : ElementId) (size : Nat) (type : ElementType)
  | notUtf8 (id : ElementId)
  | containerValue (id : ElementId)
  | notInContainer
deriving DecidableEq, Repr

namespace ReadError

def message : ReadError → String
  | io reason => s!"I/O error: {reason}"
  | vint error => error.message
  | truncated id missing => s!"stream ended {missing} byte(s) short of element {ElementId.text id}"
  | overflowsParent id size available =>
    s!"element {ElementId.text id} declares {size} bytes but its parent has only {available} left"
  | idTooLong length maximum =>
    s!"element ID is {length} bytes long, more than the maximum of {maximum}"
  | sizeTooLong length maximum =>
    s!"element size is {length} bytes long, more than the maximum of {maximum}"
  | unknownSize id => s!"element {ElementId.text id} has an unknown size"
  | noElement => "no element is under the cursor"
  | payloadConsumed id => s!"payload of element {ElementId.text id} was already consumed"
  | invalidPayload id size type =>
    s!"element {ElementId.text id} has {size} payload byte(s), which cannot be read as {type.name}"
  | notUtf8 id => s!"payload of element {ElementId.text id} is not valid UTF-8"
  | containerValue id =>
    "element " ++ ElementId.text id ++ " is a container; use \x60enter\x60 to read its children"
  | notInContainer => "the cursor is not inside a container"

end ReadError

end Ebml
