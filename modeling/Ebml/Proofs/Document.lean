import Ebml.Proofs.Cursor.Header
import Ebml.Proofs.Payload
import Ebml.Walk

namespace Ebml

-- The elements of a document, or of a container, in their order: each one is an identifier
-- and a size before a body, and only a container has further elements in its body.
inductive Forest where
  | empty
  | unknown (id size : Vint) (body : Bytes) (rest : Forest)
  | value (id size : Vint) (payload : Bytes) (read : Value) (rest : Forest)
  | container (id size : Vint) (children rest : Forest)

def Event.told (schema : Schema) (id : ElementId) (depth : Nat) (content : Content) : Event where
  id := id
  name? := (schema.definition? id).map (·.name)
  depth := depth
  content := content
  admitted? :=
    match content with
    | .value read => ((schema.definition? id).bind (·.range?)).map (·.admitsValue read)
    | _ => none

namespace Forest

def encode : Forest → Bytes
  | .empty => []
  | .unknown id size body rest => id.encode ++ (size.encode ++ (body ++ rest.encode))
  | .value id size payload _ rest => id.encode ++ (size.encode ++ (payload ++ rest.encode))
  | .container id size children rest =>
    id.encode ++ (size.encode ++ (children.encode ++ rest.encode))

-- Headers lie within the limits and sizes are those of the bodies. An element is what the
-- schema makes of its identifier, and the payload of a value spells it.
inductive WellFormed (schema : Schema) (limits : Limits) : Forest → Prop
  | empty : WellFormed schema limits .empty
  | unknown {id size : Vint} {body : Bytes} {rest : Forest}
      (admits : limits.Admits id size) (length : size.value = body.length)
      (undefined : schema.definition? id.value = none)
      (following : WellFormed schema limits rest) :
      WellFormed schema limits (.unknown id size body rest)
  | value {id size : Vint} {payload : Bytes} {read : Value} {rest : Forest}
      {definition : Definition}
      (admits : limits.Admits id size) (length : size.value = payload.length)
      (defined : schema.definition? id.value = some definition)
      (spells : Spells definition.type payload read)
      (following : WellFormed schema limits rest) :
      WellFormed schema limits (.value id size payload read rest)
  | container {id size : Vint} {children rest : Forest} {definition : Definition}
      (admits : limits.Admits id size) (length : size.value = children.encode.length)
      (defined : schema.definition? id.value = some definition)
      (nests : definition.type = .container)
      (inside : WellFormed schema limits children)
      (following : WellFormed schema limits rest) :
      WellFormed schema limits (.container id size children rest)

def events (schema : Schema) (depth : Nat) : Forest → List Event
  | .empty => []
  | .unknown id _ _ rest => .told schema id.value depth .unknown :: rest.events schema depth
  | .value id _ _ read rest => .told schema id.value depth (.value read) :: rest.events schema depth
  | .container id _ children rest =>
    .told schema id.value depth .container ::
      (children.events schema (depth + 1) ++ rest.events schema depth)

end Forest

end Ebml
