import Ebml.Proofs.Document

namespace Ebml

-- A walk reads flat: it sees the bytes ahead and what is left of each open container. This
-- relation says which bytes it reads to their end, and what it tells of them. The forest
-- that the bytes encode comes back one container at a time.
inductive Reads (schema : Schema) (limits : Limits) : List Nat → Bytes → List Event → Prop
  | done : Reads schema limits [] [] []
  | close {outer : List Nat} {rest : Bytes} {events : List Event}
      (following : Reads schema limits outer rest events) :
      Reads schema limits (0 :: outer) rest events
  | unknown {id size : Vint} {scopes : List Nat} {body rest : Bytes} {events : List Event}
      (admits : limits.Admits id size) (length : size.value = body.length)
      (undefined : schema.definition? id.value = none)
      (following : Reads schema limits scopes rest events) :
      Reads schema limits (Cursor.widen (id.length + size.length + size.value) scopes)
        (id.encode ++ (size.encode ++ (body ++ rest)))
        (.told schema id.value scopes.length .unknown :: events)
  | value {id size : Vint} {scopes : List Nat} {payload rest : Bytes} {events : List Event}
      {definition : Definition} {read : Value}
      (admits : limits.Admits id size) (length : size.value = payload.length)
      (defined : schema.definition? id.value = some definition)
      (spells : Spells definition.type payload read)
      (following : Reads schema limits scopes rest events) :
      Reads schema limits (Cursor.widen (id.length + size.length + size.value) scopes)
        (id.encode ++ (size.encode ++ (payload ++ rest)))
        (.told schema id.value scopes.length (.value read) :: events)
  | enter {id size : Vint} {scopes : List Nat} {rest : Bytes} {events : List Event}
      {definition : Definition} (admits : limits.Admits id size)
      (defined : schema.definition? id.value = some definition)
      (nests : definition.type = .container)
      (following : Reads schema limits (size.value :: scopes) rest events) :
      Reads schema limits (Cursor.widen (id.length + size.length + size.value) scopes)
        (id.encode ++ (size.encode ++ rest))
        (.told schema id.value scopes.length .container :: events)

namespace Reads

variable {schema : Schema} {limits : Limits} {scopes : List Nat} {rest : Bytes}
  {events : List Event} {id size : Vint} {definition : Definition} {depth : Nat}

theorem unknown_ahead (deep : depth = scopes.length) (admits : limits.Admits id size)
    (complete : size.value ≤ rest.length) (undefined : schema.definition? id.value = none)
    (following : Reads schema limits scopes (rest.drop size.value) events) :
    Reads schema limits (Cursor.widen (id.length + size.length + size.value) scopes)
      (id.encode ++ (size.encode ++ rest)) (.told schema id.value depth .unknown :: events) := by
  have reads := unknown admits (List.length_take_of_le complete).symm undefined following
  rw [List.take_append_drop, ← deep] at reads
  exact reads

theorem value_ahead {read : Value} (deep : depth = scopes.length)
    (admits : limits.Admits id size) (complete : size.value ≤ rest.length)
    (defined : schema.definition? id.value = some definition)
    (spells : Spells definition.type (rest.take size.value) read)
    (following : Reads schema limits scopes (rest.drop size.value) events) :
    Reads schema limits (Cursor.widen (id.length + size.length + size.value) scopes)
      (id.encode ++ (size.encode ++ rest))
      (.told schema id.value depth (.value read) :: events) := by
  have reads := value admits (List.length_take_of_le complete).symm defined spells following
  rw [List.take_append_drop, ← deep] at reads
  exact reads

theorem enter_ahead (deep : depth = scopes.length) (admits : limits.Admits id size)
    (defined : schema.definition? id.value = some definition)
    (nests : definition.type = .container)
    (following : Reads schema limits (size.value :: scopes) rest events) :
    Reads schema limits (Cursor.widen (id.length + size.length + size.value) scopes)
      (id.encode ++ (size.encode ++ rest)) (.told schema id.value depth .container :: events) := by
  rw [deep]
  exact enter admits defined nests following

end Reads

-- The rest of every open container, the innermost first, is the encoding of a forest of
-- its own, and so is what follows the outermost.
inductive Layers (schema : Schema) (limits : Limits) : List Nat → Bytes → List Event → Prop
  | outside {forest : Forest} (wellFormed : forest.WellFormed schema limits) :
      Layers schema limits [] forest.encode (forest.events schema 0)
  | inside {forest : Forest} {outer : List Nat} {rest : Bytes} {events : List Event}
      (wellFormed : forest.WellFormed schema limits)
      (following : Layers schema limits outer rest events) :
      Layers schema limits (forest.encode.length :: outer) (forest.encode ++ rest)
        (forest.events schema (outer.length + 1) ++ events)

variable {schema : Schema} {limits : Limits} {scopes outer : List Nat} {bytes rest : Bytes}
  {events : List Event}

theorem Layers.extend (front : Bytes) (told : Nat → List Event)
    (grow : ∀ forest : Forest, forest.WellFormed schema limits →
      ∃ longer : Forest, longer.WellFormed schema limits ∧
        longer.encode = front ++ forest.encode ∧
        ∀ depth, longer.events schema depth = told depth ++ forest.events schema depth)
    (following : Layers schema limits scopes rest events) :
    Layers schema limits (Cursor.widen front.length scopes) (front ++ rest)
      (told scopes.length ++ events) := by
  cases following with
  | @outside forest wellFormed =>
    obtain ⟨longer, longerWellFormed, encoded, tells⟩ := grow forest wellFormed
    have layers := Layers.outside longerWellFormed
    rw [encoded, tells] at layers
    exact layers
  | @inside forest outer rest events wellFormed following =>
    obtain ⟨longer, longerWellFormed, encoded, tells⟩ := grow forest wellFormed
    have layers := Layers.inside longerWellFormed following
    rw [encoded, tells, List.append_assoc, List.append_assoc, List.length_append,
      Nat.add_comm] at layers
    exact layers

theorem header_length {id size : Vint} {body : Bytes} (length : size.value = body.length) :
    (id.encode ++ (size.encode ++ body)).length = id.length + size.length + size.value := by
  rw [List.length_append, List.length_append, Vint.encode_length, Vint.encode_length, length,
    Nat.add_assoc]

theorem Reads.layers (reads : Reads schema limits scopes bytes events) :
    Layers schema limits scopes bytes events := by
  induction reads with
  | done => exact .outside .empty
  | close _ layers => exact .inside .empty layers
  | @unknown id size scopes body rest events admits length undefined _ layers =>
    have extended := layers.extend (id.encode ++ (size.encode ++ body))
      (fun depth => [.told schema id.value depth .unknown])
      fun forest wellFormed =>
        ⟨.unknown id size body forest, .unknown admits length undefined wellFormed,
          by simp only [Forest.encode, List.append_assoc], fun _ => rfl⟩
    rw [header_length length, List.append_assoc, List.append_assoc] at extended
    exact extended
  | @value id size scopes payload rest events definition read admits length defined spells _ layers =>
    have extended := layers.extend (id.encode ++ (size.encode ++ payload))
      (fun depth => [.told schema id.value depth (.value read)])
      fun forest wellFormed =>
        ⟨.value id size payload read forest, .value admits length defined spells wellFormed,
          by simp only [Forest.encode, List.append_assoc], fun _ => rfl⟩
    rw [header_length length, List.append_assoc, List.append_assoc] at extended
    exact extended
  | @enter id size scopes rest events definition admits defined nests _ layers =>
    -- The innermost layer is the forest of the children, and ends with the container.
    generalize opened : size.value :: scopes = inner at layers
    cases layers with
    | outside => cases opened
    | @inside children outer rest events inside following =>
      obtain ⟨length, rfl⟩ := List.cons.inj opened
      have extended := following.extend (id.encode ++ (size.encode ++ children.encode))
        (fun depth => .told schema id.value depth .container ::
          children.events schema (depth + 1))
        fun forest wellFormed =>
          ⟨.container id size children forest,
            .container admits length defined nests inside wellFormed,
            by simp only [Forest.encode, List.append_assoc], fun _ => rfl⟩
      rw [header_length length, List.append_assoc, List.append_assoc] at extended
      exact extended

theorem Layers.outermost (layers : Layers schema limits [] bytes events) :
    ∃ forest : Forest, forest.WellFormed schema limits ∧ forest.encode = bytes := by
  cases layers with
  | outside wellFormed => exact ⟨_, wellFormed, rfl⟩

theorem Reads.forest {forest : Forest} (wellFormed : forest.WellFormed schema limits)
    (following : Reads schema limits scopes rest events) :
    Reads schema limits (Cursor.widen forest.encode.length scopes) (forest.encode ++ rest)
      (forest.events schema scopes.length ++ events) := by
  induction wellFormed generalizing scopes rest events with
  | empty =>
    rw [Forest.encode, List.length_nil, Cursor.widen_zero]
    exact following
  | @unknown id size body forest admits length undefined _ ih =>
    have reads := Reads.unknown admits length undefined (ih following)
    rw [Cursor.widen_widen, Cursor.widen_length, ← header_length length, ← List.length_append] at reads
    simpa only [Forest.encode, Forest.events, List.append_assoc, List.cons_append] using reads
  | @value id size payload read forest definition admits length defined spells _ ih =>
    have reads := Reads.value admits length defined spells (ih following)
    rw [Cursor.widen_widen, Cursor.widen_length, ← header_length length, ← List.length_append] at reads
    simpa only [Forest.encode, Forest.events, List.append_assoc, List.cons_append] using reads
  | @container id size children forest definition admits length defined nests _ _ ihInside ih =>
    have inner := ihInside (.close (ih following))
    rw [Cursor.widen, Nat.zero_add, List.length_cons, Cursor.widen_length, ← length] at inner
    have reads := Reads.enter admits defined nests inner
    rw [Cursor.widen_widen, Cursor.widen_length, ← header_length length, ← List.length_append] at reads
    simpa only [Forest.encode, Forest.events, List.append_assoc, List.cons_append] using reads

end Ebml
