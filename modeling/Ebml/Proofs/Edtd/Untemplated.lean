import Ebml.Proofs.Edtd.Log

namespace Ebml

namespace Edtd.State

-- The elements of a source do not depend on the templates that none of them names.

variable {one other state next : State} {lexeme : Lexeme} {schema : Schema} {nesting : Nesting}

def typeRead? (state : State) (lexeme : Lexeme) : Option String :=
  match state.place, lexeme with
  | .declarations _ (.type _ _), .word type => some type
  | _, _ => none

-- What there is of a reader besides the templates.
def elements (state : State) : List Definition × Place := (state.schema.roots, state.place)

theorem declare_elements {roots : List Definition} (aliases aliases' : List (String × Definition))
    (nesting : Nesting) (definition : Definition) :
    (declare ⟨roots, aliases⟩ nesting definition).elements =
      (declare ⟨roots, aliases'⟩ nesting definition).elements := by
  obtain ⟨_ | _, _ | ⟨around, outer⟩⟩ := nesting <;> rfl

theorem endList_elements {roots : List Definition} (aliases aliases' : List (String × Definition))
    (nesting : Nesting) :
    (endList ⟨roots, aliases⟩ nesting).elements = (endList ⟨roots, aliases'⟩ nesting).elements := by
  obtain ⟨kind, _ | ⟨around, outer⟩⟩ := nesting
  · rfl
  · exact declare_elements aliases aliases' _ _

theorem ofType_primitive {id : ElementId} {name word : String}
    (primitive : (ElementType.ofName? word).isSome = true) (schema schema' : Schema) :
    ofType schema id name word = ofType schema' id name word := by
  obtain ⟨type, named⟩ := Option.isSome_iff_exists.mp primitive
  simp only [ofType, named]

theorem feedHeader_elements {roots : List Definition} (aliases aliases' : List (String × Definition))
    (place : HeaderPlace) :
    elements <$> feedHeader ⟨roots, aliases⟩ place lexeme =
      elements <$> feedHeader ⟨roots, aliases'⟩ place lexeme := by
  cases place with
  | entry =>
    simp only [feedHeader]
    split <;> rfl
  | assign name =>
    simp only [feedHeader]
    split <;> rfl
  | value name =>
    simp only [feedHeader]
    split <;> rfl
  | finish name value =>
    have same : Schema.lastNamed? ⟨roots, aliases⟩ name = Schema.lastNamed? ⟨roots, aliases'⟩ name :=
      rfl
    simp only [feedHeader, same]
    split
    · cases Schema.lastNamed? ⟨roots, aliases'⟩ name with
      | none => rfl
      | some definition =>
        dsimp only
        cases defaultBytes definition.type value <;> rfl
    · rfl

theorem feedTerm_elements {roots : List Definition} (aliases aliases' : List (String × Definition))
    (definition : Definition) (terms : List RangeTerm) :
    elements <$> feedTerm ⟨roots, aliases⟩ nesting definition terms lexeme =
      elements <$> feedTerm ⟨roots, aliases'⟩ nesting definition terms lexeme := by
  unfold feedTerm
  split
  · rfl
  · split <;> rfl
  · rfl

theorem feedIgnored_elements {roots : List Definition}
    (aliases aliases' : List (String × Definition)) (definition : Definition) :
    elements <$> feedIgnored ⟨roots, aliases⟩ nesting definition lexeme =
      elements <$> feedIgnored ⟨roots, aliases'⟩ nesting definition lexeme := by
  unfold feedIgnored
  split <;> rfl

theorem feedValue_elements {roots : List Definition} (aliases aliases' : List (String × Definition))
    (definition : Definition) (parameter : String) :
    elements <$> feedValue ⟨roots, aliases⟩ nesting definition parameter lexeme =
      elements <$> feedValue ⟨roots, aliases'⟩ nesting definition parameter lexeme := by
  unfold feedValue
  split
  · cases cardinality lexeme <;> rfl
  · cases defaultBytes definition.type lexeme <;> rfl
  · cases payloadSize lexeme <;> rfl
  · exact feedTerm_elements aliases aliases' definition []
  · exact feedIgnored_elements aliases aliases' definition

theorem feedDeclaration_elements {roots : List Definition}
    (aliases aliases' : List (String × Definition)) {place : DeclarationPlace}
    (primitive : ∀ word ∈ typeRead? ⟨⟨roots, aliases⟩, .declarations nesting place⟩ lexeme,
      (ElementType.ofName? word).isSome = true) :
    elements <$> feedDeclaration ⟨roots, aliases⟩ nesting place lexeme =
      elements <$> feedDeclaration ⟨roots, aliases'⟩ nesting place lexeme := by
  cases place with
  | entry =>
    simp only [feedDeclaration]
    split
    · exact congrArg Except.ok (endList_elements aliases aliases' nesting)
    · rfl
    · rfl
    · rfl
  | assign name =>
    simp only [feedDeclaration]
    split
    · cases nesting.kind <;> rfl
    · rfl
  | id name =>
    simp only [feedDeclaration]
    split
    · rename_i literal
      cases elementId literal <;> rfl
    · rfl
  | type name id =>
    simp only [feedDeclaration]
    split
    · rename_i word
      rw [ofType_primitive (primitive word rfl) ⟨roots, aliases⟩ ⟨roots, aliases'⟩]
      cases ofType ⟨roots, aliases'⟩ id name word <;> rfl
    · rfl
  | tail definition =>
    simp only [feedDeclaration]
    split
    · exact congrArg Except.ok (declare_elements aliases aliases' nesting definition)
    · rfl
    · split <;> rfl
    · rfl
  | parameter definition =>
    simp only [feedDeclaration]
    split
    · split
      · rfl
      · exact congrArg Except.ok (declare_elements aliases aliases' nesting definition)
    · rfl
    · rfl
  | value definition parameter => exact feedValue_elements aliases aliases' definition parameter
  | term definition terms => exact feedTerm_elements aliases aliases' definition terms
  | termEnd definition terms =>
    simp only [feedDeclaration]
    split
    · rfl
    · cases rangeOf definition.type terms <;> rfl
    · rfl
  | ignored definition => exact feedIgnored_elements aliases aliases' definition
  | _ =>
    simp only [feedDeclaration]
    split <;> rfl

theorem feed_elements (same : one.elements = other.elements)
    (primitive : ∀ word ∈ one.typeRead? lexeme, (ElementType.ofName? word).isSome = true) :
    elements <$> one.feed lexeme = elements <$> other.feed lexeme := by
  obtain ⟨⟨roots, aliases⟩, place⟩ := one
  obtain ⟨⟨roots', aliases'⟩, place'⟩ := other
  cases same
  cases place with
  | block =>
    simp only [feed]
    split <;> rfl
  | blockKind =>
    simp only [feed]
    split <;> rfl
  | blockStart kind =>
    simp only [feed]
    split <;> rfl
  | header place => exact feedHeader_elements aliases aliases' place
  | declarations nesting place => exact feedDeclaration_elements aliases aliases' primitive

theorem feedAll_elements {lexemes : List Lexeme} (same : one.elements = other.elements)
    (primitive : ∀ word ∈ noted typeRead? one lexemes, (ElementType.ofName? word).isSome = true) :
    elements <$> one.feedAll lexemes = elements <$> other.feedAll lexemes := by
  induction lexemes generalizing one other with
  | nil => exact congrArg Except.ok same
  | cons lexeme rest ih =>
    have here : ∀ word ∈ one.typeRead? lexeme, (ElementType.ofName? word).isSome = true := by
      intro word read
      refine primitive word ?_
      unfold noted
      exact List.mem_append_left _ (Option.mem_toList.mpr read)
    rw [feedAll_cons, feedAll_cons]
    rcases map_eq_map (feed_elements same here) with ⟨fault, fed, fed'⟩ | ⟨next, next', fed, fed', view⟩
    · rw [fed, fed']
    · rw [noted_cons fed, List.forall_mem_append] at primitive
      rw [fed, fed']
      exact ih view primitive.2

theorem finish_elements (same : one.elements = other.elements) (stop : Stop) :
    Schema.roots <$> one.finish stop = Schema.roots <$> other.finish stop := by
  obtain ⟨⟨roots, aliases⟩, place⟩ := one
  obtain ⟨⟨roots', aliases'⟩, place'⟩ := other
  cases same
  cases stop with
  | invalid error => rfl
  | endOfInput => cases place <;> rfl

theorem compiled_elements {lexemes : List Lexeme} (same : one.elements = other.elements)
    (primitive : ∀ word ∈ noted typeRead? one lexemes, (ElementType.ofName? word).isSome = true)
    (stop : Stop) :
    Schema.roots <$> (one.feedAll lexemes).bind (·.finish stop) =
      Schema.roots <$> (other.feedAll lexemes).bind (·.finish stop) := by
  rcases map_eq_map (feedAll_elements same primitive) with
    ⟨fault, fed, fed'⟩ | ⟨next, next', fed, fed', view⟩
  · rw [fed, fed']
  · rw [fed, fed']
    exact finish_elements view stop

end Edtd.State

namespace Schema

def typesRead (schema : Schema) (source : String) : List String :=
  Edtd.State.noted Edtd.State.typeRead? ⟨schema, .block⟩ (Edtd.lex source.toList).1

end Schema

end Ebml
