import Ebml.Proofs.Edtd.Viable

namespace Ebml

namespace Edtd.Grammar

variable {schema : Schema} {nesting : Nesting} {definition : Definition} {lexeme : Lexeme}
  {state next : State} {start : Context} {tokens parameters : List Lexeme}

theorem feedTerm_listing {terms : List RangeTerm} (listed : Repeated Parameter parameters)
    (leading : Leading tokens)
    (fed : State.feedTerm schema nesting definition terms lexeme = .ok next) :
    ∃ place, next = ⟨schema, .declarations nesting place⟩ ∧
      Listing place definition
        (parameters ++ .word "range" :: .symbol .colon :: (tokens ++ [lexeme])) := by
  unfold State.feedTerm at fed
  split at fed
  · cases fed
    exact ⟨_, rfl, .termEnd listed (leading.terms .span)⟩
  · rename_i mark
    split at fed <;> cases fed
    rename_i relation related
    have relates : mark ∈ [Symbol.less, .atMost, .greater, .atLeast] := by
      cases mark <;> first | decide | cases related
    exact ⟨_, rfl, .termNumber listed leading relates⟩
  · cases fed

theorem feedIgnored_listing {name : String} (listed : Repeated Parameter parameters)
    (unnamed : name ∉ ["card", "def", "size", "range"])
    (inside : ∀ token ∈ tokens, token ≠ .symbol .semicolon ∧ token ≠ .symbol .closeBracket)
    (fed : State.feedIgnored schema nesting definition lexeme = .ok next) :
    ∃ place, next = ⟨schema, .declarations nesting place⟩ ∧
      Listing place definition
        (parameters ++ .word name :: .symbol .colon :: (tokens ++ [lexeme])) := by
  unfold State.feedIgnored at fed
  split at fed
  · cases fed
    exact ⟨_, rfl, .parameter (listed.more (.named (.unknown unnamed inside)))⟩
  · cases fed
  · rename_i unended unclosed
    cases fed
    refine ⟨_, rfl, .ignored listed unnamed ?_⟩
    simp only [List.forall_mem_append, List.forall_mem_singleton]
    exact ⟨inside, unended, unclosed⟩

theorem symbol_unread (mark : Symbol) : Literal.int64? mark.text.toList = none ∧
    Literal.uint64? mark.text.toList = none ∧ Literal.float? mark.text.toList = none := by
  cases mark <;> decide

theorem quoted_unread (body : String) :
    Literal.uint64? (Lexeme.quoted body).text.toList = none := by
  have quote : (Lexeme.quoted body).text.toList = '"' :: (body.toList ++ ['"']) := by
    simp [Lexeme.text, toString]
  simp [quote, Literal.uint64?, Literal.natural?]

theorem cardinality_argument {value : Lexeme} {written : Cardinality}
    (read : cardinality value = .ok written) : Argument "card" [value] := by
  unfold cardinality at read
  split at read
  · exact .cardinality (by simp)
  · exact .cardinality (by simp)
  · exact .cardinality (by simp)
  · exact .cardinality (by simp)
  · cases read

theorem default_argument {type : ElementType} {value : Lexeme} {bytes : Bytes}
    (encoded : defaultBytes type value = .ok bytes) : Argument "def" [value] := by
  refine .default ?_
  intro mark same
  subst same
  obtain ⟨noInt, noUInt, noFloat⟩ := symbol_unread mark
  cases type with
  | int => simp [defaultBytes, Lexeme.text, readLiteral, noInt] at encoded
  | uint => simp [defaultBytes, Lexeme.text, readLiteral, noUInt] at encoded
  | float => simp [defaultBytes, Lexeme.text, readLiteral, noFloat] at encoded
  | _ => cases encoded

theorem size_argument {value : Lexeme} {size : Nat} (read : payloadSize value = .ok size) :
    Argument "size" [value] := by
  cases value with
  | word text => exact .size
  | symbol mark => simp [payloadSize, Lexeme.text, readLiteral, (symbol_unread mark).2.1] at read
  | quoted body => simp [payloadSize, readLiteral, quoted_unread] at read

theorem feedValue_listing {name : String} (listed : Repeated Parameter parameters)
    (fed : State.feedValue schema nesting definition name lexeme = .ok next) :
    ∃ place changed, next = ⟨schema, .declarations nesting place⟩ ∧
      Listing place changed (parameters ++ [.word name, .symbol .colon, lexeme]) ∧
      changed.name = definition.name ∧ changed.type = definition.type := by
  unfold State.feedValue at fed
  dsimp only at fed
  split at fed
  · obtain ⟨written, read, done⟩ := bind_eq_ok.mp fed
    cases done
    exact ⟨_, _, rfl, .parameterEnd listed (cardinality_argument read), rfl, rfl⟩
  · obtain ⟨bytes, encoded, done⟩ := bind_eq_ok.mp fed
    cases done
    exact ⟨_, _, rfl, .parameterEnd listed (default_argument encoded), rfl, rfl⟩
  · obtain ⟨size, read, done⟩ := bind_eq_ok.mp fed
    cases done
    exact ⟨_, _, rfl, .parameterEnd listed (size_argument read), rfl, rfl⟩
  · obtain ⟨place, reached, listing⟩ := feedTerm_listing listed .none fed
    exact ⟨place, definition, reached, listing, rfl, rfl⟩
  · rename_i noCard noDef noSize noRange
    have unnamed : name ∉ ["card", "def", "size", "range"] := by
      simp only [List.mem_cons, List.not_mem_nil, or_false, not_or]
      exact ⟨noCard, noDef, noSize, noRange⟩
    obtain ⟨place, reached, listing⟩ :=
      feedIgnored_listing listed unnamed (List.forall_mem_nil _) fed
    exact ⟨place, definition, reached, listing, rfl, rfl⟩

theorem feedDeclaration_listing {place : DeclarationPlace}
    (listing : Listing place definition tokens)
    (unclosed : lexeme = .symbol .closeBracket → place ≠ .parameter definition)
    (fed : State.feedDeclaration schema nesting place lexeme = .ok next) :
    ∃ place' changed, next = ⟨schema, .declarations nesting place'⟩ ∧
      Listing place' changed (tokens ++ [lexeme]) ∧
      changed.name = definition.name ∧ changed.type = definition.type := by
  cases listing with
  | parameter listed =>
    simp only [State.feedDeclaration] at fed
    split at fed
    · exact absurd rfl (unclosed rfl)
    · cases fed
      exact ⟨_, _, rfl, .colon listed, rfl, rfl⟩
    · cases fed
  | colon listed =>
    simp only [State.feedDeclaration] at fed
    split at fed <;> cases fed
    rename_i colon
    subst colon
    refine ⟨_, _, rfl, ?_, rfl, rfl⟩
    simpa using Listing.value listed
  | value listed =>
    obtain ⟨place, changed, reached, listing, same⟩ := feedValue_listing listed fed
    exact ⟨place, changed, reached, by simpa using listing, same⟩
  | parameterEnd listed valued =>
    simp only [State.feedDeclaration] at fed
    split at fed <;> cases fed
    rename_i ended
    subst ended
    have longer := listed.more (.named valued)
    refine ⟨_, _, rfl, ?_, rfl, rfl⟩
    simpa using Listing.parameter longer
  | term listed leading =>
    obtain ⟨place, reached, listing⟩ := feedTerm_listing listed leading fed
    exact ⟨place, _, reached, by simpa using listing, rfl, rfl⟩
  | termNumber listed leading relates =>
    simp only [State.feedDeclaration] at fed
    split at fed <;> cases fed
    refine ⟨_, _, rfl, ?_, rfl, rfl⟩
    simpa using Listing.termEnd listed (leading.terms (.related relates))
  | termEnd listed ranged =>
    simp only [State.feedDeclaration] at fed
    split at fed
    · cases fed
      refine ⟨_, _, rfl, ?_, rfl, rfl⟩
      simpa using Listing.term listed (.comma ranged)
    · obtain ⟨range, _, done⟩ := bind_eq_ok.mp fed
      cases done
      have longer := listed.more (.named (.range ranged))
      refine ⟨_, { definition with range? := some range }, rfl, ?_, rfl, rfl⟩
      simpa using Listing.parameter longer
    · cases fed
  | ignored listed unnamed inside =>
    obtain ⟨place, reached, listing⟩ := feedIgnored_listing listed unnamed inside fed
    exact ⟨place, _, reached, by simpa using listing, rfl, rfl⟩

theorem elementId?_isSome {literal : String} {id : ElementId} (read : elementId literal = .ok id) :
    (elementId? literal).isSome = true := by
  unfold elementId at read
  split at read
  · rename_i found
    simp [found]
  · cases read

theorem listing_viable {place : DeclarationPlace} {before heading last : List Lexeme}
    (reached : Reached start schema.types nesting.kind (containers nesting) before)
    (headed : Heading schema.types nesting.kind definition.name definition.type heading)
    (listing : Listing place definition last)
    (fed : State.feedDeclaration schema nesting place lexeme = .ok next) :
    Viable start next (before ++ (heading ++ .symbol .openBracket :: last ++ [lexeme])) := by
  by_cases closed : lexeme = .symbol .closeBracket ∧ place = .parameter definition
  · obtain ⟨closing, here⟩ := closed
    subst closing here
    cases listing with
    | parameter listed =>
      simp only [State.feedDeclaration] at fed
      split at fed <;> cases fed
      · rename_i container
        have viable := Viable.declarations reached
          (.children headed (beq_iff_eq.mp container) listed)
        simpa [bracketed] using viable
      · rename_i single
        have childless : definition.type ≠ .container := by
          simpa [Definition.isContainer] using single
        have viable := declare_viable reached headed (.leaf childless listed)
        simpa [bracketed] using viable
  -- Any other lexeme is still about the parameters.
  · have unclosed : lexeme = .symbol .closeBracket → place ≠ .parameter definition :=
      fun closing here => closed ⟨closing, here⟩
    obtain ⟨place', changed, reached', listing', name, type⟩ :=
      feedDeclaration_listing listing unclosed fed
    subst reached'
    rw [← name, ← type] at headed
    have viable := Viable.declarations reached (.listing headed listing')
    simpa using viable

theorem feedDeclaration_viable {place : DeclarationPlace} {before last : List Lexeme}
    (reached : Reached start schema.types nesting.kind (containers nesting) before)
    (begun : ItemBegun schema.types nesting.kind place last)
    (fed : State.feedDeclaration schema nesting place lexeme = .ok next) :
    Viable start next (before ++ (last ++ [lexeme])) := by
  cases begun with
  | entry =>
    simp only [State.feedDeclaration] at fed
    split at fed <;> cases fed
    · exact endList_viable reached
    · exact .declarations reached .marker
    · exact .declarations reached .assign
  | marker =>
    simp only [State.feedDeclaration] at fed
    split at fed <;> cases fed
    rename_i children
    subst children
    exact .declarations reached .markerEnd
  | markerEnd =>
    simp only [State.feedDeclaration] at fed
    split at fed <;> cases fed
    rename_i ended
    subst ended
    exact marker_viable reached
  | assign =>
    simp only [State.feedDeclaration] at fed
    split at fed
    · rename_i assign
      subst assign
      cases kind : nesting.kind <;> simp only [kind] at fed <;> cases fed
      · exact .declarations reached (.id kind)
      · exact .declarations reached (.type (kind ▸ .alias))
    · cases fed
  | id elements =>
    simp only [State.feedDeclaration] at fed
    split at fed
    · rename_i literal
      obtain ⟨number, read, done⟩ := bind_eq_ok.mp fed
      cases done
      exact .declarations reached (.type (elements ▸ .element (elementId?_isSome read)))
    · cases fed
  | type identified =>
    simp only [State.feedDeclaration] at fed
    split at fed
    · obtain ⟨definition, typed, done⟩ := bind_eq_ok.mp fed
      cases done
      have named := ofType_name typed
      subst named
      exact .declarations reached (.tail (.typed identified (ofType_known typed)))
    · cases fed
  | tail headed =>
    simp only [State.feedDeclaration] at fed
    split at fed
    · cases fed
      exact declare_viable reached headed .plain
    · cases fed
      exact .declarations reached (.listing headed (.parameter .none))
    · split at fed <;> cases fed
      rename_i container
      exact startList_viable reached headed (beq_iff_eq.mp container) .absent
    · cases fed
  | listing headed listing => exact listing_viable reached headed listing fed
  | children headed container listed =>
    simp only [State.feedDeclaration] at fed
    split at fed <;> cases fed
    rename_i opened
    subst opened
    have viable := startList_viable reached headed container (.listed listed)
    simpa using viable

theorem feedHeader_viable {place : HeaderPlace} {earlier entries last : List Lexeme}
    {opening : String} (sentence : Sentence start earlier schema.types)
    (opens : opening ∈ ["declare", "define"]) (repeated : Repeated Entry entries)
    (begun : EntryBegun place last) (fed : State.feedHeader schema place lexeme = .ok next) :
    Viable start next (earlier ++ .word opening :: .word "header" :: .symbol .openBrace ::
      (entries ++ (last ++ [lexeme]))) := by
  cases begun with
  | entry =>
    simp only [State.feedHeader] at fed
    split at fed <;> cases fed
    · exact .block (sentence.more (.header opens repeated))
    · exact .header sentence opens repeated .assign
  | assign =>
    simp only [State.feedHeader] at fed
    split at fed <;> cases fed
    rename_i assign
    subst assign
    exact .header sentence opens repeated .value
  | value =>
    simp only [State.feedHeader] at fed
    split at fed <;> cases fed
    rename_i valued
    exact .header sentence opens repeated (.finish _ valued)
  | finish name valued =>
    obtain ⟨ended, definition, bytes, named, encoded, reached⟩ := State.feedHeader_finish fed
    subst ended reached
    have entry : Entry [.word name, .symbol .assign, _, .symbol .semicolon] := .named valued
    have viable : Viable start ⟨schema.overrideDefault name bytes, .header .entry⟩ _ :=
      .header sentence opens (repeated.more entry) .entry
    simpa using viable

theorem feed_viable (viable : Viable start state tokens) (fed : state.feed lexeme = .ok next) :
    Viable start next (tokens ++ [lexeme]) := by
  cases viable with
  | block sentence =>
    simp only [State.feed] at fed
    split at fed <;> cases fed
    rename_i opens
    rcases opens with declare | define
    · subst declare
      exact .blockKind sentence (by simp)
    · subst define
      exact .blockKind sentence (by simp)
  | blockKind sentence opens =>
    simp only [State.feed] at fed
    split at fed <;> cases fed
    · have viable : Viable start ⟨_, .blockStart .elements⟩ _ :=
        .blockStart _ sentence opens
      simpa [blockWord] using viable
    · have viable : Viable start ⟨_, .blockStart .header⟩ _ :=
        .blockStart _ sentence opens
      simpa [blockWord] using viable
    · have viable : Viable start ⟨_, .blockStart .types⟩ _ :=
        .blockStart _ sentence opens
      simpa [blockWord] using viable
  | blockStart kind sentence opens =>
    simp only [State.feed] at fed
    split at fed <;> cases fed
    rename_i opened
    subst opened
    cases kind
    · have viable : Viable start ⟨_, .declarations ⟨.element, []⟩ .entry⟩ _ :=
        .declarations (.elements sentence opens .none) .entry
      simpa [blockWord] using viable
    · have viable : Viable start ⟨_, .header .entry⟩ _ := .header sentence opens .none .entry
      simpa [blockWord] using viable
    · have viable : Viable start ⟨_, .declarations ⟨.alias, []⟩ .entry⟩ _ :=
        .declarations (.types sentence opens .none) .entry
      simpa [blockWord] using viable
  | header sentence opens repeated begun =>
    have viable := feedHeader_viable sentence opens repeated begun fed
    simpa using viable
  | declarations reached begun =>
    have viable := feedDeclaration_viable reached begun fed
    simpa using viable

theorem feedAll_viable {lexemes : List Lexeme} (viable : Viable start state tokens)
    (fed : state.feedAll lexemes = .ok next) : Viable start next (tokens ++ lexemes) := by
  induction lexemes generalizing state tokens with
  | nil =>
    cases fed
    simpa using viable
  | cons lexeme rest ih =>
    obtain ⟨between, fed, later⟩ := bind_eq_ok.mp (List.foldlM_cons.symm.trans fed)
    have longer := ih (feed_viable viable fed) later
    simpa using longer

end Edtd.Grammar

namespace Schema

theorem extend_sentence {schema extended : Schema} {source : String}
    (compiled : schema.extend source = .ok extended) :
    (Edtd.lex source.toList).2 = .endOfInput ∧
      Edtd.Grammar.Sentence schema.types (Edtd.lex source.toList).1 extended.types := by
  obtain ⟨ended, fed⟩ := extend_eq_ok_iff.mp compiled
  have start : Edtd.Grammar.Viable schema.types ⟨schema, .block⟩ [] := .block .none
  have viable := Edtd.Grammar.feedAll_viable start fed
  refine ⟨ended, ?_⟩
  cases viable with
  | block sentence => exact sentence

-- Only the sentences of the language compile, from their first token to their last, and what
-- they make known to the grammar is what the schema has.
theorem compiled_sentence {schema : Schema} {source : String}
    (compiled : ofText source = .ok schema) :
    (Edtd.lex source.toList).2 = .endOfInput ∧
      Edtd.Grammar.Sentence [] (Edtd.lex source.toList).1 schema.types :=
  extend_sentence compiled

def chained : String :=
  "define types \x7b G := container \x7b C := uint; \x7d H := g; \x7d " ++
    "declare elements \x7b A := 4081 h [ card: *; note: 1, x; ] \x7b % children; " ++
      "B := 82 uint [ range: 1..9, > 20; ] \x7d \x7d define header \x7b B := 5; \x7d"

theorem chained_templates_sentence :
    (ofText chained).toOption.map (·.types) = some [("h", .container), ("g", .container)] ∧
      Edtd.Grammar.Sentence [] (Edtd.lex chained.toList).1
        [("h", .container), ("g", .container)] := by
  have compiles : (ofText chained).toOption.map (·.types) =
      some [("h", .container), ("g", .container)] := by decide +kernel
  refine ⟨compiles, ?_⟩
  obtain ⟨schema, read, types⟩ := Option.map_eq_some_iff.mp compiles
  rw [← types]
  exact (compiled_sentence (Edtd.toOption_eq_some.mp read)).2

end Schema

end Ebml
