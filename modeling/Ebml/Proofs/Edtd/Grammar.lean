import Ebml.Edtd.Parameter
import Ebml.Edtd.Place
import Ebml.Text.Lowercase

namespace Ebml.Edtd.Grammar

-- The sentences of the schema language, phrase by phrase and apart from any reader of them.
-- How a declaration may end depends on its type, so the grammar keeps the types that the
-- names of templates stand for, the latest first.
abbrev Context := List (String × ElementType)

def Context.type? (known : Context) (word : String) : Option ElementType :=
  (ElementType.ofName? word).or (known.lookup (Text.lower word))

inductive Repeated (Phrase : List Lexeme → Prop) : List Lexeme → Prop
  | none : Repeated Phrase []
  | more {earlier last : List Lexeme} (repeated : Repeated Phrase earlier) (phrase : Phrase last) :
      Repeated Phrase (earlier ++ last)

def bracketed (tokens : List Lexeme) : List Lexeme :=
  .symbol .openBracket :: (tokens ++ [.symbol .closeBracket])

def braced (tokens : List Lexeme) : List Lexeme :=
  .symbol .openBrace :: (tokens ++ [.symbol .closeBrace])

inductive Term : List Lexeme → Prop
  | span {text : String} : Term [.word text]
  | related {mark : Symbol} {number : String}
      (relation : mark ∈ [Symbol.less, .atMost, .greater, .atLeast]) :
      Term [.symbol mark, .word number]

inductive Terms : List Lexeme → Prop
  | one {term : List Lexeme} (single : Term term) : Terms term
  | more {earlier term : List Lexeme} (terms : Terms earlier) (last : Term term) :
      Terms (earlier ++ .symbol .comma :: term)

inductive Argument : String → List Lexeme → Prop
  | cardinality {value : Lexeme}
      (mark : value ∈ [Lexeme.symbol .star, .symbol .question, .word "1", .symbol .plus]) :
      Argument "card" [value]
  | default {value : Lexeme} (valued : ∀ mark, value ≠ .symbol mark) : Argument "def" [value]
  | size {number : String} : Argument "size" [.word number]
  | range {terms : List Lexeme} (listed : Terms terms) : Argument "range" terms
  | unknown {name : String} {tokens : List Lexeme}
      (unnamed : name ∉ ["card", "def", "size", "range"])
      (inside : ∀ token ∈ tokens, token ≠ .symbol .semicolon ∧ token ≠ .symbol .closeBracket) :
      Argument name tokens

inductive Parameter : List Lexeme → Prop
  | named {name : String} {tokens : List Lexeme} (argument : Argument name tokens) :
      Parameter (.word name :: .symbol .colon :: (tokens ++ [.symbol .semicolon]))

inductive Identifier : DeclarationKind → List Lexeme → Prop
  | element {literal : String} (read : (elementId? literal).isSome = true) :
      Identifier .element [.word literal]
  | alias : Identifier .alias []

inductive Heading (known : Context) (kind : DeclarationKind) (name : String) (type : ElementType) :
    List Lexeme → Prop
  | typed {identifier : List Lexeme} {word : String} (identified : Identifier kind identifier)
      (names : known.type? word = some type) :
      Heading known kind name type (.word name :: .symbol .assign :: (identifier ++ [.word word]))

inductive Options : List Lexeme → Prop
  | absent : Options []
  | listed {parameters : List Lexeme} (repeated : Repeated Parameter parameters) :
      Options (bracketed parameters)

def marker : List Lexeme := [.symbol .percent, .word "children", .symbol .semicolon]

mutual
inductive Item (known : Context) (kind : DeclarationKind) : List Lexeme → Prop
  | marker : Item known kind marker
  | declaration {name : String} {type : ElementType} {heading tail : List Lexeme}
      (headed : Heading known kind name type heading) (tailed : Tail known kind type tail) :
      Item known kind (heading ++ tail)

-- What follows the type: parameters alone are for what has no children.
inductive Tail (known : Context) (kind : DeclarationKind) : ElementType → List Lexeme → Prop
  | plain {type : ElementType} : Tail known kind type [.symbol .semicolon]
  | leaf {type : ElementType} {parameters : List Lexeme} (childless : type ≠ .container)
      (repeated : Repeated Parameter parameters) : Tail known kind type (bracketed parameters)
  | container {options items : List Lexeme} (optional : Options options)
      (repeated : Repeated (Item known kind) items) :
      Tail known kind .container (options ++ braced items)
end

-- Each template of a block of types is known to what comes after it.
inductive Templates (known : Context) : List Lexeme → Context → Prop
  | none : Templates known [] known
  | marker {earlier : List Lexeme} {known' : Context} (templates : Templates known earlier known') :
      Templates known (earlier ++ marker) known'
  | declaration {earlier heading tail : List Lexeme} {known' : Context} {name : String}
      {type : ElementType} (templates : Templates known earlier known')
      (headed : Heading known' .alias name type heading) (tailed : Tail known' .alias type tail) :
      Templates known (earlier ++ (heading ++ tail)) ((Text.lower name, type) :: known')

inductive Entry : List Lexeme → Prop
  | named {name : String} {value : Lexeme} (valued : ∀ mark, value ≠ .symbol mark) :
      Entry [.word name, .symbol .assign, value, .symbol .semicolon]

inductive Block (known : Context) : List Lexeme → Context → Prop
  | elements {opening : String} {items : List Lexeme} (opens : opening ∈ ["declare", "define"])
      (repeated : Repeated (Item known .element) items) :
      Block known (.word opening :: .word "elements" :: braced items) known
  | header {opening : String} {entries : List Lexeme} (opens : opening ∈ ["declare", "define"])
      (repeated : Repeated Entry entries) :
      Block known (.word opening :: .word "header" :: braced entries) known
  | types {opening : String} {items : List Lexeme} {known' : Context}
      (opens : opening ∈ ["declare", "define"]) (templates : Templates known items known') :
      Block known (.word opening :: .word "types" :: braced items) known'

-- What is known before a sentence, the sentence, and what is known after it.
inductive Sentence (known : Context) : List Lexeme → Context → Prop
  | none : Sentence known [] known
  | more {earlier last : List Lexeme} {between known' : Context}
      (sentence : Sentence known earlier between) (block : Block between last known') :
      Sentence known (earlier ++ last) known'

end Ebml.Edtd.Grammar
