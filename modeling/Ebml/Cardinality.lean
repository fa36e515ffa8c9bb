namespace Ebml

inductive Cardinality where
  | zeroOrOne
  | zeroOrMore
  | exactlyOne
  | oneOrMore
deriving DecidableEq, Repr

namespace Cardinality

instance : Inhabited Cardinality := ⟨exactlyOne⟩

def minimum : Cardinality → Nat
  | zeroOrOne | zeroOrMore => 0
  | exactlyOne | oneOrMore => 1

def maximum? : Cardinality → Option Nat
  | zeroOrOne | exactlyOne => some 1
  | zeroOrMore | oneOrMore => none

def admits (cardinality : Cardinality) (count : Nat) : Bool :=
  cardinality.minimum ≤ count && cardinality.maximum?.all (count ≤ ·)

end Cardinality

end Ebml
