namespace Ebml

inductive ElementType where
  | int
  | uint
  | float
  | string
  | date
  | binary
  | container
deriving DecidableEq, Repr

namespace ElementType

def all : List ElementType := [int, uint, float, string, date, binary, container]

def name : ElementType → String
  | int => "int"
  | uint => "uint"
  | float => "float"
  | string => "string"
  | date => "date"
  | binary => "binary"
  | container => "container"

-- A type's name may be written in either case, ASCII letters only.
def ofName? (text : String) : Option ElementType :=
  all.find? fun type => type.name.toList == text.toList.map Char.toLower

theorem ofName?_name (type : ElementType) : ofName? type.name = some type := by
  cases type <;> decide

end ElementType

structure UnknownTypeName where
  text : String
deriving DecidableEq, Repr

namespace UnknownTypeName

def message (unknown : UnknownTypeName) : String :=
  s!"unknown element type '{unknown.text}'"

end UnknownTypeName

namespace ElementType

def ofName (text : String) : Except UnknownTypeName ElementType :=
  match ofName? text with
  | some type => .ok type
  | none => .error ⟨text⟩

end ElementType

end Ebml
