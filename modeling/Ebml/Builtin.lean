import Ebml.Schema

namespace Ebml

def ebmlId : ElementId := 0xa45dfa3
def crc32Id : ElementId := 0x43
def voidId : ElementId := 0x6c

namespace Builtin

-- The elements that any document may contain, whatever its own schema says.
def counter (id : ElementId) (name : String) (value : Nat) : Definition :=
  { Definition.new id .uint name with default? := some (Bytes.toBigEndian 8 value) }

def docType : Definition :=
  { Definition.new 0x282 .string "DocType" with
    range? := some (.uint [⟨.included 32, .included 126⟩]) }

def ebml : Definition :=
  { Definition.new ebmlId .container "EBML" with
    children? := some [
      counter 0x286 "EBMLVersion" 1,
      counter 0x2f7 "EBMLReadVersion" 1,
      counter 0x2f2 "EBMLMaxIDLength" 4,
      counter 0x2f3 "EBMLMaxSizeLength" 8,
      docType,
      counter 0x287 "DocTypeVersion" 1,
      counter 0x285 "DocTypeReadVersion" 1] }

def crc32 : Definition :=
  { Definition.new crc32Id .container "CRC32" with
    cardinality := .zeroOrMore
    children? := some [{ Definition.new 0x2fe .binary "CRC32Value" with size := 4 }] }

def void : Definition :=
  { Definition.new voidId .binary "Void" with cardinality := .zeroOrMore }

def schema : Schema := ⟨[ebml, crc32, void], []⟩

def text : String := "
define elements \x7b
    EBML := 1a45dfa3 container [ card:1; ] \x7b
        EBMLVersion := 4286 uint [ def:1; ]
        EBMLReadVersion := 42f7 uint [ def:1; ]
        EBMLMaxIDLength := 42f2 uint [ def:4; ]
        EBMLMaxSizeLength := 42f3 uint [ def:8; ]
        DocType := 4282 string [ range:32..126; ]
        DocTypeVersion := 4287 uint [ def:1; ]
        DocTypeReadVersion := 4285 uint [ def:1; ]
    \x7d

    // re-includes the children of wherever it appears
    CRC32 := c3 container [ level:1..; card:*; ] \x7b
        %children;
        CRC32Value := 42fe binary [ size:4; ]
    \x7d

    Void := ec binary [ level:1..; card:*; ]
\x7d
"

def additions (extended : Schema) : List Definition :=
  extended.definitions.filter fun definition =>
    schema.definition? definition.id != some definition

end Builtin

end Ebml
