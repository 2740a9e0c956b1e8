/-! # Field names
A record's field has the name it is declared under and the name it has on the wire. Everything that
is rendered into a request takes the wire name. -/

namespace ODataClient

/-- The name of a field. -/
structure FieldName where
  /-- The name inside the program. -/
  localName : String
  /-- The name on the wire, when one was declared. -/
  declaredWire : Option String
deriving DecidableEq, Repr

namespace FieldName

/-- A field with one name for both uses. -/
def plain (name : String) : FieldName := ⟨name, none⟩

/-- A field with a wire name of its own. -/
def renamed (localName wire : String) : FieldName := ⟨localName, some wire⟩

/-- The name on the wire: the declared one, or else the local one. -/
def wireName (field : FieldName) : String := field.declaredWire.getD field.localName

@[simp] theorem wireName_plain (name : String) : (plain name).wireName = name := rfl

@[simp] theorem wireName_renamed (localName wire : String) :
    (renamed localName wire).wireName = wire := rfl

end FieldName

/-- A path of field names, from the record outward. -/
structure MemberPath where
  /-- The segments in order. -/
  segments : List FieldName
deriving DecidableEq, Repr

namespace MemberPath

/-- The path of a single field. -/
def ofField (field : FieldName) : MemberPath := ⟨[field]⟩

/-- The wire names of the segments joined by slashes. -/
def wirePath (path : MemberPath) : String := "/".intercalate (path.segments.map FieldName.wireName)

@[simp] theorem wirePath_ofField (field : FieldName) :
    (ofField field).wirePath = field.wireName := by
  simp [ofField, wirePath]

end MemberPath

end ODataClient
