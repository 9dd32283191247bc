import Conformance.Facts
import Conformance.Json.Basic

/-!
# Exchange format

Results are written as JSON objects and read back.  The records of the format are those of a result,
except that a reader does not look into names, lines, paths and flags: any JSON value stands for
itself there.

**Writing.**  `Payload.toJson` writes a payload, `Payload.ofResult` makes one from a result.

**Reading.**  `Payload.read?` accepts the format and nothing else.
* An object of a package, an interface or a struct may have members that the format does not know;
  an object of another record may not.
* A list may be missing; an empty text or an empty object stands for an empty list.
* The flags of a field or a method may be missing and are then false; so may the embedded interface
  of an interface, which is then `null`.

Anything malformed makes the whole payload empty (`Payload.read`).

**Results.**
* `read_of_malformed`: what is malformed is read as the empty payload.
-/

namespace Conformance
namespace Exchange

section Records

/-- A method that an interface lists. -/
structure MethodSpec where
  name : Json
  line : Json
  file : Json

/-- An interface declaration. -/
structure Interface where
  name : Json
  line : Json
  file : Json
  methods : List MethodSpec
  embedded : Json

/-- A field of a struct. -/
structure Field where
  name : Json
  typeName : Json
  line : Json
  file : Json
  embedded : Json
  pointer : Json

/-- A struct declaration. -/
structure Struct where
  name : Json
  line : Json
  file : Json
  fields : List Field

/-- A method declared on a receiver type. -/
structure Method where
  receiver : Json
  name : Json
  line : Json
  file : Json
  pointer : Json

/-- A claim that a struct implements an interface. -/
structure Directive where
  structName : Json
  interfaceName : Json
  line : Json
  file : Json

/-- A package. -/
structure Package where
  path : Json
  name : Json
  interfaces : List Interface
  structs : List Struct
  methods : List Method
  directives : List Directive

/-- The packages of a result, by directory. -/
structure Payload where
  packages : OrderedMap String Package

end Records

section Writing

/-- The object of an interface method. -/
def MethodSpec.toJson (m : MethodSpec) : Json :=
  .obj [("name", m.name), ("line", m.line), ("file_path", m.file)]

/-- The object of an interface. -/
def Interface.toJson (i : Interface) : Json :=
  .obj [("name", i.name), ("line", i.line), ("file_path", i.file),
    ("methods", .arr (i.methods.map MethodSpec.toJson)), ("internal_type", i.embedded)]

/-- The object of a field. -/
def Field.toJson (f : Field) : Json :=
  .obj [("name", f.name), ("type_name", f.typeName), ("line", f.line), ("file_path", f.file),
    ("embedded", f.embedded), ("is_pointer", f.pointer)]

/-- The object of a struct. -/
def Struct.toJson (s : Struct) : Json :=
  .obj [("name", s.name), ("line", s.line), ("file_path", s.file),
    ("fields", .arr (s.fields.map Field.toJson))]

/-- The object of a method. -/
def Method.toJson (m : Method) : Json :=
  .obj [("receiver_type", m.receiver), ("method_name", m.name), ("line", m.line),
    ("file_path", m.file), ("is_pointer", m.pointer)]

/-- The object of a directive. -/
def Directive.toJson (d : Directive) : Json :=
  .obj [("struct_name", d.structName), ("interface_name", d.interfaceName), ("line", d.line),
    ("file_path", d.file)]

/-- The object of a package. -/
def Package.toJson (p : Package) : Json :=
  .obj [("path", p.path), ("name", p.name),
    ("interfaces", .arr (p.interfaces.map Interface.toJson)),
    ("structs", .arr (p.structs.map Struct.toJson)),
    ("methods", .arr (p.methods.map Method.toJson)),
    ("declarations", .arr (p.directives.map Directive.toJson))]

/-- The member under which a payload has its packages. -/
def packagesMember : String := "packages"

/-- The members of the object of a payload. -/
def Payload.members (p : Payload) : List (String × Json) :=
  [(packagesMember, .obj (p.packages.entries.map fun e => (e.1, e.2.toJson)))]

/-- The object of a payload. -/
def Payload.toJson (p : Payload) : Json :=
  .obj p.members

end Writing

section Results

/-- The records of an interface method. -/
def MethodSpec.ofFact (m : Conformance.MethodSpec) : MethodSpec :=
  ⟨.str m.name, .int m.location.line, .str m.location.file⟩

/-- The record of an interface. -/
def Interface.ofFact (i : Conformance.Interface) : Interface :=
  ⟨.str i.name, .int i.location.line, .str i.location.file, i.methods.map MethodSpec.ofFact,
    .ofText? i.embedded⟩

/-- The record of a field. -/
def Field.ofFact (f : Conformance.Field) : Field :=
  ⟨.str f.name, .str f.typeName, .int f.location.line, .str f.location.file, .bool f.embedded,
    .bool f.pointer⟩

/-- The record of a struct. -/
def Struct.ofFact (s : Conformance.Struct) : Struct :=
  ⟨.str s.name, .int s.location.line, .str s.location.file, s.fields.map Field.ofFact⟩

/-- The record of a method. -/
def Method.ofFact (m : Conformance.Method) : Method :=
  ⟨.str m.receiver, .str m.name, .int m.location.line, .str m.location.file, .bool m.pointer⟩

/-- The record of a directive. -/
def Directive.ofFact (d : Conformance.Directive) : Directive :=
  ⟨.str d.structName, .str d.interfaceName, .int d.location.line, .str d.location.file⟩

/-- The record of a package. -/
def Package.ofFact (p : Conformance.Package) : Package where
  path := .str p.path
  name := .str p.name
  interfaces := p.findings.interfaces.map Interface.ofFact
  structs := p.findings.structs.map Struct.ofFact
  methods := p.findings.methods.map Method.ofFact
  directives := p.findings.directives.map Directive.ofFact

/-- The payload of a result. -/
def Payload.ofResult (r : Result) : Payload :=
  ⟨r.packages.mapValues Package.ofFact⟩

end Results

section Reading

/-- The items in the place of a list, each of them read. -/
def readList? {α : Type} (readItem? : Json → Option α) : Option Json → Option (List α)
  | none => some []
  | some (.arr items) => items.mapM readItem?
  | some (.str s) => if s.isEmpty then some [] else none
  | some (.obj []) => some []
  | some _ => none

/-- Whether an object has only members of these names. -/
def hasOnly (names : List String) (j : Json) : Bool :=
  (j.members?.getD []).all fun m => names.contains m.1

/-- A flag, which may be missing. -/
def flag (name : String) (j : Json) : Json :=
  (j.member? name).getD (.bool false)

/-- Reads an interface method. -/
def MethodSpec.read? (j : Json) : Option MethodSpec := do
  let name ← j.member? "name"
  let line ← j.member? "line"
  let file ← j.member? "file_path"
  if hasOnly ["name", "line", "file_path"] j then some ⟨name, line, file⟩ else none

/-- Reads an interface. -/
def Interface.read? (j : Json) : Option Interface := do
  let name ← j.member? "name"
  let line ← j.member? "line"
  let file ← j.member? "file_path"
  let methods ← readList? MethodSpec.read? (j.member? "methods")
  some ⟨name, line, file, methods, (j.member? "internal_type").getD .null⟩

/-- Reads a field. -/
def Field.read? (j : Json) : Option Field := do
  let name ← j.member? "name"
  let typeName ← j.member? "type_name"
  let line ← j.member? "line"
  let file ← j.member? "file_path"
  if hasOnly ["name", "type_name", "line", "file_path", "embedded", "is_pointer"] j then
    some ⟨name, typeName, line, file, flag "embedded" j, flag "is_pointer" j⟩
  else none

/-- Reads a struct. -/
def Struct.read? (j : Json) : Option Struct := do
  let name ← j.member? "name"
  let line ← j.member? "line"
  let file ← j.member? "file_path"
  let fields ← readList? Field.read? (j.member? "fields")
  some ⟨name, line, file, fields⟩

/-- Reads a method. -/
def Method.read? (j : Json) : Option Method := do
  let receiver ← j.member? "receiver_type"
  let name ← j.member? "method_name"
  let line ← j.member? "line"
  let file ← j.member? "file_path"
  if hasOnly ["receiver_type", "method_name", "line", "file_path", "is_pointer"] j then
    some ⟨receiver, name, line, file, flag "is_pointer" j⟩
  else none

/-- Reads a directive. -/
def Directive.read? (j : Json) : Option Directive := do
  let structName ← j.member? "struct_name"
  let interfaceName ← j.member? "interface_name"
  let line ← j.member? "line"
  let file ← j.member? "file_path"
  if hasOnly ["struct_name", "interface_name", "line", "file_path"] j then
    some ⟨structName, interfaceName, line, file⟩
  else none

/-- Reads a package. -/
def Package.read? (j : Json) : Option Package := do
  let path ← j.member? "path"
  let name ← j.member? "name"
  let interfaces ← readList? Interface.read? (j.member? "interfaces")
  let structs ← readList? Struct.read? (j.member? "structs")
  let methods ← readList? Method.read? (j.member? "methods")
  let directives ← readList? Directive.read? (j.member? "declarations")
  some { path, name, interfaces, structs, methods, directives }

/-- The payload without packages. -/
def Payload.empty : Payload := ⟨.empty⟩

/-- Whether there is no package. -/
def Payload.isEmpty (p : Payload) : Bool := p.packages.isEmpty

/-- Reads a payload, if nothing in it is malformed. -/
def Payload.read? (j : Json) : Option Payload := do
  let packages ← j.member? packagesMember
  let members ← packages.members?
  let entries ← members.mapM fun (path, raw) => (Package.read? raw).map fun p => (path, p)
  some ⟨.ofList entries⟩

/-- Reads a payload; it is empty if anything is malformed. -/
def Payload.read (j : Json) : Payload :=
  (Payload.read? j).getD .empty

theorem Payload.read_of_malformed {j : Json} (h : Payload.read? j = none) :
    Payload.read j = .empty := by
  simp [Payload.read, h]

end Reading

end Exchange
end Conformance
