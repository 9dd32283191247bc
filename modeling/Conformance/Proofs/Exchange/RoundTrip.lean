import Conformance.Exchange
import Conformance.Proofs.Json.Readable
import Mathlib.Data.List.Basic

/-!
# Written and read back

A payload that is written is read as the payload that it was, whether as a JSON value or through
the text of one.

**Readers.**  The reader of each record takes the object of a record for that record, whatever JSON
values it holds, and a list of objects for the list of records (`mapM_read?`).

**Texts.**  `scalars` lists the JSON values that a record holds where the format does not look into
them.  The object of a payload is a value of the JSON format if all of those are, for the names of
each object are distinct (`proper_payload`); and they are if each of them can come from a text.  The
payload of a result holds texts, lines and flags only, so this is no condition on it
(`allProper_result`).

**Results.**
* `read_toJson`, `read_members_append`: a payload is read from its object, whatever other members
  this has;
* `read_written`: and from both texts of its object;
* `ofResult_injective`: a payload is that of one result at most.
-/

namespace Conformance
namespace Exchange

section Readers

theorem mapM_read? {ι α : Type} {read? : ι → Option α} {toJson : α → ι}
    (h : ∀ x, read? (toJson x) = some x) (xs : List α) :
    (xs.map toJson).mapM read? = some xs := by
  induction xs with
  | nil => rfl
  | cons x xs ih => simp [h, ih]

theorem readList?_map {α : Type} {read? : Json → Option α} {toJson : α → Json}
    (h : ∀ x, read? (toJson x) = some x) (xs : List α) :
    readList? read? (some (.arr (xs.map toJson))) = some xs :=
  mapM_read? h xs

theorem methodSpec_read?_toJson (m : MethodSpec) : MethodSpec.read? m.toJson = some m := rfl

theorem field_read?_toJson (f : Field) : Field.read? f.toJson = some f := rfl

theorem method_read?_toJson (m : Method) : Method.read? m.toJson = some m := rfl

theorem directive_read?_toJson (d : Directive) : Directive.read? d.toJson = some d := rfl

theorem interface_read?_toJson (i : Interface) : Interface.read? i.toJson = some i := by
  have hmethods : readList? MethodSpec.read? (i.toJson.member? "methods") = some i.methods :=
    readList?_map methodSpec_read?_toJson i.methods
  unfold Interface.read?
  rw [hmethods]
  rfl

theorem struct_read?_toJson (s : Struct) : Struct.read? s.toJson = some s := by
  have hfields : readList? Field.read? (s.toJson.member? "fields") = some s.fields :=
    readList?_map field_read?_toJson s.fields
  unfold Struct.read?
  rw [hfields]
  rfl

theorem package_read?_toJson (p : Package) : Package.read? p.toJson = some p := by
  have hinterfaces : readList? Interface.read? (p.toJson.member? "interfaces") =
      some p.interfaces := readList?_map interface_read?_toJson p.interfaces
  have hstructs : readList? Struct.read? (p.toJson.member? "structs") = some p.structs :=
    readList?_map struct_read?_toJson p.structs
  have hmethods : readList? Method.read? (p.toJson.member? "methods") = some p.methods :=
    readList?_map method_read?_toJson p.methods
  have hdirectives : readList? Directive.read? (p.toJson.member? "declarations") =
      some p.directives := readList?_map directive_read?_toJson p.directives
  unfold Package.read?
  rw [hinterfaces, hstructs, hmethods, hdirectives]
  rfl

/-- A payload is read from its object, with its packages in their order. -/
theorem read_toJson (p : Payload) : Payload.read p.toJson = p := by
  have hentries : (p.packages.entries.map fun e => (e.1, e.2.toJson)).mapM
      (fun m : String × Json => (Package.read? m.2).map fun q => (m.1, q)) =
        some p.packages.entries := by
    refine mapM_read? (fun e => ?_) p.packages.entries
    simp [package_read?_toJson]
  have hread : Payload.read? p.toJson = some ⟨.ofList p.packages.entries⟩ :=
    congrArg (fun o => o.bind fun entries => some (Payload.mk (.ofList entries))) hentries
  have hpackages : OrderedMap.ofList p.packages.entries = p.packages :=
    OrderedMap.ext (OrderedMap.entries_ofList p.packages.nodup)
  rw [Payload.read, hread, hpackages]
  rfl

/-- Members beside those of a payload do no harm. -/
theorem read_members_append (p : Payload) (others : List (String × Json)) :
    Payload.read (.obj (p.members ++ others)) = p := by
  have hsame : Payload.read? (.obj (p.members ++ others)) = Payload.read? p.toJson := rfl
  rw [Payload.read, hsame]
  exact read_toJson p

end Readers

section Scalars

/-- The JSON values that the format does not look into. -/
def MethodSpec.scalars (m : MethodSpec) : List Json :=
  [m.name, m.line, m.file]

def Interface.scalars (i : Interface) : List Json :=
  [i.name, i.line, i.file, i.embedded] ++ i.methods.flatMap MethodSpec.scalars

def Field.scalars (f : Field) : List Json :=
  [f.name, f.typeName, f.line, f.file, f.embedded, f.pointer]

def Struct.scalars (s : Struct) : List Json :=
  [s.name, s.line, s.file] ++ s.fields.flatMap Field.scalars

def Method.scalars (m : Method) : List Json :=
  [m.receiver, m.name, m.line, m.file, m.pointer]

def Directive.scalars (d : Directive) : List Json :=
  [d.structName, d.interfaceName, d.line, d.file]

def Package.scalars (p : Package) : List Json :=
  [p.path, p.name] ++ p.interfaces.flatMap Interface.scalars ++ p.structs.flatMap Struct.scalars ++
    p.methods.flatMap Method.scalars ++ p.directives.flatMap Directive.scalars

def Payload.scalars (p : Payload) : List Json :=
  p.packages.entries.flatMap fun e => e.2.scalars

end Scalars

section Objects

/-- All of these are values of the JSON format. -/
def AllProper (js : List Json) : Prop :=
  ∀ j ∈ js, j.Proper

theorem allProper_append {js js' : List Json} :
    AllProper (js ++ js') ↔ AllProper js ∧ AllProper js' :=
  List.forall_mem_append

/-- An object of distinct names is a value of the format if its values are. -/
theorem proper_obj {members : List (String × Json)} (hnames : (Json.memberNames members).Nodup)
    (h : AllProper (members.map Prod.snd)) : (Json.obj members).Proper :=
  .obj hnames fun m hm => h m.2 (List.mem_map_of_mem hm)

theorem proper_list {α : Type} {toJson : α → Json} {scalars : α → List Json}
    (h : ∀ x, AllProper (scalars x) → (toJson x).Proper) {xs : List α}
    (hxs : AllProper (xs.flatMap scalars)) : (Json.arr (xs.map toJson)).Proper := by
  refine .arr fun j hj => ?_
  obtain ⟨x, hx, rfl⟩ := List.mem_map.1 hj
  exact h x fun j' hj' => hxs j' (List.mem_flatMap.2 ⟨x, hx, hj'⟩)

theorem proper_methodSpec (m : MethodSpec) (h : AllProper m.scalars) : m.toJson.Proper :=
  proper_obj (by simp [Json.memberNames]) h

theorem proper_field (f : Field) (h : AllProper f.scalars) : f.toJson.Proper :=
  proper_obj (by simp [Json.memberNames]) h

theorem proper_method (m : Method) (h : AllProper m.scalars) : m.toJson.Proper :=
  proper_obj (by simp [Json.memberNames]) h

theorem proper_directive (d : Directive) (h : AllProper d.scalars) : d.toJson.Proper :=
  proper_obj (by simp [Json.memberNames]) h

theorem proper_interface (i : Interface) (h : AllProper i.scalars) : i.toJson.Proper := by
  obtain ⟨hown, hmethods⟩ := allProper_append.1 h
  have hlist := proper_list proper_methodSpec hmethods
  refine proper_obj (by simp [Json.memberNames]) ?_
  simp_all [AllProper]

theorem proper_struct (s : Struct) (h : AllProper s.scalars) : s.toJson.Proper := by
  obtain ⟨hown, hfields⟩ := allProper_append.1 h
  have hlist := proper_list proper_field hfields
  refine proper_obj (by simp [Json.memberNames]) ?_
  simp_all [AllProper]

theorem proper_package (p : Package) (h : AllProper p.scalars) : p.toJson.Proper := by
  simp only [Package.scalars, allProper_append] at h
  obtain ⟨⟨⟨⟨hown, hinterfaces⟩, hstructs⟩, hmethods⟩, hdirectives⟩ := h
  have hilist := proper_list proper_interface hinterfaces
  have hslist := proper_list proper_struct hstructs
  have hmlist := proper_list proper_method hmethods
  have hdlist := proper_list proper_directive hdirectives
  refine proper_obj (by simp [Json.memberNames]) ?_
  simp_all [AllProper]

/-- The object of a payload is a value of the format if all that it holds are. -/
theorem proper_payload (p : Payload) (h : AllProper p.scalars) : p.toJson.Proper := by
  have hpackages : (Json.obj (p.packages.entries.map fun e => (e.1, e.2.toJson))).Proper := by
    refine .obj ?_ ?_
    · simpa [Json.memberNames, Function.comp_def] using p.packages.nodup
    · intro m hm
      obtain ⟨e, he, rfl⟩ := List.mem_map.1 hm
      exact proper_package e.2 fun j hj => h j (List.mem_flatMap.2 ⟨e, he, hj⟩)
  refine proper_obj (by simp [Payload.members, Json.memberNames]) ?_
  simpa [AllProper, Payload.members] using hpackages

end Objects

section Results

theorem allProper_map {α β : Type} {record : α → β} {scalars : β → List Json}
    (h : ∀ x, AllProper (scalars (record x))) (xs : List α) :
    AllProper ((xs.map record).flatMap scalars) := by
  intro j hj
  obtain ⟨y, hy, hmem⟩ := List.mem_flatMap.1 hj
  obtain ⟨x, -, rfl⟩ := List.mem_map.1 hy
  exact h x j hmem

theorem proper_ofText? (s : Option String) : (Json.ofText? s).Proper := by
  cases s with
  | none => exact .null
  | some s => exact .str s

theorem allProper_methodSpec (m : Conformance.MethodSpec) :
    AllProper (MethodSpec.ofFact m).scalars := by
  simp [AllProper, MethodSpec.scalars, MethodSpec.ofFact, Json.Proper.str, Json.Proper.int]

theorem allProper_interface (i : Conformance.Interface) :
    AllProper (Interface.ofFact i).scalars := by
  refine allProper_append.2 ⟨?_, allProper_map allProper_methodSpec i.methods⟩
  simp [AllProper, Interface.ofFact, Json.Proper.str, Json.Proper.int, proper_ofText?]

theorem allProper_field (f : Conformance.Field) : AllProper (Field.ofFact f).scalars := by
  simp [AllProper, Field.scalars, Field.ofFact, Json.Proper.str, Json.Proper.int, Json.Proper.bool]

theorem allProper_struct (s : Conformance.Struct) : AllProper (Struct.ofFact s).scalars := by
  refine allProper_append.2 ⟨?_, allProper_map allProper_field s.fields⟩
  simp [AllProper, Struct.ofFact, Json.Proper.str, Json.Proper.int]

theorem allProper_method (m : Conformance.Method) : AllProper (Method.ofFact m).scalars := by
  simp [AllProper, Method.scalars, Method.ofFact, Json.Proper.str, Json.Proper.int,
    Json.Proper.bool]

theorem allProper_directive (d : Conformance.Directive) :
    AllProper (Directive.ofFact d).scalars := by
  simp [AllProper, Directive.scalars, Directive.ofFact, Json.Proper.str, Json.Proper.int]

theorem allProper_package (p : Conformance.Package) : AllProper (Package.ofFact p).scalars := by
  have hown : AllProper [(Package.ofFact p).path, (Package.ofFact p).name] := by
    simp [AllProper, Package.ofFact, Json.Proper.str]
  simp only [Package.scalars, allProper_append]
  exact ⟨⟨⟨⟨hown, allProper_map allProper_interface _⟩, allProper_map allProper_struct _⟩,
    allProper_map allProper_method _⟩, allProper_map allProper_directive _⟩

/-- A result holds nothing but texts, lines and flags. -/
theorem allProper_result (r : Result) : AllProper (Payload.ofResult r).scalars := by
  intro j hj
  obtain ⟨e, he, hmem⟩ := List.mem_flatMap.1 hj
  rw [Payload.ofResult, OrderedMap.entries_mapValues] at he
  obtain ⟨e, -, rfl⟩ := List.mem_map.1 he
  exact allProper_package e.2 j hmem

end Results

section Distinctness

theorem ofText?_injective : Function.Injective Json.ofText? := by
  rintro (_ | s) (_ | s') h <;> cases h <;> rfl

theorem methodSpec_ofFact_injective : Function.Injective MethodSpec.ofFact := by
  rintro ⟨name, line, file⟩ ⟨name', line', file'⟩ h
  cases h
  rfl

theorem interface_ofFact_injective : Function.Injective Interface.ofFact := by
  rintro ⟨name, ⟨line, file⟩, methods, embedded⟩ ⟨name', ⟨line', file'⟩, methods', embedded'⟩ h
  simp only [Interface.ofFact, Interface.mk.injEq, Json.str.injEq, Json.int.injEq] at h
  obtain ⟨rfl, rfl, rfl, hmethods, hembedded⟩ := h
  obtain rfl := List.map_injective_iff.2 methodSpec_ofFact_injective hmethods
  obtain rfl := ofText?_injective hembedded
  rfl

theorem field_ofFact_injective : Function.Injective Field.ofFact := by
  rintro ⟨name, typeName, location, embedded, pointer⟩
    ⟨name', typeName', location', embedded', pointer'⟩ h
  cases location
  cases location'
  cases h
  rfl

theorem struct_ofFact_injective : Function.Injective Struct.ofFact := by
  rintro ⟨name, ⟨line, file⟩, fields⟩ ⟨name', ⟨line', file'⟩, fields'⟩ h
  simp only [Struct.ofFact, Struct.mk.injEq, Json.str.injEq, Json.int.injEq] at h
  obtain ⟨rfl, rfl, rfl, hfields⟩ := h
  obtain rfl := List.map_injective_iff.2 field_ofFact_injective hfields
  rfl

theorem method_ofFact_injective : Function.Injective Method.ofFact := by
  rintro ⟨receiver, name, location, pointer⟩ ⟨receiver', name', location', pointer'⟩ h
  cases location
  cases location'
  cases h
  rfl

theorem directive_ofFact_injective : Function.Injective Directive.ofFact := by
  rintro ⟨structName, interfaceName, location⟩ ⟨structName', interfaceName', location'⟩ h
  cases location
  cases location'
  cases h
  rfl

theorem package_ofFact_injective : Function.Injective Package.ofFact := by
  rintro ⟨path, name, interfaces, structs, methods, directives⟩
    ⟨path', name', interfaces', structs', methods', directives'⟩ h
  simp only [Package.ofFact, Package.mk.injEq, Json.str.injEq] at h
  obtain ⟨rfl, rfl, hinterfaces, hstructs, hmethods, hdirectives⟩ := h
  obtain rfl := List.map_injective_iff.2 interface_ofFact_injective hinterfaces
  obtain rfl := List.map_injective_iff.2 struct_ofFact_injective hstructs
  obtain rfl := List.map_injective_iff.2 method_ofFact_injective hmethods
  obtain rfl := List.map_injective_iff.2 directive_ofFact_injective hdirectives
  rfl

/-- Different results have different payloads. -/
theorem ofResult_injective : Function.Injective Payload.ofResult := by
  rintro ⟨packages⟩ ⟨packages'⟩ h
  have hentries : (packages.entries.map fun e => (e.1, Package.ofFact e.2))
      = packages'.entries.map fun e => (e.1, Package.ofFact e.2) :=
    congrArg (fun p => p.packages.entries) h
  have hentry : Function.Injective fun e : String × Conformance.Package =>
      (e.1, Package.ofFact e.2) :=
    Function.injective_id.prodMap package_ofFact_injective
  obtain rfl := OrderedMap.ext (List.map_injective_iff.2 hentry hentries)
  rfl

end Distinctness

section Main

/-- A payload is read from each text of its object. -/
theorem read_texts {p : Payload} (h : AllProper p.scalars) :
    (Json.parse? p.toJson.compact).map Payload.read = some p ∧
      (Json.parse? p.toJson.pretty).map Payload.read = some p := by
  have hproper := proper_payload p h
  rw [Json.parse?_compact hproper, Json.parse?_pretty hproper, Option.map_some, read_toJson]
  exact ⟨rfl, rfl⟩

/--
**Round trip.**  A payload is read from its object, with the same packages in the same order.  If all
that it holds are values of the JSON format, it is read from either text of the object as well.  The
values of the JSON format are those that some text is read as.
-/
theorem read_written (p : Payload) :
    Payload.read p.toJson = p
    ∧
    (AllProper p.scalars →
      (Json.parse? p.toJson.compact).map Payload.read = some p
      ∧
      (Json.parse? p.toJson.pretty).map Payload.read = some p)
    ∧
    (AllProper p.scalars ↔ ∀ j ∈ p.scalars, ∃ text, Json.parse? text = some j) :=
  ⟨read_toJson p, read_texts, forall₂_congr fun j _ => Json.proper_iff_readable j⟩

/-- One and a half. -/
def oneAndHalf : Double := .finite false (3 <<< (Double.unitScale - 1))

/-- Two packages, the later directory first, with values that no result has. -/
def oddPayload : Payload :=
  ⟨.ofList [
    ("/w/b", ⟨.null, .obj [("text", .arr [.int (-3), .real oneAndHalf])],
      [⟨.str "I", .bool true, .arr [], [], .obj []⟩], [], [], []⟩),
    ("/w/a", ⟨.str "a\tb", .real (.infinite true), [], [], [], []⟩)]⟩

theorem oddPayload_read_written :
    AllProper oddPayload.scalars ∧
      (Json.parse? oddPayload.toJson.pretty).map Payload.read = some oddPayload := by
  have hfits : oneAndHalf.Fits := .finite false (by decide +kernel) (by decide +kernel)
  have hscalars : oddPayload.scalars =
      [.null, .obj [("text", .arr [.int (-3), .real oneAndHalf])], .str "I", .bool true, .arr [],
        .obj [], .str "a\tb", .real (.infinite true)] := rfl
  have hlist : (Json.arr [.int (-3), .real oneAndHalf]).Proper :=
    .arr (by simp [Json.Proper.int, Json.Proper.real hfits])
  have hobject : (Json.obj [("text", .arr [.int (-3), .real oneAndHalf])]).Proper :=
    .obj (by simp [Json.memberNames]) (by simpa using hlist)
  have hproper : AllProper oddPayload.scalars := by
    rw [hscalars]
    simp only [AllProper, List.forall_mem_cons]
    exact ⟨.null, hobject, .str _, .bool _, .arr (List.forall_mem_nil _),
      .obj List.nodup_nil (List.forall_mem_nil _), .str _, .real (.infinite true), List.forall_mem_nil _⟩
  exact ⟨hproper, ((read_written oddPayload).2.1 hproper).2⟩

end Main

end Exchange
end Conformance
