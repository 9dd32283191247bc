import Conformance.Exchange
import Mathlib.Data.List.Forall2

/-!
# What the exchange format is

The format said on its own, beside the readers: which JSON values are well formed, and what a
well-formed value says.

**Form.**  `HasMembers` asks for members of an object and lets it have others, `IsRecord` lets it
have none but the optional ones, and `IsListOf` says what may stand in the place of a list.  The
predicates `WellFormed` of the records are made of these.

**Data.**  `Carries j x` says that the record `x` has the data of the value `j`: each part is the
value of its member, unchanged, and the listed items are there, all and in order.  A missing flag is
false and a missing embedded interface is `null`.

**Readers.**  `Reads` ties a reader to a form and its data: it gives `x` out exactly for well-formed
values that `x` has the data of, and every well-formed value is read.  A reader of items makes one of
lists (`Reads.list`).

**Results.**
* `reads_package`: the reader of packages, put together from those of the records;
* `read_wellFormed_or_empty`: a payload is read with all its data, or as the empty one.
-/

namespace Conformance
namespace Exchange

section Specification

/-- An object with all of these members, and perhaps others. -/
def HasMembers (required : List String) (j : Json) : Prop :=
  ∃ members, j = .obj members ∧ ∀ n ∈ required, n ∈ Json.memberNames members

/-- An object with all the required members, and no others but optional ones. -/
def IsRecord (required optional : List String) (j : Json) : Prop :=
  ∃ members, j = .obj members ∧ (∀ n ∈ required, n ∈ Json.memberNames members) ∧
    ∀ n ∈ Json.memberNames members, n ∈ required ∨ n ∈ optional

/-- What may stand in the place of a list. -/
inductive IsListOf (Item : Json → Prop) : Option Json → Prop
  | missing : IsListOf Item none
  | emptyText : IsListOf Item (some (.str ""))
  | emptyObject : IsListOf Item (some (.obj []))
  | items {items : List Json} (h : ∀ j ∈ items, Item j) : IsListOf Item (some (.arr items))

/-- The items in the place of a list. -/
def listed : Option Json → List Json
  | some (.arr items) => items
  | _ => []

/-- An interface method has a name and a place, and nothing else. -/
def MethodSpec.WellFormed : Json → Prop :=
  IsRecord ["name", "line", "file_path"] []

/-- An interface has a name and a place, its methods are a list of interface methods, and whatever
else it has does not matter. -/
def Interface.WellFormed (j : Json) : Prop :=
  HasMembers ["name", "line", "file_path"] j ∧
    IsListOf MethodSpec.WellFormed (j.member? "methods")

/-- A field has a name, a type and a place, perhaps flags, and nothing else. -/
def Field.WellFormed : Json → Prop :=
  IsRecord ["name", "type_name", "line", "file_path"] ["embedded", "is_pointer"]

/-- A struct has a name and a place, its fields are a list of fields, and whatever else it has does
not matter. -/
def Struct.WellFormed (j : Json) : Prop :=
  HasMembers ["name", "line", "file_path"] j ∧ IsListOf Field.WellFormed (j.member? "fields")

/-- A method has a receiver, a name and a place, perhaps a flag, and nothing else. -/
def Method.WellFormed : Json → Prop :=
  IsRecord ["receiver_type", "method_name", "line", "file_path"] ["is_pointer"]

/-- A directive names a struct and an interface and has a place, and nothing else. -/
def Directive.WellFormed : Json → Prop :=
  IsRecord ["struct_name", "interface_name", "line", "file_path"] []

/-- A package has a path and a name, and its records of each sort, as far as there are any, are a
list of well-formed ones. -/
structure Package.WellFormed (j : Json) : Prop where
  members : HasMembers ["path", "name"] j
  interfaces : IsListOf Interface.WellFormed (j.member? "interfaces")
  structs : IsListOf Struct.WellFormed (j.member? "structs")
  methods : IsListOf Method.WellFormed (j.member? "methods")
  directives : IsListOf Directive.WellFormed (j.member? "declarations")

/-- An object whose packages are an object of well-formed packages. -/
def Payload.WellFormed (j : Json) : Prop :=
  ∃ members, j.member? "packages" = some (.obj members) ∧ ∀ m ∈ members, Package.WellFormed m.2

/-- An interface method has its name and its place from the object. -/
structure MethodSpec.Carries (j : Json) (m : MethodSpec) : Prop where
  name : j.member? "name" = some m.name
  line : j.member? "line" = some m.line
  file : j.member? "file_path" = some m.file

/-- An interface has its methods from the listed items, one from each, and without an embedded
interface in the object it has `null`. -/
structure Interface.Carries (j : Json) (i : Interface) : Prop where
  name : j.member? "name" = some i.name
  line : j.member? "line" = some i.line
  file : j.member? "file_path" = some i.file
  methods : List.Forall₂ MethodSpec.Carries (listed (j.member? "methods")) i.methods
  embedded : (j.member? "internal_type").getD .null = i.embedded

/-- A field has its parts from the object, and a flag that the object lacks is false. -/
structure Field.Carries (j : Json) (f : Field) : Prop where
  name : j.member? "name" = some f.name
  typeName : j.member? "type_name" = some f.typeName
  line : j.member? "line" = some f.line
  file : j.member? "file_path" = some f.file
  embedded : (j.member? "embedded").getD (.bool false) = f.embedded
  pointer : (j.member? "is_pointer").getD (.bool false) = f.pointer

/-- A struct has its fields from the listed items, one from each. -/
structure Struct.Carries (j : Json) (s : Struct) : Prop where
  name : j.member? "name" = some s.name
  line : j.member? "line" = some s.line
  file : j.member? "file_path" = some s.file
  fields : List.Forall₂ Field.Carries (listed (j.member? "fields")) s.fields

/-- A method has its parts from the object, and is received by a value where the object lacks the
flag. -/
structure Method.Carries (j : Json) (m : Method) : Prop where
  receiver : j.member? "receiver_type" = some m.receiver
  name : j.member? "method_name" = some m.name
  line : j.member? "line" = some m.line
  file : j.member? "file_path" = some m.file
  pointer : (j.member? "is_pointer").getD (.bool false) = m.pointer

/-- A directive has all its parts from the object. -/
structure Directive.Carries (j : Json) (d : Directive) : Prop where
  structName : j.member? "struct_name" = some d.structName
  interfaceName : j.member? "interface_name" = some d.interfaceName
  line : j.member? "line" = some d.line
  file : j.member? "file_path" = some d.file

/-- A package has its path and its name from the object, and its records from the listed items of
each sort, one from each. -/
structure Package.Carries (j : Json) (p : Package) : Prop where
  path : j.member? "path" = some p.path
  name : j.member? "name" = some p.name
  interfaces : List.Forall₂ Interface.Carries (listed (j.member? "interfaces")) p.interfaces
  structs : List.Forall₂ Struct.Carries (listed (j.member? "structs")) p.structs
  methods : List.Forall₂ Method.Carries (listed (j.member? "methods")) p.methods
  directives : List.Forall₂ Directive.Carries (listed (j.member? "declarations")) p.directives

/-- A package for each member of the object of packages, in order; a repeated name counts once. -/
def Payload.Carries (j : Json) (p : Payload) : Prop :=
  ∃ members entries, j.member? "packages" = some (.obj members) ∧
    List.Forall₂ (fun m e => m.1 = e.1 ∧ Package.Carries m.2 e.2) members entries ∧
    p.packages = .ofList entries

end Specification

section Readers

variable {ι α : Type} {read? : ι → Option α} {Form : ι → Prop} {Carries : ι → α → Prop}

/-- A reader reads all that has a form, and nothing else, and what it gives out has the data. -/
structure Reads (read? : ι → Option α) (Form : ι → Prop) (Carries : ι → α → Prop) : Prop where
  eq_some_iff : ∀ j x, read? j = some x ↔ Form j ∧ Carries j x
  exists_carries : ∀ j, Form j → ∃ x, Carries j x

theorem Reads.exists_eq_some (h : Reads read? Form Carries) {j : ι} (hj : Form j) :
    ∃ x, read? j = some x := by
  obtain ⟨x, hx⟩ := h.exists_carries j hj
  exact ⟨x, (h.eq_some_iff j x).2 ⟨hj, hx⟩⟩

theorem mapM_eq_some_iff {f : ι → Option α} {js : List ι} {xs : List α} :
    js.mapM f = some xs ↔ List.Forall₂ (fun j x => f j = some x) js xs := by
  induction js generalizing xs with
  | nil => cases xs <;> simp
  | cons j js ih =>
      simp only [List.mapM_cons, Option.bind_eq_bind, Option.bind_eq_some_iff, ih,
        Option.pure_def, Option.some_inj]
      constructor
      · rintro ⟨y, hy, ys, hys, rfl⟩
        exact .cons hy hys
      · rintro (_ | ⟨hy, hys⟩)
        exact ⟨_, hy, _, hys, rfl⟩

/-- A reader of items reads lists of them. -/
theorem Reads.mapM (h : Reads read? Form Carries) :
    Reads (fun js => js.mapM read?) (fun js => ∀ j ∈ js, Form j) (List.Forall₂ Carries) := by
  refine ⟨?_, ?_⟩
  · intro js xs
    rw [mapM_eq_some_iff]
    simp only [h.eq_some_iff]
    exact List.forall₂_and_left js xs
  · intro js hjs
    induction js with
    | nil => exact ⟨[], .nil⟩
    | cons j js ih =>
        obtain ⟨x, hx⟩ := h.exists_carries j (hjs j List.mem_cons_self)
        obtain ⟨xs, hxs⟩ := ih fun j' hj' => hjs j' (List.mem_cons_of_mem j hj')
        exact ⟨x :: xs, .cons hx hxs⟩

theorem Reads.list {read? : Json → Option α} {Form : Json → Prop} {Carries : Json → α → Prop}
    (h : Reads read? Form Carries) :
    Reads (readList? read?) (IsListOf Form) fun place => List.Forall₂ Carries (listed place) := by
  refine ⟨?_, ?_⟩
  · intro place xs
    have hempty : some ([] : List α) = some xs ↔ List.Forall₂ Carries [] xs := by
      cases xs <;> simp
    constructor
    · intro hread
      rcases place with _ | _ | _ | _ | _ | s | items | _ | _
      case none => exact ⟨.missing, hempty.1 hread⟩
      case some.str =>
        rw [readList?] at hread
        split at hread
        next hs =>
          rw [String.isEmpty_iff.1 hs]
          exact ⟨.emptyText, hempty.1 hread⟩
        next => cases hread
      case some.arr =>
        obtain ⟨hitems, hcarries⟩ := (h.mapM.eq_some_iff items xs).1 hread
        exact ⟨.items hitems, hcarries⟩
      case some.obj.nil => exact ⟨.emptyObject, hempty.1 hread⟩
      all_goals cases hread
    · rintro ⟨hplace, hcarries⟩
      cases hplace with
      | missing | emptyText | emptyObject => exact hempty.2 hcarries
      | items hitems => exact (h.mapM.eq_some_iff _ xs).2 ⟨hitems, hcarries⟩
  · intro place hplace
    cases hplace with
    | missing | emptyText | emptyObject => exact ⟨[], .nil⟩
    | items hitems => exact h.mapM.exists_carries _ hitems

end Readers

section Members

variable {j : Json} {required optional : List String}

theorem member?_eq_some_of_mem {members : List (String × Json)} {n : String}
    (h : n ∈ Json.memberNames members) : ∃ v, (Json.obj members).member? n = some v := by
  cases hv : (Json.obj members).member? n with
  | some v => exact ⟨v, rfl⟩
  | none => exact absurd h (OrderedMap.lookup_eq_none_iff.1 hv)

theorem mem_of_member?_eq_some {n : String} {v : Json} (h : j.member? n = some v) :
    ∃ members, j = .obj members ∧ n ∈ Json.memberNames members := by
  cases j with
  | obj members =>
      refine ⟨members, rfl, ?_⟩
      by_contra hn
      rw [Json.member?, OrderedMap.lookup_eq_none_iff.2 hn] at h
      cases h
  | null | bool | int | real | str | arr => cases h

/-- An object has certain members if they can be looked up. -/
theorem hasMembers_cons_iff {n : String} :
    HasMembers (n :: required) j ↔ ∀ n' ∈ n :: required, ∃ v, j.member? n' = some v := by
  constructor
  · rintro ⟨members, rfl, hmem⟩ n' hn'
    exact member?_eq_some_of_mem (hmem n' hn')
  · intro h
    obtain ⟨v, hv⟩ := h n List.mem_cons_self
    obtain ⟨members, rfl, -⟩ := mem_of_member?_eq_some hv
    refine ⟨members, rfl, ?_⟩
    intro n' hn'
    obtain ⟨v', hv'⟩ := h n' hn'
    obtain ⟨members', hobj, hmem⟩ := mem_of_member?_eq_some hv'
    cases hobj
    exact hmem

theorem isRecord_iff :
    IsRecord required optional j ↔
      HasMembers required j ∧ hasOnly (required ++ optional) j = true := by
  constructor
  · rintro ⟨members, rfl, hrequired, honly⟩
    refine ⟨⟨members, rfl, hrequired⟩, ?_⟩
    simpa [hasOnly, Json.members?, Json.memberNames] using honly
  · rintro ⟨⟨members, rfl, hrequired⟩, honly⟩
    refine ⟨members, rfl, hrequired, ?_⟩
    simpa [hasOnly, Json.members?, Json.memberNames] using honly

end Members

section Records

/-- The reader of an interface method; those of the other records go the same way. -/
theorem reads_methodSpec : Reads MethodSpec.read? MethodSpec.WellFormed MethodSpec.Carries := by
  refine ⟨?_, ?_⟩
  · intro j m
    rw [MethodSpec.WellFormed, isRecord_iff, hasMembers_cons_iff]
    simp only [MethodSpec.read?, Option.bind_eq_bind, Option.bind_eq_some_iff,
      Option.ite_none_right_eq_some]
    constructor
    · rintro ⟨name, hname, line, hline, file, hfile, honly, h⟩
      cases h
      exact ⟨⟨by simp [hname, hline, hfile], honly⟩, hname, hline, hfile⟩
    · rintro ⟨⟨-, honly⟩, hname, hline, hfile⟩
      exact ⟨_, hname, _, hline, _, hfile, honly, rfl⟩
  · intro j h
    have hmembers := hasMembers_cons_iff.1 (isRecord_iff.1 h).1
    simp only [List.forall_mem_cons] at hmembers
    obtain ⟨⟨name, hname⟩, ⟨line, hline⟩, ⟨file, hfile⟩, -⟩ := hmembers
    exact ⟨⟨name, line, file⟩, hname, hline, hfile⟩

theorem reads_field : Reads Field.read? Field.WellFormed Field.Carries := by
  refine ⟨?_, ?_⟩
  · intro j f
    rw [Field.WellFormed, isRecord_iff, hasMembers_cons_iff]
    simp only [Field.read?, Option.bind_eq_bind, Option.bind_eq_some_iff,
      Option.ite_none_right_eq_some]
    constructor
    · rintro ⟨name, hname, typeName, htype, line, hline, file, hfile, honly, h⟩
      cases h
      exact ⟨⟨by simp [hname, htype, hline, hfile], honly⟩, hname, htype, hline, hfile, rfl, rfl⟩
    · rintro ⟨⟨-, honly⟩, hname, htype, hline, hfile, hembedded, hpointer⟩
      refine ⟨_, hname, _, htype, _, hline, _, hfile, honly, ?_⟩
      rw [flag, flag, hembedded, hpointer]
  · intro j h
    have hmembers := hasMembers_cons_iff.1 (isRecord_iff.1 h).1
    simp only [List.forall_mem_cons] at hmembers
    obtain ⟨⟨name, hname⟩, ⟨typeName, htype⟩, ⟨line, hline⟩, ⟨file, hfile⟩, -⟩ := hmembers
    exact ⟨⟨name, typeName, line, file, _, _⟩, hname, htype, hline, hfile, rfl, rfl⟩

theorem reads_method : Reads Method.read? Method.WellFormed Method.Carries := by
  refine ⟨?_, ?_⟩
  · intro j m
    rw [Method.WellFormed, isRecord_iff, hasMembers_cons_iff]
    simp only [Method.read?, Option.bind_eq_bind, Option.bind_eq_some_iff,
      Option.ite_none_right_eq_some]
    constructor
    · rintro ⟨receiver, hreceiver, name, hname, line, hline, file, hfile, honly, h⟩
      cases h
      exact ⟨⟨by simp [hreceiver, hname, hline, hfile], honly⟩, hreceiver, hname, hline, hfile,
        rfl⟩
    · rintro ⟨⟨-, honly⟩, hreceiver, hname, hline, hfile, hpointer⟩
      refine ⟨_, hreceiver, _, hname, _, hline, _, hfile, honly, ?_⟩
      rw [flag, hpointer]
  · intro j h
    have hmembers := hasMembers_cons_iff.1 (isRecord_iff.1 h).1
    simp only [List.forall_mem_cons] at hmembers
    obtain ⟨⟨receiver, hreceiver⟩, ⟨name, hname⟩, ⟨line, hline⟩, ⟨file, hfile⟩, -⟩ := hmembers
    exact ⟨⟨receiver, name, line, file, _⟩, hreceiver, hname, hline, hfile, rfl⟩

theorem reads_directive : Reads Directive.read? Directive.WellFormed Directive.Carries := by
  refine ⟨?_, ?_⟩
  · intro j d
    rw [Directive.WellFormed, isRecord_iff, hasMembers_cons_iff]
    simp only [Directive.read?, Option.bind_eq_bind, Option.bind_eq_some_iff,
      Option.ite_none_right_eq_some]
    constructor
    · rintro ⟨structName, hstruct, interfaceName, hinterface, line, hline, file, hfile, honly, h⟩
      cases h
      exact ⟨⟨by simp [hstruct, hinterface, hline, hfile], honly⟩, hstruct, hinterface, hline,
        hfile⟩
    · rintro ⟨⟨-, honly⟩, hstruct, hinterface, hline, hfile⟩
      exact ⟨_, hstruct, _, hinterface, _, hline, _, hfile, honly, rfl⟩
  · intro j h
    have hmembers := hasMembers_cons_iff.1 (isRecord_iff.1 h).1
    simp only [List.forall_mem_cons] at hmembers
    obtain ⟨⟨structName, hstruct⟩, ⟨interfaceName, hinterface⟩, ⟨line, hline⟩, ⟨file, hfile⟩, -⟩ :=
      hmembers
    exact ⟨⟨structName, interfaceName, line, file⟩, hstruct, hinterface, hline, hfile⟩

theorem reads_interface : Reads Interface.read? Interface.WellFormed Interface.Carries := by
  refine ⟨?_, ?_⟩
  · intro j i
    rw [Interface.WellFormed, hasMembers_cons_iff]
    simp only [Interface.read?, Option.bind_eq_bind, Option.bind_eq_some_iff,
      reads_methodSpec.list.eq_some_iff]
    constructor
    · rintro ⟨name, hname, line, hline, file, hfile, methods, ⟨hform, hmethods⟩, h⟩
      cases h
      exact ⟨⟨by simp [hname, hline, hfile], hform⟩, hname, hline, hfile, hmethods, rfl⟩
    · rintro ⟨⟨-, hform⟩, hname, hline, hfile, hmethods, hembedded⟩
      refine ⟨_, hname, _, hline, _, hfile, _, ⟨hform, hmethods⟩, ?_⟩
      rw [hembedded]
  · rintro j ⟨hmembers, hform⟩
    simp only [hasMembers_cons_iff, List.forall_mem_cons] at hmembers
    obtain ⟨⟨name, hname⟩, ⟨line, hline⟩, ⟨file, hfile⟩, -⟩ := hmembers
    obtain ⟨methods, hmethods⟩ := reads_methodSpec.list.exists_carries _ hform
    exact ⟨⟨name, line, file, methods, _⟩, hname, hline, hfile, hmethods, rfl⟩

theorem reads_struct : Reads Struct.read? Struct.WellFormed Struct.Carries := by
  refine ⟨?_, ?_⟩
  · intro j s
    rw [Struct.WellFormed, hasMembers_cons_iff]
    simp only [Struct.read?, Option.bind_eq_bind, Option.bind_eq_some_iff,
      reads_field.list.eq_some_iff]
    constructor
    · rintro ⟨name, hname, line, hline, file, hfile, fields, ⟨hform, hfields⟩, h⟩
      cases h
      exact ⟨⟨by simp [hname, hline, hfile], hform⟩, hname, hline, hfile, hfields⟩
    · rintro ⟨⟨-, hform⟩, hname, hline, hfile, hfields⟩
      exact ⟨_, hname, _, hline, _, hfile, _, ⟨hform, hfields⟩, rfl⟩
  · rintro j ⟨hmembers, hform⟩
    simp only [hasMembers_cons_iff, List.forall_mem_cons] at hmembers
    obtain ⟨⟨name, hname⟩, ⟨line, hline⟩, ⟨file, hfile⟩, -⟩ := hmembers
    obtain ⟨fields, hfields⟩ := reads_field.list.exists_carries _ hform
    exact ⟨⟨name, line, file, fields⟩, hname, hline, hfile, hfields⟩

theorem reads_package : Reads Package.read? Package.WellFormed Package.Carries := by
  refine ⟨?_, ?_⟩
  · intro j p
    simp only [Package.read?, Option.bind_eq_bind, Option.bind_eq_some_iff,
      reads_interface.list.eq_some_iff, reads_struct.list.eq_some_iff,
      reads_method.list.eq_some_iff, reads_directive.list.eq_some_iff]
    constructor
    · rintro ⟨path, hpath, name, hname, interfaces, ⟨hiform, hinterfaces⟩, structs,
        ⟨hsform, hstructs⟩, methods, ⟨hmform, hmethods⟩, directives, ⟨hdform, hdirectives⟩, h⟩
      cases h
      refine ⟨⟨hasMembers_cons_iff.2 ?_, hiform, hsform, hmform, hdform⟩, hpath, hname, hinterfaces,
        hstructs, hmethods, hdirectives⟩
      simp [hpath, hname]
    · rintro ⟨⟨-, hiform, hsform, hmform, hdform⟩, hpath, hname, hinterfaces, hstructs, hmethods,
        hdirectives⟩
      exact ⟨_, hpath, _, hname, _, ⟨hiform, hinterfaces⟩, _, ⟨hsform, hstructs⟩, _,
        ⟨hmform, hmethods⟩, _, ⟨hdform, hdirectives⟩, rfl⟩
  · rintro j ⟨hmembers, hiform, hsform, hmform, hdform⟩
    simp only [hasMembers_cons_iff, List.forall_mem_cons] at hmembers
    obtain ⟨⟨path, hpath⟩, ⟨name, hname⟩, -⟩ := hmembers
    obtain ⟨interfaces, hinterfaces⟩ := reads_interface.list.exists_carries _ hiform
    obtain ⟨structs, hstructs⟩ := reads_struct.list.exists_carries _ hsform
    obtain ⟨methods, hmethods⟩ := reads_method.list.exists_carries _ hmform
    obtain ⟨directives, hdirectives⟩ := reads_directive.list.exists_carries _ hdform
    exact ⟨⟨path, name, interfaces, structs, methods, directives⟩, hpath, hname, hinterfaces,
      hstructs, hmethods, hdirectives⟩

end Records

section Main

/-- A package under its directory. -/
theorem reads_entry :
    Reads (fun m : String × Json => (Package.read? m.2).map fun p => (m.1, p))
      (fun m => Package.WellFormed m.2) fun m e => m.1 = e.1 ∧ Package.Carries m.2 e.2 := by
  refine ⟨?_, ?_⟩
  · rintro ⟨path, raw⟩ ⟨path', p⟩
    simp only [Option.map_eq_some_iff, reads_package.eq_some_iff, Prod.mk.injEq]
    constructor
    · rintro ⟨p, ⟨hform, hcarries⟩, rfl, rfl⟩
      exact ⟨hform, rfl, hcarries⟩
    · rintro ⟨hform, rfl, hcarries⟩
      exact ⟨p, ⟨hform, hcarries⟩, rfl, rfl⟩
  · rintro ⟨path, raw⟩ h
    obtain ⟨p, hp⟩ := reads_package.exists_carries raw h
    exact ⟨(path, p), rfl, hp⟩

theorem reads_payload : Reads Payload.read? Payload.WellFormed Payload.Carries := by
  refine ⟨?_, ?_⟩
  · intro j p
    simp only [Payload.read?, Option.bind_eq_bind, Option.bind_eq_some_iff,
      reads_entry.mapM.eq_some_iff, Option.some_inj]
    constructor
    · rintro ⟨packages, hpackages, members, hmembers, entries, ⟨hform, hcarries⟩, rfl⟩
      cases packages with
      | obj members' =>
          cases hmembers
          exact ⟨⟨members, hpackages, hform⟩, members, entries, hpackages, hcarries, rfl⟩
      | null | bool | int | real | str | arr => cases hmembers
    · rintro ⟨⟨members, hpackages, hform⟩, members', entries, hpackages', hcarries, hp⟩
      rw [hpackages] at hpackages'
      cases hpackages'
      refine ⟨_, hpackages, members, rfl, entries, ⟨hform, hcarries⟩, ?_⟩
      rw [← hp]
  · rintro j ⟨members, hpackages, hform⟩
    obtain ⟨entries, hentries⟩ := reads_entry.mapM.exists_carries members hform
    exact ⟨⟨.ofList entries⟩, members, entries, hpackages, hentries, rfl⟩

theorem map_fst_eq_memberNames {members : List (String × Json)} {entries : List (String × Package)}
    (h : List.Forall₂ (fun m e => m.1 = e.1 ∧ Package.Carries m.2 e.2) members entries) :
    entries.map Prod.fst = Json.memberNames members := by
  induction h with
  | nil => rfl
  | cons h _ ih => simp_all [Json.memberNames]

/--
**Reading is all or nothing.**  A well-formed payload is read with all its data: a package for every
member of the object of packages, in order, each with all that it lists.  Any other JSON value, be
it malformed in one item of one package, is read as the payload without packages.
-/
theorem read_wellFormed_or_empty (j : Json) :
    (Payload.WellFormed j → Payload.Carries j (Payload.read j))
    ∧
    (∀ members, Payload.WellFormed j → j.member? "packages" = some (.obj members) →
      (Json.memberNames members).Nodup →
      (Payload.read j).packages.keys = Json.memberNames members
      ∧
      List.Forall₂ (fun m e => m.1 = e.1 ∧ Package.Carries m.2 e.2) members
        (Payload.read j).packages.entries)
    ∧
    (¬ Payload.WellFormed j → Payload.read j = .empty) := by
  have hcarries : Payload.WellFormed j → Payload.Carries j (Payload.read j) := by
    intro hform
    obtain ⟨p, hp⟩ := reads_payload.exists_eq_some hform
    rw [Payload.read, hp]
    exact ((reads_payload.eq_some_iff j p).1 hp).2
  refine ⟨hcarries, ?_, ?_⟩
  · intro members hform hpackages hnodup
    obtain ⟨members', entries, hpackages', hall, hread⟩ := hcarries hform
    rw [hpackages] at hpackages'
    cases hpackages'
    have hnames := map_fst_eq_memberNames hall
    have hentries : (Payload.read j).packages.entries = entries := by
      rw [hread]
      exact OrderedMap.entries_ofList (hnames ▸ hnodup)
    rw [OrderedMap.keys, hentries]
    exact ⟨hnames, hall⟩
  · intro hform
    refine Payload.read_of_malformed ?_
    cases hread : Payload.read? j with
    | none => rfl
    | some p => exact absurd ((reads_payload.eq_some_iff j p).1 hread).1 hform

end Main

end Exchange
end Conformance
