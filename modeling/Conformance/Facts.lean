import Conformance.OrderedMap

/-!
# Facts about declarations

What is known of a source file, of a package and of a whole analysis: which interfaces and structs
are declared, which methods belong to which types, and which directives claim an implementation.

**Records.**  Every record has a `Location`; lines count from zero.
* `Interface`: an interface with the methods it lists and the last interface it embeds;
* `Struct`: a struct with its fields, embedded or named;
* `Method`: a method with the type that receives it;
* `Directive`: a claim in a comment that a struct implements an interface.

**Bundles.**  `Findings` holds records of all four sorts, `FileFacts` those of a file, `Package`
those of a directory, and `Result` a map from directories to packages.
-/

namespace Conformance

/-- A place in a source file. -/
structure Location where
  line : Int
  file : String
deriving DecidableEq, Repr, Inhabited

/-- A method that an interface lists. -/
structure MethodSpec where
  name : String
  location : Location
deriving DecidableEq, Repr

/-- An interface declaration. -/
structure Interface where
  name : String
  location : Location
  methods : List MethodSpec := []
  /-- The last interface that it embeds. -/
  embedded : Option String := none
deriving DecidableEq, Repr

/-- A field of a struct. -/
structure Field where
  name : String
  /-- The name of the field's type, empty where the type has none. -/
  typeName : String
  location : Location
  embedded : Bool := false
  pointer : Bool := false
deriving DecidableEq, Repr

/-- A struct declaration. -/
structure Struct where
  name : String
  location : Location
  fields : List Field := []
deriving DecidableEq, Repr

/-- A method declared on a receiver type. -/
structure Method where
  receiver : String
  name : String
  location : Location
  pointer : Bool := false
deriving DecidableEq, Repr

/-- A claim that a struct implements an interface. -/
structure Directive where
  structName : String
  interfaceName : String
  location : Location
deriving DecidableEq, Repr

/-- Records of all four sorts, each in the order of the source. -/
structure Findings where
  interfaces : List Interface := []
  structs : List Struct := []
  methods : List Method := []
  directives : List Directive := []
deriving DecidableEq, Repr, Inhabited

namespace Findings

/-- The findings of one source followed by those of another. -/
def append (a b : Findings) : Findings :=
  ⟨a.interfaces ++ b.interfaces, a.structs ++ b.structs, a.methods ++ b.methods,
    a.directives ++ b.directives⟩

instance : Append Findings := ⟨append⟩

/-- The findings of several sources, in order. -/
def concat (fs : List Findings) : Findings :=
  fs.foldr (· ++ ·) {}

theorem append_def (a b : Findings) :
    a ++ b = ⟨a.interfaces ++ b.interfaces, a.structs ++ b.structs, a.methods ++ b.methods,
      a.directives ++ b.directives⟩ := rfl

@[simp]
theorem empty_append (a : Findings) : ({} : Findings) ++ a = a := by
  simp [append_def]

theorem append_assoc (a b c : Findings) : a ++ b ++ c = a ++ (b ++ c) := by
  simp [append_def, List.append_assoc]

@[simp]
theorem concat_nil : concat [] = {} := rfl

@[simp]
theorem concat_cons (f : Findings) (fs : List Findings) : concat (f :: fs) = f ++ concat fs := rfl

theorem concat_append (fs gs : List Findings) : concat (fs ++ gs) = concat fs ++ concat gs := by
  induction fs with
  | nil => simp
  | cons f fs ih => simp [ih, append_assoc]

/-- Findings are put together sort by sort. -/
theorem concat_eq (fs : List Findings) :
    concat fs = ⟨fs.flatMap (·.interfaces), fs.flatMap (·.structs), fs.flatMap (·.methods),
      fs.flatMap (·.directives)⟩ := by
  induction fs with
  | nil => rfl
  | cons f fs ih => rw [concat_cons, ih, append_def]; rfl

end Findings

/-- What a source file contributes; nothing, if it names no package. -/
structure FileFacts where
  file : String
  package : Option String := none
  findings : Findings := {}
deriving DecidableEq, Repr

namespace FileFacts

/-- Whether the file names no package. -/
def isEmpty (f : FileFacts) : Bool := f.package.isNone

end FileFacts

/-- The findings of a package, under its directory. -/
structure Package where
  path : String
  name : String
  findings : Findings := {}
deriving DecidableEq, Repr

/-- The packages of an analysis, by directory. -/
structure Result where
  packages : OrderedMap String Package

namespace Result

/-- The result without packages. -/
def empty : Result := ⟨.empty⟩

instance : Inhabited Result := ⟨empty⟩

/-- Whether there is no package. -/
def isEmpty (r : Result) : Bool := r.packages.isEmpty

/-- The packages in order. -/
def packageList (r : Result) : List Package := r.packages.values

/-- The findings of all packages, package by package. -/
def findings (r : Result) : List Findings := r.packageList.map (·.findings)

/-- The result of a single package, under its own path. -/
def ofPackage (p : Package) : Result := ⟨OrderedMap.empty.insert p.path p⟩

/-- The directory of the first package. -/
def home? (r : Result) : Option String := r.packages.keys.head?

end Result
end Conformance
