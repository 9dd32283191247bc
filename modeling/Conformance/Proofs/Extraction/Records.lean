import Conformance.Extraction

/-!
# The records that are read off a tree

A syntax tree may lack any of its parts: a field without a type, a receiver without a name, an
element that embeds nothing.  This module says what every record has all the same, whatever tree it
is read off.

**Grounded records.**  A record is grounded in the files of which `lies` holds if it lies in one of
them, and so do its methods or fields.  Besides, an interface embeds no nameless type, an embedded
field is known under the name of its type, which is not empty, and a method has a receiver with a
name.

**Order of the lemmas.**  Grounded findings stay grounded when they are put together; then come the
parts of `Extraction`, from the elements of a declaration up to a whole file.

**Results.**
* `Findings.Grounded.concat`: findings that are put together from grounded ones are grounded;
* `grounded_nodeFindings`: what a node states is grounded in its file;
* `grounded_factsOfTree`: so are the facts of every tree.
-/

namespace Conformance

section Grounded

variable {lies lies' : String → Prop}

/-- The interface and its methods lie in these files, and it embeds no nameless type. -/
structure Interface.Grounded (lies : String → Prop) (i : Interface) : Prop where
  place : lies i.location.file
  methods : ∀ m ∈ i.methods, lies m.location.file
  embedded : i.embedded ≠ some ""

/-- The field lies in one of these files; if it is embedded, it is named like its type. -/
structure Field.Grounded (lies : String → Prop) (f : Field) : Prop where
  place : lies f.location.file
  embedded : f.embedded = true → f.name = f.typeName ∧ f.name ≠ ""

/-- The struct and its fields lie in these files. -/
structure Struct.Grounded (lies : String → Prop) (s : Struct) : Prop where
  place : lies s.location.file
  fields : ∀ f ∈ s.fields, f.Grounded lies

/-- The method lies in one of these files, and its receiver has a name. -/
structure Method.Grounded (lies : String → Prop) (m : Method) : Prop where
  place : lies m.location.file
  receiver : m.receiver ≠ ""

namespace Findings

/-- All records are grounded in these files. -/
structure Grounded (lies : String → Prop) (f : Findings) : Prop where
  interfaces : ∀ i ∈ f.interfaces, i.Grounded lies
  structs : ∀ s ∈ f.structs, s.Grounded lies
  methods : ∀ m ∈ f.methods, m.Grounded lies
  directives : ∀ d ∈ f.directives, lies d.location.file

namespace Grounded

theorem empty : Grounded lies {} :=
  ⟨by simp, by simp, by simp, by simp⟩

theorem append {a b : Findings} (ha : Grounded lies a) (hb : Grounded lies b) :
    Grounded lies (a ++ b) where
  interfaces i hi := (List.mem_append.1 hi).elim (ha.interfaces i) (hb.interfaces i)
  structs s hs := (List.mem_append.1 hs).elim (ha.structs s) (hb.structs s)
  methods m hm := (List.mem_append.1 hm).elim (ha.methods m) (hb.methods m)
  directives d hd := (List.mem_append.1 hd).elim (ha.directives d) (hb.directives d)

/-- Findings that are put together from grounded ones are grounded. -/
theorem concat {fs : List Findings} (h : ∀ f ∈ fs, Grounded lies f) :
    Grounded lies (Findings.concat fs) := by
  induction fs with
  | nil => exact empty
  | cons f fs ih =>
      rw [concat_cons]
      refine append (h f List.mem_cons_self) (ih ?_)
      intro f' hf'
      exact h f' (List.mem_cons_of_mem f hf')

/-- Findings that are grounded in some files are grounded in all files that include them. -/
theorem mono (hlies : ∀ file, lies file → lies' file) {f : Findings} (h : Grounded lies f) :
    Grounded lies' f where
  interfaces i hi :=
    have hi := h.interfaces i hi
    ⟨hlies _ hi.place, fun m hm => hlies _ (hi.methods m hm), hi.embedded⟩
  structs s hs :=
    have hs := h.structs s hs
    ⟨hlies _ hs.place, fun f hf =>
      have hf := hs.fields f hf
      ⟨hlies _ hf.place, hf.embedded⟩⟩
  methods m hm :=
    have hm := h.methods m hm
    ⟨hlies _ hm.place, hm.receiver⟩
  directives d hd := hlies _ (h.directives d hd)

end Grounded

end Findings

end Grounded

theorem Directive.file_of_mem_scan {start : Location} {text : String} {d : Directive}
    (h : d ∈ scan start text) : d.location.file = start.file := by
  obtain ⟨occurrence, -, rfl⟩ := List.mem_map.1 h
  rfl

namespace Extraction

section Elements

variable {file : String}

theorem file_of_methodSpec? {n : Node} {m : MethodSpec} (h : methodSpec? file n = some m) :
    m.location.file = file := by
  rw [methodSpec?] at h
  split at h
  next => cases h
  next =>
    split at h
    · obtain ⟨name, -, rfl⟩ := Option.map_eq_some_iff.1 h
      rfl
    · obtain ⟨name, -, rfl⟩ := Option.map_eq_some_iff.1 h
      rfl
    · cases h

/-- Whatever is embedded has a name. -/
theorem embedded?_ne_empty {n : Node} {name : String} (h : embedded? n = some name) :
    name ≠ "" := by
  rw [embedded?, Option.ite_none_left_eq_some] at h
  obtain ⟨hname, heq⟩ := h
  rwa [Option.some.inj heq, String.isEmpty_iff] at hname

theorem grounded_interfaceOf (name : String) (spec type : Node) :
    (interfaceOf file name spec type).Grounded (· = file) where
  place := rfl
  methods m hm := by
    obtain ⟨n, -, hn⟩ := List.mem_filterMap.1 hm
    exact file_of_methodSpec? hn
  embedded hempty := by
    obtain ⟨n, -, hn⟩ := List.mem_filterMap.1 (List.mem_of_getLast? hempty)
    exact embedded?_ne_empty hn rfl

/-- A field declaration without names declares a field only if its type has a name. -/
theorem grounded_of_mem_fieldsOf {n : Node} {f : Field} (h : f ∈ fieldsOf file n) :
    f.Grounded (· = file) := by
  rw [fieldsOf] at h
  obtain ⟨typeName, pointer⟩ := typeName? (n.child? .type)
  simp only at h
  split at h
  next =>
    split at h
    next => cases h
    next hname =>
      rw [List.mem_singleton] at h
      subst h
      rw [String.isEmpty_iff] at hname
      exact ⟨rfl, fun _ => ⟨rfl, hname⟩⟩
  next =>
    obtain ⟨name, -, rfl⟩ := List.mem_map.1 h
    exact ⟨rfl, by rintro ⟨⟩⟩

theorem grounded_structOf (name : String) (spec type : Node) :
    (structOf file name spec type).Grounded (· = file) where
  place := rfl
  fields f hf := by
    obtain ⟨n, -, hn⟩ := List.mem_flatMap.1 hf
    exact grounded_of_mem_fieldsOf hn

theorem grounded_of_methodOf? {n : Node} {m : Method} (h : methodOf? file n = some m) :
    m.Grounded (· = file) := by
  rw [methodOf?] at h
  split at h
  next receiver name _ _ =>
    split at h
    next => cases h
    next =>
      split at h
      next => cases h
      next parameter _ _ =>
        obtain ⟨typeName, pointer⟩ := typeName? (parameter.child? .type)
        simp only at h
        split at h
        next => cases h
        next hname =>
          cases h
          rw [String.isEmpty_iff] at hname
          exact ⟨rfl, hname⟩
  next => cases h

end Elements

section Files

variable {file : String}

theorem grounded_specFindings (spec : Node) : (specFindings file spec).Grounded (· = file) := by
  rw [specFindings]
  split
  next name type _ _ =>
    split
    · refine { Findings.Grounded.empty with interfaces := ?_ }
      simpa using grounded_interfaceOf name.text spec type
    · refine { Findings.Grounded.empty with structs := ?_ }
      simpa using grounded_structOf name.text spec type
    · exact .empty
  next => exact .empty

/-- What a node states is grounded in its file. -/
theorem grounded_nodeFindings (n : Node) : (nodeFindings file n).Grounded (· = file) := by
  rw [nodeFindings]
  split
  · refine .concat fun f hf => ?_
    obtain ⟨spec, -, rfl⟩ := List.mem_map.1 hf
    exact grounded_specFindings spec
  · refine { Findings.Grounded.empty with methods := ?_ }
    intro m hm
    exact grounded_of_methodOf? (Option.mem_toList.1 hm)
  · refine { Findings.Grounded.empty with directives := ?_ }
    intro d hd
    exact Directive.file_of_mem_scan hd
  · exact .empty

theorem grounded_findings (root : Node) : (findings file root).Grounded (· = file) := by
  refine .concat fun f hf => ?_
  obtain ⟨n, -, rfl⟩ := List.mem_map.1 hf
  exact grounded_nodeFindings n

/-- The facts of a tree, whatever tree it is, are grounded in the file. -/
theorem grounded_factsOfTree (root : Node) :
    (factsOfTree file root).findings.Grounded (· = file) := by
  rw [factsOfTree]
  split
  · exact .empty
  · exact grounded_findings root

end Files

end Extraction
end Conformance
