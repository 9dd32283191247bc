import Conformance.Options
import Conformance.OrderedMap
import Conformance.Path

/-!
# Two-tier cache

Results are kept for the file they were asked for and for the package they belong to.  The file tier
answers first and lives shortly; the package tier answers for every file of the package.

**Packages of files.**  A file belongs to the package under which it was last stored, and to its own
directory as long as it never was (`ownerOf`).  The package of a result is its home, which may be
another directory than that of the file; a result without a home is empty and is not stored.

**Time.**  An answer from the package tier is copied to the file tier with the time at which the
package was stored, so a copy never outlives its source.

**Results.**
* `put_of_empty`: an empty result leaves the cache as it is.
-/

namespace Conformance

/-- A result that belongs to a package, unless it is empty. -/
class HasHome (ρ : Type) where
  /-- The package of a result; an empty one has none. -/
  home? : ρ → Option String

/-- For how long the tiers of a cache answer, in seconds. -/
structure Lifetimes where
  file : Double
  package : Double

/-- The lifetimes that the options ask for. -/
def Options.lifetimes (o : Options) : Lifetimes :=
  ⟨o.fileLifetime, o.packageLifetime⟩

/-- A stored result and the time at which it was stored. -/
structure Stored (ρ : Type) where
  time : Double
  value : ρ

/-- Results by file and by package, and the package under which each file was stored. -/
structure Cache (ρ : Type) where
  files : OrderedMap String (Stored ρ)
  packages : OrderedMap String (Stored ρ)
  owners : OrderedMap String String

namespace Cache

variable {ρ : Type}

section Defs

/-- The cache without entries. -/
def empty : Cache ρ := ⟨.empty, .empty, .empty⟩

instance : Inhabited (Cache ρ) := ⟨empty⟩

/-- The number of entries of both tiers. -/
def size (c : Cache ρ) : Nat := c.files.size + c.packages.size

/-- The package that a file belongs to. -/
def ownerOf (c : Cache ρ) (file : String) : String :=
  c.owners.getD file (Path.parent file)

/-- Whether a stored result may still be given out. -/
def isFresh (lifetime now : Double) (e : Stored ρ) : Bool :=
  (now.sub e.time).lt lifetime

/-- The fresh result that a tier holds under a key. -/
def fresh? (lifetime now : Double) (tier : OrderedMap String (Stored ρ)) (key : String) :
    Option (Stored ρ) :=
  (tier.get? key).filter (isFresh lifetime now)

/-- The result for a file, if there is a fresh one, and the cache afterwards. -/
def get (l : Lifetimes) (now : Double) (file : String) (c : Cache ρ) : Option ρ × Cache ρ :=
  match fresh? l.file now c.files file with
  | some e => (some e.value, c)
  | none =>
      let owner := c.ownerOf file
      match fresh? l.package now c.packages owner with
      | some e =>
          (some e.value,
            { c with files := c.files.insert file e, owners := c.owners.insert file owner })
      | none => (none, c)

/-- The cache with a result stored for a file and for the result's package. -/
def put [HasHome ρ] (now : Double) (file : String) (value : ρ) (c : Cache ρ) : Cache ρ :=
  match HasHome.home? value with
  | none => c
  | some owner =>
      { files := c.files.insert file ⟨now, value⟩
        packages := c.packages.insert owner ⟨now, value⟩
        owners := c.owners.insert file owner }

/-- The cache without anything stored for a file, for its package, or for others of the package. -/
def invalidate (file : String) (c : Cache ρ) : Cache ρ :=
  let owner := c.ownerOf file
  let isAffected (f : String) : Bool := f == file || c.owners.get? f == some owner
  { files := c.files.filterKeys fun f => !isAffected f
    packages := c.packages.erase owner
    owners := c.owners.filterKeys fun f => !isAffected f }

/-- The cache after everything is forgotten. -/
def clear (_c : Cache ρ) : Cache ρ := empty

end Defs

section Lemmas

theorem put_of_empty [HasHome ρ] {now : Double} {file : String} {value : ρ} {c : Cache ρ}
    (h : HasHome.home? value = none) : c.put now file value = c := by
  simp [put, h]

end Lemmas

end Cache
end Conformance
