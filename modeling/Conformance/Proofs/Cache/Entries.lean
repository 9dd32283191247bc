import Conformance.Cache

/-!
# Entries of a cache

What each operation of the two-tier cache does to its entries.

**Lookup.**  A lookup ends in one of three ways (`get_cases`): the file tier answers, or the package
tier answers for the package of the file, or neither does.

**Storing.**  After a result is stored for one file, the other files of its package find it
(`get_put_of_sibling`), and files of other packages find what they found before
(`get_put_of_elsewhere`).

**Entrywise properties.**  `Entrywise onFile onPackage onOwner c` says that all entries of the file
tier, all entries of the package tier and all recorded packages of files satisfy a condition each.
To keep such a property, only what is new has to be looked at (`entrywise_put`, `entrywise_get`);
forgetting entries keeps it anyway (`entrywise_invalidate`, `entrywise_empty`).
-/

namespace Conformance
namespace Cache

variable {ρ : Type} {l : Lifetimes} {now : Double} {file : String} {c : Cache ρ}

section Lookup

theorem fresh?_eq_some_iff {lifetime : Double} {tier : OrderedMap String (Stored ρ)} {key : String}
    {e : Stored ρ} :
    fresh? lifetime now tier key = some e ↔
      tier.get? key = some e ∧ isFresh lifetime now e = true := by
  rw [fresh?, Option.filter_eq_some_iff]

theorem get_of_file {e : Stored ρ} (h : fresh? l.file now c.files file = some e) :
    c.get l now file = (some e.value, c) := by
  rw [get, h]

theorem get_of_package {e : Stored ρ} (hfile : fresh? l.file now c.files file = none)
    (h : fresh? l.package now c.packages (c.ownerOf file) = some e) :
    c.get l now file
      = (some e.value,
          { c with
            files := c.files.insert file e, owners := c.owners.insert file (c.ownerOf file) }) := by
  rw [get, hfile]
  simp only [h]

theorem get_of_none (hfile : fresh? l.file now c.files file = none)
    (h : fresh? l.package now c.packages (c.ownerOf file) = none) :
    c.get l now file = (none, c) := by
  rw [get, hfile]
  simp only [h]

/-- A lookup gives out what the file tier has that is fresh, or else what the package tier has. -/
theorem fst_get_eq :
    (c.get l now file).1
      = ((fresh? l.file now c.files file).or
          (fresh? l.package now c.packages (c.ownerOf file))).map (·.value) := by
  cases hfile : fresh? l.file now c.files file with
  | some e =>
      rw [get_of_file hfile]
      rfl
  | none =>
      cases hpackage : fresh? l.package now c.packages (c.ownerOf file) with
      | some e =>
          rw [get_of_package hfile hpackage]
          rfl
      | none =>
          rw [get_of_none hfile hpackage]
          rfl

/-- Nothing is found exactly if neither tier has a fresh entry. -/
theorem fst_get_eq_none_iff :
    (c.get l now file).1 = none ↔
      fresh? l.file now c.files file = none ∧
        fresh? l.package now c.packages (c.ownerOf file) = none := by
  rw [fst_get_eq, Option.map_eq_none_iff, Option.or_eq_none_iff]

/-- The three ends of a lookup. -/
theorem get_cases (l : Lifetimes) (now : Double) (file : String) (c : Cache ρ) :
    (∃ e, fresh? l.file now c.files file = some e ∧ c.get l now file = (some e.value, c))
    ∨
    (∃ e, fresh? l.package now c.packages (c.ownerOf file) = some e ∧
      c.get l now file
        = (some e.value,
            { c with
              files := c.files.insert file e, owners := c.owners.insert file (c.ownerOf file) }))
    ∨
    c.get l now file = (none, c) := by
  cases hfile : fresh? l.file now c.files file with
  | some e => exact .inl ⟨e, rfl, get_of_file hfile⟩
  | none =>
      cases hpackage : fresh? l.package now c.packages (c.ownerOf file) with
      | some e => exact .inr (.inl ⟨e, rfl, get_of_package hfile hpackage⟩)
      | none => exact .inr (.inr (get_of_none hfile hpackage))

end Lookup

section Put

variable [HasHome ρ] {f g dir : String} {value : ρ}

theorem put_of_home (h : HasHome.home? value = some dir) :
    c.put now f value
      = ⟨c.files.insert f ⟨now, value⟩, c.packages.insert dir ⟨now, value⟩,
          c.owners.insert f dir⟩ := by
  rw [put, h]

theorem ownerOf_put_self (h : HasHome.home? value = some dir) :
    (c.put now f value).ownerOf f = dir := by
  rw [put_of_home h, ownerOf, OrderedMap.getD, OrderedMap.get?_insert, if_pos rfl]
  rfl

theorem ownerOf_put_of_ne (hne : f ≠ g) : (c.put now f value).ownerOf g = c.ownerOf g := by
  cases h : HasHome.home? value with
  | none => rw [put_of_empty h]
  | some dir =>
      rw [put_of_home h, ownerOf, OrderedMap.getD, OrderedMap.get?_insert, if_neg hne]
      rfl

theorem fresh?_files_put_of_ne {lifetime : Double} (hne : f ≠ g) :
    fresh? lifetime now (c.put now f value).files g = fresh? lifetime now c.files g := by
  cases h : HasHome.home? value with
  | none => rw [put_of_empty h]
  | some dir => rw [put_of_home h, fresh?, OrderedMap.get?_insert, if_neg hne, fresh?]

theorem fresh?_packages_put_self {lifetime : Double} (h : HasHome.home? value = some dir)
    (hfresh : isFresh lifetime now ⟨now, value⟩ = true) :
    fresh? lifetime now (c.put now f value).packages dir = some ⟨now, value⟩ := by
  refine fresh?_eq_some_iff.2 ⟨?_, hfresh⟩
  rw [put_of_home h, OrderedMap.get?_insert, if_pos rfl]

theorem fresh?_packages_put_of_ne {lifetime : Double} {dir' : String}
    (h : HasHome.home? value = some dir) (hne : dir ≠ dir') :
    fresh? lifetime now (c.put now f value).packages dir'
      = fresh? lifetime now c.packages dir' := by
  rw [put_of_home h, fresh?, OrderedMap.get?_insert, if_neg hne, fresh?]

/-- A stored result is given out for the other files of its package. -/
theorem get_put_of_sibling (h : HasHome.home? value = some (c.ownerOf g)) (hne : f ≠ g)
    (hfile : fresh? l.file now c.files g = none)
    (hfresh : isFresh l.package now ⟨now, value⟩ = true) :
    ((c.put now f value).get l now g).1 = some value := by
  have hmiss : fresh? l.file now (c.put now f value).files g = none := by
    rw [fresh?_files_put_of_ne hne]
    exact hfile
  have hpackage : fresh? l.package now (c.put now f value).packages
      ((c.put now f value).ownerOf g) = some ⟨now, value⟩ := by
    rw [ownerOf_put_of_ne hne]
    exact fresh?_packages_put_self h hfresh
  rw [get_of_package hmiss hpackage]

/-- A stored result does not matter to files of other packages. -/
theorem get_put_of_elsewhere (h : HasHome.home? value = some dir) (hne : f ≠ g)
    (hdir : dir ≠ c.ownerOf g) (hmiss : (c.get l now g).1 = none) :
    ((c.put now f value).get l now g).1 = none := by
  obtain ⟨hfile, hpackage⟩ := fst_get_eq_none_iff.1 hmiss
  rw [← fresh?_files_put_of_ne hne] at hfile
  rw [← fresh?_packages_put_of_ne h hdir, ← ownerOf_put_of_ne hne] at hpackage
  rw [get_of_none hfile hpackage]

end Put

section Entrywise

variable {onFile onPackage : String → Stored ρ → Prop} {onOwner : String → String → Prop}

/-- All entries of a cache satisfy these conditions. -/
structure Entrywise (onFile onPackage : String → Stored ρ → Prop)
    (onOwner : String → String → Prop) (c : Cache ρ) : Prop where
  files : ∀ f e, c.files.get? f = some e → onFile f e
  packages : ∀ p e, c.packages.get? p = some e → onPackage p e
  owners : ∀ f p, c.owners.get? f = some p → onOwner f p

theorem entrywise_empty : Entrywise onFile onPackage onOwner (empty : Cache ρ) := by
  refine ⟨?_, ?_, ?_⟩
  · rintro f e ⟨⟩
  · rintro p e ⟨⟩
  · rintro f p ⟨⟩

theorem Entrywise.mono {onFile' onPackage' : String → Stored ρ → Prop}
    {onOwner' : String → String → Prop} (h : Entrywise onFile onPackage onOwner c)
    (hfile : ∀ f e, onFile f e → onFile' f e) (hpackage : ∀ p e, onPackage p e → onPackage' p e)
    (howner : ∀ f p, onOwner f p → onOwner' f p) : Entrywise onFile' onPackage' onOwner' c := by
  refine ⟨?_, ?_, ?_⟩
  · intro f e he
    exact hfile f e (h.files f e he)
  · intro p e he
    exact hpackage p e (h.packages p e he)
  · intro f p hp
    exact howner f p (h.owners f p hp)

/-- An entry of a map with a new entry is the new one or an old one. -/
theorem of_get?_insert {ν : Type} {m : OrderedMap String ν} {k k' : String} {v v' : ν}
    {P : String → ν → Prop} (h : (m.insert k v).get? k' = some v') (hnew : P k v)
    (hold : ∀ k v, m.get? k = some v → P k v) : P k' v' := by
  rw [OrderedMap.get?_insert] at h
  by_cases hk : k = k'
  · rw [if_pos hk] at h
    cases hk
    cases h
    exact hnew
  · rw [if_neg hk] at h
    exact hold k' v' h

theorem of_get?_filterKeys {ν : Type} {m : OrderedMap String ν} {p : String → Bool} {k : String}
    {v : ν} (h : (m.filterKeys p).get? k = some v) : m.get? k = some v := by
  rw [OrderedMap.get?_filterKeys] at h
  by_cases hp : p k = true
  · rwa [if_pos hp] at h
  · rw [if_neg hp] at h
    cases h

/-- Storing a result keeps an entrywise property that holds of the new entries. -/
theorem entrywise_put [HasHome ρ] {value : ρ} (h : Entrywise onFile onPackage onOwner c)
    (hnew : ∀ owner, HasHome.home? value = some owner →
      onFile file ⟨now, value⟩ ∧ onPackage owner ⟨now, value⟩ ∧ onOwner file owner) :
    Entrywise onFile onPackage onOwner (c.put now file value) := by
  cases hhome : HasHome.home? value with
  | none =>
      rw [put_of_empty hhome]
      exact h
  | some owner =>
      obtain ⟨hfile, hpackage, howner⟩ := hnew owner hhome
      rw [put_of_home hhome]
      refine ⟨?_, ?_, ?_⟩
      · intro f e he
        exact of_get?_insert he hfile h.files
      · intro p e he
        exact of_get?_insert he hpackage h.packages
      · intro f p hp
        exact of_get?_insert hp howner h.owners

/-- Looking a file up keeps an entrywise property that holds of a copy from the package tier. -/
theorem entrywise_get (h : Entrywise onFile onPackage onOwner c)
    (hnew : ∀ e, fresh? l.package now c.packages (c.ownerOf file) = some e →
      onFile file e ∧ onOwner file (c.ownerOf file)) :
    Entrywise onFile onPackage onOwner (c.get l now file).2 := by
  rcases get_cases l now file c with ⟨e, -, hget⟩ | ⟨e, he, hget⟩ | hget
  · rw [hget]
    exact h
  · obtain ⟨hfile, howner⟩ := hnew e he
    rw [hget]
    refine ⟨?_, h.packages, ?_⟩
    · intro f e' he'
      exact of_get?_insert he' hfile h.files
    · intro f p hp
      exact of_get?_insert hp howner h.owners
  · rw [hget]
    exact h

theorem entrywise_invalidate (h : Entrywise onFile onPackage onOwner c) :
    Entrywise onFile onPackage onOwner (c.invalidate file) := by
  refine ⟨?_, ?_, ?_⟩
  · intro f e he
    exact h.files f e (of_get?_filterKeys he)
  · intro p e he
    exact h.packages p e (of_get?_filterKeys he)
  · intro f p hp
    exact h.owners f p (of_get?_filterKeys hp)

end Entrywise

end Cache
end Conformance
