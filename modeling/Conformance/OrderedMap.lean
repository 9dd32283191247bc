/-!
# Insertion-ordered maps

A finite map that remembers the order in which its keys first came in.

**Operations.**  `get?` looks a key up, `insert` gives a key a value, `erase` forgets a key and
`adjust` replaces the value of a key by a function of the old one.  Writing to a key that is
present keeps its place.

**Invariant.**  No key occurs twice (`OrderedMap.nodup`).

**Results.**  One equation per operation through the view `get?` (`get?_insert`, `get?_adjust`,
`get?_erase`, `get?_mapValues`, `get?_ofList`, `get?_empty`), `keys_insert` for the order of the
keys, `entries_insert_of_not_mem` for the place of a new entry, and `mem_keys_ofList` for the keys
of the map of a list.
-/

namespace Conformance

universe u v w

/-- A list of entries in which no key occurs twice. -/
structure OrderedMap (κ : Type u) (ν : Type v) where
  entries : List (κ × ν)
  nodup : (entries.map Prod.fst).Nodup

namespace OrderedMap

variable {κ : Type u} {ν : Type v}

section Basic

/-- The map without entries. -/
def empty : OrderedMap κ ν := ⟨[], List.nodup_nil⟩

instance : Inhabited (OrderedMap κ ν) := ⟨empty⟩

/-- The keys, in the order in which they came in. -/
def keys (m : OrderedMap κ ν) : List κ := m.entries.map Prod.fst

/-- The values, in the order of their keys. -/
def values (m : OrderedMap κ ν) : List ν := m.entries.map Prod.snd

/-- The number of entries. -/
def size (m : OrderedMap κ ν) : Nat := m.entries.length

/-- Whether there is no entry. -/
def isEmpty (m : OrderedMap κ ν) : Bool := m.entries.isEmpty

/-- The map with a function applied to every value. -/
def mapValues {μ : Type w} (f : ν → μ) (m : OrderedMap κ ν) : OrderedMap κ μ :=
  ⟨m.entries.map fun e => (e.1, f e.2), by simpa [Function.comp_def] using m.nodup⟩

theorem entries_mapValues {μ : Type w} (f : ν → μ) (m : OrderedMap κ ν) :
    (m.mapValues f).entries = m.entries.map fun e => (e.1, f e.2) := rfl

theorem keys_mapValues {μ : Type w} (f : ν → μ) (m : OrderedMap κ ν) :
    (m.mapValues f).keys = m.keys := by
  simp [keys, mapValues, Function.comp_def]

@[ext]
theorem ext {m n : OrderedMap κ ν} (h : m.entries = n.entries) : m = n := by
  cases m; cases n; cases h; rfl

end Basic

variable [DecidableEq κ]

section Lookup

/-- The value that a list of entries holds first for a key. -/
def lookup (k : κ) : List (κ × ν) → Option ν
  | [] => none
  | (k', v) :: rest => if k' = k then some v else lookup k rest

/-- The value of a key, if the key is present. -/
def get? (m : OrderedMap κ ν) (k : κ) : Option ν := lookup k m.entries

/-- The value of a key, or `default` for an absent key. -/
def getD (m : OrderedMap κ ν) (k : κ) (default : ν) : ν := (m.get? k).getD default

/-- Whether a key is present. -/
def contains (m : OrderedMap κ ν) (k : κ) : Bool := (m.get? k).isSome

theorem lookup_eq_none_iff {k : κ} {es : List (κ × ν)} :
    lookup k es = none ↔ k ∉ es.map Prod.fst := by
  induction es with
  | nil => simp [lookup]
  | cons e es ih =>
      by_cases h : e.1 = k
      · simp [lookup, h]
      · have h' : k ≠ e.1 := fun h'' => h h''.symm
        simp [lookup, h, ih, h']

theorem contains_iff {m : OrderedMap κ ν} {k : κ} : m.contains k = true ↔ k ∈ m.keys := by
  have h : lookup k m.entries = none ↔ k ∉ m.entries.map Prod.fst := lookup_eq_none_iff
  rw [contains, get?, keys]
  cases hl : lookup k m.entries with
  | none => simpa using h.1 hl
  | some v =>
      have : k ∈ m.entries.map Prod.fst := by
        by_cases hk : k ∈ m.entries.map Prod.fst
        · exact hk
        · rw [h.2 hk] at hl; cases hl
      simpa using this

theorem lookup_append (k : κ) (es fs : List (κ × ν)) :
    lookup k (es ++ fs) = (lookup k es).or (lookup k fs) := by
  induction es with
  | nil => simp [lookup]
  | cons e es ih =>
      by_cases h : e.1 = k
      · simp [lookup, h]
      · simp [lookup, h, ih]

theorem lookup_eq_some_iff {k : κ} {v : ν} {es : List (κ × ν)} (h : (es.map Prod.fst).Nodup) :
    lookup k es = some v ↔ (k, v) ∈ es := by
  induction es with
  | nil => simp [lookup]
  | cons e es ih =>
      rw [List.map_cons, List.nodup_cons] at h
      by_cases hk : e.1 = k
      · have hrest : (k, v) ∉ es := fun hmem => h.1 (hk ▸ List.mem_map_of_mem hmem)
        obtain ⟨k', v'⟩ := e
        subst hk
        simp [lookup, hrest, eq_comm]
      · obtain ⟨k', v'⟩ := e
        have hk' : k ≠ k' := fun h' => hk h'.symm
        simp [lookup, hk, hk', ih h.2]

/-- A key has a value exactly if there is such an entry. -/
theorem get?_eq_some_iff {m : OrderedMap κ ν} {k : κ} {v : ν} :
    m.get? k = some v ↔ (k, v) ∈ m.entries :=
  lookup_eq_some_iff m.nodup

theorem mem_keys_iff {m : OrderedMap κ ν} {k : κ} : k ∈ m.keys ↔ ∃ v, m.get? k = some v := by
  rw [← contains_iff, contains, Option.isSome_iff_exists]

theorem lookup_map_value {μ : Type w} (f : ν → μ) (k : κ) (es : List (κ × ν)) :
    lookup k (es.map fun e => (e.1, f e.2)) = (lookup k es).map f := by
  induction es with
  | nil => rfl
  | cons e es ih => by_cases h : e.1 = k <;> simp [lookup, h, ih]

@[simp]
theorem get?_mapValues {μ : Type w} (f : ν → μ) (m : OrderedMap κ ν) (k : κ) :
    (m.mapValues f).get? k = (m.get? k).map f :=
  lookup_map_value f k m.entries

end Lookup

section Insert

/-- Entries with a value written to a key: in its place if present, else at the end. -/
def insertEntry (k : κ) (v : ν) : List (κ × ν) → List (κ × ν)
  | [] => [(k, v)]
  | (k', v') :: rest => if k' = k then (k, v) :: rest else (k', v') :: insertEntry k v rest

theorem keys_insertEntry (k : κ) (v : ν) (es : List (κ × ν)) :
    (insertEntry k v es).map Prod.fst =
      if k ∈ es.map Prod.fst then es.map Prod.fst else es.map Prod.fst ++ [k] := by
  induction es with
  | nil => simp [insertEntry]
  | cons e es ih =>
      by_cases h : e.1 = k
      · simp [insertEntry, h]
      · by_cases hk : k ∈ es.map Prod.fst
        · simp only [insertEntry, h, if_false, List.map_cons, ih, hk, if_true, List.mem_cons,
            or_true]
        · have : k ≠ e.1 := fun h' => h h'.symm
          simp [insertEntry, h, ih, hk, this]

theorem nodup_insertEntry {k : κ} {v : ν} {es : List (κ × ν)} (h : (es.map Prod.fst).Nodup) :
    ((insertEntry k v es).map Prod.fst).Nodup := by
  rw [keys_insertEntry]
  split
  · exact h
  · rename_i hk
    rw [List.nodup_append]
    refine ⟨h, by simp, ?_⟩
    intro a ha b hb
    rw [List.mem_singleton] at hb
    rintro rfl
    exact hk (hb ▸ ha)

/-- The map with a value written to a key. -/
def insert (m : OrderedMap κ ν) (k : κ) (v : ν) : OrderedMap κ ν :=
  ⟨insertEntry k v m.entries, nodup_insertEntry m.nodup⟩

/-- The map with the value of a key replaced by a function of its old value, if it had one. -/
def adjust (m : OrderedMap κ ν) (k : κ) (f : Option ν → ν) : OrderedMap κ ν :=
  m.insert k (f (m.get? k))

/-- The map of a list of entries: a repeated key keeps its first place and takes its last value. -/
def ofList (es : List (κ × ν)) : OrderedMap κ ν :=
  es.foldl (fun m e => m.insert e.1 e.2) empty

theorem keys_insert (m : OrderedMap κ ν) (k : κ) (v : ν) :
    (m.insert k v).keys = if k ∈ m.keys then m.keys else m.keys ++ [k] :=
  keys_insertEntry k v m.entries

theorem insertEntry_of_not_mem {k : κ} {v : ν} {es : List (κ × ν)} (h : k ∉ es.map Prod.fst) :
    insertEntry k v es = es ++ [(k, v)] := by
  induction es with
  | nil => rfl
  | cons e es ih =>
      rw [List.map_cons, List.mem_cons, not_or] at h
      have hk : ¬ e.1 = k := fun h' => h.1 h'.symm
      simp [insertEntry, hk, ih h.2]

theorem mem_insertEntry {k : κ} {v : ν} {es : List (κ × ν)} {e : κ × ν}
    (h : e ∈ insertEntry k v es) : e = (k, v) ∨ e ∈ es := by
  induction es with
  | nil => exact .inl (List.mem_singleton.1 h)
  | cons e' es ih =>
      rw [insertEntry] at h
      split at h
      next =>
        rcases List.mem_cons.1 h with rfl | h
        · exact .inl rfl
        · exact .inr (List.mem_cons_of_mem e' h)
      next =>
        rcases List.mem_cons.1 h with rfl | h
        · exact .inr List.mem_cons_self
        · exact (ih h).imp_right (List.mem_cons_of_mem e')

/-- A new key comes last. -/
theorem entries_insert_of_not_mem {m : OrderedMap κ ν} {k : κ} {v : ν} (h : k ∉ m.keys) :
    (m.insert k v).entries = m.entries ++ [(k, v)] :=
  insertEntry_of_not_mem h

theorem lookup_insertEntry (k k' : κ) (v : ν) (es : List (κ × ν)) :
    lookup k' (insertEntry k v es) = if k = k' then some v else lookup k' es := by
  induction es with
  | nil => simp [insertEntry, lookup]
  | cons e es ih =>
      by_cases h : e.1 = k
      · by_cases hk : k = k'
        · simp [insertEntry, lookup, h, hk]
        · have : e.1 ≠ k' := fun h' => hk (h.symm.trans h')
          simp [insertEntry, lookup, h, hk]
      · by_cases hk : k = k'
        · subst hk
          simp [insertEntry, lookup, h, ih]
        · simp [insertEntry, lookup, h, ih, hk]

@[simp]
theorem get?_insert (m : OrderedMap κ ν) (k k' : κ) (v : ν) :
    (m.insert k v).get? k' = if k = k' then some v else m.get? k' :=
  lookup_insertEntry k k' v m.entries

theorem mem_keys_insert {m : OrderedMap κ ν} {k k' : κ} {v : ν} :
    k' ∈ (m.insert k v).keys ↔ k' ∈ m.keys ∨ k' = k := by
  rw [keys_insert]
  split
  · rename_i hk
    exact ⟨.inl, fun h => h.elim id (· ▸ hk)⟩
  · simp

theorem mem_keys_foldl_insert {es : List (κ × ν)} {m : OrderedMap κ ν} {k : κ} :
    k ∈ (es.foldl (fun m e => m.insert e.1 e.2) m).keys ↔ k ∈ m.keys ∨ k ∈ es.map Prod.fst := by
  induction es generalizing m with
  | nil => simp
  | cons e es ih => simp [ih, mem_keys_insert, or_assoc]

/-- The keys of the map of a list are those of the list. -/
theorem mem_keys_ofList {es : List (κ × ν)} {k : κ} :
    k ∈ (ofList es).keys ↔ k ∈ es.map Prod.fst := by
  rw [ofList, mem_keys_foldl_insert]
  simp [empty, keys]

theorem entries_foldl_insert {es : List (κ × ν)} {m : OrderedMap κ ν}
    (h : ((m.entries ++ es).map Prod.fst).Nodup) :
    (es.foldl (fun m e => m.insert e.1 e.2) m).entries = m.entries ++ es := by
  induction es generalizing m with
  | nil => simp
  | cons e es ih =>
      have hkey : e.1 ∉ m.keys := by
        intro hmem
        rw [List.map_append, List.nodup_append] at h
        exact h.2.2 e.1 hmem e.1 (by simp) rfl
      have hentries : (m.insert e.1 e.2).entries ++ es = m.entries ++ e :: es := by
        simp [entries_insert_of_not_mem hkey]
      rw [List.foldl_cons, ih (by rwa [hentries]), hentries]

/-- The map of a list without repeated keys has the entries of the list. -/
theorem entries_ofList {es : List (κ × ν)} (h : (es.map Prod.fst).Nodup) :
    (ofList es).entries = es :=
  entries_foldl_insert h

/-- The map of a list holds for a key what the list holds last for it. -/
theorem get?_foldl_insert (es : List (κ × ν)) (m : OrderedMap κ ν) (k : κ) :
    (es.foldl (fun m e => m.insert e.1 e.2) m).get? k
      = (((es.filter fun e => e.1 == k).getLast?).map Prod.snd).or (m.get? k) := by
  induction es generalizing m with
  | nil => rfl
  | cons e es ih =>
      rw [List.foldl_cons, ih, get?_insert]
      by_cases h : e.1 = k
      · cases hrest : (es.filter fun e => e.1 == k).getLast? <;>
          simp [h, List.getLast?_cons, hrest]
      · simp [h]

theorem get?_ofList (es : List (κ × ν)) (k : κ) :
    (ofList es).get? k = ((es.filter fun e => e.1 == k).getLast?).map Prod.snd := by
  rw [ofList, get?_foldl_insert]
  exact Option.or_none

theorem get?_adjust (m : OrderedMap κ ν) (k k' : κ) (f : Option ν → ν) :
    (m.adjust k f).get? k' = if k = k' then some (f (m.get? k')) else m.get? k' := by
  rw [adjust, get?_insert]
  split
  next h => rw [h]
  next => rfl

theorem mem_keys_adjust {m : OrderedMap κ ν} {k k' : κ} {f : Option ν → ν} :
    k' ∈ (m.adjust k f).keys ↔ k' ∈ m.keys ∨ k' = k :=
  mem_keys_insert

theorem insertEntry_map_value {μ : Type w} (f : ν → μ) (k : κ) (v : ν) (es : List (κ × ν)) :
    insertEntry k (f v) (es.map fun e => (e.1, f e.2))
      = (insertEntry k v es).map fun e => (e.1, f e.2) := by
  induction es with
  | nil => rfl
  | cons e es ih => by_cases h : e.1 = k <;> simp [insertEntry, h, ih]

theorem mapValues_insert {μ : Type w} (f : ν → μ) (m : OrderedMap κ ν) (k : κ) (v : ν) :
    (m.insert k v).mapValues f = (m.mapValues f).insert k (f v) :=
  ext (insertEntry_map_value f k v m.entries).symm

/-- Values may be changed before or after a list is made a map. -/
theorem mapValues_ofList {μ : Type w} (f : ν → μ) (es : List (κ × ν)) :
    (ofList es).mapValues f = ofList (es.map fun e => (e.1, f e.2)) := by
  rw [ofList, ofList, List.foldl_map]
  exact (List.foldl_hom (mapValues f) fun m e => (mapValues_insert f m e.1 e.2).symm).symm

@[simp]
theorem get?_empty (k : κ) : (empty : OrderedMap κ ν).get? k = none := rfl

end Insert

section Erase

/-- Entries whose key satisfies `p`. -/
def filterKeys (p : κ → Bool) (m : OrderedMap κ ν) : OrderedMap κ ν :=
  ⟨m.entries.filter fun e => p e.1,
    m.nodup.sublist (List.filter_sublist.map Prod.fst)⟩

/-- The map without a key. -/
def erase (m : OrderedMap κ ν) (k : κ) : OrderedMap κ ν :=
  m.filterKeys fun k' => !decide (k' = k)

theorem lookup_filter (p : κ → Bool) (k : κ) (es : List (κ × ν)) :
    lookup k (es.filter fun e => p e.1) = if p k then lookup k es else none := by
  induction es with
  | nil => simp [lookup]
  | cons e es ih =>
      by_cases hp : p e.1
      · by_cases hk : e.1 = k
        · subst hk
          simp [hp, lookup]
        · simp [hp, lookup, hk, ih]
      · by_cases hk : e.1 = k
        · subst hk
          simp [hp, ih]
        · simp [hp, lookup, hk, ih]

@[simp]
theorem get?_filterKeys (p : κ → Bool) (m : OrderedMap κ ν) (k : κ) :
    (m.filterKeys p).get? k = if p k then m.get? k else none :=
  lookup_filter p k m.entries

theorem contains_filterKeys (p : κ → Bool) (m : OrderedMap κ ν) (k : κ) :
    (m.filterKeys p).contains k = (p k && m.contains k) := by
  cases hp : p k <;> simp [contains, hp]

omit [DecidableEq κ] in
theorem keys_filterKeys (p : κ → Bool) (m : OrderedMap κ ν) :
    (m.filterKeys p).keys = m.keys.filter p := by
  simp [filterKeys, keys, List.filter_map, Function.comp_def]

theorem filter_key_eq {k : κ} {es : List (κ × ν)} (h : (es.map Prod.fst).Nodup) :
    (es.filter fun e => e.1 == k) = ((lookup k es).map fun v => (k, v)).toList := by
  induction es with
  | nil => rfl
  | cons e es ih =>
      rw [List.map_cons, List.nodup_cons] at h
      by_cases hk : e.1 = k
      · subst hk
        have hrest : lookup e.1 es = none := lookup_eq_none_iff.2 h.1
        simp [lookup, ih h.2, hrest]
      · simp [lookup, hk, ih h.2]

/-- What is left of a map at one key depends on the value of that key only. -/
theorem filterKeys_key_congr {m m' : OrderedMap κ ν} {k : κ} (h : m.get? k = m'.get? k) :
    (m.filterKeys fun k' => k' == k) = m'.filterKeys fun k' => k' == k := by
  ext1
  show (m.entries.filter fun e => e.1 == k) = m'.entries.filter fun e => e.1 == k
  rw [filter_key_eq m.nodup, filter_key_eq m'.nodup]
  rw [get?, get?] at h
  rw [h]

@[simp]
theorem get?_erase (m : OrderedMap κ ν) (k k' : κ) :
    (m.erase k).get? k' = if k' = k then none else m.get? k' := by
  rw [erase, get?_filterKeys]
  by_cases h : k' = k <;> simp [h]

end Erase

end OrderedMap
end Conformance
