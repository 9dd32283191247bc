import Conformance.Path

/-!
# Normalized paths

Paths are texts, and the operations on them work on characters.  This module says how they fit
together: that a path can be taken apart at its last slash, and what an absolute path looks like.

**Segments.**  A segment is what may stand between two slashes of a normalized path: a text without
a slash that is neither empty nor one of the two names that stand for a directory itself and the one
above it.

**Canonical paths.**  A canonical path is the root, or a segment joined to a canonical path.  A text
that starts with two slashes, and not more, keeps both of them, so there are two roots.

**Results.**
* `name_join`, `segments_join`: a name that is joined to a directory is its last segment;
* `parent_join`: and what it is joined to is its parent, if that is canonical;
* `canonical_absolute`: absolute paths are canonical;
* `Canonical.eq_root_or_join`: so they are roots, or can be taken apart and joined again.
-/

namespace Conformance
namespace Path

section Slashes

variable {path dir name : String}

theorem isAbsolute_iff : isAbsolute path = true ↔ ∃ cs, path.toList = '/' :: cs := by
  rw [isAbsolute, String.startsWith_string_iff]
  constructor
  · rintro ⟨cs, h⟩
    exact ⟨cs, h.symm⟩
  · rintro ⟨cs, h⟩
    exact ⟨cs, h.symm⟩

theorem isAbsolute_of_not_mem (h : '/' ∉ name.toList) : isAbsolute name = false := by
  rw [← Bool.not_eq_true, isAbsolute_iff]
  rintro ⟨cs, hcs⟩
  rw [hcs] at h
  exact h List.mem_cons_self

theorem endsWith_slash_iff : path.endsWith "/" = true ↔ ∃ cs, path.toList = cs ++ ['/'] := by
  rw [← String.endsWith_toSlice, String.Slice.endsWith_string_iff, String.copy_toSlice]
  constructor
  · rintro ⟨cs, h⟩
    exact ⟨cs, h.symm⟩
  · rintro ⟨cs, h⟩
    exact ⟨cs, h.symm⟩

/-- The path of a directory as it stands in front of a name. -/
def front (dir : String) : String :=
  if dir.isEmpty || dir.endsWith "/" then dir else dir ++ "/"

theorem join_eq (h : isAbsolute name = false) : join dir name = front dir ++ name := by
  rw [join, h, front]
  split
  next => contradiction
  next =>
    split
    next => rfl
    next => rfl

/-- In front of a name stands the directory, with a slash if it has none at its end. -/
theorem front_cases (hdir : dir ≠ "") :
    ∃ cs, (front dir).toList = cs ++ ['/'] ∧ (dir.toList = cs ++ ['/'] ∨ dir.toList = cs) := by
  rw [front]
  cases hslash : dir.endsWith "/" with
  | true =>
      obtain ⟨cs, hcs⟩ := endsWith_slash_iff.1 hslash
      exact ⟨cs, by simpa using hcs, .inl hcs⟩
  | false => exact ⟨dir.toList, by simp [hdir], .inr rfl⟩

theorem splitAtLastSlash_append (cs : List Char) {ds : List Char} (h : '/' ∉ ds) :
    splitAtLastSlash (cs ++ '/' :: ds) = (cs ++ ['/'], ds) := by
  have hreverse : ∀ d ∈ ds.reverse, (decide (d ≠ '/')) = true := by
    intro d hd
    have hne : d ≠ '/' := fun heq => h (heq ▸ List.mem_reverse.1 hd)
    exact decide_eq_true hne
  rw [splitAtLastSlash]
  simp only [List.reverse_append, List.reverse_cons, List.append_assoc]
  rw [List.dropWhile_append_of_pos hreverse, List.takeWhile_append_of_pos hreverse]
  simp

theorem slashless_name (path : String) : '/' ∉ (Path.name path).toList := by
  rw [Path.name, String.toList_ofList, splitAtLastSlash, List.mem_reverse]
  intro h
  simpa using List.all_eq_true.1 List.all_takeWhile _ h

/-- The name that is joined to a directory is the last segment. -/
theorem name_join (hdir : dir ≠ "") (hname : '/' ∉ name.toList) :
    Path.name (join dir name) = name := by
  obtain ⟨cs, hcs, -⟩ := front_cases hdir
  rw [Path.name, join_eq (isAbsolute_of_not_mem hname), String.toList_append, hcs,
    List.append_assoc, List.singleton_append, splitAtLastSlash_append cs hname,
    String.ofList_toList]

theorem join_ne_empty (hdir : dir ≠ "") (hname : isAbsolute name = false) : join dir name ≠ "" := by
  obtain ⟨cs, hcs, -⟩ := front_cases hdir
  rw [join_eq hname, Ne, String.append_eq_empty_iff]
  rintro ⟨hfront, -⟩
  rw [hfront] at hcs
  simp at hcs

theorem isAbsolute_join (hdir : dir ≠ "") (hname : isAbsolute name = false) :
    isAbsolute (join dir name) = isAbsolute dir := by
  rw [join_eq hname, Bool.eq_iff_iff, isAbsolute_iff, isAbsolute_iff, String.toList_append]
  obtain ⟨cs, hcs, hcs' | hcs'⟩ := front_cases hdir
  · rw [hcs, hcs']
    cases cs with
    | nil => simp
    | cons c cs => simp
  · rw [hcs, hcs']
    cases cs with
    | nil => exact absurd (String.toList_eq_nil_iff.1 hcs') hdir
    | cons c cs => simp

/-- A slash at the end of a directory stands for an empty segment, which a name replaces. -/
theorem segments_join (hdir : dir ≠ "") (hname : '/' ∉ name.toList) :
    ∃ before, segments (join dir name) = before ++ [name] ∧
      (segments dir = before ∨ segments dir = before ++ [""]) := by
  rw [join_eq (isAbsolute_of_not_mem hname)]
  obtain ⟨cs, hcs, hdir'⟩ := front_cases hdir
  refine ⟨(cs.splitOn '/').map String.ofList, ?_, ?_⟩
  · rw [segments, String.toList_append, hcs, List.append_assoc, List.singleton_append,
      List.splitOn_append_cons_self, List.splitOn_eq_singleton hname, List.map_append]
    simp
  · rcases hdir' with hcs' | hcs'
    · right
      rw [segments, hcs', List.splitOn_append_cons_self, List.map_append]
      simp
    · left
      rw [segments, hcs']

end Slashes

section Canonical

/-- What may stand between two slashes of a normalized path. -/
structure IsSegment (name : String) : Prop where
  nonempty : name ≠ ""
  slashless : '/' ∉ name.toList
  ne_dot : name ≠ "."
  ne_dots : name ≠ ".."

/-- A root, or a segment below a canonical path. -/
inductive Canonical : String → Prop
  | root : Canonical "/"
  | doubleRoot : Canonical "//"
  | join {dir name : String} (hdir : Canonical dir) (hname : IsSegment name) :
      Canonical (join dir name)

variable {dir name path : String}

theorem Canonical.ne_empty (h : Canonical dir) : dir ≠ "" := by
  induction h with
  | root => decide
  | doubleRoot => decide
  | join _ hname ih => exact join_ne_empty ih (isAbsolute_of_not_mem hname.slashless)

theorem IsSegment.eq_concat (h : IsSegment name) : ∃ cs c, name.toList = cs ++ [c] ∧ c ≠ '/' := by
  have hne : name.toList ≠ [] := fun hnil => h.nonempty (String.toList_eq_nil_iff.1 hnil)
  refine ⟨name.toList.dropLast, name.toList.getLast hne,
    (List.dropLast_concat_getLast hne).symm, ?_⟩
  intro hslash
  exact h.slashless (hslash ▸ List.getLast_mem hne)

/-- A path that ends in a segment gets a slash of its own in front of a name. -/
theorem front_append (h : IsSegment name) (before : String) :
    front (before ++ name) = before ++ name ++ "/" := by
  have hempty : (before ++ name).isEmpty = false := by
    rw [← Bool.not_eq_true, String.isEmpty_iff]
    intro hempty
    exact h.nonempty (String.append_eq_empty_iff.1 hempty).2
  have hslash : (before ++ name).endsWith "/" = false := by
    rw [← Bool.not_eq_true, endsWith_slash_iff]
    rintro ⟨ds, hds⟩
    obtain ⟨cs, c, hcs, hc⟩ := h.eq_concat
    rw [String.toList_append, hcs, ← List.append_assoc] at hds
    have hlast := congrArg List.getLast? hds
    rw [List.getLast?_concat, List.getLast?_concat] at hlast
    exact hc (Option.some.inj hlast)
  rw [front, hempty, hslash]
  rfl

theorem trimSlashes_concat (cs : List Char) {c : Char} (h : c ≠ '/') :
    trimSlashes (cs ++ [c] ++ ['/']) = cs ++ [c] := by
  have hall : (cs ++ [c] ++ ['/']).all (· == '/') = false := by simp [h]
  rw [trimSlashes, hall]
  simp [h]

/-- What stands in front of a name is trimmed to the directory. -/
theorem Canonical.trimSlashes_front (h : Canonical dir) :
    String.ofList (trimSlashes (front dir).toList) = dir := by
  cases h with
  | root => decide +kernel
  | doubleRoot => decide +kernel
  | @join dir name hdir hname =>
      obtain ⟨cs, c, hcs, hc⟩ := hname.eq_concat
      rw [join_eq (isAbsolute_of_not_mem hname.slashless), front_append hname,
        String.toList_append, String.toList_append, hcs, ← List.append_assoc]
      show String.ofList (trimSlashes ((front dir).toList ++ cs ++ [c] ++ ['/'])) = _
      rw [trimSlashes_concat _ hc, List.append_assoc, ← hcs, ← String.toList_append,
        String.ofList_toList]

/-- The directory that a name is joined to is the parent. -/
theorem parent_join (hdir : Canonical dir) (hname : '/' ∉ name.toList) :
    parent (Path.join dir name) = dir := by
  obtain ⟨cs, hcs, -⟩ := front_cases hdir.ne_empty
  rw [parent, join_eq (isAbsolute_of_not_mem hname), String.toList_append, hcs,
    List.append_assoc, List.singleton_append, splitAtLastSlash_append cs hname, ← hcs]
  exact hdir.trimSlashes_front

theorem parent_root : parent "/" = "/" := by decide +kernel

theorem parent_doubleRoot : parent "//" = "//" := by decide +kernel

theorem Canonical.parent (h : Canonical path) : Canonical (parent path) := by
  cases h with
  | root =>
      rw [parent_root]
      exact .root
  | doubleRoot =>
      rw [parent_doubleRoot]
      exact .doubleRoot
  | join hdir hname =>
      rw [parent_join hdir hname.slashless]
      exact hdir

/-- A canonical path is a root, or it can be taken apart and joined again. -/
theorem Canonical.eq_root_or_join (h : Canonical path) :
    path = "/" ∨ path = "//" ∨
      (IsSegment (Path.name path) ∧ Path.join (Path.parent path) (Path.name path) = path) := by
  cases h with
  | root => exact .inl rfl
  | doubleRoot => exact .inr (.inl rfl)
  | join hdir hname =>
      right
      right
      rw [name_join hdir.ne_empty hname.slashless, parent_join hdir hname.slashless]
      exact ⟨hname, rfl⟩

end Canonical

section Absolute

variable {cwd path segment : String} {segs : List String}

theorem not_mem_of_mem_splitOn {cs ds : List Char} (h : ds ∈ cs.splitOn '/') : '/' ∉ ds := by
  induction cs generalizing ds with
  | nil =>
      rw [List.splitOn_nil, List.mem_singleton] at h
      simp [h]
  | cons c cs ih =>
      obtain ⟨head, tail, htail⟩ := List.exists_cons_of_ne_nil (List.splitOn_ne_nil '/' cs)
      rw [List.splitOn_cons_eq_if_modifyHead, htail] at h
      rw [htail] at ih
      split at h
      next =>
        rcases List.mem_cons.1 h with rfl | h
        · simp
        · exact ih h
      next hc =>
        rw [beq_iff_eq] at hc
        rcases List.mem_cons.1 h with rfl | h
        · rw [List.mem_cons, not_or]
          exact ⟨Ne.symm hc, ih List.mem_cons_self⟩
        · exact ih (List.mem_cons_of_mem head h)

theorem slashless_of_mem_segments (h : segment ∈ segments path) : '/' ∉ segment.toList := by
  obtain ⟨ds, hds, rfl⟩ := List.mem_map.1 h
  rw [String.toList_ofList]
  exact not_mem_of_mem_splitOn hds

/-- Segments stay segments when one more is pushed below a root. -/
theorem isSegment_pushSegment (hsegs : ∀ s ∈ segs, IsSegment s) (h : '/' ∉ segment.toList) :
    ∀ s ∈ pushSegment true segs segment, IsSegment s := by
  by_cases hskip : segment = "" ∨ segment = "."
  · rw [pushSegment.eq_def, if_pos hskip]
    exact hsegs
  · rw [pushSegment.eq_def, if_neg hskip]
    rw [not_or] at hskip
    split
    next =>
      split
      next => simp
      next last rest =>
        have hlast := (hsegs last List.mem_cons_self).ne_dots
        rw [if_neg hlast]
        intro s hs
        exact hsegs s (List.mem_cons_of_mem last hs)
    next hdots =>
      intro s hs
      rcases List.mem_cons.1 hs with rfl | hs
      · exact ⟨hskip.1, h, hskip.2, hdots⟩
      · exact hsegs s hs

theorem isSegment_foldl_pushSegment {pushed : List String} (h : ∀ s ∈ pushed, '/' ∉ s.toList)
    (hsegs : ∀ s ∈ segs, IsSegment s) :
    ∀ s ∈ pushed.foldl (pushSegment true) segs, IsSegment s := by
  induction pushed generalizing segs with
  | nil => exact hsegs
  | cons first pushed ih =>
      refine ih (fun s hs => h s (List.mem_cons_of_mem first hs)) ?_
      exact isSegment_pushSegment hsegs (h first List.mem_cons_self)

theorem intercalate_concat (before : List String) (last : String) :
    ∃ start, "/".intercalate (before ++ [last]) = start ++ last := by
  cases before with
  | nil => exact ⟨"", by simp⟩
  | cons first before =>
      refine ⟨"/".intercalate (first :: before) ++ "/", ?_⟩
      rw [String.intercalate_append_of_ne_nil (by simp) (by simp), String.intercalate_singleton]

/-- Segments, last first, make up a canonical path below a root. -/
theorem canonical_intercalate {top : String} (htop : top = "/" ∨ top = "//")
    (hsegs : ∀ s ∈ segs, IsSegment s) : Canonical (top ++ "/".intercalate segs.reverse) := by
  induction segs with
  | nil =>
      rw [List.reverse_nil, String.intercalate_nil, String.append_empty]
      rcases htop with rfl | rfl
      · exact .root
      · exact .doubleRoot
  | cons s segs ih =>
      have hs := hsegs s List.mem_cons_self
      have hdir := ih fun s' hs' => hsegs s' (List.mem_cons_of_mem s hs')
      have hjoin : Path.join (top ++ "/".intercalate segs.reverse) s
          = top ++ "/".intercalate (s :: segs).reverse := by
        rw [join_eq (isAbsolute_of_not_mem hs.slashless), List.reverse_cons]
        cases segs with
        | nil =>
            have hfront : front top = top := by
              rcases htop with rfl | rfl <;> decide +kernel
            simp [hfront]
        | cons t segs =>
            have ht := hsegs t (List.mem_cons_of_mem s List.mem_cons_self)
            have hne : segs.reverse ++ [t] ≠ [] := by simp
            obtain ⟨start, hstart⟩ := intercalate_concat segs.reverse t
            rw [List.reverse_cons, String.intercalate_append_of_ne_nil hne (List.cons_ne_nil s []),
              String.intercalate_singleton, hstart, ← String.append_assoc, front_append ht]
            simp only [String.append_assoc]
      rw [← hjoin]
      exact .join hdir hs

theorem leadingSlashes_of_absolute (h : isAbsolute path = true) :
    leadingSlashes path = "/" ∨ leadingSlashes path = "//" := by
  obtain ⟨cs, hcs⟩ := isAbsolute_iff.1 h
  rw [leadingSlashes, hcs]
  simp only [List.takeWhile_cons, beq_self_eq_true, if_true, List.length_cons]
  split
  next hzero => omega
  next => exact .inr rfl
  next => exact .inl rfl

theorem canonical_normalize (h : isAbsolute path = true) : Canonical (normalize path) := by
  have htop := leadingSlashes_of_absolute h
  have hrooted : (!(leadingSlashes path).isEmpty) = true := by
    rcases htop with htop | htop <;> rw [htop] <;> decide +kernel
  have hslashless : ∀ s ∈ segments path, '/' ∉ s.toList := fun s hs => slashless_of_mem_segments hs
  have hnone : ∀ s ∈ ([] : List String), IsSegment s := by simp
  have hcanonical := canonical_intercalate htop (isSegment_foldl_pushSegment hslashless hnone)
  have hbody := hcanonical.ne_empty
  rw [normalize]
  simp only [hrooted]
  rw [if_neg fun hempty => hbody (String.isEmpty_iff.1 hempty)]
  exact hcanonical

/-- Absolute paths are canonical. -/
theorem canonical_absolute (h : isAbsolute cwd = true) (path : String) :
    Canonical (absolute cwd path) := by
  rw [absolute]
  refine canonical_normalize ?_
  split
  next habsolute => exact habsolute
  next hrelative =>
    have hcwd : cwd ≠ "" := by
      rintro rfl
      revert h
      decide +kernel
    rw [isAbsolute_join hcwd (by simpa using hrelative)]
    exact h

end Absolute

end Path
end Conformance
