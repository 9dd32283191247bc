import Conformance.Directive

/-!
# The grammar of directives

A directive is read from left to right, without a way back.  This module says which texts are
directives, without saying how they are read, and that reading gives the one reading they have.

**Grammar.**  `Parts` cuts a directive into a keyword with its blanks, a star, the name of the
struct, a separator with its blanks and the name of the interface; `Parts.Fits` says what each part
may be.  The grammar lets a name end anywhere inside a word; `Parts.IsMaximal` says that the names
do not.

**Boundaries.**  Each part is read up to the first character that cannot belong to it.  What follows
a part never begins with such a character (`IsIdentifier.stopsAt_blank`,
`IsSeparator.stopsAt_word`), so that the part could not have ended earlier.

**Results.**
* `afterKeyword?_eq_some_iff`, `starred?_eq_some_iff`, `afterSeparator?_eq_some_iff`,
  `identifier?_eq_some_iff`: each part is read where the grammar has one;
* `occurrence?_eq_some_iff`: a directive is read where the grammar has one with maximal names;
* `Parts.Fits.exists_occurrence?`: every reading of the grammar is the one that is read, up to the
  end of the last name.
-/

namespace Conformance
namespace Directive

open Text

section Specification

/-- Blanks, perhaps none. -/
def IsBlanks (cs : List Char) : Prop :=
  ∀ c ∈ cs, isAsciiBlank c = true

/-- An ASCII identifier. -/
def IsIdentifier (name : List Char) : Prop :=
  ∃ c rest, name = c :: rest ∧ isAsciiWordStart c = true ∧ ∀ d ∈ rest, isAsciiWord d = true

/-- A keyword with its blanks, after the character `before`. -/
inductive IsKeyword (before : Option Char) : List Char → Prop
  | english {w b : List Char} (hbefore : before.any isAsciiWord = false)
      (hw : w.map Char.toLower = "ensure".toList) (hne : b ≠ []) (hb : IsBlanks b) :
      IsKeyword before (w ++ b)
  | chinese {b : List Char} (hb : IsBlanks b) : IsKeyword before (['确', '保'] ++ b)

/-- A separator with the blanks around it. -/
inductive IsSeparator : List Char → Prop
  | english {b w b' : List Char} (hne : b ≠ []) (hb : IsBlanks b)
      (hw : w.map Char.toLower = "implements".toList) (hne' : b' ≠ []) (hb' : IsBlanks b') :
      IsSeparator (b ++ (w ++ b'))
  | chinese {b b' : List Char} (hb : IsBlanks b) (hb' : IsBlanks b') :
      IsSeparator (b ++ (['实', '现'] ++ b'))

/-- The parts of a directive. -/
structure Parts where
  keyword : List Char
  star : List Char
  structName : List Char
  separator : List Char
  interfaceName : List Char

/-- The text of a directive. -/
def Parts.text (p : Parts) : List Char :=
  p.keyword ++ (p.star ++ (p.structName ++ (p.separator ++ p.interfaceName)))

/-- The parts are those of a directive after the character `before`. -/
structure Parts.Fits (before : Option Char) (p : Parts) : Prop where
  keyword : IsKeyword before p.keyword
  star : p.star = [] ∨ p.star = ['*']
  structName : IsIdentifier p.structName
  separator : IsSeparator p.separator
  interfaceName : IsIdentifier p.interfaceName

/-- Neither name could be longer, where the text goes on with `after`. -/
structure Parts.IsMaximal (p : Parts) (after : List Char) : Prop where
  structName : StopsAt isAsciiWord (p.separator ++ (p.interfaceName ++ after))
  interfaceName : StopsAt isAsciiWord after

end Specification

section Letters

variable {c d : Char}

theorem toLower_of_isAsciiBlank (h : isAsciiBlank c = true) : c.toLower = c := by
  have hblank : c.toNat ≤ 32 := toNat_le_of_isAsciiBlank h
  unfold Char.toLower
  split
  next hc =>
    have : 65 ≤ c.toNat := UInt32.le_iff_toNat_le.1 hc.1
    omega
  next => rfl

/-- What is no ASCII character is the lower case of itself only. -/
theorem eq_of_toLower_eq (hd : 128 ≤ d.toNat) (h : c.toLower = d) : c = d := by
  unfold Char.toLower at h
  split at h
  next hc =>
    have hle : c.val.toNat ≤ 90 := UInt32.le_iff_toNat_le.1 hc.2
    have hcode : d.toNat = (c.val.toNat + 32) % 4294967296 := by
      rw [← h]
      rfl
    omega
  next => exact h

end Letters

section Runs

variable {b w rest cs : List Char}

theorem skipBlanks_append (hb : IsBlanks b) (hrest : StopsAt isAsciiBlank rest) :
    skipBlanks (b ++ rest) = rest :=
  dropWhile_of_stopsAt hb hrest

theorem stopsAt_skipBlanks (cs : List Char) : StopsAt isAsciiBlank (skipBlanks cs) :=
  stopsAt_dropWhile isAsciiBlank cs

theorem exists_blanks (cs : List Char) : ∃ b, IsBlanks b ∧ cs = b ++ skipBlanks cs := by
  refine ⟨cs.takeWhile isAsciiBlank, fun c hc => ?_, ?_⟩
  · exact List.all_eq_true.1 List.all_takeWhile c hc
  · exact List.takeWhile_append_dropWhile.symm

theorem afterBlanks?_eq_some_iff :
    afterBlanks? cs = some rest ↔
      ∃ b, b ≠ [] ∧ IsBlanks b ∧ cs = b ++ rest ∧ StopsAt isAsciiBlank rest := by
  constructor
  · intro h
    cases cs with
    | nil => cases h
    | cons c cs =>
        rw [afterBlanks?] at h
        split at h
        next hc =>
          cases h
          obtain ⟨b, hb, hcs⟩ := exists_blanks cs
          refine ⟨c :: b, List.cons_ne_nil c b, ?_, ?_, stopsAt_skipBlanks cs⟩
          · exact List.forall_mem_cons.2 ⟨hc, hb⟩
          · rw [List.cons_append, ← hcs]
        next => cases h
  · rintro ⟨b, hne, hb, rfl, hrest⟩
    cases b with
    | nil => exact absurd rfl hne
    | cons c b =>
        obtain ⟨hc, hb⟩ := List.forall_mem_cons.1 hb
        rw [List.cons_append, afterBlanks?, if_pos hc, skipBlanks_append hb hrest]

theorem afterWord?_eq_some_iff :
    afterWord? w cs = some rest ↔ ∃ v, v.map Char.toLower = w ∧ cs = v ++ rest := by
  induction w generalizing cs with
  | nil =>
      constructor
      · intro h
        cases h
        exact ⟨[], rfl, rfl⟩
      · rintro ⟨v, hv, rfl⟩
        rw [List.map_eq_nil_iff.1 hv]
        rfl
  | cons d w ih =>
      cases cs with
      | nil =>
          constructor
          · intro h
            cases h
          · rintro ⟨v, hv, hcs⟩
            rw [(List.append_eq_nil_iff.1 hcs.symm).1] at hv
            cases hv
      | cons c cs =>
          rw [afterWord?]
          constructor
          · intro h
            split at h
            next hc =>
              obtain ⟨v, hv, rfl⟩ := ih.1 h
              exact ⟨c :: v, by rw [List.map_cons, hc, hv], rfl⟩
            next => cases h
          · rintro ⟨v, hv, hcs⟩
            cases v with
            | nil => cases hv
            | cons c' v =>
                obtain ⟨rfl, rfl⟩ := List.cons.inj hcs
                obtain ⟨hc, hv⟩ := List.cons.inj hv
                rw [if_pos hc]
                exact ih.2 ⟨v, hv, rfl⟩

/-- A text that starts with a word does not start with one that has another first letter. -/
theorem afterWord?_eq_none {c d : Char} {ws ds : List Char} (hw : w.map Char.toLower = c :: ws)
    (hcd : c ≠ d) : afterWord? (d :: ds) (w ++ rest) = none := by
  cases w with
  | nil => cases hw
  | cons c' w =>
      obtain ⟨rfl, -⟩ := List.cons.inj hw
      rw [List.cons_append, afterWord?, if_neg hcd]

/-- A word of other characters than ASCII ones is written in one way. -/
theorem eq_of_map_toLower_eq {v : List Char} (hw : w.all (fun c => 128 ≤ c.toNat) = true)
    (hv : v.map Char.toLower = w) : v = w := by
  induction v generalizing w with
  | nil => exact hv
  | cons c v ih =>
      subst hv
      rw [List.map_cons, List.all_cons, Bool.and_eq_true, decide_eq_true_eq] at hw
      have hrest : v = v.map Char.toLower := ih hw.2 rfl
      rw [List.map_cons, ← hrest, ← eq_of_toLower_eq hw.1 rfl]

end Runs

section Boundaries

variable {b w x name : List Char}

theorem IsBlanks.stopsAt_word (hb : IsBlanks b) (hne : b ≠ []) : StopsAt isAsciiWord (b ++ x) := by
  cases b with
  | nil => exact absurd rfl hne
  | cons c b =>
      exact stopsAt_cons (isAsciiWord_eq_false_of_isAsciiBlank (hb c List.mem_cons_self))

theorem stopsAt_blank_of_word {c : Char} {ws : List Char} (hw : w.map Char.toLower = c :: ws)
    (hc : isAsciiBlank c = false) : StopsAt isAsciiBlank (w ++ x) := by
  cases w with
  | nil => cases hw
  | cons d w =>
      obtain ⟨hd, -⟩ := List.cons.inj hw
      refine stopsAt_cons (Bool.eq_false_iff.2 fun hblank => ?_)
      rw [← hd, toLower_of_isAsciiBlank hblank, hblank] at hc
      cases hc

theorem IsIdentifier.stopsAt_blank (h : IsIdentifier name) : StopsAt isAsciiBlank (name ++ x) := by
  obtain ⟨c, rest, rfl, hc, -⟩ := h
  refine stopsAt_cons (Bool.eq_false_iff.2 fun hblank => ?_)
  have hword : isAsciiWord c = true := isAsciiWord_of_isAsciiWordStart hc
  rw [isAsciiWord_eq_false_of_isAsciiBlank hblank] at hword
  cases hword

/-- No separator begins with a character that could belong to the name before it. -/
theorem IsSeparator.stopsAt_word {separator : List Char} (h : IsSeparator separator) :
    StopsAt isAsciiWord (separator ++ x) := by
  cases h with
  | @english b w b' hne hb =>
      rw [List.append_assoc]
      exact hb.stopsAt_word hne
  | @chinese b b' hb =>
      rw [List.append_assoc]
      by_cases hne : b = []
      · subst hne
        exact stopsAt_cons rfl
      · exact hb.stopsAt_word hne

end Boundaries

section Reading

variable {before : Option Char} {cs rest name : List Char}

theorem afterKeyword?_eq_some_iff :
    afterKeyword? before cs = some rest ↔
      ∃ keyword, IsKeyword before keyword ∧ cs = keyword ++ rest ∧ StopsAt isAsciiBlank rest := by
  constructor
  · intro h
    rw [afterKeyword?] at h
    split at h
    next r hr =>
      cases h
      obtain ⟨v, hv, rfl⟩ := afterWord?_eq_some_iff.1 hr
      obtain rfl := eq_of_map_toLower_eq rfl hv
      obtain ⟨b, hb, hr⟩ := exists_blanks r
      refine ⟨_, .chinese hb, ?_, stopsAt_skipBlanks r⟩
      rw [List.append_assoc, ← hr]
    next =>
      split at h
      next => cases h
      next hbefore =>
        obtain ⟨r, hr, hblanks⟩ := Option.bind_eq_some_iff.1 h
        obtain ⟨w, hw, rfl⟩ := afterWord?_eq_some_iff.1 hr
        obtain ⟨b, hne, hb, rfl, hrest⟩ := afterBlanks?_eq_some_iff.1 hblanks
        refine ⟨_, .english (Bool.eq_false_iff.2 hbefore) hw hne hb, ?_, hrest⟩
        rw [List.append_assoc]
  · rintro ⟨keyword, hkeyword, rfl, hrest⟩
    cases hkeyword with
    | @english w b hbefore hw hne hb =>
        have hnone : afterWord? ['确', '保'] (w ++ (b ++ rest)) = none :=
          afterWord?_eq_none hw (by decide)
        have hsome : afterWord? "ensure".toList (w ++ (b ++ rest)) = some (b ++ rest) :=
          afterWord?_eq_some_iff.2 ⟨w, hw, rfl⟩
        rw [List.append_assoc, afterKeyword?, hnone, hsome]
        simp only [hbefore, Bool.false_eq_true, if_false, Option.bind_some]
        exact afterBlanks?_eq_some_iff.2 ⟨b, hne, hb, rfl, hrest⟩
    | @chinese b hb =>
        have hsome : afterWord? ['确', '保'] (['确', '保'] ++ (b ++ rest)) = some (b ++ rest) := rfl
        rw [List.append_assoc, afterKeyword?, hsome]
        simp only [skipBlanks_append hb hrest]

theorem afterSeparator?_eq_some_iff :
    afterSeparator? cs = some rest ↔
      ∃ separator, IsSeparator separator ∧ cs = separator ++ rest
        ∧ StopsAt isAsciiBlank rest := by
  constructor
  · intro h
    rw [afterSeparator?] at h
    split at h
    next r hr =>
      cases h
      obtain ⟨v, hv, hcs⟩ := afterWord?_eq_some_iff.1 hr
      obtain rfl := eq_of_map_toLower_eq rfl hv
      obtain ⟨b, hb, hskip⟩ := exists_blanks cs
      obtain ⟨b', hb', hr'⟩ := exists_blanks r
      refine ⟨_, .chinese hb hb', ?_, stopsAt_skipBlanks r⟩
      rw [List.append_assoc, List.append_assoc, ← hr', ← hcs, ← hskip]
    next =>
      obtain ⟨r, hr, hblanks⟩ := Option.bind_eq_some_iff.1 h
      obtain ⟨r', hr', hword⟩ := Option.bind_eq_some_iff.1 hr
      obtain ⟨b, hne, hb, rfl, -⟩ := afterBlanks?_eq_some_iff.1 hr'
      obtain ⟨w, hw, rfl⟩ := afterWord?_eq_some_iff.1 hword
      obtain ⟨b', hne', hb', rfl, hrest⟩ := afterBlanks?_eq_some_iff.1 hblanks
      refine ⟨_, .english hne hb hw hne' hb', ?_, hrest⟩
      rw [List.append_assoc, List.append_assoc]
  · rintro ⟨separator, hseparator, rfl, hrest⟩
    cases hseparator with
    | @english b w b' hne hb hw hne' hb' =>
        have hstop : StopsAt isAsciiBlank (w ++ (b' ++ rest)) := stopsAt_blank_of_word hw rfl
        have hnone : afterWord? ['实', '现'] (w ++ (b' ++ rest)) = none :=
          afterWord?_eq_none hw (by decide)
        have hblanks : afterBlanks? (b ++ (w ++ (b' ++ rest))) = some (w ++ (b' ++ rest)) :=
          afterBlanks?_eq_some_iff.2 ⟨b, hne, hb, rfl, hstop⟩
        have hsome : afterWord? "implements".toList (w ++ (b' ++ rest)) = some (b' ++ rest) :=
          afterWord?_eq_some_iff.2 ⟨w, hw, rfl⟩
        rw [List.append_assoc, List.append_assoc, afterSeparator?, skipBlanks_append hb hstop,
          hnone, hblanks]
        simp only [Option.bind_some, hsome]
        exact afterBlanks?_eq_some_iff.2 ⟨b', hne', hb', rfl, hrest⟩
    | @chinese b b' hb hb' =>
        have hstop : StopsAt isAsciiBlank (['实', '现'] ++ (b' ++ rest)) := stopsAt_cons rfl
        have hsome : afterWord? ['实', '现'] (['实', '现'] ++ (b' ++ rest)) = some (b' ++ rest) := rfl
        rw [List.append_assoc, List.append_assoc, afterSeparator?, skipBlanks_append hb hstop,
          hsome]
        simp only [skipBlanks_append hb' hrest]

theorem identifier?_eq_some_iff :
    identifier? cs = some (name, rest) ↔
      IsIdentifier name ∧ cs = name ++ rest ∧ StopsAt isAsciiWord rest := by
  constructor
  · intro h
    cases cs with
    | nil => cases h
    | cons c cs =>
        rw [identifier?] at h
        split at h
        next hc =>
          cases h
          refine ⟨⟨c, _, rfl, hc, fun d hd => ?_⟩, ?_, stopsAt_dropWhile isAsciiWord cs⟩
          · exact List.all_eq_true.1 List.all_takeWhile d hd
          · rw [List.cons_append, List.takeWhile_append_dropWhile]
        next => cases h
  · rintro ⟨⟨c, ds, rfl, hc, hds⟩, rfl, hrest⟩
    rw [List.cons_append, identifier?, if_pos hc, takeWhile_of_stopsAt hds hrest,
      dropWhile_of_stopsAt hds hrest]

/-- A name may stand after one star. -/
theorem starred?_eq_some_iff :
    identifier? (skipStar cs) = some (name, rest) ↔
      ∃ star, (star = [] ∨ star = ['*']) ∧ cs = star ++ (name ++ rest) ∧ IsIdentifier name
        ∧ StopsAt isAsciiWord rest := by
  rw [identifier?_eq_some_iff]
  constructor
  · rintro ⟨hname, hcs, hrest⟩
    unfold skipStar at hcs
    split at hcs
    next cs' =>
      exact ⟨['*'], .inr rfl, by rw [hcs]; rfl, hname, hrest⟩
    next => exact ⟨[], .inl rfl, hcs, hname, hrest⟩
  · rintro ⟨star, rfl | rfl, rfl, hname, hrest⟩
    · refine ⟨hname, ?_, hrest⟩
      obtain ⟨c, ds, rfl, hc, -⟩ := hname
      unfold skipStar
      split
      next heq =>
        cases heq
        cases hc
      next => rfl
    · exact ⟨hname, rfl, hrest⟩

end Reading

section Occurrences

variable {before : Option Char} {cs after : List Char} {p : Parts} {o : Occurrence}

/-- A directive is what its parts are, with the rest of the text after them. -/
theorem Parts.text_append (p : Parts) (after : List Char) :
    p.text ++ after
      = p.keyword ++ (p.star ++ (p.structName
          ++ (p.separator ++ (p.interfaceName ++ after)))) := by
  simp only [Parts.text, List.append_assoc]

theorem Parts.Fits.stopsAt_star (h : p.Fits before) {x : List Char} :
    StopsAt isAsciiBlank (p.star ++ (p.structName ++ x)) := by
  rcases h.star with hstar | hstar
  · rw [hstar]
    exact h.structName.stopsAt_blank
  · rw [hstar]
    exact stopsAt_cons rfl

/-- A directive is read where the grammar has one whose names are maximal. -/
theorem occurrence?_eq_some_iff :
    occurrence? before cs = some o ↔
      ∃ p : Parts, p.Fits before ∧ p.IsMaximal o.rest ∧ cs = p.text ++ o.rest
        ∧ o.structName = p.structName ∧ o.interfaceName = p.interfaceName := by
  constructor
  · intro h
    obtain ⟨r₁, h₁, h⟩ := Option.bind_eq_some_iff.1 h
    obtain ⟨⟨s, r₂⟩, h₂, h⟩ := Option.bind_eq_some_iff.1 h
    obtain ⟨r₃, h₃, h⟩ := Option.bind_eq_some_iff.1 h
    obtain ⟨⟨i, r₄⟩, h₄, rfl⟩ := Option.map_eq_some_iff.1 h
    obtain ⟨keyword, hkeyword, rfl, -⟩ := afterKeyword?_eq_some_iff.1 h₁
    obtain ⟨star, hstar, rfl, hs, hstruct⟩ := starred?_eq_some_iff.1 h₂
    obtain ⟨separator, hseparator, rfl, -⟩ := afterSeparator?_eq_some_iff.1 h₃
    obtain ⟨hi, rfl, hinterface⟩ := identifier?_eq_some_iff.1 h₄
    refine ⟨⟨keyword, star, s, separator, i⟩, ⟨hkeyword, hstar, hs, hseparator, hi⟩,
      ⟨hstruct, hinterface⟩, ?_, rfl, rfl⟩
    rw [Parts.text_append]
  · rintro ⟨p, hfits, hmax, rfl, hs, hi⟩
    -- Each part is read to its end only, since the next one begins with what is not in it.
    have hkeyword := afterKeyword?_eq_some_iff.2
      ⟨p.keyword, hfits.keyword, p.text_append o.rest, hfits.stopsAt_star⟩
    have hstruct := starred?_eq_some_iff.2
      ⟨p.star, hfits.star, rfl, hfits.structName, hmax.structName⟩
    have hseparator := afterSeparator?_eq_some_iff.2
      ⟨p.separator, hfits.separator, rfl, hfits.interfaceName.stopsAt_blank (x := o.rest)⟩
    have hinterface := identifier?_eq_some_iff.2 ⟨hfits.interfaceName, rfl, hmax.interfaceName⟩
    simp only [occurrence?, hkeyword, Option.bind_some, hstruct, hseparator, hinterface,
      Option.map_some]
    rw [← hs, ← hi]

/-- A name may be taken to the end of the word that it begins. -/
theorem IsIdentifier.extend {name : List Char} (h : IsIdentifier name) (after : List Char) :
    IsIdentifier (name ++ after.takeWhile isAsciiWord) := by
  obtain ⟨c, ds, rfl, hc, hds⟩ := h
  refine ⟨c, ds ++ after.takeWhile isAsciiWord, rfl, hc, fun d hd => ?_⟩
  rcases List.mem_append.1 hd with hd | hd
  · exact hds d hd
  · exact List.all_eq_true.1 List.all_takeWhile d hd

/--
There is no second way to read a directive: every reading has the name of the struct that is read,
and a beginning of the name of the interface.
-/
theorem Parts.Fits.exists_occurrence? (h : p.Fits before) (after : List Char) :
    ∃ o, occurrence? before (p.text ++ after) = some o ∧ o.structName = p.structName
      ∧ p.interfaceName <+: o.interfaceName ∧ o.rest <:+ after := by
  let q : Parts := { p with interfaceName := p.interfaceName ++ after.takeWhile isAsciiWord }
  refine ⟨⟨q.structName, q.interfaceName, after.dropWhile isAsciiWord⟩, ?_, rfl,
    List.prefix_append _ _, List.dropWhile_suffix isAsciiWord⟩
  refine occurrence?_eq_some_iff.2 ⟨q, ?_, ?_, ?_, rfl, rfl⟩
  · exact { h with interfaceName := h.interfaceName.extend after }
  · exact ⟨h.separator.stopsAt_word, stopsAt_dropWhile isAsciiWord after⟩
  · rw [Parts.text_append, Parts.text_append, List.append_assoc p.interfaceName,
      List.takeWhile_append_dropWhile]

end Occurrences

end Directive
end Conformance
