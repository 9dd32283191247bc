import Conformance.Proofs.Json.Numbers

/-!
# Values in a JSON text

What is written of a value is read as that value, in the compact form and in the pretty one.

**Texts of a value.**  `ReadsAs cs j` says that the characters `cs` are read as `j`, before anything
that could not be a part of a number, and with fuel for as many characters as there are.
`ReadsItems` and `ReadsMembers` say the like of what stands after an item or a member, to the end of
the array or the object.  There is a rule for each form of the grammar, and blanks may stand before
a value, a name and the end.

**Values of the format.**  A value is `Proper` if its numbers are of double precision and no object
has two members of one name.  Both forms of such a value follow the rules, by induction on it.

**Results.**
* `parse?_compact`, `parse?_pretty`: a text that was written is read as what it was written from.
-/

namespace Conformance
namespace Json

section Strings

theorem hexValue?_digitChar : ∀ n < 16, hexValue? (Nat.digitChar n) = some n := by
  decide

theorem escape?_control {c : Char} (hc : c.toNat < 0x20) (rest : List Char) :
    escape? ((controlEscape c).tail ++ rest) = some (c, rest) := by
  have hhigh := hexValue?_digitChar (c.toNat / 16) (by omega)
  have hlow := hexValue?_digitChar (c.toNat % 16) (by omega)
  have hzero : hexValue? '0' = some 0 := rfl
  have hcode : c.toNat / 16 * 16 + c.toNat % 16 = c.toNat := by omega
  have h1 : ¬ 0xD800 ≤ c.toNat := by omega
  have h2 : ¬ 0xDC00 ≤ c.toNat := by omega
  simp [controlEscape, escape?, hex4?, hhigh, hlow, hzero, hcode, surrogate, h1, h2]

theorem escapeChar_cases (c : Char) :
    (∃ cs, escapeChar c = '\\' :: cs ∧ ∀ rest, escape? (cs ++ rest) = some (c, rest)) ∨
    (escapeChar c = [c] ∧ c ≠ '"' ∧ c ≠ '\\' ∧ ¬ c.toNat < 0x20) := by
  have hcode : ∀ n, c.toNat = n → c = Char.ofNat n := by
    rintro n rfl
    exact (Char.ofNat_toNat c).symm
  unfold escapeChar
  split
  next h => exact .inl ⟨_, rfl, fun rest => by rw [eq_of_beq h]; rfl⟩
  split
  next h => exact .inl ⟨_, rfl, fun rest => by rw [eq_of_beq h]; rfl⟩
  split
  next h => exact .inl ⟨_, rfl, fun rest => by rw [eq_of_beq h]; rfl⟩
  split
  next h => exact .inl ⟨_, rfl, fun rest => by rw [eq_of_beq h]; rfl⟩
  split
  next h => exact .inl ⟨_, rfl, fun rest => by rw [eq_of_beq h]; rfl⟩
  split
  next h => exact .inl ⟨_, rfl, fun rest => by rw [hcode _ (eq_of_beq h)]; rfl⟩
  split
  next h => exact .inl ⟨_, rfl, fun rest => by rw [hcode _ (eq_of_beq h)]; rfl⟩
  split
  next hcontrol => exact .inl ⟨_, rfl, fun rest => escape?_control hcontrol rest⟩
  next hquote hback _ _ _ _ _ hcontrol =>
    exact .inr ⟨rfl, by simpa using hquote, by simpa using hback, hcontrol⟩

/-- A character is read from its escape. -/
theorem parseString_escapeChar (c : Char) (fuel : Nat) (rest : List Char) :
    parseString (fuel + 1) (escapeChar c ++ rest) =
      (parseString fuel rest).map fun (s, after) => (c :: s, after) := by
  rcases escapeChar_cases c with ⟨cs, htext, hread⟩ | ⟨htext, hquote, hback, hcontrol⟩
  · simp [htext, parseString, hread]
  · simp [htext, parseString, hquote, hback, hcontrol]

theorem escapeChar_ne_nil (c : Char) : escapeChar c ≠ [] := by
  rcases escapeChar_cases c with ⟨cs, htext, -⟩ | ⟨htext, -⟩ <;> simp [htext]

theorem length_le_escaped (cs : List Char) : cs.length ≤ (cs.flatMap escapeChar).length := by
  induction cs with
  | nil => exact Nat.le_refl 0
  | cons c cs ih =>
      have hpos : 0 < (escapeChar c).length := List.length_pos_iff.2 (escapeChar_ne_nil c)
      rw [List.flatMap_cons, List.length_append, List.length_cons]
      omega

theorem parseString_escaped {cs rest : List Char} {fuel : Nat} (hfuel : cs.length < fuel) :
    parseString fuel (cs.flatMap escapeChar ++ '"' :: rest) = some (cs, rest) := by
  induction cs generalizing fuel with
  | nil =>
      obtain ⟨fuel, rfl⟩ := Nat.exists_eq_succ_of_ne_zero (Nat.ne_of_gt hfuel)
      rfl
  | cons c cs ih =>
      rw [List.length_cons] at hfuel
      obtain ⟨fuel, rfl⟩ := Nat.exists_eq_succ_of_ne_zero (Nat.ne_of_gt (Nat.zero_lt_of_lt hfuel))
      rw [List.flatMap_cons, List.append_assoc, parseString_escapeChar, ih (by omega)]
      rfl

theorem stringText_append (s : String) (rest : List Char) :
    stringText s ++ rest = '"' :: (s.toList.flatMap escapeChar ++ '"' :: rest) := by
  simp [stringText]

theorem parseString_stringText (s : String) {rest : List Char} {fuel : Nat}
    (hfuel : (stringText s).length ≤ fuel + 1) :
    parseString fuel (s.toList.flatMap escapeChar ++ '"' :: rest) = some (s.toList, rest) := by
  have hlength := length_le_escaped s.toList
  refine parseString_escaped ?_
  simp only [stringText, List.length_append, List.length_cons, List.length_nil] at hfuel
  omega

end Strings

section Blanks

variable {bs cs rest : List Char}

theorem skipBlanks_blanks (hbs : ∀ c ∈ bs, isBlank c = true) (rest : List Char) :
    skipBlanks (bs ++ rest) = skipBlanks rest :=
  List.dropWhile_append_of_pos hbs

theorem skipBlanks_cons {c : Char} (hc : isBlank c = false) (rest : List Char) :
    skipBlanks (c :: rest) = c :: rest := by
  simp [skipBlanks, hc]

theorem numberEnds_cons {c : Char} (h : c.isDigit = false ∧ c ≠ '.' ∧ c ≠ 'e' ∧ c ≠ 'E') :
    NumberEnds (c :: rest) := by
  rintro c' ⟨⟩
  exact h

theorem numberEnds_of_isBlank {c : Char} (hc : isBlank c = true) : NumberEnds (c :: rest) := by
  refine numberEnds_cons ?_
  simp only [isBlank, Bool.or_eq_true, beq_iff_eq] at hc
  rcases hc with ((rfl | rfl) | rfl) | rfl <;> decide

theorem numberEnds_blanks (hbs : ∀ c ∈ bs, isBlank c = true) (h : NumberEnds rest) :
    NumberEnds (bs ++ rest) := by
  cases bs with
  | nil => exact h
  | cons c bs => exact numberEnds_of_isBlank (hbs c List.mem_cons_self)

theorem parseValue_blanks (hbs : ∀ c ∈ bs, isBlank c = true) (fuel : Nat) (rest : List Char) :
    parseValue fuel (bs ++ rest) = parseValue fuel rest := by
  cases fuel with
  | zero => rfl
  | succ fuel => rw [parseValue, parseValue, skipBlanks_blanks hbs]

end Blanks

section Scalars

/-- The characters are read as the value, wherever they stand. -/
def ReadsAs (cs : List Char) (j : Json) : Prop :=
  ∀ fuel rest, cs.length ≤ fuel → NumberEnds rest → parseValue fuel (cs ++ rest) = some (j, rest)

theorem ReadsAs.blanks {bs cs : List Char} {j : Json} (h : ReadsAs cs j)
    (hbs : ∀ c ∈ bs, isBlank c = true) : ReadsAs (bs ++ cs) j := by
  intro fuel rest hfuel hrest
  rw [List.length_append] at hfuel
  rw [List.append_assoc, parseValue_blanks hbs]
  exact h fuel rest (by omega) hrest

theorem readsAs_of_succ {cs : List Char} {j : Json} (hne : cs ≠ [])
    (h : ∀ fuel rest, cs.length ≤ fuel + 1 → NumberEnds rest →
      parseValue (fuel + 1) (cs ++ rest) = some (j, rest)) : ReadsAs cs j := by
  intro fuel rest hfuel hrest
  cases fuel with
  | zero => exact absurd (List.length_eq_zero_iff.1 (Nat.le_zero.1 hfuel)) hne
  | succ fuel => exact h fuel rest hfuel hrest

theorem readsAs_null : ReadsAs "null".toList .null :=
  readsAs_of_succ (by decide) fun _ _ _ _ => rfl

theorem readsAs_bool (b : Bool) : ReadsAs (if b then "true" else "false").toList (.bool b) := by
  cases b <;> exact readsAs_of_succ (by decide) fun _ _ _ _ => rfl

theorem parseValue_eq_scalar? {c : Char} (hblank : isBlank c = false) (hc : c ∉ ['"', '[', '{'])
    (fuel : Nat) (cs : List Char) : parseValue (fuel + 1) (c :: cs) = scalar? (c :: cs) := by
  rw [parseValue, skipBlanks_cons hblank]
  split <;> simp_all

theorem scalar?_eq_number? {c : Char} (hc : c ∉ ['n', 't', 'f', 'N', 'I']) (cs : List Char) :
    scalar? (c :: cs) = number? (c :: cs) := by
  unfold scalar?
  split <;> simp_all

/-- What is read as a number is read as a value. -/
theorem readsAs_number {cs : List Char} {j : Json}
    (h : ∀ rest, NumberEnds rest → number? (cs ++ rest) = some (j, rest)) : ReadsAs cs j := by
  obtain ⟨c, hhead, hc⟩ := head?_of_number? (h [] (by rintro c ⟨⟩))
  rw [List.append_nil] at hhead
  obtain ⟨cs, rfl⟩ := List.head?_eq_some_iff.1 hhead
  have hne : ∀ c', c' ≠ '-' → c'.isDigit = false → c ≠ c' := by
    rintro c' hsign hdigit rfl
    simp [hsign, hdigit] at hc
  refine readsAs_of_succ (List.cons_ne_nil c cs) fun fuel rest _ hrest => ?_
  rw [List.cons_append, parseValue_eq_scalar?, scalar?_eq_number?]
  · exact h rest hrest
  · simp [hne]
  · simp [isBlank, hne]
  · simp [hne]

theorem readsAs_int (n : Int) : ReadsAs (toString n).toList (.int n) :=
  readsAs_number fun _ hrest => number?_int n hrest

theorem readsAs_real {x : Double} (hx : x.Fits) : ReadsAs (realText x) (.real x) := by
  cases x with
  | finite s m =>
      refine readsAs_number fun rest hrest => ?_
      have hread := number?_text { Double.shortest m with negative := s } hrest
      rw [Double.ofDecimal_shortest hx] at hread
      exact hread
  | infinite s => cases s <;> exact readsAs_of_succ (by decide) fun _ _ _ _ => rfl
  | nan => exact readsAs_of_succ (by decide) fun _ _ _ _ => rfl

theorem readsAs_str (s : String) : ReadsAs (stringText s) (.str s) := by
  refine readsAs_of_succ (by simp [stringText]) fun fuel rest hfuel _ => ?_
  rw [stringText_append, parseValue, skipBlanks_cons rfl]
  simp [parseString_stringText s hfuel]

end Scalars

section Arrays

variable {bs cs ds : List Char} {item : Json} {items : List Json}

/-- What stands after an item of an array is read as the items that follow it. -/
structure ReadsItems (ds : List Char) (items : List Json) : Prop where
  ends : ∀ rest, NumberEnds (ds ++ rest)
  parse : ∀ fuel cs item rest, ReadsAs cs item → cs.length + ds.length ≤ fuel →
    parseItems fuel (cs ++ (ds ++ rest)) = some (item :: items, rest)

theorem readsItems_close (hbs : ∀ c ∈ bs, isBlank c = true) : ReadsItems (bs ++ [']']) [] := by
  refine ⟨?_, ?_⟩
  · intro rest
    rw [List.append_assoc]
    exact numberEnds_blanks hbs (numberEnds_cons (by decide))
  · intro fuel cs item rest hcs hfuel
    simp only [List.length_append, List.length_singleton] at hfuel
    obtain ⟨fuel, rfl⟩ := Nat.exists_eq_succ_of_ne_zero (n := fuel) (by omega)
    have hends : NumberEnds (bs ++ ']' :: rest) :=
      numberEnds_blanks hbs (numberEnds_cons (by decide))
    rw [parseItems, List.append_assoc, List.singleton_append, hcs fuel _ (by omega) hends]
    simp only [skipBlanks_blanks hbs]
    rfl

theorem ReadsItems.more (hcs : ReadsAs cs item) (hds : ReadsItems ds items) :
    ReadsItems (',' :: (cs ++ ds)) (item :: items) := by
  refine ⟨fun _ => numberEnds_cons (by decide), ?_⟩
  intro fuel first item' rest hfirst hfuel
  simp only [List.length_append, List.length_cons] at hfuel
  obtain ⟨fuel, rfl⟩ := Nat.exists_eq_succ_of_ne_zero (n := fuel) (by omega)
  have hends : NumberEnds (',' :: (cs ++ ds) ++ rest) := numberEnds_cons (by decide)
  rw [parseItems, hfirst fuel _ (by omega) hends]
  simp only [List.cons_append, List.append_assoc, skipBlanks_cons (c := ',') rfl]
  rw [hds.parse fuel cs item rest hcs (by omega)]
  rfl

theorem readsAs_nil : ReadsAs ['[', ']'] (.arr []) :=
  readsAs_of_succ (by decide) fun _ _ _ _ => rfl

/-- The end of an array is no item. -/
theorem parseValue_eq_none {rest : List Char} (h : skipBlanks cs = ']' :: rest) (fuel : Nat) :
    parseValue fuel cs = none := by
  cases fuel with
  | zero => rfl
  | succ fuel =>
      rw [parseValue, h]
      rfl

theorem parseItems_eq_none {rest : List Char} (h : skipBlanks cs = ']' :: rest) (fuel : Nat) :
    parseItems fuel cs = none := by
  cases fuel with
  | zero => rfl
  | succ fuel => rw [parseItems, parseValue_eq_none h]

/-- An array is its opening, the first item and what stands after it. -/
theorem readsAs_arr (hcs : ReadsAs cs item) (hds : ReadsItems ds items) :
    ReadsAs ('[' :: (cs ++ ds)) (.arr (item :: items)) := by
  refine readsAs_of_succ (List.cons_ne_nil _ _) fun fuel rest hfuel _ => ?_
  simp only [List.length_append, List.length_cons] at hfuel
  have hitems := hds.parse fuel cs item rest hcs (by omega)
  rw [List.cons_append, List.append_assoc, parseValue, skipBlanks_cons rfl]
  simp only
  split
  next after hclose =>
    rw [parseItems_eq_none hclose] at hitems
    cases hitems
  next =>
    rw [hitems]
    rfl

end Arrays

section Objects

variable {bs cs ds : List Char} {name : String} {value : Json} {members : List (String × Json)}

/-- A member: blanks, its name and its value. -/
inductive ReadsMember : List Char → String → Json → Prop
  | mk {bs vs : List Char} {name : String} {value : Json} (hbs : ∀ c ∈ bs, isBlank c = true)
      (hvs : ReadsAs vs value) : ReadsMember (bs ++ (stringText name ++ ':' :: vs)) name value

/-- What stands after a member of an object is read as the members that follow it. -/
structure ReadsMembers (ds : List Char) (members : List (String × Json)) : Prop where
  ends : ∀ rest, NumberEnds (ds ++ rest)
  parse : ∀ fuel before cs name value rest, ReadsMember cs name value →
    cs.length + ds.length ≤ fuel → (memberNames (before ++ (name, value) :: members)).Nodup →
    parseMembers fuel before (cs ++ (ds ++ rest)) =
      some (before ++ (name, value) :: members, rest)

theorem not_mem_of_nodup {before : List (String × Json)}
    (h : (memberNames (before ++ (name, value) :: members)).Nodup) : name ∉ memberNames before := by
  rw [memberNames, List.map_append, List.nodup_append] at h
  exact fun hmem => h.2.2 name hmem name List.mem_cons_self rfl

/-- What is read after a member: the end of the object, or the members that follow. -/
def afterMember (fuel : Nat) (members : List (String × Json)) (rest : List Char) :
    Option (List (String × Json) × List Char) :=
  match skipBlanks rest with
  | '}' :: after => some (members, after)
  | ',' :: after => parseMembers fuel members after
  | _ => none

/-- A member with a new name comes after those before. -/
theorem parseMembers_member {before : List (String × Json)} {fuel : Nat} {rest : List Char}
    (h : ReadsMember cs name value) (hfuel : cs.length ≤ fuel) (hrest : NumberEnds rest)
    (hname : name ∉ memberNames before) :
    parseMembers (fuel + 1) before (cs ++ rest) =
      afterMember fuel (before ++ [(name, value)]) rest := by
  obtain ⟨hbs, hvs⟩ := h
  simp only [List.length_append, List.length_cons] at hfuel
  rw [parseMembers, List.append_assoc, skipBlanks_blanks hbs, List.append_assoc, stringText_append,
    skipBlanks_cons rfl]
  simp only [parseString_stringText name (Nat.le_trans (by omega) (Nat.le_succ fuel)),
    List.cons_append, skipBlanks_cons (c := ':') rfl, hvs fuel rest (by omega) hrest,
    String.ofList_toList, OrderedMap.insertEntry_of_not_mem hname]
  rfl

theorem readsMembers_close (hbs : ∀ c ∈ bs, isBlank c = true) : ReadsMembers (bs ++ ['}']) [] := by
  refine ⟨?_, ?_⟩
  · intro rest
    rw [List.append_assoc]
    exact numberEnds_blanks hbs (numberEnds_cons (by decide))
  · intro fuel before cs name value rest hcs hfuel hnames
    simp only [List.length_append, List.length_singleton] at hfuel
    obtain ⟨fuel, rfl⟩ := Nat.exists_eq_succ_of_ne_zero (n := fuel) (by omega)
    have hends : NumberEnds (bs ++ '}' :: rest) :=
      numberEnds_blanks hbs (numberEnds_cons (by decide))
    rw [List.append_assoc, List.singleton_append,
      parseMembers_member hcs (by omega) hends (not_mem_of_nodup hnames), afterMember,
      skipBlanks_blanks hbs]
    rfl

theorem ReadsMembers.more (hcs : ReadsMember cs name value) (hds : ReadsMembers ds members) :
    ReadsMembers (',' :: (cs ++ ds)) ((name, value) :: members) := by
  refine ⟨fun _ => numberEnds_cons (by decide), ?_⟩
  intro fuel before first name' value' rest hfirst hfuel hnames
  simp only [List.length_append, List.length_cons] at hfuel
  obtain ⟨fuel, rfl⟩ := Nat.exists_eq_succ_of_ne_zero (n := fuel) (by omega)
  have hends : NumberEnds (',' :: (cs ++ ds) ++ rest) := numberEnds_cons (by decide)
  rw [parseMembers_member hfirst (by omega) hends (not_mem_of_nodup hnames), afterMember]
  have hbefore : before ++ (name', value') :: (name, value) :: members =
      before ++ [(name', value')] ++ (name, value) :: members := List.append_cons ..
  rw [hbefore] at hnames ⊢
  simp only [List.cons_append, List.append_assoc cs, skipBlanks_cons (c := ',') rfl]
  exact hds.parse fuel _ cs name value rest hcs (by omega) hnames

theorem readsAs_empty : ReadsAs ['{', '}'] (.obj []) :=
  readsAs_of_succ (by decide) fun _ _ _ _ => rfl

/-- The end of an object is no member. -/
theorem parseMembers_eq_none {rest : List Char} (h : skipBlanks cs = '}' :: rest) (fuel : Nat)
    (before : List (String × Json)) : parseMembers fuel before cs = none := by
  cases fuel with
  | zero => rfl
  | succ fuel =>
      rw [parseMembers, h]
      rfl

/-- An object is its opening, the first member and what stands after it. -/
theorem readsAs_obj (hcs : ReadsMember cs name value) (hds : ReadsMembers ds members)
    (hnames : (memberNames ((name, value) :: members)).Nodup) :
    ReadsAs ('{' :: (cs ++ ds)) (.obj ((name, value) :: members)) := by
  refine readsAs_of_succ (List.cons_ne_nil _ _) fun fuel rest hfuel _ => ?_
  simp only [List.length_append, List.length_cons] at hfuel
  have hmembers := hds.parse fuel [] cs name value rest hcs (by omega) hnames
  rw [List.cons_append, List.append_assoc, parseValue, skipBlanks_cons rfl]
  simp only
  split
  next after hclose =>
    rw [parseMembers_eq_none hclose] at hmembers
    cases hmembers
  next =>
    rw [hmembers]
    rfl

end Objects

section Forms

/-- Numbers are of double precision, and no object has two members of one name. -/
inductive Proper : Json → Prop
  | null : Proper .null
  | bool (b : Bool) : Proper (.bool b)
  | int (n : Int) : Proper (.int n)
  | real {x : Double} (hx : x.Fits) : Proper (.real x)
  | str (s : String) : Proper (.str s)
  | arr {items : List Json} (hitems : ∀ j ∈ items, Proper j) : Proper (.arr items)
  | obj {members : List (String × Json)} (hnames : (memberNames members).Nodup)
      (hmembers : ∀ m ∈ members, Proper m.2) : Proper (.obj members)

theorem isBlank_lineBreak (level : Nat) : ∀ c ∈ lineBreak level, isBlank c = true := by
  intro c hc
  rcases List.mem_cons.1 hc with rfl | hc
  · rfl
  · rw [(List.mem_replicate.1 hc).2]
    rfl

theorem isBlank_nil : ∀ c ∈ ([] : List Char), isBlank c = true :=
  List.forall_mem_nil _

theorem readsItems_compact {items : List Json} (h : ∀ j ∈ items, ReadsAs (compactText j) j) :
    ReadsItems (compactItems items) items := by
  induction items with
  | nil => exact readsItems_close isBlank_nil
  | cons item items ih =>
      obtain ⟨hitem, hitems⟩ := List.forall_mem_cons.1 h
      exact (ih hitems).more hitem

theorem readsMembers_compact {members : List (String × Json)}
    (h : ∀ m ∈ members, ReadsAs (compactText m.2) m.2) :
    ReadsMembers (compactMembers members) members := by
  induction members with
  | nil => exact readsMembers_close isBlank_nil
  | cons m members ih =>
      obtain ⟨hvalue, hmembers⟩ := List.forall_mem_cons.1 h
      exact (ih hmembers).more (.mk isBlank_nil hvalue)

/-- The compact form of a value follows the grammar; by induction on the value. -/
theorem readsAs_compact {j : Json} (h : Proper j) : ReadsAs (compactText j) j := by
  induction h with
  | null => exact readsAs_null
  | bool b => exact readsAs_bool b
  | int n => exact readsAs_int n
  | real hx => exact readsAs_real hx
  | str s => exact readsAs_str s
  | @arr items _ ih =>
      cases items with
      | nil => exact readsAs_nil
      | cons item items =>
          obtain ⟨hitem, hitems⟩ := List.forall_mem_cons.1 ih
          exact readsAs_arr hitem (readsItems_compact hitems)
  | @obj members hnames _ ih =>
      cases members with
      | nil => exact readsAs_empty
      | cons m members =>
          obtain ⟨hvalue, hmembers⟩ := List.forall_mem_cons.1 ih
          exact readsAs_obj (.mk isBlank_nil hvalue) (readsMembers_compact hmembers) hnames

theorem readsItems_pretty {level : Nat} {items : List Json}
    (h : ∀ j ∈ items, ReadsAs (prettyText (level + 1) j) j) :
    ReadsItems (prettyItems level items) items := by
  induction items with
  | nil => exact readsItems_close (isBlank_lineBreak level)
  | cons item items ih =>
      obtain ⟨hitem, hitems⟩ := List.forall_mem_cons.1 h
      exact (ih hitems).more (hitem.blanks (isBlank_lineBreak (level + 1)))

theorem readsMember_pretty {level : Nat} (name : String) {value : Json}
    (h : ReadsAs (prettyText (level + 1) value) value) :
    ReadsMember (lineBreak (level + 1) ++
      (stringText name ++ ':' :: ' ' :: prettyText (level + 1) value)) name value := by
  have hblank : ∀ c ∈ [' '], isBlank c = true := List.forall_mem_singleton.2 rfl
  exact .mk (isBlank_lineBreak (level + 1)) (h.blanks hblank)

theorem readsMembers_pretty {level : Nat} {members : List (String × Json)}
    (h : ∀ m ∈ members, ReadsAs (prettyText (level + 1) m.2) m.2) :
    ReadsMembers (prettyMembers level members) members := by
  induction members with
  | nil => exact readsMembers_close (isBlank_lineBreak level)
  | cons m members ih =>
      obtain ⟨hvalue, hmembers⟩ := List.forall_mem_cons.1 h
      have hmore := (ih hmembers).more (readsMember_pretty m.1 hvalue)
      simpa [prettyMembers] using hmore

/-- The pretty form of a value follows the grammar, at every level. -/
theorem readsAs_pretty {j : Json} (h : Proper j) (level : Nat) :
    ReadsAs (prettyText level j) j := by
  induction h generalizing level with
  | null => exact readsAs_null
  | bool b => exact readsAs_bool b
  | int n => exact readsAs_int n
  | real hx => exact readsAs_real hx
  | str s => exact readsAs_str s
  | @arr items _ ih =>
      cases items with
      | nil => exact readsAs_nil
      | cons item items =>
          obtain ⟨hitem, hitems⟩ := List.forall_mem_cons.1 fun j hj => ih j hj (level + 1)
          exact readsAs_arr (hitem.blanks (isBlank_lineBreak (level + 1)))
            (readsItems_pretty hitems)
  | @obj members hnames _ ih =>
      cases members with
      | nil => exact readsAs_empty
      | cons m members =>
          obtain ⟨hvalue, hmembers⟩ := List.forall_mem_cons.1 fun m hm => ih m hm (level + 1)
          have hobj := readsAs_obj (readsMember_pretty m.1 hvalue)
            (readsMembers_pretty hmembers) hnames
          simpa [prettyText] using hobj

end Forms

section Texts

/-- A text that holds a value and nothing else is read as that value. -/
theorem parse?_of_readsAs {cs : List Char} {j : Json} (h : ReadsAs cs j) :
    parse? (String.ofList cs) = some j := by
  have hread := h (2 * cs.length + 2) [] (by omega) (by rintro c ⟨⟩)
  rw [List.append_nil] at hread
  simp [parse?, hread, skipBlanks]

theorem parse?_compact {j : Json} (h : Proper j) : parse? j.compact = some j :=
  parse?_of_readsAs (readsAs_compact h)

theorem parse?_pretty {j : Json} (h : Proper j) : parse? j.pretty = some j :=
  parse?_of_readsAs (readsAs_pretty h 0)

end Texts

end Json
end Conformance
