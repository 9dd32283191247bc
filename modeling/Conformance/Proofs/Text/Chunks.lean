import Conformance.Text.Utf8

/-!
# Text in chunks

A text that is cut into chunks, within its characters or between them, is read as if it came in one
piece.  Only where the bytes are no text does it show how they were cut.

**Cuts.**  Reading one character from the first bytes of a text comes out as it does on the whole
text, unless these bytes end within the character (`settles_step`).  In that case they are kept, and
the reading goes on with them in front of the next chunk.

**Results.**
* `spells_iff`: a strict reading succeeds exactly on the bytes that spell a text;
* `decodeStrictFrom_of_spells_append`: what a strict reading makes of the beginning of a text;
* `decodeChunks_of_spells`, `decodeChunks_chunks`: a text in chunks is read whole.
-/

namespace Conformance
namespace Utf8

section Steps

/-- What is read from the first bytes of a text stays what it is when more of them come, unless
these bytes end too early. -/
def Settles (used : Nat) (read : List UInt8 → Step) : Prop :=
  ∀ rest more : List UInt8,
    (read (rest ++ more) = read rest ∧
      ∀ c size, read rest = .char c size → size ≤ rest.length + used)
    ∨
    read rest = .fault .unexpectedEnd (rest.length + used)

theorem settles_char (c : Char) (used : Nat) : Settles used fun _ => .char c used := by
  intro rest more
  refine .inl ⟨rfl, ?_⟩
  rintro c' size ⟨⟩
  exact Nat.le_add_left used rest.length

theorem settles_fault (cause : Cause) (used size : Nat) :
    Settles used fun _ => .fault cause size := by
  intro rest more
  refine .inl ⟨rfl, ?_⟩
  rintro c size ⟨⟩

theorem Settles.ite {used : Nat} {p : Prop} [Decidable p] {read read' : List UInt8 → Step}
    (h : Settles used read) (h' : Settles used read') :
    Settles used fun rest => if p then read rest else read' rest := by
  by_cases hp : p
  · simp only [if_pos hp]
    exact h
  · simp only [if_neg hp]
    exact h'

theorem settles_continueChar (count : Nat) (lo hi : UInt8) (acc used : Nat) :
    Settles used (continueChar count lo hi acc used) := by
  induction count generalizing lo hi acc used with
  | zero => exact settles_char (Char.ofNat acc) used
  | succ count ih =>
      intro rest more
      cases rest with
      | nil => exact .inr (by rw [List.length_nil, Nat.zero_add, continueChar])
      | cons b rest =>
          simp only [List.cons_append, continueChar]
          cases continuation? lo hi b with
          | none => exact .inl ⟨rfl, by rintro c size ⟨⟩⟩
          | some bits =>
              rw [List.length_cons, Nat.add_assoc, Nat.add_comm 1 used]
              exact ih 0x80 0xBF (acc * 64 + bits) (used + 1) rest more

/-- The first character does not depend on what comes after it, unless the bytes end within it. -/
theorem settles_step (b : UInt8) : Settles 1 (step b) :=
  .ite (settles_char _ 1) <|
  .ite (settles_fault .invalidStart 1 1) <|
  .ite (settles_continueChar 1 _ _ _ 1) <|
  .ite (settles_continueChar 2 _ _ _ 1) <|
  .ite (settles_continueChar 2 _ _ _ 1) <|
  .ite (settles_continueChar 2 _ _ _ 1) <|
  .ite (settles_continueChar 3 _ _ _ 1) <|
  .ite (settles_continueChar 3 _ _ _ 1) <|
  .ite (settles_continueChar 3 _ _ _ 1) <|
  settles_fault .invalidStart 1 1

end Steps

section Texts

variable {bytes more kept : List UInt8} {text : List Char} {b : UInt8} {rest : List UInt8}
  {c : Char} {cause : Cause} {size : Nat}

/-- The bytes are those of a text. -/
inductive Spells : List UInt8 → List Char → Prop
  | nil : Spells [] []
  | cons {b : UInt8} {rest : List UInt8} {c : Char} {size : Nat} {text : List Char}
      (hstep : step b rest = .char c size) (htext : Spells (rest.drop (size - 1)) text) :
      Spells (b :: rest) (c :: text)

theorem spells_cons_of_char (hstep : step b rest = .char c size) (h : Spells (b :: rest) text) :
    ∃ text', text = c :: text' ∧ Spells (rest.drop (size - 1)) text' := by
  cases h with
  | cons hstep' htext =>
      rw [hstep] at hstep'
      cases hstep'
      exact ⟨_, rfl, htext⟩

theorem not_spells_cons_of_fault (hstep : step b rest = .fault cause size) (text : List Char) :
    ¬ Spells (b :: rest) text := by
  intro h
  cases h with
  | cons hstep' htext =>
      rw [hstep] at hstep'
      cases hstep'

theorem decodeStrictFrom_cons_of_char (hstep : step b rest = .char c size) (offset : Nat) :
    decodeStrictFrom offset (b :: rest)
      = (c :: (decodeStrictFrom (offset + size) (rest.drop (size - 1))).1,
          (decodeStrictFrom (offset + size) (rest.drop (size - 1))).2) := by
  rw [decodeStrictFrom, hstep]

theorem decodeStrictFrom_cons_of_fault (hstep : step b rest = .fault cause size) (offset : Nat) :
    decodeStrictFrom offset (b :: rest) = ([], some ⟨cause, offset, (b :: rest).take size⟩) := by
  rw [decodeStrictFrom, hstep]

/-- A strict reading succeeds exactly on the bytes of a text, wherever they begin. -/
theorem spells_iff (offset : Nat) :
    decodeStrictFrom offset bytes = (text, none) ↔ Spells bytes text := by
  induction offset, bytes using decodeStrictFrom.induct generalizing text with
  | case1 offset =>
      rw [decodeStrictFrom]
      constructor
      · rintro ⟨⟩
        exact .nil
      · rintro ⟨⟩
        rfl
  | case2 offset b rest c size hstep tail fault htail ih =>
      rw [decodeStrictFrom_cons_of_char hstep]
      constructor
      · intro h
        obtain ⟨rfl, hnone⟩ := Prod.mk.inj h
        exact .cons hstep (ih.1 (Prod.ext rfl hnone))
      · intro h
        obtain ⟨text, rfl, htext⟩ := spells_cons_of_char hstep h
        rw [ih.2 htext]
  | case3 offset b rest cause size hstep =>
      rw [decodeStrictFrom_cons_of_fault hstep]
      refine iff_of_false ?_ (not_spells_cons_of_fault hstep text)
      rintro ⟨⟩

/--
What a strict reading makes of the beginning of a text: all of it is text, or else it is text up to
some bytes that spell nothing without what comes after them.
-/
theorem decodeStrictFrom_of_spells_append (offset : Nat) (h : Spells (bytes ++ more) text) :
    ∃ before after, text = before ++ after ∧
      ((decodeStrictFrom offset bytes = (before, none) ∧ Spells more after)
      ∨
      ∃ place broken,
        decodeStrictFrom offset bytes = (before, some ⟨.unexpectedEnd, place, broken⟩) ∧
        (∀ text, ¬ Spells broken text) ∧ Spells (broken ++ more) after) := by
  induction offset, bytes using decodeStrictFrom.induct generalizing text with
  | case1 offset => exact ⟨[], text, rfl, .inl ⟨by rw [decodeStrictFrom], h⟩⟩
  | case2 offset b rest c size hstep tail fault htail ih =>
      obtain ⟨hsame, hsize⟩ | hends := settles_step b rest more
      · have hwithin : size - 1 ≤ rest.length := Nat.sub_le_of_le_add (hsize c size hstep)
        rw [List.cons_append] at h
        obtain ⟨text, rfl, htext⟩ := spells_cons_of_char (hsame.trans hstep) h
        rw [List.drop_append_of_le_length hwithin] at htext
        obtain ⟨before, after, rfl, hcases⟩ := ih htext
        refine ⟨c :: before, after, rfl, ?_⟩
        rw [decodeStrictFrom_cons_of_char hstep]
        rcases hcases with ⟨hread, hmore⟩ | ⟨place, broken, hread, hopen, hmore⟩
        · rw [hread]
          exact .inl ⟨rfl, hmore⟩
        · rw [hread]
          exact .inr ⟨place, broken, rfl, hopen, hmore⟩
      · rw [hstep] at hends
        cases hends
  | case3 offset b rest cause size hstep =>
      refine ⟨[], text, rfl, .inr ?_⟩
      obtain ⟨hsame, -⟩ | hends := settles_step b rest more
      · -- A mistake stays one, whatever comes after it.
        exact absurd h (not_spells_cons_of_fault (hsame.trans hstep) text)
      · rw [hstep] at hends
        cases hends
        refine ⟨offset, b :: rest, ?_, not_spells_cons_of_fault hstep, h⟩
        have htake : (b :: rest).take (rest.length + 1) = b :: rest :=
          List.take_of_length_le (Nat.le_refl _)
        rw [decodeStrictFrom_cons_of_fault hstep, htake]

/-- A text in chunks is read whole, if what is kept spells nothing without them. -/
theorem decodeChunks_of_spells {chunks : List (List UInt8)}
    (hkept : ∀ text, Spells kept text → kept = []) (h : Spells (kept ++ chunks.flatten) text) :
    decodeChunks kept chunks = (text, none) := by
  induction chunks generalizing kept text with
  | nil =>
      rw [List.flatten_nil, List.append_nil] at h
      cases hkept text h
      cases h
      rfl
  | cons chunk later ih =>
      rw [List.flatten_cons, ← List.append_assoc] at h
      obtain ⟨before, after, rfl, hcases⟩ := decodeStrictFrom_of_spells_append 0 h
      rw [decodeChunks, decodeStrict]
      rcases hcases with ⟨hread, hmore⟩ | ⟨place, broken, hread, hopen, hmore⟩
      · rw [hread]
        dsimp only
        rw [ih (fun _ _ => rfl) hmore]
      · rw [hread]
        dsimp only
        rw [ih (fun text htext => absurd htext (hopen text)) hmore]

end Texts

section Chunks

theorem flatten_chunks (size : Nat) (bytes : List UInt8) : (chunks size bytes).flatten = bytes := by
  induction bytes using chunks.induct size with
  | case1 => rw [chunks, List.flatten_nil]
  | case2 b rest ih =>
      rw [chunks, List.flatten_cons, ih, List.cons_append, List.take_append_drop]

/-- However a text is cut into chunks, it is read whole. -/
theorem decodeChunks_chunks {bytes : List UInt8} {text : List Char} (size : Nat)
    (h : decodeStrict bytes = (text, none)) :
    decodeChunks [] (chunks size bytes) = (text, none) := by
  refine decodeChunks_of_spells (fun _ _ => rfl) ?_
  rw [List.nil_append, flatten_chunks]
  exact (spells_iff 0).1 h

end Chunks

end Utf8
end Conformance
