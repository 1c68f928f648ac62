import Mathlib.Tactic.SplitIfs
import Stepwise.Text.Utf8

/-!
# Text files give back what was written

Every text is read from the bytes it was written as. A character takes one byte to four, of which
the first tells how many follow and what the second may be. The bounds on the second byte rule out
what no character is written as, namely longer spellings, surrogates and values beyond the last
code point. Line ends are left alone when there is no carriage return.
-/

namespace Stepwise

namespace Utf8

/-- Bytes that may follow a leading byte: the first lies within its bounds and each of them carries
six bits. -/
def Continues (low high : Nat) : List UInt8 → Prop
  | [] => True
  | b :: rest => (low ≤ b.toNat ∧ b.toNat ≤ high) ∧ Continues 0x80 0xbf rest

/-- As many bytes are taken as are wanted, when they may follow. -/
theorem continuation_append {low high : Nat} {tail : List UInt8}
    (continues : Continues low high tail) (rest : List UInt8) :
    continuation low high tail.length (tail ++ rest) = tail := by
  induction tail generalizing low high with
  | nil => cases rest <;> rfl
  | cons b tail inductionHypothesis =>
    obtain ⟨bounds, later⟩ := continues
    rw [List.cons_append, continuation, List.length_cons, if_neg (Nat.succ_ne_zero _),
      if_pos bounds, Nat.add_sub_cancel, inductionHypothesis later]

/-- A leading byte and the bytes after it that are one character together. -/
structure Spells (lead : UInt8) (tail : List UInt8) (c : Char) : Prop where
  shaped : ∃ low high,
    shape? lead.toNat = some (low, high, tail.length) ∧ Continues low high tail
  point : codePoint lead.toNat tail = c.toNat

theorem shape?_of_single {lead : Nat} (single : lead < 0x80) : shape? lead = none := by
  unfold shape?
  split_ifs <;> first | omega | rfl

theorem Spells.decodeFrom {lead : UInt8} {tail : List UInt8} {c : Char} (spells : Spells lead tail c)
    (fuel position : Nat) (rest : List UInt8) :
    decodeFrom (fuel + 1) position (lead :: (tail ++ rest)) =
      (decodeFrom fuel (position + 1 + tail.length) rest).map (c :: ·) := by
  obtain ⟨⟨low, high, shaped, continues⟩, point⟩ := spells
  have several : ¬ lead.toNat < 0x80 := by
    intro single
    rw [shape?_of_single single] at shaped
    cases shaped
  rw [Utf8.decodeFrom, if_neg several, shaped]
  dsimp only
  rw [continuation_append continues, if_pos rfl, List.drop_left, point, Char.ofNat_toNat]

/-! ## The bytes of one character -/

section Character

variable {c : Char}

theorem toNat_byte {n : Nat} (small : n < 256) : (UInt8.ofNat n).toNat = n := by
  rw [UInt8.toNat_ofNat', Nat.mod_eq_of_lt small]

/-- A byte that carries six bits of a code point. -/
def carried (n shift : Nat) : UInt8 := UInt8.ofNat (0x80 + n / Nat.pow 2 shift % 64)

theorem toNat_carried (n shift : Nat) : (carried n shift).toNat = 0x80 + n / Nat.pow 2 shift % 64 :=
  toNat_byte (by have bound := Nat.mod_lt (n / Nat.pow 2 shift) (by decide : 64 > 0); omega)

theorem toNat_carried_zero (n : Nat) : (carried n 0).toNat = 0x80 + n % 64 := by
  rw [toNat_carried, show Nat.pow 2 0 = 1 from rfl, Nat.div_one]

theorem spells_two (least : 0x80 ≤ c.toNat) (most : c.toNat < 0x800) :
    Spells (UInt8.ofNat (0xc0 + c.toNat / 64)) [carried c.toNat 0] c := by
  have lead := @toNat_byte (0xc0 + c.toNat / 64) (by omega)
  have second := toNat_carried_zero c.toNat
  refine ⟨⟨0x80, 0xbf, ?_, ?_⟩, ?_⟩
  · rw [lead, shape?, if_pos (by omega)]
    rfl
  · simp only [Continues, second, and_true]
    omega
  · simp only [codePoint, lead, second, List.length_singleton, List.foldl_cons, List.foldl_nil]
    rw [if_pos trivial]
    omega

/-- The least lead wants a second byte that no shorter spelling has, and one lead wants a second
byte that no surrogate has. -/
theorem spells_three (least : 0x800 ≤ c.toNat) (most : c.toNat < 0x10000) :
    Spells (UInt8.ofNat (0xe0 + c.toNat / 4096)) [carried c.toNat 6, carried c.toNat 0] c := by
  have lead := @toNat_byte (0xe0 + c.toNat / 4096) (by omega)
  have second : (carried c.toNat 6).toNat = 0x80 + c.toNat / 64 % 64 := toNat_carried c.toNat 6
  have third := toNat_carried_zero c.toNat
  have scalar : c.toNat < 0xd800 ∨ 0xdfff < c.toNat ∧ c.toNat < 0x110000 := c.valid
  constructor
  · unfold shape?
    rw [lead]
    split_ifs
    all_goals first
      | omega
      | refine ⟨_, _, rfl, ?_⟩
        simp only [Continues, second, third, and_true]
        omega
  · simp only [codePoint, lead, second, third, List.length_cons, List.length_nil, List.foldl_cons,
      List.foldl_nil]
    rw [if_neg (by decide), if_pos trivial]
    omega

/-- The least lead wants a second byte that no shorter spelling has, and the greatest one that no
value beyond the last code point has. -/
theorem spells_four (least : 0x10000 ≤ c.toNat) :
    Spells (UInt8.ofNat (0xf0 + c.toNat / 262144))
      [carried c.toNat 12, carried c.toNat 6, carried c.toNat 0] c := by
  have scalar : c.toNat < 0xd800 ∨ 0xdfff < c.toNat ∧ c.toNat < 0x110000 := c.valid
  have lead := @toNat_byte (0xf0 + c.toNat / 262144) (by omega)
  have second : (carried c.toNat 12).toNat = 0x80 + c.toNat / 4096 % 64 :=
    toNat_carried c.toNat 12
  have third : (carried c.toNat 6).toNat = 0x80 + c.toNat / 64 % 64 := toNat_carried c.toNat 6
  have fourth := toNat_carried_zero c.toNat
  constructor
  · unfold shape?
    rw [lead]
    split_ifs
    all_goals first
      | omega
      | refine ⟨_, _, rfl, ?_⟩
        simp only [Continues, second, third, fourth, and_true]
        omega
  · simp only [codePoint, lead, second, third, fourth, List.length_cons, List.length_nil,
      List.foldl_cons, List.foldl_nil]
    rw [if_neg (by decide), if_neg (by decide)]
    omega

/-- The bytes of a character are read as that character, whatever comes after them. -/
theorem decodeFrom_encodeChar (c : Char) (fuel position : Nat) (rest : List UInt8) :
    decodeFrom (fuel + 1) position (encodeChar c ++ rest) =
      (decodeFrom fuel (position + (encodeChar c).length) rest).map (c :: ·) := by
  unfold encodeChar
  dsimp only
  split_ifs with one two three
  · rw [List.singleton_append, decodeFrom, toNat_byte (by omega), if_pos one, Char.ofNat_toNat]
    rfl
  · exact (spells_two (by omega) two).decodeFrom fuel position rest
  · exact (spells_three (by omega) three).decodeFrom fuel position rest
  · exact (spells_four (by omega)).decodeFrom fuel position rest

theorem length_encodeChar_pos (c : Char) : 0 < (encodeChar c).length := by
  unfold encodeChar
  dsimp only
  split_ifs <;> simp

end Character

/-! ## Whole texts -/

theorem decodeFrom_encode_of_le {text : List Char} {fuel : Nat} (enough : text.length ≤ fuel)
    (position : Nat) : decodeFrom fuel position (encode text) = .ok text := by
  induction text generalizing fuel position with
  | nil => cases fuel <;> rfl
  | cons c rest inductionHypothesis =>
    cases fuel with
    | zero => simp at enough
    | succ fuel =>
      rw [encode, List.flatMap_cons, decodeFrom_encodeChar]
      rw [← encode, inductionHypothesis (Nat.le_of_succ_le_succ enough)]
      rfl

theorem length_le_length_encode (text : List Char) : text.length ≤ (encode text).length := by
  induction text with
  | nil => exact Nat.le_refl 0
  | cons c rest inductionHypothesis =>
    have some := length_encodeChar_pos c
    rw [encode, List.flatMap_cons, ← encode, List.length_append, List.length_cons]
    omega

/-- Every text is read from its bytes. -/
theorem decode_encode (text : List Char) : decode (encode text) = .ok text :=
  decodeFrom_encode_of_le (length_le_length_encode text) 0

end Utf8

/-- Without a carriage return there is no line end to make uniform. -/
theorem Text.uniformLines_of_not_mem {text : List Char} (absent : '\r' ∉ text) :
    uniformLines text = text := by
  induction text with
  | nil => rfl
  | cons c rest inductionHypothesis =>
    obtain ⟨other, later⟩ := not_or.mp (mt List.mem_cons.mpr absent)
    rw [uniformLines.eq_4, inductionHypothesis later]
    · exact fun _ same _ => other same.symm
    · exact fun same => other same.symm

end Stepwise
