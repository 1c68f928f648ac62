import Stepwise.Json.Reader
import Stepwise.Json.Writer
import Stepwise.Proofs.Text.Plain

/-!
# Strings in JSON

A string is written between quotes with everything escaped that is not a printable ASCII character,
and read back character by character. A character of the basic plane is never half of a pair, so an
escape that follows it is not taken for its other half.
-/

namespace Stepwise

namespace Json

/-! ## Code units -/

theorem hexValue?_hexDigit {n : Nat} (single : n < 16) :
    hexValue? (Quoted.hexDigit n) = some n := by
  have each : ∀ n < 16, hexValue? (Quoted.hexDigit n) = some n := by decide
  exact each n single

theorem unit?_hex {n : Nat} (small : n < 0x10000) : unit? (Quoted.hex 4 n) = some n := by
  have digits : Quoted.hex 4 n = [Quoted.hexDigit (n / 16 / 16 / 16 % 16),
      Quoted.hexDigit (n / 16 / 16 % 16), Quoted.hexDigit (n / 16 % 16),
      Quoted.hexDigit (n % 16)] := rfl
  have below (m : Nat) : m % 16 < 16 := Nat.mod_lt m (by decide)
  rw [digits, unit?]
  simp only [List.length_cons, List.length_nil, List.foldl_cons, List.foldl_nil,
    hexValue?_hexDigit (below _), Option.bind_some, Option.map_some, if_true]
  congr 1
  omega

theorem length_hex (n : Nat) : (Quoted.hex 4 n).length = 4 := rfl

theorem escapedUnit?_hex {n : Nat} (small : n < 0x10000) {rest : List Char} (more : rest ≠ []) :
    escapedUnit? (Quoted.hex 4 n ++ rest) = some n := by
  have spare := List.length_pos_iff.mpr more
  rw [escapedUnit?, if_pos (by rw [List.length_append, length_hex]; omega)]
  exact unit?_hex small

/-- No character is a half of a pair. -/
theorem not_surrogate (c : Char) : c.toNat < 0xd800 ∨ 0xdfff < c.toNat := by
  rcases c.valid with below | above
  · exact .inl below
  · exact .inr above.1

theorem toNat_lt (c : Char) : c.toNat < 0x110000 := by
  rcases c.valid with below | above
  · have small : c.toNat < 0xd800 := below
    omega
  · exact above.2

theorem charOfCode_toNat (c : Char) : charOfCode c.toNat = c := by
  have whole := not_surrogate c
  have high : isHighUnit c.toNat = false := by
    simp only [isHighUnit, Bool.and_eq_false_iff, decide_eq_false_iff_not]
    omega
  have low : isLowUnit c.toNat = false := by
    simp only [isLowUnit, Bool.and_eq_false_iff, decide_eq_false_iff_not]
    omega
  rw [charOfCode, high, low]
  exact Char.ofNat_toNat c

/-! ## Characters -/

variable {opening rest text after : List Char} {fuel : Nat}

/-- A unit that is not the first half of a pair is a character, whatever follows. -/
theorem stringBody_unit (later : stringBody opening fuel rest = .ok (text, after))
    (more : rest ≠ []) {c : Char} (basic : c.toNat < 0x10000) :
    stringBody opening (fuel + 1) (escapedUnit c.toNat ++ rest) = .ok (c :: text, after) := by
  have whole := not_surrogate c
  have single : isHighUnit c.toNat = false := by
    simp only [isHighUnit, Bool.and_eq_false_iff, decide_eq_false_iff_not]
    omega
  rw [escapedUnit, List.cons_append, List.cons_append, stringBody]
  simp only [Char.reduceEq, if_false, if_true, escapedUnit?_hex basic more]
  have dropped : (Quoted.hex 4 c.toNat ++ rest).drop 4 = rest := rfl
  rw [dropped]
  split
  · simp only [single, Bool.false_eq_true, false_and, if_false, later, charOfCode_toNat]
    rfl
  · simp only [later, charOfCode_toNat]
    rfl

/-- The two halves of a pair are one character. -/
theorem stringBody_pair (later : stringBody opening fuel rest = .ok (text, after))
    (more : rest ≠ []) {c : Char} (beyond : 0x10000 ≤ c.toNat) :
    stringBody opening (fuel + 1)
      (escapedUnit (0xd800 + (c.toNat - 0x10000) / 0x400) ++
        escapedUnit (0xdc00 + (c.toNat - 0x10000) % 0x400) ++ rest) =
          .ok (c :: text, after) := by
  have bounded := toNat_lt c
  generalize first : 0xd800 + (c.toNat - 0x10000) / 0x400 = high
  generalize second : 0xdc00 + (c.toNat - 0x10000) % 0x400 = low
  have highUnit : isHighUnit high = true := by
    simp only [isHighUnit, Bool.and_eq_true, decide_eq_true_iff]
    omega
  have lowUnit : isLowUnit low = true := by
    simp only [isLowUnit, Bool.and_eq_true, decide_eq_true_iff]
    omega
  have meant : Char.ofNat (0x10000 + (high - 0xd800) * 0x400 + (low - 0xdc00)) = c := by
    rw [show 0x10000 + (high - 0xd800) * 0x400 + (low - 0xdc00) = c.toNat by omega,
      Char.ofNat_toNat]
  have spare := List.length_pos_iff.mpr more
  rw [List.append_assoc, escapedUnit, List.cons_append, List.cons_append, stringBody]
  simp only [Char.reduceEq, if_false, if_true,
    escapedUnit?_hex (show high < 0x10000 by omega)
      (show escapedUnit low ++ rest ≠ [] by simp [escapedUnit])]
  have dropped : (Quoted.hex 4 high ++ (escapedUnit low ++ rest)).drop 4 =
      '\\' :: 'u' :: (Quoted.hex 4 low ++ rest) := rfl
  have taken : (Quoted.hex 4 low ++ rest).take 4 = Quoted.hex 4 low := rfl
  have left : (Quoted.hex 4 low ++ rest).drop 4 = rest := rfl
  rw [dropped]
  simp only [highUnit, true_and]
  rw [if_pos (by rw [List.length_append, length_hex]; omega), taken,
    unit?_hex (show low < 0x10000 by omega)]
  simp only [lowUnit, if_true, left, later, meant]
  rfl

/-- An escaped character is read as the character. -/
theorem stringBody_escapedChar (later : stringBody opening fuel rest = .ok (text, after))
    (more : rest ≠ []) (c : Char) :
    stringBody opening (fuel + 1) (escapedChar c ++ rest) = .ok (c :: text, after) := by
  have simple {letter : Char} (escape : simpleEscape? letter = some c) (other : letter ≠ 'u') :
      stringBody opening (fuel + 1) (['\\', letter] ++ rest) = .ok (c :: text, after) := by
    simp only [List.cons_append, List.nil_append, stringBody, Char.reduceEq, if_false, if_true,
      other, escape, later]
    rfl
  unfold escapedChar
  split
  · rename_i same
    exact simple (by rw [same]; rfl) (by decide)
  split
  · rename_i same
    exact simple (by rw [same]; rfl) (by decide)
  split
  · rename_i same
    exact simple (by rw [same]; rfl) (by decide)
  split
  · rename_i same
    exact simple (by rw [same]; rfl) (by decide)
  split
  · rename_i same
    exact simple (by rw [same]; rfl) (by decide)
  split
  · rename_i same
    exact simple (by rw [same]; rfl) (by decide)
  split
  · rename_i same
    exact simple (by rw [same]; rfl) (by decide)
  rename_i quote slash _ _ _ _ _
  split
  · rename_i printable
    simp only [List.cons_append, List.nil_append, stringBody, quote, slash, if_false]
    rw [if_neg (by omega)]
    simp only [later]
    rfl
  split
  · rename_i basic
    exact stringBody_unit later more basic
  · rename_i beyond
    exact stringBody_pair later more (by omega)

/-! ## Strings -/

theorem escapedChar_ne_nil (c : Char) : escapedChar c ≠ [] := by
  unfold escapedChar
  repeat' split
  all_goals simp [escapedUnit]

/-- A string is read up to its closing quote. -/
theorem stringBody_flatMap (opening : List Char) (text rest : List Char) {fuel : Nat}
    (enough : text.length < fuel) :
    stringBody opening fuel (text.flatMap escapedChar ++ '"' :: rest) = .ok (text, rest) := by
  induction text generalizing fuel with
  | nil =>
    obtain ⟨fuel, rfl⟩ : ∃ more, fuel = more + 1 := ⟨fuel - 1, by omega⟩
    simp [stringBody]
  | cons c text inductionHypothesis =>
    obtain ⟨fuel, rfl⟩ : ∃ more, fuel = more + 1 := ⟨fuel - 1, by omega⟩
    rw [List.length_cons] at enough
    rw [List.flatMap_cons, List.append_assoc]
    exact stringBody_escapedChar (inductionHypothesis (by omega)) (by simp) c

theorem length_le_flatMap (text : List Char) :
    text.length ≤ (text.flatMap escapedChar).length := by
  induction text with
  | nil => exact Nat.le_refl 0
  | cons c text inductionHypothesis =>
    have some := List.length_pos_iff.mpr (escapedChar_ne_nil c)
    rw [List.flatMap_cons, List.length_append, List.length_cons]
    omega

/-- A written string is read back, and what follows it is left. -/
theorem string_writeString (text rest : List Char) :
    string (writeString text ++ rest) = .ok (text, rest) := by
  have shape : writeString text ++ rest = '"' :: (text.flatMap escapedChar ++ '"' :: rest) := by
    simp [writeString]
  have enough := length_le_flatMap text
  rw [string, shape, List.drop_succ_cons, List.drop_zero]
  refine stringBody_flatMap _ text rest ?_
  simp only [List.length_cons, List.length_append]
  omega

/-! ## Only plain characters are written -/

theorem hexDigit_plain {n : Nat} (single : n < 16) : IsPlain (Quoted.hexDigit n) := by
  have each : ∀ n < 16, IsPlain (Quoted.hexDigit n) := by decide
  exact each n single

theorem escapedUnit_plain {n : Nat} : ∀ c ∈ escapedUnit n, IsPlain c := by
  have digits : escapedUnit n = ['\\', 'u', Quoted.hexDigit (n / 16 / 16 / 16 % 16),
      Quoted.hexDigit (n / 16 / 16 % 16), Quoted.hexDigit (n / 16 % 16),
      Quoted.hexDigit (n % 16)] := rfl
  have below (m : Nat) : IsPlain (Quoted.hexDigit (m % 16)) :=
    hexDigit_plain (Nat.mod_lt m (by decide))
  rw [digits]
  simp only [List.forall_mem_cons]
  exact ⟨by decide, by decide, below _, below _, below _, below _, fun _ none => by cases none⟩

theorem escapedChar_plain (c : Char) : ∀ d ∈ escapedChar c, IsPlain d := by
  unfold escapedChar
  iterate 7
    split
    · exact plain_of_all rfl
  rename_i _ _ _ carriage _ _ _
  split
  · rename_i printable
    intro d member
    rw [List.mem_singleton.mp member]
    exact ⟨by omega, carriage⟩
  split
  · exact escapedUnit_plain
  · intro d member
    exact (List.mem_append.mp member).elim (escapedUnit_plain d) (escapedUnit_plain d)

theorem writeString_plain (text : List Char) : ∀ c ∈ writeString text, IsPlain c := by
  intro c member
  rcases List.mem_cons.mp member with rfl | inside
  · decide
  · rcases List.mem_append.mp inside with escaped | last
    · obtain ⟨d, -, found⟩ := List.mem_flatMap.mp escaped
      exact escapedChar_plain d c found
    · rw [List.mem_singleton.mp last]
      decide

end Json

end Stepwise
