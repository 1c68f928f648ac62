import Mathlib.Data.List.Forall2
import Stepwise.Proofs.Json.Numeral
import Stepwise.Proofs.Json.Quotation
import Stepwise.Proofs.Json.Spoken

/-!
# Written values are read back

The text of a value is legible: it begins with a character that tells what kind of value follows,
holds plain characters only, and is read by as much fuel as is given for its length. Legible items
make a legible list, whose reader takes them one by one, each up to the comma or the line end behind
it; and so do the members of a map, each of which takes the place of an earlier one of its name. A
value that JSON has a form for is read back as it is.
-/

namespace Stepwise

namespace Json

/-- A text from which a value is reread, wherever it stands in a document that is not too deep. -/
structure Legible (v : Value) (text : List Char) : Prop where
  plain : ∀ c ∈ text, IsPlain c
  begins : ∃ first more, text = first :: more ∧ isSpace first = false ∧ first ≠ ']' ∧
    first ≠ '\x7d'
  read : ∀ {depth fuel : Nat} {rest : List Char}, depth + v.nesting ≤ deepest →
    2 * text.length ≤ fuel + 1 → Ends rest →
      value depth fuel (text ++ rest) = .ok (v.reread, rest)

theorem Legible.length_pos {v : Value} {text : List Char} (legible : Legible v text) :
    0 < text.length := by
  obtain ⟨first, more, rfl, -⟩ := legible.begins
  exact Nat.succ_pos _

/-! ## Words and numbers -/

/-- Whether a character begins a word or a number, as it neither opens nor closes something. -/
def isUnmarked (c : Char) : Bool :=
  !isSpace c && c ≠ '"' && c ≠ '\x7b' && c ≠ '\x7d' && c ≠ '[' && c ≠ ']'

theorem isUnmarked_iff {c : Char} : isUnmarked c = true ↔
    isSpace c = false ∧ c ≠ '"' ∧ c ≠ '\x7b' ∧ c ≠ '\x7d' ∧ c ≠ '[' ∧ c ≠ ']' := by
  simp [isUnmarked, and_assoc]

theorem value_of_word {depth fuel : Nat} {first : Char} {more : List Char}
    (unmarked : isUnmarked first = true) {found : Value × List Char}
    (known : word? (first :: more) = some found) :
    value depth (fuel + 1) (first :: more) = .ok found := by
  obtain ⟨-, quote, brace, -, bracket, -⟩ := isUnmarked_iff.mp unmarked
  rw [value.eq_5 depth (first :: more) fuel (fun _ same => quote (List.cons.inj same).1)
    (fun _ same => brace (List.cons.inj same).1) (fun _ same => bracket (List.cons.inj same).1),
    known]

theorem value_of_number {depth fuel : Nat} {first : Char} {more : List Char}
    (unmarked : isUnmarked first = true) (unknown : word? (first :: more) = none) :
    value depth (fuel + 1) (first :: more) = number (first :: more) := by
  obtain ⟨-, quote, brace, -, bracket, -⟩ := isUnmarked_iff.mp unmarked
  rw [value.eq_5 depth (first :: more) fuel (fun _ same => quote (List.cons.inj same).1)
    (fun _ same => brace (List.cons.inj same).1) (fun _ same => bracket (List.cons.inj same).1),
    unknown]

theorem legible_word {v : Value} {first : Char} {more : List Char}
    (plain : ∀ c ∈ first :: more, IsPlain c) (unmarked : isUnmarked first = true)
    (known : ∀ rest, word? (first :: more ++ rest) = some (v.reread, rest)) :
    Legible v (first :: more) where
  plain := plain
  begins := by
    obtain ⟨space, -, -, brace, -, bracket⟩ := isUnmarked_iff.mp unmarked
    exact ⟨first, more, rfl, space, bracket, brace⟩
  read := by
    intro depth fuel rest _ enough _
    obtain ⟨fuel, rfl⟩ : ∃ less, fuel = less + 1 := by
      rw [List.length_cons] at enough
      exact ⟨fuel - 1, by omega⟩
    exact value_of_word unmarked (known rest)

theorem legible_number {v : Value} {first : Char} {more : List Char}
    (plain : ∀ c ∈ first :: more, IsPlain c) (unmarked : isUnmarked first = true)
    (unknown : ∀ rest, word? (first :: more ++ rest) = none)
    (known : ∀ rest, Ends rest → number (first :: more ++ rest) = .ok (v.reread, rest)) :
    Legible v (first :: more) where
  plain := plain
  begins := by
    obtain ⟨space, -, -, brace, -, bracket⟩ := isUnmarked_iff.mp unmarked
    exact ⟨first, more, rfl, space, bracket, brace⟩
  read := by
    intro depth fuel rest _ enough ends
    obtain ⟨fuel, rfl⟩ : ∃ less, fuel = less + 1 := by
      rw [List.length_cons] at enough
      exact ⟨fuel - 1, by omega⟩
    rw [← known rest ends]
    exact value_of_number unmarked (unknown rest)

theorem legible_null : Legible .null "null".toList :=
  legible_word (plain_of_all rfl) (by decide) fun _ => rfl

theorem legible_bool (b : Bool) :
    Legible (.bool b) (if b then "true".toList else "false".toList) := by
  cases b with
  | true => exact legible_word (plain_of_all rfl) (by decide) fun _ => rfl
  | false => exact legible_word (plain_of_all rfl) (by decide) fun _ => rfl

theorem legible_infinity (negative : Bool) :
    Legible (.float (.infinity negative)) (writeFloat (.infinity negative)) := by
  cases negative with
  | true => exact legible_word (plain_of_all rfl) (by decide) fun _ => rfl
  | false => exact legible_word (plain_of_all rfl) (by decide) fun _ => rfl

theorem digit_plain {c : Char} (digit : Decimal.isDigit c = true) : IsPlain c := by
  obtain ⟨n, small, rfl⟩ := Decimal.exists_of_isDigit digit
  have each : ∀ n < 10, IsPlain (Nat.digitChar n) := by decide
  exact each n small

theorem digit_unmarked {c : Char} (digit : Decimal.isDigit c = true) : isUnmarked c = true := by
  obtain ⟨n, small, rfl⟩ := Decimal.exists_of_isDigit digit
  have each : ∀ n < 10, isUnmarked (Nat.digitChar n) = true := by decide
  exact each n small

/-- No word begins with a digit, and none with a digit behind a minus. -/
theorem word?_digit {c : Char} (digit : Decimal.isDigit c = true) (negative : Bool)
    (more : List Char) :
    word? ((if negative then '-' :: c :: more else c :: more)) = none := by
  obtain ⟨n, small, rfl⟩ := Decimal.exists_of_isDigit digit
  have each : ∀ n < 10, Nat.digitChar n ≠ 'n' ∧ Nat.digitChar n ≠ 't' ∧ Nat.digitChar n ≠ 'f' ∧
      Nat.digitChar n ≠ 'N' ∧ Nat.digitChar n ≠ 'I' ∧ Nat.digitChar n ≠ '-' := by decide
  obtain ⟨lower, truth, falsity, upper, endless, minus⟩ := each n small
  cases negative with
  | true => simp [word?, words, dropWord?, endless.symm]
  | false => simp [word?, words, dropWord?, lower.symm, truth.symm, falsity.symm, upper.symm,
      endless.symm, minus.symm]

/-- Digits with what belongs to them are legible as the number that they are read as. -/
theorem legible_digits {v : Value} {negative : Bool} {chars : List Char}
    (plain : ∀ c ∈ chars, IsPlain c)
    (leading : ∃ first more, chars = first :: more ∧ Decimal.isDigit first = true)
    (known : ∀ rest, Ends rest →
      number ((if negative then '-' :: chars else chars) ++ rest) = .ok (v.reread, rest)) :
    Legible v (if negative then '-' :: chars else chars) := by
  obtain ⟨first, more, rfl, digit⟩ := leading
  cases negative with
  | true =>
    refine legible_number ?_ (by decide) (fun rest => word?_digit digit true (more ++ rest)) known
    exact List.forall_mem_cons.mpr ⟨by decide, plain⟩
  | false =>
    exact legible_number plain (digit_unmarked digit)
      (fun rest => word?_digit digit false (more ++ rest)) known

/-- A whole number that is not too long has a legible text. -/
theorem legible_whole {n : Int} (short : Value.isShort n = true) :
    ∃ text, writeWhole n = .ok text ∧ Legible (.int n) text := by
  have few := Value.isShort_iff.mp short
  have written := writeWhole_eq few
  have signed : (if n < 0 then '-' :: Decimal.digits n.natAbs else Decimal.digits n.natAbs) =
      if decide (n < 0) then '-' :: Decimal.digits n.natAbs else Decimal.digits n.natAbs := by simp
  rw [signed] at written
  refine ⟨_, written, legible_digits ?_ ?_ fun rest ends => number_writeWhole few written ends⟩
  · exact fun c member => digit_plain (Decimal.isDigit_of_mem_digits member)
  · obtain ⟨first, more, begins⟩ := List.exists_cons_of_ne_nil (Decimal.digits_ne_nil n.natAbs)
    exact ⟨first, more, begins, Decimal.isDigit_of_mem_digits (begins ▸ List.mem_cons_self)⟩

theorem spelling_plain {spelling : Decimal.Spelling} (proper : spelling.IsProper) :
    ∀ c ∈ spelling.chars, IsPlain c := by
  intro c member
  simp only [Decimal.Spelling.chars, List.mem_append] at member
  rcases member with (whole | fraction) | exponent
  · exact digit_plain (proper.whole c whole)
  · unfold Decimal.Spelling.fractionChars at fraction
    split at fraction
    · cases fraction
    · rcases List.mem_cons.mp fraction with rfl | digit
      · decide
      · exact digit_plain (proper.fraction c digit)
  · unfold Decimal.Spelling.exponentChars at exponent
    split at exponent
    · cases exponent
    · rcases List.mem_cons.mp exponent with rfl | behind
      · decide
      · rcases List.mem_cons.mp behind with rfl | digit
        · split <;> decide
        · exact digit_plain (Decimal.isDigit_of_mem_padded digit)

/-- A floating-point number has a legible text. -/
theorem legible_float {x : Binary64} (kept : x.isCanonical = true) :
    Legible (.float x.spoken) (writeFloat x) := by
  cases x with
  | nan mark => exact legible_word (plain_of_all rfl) (by decide) fun _ => rfl
  | infinity negative => exact legible_infinity negative
  | finite negative mantissa exponent =>
    obtain ⟨spelling, proper, written, meant⟩ := Decimal.write_spelled kept
    have form : writeFloat (.finite negative mantissa exponent) =
        if negative then '-' :: spelling.chars else spelling.chars := written
    rw [form]
    refine legible_digits (spelling_plain proper) ?_ fun rest ends => ?_
    · obtain ⟨first, others, begins, -⟩ := proper.leading
      exact ⟨first, _, by rw [Decimal.Spelling.chars, begins]; rfl,
        proper.whole first (by simp [begins])⟩
    · rw [number_chars proper negative ends, meant]
      rfl

/-! ## Strings -/

theorem legible_str (s : String) : Legible (.str s) (writeString s.toList) where
  plain := writeString_plain s.toList
  begins := ⟨'"', s.toList.flatMap escapedChar ++ ['"'], rfl, by decide, by decide, by decide⟩
  read := by
    intro depth fuel rest _ enough _
    obtain ⟨fuel, rfl⟩ : ∃ less, fuel = less + 1 := by
      simp only [writeString, List.length_append, List.length_cons, List.length_nil] at enough
      exact ⟨fuel - 1, by omega⟩
    have whole := string_writeString s.toList rest
    have shape : writeString s.toList ++ rest =
        '"' :: (s.toList.flatMap escapedChar ++ ['"'] ++ rest) := rfl
    rw [shape] at whole ⊢
    rw [value.eq_2, whole]
    simp only [bind, Except.bind, pure, Except.pure, String.ofList_toList]
    rfl

/-! ## Lists -/

theorem skipSpace_cons {c : Char} (other : isSpace c = false) (more : List Char) :
    skipSpace (c :: more) = c :: more := by
  rw [skipSpace, List.dropWhile_cons_of_neg (by rw [other]; decide)]

/-- The start of a line is skipped. -/
theorem skipSpace_newline (level : Nat) {c : Char} (other : isSpace c = false) (more : List Char) :
    skipSpace (indented.newline level ++ c :: more) = c :: more := by
  have blanks : ∀ d ∈ indented.newline level, isSpace d = true := by
    intro d member
    rcases List.mem_cons.mp member with rfl | blank
    · decide
    · rw [(List.mem_replicate.mp blank).2]
      decide
  rw [skipSpace, List.dropWhile_append_of_pos blanks]
  exact skipSpace_cons other more

theorem newline_ends (level : Nat) (more : List Char) : Ends (indented.newline level ++ more) := by
  intro c first
  exact .inr (Option.some.inj first).symm

/-- What stands between the parts of a list or a map at a level. -/
def separator (level : Nat) : List Char := indented.itemMark ++ indented.newline level

theorem separator_ends (level : Nat) (more : List Char) : Ends (separator level ++ more) := by
  intro c first
  exact .inl (Option.some.inj first).symm

/-- Legible items are read one by one, up to the bracket that closes their list. -/
theorem elements_legible {items : List Value} {parts : List (List Char)}
    (each : List.Forall₂ Legible items parts) (several : items ≠ []) {depth fuel : Nat}
    (level closing : Nat) (rest : List Char)
    (shallow : depth + Value.nestingOfItems items ≤ deepest)
    (enough : 2 * ((separator level).intercalate parts).length ≤ fuel) :
    elements depth fuel
      ((separator level).intercalate parts ++ (indented.newline closing ++ ']' :: rest)) =
        .ok (Value.rereadItems items, rest) := by
  induction each generalizing fuel with
  | nil => exact absurd rfl several
  | @cons item part items parts legible each inductionHypothesis =>
    have some := legible.length_pos
    rw [Value.nestingOfItems] at shallow
    rw [Value.rereadItems]
    cases each with
    | nil =>
      rw [List.intercalate_singleton] at enough ⊢
      obtain ⟨fuel, rfl⟩ : ∃ less, fuel = less + 1 := ⟨fuel - 1, by omega⟩
      rw [elements.eq_2, legible.read (by omega) (by omega) (newline_ends closing _)]
      simp only [bind, Except.bind, skipSpace_newline closing (by decide : isSpace ']' = false)]
      rfl
    | @cons next following items parts legible' each =>
      obtain ⟨first, more, rfl, space, -, -⟩ := legible'.begins
      rw [List.intercalate_cons_cons] at enough ⊢
      simp only [List.length_append] at enough
      obtain ⟨fuel, rfl⟩ : ∃ less, fuel = less + 1 := ⟨fuel - 1, by omega⟩
      have apart : (separator level).length = (indented.newline level).length + 1 := rfl
      have others := inductionHypothesis (by simp) (by omega)
        (show 2 * ((separator level).intercalate ((first :: more) :: parts)).length ≤ fuel by omega)
      have comma : skipSpace (separator level ++
          ((separator level).intercalate ((first :: more) :: parts) ++
            (indented.newline closing ++ ']' :: rest))) =
          ',' :: (indented.newline level ++
            ((separator level).intercalate ((first :: more) :: parts) ++
              (indented.newline closing ++ ']' :: rest))) := skipSpace_cons (by decide) _
      rw [List.append_assoc, List.append_assoc, elements.eq_2,
        legible.read (by omega) (by omega) (separator_ends level _)]
      simp only [bind, Except.bind, comma]
      rw [List.intercalate_cons_cons_left, List.cons_append] at others ⊢
      rw [skipSpace_newline level space, others]
      rfl

theorem newline_plain (level : Nat) : ∀ c ∈ indented.newline level, IsPlain c := by
  intro c member
  rcases List.mem_cons.mp member with rfl | blank
  · decide
  · rw [(List.mem_replicate.mp blank).2]
    decide

theorem intercalate_plain (level : Nat) {parts : List (List Char)}
    (each : ∀ part ∈ parts, ∀ c ∈ part, IsPlain c) :
    ∀ c ∈ (separator level).intercalate parts, IsPlain c := by
  induction parts with
  | nil => simp
  | cons part parts inductionHypothesis =>
    have first := each part List.mem_cons_self
    have others := inductionHypothesis fun other member =>
      each other (List.mem_cons_of_mem part member)
    cases parts with
    | nil =>
      rw [List.intercalate_singleton]
      exact first
    | cons next parts =>
      rw [List.intercalate_cons_cons]
      intro c member
      rcases List.mem_append.mp member with before | later
      · rcases List.mem_append.mp before with own | between
        · exact first c own
        · rcases List.mem_cons.mp between with rfl | newline
          · decide
          · exact newline_plain level c newline
      · exact others c later

/-- Parts between an opening and a closing mark, each on lines of its own. -/
def enclosed (opening closing : Char) (level : Nat) (parts : List (List Char)) : List Char :=
  opening :: indented.newline (level + 1) ++ (separator (level + 1)).intercalate parts ++
    indented.newline level ++ [closing]

theorem enclosed_plain {opening closing : Char} (plain : IsPlain opening ∧ IsPlain closing)
    (level : Nat) {parts : List (List Char)} (each : ∀ part ∈ parts, ∀ c ∈ part, IsPlain c) :
    ∀ c ∈ enclosed opening closing level parts, IsPlain c := by
  intro c member
  simp only [enclosed, List.cons_append, List.mem_cons, List.mem_append, List.not_mem_nil,
    or_false] at member
  rcases member with rfl | ((newline | inside) | newline) | rfl
  · exact plain.1
  · exact newline_plain (level + 1) c newline
  · exact intercalate_plain (level + 1) each c inside
  · exact newline_plain level c newline
  · exact plain.2

theorem enclosed_append (opening closing : Char) (level : Nat) (parts : List (List Char))
    (rest : List Char) :
    enclosed opening closing level parts ++ rest =
      opening :: (indented.newline (level + 1) ++ ((separator (level + 1)).intercalate parts ++
        (indented.newline level ++ closing :: rest))) := by
  simp [enclosed]

theorem length_enclosed (opening closing : Char) (level : Nat) (parts : List (List Char)) :
    ((separator (level + 1)).intercalate parts).length + 2 ≤
      (enclosed opening closing level parts).length := by
  simp only [enclosed, List.length_append, List.length_cons, List.length_nil]
  omega

/-- Every part is related to something, so what follows from that holds of all parts. -/
theorem forall_part {α β : Type} {relation : α → β → Prop} {property : β → Prop}
    (follows : ∀ a b, relation a b → property b) {items : List α} {parts : List β}
    (each : List.Forall₂ relation items parts) : ∀ part ∈ parts, property part := by
  induction each with
  | nil => simp
  | cons related _ inductionHypothesis =>
    exact List.forall_mem_cons.mpr ⟨follows _ _ related, inductionHypothesis⟩

/-- A list of legible items is legible. -/
theorem legible_list {items : List Value} {parts : List (List Char)}
    (each : List.Forall₂ Legible items parts) (several : items ≠ []) (level : Nat) :
    Legible (.list items) (enclosed '[' ']' level parts) where
  plain := enclosed_plain (by decide) level (forall_part (fun _ _ legible => legible.plain) each)
  begins := ⟨'[', _, rfl, by decide, by decide, by decide⟩
  read := by
    intro depth fuel rest shallow enough _
    have lengths := length_enclosed '[' ']' level parts
    obtain ⟨fuel, rfl⟩ : ∃ less, fuel = less + 1 := ⟨fuel - 1, by omega⟩
    rw [Value.nesting] at shallow
    have inside := elements_legible each several (level + 1) level rest
      (show depth + 1 + Value.nestingOfItems items ≤ deepest by omega)
      (show 2 * ((separator (level + 1)).intercalate parts).length ≤ fuel by omega)
    obtain ⟨first, more, begins, space, bracket⟩ : ∃ first more,
        (separator (level + 1)).intercalate parts = first :: more ∧ isSpace first = false ∧
          first ≠ ']' := by
      cases each with
      | nil => exact absurd rfl several
      | @cons _ part _ parts legible _ =>
        obtain ⟨first, more, rfl, space, bracket, -⟩ := legible.begins
        exact ⟨first, _, List.intercalate_cons_cons_left, space, bracket⟩
    rw [enclosed_append, value.eq_4, if_neg (by omega)]
    rw [begins, List.cons_append] at inside ⊢
    rw [skipSpace_newline (level + 1) space]
    split
    · rename_i same
      exact absurd (List.cons.inj same).1 bracket
    · rw [inside, Value.reread]
      rfl

theorem legible_nil : Legible (.list []) ['[', ']'] where
  plain := plain_of_all rfl
  begins := ⟨'[', [']'], rfl, by decide, by decide, by decide⟩
  read := by
    intro depth fuel rest shallow enough _
    obtain ⟨fuel, rfl⟩ : ∃ less, fuel = less + 1 := by
      simp only [List.length_cons, List.length_nil] at enough
      exact ⟨fuel - 1, by omega⟩
    rw [Value.nesting, Value.nestingOfItems] at shallow
    rw [List.cons_append, value.eq_4, if_neg (by omega), Value.reread, Value.rereadItems]
    rfl

/-- A list of fixed length is written as a list, and read as one. -/
theorem Legible.tuple {items : List Value} {text : List Char} (legible : Legible (.list items) text) :
    Legible (.tuple items) text where
  plain := legible.plain
  begins := legible.begins
  read := by
    intro depth fuel rest shallow enough ends
    exact legible.read shallow enough ends

/-! ## Maps -/

/-- The text of a member: the text of its key, and a legible content behind it. -/
def LegibleMember (entry : Value × Value) (part : List Char) : Prop :=
  ∃ body, part = writeString entry.1.name.toList ++ indented.keyMark ++ body ∧
    Legible entry.2 body

theorem LegibleMember.plain {entry : Value × Value} {part : List Char}
    (legible : LegibleMember entry part) : ∀ c ∈ part, IsPlain c := by
  obtain ⟨body, rfl, legible⟩ := legible
  intro c member
  rcases List.mem_append.mp member with front | content
  · rcases List.mem_append.mp front with name | mark
    · exact writeString_plain entry.1.name.toList c name
    · have marks : ∀ d ∈ indented.keyMark, IsPlain d := plain_of_all rfl
      exact marks c mark
  · exact legible.plain c content

theorem LegibleMember.length_pos {entry : Value × Value} {part : List Char}
    (legible : LegibleMember entry part) : 0 < part.length := by
  obtain ⟨body, rfl, content⟩ := legible
  have some := content.length_pos
  simp only [List.length_append]
  omega

theorem LegibleMember.begins {entry : Value × Value} {part : List Char}
    (legible : LegibleMember entry part) : ∃ more, part = '"' :: more := by
  obtain ⟨body, rfl, -⟩ := legible
  exact ⟨_, rfl⟩

/-- The member in front is read, and what comes behind it tells whether it is the last one. -/
theorem LegibleMember.members_append {entry : Value × Value} {part more : List Char}
    (legible : LegibleMember entry part) {depth fuel : Nat} (seen : Table Value)
    (shallow : depth + entry.2.nesting ≤ deepest) (enough : 2 * part.length ≤ fuel + 1)
    (ends : Ends more) :
    members depth (fuel + 1) seen (part ++ more) =
      match skipSpace more with
      | '\x7d' :: rest => .ok (Table.insert (.str entry.1.name) entry.2.reread seen, rest)
      | ',' :: rest =>
        members depth fuel (Table.insert (.str entry.1.name) entry.2.reread seen) (skipSpace rest)
      | rest => refuseAt .comma rest := by
  obtain ⟨body, rfl, content⟩ := legible
  have front (more : List Char) : string (writeString entry.1.name.toList ++ more) =
      .ok (entry.1.name.toList, more) := string_writeString entry.1.name.toList more
  have quoted (more : List Char) : writeString entry.1.name.toList ++ more =
      '"' :: (entry.1.name.toList.flatMap escapedChar ++ ['"'] ++ more) := rfl
  have colon (more : List Char) : skipSpace (indented.keyMark ++ more) = ':' :: ' ' :: more := rfl
  have space (more : List Char) : skipSpace (' ' :: (body ++ more)) = body ++ more := by
    obtain ⟨first, others, rfl, other, -⟩ := content.begins
    have skipped : skipSpace (' ' :: (first :: others ++ more)) =
      skipSpace (first :: (others ++ more)) := rfl
    rw [skipped]
    exact skipSpace_cons other _
  simp only [List.length_append] at enough
  rw [List.append_assoc, List.append_assoc, quoted, members.eq_2, ← quoted, front]
  simp only [bind, Except.bind, colon, space]
  rw [content.read shallow (by omega) ends]
  simp only [String.ofList_toList]
  rfl

/-- Legible members are read one by one, up to the brace that closes their map. -/
theorem members_legible {entries : List (Value × Value)} {parts : List (List Char)}
    (each : List.Forall₂ LegibleMember entries parts) (several : entries ≠ [])
    {depth fuel : Nat} (seen : Table Value) (level closing : Nat)
    (rest : List Char) (shallow : depth + Value.nestingOfEntries entries ≤ deepest)
    (enough : 2 * ((separator level).intercalate parts).length ≤ fuel) :
    members depth fuel seen
      ((separator level).intercalate parts ++ (indented.newline closing ++ '\x7d' :: rest)) =
        .ok (Table.insertAll seen (Value.rereadEntries entries), rest) := by
  induction each generalizing fuel seen with
  | nil => exact absurd rfl several
  | @cons entry part entries parts legible each inductionHypothesis =>
    have some := legible.length_pos
    rw [Value.nestingOfEntries] at shallow
    rw [Value.rereadEntries, Table.insertAll, List.foldl_cons]
    cases each with
    | nil =>
      rw [List.intercalate_singleton] at enough ⊢
      obtain ⟨fuel, rfl⟩ : ∃ less, fuel = less + 1 := ⟨fuel - 1, by omega⟩
      rw [legible.members_append seen (by omega) (by omega) (newline_ends closing _),
        skipSpace_newline closing (by decide)]
      rfl
    | @cons next following entries parts legible' each =>
      rw [List.intercalate_cons_cons] at enough ⊢
      simp only [List.length_append] at enough
      obtain ⟨fuel, rfl⟩ : ∃ less, fuel = less + 1 := ⟨fuel - 1, by omega⟩
      have lengths : (separator level).length = (indented.newline level).length + 1 := rfl
      have others := inductionHypothesis (by simp)
        (Table.insert (.str entry.1.name) entry.2.reread seen) (by omega)
        (show 2 * ((separator level).intercalate (following :: parts)).length ≤ fuel by omega)
      have comma (more : List Char) : skipSpace (separator level ++ more) =
        ',' :: (indented.newline level ++ more) := skipSpace_cons (by decide) _
      rw [List.append_assoc, List.append_assoc,
        legible.members_append seen (by omega) (by omega) (separator_ends level _), comma]
      obtain ⟨more, rfl⟩ := legible'.begins
      rw [List.intercalate_cons_cons_left, List.cons_append] at others ⊢
      change members depth fuel _ (skipSpace _) = _
      rw [skipSpace_newline level (by decide), others]
      rfl

/-- A map of legible members is legible. -/
theorem legible_map {entries : List (Value × Value)} {parts : List (List Char)}
    (each : List.Forall₂ LegibleMember entries parts) (several : entries ≠ []) (level : Nat) :
    Legible (.map entries) (enclosed '\x7b' '\x7d' level parts) where
  plain := enclosed_plain (by decide) level (forall_part (fun _ _ legible => legible.plain) each)
  begins := ⟨'\x7b', _, rfl, by decide, by decide, by decide⟩
  read := by
    intro depth fuel rest shallow enough _
    have lengths := length_enclosed '\x7b' '\x7d' level parts
    obtain ⟨fuel, rfl⟩ : ∃ less, fuel = less + 1 := ⟨fuel - 1, by omega⟩
    rw [Value.nesting] at shallow
    have inside := members_legible each several [] (level + 1) level rest
      (show depth + 1 + Value.nestingOfEntries entries ≤ deepest by omega)
      (show 2 * ((separator (level + 1)).intercalate parts).length ≤ fuel by omega)
    obtain ⟨more, begins⟩ : ∃ more, (separator (level + 1)).intercalate parts = '"' :: more := by
      cases each with
      | nil => exact absurd rfl several
      | @cons _ part _ parts legible _ =>
        obtain ⟨more, rfl⟩ := legible.begins
        exact ⟨_, List.intercalate_cons_cons_left⟩
    rw [enclosed_append, value.eq_3, if_neg (by omega)]
    rw [begins, List.cons_append] at inside ⊢
    rw [skipSpace_newline (level + 1) (by decide)]
    split
    · rename_i same
      exact absurd (List.cons.inj same).1 (by decide)
    · rw [inside, Value.reread]
      rfl

theorem legible_empty : Legible (.map []) ['\x7b', '\x7d'] where
  plain := plain_of_all rfl
  begins := ⟨'\x7b', ['\x7d'], rfl, by decide, by decide, by decide⟩
  read := by
    intro depth fuel rest shallow enough _
    obtain ⟨fuel, rfl⟩ : ∃ less, fuel = less + 1 := by
      simp only [List.length_cons, List.length_nil] at enough
      exact ⟨fuel - 1, by omega⟩
    rw [Value.nesting, Value.nestingOfEntries] at shallow
    rw [List.cons_append, value.eq_3, if_neg (by omega), Value.reread, Value.rereadEntries]
    rfl

/-! ## Whole values -/

/-- A key that can be written is written as its text. -/
theorem writeKey_name {key : Value} (writable : key.isName = true) :
    writeKey key = .ok key.name.toList := by
  have written := isOk_writeKey key
  rw [writable] at written
  unfold Value.name
  cases made : writeKey key with
  | error f =>
    rw [made] at written
    cases written
  | ok text => simp [Except.toOption]

mutual

/-- What can be written has a text that is legible as what it says. -/
theorem legible_write (level : Nat) : ∀ v : Value, v.isCanonical = true → v.isWritable = true →
    ∃ text, write indented noFallback level v = .ok text ∧ Legible v.spoken text
  | .null, _, _ => ⟨_, by rw [write], by simpa only [Value.spoken] using legible_null⟩
  | .bool b, _, _ => ⟨_, by rw [write], by simpa only [Value.spoken] using legible_bool b⟩
  | .int n, _, writable => by
    rw [Value.isWritable] at writable
    obtain ⟨text, written, legible⟩ := legible_whole writable
    exact ⟨text, by rw [write, written], by simpa only [Value.spoken] using legible⟩
  | .float x, kept, _ => by
    rw [Value.isCanonical] at kept
    exact ⟨_, by rw [write], by simpa only [Value.spoken] using legible_float kept⟩
  | .str s, _, _ => ⟨_, by rw [write], by simpa only [Value.spoken] using legible_str s⟩
  | .list items, kept, writable => by
    rw [Value.isCanonical] at kept
    rw [Value.isWritable] at writable
    rw [write, Value.spoken]
    exact legible_writeList level items kept writable
  | .tuple items, kept, writable => by
    rw [Value.isCanonical] at kept
    rw [Value.isWritable] at writable
    rw [write, Value.spoken]
    obtain ⟨text, written, legible⟩ := legible_writeList level items kept writable
    exact ⟨text, written, legible.tuple⟩
  | .map entries, kept, writable => by
    rw [Value.isCanonical] at kept
    rw [Value.isWritable] at writable
    rw [Value.spoken]
    cases entries with
    | nil => exact ⟨_, by rw [write], legible_empty⟩
    | cons entry rest =>
      obtain ⟨parts, listed, each⟩ :=
        legible_writeEntries (level + 1) (entry :: rest) kept writable
      refine ⟨enclosed '\x7b' '\x7d' level parts, ?_,
        legible_map each (by simp [Value.spokenEntries]) level⟩
      rw [write.eq_9 _ _ _ _ (by simp), listed]
      rfl
  | .bytes _, _, writable | .set _, _, writable | .date _, _, writable | .moment _, _, writable
  | .object _ _ _, _, writable | .callable, _, writable | .faulty _ _, _, writable
  | .endless _ _, _, writable => by
    simp [Value.isWritable] at writable

theorem legible_writeList (level : Nat) : ∀ items : List Value,
    Value.allCanonical items = true → Value.allWritable items = true →
      ∃ text, writeList indented noFallback level items = .ok text ∧
        Legible (.list (Value.spokenItems items)) text
  | [], _, _ => ⟨_, by rw [writeList], legible_nil⟩
  | item :: rest, kept, writable => by
    rw [Value.allCanonical, Bool.and_eq_true] at kept
    rw [Value.allWritable, Bool.and_eq_true] at writable
    obtain ⟨first, written, legible⟩ := legible_write (level + 1) item kept.1 writable.1
    obtain ⟨others, listed, each⟩ := legible_writeItems (level + 1) rest kept.2 writable.2
    refine ⟨enclosed '[' ']' level (first :: others), ?_,
      legible_list (.cons legible each) (by simp) level⟩
    rw [writeList, written, listed]
    rfl

theorem legible_writeItems (level : Nat) : ∀ items : List Value,
    Value.allCanonical items = true → Value.allWritable items = true →
      ∃ parts, writeItems indented noFallback level items = .ok parts ∧
        List.Forall₂ Legible (Value.spokenItems items) parts
  | [], _, _ => ⟨[], by rw [writeItems], .nil⟩
  | item :: rest, kept, writable => by
    rw [Value.allCanonical, Bool.and_eq_true] at kept
    rw [Value.allWritable, Bool.and_eq_true] at writable
    obtain ⟨first, written, legible⟩ := legible_write level item kept.1 writable.1
    obtain ⟨others, listed, each⟩ := legible_writeItems level rest kept.2 writable.2
    refine ⟨first :: others, ?_, .cons legible each⟩
    rw [writeItems, written, listed]
    rfl

theorem legible_writeEntries (level : Nat) : ∀ entries : List (Value × Value),
    Value.allEntriesCanonical entries = true → Value.allEntriesWritable entries = true →
      ∃ parts, writeEntries indented noFallback level entries = .ok parts ∧
        List.Forall₂ LegibleMember (Value.spokenEntries entries) parts
  | [], _, _ => ⟨[], by rw [writeEntries], .nil⟩
  | (key, content) :: rest, kept, writable => by
    simp only [Value.allEntriesCanonical, Bool.and_eq_true] at kept
    simp only [Value.allEntriesWritable, Bool.and_eq_true] at writable
    obtain ⟨body, written, legible⟩ := legible_write level content kept.1 writable.1.2
    obtain ⟨others, listed, each⟩ := legible_writeEntries level rest kept.2 writable.2
    refine ⟨(writeString key.name.toList ++ indented.keyMark ++ body) :: others, ?_,
      .cons ⟨body, rfl, legible⟩ each⟩
    rw [writeEntries, writeKey_name writable.1.1, written, listed]
    rfl

end

/-- Whatever can be written, and is not too deep, is reread from its document as what it says; the
document holds plain characters only. -/
theorem reread_document_spoken {v : Value} (kept : v.isCanonical = true)
    (writable : v.isWritable = true) (shallow : v.nesting ≤ deepest) :
    ∃ text, document v = .ok text ∧ (∀ c ∈ text, IsPlain c) ∧ read text = .ok v.spoken.reread := by
  obtain ⟨text, written, legible⟩ := legible_write 0 v kept writable
  refine ⟨text, written, legible.plain, ?_⟩
  rw [← v.nesting_spoken] at shallow
  obtain ⟨first, more, rfl, space, -, -⟩ := legible.begins
  have whole : value 0 (2 * (first :: more).length + 2) (first :: more ++ []) =
      .ok (v.spoken.reread, []) :=
    legible.read (by omega) (by omega) fun c member => by cases member
  have plain := (legible.plain first List.mem_cons_self).1
  have unmarked : ¬ (first :: more).head? = some '\ufeff' := by
    intro mark
    obtain rfl := Option.some.inj mark
    exact absurd plain (by decide)
  rw [List.append_nil] at whole
  rw [read, if_neg unmarked, skipSpace_cons space]
  simp only [bind, Except.bind, pure, Except.pure, whole]
  rfl

/-- Data that can be written, and that is not too deep, is reread from its document. -/
theorem reread_document {v : Value} (data : v.isData = true) (writable : v.isWritable = true)
    (shallow : v.nesting ≤ deepest) :
    ∃ text, document v = .ok text ∧ (∀ c ∈ text, IsPlain c) ∧ read text = .ok v.reread := by
  obtain ⟨kept, same⟩ := v.spoken_of_isData data
  have reread := reread_document_spoken kept writable shallow
  rwa [same] at reread

/-- A value that JSON has a form for, and that is not too deep, is read back from its document. -/
theorem read_document {v : Value} (form : v.isJson = true) (shallow : v.levels ≤ deepest) :
    ∃ text, document v = .ok text ∧ (∀ c ∈ text, IsPlain c) ∧ read text = .ok v := by
  have same := Value.reread_of_isJson v form
  rw [← Value.nesting_of_isJson v form] at shallow
  obtain ⟨text, written, plain, read⟩ := reread_document (Value.isData_of_isJson v form)
    (Value.isWritable_of_isJson v form) shallow
  rw [same] at read
  exact ⟨text, written, plain, read⟩

end Json

end Stepwise
