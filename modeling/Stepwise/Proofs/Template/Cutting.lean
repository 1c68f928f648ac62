import Mathlib.Data.List.Chain
import Mathlib.Data.List.TakeWhile
import Stepwise.Template.Token

/-!
# Where templates are cut

A reference is a mark, a path without braces, and a closing brace. Its mark ends in the only opening
brace that it has, so that no reference begins within another, and none begins in a text and ends
outside of it. Cutting a template therefore leaves no choice: whatever tokens spell the template
again, with no reference left in a text and no text split in two, are those that it is cut into, and
the references among them stand exactly where one is spelled.
-/

namespace Stepwise

namespace Template

/-- What can stand between the braces of a reference. -/
def IsBraceless (inner : List Char) : Prop := ∀ c ∈ inner, isBrace c = false

/-- At a place of a text a reference is spelled. -/
def Spells (text : List Char) (place : Nat) (spelling : List Char) : Prop :=
  ∃ before inner after, before.length = place ∧ IsBraceless inner ∧ spelling = spelled inner ∧
    text = before ++ spelled inner ++ after

/-- A stretch of text has no reference in it and is not empty, and a reference is known by the
trimmed path of its spelling. -/
def Token.IsFit : Token → Prop
  | text chars => chars ≠ [] ∧ ∀ place spelling, ¬ Spells chars place spelling
  | reference path spelling => ∃ inner, IsBraceless inner ∧ spelling = spelled inner ∧
      path = trim inner

def Token.isText : Token → Bool
  | text _ => true
  | reference _ _ => false

/-- Tokens that a template can be cut into: they spell it again, each of them is fit, and no two
stretches of text are next to each other. -/
structure IsCut (text : List Char) (tokens : List Token) : Prop where
  whole : tokens.flatMap Token.source = text
  fit : ∀ token ∈ tokens, token.IsFit
  apart : tokens.IsChain fun token next => ¬ (token.isText = true ∧ next.isText = true)

/-- The spellings of the references among tokens, with the places at which they stand when the
tokens begin at some place. -/
def references (start : Nat) : List Token → List (Nat × List Char)
  | [] => []
  | .text chars :: rest => references (start + chars.length) rest
  | .reference _ spelling :: rest =>
    (start, spelling) :: references (start + spelling.length) rest

/-! ## References do not overlap -/

section Overlap

variable {text inner other after : List Char}

/-- A text starts with a reference exactly when one is found there. -/
theorem reference?_eq_some_iff :
    reference? text = some (inner, after) ↔ IsBraceless inner ∧ text = spelled inner ++ after := by
  constructor
  · intro found
    unfold reference? at found
    split at found
    · rename_i rest
      split at found
      · rename_i behind remaining
        obtain ⟨rfl, rfl⟩ := Prod.mk.inj (Option.some.inj found)
        refine ⟨fun c member => by simpa using List.mem_takeWhile_imp member, ?_⟩
        have whole := (List.takeWhile_append_dropWhile (p := (!isBrace ·)) (l := rest)).symm
        rw [remaining] at whole
        simpa [spelled] using whole
      · cases found
    · cases found
  · rintro ⟨braceless, rfl⟩
    have plain : ∀ c ∈ inner, (!isBrace c) = true := by
      intro c member
      rw [braceless c member]
      rfl
    have whole : spelled inner ++ after = '$' :: '\x7b' :: (inner ++ '\x7d' :: after) := by
      simp [spelled]
    have closing : ¬ (!isBrace '\x7d') = true := by decide
    have ended : ('\x7d' :: after).dropWhile (!isBrace ·) = '\x7d' :: after :=
      List.dropWhile_cons_of_neg closing
    have started : ('\x7d' :: after).takeWhile (!isBrace ·) = [] :=
      List.takeWhile_cons_of_neg closing
    rw [whole, reference?, List.dropWhile_append_of_pos plain, List.takeWhile_append_of_pos plain,
      ended, started, List.append_nil]
    rfl

/-- The mark of a reference stands at its beginning only. -/
theorem eq_nil_of_mark {front back : List Char} (braceless : IsBraceless inner)
    (split : spelled inner = front ++ '$' :: '\x7b' :: back) : front = [] := by
  cases front with
  | nil => rfl
  | cons c front =>
    obtain ⟨-, split⟩ := List.cons.inj split
    cases front with
    | nil => cases (List.cons.inj split).1
    | cons c front =>
      have closed : inner ++ ['\x7d'] = front ++ '$' :: '\x7b' :: back := (List.cons.inj split).2
      have member : '\x7b' ∈ inner ++ ['\x7d'] := by
        rw [closed]
        simp
      rcases List.mem_append.mp member with inside | last
      · cases braceless _ inside
      · cases List.mem_singleton.mp last

/-- Where a reference begins before another has ended, it is at its beginning. -/
theorem eq_nil_of_overlap {front back behind : List Char} (braceless : IsBraceless inner)
    (split : spelled inner = front ++ back) (some : back ≠ [])
    (begun : back ++ behind = spelled other ++ after) : front = [] := by
  cases back with
  | nil => exact absurd rfl some
  | cons c back =>
    obtain ⟨rfl, opened⟩ : c = '$' ∧ back ++ behind = '\x7b' :: (other ++ ['\x7d'] ++ after) :=
      List.cons.inj begun
    cases back with
    | nil =>
      have last := congrArg List.getLast? split
      rw [List.getLast?_concat, spelled, List.getLast?_concat] at last
      cases last
    | cons c back =>
      obtain ⟨rfl, -⟩ : c = '\x7b' ∧ back ++ behind = _ := List.cons.inj opened
      exact eq_nil_of_mark braceless split

end Overlap

/-! ## Where references are spelled -/

section Places

variable {text inner after spelling : List Char} {c : Char} {place : Nat}

/-- Where no reference begins, one is spelled only further on. -/
theorem spells_of_none (none : reference? (c :: text) = none) :
    Spells (c :: text) place spelling ↔
      ∃ later, place = later + 1 ∧ Spells text later spelling := by
  constructor
  · rintro ⟨before, inner, after, rfl, braceless, rfl, whole⟩
    cases before with
    | nil =>
      rw [reference?_eq_some_iff.mpr ⟨braceless, whole⟩] at none
      cases none
    | cons first before =>
      have rest : text = before ++ spelled inner ++ after := (List.cons.inj whole).2
      exact ⟨before.length, rfl, before, inner, after, rfl, braceless, rfl, rest⟩
  · rintro ⟨later, rfl, before, inner, after, rfl, braceless, rfl, rfl⟩
    exact ⟨c :: before, inner, after, rfl, braceless, rfl, rfl⟩

/-- Where a reference begins, the next one is spelled behind it. -/
theorem spells_of_some (found : reference? text = some (inner, after)) :
    Spells text place spelling ↔ (place = 0 ∧ spelling = spelled inner) ∨
      ∃ later, place = later + (spelled inner).length ∧ Spells after later spelling := by
  obtain ⟨braceless, rfl⟩ := reference?_eq_some_iff.mp found
  constructor
  · rintro ⟨before, other, behind, rfl, braceless', rfl, whole⟩
    rw [List.append_assoc] at whole
    obtain ⟨past, rfl, rest⟩ | ⟨left, split, rest⟩ := List.append_eq_append_iff.mp whole
    · exact .inr ⟨past.length, by simp [Nat.add_comm], past, other, behind, rfl, braceless', rfl,
        by rw [rest, List.append_assoc]⟩
    · by_cases ended : left = []
      · subst ended
        rw [List.append_nil] at split
        rw [List.nil_append] at rest
        exact .inr ⟨0, by simp [split], [], other, behind, rfl, braceless', rfl, rest.symm⟩
      · obtain rfl := eq_nil_of_overlap braceless split ended rest.symm
        rw [List.nil_append] at whole
        have again := reference?_eq_some_iff.mpr ⟨braceless', whole⟩
        rw [found] at again
        obtain ⟨rfl, -⟩ := Prod.mk.inj (Option.some.inj again)
        exact .inl ⟨rfl, rfl⟩
  · rintro (⟨rfl, rfl⟩ | ⟨later, rfl, before, other, behind, rfl, braceless', rfl, rfl⟩)
    · exact ⟨[], inner, after, rfl, braceless, rfl, rfl⟩
    · exact ⟨spelled inner ++ before, other, behind, by simp [Nat.add_comm], braceless', rfl,
        by simp⟩

theorem not_spells_nil : ¬ Spells [] place spelling := by
  rintro ⟨before, inner, after, -, -, -, whole⟩
  simp [spelled] at whole

/-- A character begins no reference in a stretch when it begins none before what follows the
stretch. -/
theorem not_spells_cons {chars behind : List Char}
    (none : reference? (c :: (chars ++ behind)) = none)
    (unspelled : ∀ place spelling, ¬ Spells chars place spelling) (place : Nat)
    (spelling : List Char) : ¬ Spells (c :: chars) place spelling := by
  have still : reference? (c :: chars) = Option.none := by
    refine Option.eq_none_iff_forall_not_mem.mpr fun found taken => ?_
    obtain ⟨braceless, begun⟩ := reference?_eq_some_iff.mp taken
    have whole : c :: (chars ++ behind) = spelled found.1 ++ (found.2 ++ behind) := by
      rw [← List.cons_append, begun, List.append_assoc]
    rw [reference?_eq_some_iff.mpr ⟨braceless, whole⟩] at none
    cases none
  rw [spells_of_none still]
  rintro ⟨later, -, spells⟩
  exact unspelled later spelling spells

end Places

/-! ## Cutting -/

section Cutting

variable {text inner after spelling : List Char} {c : Char} {tokens : List Token}
  {start place : Nat}

/-- A character that is put in front of tokens is the first of a stretch of text. -/
theorem pushChar_eq (c : Char) (tokens : List Token) :
    (∃ chars rest, tokens = .text chars :: rest ∧ pushChar c tokens = .text (c :: chars) :: rest) ∨
      (∀ next ∈ tokens.head?, next.isText = false) ∧ pushChar c tokens = .text [c] :: tokens := by
  cases tokens with
  | nil => exact .inr ⟨nofun, rfl⟩
  | cons token rest =>
    cases token with
    | text chars => exact .inl ⟨chars, rest, rfl, rfl⟩
    | reference path spelling =>
      exact .inr ⟨fun next first => Option.some.inj first ▸ rfl, rfl⟩

theorem references_pushChar (c : Char) (tokens : List Token) (start : Nat) :
    references start (pushChar c tokens) = references (start + 1) tokens := by
  obtain ⟨chars, rest, rfl, pushed⟩ | ⟨-, pushed⟩ := pushChar_eq c tokens
  · rw [pushed, references, references, List.length_cons, Nat.add_assoc, Nat.add_comm 1]
  · rw [pushed, references, List.length_singleton]

/-- The references that a template is cut into stand where one is spelled, and nowhere else. -/
theorem mem_references_tokenize (text : List Char) (start : Nat) :
    (place, spelling) ∈ references start (tokenize text) ↔
      ∃ inside, place = start + inside ∧ Spells text inside spelling := by
  fun_induction tokenize text generalizing start with
  | case1 => simp [references, not_spells_nil]
  | case2 c rest inner after found shorter inductionHypothesis =>
    rw [references, List.mem_cons, inductionHypothesis, Prod.mk.injEq]
    simp only [spells_of_some found]
    constructor
    · rintro (⟨rfl, rfl⟩ | ⟨inside, rfl, spells⟩)
      · exact ⟨0, rfl, .inl ⟨rfl, rfl⟩⟩
      · exact ⟨inside + (spelled inner).length, by omega, .inr ⟨inside, rfl, spells⟩⟩
    · rintro ⟨inside, rfl, ⟨rfl, rfl⟩ | ⟨later, rfl, spells⟩⟩
      · exact .inl ⟨rfl, rfl⟩
      · exact .inr ⟨later, by omega, spells⟩
  | case3 c rest none inductionHypothesis =>
    rw [references_pushChar, inductionHypothesis]
    simp only [spells_of_none none]
    constructor
    · rintro ⟨inside, rfl, spells⟩
      exact ⟨inside + 1, by omega, inside, rfl, spells⟩
    · rintro ⟨inside, rfl, later, rfl, spells⟩
      exact ⟨later, by omega, spells⟩

/-- References among tokens stand one behind the other. -/
theorem references_inOrder (tokens : List Token) (start : Nat) :
    (∀ found ∈ references start tokens, start ≤ found.1) ∧
      (references start tokens).Pairwise fun found next => found.1 + found.2.length ≤ next.1 := by
  induction tokens generalizing start with
  | nil => exact ⟨nofun, .nil⟩
  | cons token rest inductionHypothesis =>
    cases token with
    | text chars =>
      obtain ⟨behind, ordered⟩ := inductionHypothesis (start + chars.length)
      exact ⟨fun found member => by have := behind found member; omega, ordered⟩
    | reference path spelling =>
      obtain ⟨behind, ordered⟩ := inductionHypothesis (start + spelling.length)
      exact ⟨List.forall_mem_cons.mpr ⟨le_rfl, fun found member => by
        have := behind found member; omega⟩, List.pairwise_cons.mpr ⟨behind, ordered⟩⟩

/-! ## The only way to cut -/

namespace IsCut

/-- What follows the first token is cut into the others. -/
theorem tail {token : Token} (cut : IsCut text (token :: tokens)) :
    IsCut (tokens.flatMap Token.source) tokens where
  whole := rfl
  fit := (List.forall_mem_cons.mp cut.fit).2
  apart := cut.apart.tail

theorem nil : IsCut [] [] := ⟨rfl, nofun, .nil⟩

/-- A reference in front of what is cut is cut off. -/
theorem reference (cut : IsCut after tokens) (braceless : IsBraceless inner) :
    IsCut (spelled inner ++ after) (.reference (trim inner) (spelled inner) :: tokens) where
  whole := by rw [List.flatMap_cons, cut.whole, Token.source]
  fit := List.forall_mem_cons.mpr ⟨⟨inner, braceless, rfl, rfl⟩, cut.fit⟩
  apart := List.isChain_cons.mpr ⟨fun next _ => by simp [Token.isText], cut.apart⟩

/-- A character in front of what is cut, where no reference begins, is put in front of it. -/
theorem pushChar (cut : IsCut text tokens) (none : reference? (c :: text) = none) :
    IsCut (c :: text) (pushChar c tokens) := by
  obtain ⟨chars, rest, rfl, pushed⟩ | ⟨other, pushed⟩ := pushChar_eq c tokens
  · obtain ⟨⟨-, unspelled⟩, others⟩ := List.forall_mem_cons.mp cut.fit
    have split := cut.whole.symm
    rw [List.flatMap_cons, Token.source] at split
    subst split
    rw [pushed]
    refine ⟨rfl, List.forall_mem_cons.mpr
      ⟨⟨List.cons_ne_nil _ _, not_spells_cons none unspelled⟩, others⟩, ?_⟩
    exact List.isChain_cons.mpr (List.isChain_cons.mp cut.apart)
  · rw [pushed]
    have alone : ∀ place spelling, ¬ Spells [c] place spelling :=
      not_spells_cons none fun _ _ => not_spells_nil
    refine ⟨by rw [List.flatMap_cons, cut.whole]; rfl,
      List.forall_mem_cons.mpr ⟨⟨List.cons_ne_nil _ _, alone⟩, cut.fit⟩, ?_⟩
    refine List.isChain_cons.mpr ⟨fun next first => ?_, cut.apart⟩
    rw [other next first]
    simp

/-- No reference begins where a stretch of text does. -/
theorem reference?_of_text {chars : List Char} (cut : IsCut text (.text chars :: tokens)) :
    reference? text = none := by
  obtain ⟨⟨some, unspelled⟩, others⟩ := List.forall_mem_cons.mp cut.fit
  have whole := cut.whole
  rw [List.flatMap_cons, Token.source] at whole
  refine Option.eq_none_iff_forall_not_mem.mpr fun found taken => ?_
  obtain ⟨braceless, begun⟩ := reference?_eq_some_iff.mp taken
  rw [← whole] at begun
  obtain ⟨left, ended, behind⟩ | ⟨left, split, behind⟩ := List.append_eq_append_iff.mp begun
  · by_cases done : left = []
    · exact unspelled 0 _ ⟨[], found.1, [], rfl, braceless, rfl, by simp [ended, done]⟩
    · -- The reference goes on in the next token, which is one itself.
      cases tokens with
      | nil => exact done (List.append_eq_nil_iff.mp behind.symm).1
      | cons next rest =>
        cases next with
        | text more => exact (List.isChain_cons_cons.mp cut.apart).1 ⟨rfl, rfl⟩
        | reference path spelling =>
          obtain ⟨⟨inner, -, rfl, -⟩, -⟩ := List.forall_mem_cons.mp others
          rw [List.flatMap_cons, Token.source] at behind
          exact some (eq_nil_of_overlap braceless ended done behind.symm)
  · exact unspelled 0 _ ⟨[], found.1, left, rfl, braceless, rfl, split⟩

end IsCut

theorem isCut_tokenize (text : List Char) : IsCut text (tokenize text) := by
  fun_induction tokenize text with
  | case1 => exact .nil
  | case2 c rest inner after found shorter inductionHypothesis =>
    obtain ⟨braceless, whole⟩ := reference?_eq_some_iff.mp found
    rw [whole]
    exact inductionHypothesis.reference braceless
  | case3 c rest none inductionHypothesis => exact inductionHypothesis.pushChar none

/-- What is left of a stretch of text behind its first character is such a stretch. -/
theorem IsCut.behind {chars : List Char} (cut : IsCut (c :: text) (.text (c :: chars) :: tokens))
    (more : chars ≠ []) : IsCut text (.text chars :: tokens) where
  whole := (List.cons.inj cut.whole).2
  fit := by
    obtain ⟨⟨-, unspelled⟩, others⟩ := List.forall_mem_cons.mp cut.fit
    refine List.forall_mem_cons.mpr ⟨⟨more, fun place spelling spells => ?_⟩, others⟩
    obtain ⟨before, inner, after, rfl, braceless, rfl, rfl⟩ := spells
    exact unspelled (before.length + 1) _ ⟨c :: before, inner, after, rfl, braceless, rfl, rfl⟩
  apart := List.isChain_cons.mpr (List.isChain_cons.mp cut.apart)

/-- Tokens that a template can be cut into are those that it is cut into. -/
theorem IsCut.eq_tokenize (cut : IsCut text tokens) : tokens = tokenize text := by
  fun_induction tokenize text generalizing tokens with
  | case1 =>
    cases tokens with
    | nil => rfl
    | cons token rest =>
      have fit := cut.fit token List.mem_cons_self
      have empty : token.source = [] := (List.append_eq_nil_iff.mp cut.whole).1
      cases token with
      | text chars => exact absurd empty fit.1
      | reference path spelling =>
        obtain ⟨inner, -, rfl, -⟩ := fit
        cases empty
  | case2 c rest inner after found shorter inductionHypothesis =>
    cases tokens with
    | nil => cases cut.whole
    | cons token others =>
      cases token with
      | text chars =>
        rw [cut.reference?_of_text] at found
        cases found
      | reference path spelling =>
        obtain ⟨⟨other, braceless, rfl, rfl⟩, -⟩ := List.forall_mem_cons.mp cut.fit
        rw [reference?_eq_some_iff.mpr ⟨braceless, cut.whole.symm⟩] at found
        obtain ⟨rfl, rfl⟩ := Prod.mk.inj (Option.some.inj found)
        exact congrArg _ (inductionHypothesis cut.tail)
  | case3 c rest none inductionHypothesis =>
    cases tokens with
    | nil => cases cut.whole
    | cons token others =>
      cases token with
      | reference path spelling =>
        obtain ⟨⟨inner, braceless, rfl, -⟩, -⟩ := List.forall_mem_cons.mp cut.fit
        rw [reference?_eq_some_iff.mpr ⟨braceless, cut.whole.symm⟩] at none
        cases none
      | text chars =>
        have some := (cut.fit _ List.mem_cons_self).1
        obtain ⟨first, chars, rfl⟩ := List.exists_cons_of_ne_nil some
        obtain ⟨rfl, behind⟩ : first = c ∧ chars ++ others.flatMap Token.source = rest :=
          List.cons.inj cut.whole
        by_cases more : chars = []
        · subst more
          obtain rfl : others.flatMap Token.source = rest := behind
          have others' := inductionHypothesis cut.tail
          obtain ⟨chars, later, split, -⟩ | ⟨-, pushed⟩ := pushChar_eq first (tokenize _)
          · rw [← others'] at split
            rw [split] at cut
            exact absurd ⟨rfl, rfl⟩ (List.isChain_cons_cons.mp cut.apart).1
          · rw [pushed, ← others']
        · rw [← inductionHypothesis (cut.behind more)]
          rfl

/-- A template is cut in the only way in which it can be. The references that it is cut into are all
that are spelled in it, where they are spelled and in this order, and none begins before another has
ended. -/
theorem cut_at_references (text : List Char) :
    (∀ tokens, IsCut text tokens ↔ tokens = tokenize text) ∧
      (∀ place spelling, (place, spelling) ∈ references 0 (tokenize text) ↔
        Spells text place spelling) ∧
      (references 0 (tokenize text)).Pairwise fun found next =>
        found.1 + found.2.length ≤ next.1 := by
  refine ⟨fun tokens => ⟨IsCut.eq_tokenize, ?_⟩, fun place spelling => ?_,
    (references_inOrder _ 0).2⟩
  · rintro rfl
    exact isCut_tokenize text
  · rw [mem_references_tokenize]
    simp only [Nat.zero_add, exists_eq_left']

/-- Marks that are not closed and braces that are not marked are text. -/
example : tokenize "$\x7ba$\x7bb\x7d$$\x7b x \x7d\x7d".toList =
    [.text "$\x7ba".toList, .reference "b".toList "$\x7bb\x7d".toList, .text "$".toList,
      .reference "x".toList "$\x7b x \x7d".toList, .text "\x7d".toList] := by
  cbv

end Cutting

end Template

end Stepwise
