import Stepwise.Proofs.Template.Expansion
import Stepwise.Proofs.Template.Fault

/-!
# Putting texts for references

A text is plain, or it is a plain stretch with the first reference behind it and then the rest of
the text. Resolving follows this: the stretch stays, the reference becomes what it stands for, and
the rest is resolved by itself, so that nothing that was put in is looked at again. Strict and
lenient resolution differ only at a reference without a value, where the one stops and the other
keeps the spelling.
-/

namespace Stepwise

namespace Template

/-- No reference is spelled in a text. -/
def IsPlain (text : List Char) : Prop := ∀ place spelling, ¬ Spells text place spelling

/-- At a place of a text a path is referred to. -/
def Refers (text : List Char) (place : Nat) (path : List Char) : Prop :=
  ∃ inner, Spells text place (spelled inner) ∧ path = trim inner

/-- A reference without a value, all those before it having one. -/
structure FirstMissing (outputs input : Value) (text : List Char) (place : Nat)
    (path : List Char) : Prop where
  refers : Refers text place path
  missing : lookup path outputs input = none
  earlier : ∀ before other, Refers text before other → before < place →
    lookup other outputs input ≠ none

/-- What a text becomes when references are replaced by the texts of their values: a plain stretch
stays, and so does a reference without a value. What is put in is not part of what is left to do. -/
inductive Expands (outputs input : Value) : List Char → List Char → Prop where
  | plain {text : List Char} (plain : IsPlain text) : Expands outputs input text text
  | valued {front inner after result : List Char} {v : Value} {content : String}
    (plain : IsPlain front) (braceless : IsBraceless inner)
    (found : lookup (trim inner) outputs input = some v) (told : textOf v = .ok content)
    (rest : Expands outputs input after result) :
    Expands outputs input (front ++ spelled inner ++ after) (front ++ content.toList ++ result)
  | valueless {front inner after result : List Char}
    (plain : IsPlain front) (braceless : IsBraceless inner)
    (missing : lookup (trim inner) outputs input = none)
    (rest : Expands outputs input after result) :
    Expands outputs input (front ++ spelled inner ++ after) (front ++ spelled inner ++ result)

/-! ## The first reference of a text -/

section First

variable {text front inner after spelling path : List Char} {place : Nat}

theorem spelled_inj {other : List Char} : spelled inner = spelled other ↔ inner = other := by
  simp [spelled]

/-- A plain stretch is one token, or none when it is empty. -/
def plainTokens (front : List Char) : List Token := if front = [] then [] else [.text front]

theorem tokenize_plain (plain : IsPlain text) : tokenize text = plainTokens text := by
  unfold plainTokens
  split
  · rename_i empty
    subst empty
    exact IsCut.nil.eq_tokenize.symm
  · rename_i some
    refine (IsCut.eq_tokenize ⟨by simp [Token.source], ?_, .singleton _⟩).symm
    intro token member
    obtain rfl := List.mem_singleton.mp member
    exact ⟨some, plain⟩

/-- A plain stretch in front of a reference is cut off there. -/
theorem tokenize_front (plain : IsPlain front) (braceless : IsBraceless inner)
    (after : List Char) : tokenize (front ++ spelled inner ++ after) =
      plainTokens front ++ .reference (trim inner) (spelled inner) :: tokenize after := by
  have behind := (isCut_tokenize after).reference braceless
  unfold plainTokens
  split
  · rename_i empty
    subst empty
    exact behind.eq_tokenize.symm
  · rename_i some
    refine (IsCut.eq_tokenize ⟨?_, ?_, ?_⟩).symm
    · rw [List.singleton_append, List.flatMap_cons, behind.whole, List.append_assoc]
      rfl
    · exact List.forall_mem_cons.mpr ⟨⟨some, plain⟩, behind.fit⟩
    · exact List.isChain_cons_cons.mpr ⟨by simp [Token.isText], behind.apart⟩

/-- Behind a plain stretch the next reference is the one that stands there. -/
theorem spells_front (plain : IsPlain front) (braceless : IsBraceless inner) :
    Spells (front ++ spelled inner ++ after) place spelling ↔
      (place = front.length ∧ spelling = spelled inner) ∨
        ∃ later, place = front.length + (spelled inner).length + later ∧
          Spells after later spelling := by
  have listed : references 0 (tokenize (front ++ spelled inner ++ after)) =
      (front.length, spelled inner) ::
        references (front.length + (spelled inner).length) (tokenize after) := by
    rw [tokenize_front plain braceless, plainTokens]
    split
    · rename_i empty
      subst empty
      rfl
    · rw [List.singleton_append, references, references, Nat.zero_add]
  have whole : (place, spelling) ∈ references 0 (tokenize (front ++ spelled inner ++ after)) ↔ _ :=
    mem_references_tokenize _ 0
  simp only [Nat.zero_add, exists_eq_left'] at whole
  rw [← whole, listed, List.mem_cons, mem_references_tokenize, Prod.mk.injEq]

theorem refers_front (plain : IsPlain front) (braceless : IsBraceless inner) :
    Refers (front ++ spelled inner ++ after) place path ↔
      (place = front.length ∧ path = trim inner) ∨
        ∃ later, place = front.length + (spelled inner).length + later ∧
          Refers after later path := by
  constructor
  · rintro ⟨other, spells, rfl⟩
    obtain ⟨rfl, spelling⟩ | ⟨later, rfl, behind⟩ := (spells_front plain braceless).mp spells
    · exact .inl ⟨rfl, spelled_inj.mp spelling ▸ rfl⟩
    · exact .inr ⟨later, rfl, other, behind, rfl⟩
  · rintro (⟨rfl, rfl⟩ | ⟨later, rfl, other, spells, rfl⟩)
    · exact ⟨inner, (spells_front plain braceless).mpr (.inl ⟨rfl, rfl⟩), rfl⟩
    · exact ⟨other, (spells_front plain braceless).mpr (.inr ⟨later, rfl, spells⟩), rfl⟩

theorem IsPlain.not_refers (plain : IsPlain text) : ¬ Refers text place path := by
  rintro ⟨inner, spells, -⟩
  exact plain _ _ spells

/-- A text that is not plain has a first reference. -/
theorem exists_front (spells : ¬ IsPlain text) : ∃ front inner after,
    IsPlain front ∧ IsBraceless inner ∧ text = front ++ spelled inner ++ after := by
  have cut := isCut_tokenize text
  have first (path spelling : List Char) (others : List Token)
      (cut : IsCut text (.reference path spelling :: others)) : ∃ front inner after,
      IsPlain front ∧ IsBraceless inner ∧ text = front ++ spelled inner ++ after := by
    obtain ⟨⟨inner, braceless, rfl, -⟩, -⟩ := List.forall_mem_cons.mp cut.fit
    exact ⟨[], inner, others.flatMap Token.source, fun _ _ => not_spells_nil, braceless,
      cut.whole.symm⟩
  cases tokens : tokenize text with
  | nil =>
    rw [tokens] at cut
    exact absurd (cut.whole ▸ fun _ _ => not_spells_nil) spells
  | cons token others =>
    rw [tokens] at cut
    cases token with
    | reference path spelling => exact first path spelling others cut
    | text chars =>
      obtain ⟨⟨-, plain⟩, fit⟩ := List.forall_mem_cons.mp cut.fit
      cases others with
      | nil =>
        have whole : chars = text := by simpa [Token.source] using cut.whole
        exact absurd (whole ▸ plain) spells
      | cons next others =>
        cases next with
        | text more => exact absurd ⟨rfl, rfl⟩ (List.isChain_cons_cons.mp cut.apart).1
        | reference path spelling =>
          obtain ⟨⟨inner, braceless, rfl, -⟩, -⟩ := List.forall_mem_cons.mp fit
          refine ⟨chars, inner, others.flatMap Token.source, plain, braceless, ?_⟩
          rw [← cut.whole, List.append_assoc]
          rfl

/-- What holds of plain texts, and of a text when it holds of what follows its first reference,
holds of all texts. -/
theorem reference_induction {holds : List Char → Prop}
    (plain : ∀ text, IsPlain text → holds text)
    (reference : ∀ front inner after, IsPlain front → IsBraceless inner → holds after →
      holds (front ++ spelled inner ++ after)) (text : List Char) : holds text := by
  by_cases none : IsPlain text
  · exact plain text none
  · obtain ⟨front, inner, after, clear, braceless, rfl⟩ := exists_front none
    exact reference front inner after clear braceless
      (reference_induction plain reference after)
termination_by text.length
decreasing_by
  subst_vars
  simp [spelled]
  omega

end First

/-! ## Resolving along the references -/

section Resolving

variable {outputs input : Value} {strict : Bool}

theorem resolveText_ofList (text : List Char) : resolveText (String.ofList text) outputs input
    strict = ((tokenize text).mapM (resolveToken outputs input strict)).map String.join := by
  rw [resolveText, String.toList_ofList]
  cases (tokenize text).mapM (resolveToken outputs input strict) <;> rfl

theorem join_plainTokens (front : List Char) (rest : List Token) :
    ((plainTokens front ++ rest).mapM (resolveToken outputs input strict)).map String.join =
      ((rest.mapM (resolveToken outputs input strict)).map String.join).map
        (String.ofList front ++ ·) := by
  unfold plainTokens
  split
  · rename_i empty
    subst empty
    rw [List.nil_append]
    cases rest.mapM (resolveToken outputs input strict) with
    | error f => rfl
    | ok parts => simp [Except.map]
  · rw [List.singleton_append, List.mapM_cons, resolveToken]
    cases rest.mapM (resolveToken outputs input strict) with
    | error f => rfl
    | ok parts => simp [Except.map, bind, Except.bind, pure, Except.pure, String.join_cons]

/-- A plain text stays as it is. -/
theorem resolveText_plain {text : List Char} (plain : IsPlain text) :
    resolveText (String.ofList text) outputs input strict = .ok (String.ofList text) := by
  rw [resolveText_ofList, tokenize_plain plain, ← List.append_nil (plainTokens text),
    join_plainTokens]
  simp [Except.map, pure, Except.pure, String.join_nil]

/-- The first reference is resolved, and then the text behind it. -/
theorem resolveText_front {front inner : List Char} (plain : IsPlain front)
    (braceless : IsBraceless inner) (after : List Char) :
    resolveText (String.ofList (front ++ spelled inner ++ after)) outputs input strict = do
      let put ← resolveToken outputs input strict (.reference (trim inner) (spelled inner))
      let rest ← resolveText (String.ofList after) outputs input strict
      return String.ofList front ++ put ++ rest := by
  rw [resolveText_ofList, tokenize_front plain braceless, join_plainTokens, List.mapM_cons,
    resolveText_ofList]
  cases resolveToken outputs input strict (.reference (trim inner) (spelled inner)) with
  | error f => rfl
  | ok put =>
    cases (tokenize after).mapM (resolveToken outputs input strict) with
    | error f => rfl
    | ok parts =>
      simp [Except.map, bind, Except.bind, pure, Except.pure, String.join_cons,
        String.append_assoc]

/-- What a reference with a value becomes, strict or not. -/
theorem resolveToken_valued {path spelling : List Char} {v : Value}
    (found : lookup path outputs input = some v) :
    resolveToken outputs input strict (.reference path spelling) = textOf v := by
  rw [resolveToken, found]

theorem resolveToken_valueless {path : List Char} (spelling : List Char)
    (missing : lookup path outputs input = none) :
    resolveToken outputs input false (.reference path spelling) = .ok (String.ofList spelling) ∧
      resolveToken outputs input true (.reference path spelling) =
        .error (.unresolvedReference (.str (String.ofList path))) := by
  rw [resolveToken, resolveToken, missing]
  exact ⟨rfl, rfl⟩

end Resolving

/-! ## Lenient resolution -/

section Lenient

variable {outputs input : Value} {text : List Char}

/-- What a text expands to is what it resolves to. -/
theorem Expands.resolveText {result : List Char} (expands : Expands outputs input text result) :
    resolveText (String.ofList text) outputs input false = .ok (String.ofList result) := by
  induction expands with
  | plain plain => exact resolveText_plain plain
  | valued plain braceless found told rest inductionHypothesis =>
    rw [resolveText_front plain braceless, resolveToken_valued found, told, inductionHypothesis]
    simp [bind, Except.bind, pure, Except.pure, String.ofList_append, String.append_assoc]
  | @valueless front inner after result plain braceless missing rest inductionHypothesis =>
    rw [resolveText_front plain braceless, (resolveToken_valueless (spelled inner) missing).1,
      inductionHypothesis]
    simp [bind, Except.bind, pure, Except.pure, String.ofList_append, String.append_assoc]

end Lenient

/-! ## Strict resolution -/

section Strict

variable {outputs input : Value} {text : List Char}

/-- Strict resolution stops at the first reference without a value, provided that the values before
it have texts. -/
theorem FirstMissing.resolveText {place : Nat} {path : List Char}
    (first : FirstMissing outputs input text place path)
    (told : ∀ place path v, Refers text place path → lookup path outputs input = some v →
      ∃ content, textOf v = .ok content) :
    resolveText (String.ofList text) outputs input true =
      .error (.unresolvedReference (.str (String.ofList path))) := by
  induction text using reference_induction generalizing place with
  | plain text plain => exact absurd first.refers plain.not_refers
  | reference front inner after plain braceless inductionHypothesis =>
    obtain ⟨refers, missing, earlier⟩ := first
    have front_refers {place : Nat} {path : List Char} :
        Refers (front ++ spelled inner ++ after) place path ↔ _ := refers_front plain braceless
    rw [resolveText_front plain braceless]
    obtain ⟨rfl, rfl⟩ | ⟨later, rfl, behind⟩ := front_refers.mp refers
    · rw [(resolveToken_valueless _ missing).2]
      rfl
    · have here := front_refers.mpr (.inl ⟨rfl, rfl⟩)
      have valued := earlier _ _ here (by simp [spelled]; omega)
      obtain ⟨v, found⟩ := Option.ne_none_iff_exists'.mp valued
      obtain ⟨content, formed⟩ := told _ _ v here found
      have onward : FirstMissing outputs input after later path :=
        ⟨behind, missing, fun before other refers sooner =>
          earlier _ other (front_refers.mpr (.inr ⟨before, rfl, refers⟩)) (by omega)⟩
      rw [resolveToken_valued found, formed, inductionHypothesis onward fun place path v refers =>
        told _ path v (front_refers.mpr (.inr ⟨place, rfl, refers⟩))]
      rfl

end Strict

end Template

end Stepwise
