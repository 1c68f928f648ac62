/-!
# YAML tokens

What a YAML text is made of once indentation has become opening and closing tokens.
-/

namespace Stepwise

namespace Yaml

/-- An instruction about the document that follows. -/
inductive Directive where
  | version (major : Nat)
  | handle (name stands : List Char)
  | other

inductive Token where
  | streamEnd
  | directive (content : Directive)
  | documentStart
  | documentEnd
  | blockSequence
  | blockMapping
  | blockEnd
  | flowSequence
  | flowSequenceEnd
  | flowMapping
  | flowMappingEnd
  | flowEntry
  | blockEntry
  | key
  | content
  | alias (name : List Char)
  | anchor (name : List Char)
  | tag (handle : Option (List Char)) (suffix : List Char)
  | scalar (plain : Bool) (text : List Char)

end Yaml

end Stepwise
