import Stepwise.Value.Access

/-!
# Faults about a place

Faults of coding tell the stretch of a text or of bytes that could not be coded, and faults of a
source text tell the file and the line. Both refuse details of another shape, so that what they
keep can always be told.
-/

namespace Stepwise

namespace Fault

/-- The given details have to be of a fixed number. -/
def exactly (expected : Nat) (details : List Value) : Except Fault Unit :=
  if details.length = expected then .ok ()
  else .error (typeError s!"function takes exactly {expected} arguments ({details.length} given)")

/-- A detail that has to be a text; `position` counts from one. -/
def textDetail (position : Nat) (v : Value) : Except Fault Value :=
  match v with
  | .str _ => .ok v
  | .null => .error (typeError s!"argument {position} must be str, not None")
  | _ => .error (typeError s!"argument {position} must be str, not {v.fullKind}")

/-- A detail that has to be bytes. -/
def bytesDetail (v : Value) : Except Fault Value :=
  match v with
  | .bytes _ => .ok v
  | _ => .error (typeError s!"a bytes-like object is required, not '{v.fullKind}'")

/-- A detail that has to be a whole number of the machine's size. -/
def placeDetail (v : Value) : Except Fault Value :=
  match v.index? with
  | none => .error (typeError s!"'{v.fullKind}' object cannot be interpreted as an integer")
  | some n =>
    if Value.isPlaceSized n then .ok (.int n)
    else .error (overflowError "a number too large for a position")

/-- A fault of coding, with its details in order: the code (unless the text is translated within
one), what was to be coded, the stretch of it, and the reason. -/
def ofCoding (kind : String) (details : List Value) : Except Fault Fault := do
  if kind = "UnicodeTranslateError" then
    exactly 4 details
    match details with
    | [content, first, last, reason] =>
      let content ← textDetail 1 content
      let first ← placeDetail first
      let last ← placeDetail last
      let reason ← textDetail 4 reason
      return .other kind [content, first, last, reason]
    | _ => return .other kind details
  else if kind = "UnicodeDecodeError" ∨ kind = "UnicodeEncodeError" then
    exactly 5 details
    match details with
    | [code, content, first, last, reason] =>
      let code ← textDetail 1 code
      let content ← if kind = "UnicodeDecodeError" then pure content else textDetail 2 content
      let first ← placeDetail first
      let last ← placeDetail last
      let reason ← textDetail 5 reason
      let content ← if kind = "UnicodeDecodeError" then bytesDetail content else pure content
      return .other kind [code, content, first, last, reason]
    | _ => return .other kind details
  else return .other kind details

/-- A fault of a source text. Only two details are a message with a place, which is a row of at
least four parts: the file, the line, the column and the text of the line. Two more, the end's
line and column, go together. -/
def ofSource (kind : String) (details : List Value) : Except Fault Fault :=
  match details with
  | [message, place] => do
    let parts ← place.items
    match parts with
    | [file, line, _, _] | [file, line, _, _, _, _] => return .other kind [message, file, line]
    | [_, _, _, _, _] =>
      throw (typeError "end_offset must be provided when end_lineno is provided")
    | _ =>
      let bound := if parts.length < 4 then "at least 4" else "at most 6"
      throw (typeError s!"function takes {bound} arguments ({parts.length} given)")
  | _ => .ok (.other kind [details.headD .null, .null, .null])

/-- A group of faults needs faults to hold, and no value is one. -/
def ofGroup (details : List Value) : Except Fault Fault :=
  match details with
  | [message, members] =>
    match message with
    | .str _ =>
      match members with
      | .list [] | .tuple [] | .str "" | .bytes [] =>
        .error (valueError "second argument (exceptions) must be a non-empty sequence")
      | .list _ | .tuple _ | .str _ | .bytes _ =>
        .error (valueError "Item 0 of second argument (exceptions) is not an exception")
      | _ => .error (typeError "second argument (exceptions) must be a sequence")
    | .null =>
      .error (typeError "BaseExceptionGroup.__new__() argument 1 must be str, not None")
    | _ => .error (typeError
        s!"BaseExceptionGroup.__new__() argument 1 must be str, not {message.fullKind}")
  | _ => .error (typeError
      s!"BaseExceptionGroup.__new__() takes exactly 2 arguments ({details.length} given)")

end Fault

end Stepwise
