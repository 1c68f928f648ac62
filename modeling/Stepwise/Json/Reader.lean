import Stepwise.Value.Equality
import Stepwise.Value.Text

/-!
# Reading JSON

The reader works on the characters not yet read; a place in a text is given by how many of them
are left. A refusal names the reason and the place, which the message gives as line, column and
offset. Of equal names in one object the last content counts. A run of digits with neither point
nor exponent is a whole number, and has a limit.
-/

namespace Stepwise

namespace Json

/-- Why a text is no JSON. -/
inductive Reason where
  | value
  | name
  | colon
  | comma
  | extra
  | unterminated
  | control
  | escape
  | unicodeEscape
  | byteOrderMark
  | tooManyDigits (count : Nat)
  | tooDeep (container : String)
  deriving DecidableEq, Repr

/-- A reason and the number of characters left at the place it holds for. -/
structure Refusal where
  reason : Reason
  left : Nat
  deriving DecidableEq, Repr

def Reason.text : Reason → String
  | .value => "Expecting value"
  | .name => "Expecting property name enclosed in double quotes"
  | .colon => "Expecting ':' delimiter"
  | .comma => "Expecting ',' delimiter"
  | .extra => "Extra data"
  | .unterminated => "Unterminated string starting at"
  | .control => "Invalid control character at"
  | .escape => "Invalid \\escape"
  | .unicodeEscape => "Invalid \\uXXXX escape"
  | .byteOrderMark => "Unexpected UTF-8 BOM (decode using utf-8-sig)"
  | .tooManyDigits count =>
    s!"Exceeds the limit (4300 digits) for integer string conversion: value has {count} digits; " ++
      "use sys.set_int_max_str_digits() to increase the limit"
  | .tooDeep container =>
    s!"maximum recursion depth exceeded while decoding a JSON {container} from a unicode string"

/-- The message about a text: lines are ended by line feeds and counted from one. -/
def Refusal.text (refusal : Refusal) (source : List Char) : String :=
  match refusal.reason with
  | .tooManyDigits count => (Reason.tooManyDigits count).text
  | .tooDeep container => (Reason.tooDeep container).text
  | reason =>
    let offset := source.length - refusal.left
    let before := source.take offset
    let line := before.count '\n' + 1
    let column := (before.reverse.takeWhile (· ≠ '\n')).length + 1
    s!"{reason.text}: line {line} column {column} (char {offset})"

/-- A refusal as a fault: a value is not acceptable, unless the machinery gives up. -/
def Refusal.fault (refusal : Refusal) (source : List Char) : Fault :=
  match refusal.reason with
  | .tooDeep _ => .machinery "RecursionError" (refusal.text source)
  | _ => .valueError (refusal.text source)

/-- Refuses at the place where the given characters are left. -/
def refuseAt {α : Type} (reason : Reason) (left : List Char) : Except Refusal α :=
  .error ⟨reason, left.length⟩

def isSpace (c : Char) : Bool := c = ' ' || c = '\t' || c = '\n' || c = '\r'

def skipSpace (text : List Char) : List Char := text.dropWhile isSpace

def hexValue? (c : Char) : Option Nat :=
  if '0' ≤ c ∧ c ≤ '9' then some (c.toNat - 48)
  else if 'a' ≤ c ∧ c ≤ 'f' then some (c.toNat - 87)
  else if 'A' ≤ c ∧ c ≤ 'F' then some (c.toNat - 55)
  else none

/-- The code unit of exactly four hexadecimal digits. -/
def unit? (ds : List Char) : Option Nat :=
  if ds.length = 4 then
    ds.foldl (fun total c => total.bind fun t => (hexValue? c).map (16 * t + ·)) (some 0)
  else none

/-- The character of a one-letter escape. -/
def simpleEscape? (c : Char) : Option Char :=
  if c = '"' ∨ c = '\\' ∨ c = '/' then some c
  else if c = 'b' then some '\x08'
  else if c = 'f' then some '\x0c'
  else if c = 'n' then some '\n'
  else if c = 'r' then some '\r'
  else if c = 't' then some '\t'
  else none

/-- The code unit after `\u`, with a character to spare behind it. -/
def escapedUnit? (rest : List Char) : Option Nat :=
  if 4 < rest.length then unit? (rest.take 4) else none

def isHighUnit (n : Nat) : Bool := 0xd800 ≤ n && n ≤ 0xdbff

def isLowUnit (n : Nat) : Bool := 0xdc00 ≤ n && n ≤ 0xdfff

/-- The character of a code point; a lone half of a pair is none and is replaced. -/
def charOfCode (n : Nat) : Char :=
  if isHighUnit n || isLowUnit n then '\ufffd' else Char.ofNat n

/-- Reads the characters of a string up to its closing quote; `opening` is what was left at its
opening quote. The fuel bounds the number of characters. -/
def stringBody (opening : List Char) : Nat → List Char → Except Refusal (List Char × List Char)
  | 0, _ => refuseAt .unterminated opening
  | _, [] => refuseAt .unterminated opening
  | fuel + 1, c :: rest =>
    let keep (c : Char) (rest : List Char) : Except Refusal (List Char × List Char) := do
      let (text, rest) ← stringBody opening fuel rest
      return (c :: text, rest)
    if c = '"' then .ok ([], rest)
    else if c = '\\' then
      match rest with
      | [] => refuseAt .unterminated opening
      | letter :: more =>
        if letter = 'u' then
          match escapedUnit? more with
          | none => refuseAt .unicodeEscape rest
          | some high =>
            let after := more.drop 4
            match after with
            | '\\' :: 'u' :: second =>
              if isHighUnit high ∧ 4 < second.length then
                match unit? (second.take 4) with
                | none => refuseAt .unicodeEscape ('u' :: second)
                | some low =>
                  if isLowUnit low then
                    keep (Char.ofNat (0x10000 + (high - 0xd800) * 0x400 + (low - 0xdc00)))
                      (second.drop 4)
                  else keep (charOfCode high) after
              else keep (charOfCode high) after
            | after => keep (charOfCode high) after
        else
          match simpleEscape? letter with
          | some escaped => keep escaped more
          | none => refuseAt .escape (c :: rest)
    else if c.toNat < 0x20 then refuseAt .control (c :: rest)
    else keep c rest

/-- Reads a string from its opening quote on. -/
def string (text : List Char) : Except Refusal (List Char × List Char) :=
  stringBody text text.length (text.drop 1)

/-- The fraction of a number, if digits follow the point. -/
def fractionPart (text : List Char) : List Char × List Char :=
  match text with
  | '.' :: rest =>
    let (ds, after) := rest.span Decimal.isDigit
    if ds = [] then ([], text) else ('.' :: ds, after)
  | _ => ([], text)

/-- The exponent of a number, if digits follow its mark and sign. -/
def exponentPart (text : List Char) : List Char × List Char :=
  match text with
  | mark :: rest =>
    if mark = 'e' ∨ mark = 'E' then
      let (sign, rest) :=
        match rest with
        | '+' :: more => (['+'], more)
        | '-' :: more => (['-'], more)
        | rest => ([], rest)
      let (ds, after) := rest.span Decimal.isDigit
      if ds = [] then ([], text) else ('e' :: sign ++ ds, after)
    else ([], text)
  | [] => ([], text)

/-- Reads a number; a leading zero stands alone. -/
def number (text : List Char) : Except Refusal (Value × List Char) :=
  let (negative, body) :=
    match text with
    | '-' :: rest => (true, rest)
    | _ => (false, text)
  let (ds, rest) :=
    match body with
    | '0' :: rest => (['0'], rest)
    | body => body.span Decimal.isDigit
  if ds = [] then refuseAt .value text
  else
    let (fraction, rest) := fractionPart rest
    let (exponent, rest) := exponentPart rest
    if fraction = [] ∧ exponent = [] then
      if Numeral.digitLimit < ds.length then .error ⟨.tooManyDigits ds.length, rest.length⟩
      else
        let magnitude : Int := Decimal.value ds
        .ok (.int (if negative then -magnitude else magnitude), rest)
    else
      let x := (Decimal.readUnsigned? negative (ds ++ fraction ++ exponent)).getD (.nan default)
      .ok (.float x, rest)

/-- Takes a word off the front of a text. -/
def dropWord? (word : String) (text : List Char) : Option (List Char) :=
  let letters := word.toList
  if letters.isPrefixOf text then some (text.drop letters.length) else none

/-- The words that stand for a value. -/
def words : List (String × Value) :=
  [("null", .null), ("true", .bool true), ("false", .bool false), ("NaN", .float (.nan .json)),
   ("Infinity", .float (.infinity false)), ("-Infinity", .float (.infinity true))]

/-- The value of the word at the front of a text, if there is one. -/
def word? (text : List Char) : Option (Value × List Char) :=
  words.findSome? fun (word, v) => (dropWord? word text).map (v, ·)

/-- So many arrays and objects may lie within each other. -/
def deepest : Nat := 987

mutual

/-- Reads one value at a depth; the fuel bounds nesting and length together. -/
def value (depth : Nat) : Nat → List Char → Except Refusal (Value × List Char)
  | 0, text => refuseAt .value text
  | fuel + 1, text =>
    match text with
    | '"' :: _ => do
      let (s, rest) ← string text
      return (.str (String.ofList s), rest)
    | '\x7b' :: rest =>
      if deepest ≤ depth then refuseAt (.tooDeep "object") text
      else
        match skipSpace rest with
        | '\x7d' :: rest => .ok (.map [], rest)
        | rest => do
          let (entries, rest) ← members (depth + 1) fuel [] rest
          return (.map entries, rest)
    | '[' :: rest =>
      if deepest ≤ depth then refuseAt (.tooDeep "array") text
      else
        match skipSpace rest with
        | ']' :: rest => .ok (.list [], rest)
        | rest => do
          let (items, rest) ← elements (depth + 1) fuel rest
          return (.list items, rest)
    | text =>
      match word? text with
      | some found => .ok found
      | none => number text

/-- Reads the items of a list that is not empty, up to its end. -/
def elements (depth : Nat) : Nat → List Char → Except Refusal (List Value × List Char)
  | 0, text => refuseAt .value text
  | fuel + 1, text => do
    let (item, rest) ← value depth fuel text
    match skipSpace rest with
    | ']' :: rest => return ([item], rest)
    | ',' :: rest =>
      let (others, rest) ← elements depth fuel (skipSpace rest)
      return (item :: others, rest)
    | rest => refuseAt .comma rest

/-- Reads the members of an object that is not empty, up to its end. -/
def members (depth : Nat) : Nat → Table Value → List Char → Except Refusal (Table Value × List Char)
  | 0, _, text => refuseAt .name text
  | fuel + 1, seen, text =>
    match text with
    | '"' :: _ => do
      let (name, rest) ← string text
      match skipSpace rest with
      | ':' :: rest =>
        let (content, rest) ← value depth fuel (skipSpace rest)
        let seen := Table.insert (.str (String.ofList name)) content seen
        match skipSpace rest with
        | '\x7d' :: rest => return (seen, rest)
        | ',' :: rest => members depth fuel seen (skipSpace rest)
        | rest => refuseAt .comma rest
      | rest => refuseAt .colon rest
    | text => refuseAt .name text

end

/-- Reads a whole text as one value with spaces around it. -/
def read (text : List Char) : Except Refusal Value := do
  if text.head? = some '\ufeff' then refuseAt .byteOrderMark text
  let (v, rest) ← value 0 (2 * text.length + 2) (skipSpace text)
  match skipSpace rest with
  | [] => return v
  | rest => refuseAt .extra rest

end Json

end Stepwise
