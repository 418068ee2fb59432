/-
This file develops JSON values: looking up fields, comparing values, and the
compact text a value is written as.

An integer is one that fits a signed or an unsigned 64-bit word. Any other
number is a double, known by the text it is printed as and by its value. A
comparison with a bound is made on doubles, so an integer is rounded first. The
fields of an object stand in the order in which they are written.

The text is spelled out and not assumed, because how long an answer is depends on
each escape in a message and on each comma between entries. Only the text of a
double is taken as given.
-/

import Mathlib.Algebra.GroupWithZero.Nat
import Mathlib.Data.List.Basic
import Mathlib.Data.String.Basic
import Mathlib.Tactic.Common

namespace Json

/-! ### Values -/

inductive Number where
  | integer (value : Int)
  | double (text : String) (value : Rat)
  deriving DecidableEq

inductive Value where
  | null
  | bool (value : Bool)
  | number (value : Number)
  | string (text : String)
  | array (items : List Value)
  | object (fields : List (String × Value))

namespace Number

/-- The text of a number. -/
def text : Number → String
  | .integer value => toString value
  | .double text _ => text

/-- A natural number rounded to 53 significant bits, to an even result if it is halfway. -/
def roundToDouble (magnitude : Nat) : Nat :=
  let step := 2 ^ (Nat.log2 magnitude - 52)
  let below := magnitude / step
  let rest := magnitude % step
  if 2 * rest < step ∨ (2 * rest = step ∧ below % 2 = 0) then below * step
  else (below + 1) * step

/-- The double a number is compared as. -/
def asDouble : Number → Rat
  | .integer value => value.sign * (roundToDouble value.natAbs : Int)
  | .double _ value => value

end Number

namespace Value

def asObject : Value → Option (List (String × Value))
  | .object fields => some fields
  | _ => none

def asArray : Value → Option (List Value)
  | .array items => some items
  | _ => none

def asString : Value → Option String
  | .string text => some text
  | _ => none

def asNumber : Value → Option Number
  | .number value => some value
  | _ => none

def asBool : Value → Option Bool
  | .bool value => some value
  | _ => none

def isNull : Value → Bool
  | .null => true
  | _ => false

def isInteger : Value → Bool
  | .number (.integer _) => true
  | _ => false

end Value

/-- The value of a field. -/
def field (name : String) (fields : List (String × Value)) : Option Value :=
  (fields.find? fun entry => entry.1 == name).map Prod.snd

/-- The value of a field, if there is an object to look into. -/
def Value.get (value : Value) (name : String) : Option Value :=
  value.asObject.bind (field name)

mutual

/-- Whether two values are the same. -/
def Value.same : Value → Value → Bool
  | .null, .null => true
  | .bool first, .bool second => first == second
  | .number first, .number second => first == second
  | .string first, .string second => first == second
  | .array first, .array second => sameItems first second
  | .object first, .object second => sameFields first second
  | _, _ => false

def sameItems : List Value → List Value → Bool
  | [], [] => true
  | first :: firstRest, second :: secondRest =>
      first.same second && sameItems firstRest secondRest
  | _, _ => false

def sameFields : List (String × Value) → List (String × Value) → Bool
  | [], [] => true
  | (firstName, first) :: firstRest, (secondName, second) :: secondRest =>
      firstName == secondName && first.same second && sameFields firstRest secondRest
  | _, _ => false

end

/-! ### Text -/

def hexDigit (digit : Nat) : Char := "0123456789abcdef".toList.getD digit '0'

/-- What stands for a character inside a quoted text. -/
def escape (character : Char) : List Char :=
  if character = '"' then ['\\', '"']
  else if character = '\\' then ['\\', '\\']
  else if character.toNat = 0x08 then ['\\', 'b']
  else if character.toNat = 0x0C then ['\\', 'f']
  else if character = '\n' then ['\\', 'n']
  else if character = '\r' then ['\\', 'r']
  else if character = '\t' then ['\\', 't']
  else if character.toNat < 0x20 then
    ['\\', 'u', '0', '0', hexDigit (character.toNat / 16), hexDigit (character.toNat % 16)]
  else [character]

/-- A text between quotation marks. -/
def quote (text : String) : String :=
  "\"" ++ String.ofList (text.toList.flatMap escape) ++ "\""

/-- Texts one after the other, with commas in between. -/
def commaSeparated : List String → String
  | [] => ""
  | [text] => text
  | text :: next :: rest => text ++ "," ++ commaSeparated (next :: rest)

mutual

/-- The compact text of a value. -/
def Value.render : Value → String
  | .null => "null"
  | .bool true => "true"
  | .bool false => "false"
  | .number value => value.text
  | .string text => quote text
  | .array items => "[" ++ commaSeparated (renderItems items) ++ "]"
  | .object fields => "\x7b" ++ commaSeparated (renderFields fields) ++ "\x7d"

def renderItems : List Value → List String
  | [] => []
  | item :: rest => item.render :: renderItems rest

def renderFields : List (String × Value) → List String
  | [] => []
  | (name, value) :: rest => (quote name ++ ":" ++ value.render) :: renderFields rest

end

/-- How many bytes a value is written as. -/
def Value.size (value : Value) : Nat := value.render.utf8ByteSize

/-- The bytes of the text of a value. -/
def Value.utf8 (value : Value) : List UInt8 := value.render.toUTF8.data.toList

example : (Value.object [("a", .array [.null, .number (.integer (-7))])]).render =
    "\x7b\"a\":[null,-7]\x7d" := by decide

/-! ### Sizes -/

theorem utf8ByteSize_commaSeparated (texts : List String) : (commaSeparated texts).utf8ByteSize =
      (texts.map String.utf8ByteSize).sum + (texts.length - 1) := by
  fun_induction commaSeparated texts with
  | case1 => rfl
  | case2 text => simp
  | case3 text next rest inductionHypothesis =>
    have comma : ",".utf8ByteSize = 1 := by decide
    simp only [String.utf8ByteSize_append, inductionHypothesis, List.map_cons,
      List.sum_cons, List.length_cons]
    omega

theorem renderItems_eq_map (items : List Value) : renderItems items = items.map Value.render := by
  induction items with
  | nil => rfl
  | cons item rest inductionHypothesis => rw [renderItems, inductionHypothesis, List.map_cons]

/-- An array is as long as its items, the commas between them and the brackets. -/
theorem size_array (items : List Value) :
    (Value.array items).size = (items.map Value.size).sum + (items.length - 1) + 2 := by
  have brackets : "[".utf8ByteSize = 1 ∧ "]".utf8ByteSize = 1 := by decide
  have sizes : (renderItems items).map String.utf8ByteSize = items.map Value.size := by
    rw [renderItems_eq_map, List.map_map]
    rfl
  simp only [Value.size, Value.render, String.utf8ByteSize_append,
    utf8ByteSize_commaSeparated, sizes]
  rw [renderItems_eq_map, List.length_map]
  omega

/-- A character that is not written as it is stands behind a backslash, and is an ASCII one. -/
theorem escape_cases (character : Char) : escape character = [character] ∨
      character.toNat < 128 ∧ ∃ rest, escape character = '\\' :: rest := by
  unfold escape
  split_ifs with quotation backslash backspace feed newline carriage tab control
  · exact .inr ⟨by subst quotation; decide, _, rfl⟩
  · exact .inr ⟨by subst backslash; decide, _, rfl⟩
  · exact .inr ⟨by omega, _, rfl⟩
  · exact .inr ⟨by omega, _, rfl⟩
  · exact .inr ⟨by subst newline; decide, _, rfl⟩
  · exact .inr ⟨by subst carriage; decide, _, rfl⟩
  · exact .inr ⟨by subst tab; decide, _, rfl⟩
  · exact .inr ⟨by omega, _, rfl⟩
  · exact .inl rfl

theorem utf8Size_le_escape (character : Char) :
    character.utf8Size ≤ String.utf8Len (escape character) := by
  rcases escape_cases character with plain | ⟨ascii, rest, escaped⟩
  · rw [plain]
    exact Nat.le_add_left _ _
  · have single : character.utf8Size = 1 :=
      Char.utf8Size_eq_one_iff.mpr (UInt32.le_iff_toNat_le.mpr (Nat.le_of_lt_succ ascii))
    have backslash : '\\'.utf8Size = 1 := by decide
    rw [escaped, String.utf8Len_cons, single]
    exact Nat.le_add_left _ _

theorem utf8Len_le_flatMap_escape (characters : List Char) :
    String.utf8Len characters ≤ String.utf8Len (characters.flatMap escape) := by
  induction characters with
  | nil => rfl
  | cons character rest inductionHypothesis =>
    have head := utf8Size_le_escape character
    rw [List.flatMap_cons, String.utf8Len_append, String.utf8Len_cons]
    omega

/-- A text is not written in fewer bytes than it has. -/
theorem utf8ByteSize_le_quote (text : String) :
    text.utf8ByteSize + 2 ≤ (quote text).utf8ByteSize := by
  have mark : "\"".utf8ByteSize = 1 := by decide
  have inner := utf8Len_le_flatMap_escape text.toList
  rw [String.utf8Len_toList] at inner
  unfold quote
  rw [String.utf8ByteSize_append, String.utf8ByteSize_append,
    String.utf8ByteSize_ofList (text.toList.flatMap escape)]
  omega

/-- How many bytes a field is written as. -/
def fieldSize (entry : String × Value) : Nat :=
  (quote entry.1).utf8ByteSize + 1 + entry.2.size

theorem map_size_renderFields (fields : List (String × Value)) :
    (renderFields fields).map String.utf8ByteSize = fields.map fieldSize := by
  induction fields with
  | nil => rfl
  | cons entry rest inductionHypothesis =>
    have colon : ":".utf8ByteSize = 1 := by decide
    simp only [renderFields, List.map_cons, inductionHypothesis, String.utf8ByteSize_append]
    rfl

/-- An object is as long as its fields, the commas between them and the braces. -/
theorem size_object (fields : List (String × Value)) :
    (Value.object fields).size = (fields.map fieldSize).sum + (fields.length - 1) + 2 := by
  have braces : "\x7b".utf8ByteSize = 1 ∧ "\x7d".utf8ByteSize = 1 := by decide
  have count : (renderFields fields).length = fields.length := by
    simpa using congrArg List.length (map_size_renderFields fields)
  simp only [Value.size, Value.render, String.utf8ByteSize_append,
    utf8ByteSize_commaSeparated, map_size_renderFields]
  omega

end Json
