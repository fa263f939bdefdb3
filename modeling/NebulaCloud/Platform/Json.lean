import Mathlib.Data.Rat.Defs
import NebulaCloud.Platform.Text

namespace NebulaCloud.Platform

/-! # Parsed JSON

What `JSON.parse` returns, seen through the questions that the code asks of it.  A
missing property is `undefined`, here `none`. -/

/-- A number is a finite double; what no rational represents is no safe integer
either. -/
inductive Json
  | null
  | boolean (value : Bool)
  | number (value : Rat)
  | string (value : String)
  | array (elements : List Json)
  | object (fields : List (String × Json))

/-- A parsed object has one value for each key. -/
abbrev JsonRecord := List (String × Json)

/-- `isRecord(value)`, with the record that it admits. -/
def asRecord : Option Json → Option JsonRecord
  | some (.object fields) => some fields
  | _ => none

/-- `record[key]`. -/
def JsonRecord.get (record : JsonRecord) (key : String) : Option Json :=
  record.lookup key

/-- `value ?? other`. -/
def coalesce : Option Json → Option Json → Option Json
  | none, other => other
  | some .null, other => other
  | some value, _ => some value

/-- `Number.isSafeInteger(value)`, with the integer that it admits. -/
def asSafeInteger : Option Json → Option Int
  | some (.number value) =>
      if value.den = 1 ∧ -maxSafeInteger ≤ value.num ∧ value.num ≤ maxSafeInteger then some value.num
      else none
  | _ => none

/-! ## Writing JSON -/

def lowerHexDigit (digit : Nat) : Char :=
  if digit < 10 then Char.ofNat (48 + digit) else Char.ofNat (87 + digit)

/-- A character inside a JSON string. -/
def jsonCharacter (c : Char) : List Char :=
  match c with
  | '"' => ['\\', '"']
  | '\\' => ['\\', '\\']
  | '\x08' => ['\\', 'b']
  | '\x0c' => ['\\', 'f']
  | '\n' => ['\\', 'n']
  | '\r' => ['\\', 'r']
  | '\t' => ['\\', 't']
  | c =>
      if c.toNat < 0x20 then
        ['\\', 'u', '0', '0', lowerHexDigit (c.toNat / 16), lowerHexDigit (c.toNat % 16)]
      else [c]

/-- `JSON.stringify(text)`, as characters. -/
def jsonText (text : String) : List Char := '"' :: text.toList.flatMap jsonCharacter ++ ['"']

/-- The length of the UTF-8 encoding. -/
def utf8Length (text : List Char) : Nat := (text.map Char.utf8Size).sum

@[simp] theorem utf8Length_append (left right : List Char) :
    utf8Length (left ++ right) = utf8Length left + utf8Length right := by
  simp [utf8Length]

@[simp] theorem utf8Length_cons (c : Char) (rest : List Char) :
    utf8Length (c :: rest) = c.utf8Size + utf8Length rest := by
  simp [utf8Length]

theorem length_le_utf8Length (text : List Char) : text.length ≤ utf8Length text := by
  induction text with
  | nil => simp
  | cons c rest ih =>
      have size := Char.utf8Size_pos c
      rw [utf8Length_cons, List.length_cons]
      omega

theorem utf8Size_lowerHexDigit {digit : Nat} (bounded : digit < 16) :
    (lowerHexDigit digit).utf8Size = 1 := by
  have each : ∀ digit < 16, (lowerHexDigit digit).utf8Size = 1 := by decide
  exact each digit bounded

/-- An escape takes at most six bytes, and a supplementary character has two code
units for its four. -/
theorem utf8Length_jsonCharacter_le (c : Char) :
    utf8Length (jsonCharacter c) ≤ 6 * if c.val < 0x10000 then 1 else 2 := by
  have plain : utf8Length [c] ≤ 6 * if c.val < 0x10000 then 1 else 2 := by
    have size := Char.utf8Size_le_four c
    rw [utf8Length_cons]
    simp only [utf8Length, List.map_nil, List.sum_nil]
    split <;> omega
  have short {escape : List Char} (bounded : utf8Length escape ≤ 6) :
      utf8Length escape ≤ 6 * if c.val < 0x10000 then 1 else 2 := by
    split <;> omega
  unfold jsonCharacter
  split
  · exact short (by decide)
  · exact short (by decide)
  · exact short (by decide)
  · exact short (by decide)
  · exact short (by decide)
  · exact short (by decide)
  · exact short (by decide)
  · split
    · refine short ?_
      have high := utf8Size_lowerHexDigit (show c.toNat / 16 < 16 by omega)
      have low := utf8Size_lowerHexDigit (show c.toNat % 16 < 16 by omega)
      simp only [utf8Length_cons, high, low]
      decide
    · exact plain

theorem utf8Length_jsonText_le (text : String) :
    utf8Length (jsonText text) ≤ 6 * utf16Length text + 2 := by
  have characters : utf8Length (text.toList.flatMap jsonCharacter) ≤ 6 * utf16Length text := by
    unfold utf16Length
    induction text.toList with
    | nil => simp [utf8Length]
    | cons c rest ih =>
        have first := utf8Length_jsonCharacter_le c
        rw [List.flatMap_cons, utf8Length_append, List.map_cons, List.sum_cons, Nat.mul_add]
        omega
  have quote : utf8Length ['"'] = 1 := rfl
  have size : ('"' : Char).utf8Size = 1 := rfl
  rw [jsonText, List.cons_append, utf8Length_cons, utf8Length_append, quote, size]
  omega

example : jsonText "a\x01\"b" = ['"', 'a', '\\', 'u', '0', '0', '0', '1', '\\', '"', 'b', '"'] := by
  decide

end NebulaCloud.Platform
