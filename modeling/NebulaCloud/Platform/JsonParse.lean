import NebulaCloud.Data.Runs
import NebulaCloud.Platform.Double
import NebulaCloud.Platform.Json
import NebulaCloud.Platform.Uri

namespace NebulaCloud.Platform

open NebulaCloud.Data

/-! # Reading JSON

`JSON.parse` by descent.  Numbers are read as doubles, and half of a surrogate pair as
the replacement character. -/

def isJsonSpace (c : Char) : Bool := c = ' ' || c = '\t' || c = '\n' || c = '\r'

def skipJsonSpace (text : List Char) : List Char := text.dropWhile isJsonSpace

/-- The code unit of `\uXXXX`, behind the `u`. -/
def jsonUnit : List Char → Option (Nat × List Char)
  | a :: b :: c :: d :: rest => do
      let a ← hexDigit a
      let b ← hexDigit b
      let c ← hexDigit c
      let d ← hexDigit d
      some (4096 * a + 256 * b + 16 * c + d, rest)
  | _ => none

/-- One escape, behind the backslash. -/
def jsonEscape : List Char → Option (Char × List Char)
  | '"' :: rest => some ('"', rest)
  | '\\' :: rest => some ('\\', rest)
  | '/' :: rest => some ('/', rest)
  | 'b' :: rest => some ('\x08', rest)
  | 'f' :: rest => some ('\x0c', rest)
  | 'n' :: rest => some ('\n', rest)
  | 'r' :: rest => some ('\r', rest)
  | 't' :: rest => some ('\t', rest)
  | 'u' :: rest => do
      let (high, rest) ← jsonUnit rest
      let low :=
        match rest with
        | '\\' :: 'u' :: more => jsonUnit more
        | _ => none
      match low with
      | some (low, more) =>
          if 0xD800 ≤ high ∧ high < 0xDC00 ∧ 0xDC00 ≤ low ∧ low < 0xE000 then
            some (Char.ofNat (0x10000 + 0x400 * (high - 0xD800) + (low - 0xDC00)), more)
          else some (if 0xD800 ≤ high ∧ high < 0xE000 then '\uFFFD' else Char.ofNat high, rest)
      | none => some (if 0xD800 ≤ high ∧ high < 0xE000 then '\uFFFD' else Char.ofNat high, rest)
  | _ => none

/-- The rest of a string, behind the opening quote.  Every round takes a character. -/
def jsonStringRest : Nat → List Char → Option (List Char × List Char)
  | 0, _ => none
  | _ + 1, [] => none
  | fuel + 1, c :: rest =>
      if c = '"' then some ([], rest)
      else if c = '\\' then do
        let (escaped, rest) ← jsonEscape rest
        let (text, rest) ← jsonStringRest fuel rest
        some (escaped :: text, rest)
      else if c.toNat < 0x20 then none
      else do
        let (text, rest) ← jsonStringRest fuel rest
        some (c :: text, rest)

/-- The digits at the head of a text. -/
def leadingDigits (text : List Char) : List Char × List Char :=
  (text.takeWhile Char.isDigit, text.dropWhile Char.isDigit)

def decimalValue (digits : List Char) : Nat := Nat.ofDigitChars 10 digits 0

/-- The fraction and the exponent of a number, with what follows. -/
def jsonFraction : List Char → Option (List Char × List Char)
  | '.' :: rest =>
      let (digits, rest) := leadingDigits rest
      if digits = [] then none else some (digits, rest)
  | rest => some ([], rest)

def exponentSign : List Char → Int × List Char
  | '+' :: rest => (1, rest)
  | '-' :: rest => (-1, rest)
  | rest => (1, rest)

def jsonExponent : List Char → Option (Int × List Char)
  | c :: rest =>
      if c = 'e' ∨ c = 'E' then
        let (sign, rest) := exponentSign rest
        let (digits, rest) := leadingDigits rest
        if digits = [] then none else some (sign * decimalValue digits, rest)
      else some (0, c :: rest)
  | [] => some (0, [])

/-- A number without its sign. -/
def jsonUnsigned (text : List Char) : Option (Rat × List Char) := do
  let (whole, rest) := leadingDigits text
  if whole = [] ∨ (whole.head? = some '0' ∧ whole.length ≠ 1) then none
  else do
    let (fraction, rest) ← jsonFraction rest
    let (exponent, rest) ← jsonExponent rest
    let digits := decimalValue (whole ++ fraction)
    let scale : Int := exponent - fraction.length
    some (roundDouble (mkRat (digits * 10 ^ scale.toNat) (10 ^ (-scale).toNat)), rest)

def jsonNumber : List Char → Option (Json × List Char)
  | '-' :: rest => (jsonUnsigned rest).map fun (value, rest) => (.number (-value), rest)
  | text => (jsonUnsigned text).map fun (value, rest) => (.number value, rest)

def jsonKeyword (keyword : String) (value : Json) (text : List Char) : Option (Json × List Char) :=
  (text.dropPrefix? keyword.toList).map fun rest => (value, rest)

/-- A later property replaces an earlier one of the same key, in its place. -/
def setProperty (key : String) (value : Json) : JsonRecord → JsonRecord
  | [] => [(key, value)]
  | (other, old) :: rest => if other = key then (key, value) :: rest else (other, old) :: setProperty key value rest

mutual

/-- The fuel bounds the depth and the number of elements. -/
def jsonValue : Nat → List Char → Option (Json × List Char)
  | 0, _ => none
  | fuel + 1, text =>
      match skipJsonSpace text with
      | '"' :: rest => (jsonStringRest (rest.length + 1) rest).map fun (value, rest) => (.string (String.ofList value), rest)
      | '[' :: rest =>
          match skipJsonSpace rest with
          | ']' :: rest => some (.array [], rest)
          | rest => (jsonElements fuel rest []).map fun (elements, rest) => (.array elements, rest)
      | '{' :: rest =>
          match skipJsonSpace rest with
          | '}' :: rest => some (.object [], rest)
          | rest => (jsonMembers fuel rest []).map fun (fields, rest) => (.object fields, rest)
      | 't' :: rest => jsonKeyword "true" (.boolean true) ('t' :: rest)
      | 'f' :: rest => jsonKeyword "false" (.boolean false) ('f' :: rest)
      | 'n' :: rest => jsonKeyword "null" .null ('n' :: rest)
      | rest => jsonNumber rest

def jsonElements : Nat → List Char → List Json → Option (List Json × List Char)
  | 0, _, _ => none
  | fuel + 1, text, before => do
      let (value, rest) ← jsonValue fuel text
      match skipJsonSpace rest with
      | ',' :: rest => jsonElements fuel rest (before ++ [value])
      | ']' :: rest => some (before ++ [value], rest)
      | _ => none

def jsonMembers : Nat → List Char → JsonRecord → Option (JsonRecord × List Char)
  | 0, _, _ => none
  | fuel + 1, text, before =>
      match skipJsonSpace text with
      | '"' :: rest => do
          let (key, rest) ← jsonStringRest (rest.length + 1) rest
          match skipJsonSpace rest with
          | ':' :: rest => do
              let (value, rest) ← jsonValue fuel rest
              let fields := setProperty (String.ofList key) value before
              match skipJsonSpace rest with
              | ',' :: rest => jsonMembers fuel rest fields
              | '}' :: rest => some (fields, rest)
              | _ => none
          | _ => none
      | _ => none

end

/-- `JSON.parse(text)`; `none` where it throws. -/
def parseJson (text : List Char) : Option Json := do
  let (value, rest) ← jsonValue (2 * text.length + 2) text
  if skipJsonSpace rest = [] then some value else none

/-! ## What has been written is read back -/

section Written

variable {text rest digits : List Char} {fuel number : Nat}

/-- A character that a string holds as it is. -/
def IsJsonPlain (c : Char) : Prop := c ≠ '"' ∧ c ≠ '\\' ∧ 0x20 ≤ c.toNat

instance (c : Char) : Decidable (IsJsonPlain c) := inferInstanceAs (Decidable (_ ∧ _))

theorem jsonCharacter_plain {c : Char} (plain : IsJsonPlain c) : jsonCharacter c = [c] := by
  obtain ⟨noQuote, noEscape, visible⟩ := plain
  unfold jsonCharacter
  split
  · exact absurd rfl noQuote
  · exact absurd rfl noEscape
  · exact absurd visible (by decide)
  · exact absurd visible (by decide)
  · exact absurd visible (by decide)
  · exact absurd visible (by decide)
  · exact absurd visible (by decide)
  · exact if_neg (by omega)

theorem jsonText_plain {text : String} (plain : ∀ c ∈ text.toList, IsJsonPlain c) :
    jsonText text = '"' :: (text.toList ++ ['"']) := by
  have characters : text.toList.flatMap jsonCharacter = text.toList := by
    rw [List.flatMap_congr fun c member => jsonCharacter_plain (plain c member), List.flatMap_singleton']
  rw [jsonText, characters, List.cons_append]

theorem jsonStringRest_plain (plain : ∀ c ∈ text, IsJsonPlain c) (enough : text.length < fuel) :
    jsonStringRest fuel (text ++ '"' :: rest) = some (text, rest) := by
  induction text generalizing fuel with
  | nil =>
      obtain ⟨count, rfl⟩ : ∃ count, fuel = count + 1 := ⟨fuel - 1, by simp at enough; omega⟩
      simp [jsonStringRest]
  | cons c text ih =>
      obtain ⟨noQuote, noEscape, visible⟩ := plain c List.mem_cons_self
      obtain ⟨count, rfl⟩ : ∃ count, fuel = count + 1 := ⟨fuel - 1, by simp at enough; omega⟩
      have later := ih (fun other member => plain other (List.mem_cons_of_mem c member)) (Nat.succ_lt_succ_iff.mp enough)
      rw [List.cons_append, jsonStringRest, if_neg noQuote, if_neg noEscape, if_neg (by omega), later]
      rfl

theorem leadingDigits_append (digit : ∀ c ∈ digits, c.isDigit = true) (ends : ∀ c ∈ rest.head?, c.isDigit = false) :
    leadingDigits (digits ++ rest) = (digits, rest) := by
  rw [leadingDigits, takeWhile_run digit ends, dropWhile_run digit ends]

/-- The first digit of a number is a zero only if there is no other. -/
theorem toDigits_head (number : Nat) : (Nat.toDigits 10 number).head? = some '0' → (Nat.toDigits 10 number).length = 1 := by
  induction number using Nat.strongRecOn with
  | ind number ih =>
      rw [Nat.toDigits_eq_if (by decide)]
      split
      · simp
      · rename_i large
        intro zero
        have nonempty : Nat.toDigits 10 (number / 10) ≠ [] := Nat.toDigits_ne_nil
        rw [List.head?_append_of_ne_nil _ nonempty] at zero
        have short := ih (number / 10) (by omega) zero
        have positive : 0 < number / 10 := by omega
        rw [Nat.toDigits_eq_if (by decide)] at zero short
        split at short
        · rename_i small
          rw [if_pos small] at zero
          have each : ∀ digit < 10, 0 < digit → Nat.digitChar digit ≠ '0' := by decide
          exact absurd (Option.some.inj zero) (each _ small positive)
        · have more : 0 < (Nat.toDigits 10 (number / 10 / 10)).length := Nat.length_toDigits_pos
          rw [List.length_append, List.length_singleton] at short
          omega

theorem jsonUnsigned_toDigits (bounded : number < 2 ^ 53)
    (ends : ∀ c ∈ rest.head?, c.isDigit = false ∧ c ≠ '.' ∧ c ≠ 'e' ∧ c ≠ 'E') :
    jsonUnsigned (Nat.toDigits 10 number ++ rest) = some ((number : Rat), rest) := by
  have digit : ∀ c ∈ Nat.toDigits 10 number, c.isDigit = true := fun c => Nat.isDigit_of_mem_toDigits (by decide) (by decide)
  have split := leadingDigits_append digit fun c member => (ends c member).1
  have canonical : ¬ (Nat.toDigits 10 number = [] ∨
      ((Nat.toDigits 10 number).head? = some '0' ∧ (Nat.toDigits 10 number).length ≠ 1)) := by
    rintro (empty | ⟨zero, long⟩)
    · exact Nat.toDigits_ne_nil empty
    · exact long (toDigits_head number zero)
  have fraction : jsonFraction rest = some ([], rest) := by
    unfold jsonFraction
    split
    · exact absurd rfl (ends '.' rfl).2.1
    · rfl
  have exponent : jsonExponent rest = some (0, rest) := by
    cases rest with
    | nil => rfl
    | cons c rest =>
        obtain ⟨_, _, notLower, notUpper⟩ := ends c rfl
        rw [jsonExponent, if_neg (by simp [notLower, notUpper])]
  have value : decimalValue (Nat.toDigits 10 number) = number := Nat.ofDigitChars_toDigits (by decide) (by decide)
  unfold jsonUnsigned
  rw [split]
  simp only [if_neg canonical, fraction, exponent, Option.bind_eq_bind, Option.bind_some, List.append_nil, value,
    List.length_nil, Int.natCast_zero, Int.sub_zero, Int.neg_zero, Int.toNat_zero, Nat.pow_zero]
  rw [Rat.mkRat_one, Int.pow_zero, Int.mul_one]
  exact congrArg (fun rounded => some (rounded, rest)) (roundDouble_natCast bounded)

/-- Where a value starts with a digit it is a number. -/
theorem jsonValue_digit {c : Char} (digit : c.isDigit = true) :
    jsonValue (fuel + 1) (c :: rest) = (jsonUnsigned (c :: rest)).map fun (value, rest) => (.number value, rest) := by
  have noSpace : skipJsonSpace (c :: rest) = c :: rest := by
    have visible : isJsonSpace c = false := by
      by_contra space
      simp only [isJsonSpace, Bool.not_eq_false, Bool.or_eq_true, decide_eq_true_eq] at space
      rcases space with ((rfl | rfl) | rfl) | rfl <;> exact absurd digit (by decide)
    rw [skipJsonSpace, List.dropWhile_cons_of_neg (by simp [visible])]
  have notMinus : c ≠ '-' := by
    rintro rfl
    exact absurd digit (by decide)
  rw [jsonValue, noSpace]
  split
  all_goals first
    | (rename_i same; cases same; exact absurd digit (by decide))
    | skip
  unfold jsonNumber
  split
  · rename_i same
    exact absurd (List.cons.inj same).1 notMinus
  · rfl

theorem jsonValue_string (plain : ∀ c ∈ text, IsJsonPlain c) :
    jsonValue (fuel + 1) ('"' :: (text ++ '"' :: rest)) = some (.string (String.ofList text), rest) := by
  have read : jsonStringRest ((text ++ '"' :: rest).length + 1) (text ++ '"' :: rest) = some (text, rest) := by
    refine jsonStringRest_plain plain ?_
    rw [List.length_append]
    omega
  have noSpace : skipJsonSpace ('"' :: (text ++ '"' :: rest)) = '"' :: (text ++ '"' :: rest) := rfl
  simp only [jsonValue, noSpace, read, Option.map_some]

theorem jsonValue_object : jsonValue (fuel + 1) ('{' :: '"' :: rest) =
    (jsonMembers fuel ('"' :: rest) []).map fun (fields, rest) => (.object fields, rest) := by
  have noSpace : skipJsonSpace ('{' :: '"' :: rest) = '{' :: '"' :: rest := rfl
  have noSpace' : skipJsonSpace ('"' :: rest) = '"' :: rest := rfl
  simp only [jsonValue, noSpace, noSpace']
  rfl

variable {value : Json} {before : JsonRecord} {next : List Char}

/-- A member whose key and value are read. -/
theorem jsonMembers_plain (plain : ∀ c ∈ text, IsJsonPlain c) (read : jsonValue fuel rest = some (value, next)) :
    jsonMembers (fuel + 1) ('"' :: (text ++ '"' :: ':' :: rest)) before =
      match skipJsonSpace next with
      | ',' :: next => jsonMembers fuel next (setProperty (String.ofList text) value before)
      | '}' :: next => some (setProperty (String.ofList text) value before, next)
      | _ => none := by
  have key : jsonStringRest ((text ++ '"' :: ':' :: rest).length + 1) (text ++ '"' :: ':' :: rest) =
      some (text, ':' :: rest) := by
    refine jsonStringRest_plain plain ?_
    rw [List.length_append]
    omega
  have quote : skipJsonSpace ('"' :: (text ++ '"' :: ':' :: rest)) = '"' :: (text ++ '"' :: ':' :: rest) := rfl
  have colon : skipJsonSpace (':' :: rest) = ':' :: rest := rfl
  simp only [jsonMembers, quote, key, colon, read, Option.bind_eq_bind, Option.bind_some]

end Written

end NebulaCloud.Platform
