import NebulaCloud.Platform.Text

namespace NebulaCloud.Platform

/-! `decodeURIComponent`: percent-encoded UTF-8, decoded strictly. -/

def hexDigit (c : Char) : Option Nat :=
  if '0' ≤ c ∧ c ≤ '9' then some (c.toNat - 48)
  else if 'a' ≤ c ∧ c ≤ 'f' then some (c.toNat - 87)
  else if 'A' ≤ c ∧ c ≤ 'F' then some (c.toNat - 55)
  else none

/-- One `%XX` at the head of a text. -/
def percentByte : List Char → Option (Nat × List Char)
  | '%' :: high :: low :: rest => do
      let high ← hexDigit high
      let low ← hexDigit low
      some (16 * high + low, rest)
  | _ => none

/-- The continuation bytes of a sequence that started with the bits in `code`. -/
def percentContinuation : Nat → Nat → List Char → Option (Nat × List Char)
  | 0, code, text => some (code, text)
  | count + 1, code, text => do
      let (byte, rest) ← percentByte text
      if 0x80 ≤ byte ∧ byte < 0xC0 then percentContinuation count (64 * code + (byte - 0x80)) rest
      else none

/-- One encoded character: its shortest UTF-8 form and no surrogate. -/
def percentCharacter (text : List Char) : Option (Char × List Char) := do
  let (byte, rest) ← percentByte text
  if byte < 0x80 then some (Char.ofNat byte, rest)
  else do
    let (count, code, least) ←
      if 0xC0 ≤ byte ∧ byte < 0xE0 then some (1, byte - 0xC0, 0x80)
      else if 0xE0 ≤ byte ∧ byte < 0xF0 then some (2, byte - 0xE0, 0x800)
      else if 0xF0 ≤ byte ∧ byte < 0xF8 then some (3, byte - 0xF0, 0x10000)
      else none
    let (code, rest) ← percentContinuation count code rest
    if least ≤ code ∧ code.isValidChar then some (Char.ofNat code, rest) else none

/-- The fuel is the length of the text; every round consumes a character. -/
def percentDecode : Nat → List Char → Option (List Char)
  | 0, text => if text = [] then some [] else none
  | _ + 1, [] => some []
  | fuel + 1, '%' :: rest => do
      let (c, rest) ← percentCharacter ('%' :: rest)
      let decoded ← percentDecode fuel rest
      some (c :: decoded)
  | fuel + 1, c :: rest => do
      let decoded ← percentDecode fuel rest
      some (c :: decoded)

/-- `decodeURIComponent(text)`; `none` where it throws. -/
def decodeURIComponent (text : String) : Option String :=
  (percentDecode text.toList.length text.toList).map String.ofList

/-- The characters that `encodeURIComponent` leaves as they are. -/
def isUriUnreserved (c : Char) : Bool :=
  ('a' ≤ c && c ≤ 'z') || ('A' ≤ c && c ≤ 'Z') || ('0' ≤ c && c ≤ '9') ||
    c ∈ ['-', '_', '.', '!', '~', '*', '\'', '(', ')']

def upperHexDigit (digit : Nat) : Char :=
  if digit < 10 then Char.ofNat (48 + digit) else Char.ofNat (55 + digit)

/-- The UTF-8 bytes of a character. -/
def utf8Bytes (c : Char) : List Nat :=
  let code := c.toNat
  if code < 0x80 then [code]
  else if code < 0x800 then [0xC0 + code / 0x40, 0x80 + code % 0x40]
  else if code < 0x10000 then [0xE0 + code / 0x1000, 0x80 + code / 0x40 % 0x40, 0x80 + code % 0x40]
  else
    [0xF0 + code / 0x40000, 0x80 + code / 0x1000 % 0x40, 0x80 + code / 0x40 % 0x40,
      0x80 + code % 0x40]

/-- `encodeURIComponent(text)`. -/
def encodeURIComponent (text : String) : String :=
  String.ofList (text.toList.flatMap fun c =>
    if isUriUnreserved c then [c]
    else (utf8Bytes c).flatMap fun byte => ['%', upperHexDigit (byte / 16), upperHexDigit (byte % 16)])

example : encodeURIComponent "a é" = "a%20%C3%A9" := by decide

example : decodeURIComponent "a%20%C3%A9" = some "a é" := by decide

example : decodeURIComponent "%C0%80" = none := by decide

end NebulaCloud.Platform
