import Mathlib.Data.List.Basic

namespace NebulaCloud.Platform

/-! `Buffer.toString('base64url')` and `Buffer.from(text, 'base64url')`. -/

def base64UrlCharacter (value : Nat) : Char :=
  if value < 26 then Char.ofNat (65 + value)
  else if value < 52 then Char.ofNat (71 + value)
  else if value < 62 then Char.ofNat (value - 4)
  else if value = 62 then '-'
  else '_'

/-- Both alphabets are read. -/
def base64Value (c : Char) : Option Nat :=
  if 'A' ≤ c ∧ c ≤ 'Z' then some (c.toNat - 65)
  else if 'a' ≤ c ∧ c ≤ 'z' then some (c.toNat - 71)
  else if '0' ≤ c ∧ c ≤ '9' then some (c.toNat + 4)
  else if c = '-' ∨ c = '+' then some 62
  else if c = '_' ∨ c = '/' then some 63
  else none

/-- No padding is written. -/
def toBase64Url : List UInt8 → List Char
  | [] => []
  | [a] => [base64UrlCharacter (a.toNat / 4), base64UrlCharacter (a.toNat % 4 * 16)]
  | [a, b] =>
      [base64UrlCharacter (a.toNat / 4), base64UrlCharacter (a.toNat % 4 * 16 + b.toNat / 16),
        base64UrlCharacter (b.toNat % 16 * 4)]
  | a :: b :: c :: rest =>
      base64UrlCharacter (a.toNat / 4) :: base64UrlCharacter (a.toNat % 4 * 16 + b.toNat / 16) ::
        base64UrlCharacter (b.toNat % 16 * 4 + c.toNat / 64) :: base64UrlCharacter (c.toNat % 64) ::
        toBase64Url rest

/-- Four values make three bytes; bits that fill no byte are dropped. -/
def base64Bytes : List Nat → List UInt8
  | a :: b :: c :: d :: rest =>
      UInt8.ofNat (a * 4 + b / 16) :: UInt8.ofNat (b % 16 * 16 + c / 4) :: UInt8.ofNat (c % 4 * 64 + d) ::
        base64Bytes rest
  | [a, b, c] => [UInt8.ofNat (a * 4 + b / 16), UInt8.ofNat (b % 16 * 16 + c / 4)]
  | [a, b] => [UInt8.ofNat (a * 4 + b / 16)]
  | _ => []

/-- Reading ends at a padding character and passes over all others that carry no value. -/
def fromBase64Url (text : List Char) : List UInt8 :=
  base64Bytes ((text.takeWhile (· ≠ '=')).filterMap base64Value)

theorem base64Value_character {value : Nat} (small : value < 64) :
    base64Value (base64UrlCharacter value) = some value := by
  have each : ∀ value < 64, base64Value (base64UrlCharacter value) = some value := by decide
  exact each value small

theorem base64UrlCharacter_ne (value : Nat) (small : value < 64) : base64UrlCharacter value ≠ '=' := by
  have each : ∀ value < 64, base64UrlCharacter value ≠ '=' := by decide
  exact each value small

theorem uint8_ofNat_eq (byte : UInt8) {value : Nat} (same : value = byte.toNat) : UInt8.ofNat value = byte := by
  rw [same, UInt8.ofNat_toNat]

theorem fromBase64Url_toBase64Url (bytes : List UInt8) : fromBase64Url (toBase64Url bytes) = bytes := by
  unfold fromBase64Url
  induction bytes using toBase64Url.induct with
  | case1 => rfl
  | case2 a =>
      have high := a.toNat_lt
      have first : a.toNat / 4 < 64 := by omega
      have second : a.toNat % 4 * 16 < 64 := by omega
      simp only [toBase64Url, List.takeWhile_cons, base64UrlCharacter_ne _ first, base64UrlCharacter_ne _ second,
        ne_eq, not_false_eq_true, decide_true, if_true, List.takeWhile_nil, List.filterMap_cons, List.filterMap_nil,
        base64Value_character first, base64Value_character second, base64Bytes]
      rw [uint8_ofNat_eq a (by omega)]
  | case3 a b =>
      have highA := a.toNat_lt
      have highB := b.toNat_lt
      have first : a.toNat / 4 < 64 := by omega
      have second : a.toNat % 4 * 16 + b.toNat / 16 < 64 := by omega
      have third : b.toNat % 16 * 4 < 64 := by omega
      simp only [toBase64Url, List.takeWhile_cons, base64UrlCharacter_ne _ first, base64UrlCharacter_ne _ second,
        base64UrlCharacter_ne _ third, ne_eq, not_false_eq_true, decide_true, if_true, List.takeWhile_nil,
        List.filterMap_cons, List.filterMap_nil, base64Value_character first, base64Value_character second,
        base64Value_character third, base64Bytes]
      rw [uint8_ofNat_eq a (by omega), uint8_ofNat_eq b (by omega)]
  | case4 a b c rest ih =>
      have highA := a.toNat_lt
      have highB := b.toNat_lt
      have highC := c.toNat_lt
      have first : a.toNat / 4 < 64 := by omega
      have second : a.toNat % 4 * 16 + b.toNat / 16 < 64 := by omega
      have third : b.toNat % 16 * 4 + c.toNat / 64 < 64 := by omega
      have fourth : c.toNat % 64 < 64 := by omega
      simp only [toBase64Url, List.takeWhile_cons, base64UrlCharacter_ne _ first, base64UrlCharacter_ne _ second,
        base64UrlCharacter_ne _ third, base64UrlCharacter_ne _ fourth, ne_eq, not_false_eq_true, decide_true,
        if_true, List.filterMap_cons, base64Value_character first, base64Value_character second,
        base64Value_character third, base64Value_character fourth, base64Bytes, ih]
      rw [uint8_ofNat_eq a (by omega), uint8_ofNat_eq b (by omega),
        uint8_ofNat_eq c (by omega)]

/-- Three bytes take four characters. -/
theorem toBase64Url_length (bytes : List UInt8) : 3 * (toBase64Url bytes).length ≤ 4 * bytes.length + 2 := by
  induction bytes using toBase64Url.induct with
  | case1 => simp [toBase64Url]
  | case2 => simp [toBase64Url]
  | case3 => simp [toBase64Url]
  | case4 a b c rest ih =>
      simp only [toBase64Url, List.length_cons]
      omega

theorem base64UrlCharacter_ascii (value : Nat) : (base64UrlCharacter value).toNat < 0x80 := by
  rcases Nat.lt_or_ge value 64 with small | large
  · have each : ∀ value < 64, (base64UrlCharacter value).toNat < 0x80 := by decide
    exact each value small
  · unfold base64UrlCharacter
    rw [if_neg (by omega), if_neg (by omega), if_neg (by omega), if_neg (by omega)]
    decide

theorem toBase64Url_ascii {bytes : List UInt8} {c : Char} (member : c ∈ toBase64Url bytes) : c.toNat < 0x80 := by
  have written : ∃ value, c = base64UrlCharacter value := by
    induction bytes using toBase64Url.induct with
    | case1 => cases member
    | case2 a =>
        simp only [toBase64Url, List.mem_cons, List.not_mem_nil, or_false] at member
        rcases member with rfl | rfl <;> exact ⟨_, rfl⟩
    | case3 a b =>
        simp only [toBase64Url, List.mem_cons, List.not_mem_nil, or_false] at member
        rcases member with rfl | rfl | rfl <;> exact ⟨_, rfl⟩
    | case4 a b c' rest ih =>
        simp only [toBase64Url, List.mem_cons] at member
        rcases member with rfl | rfl | rfl | rfl | later
        · exact ⟨_, rfl⟩
        · exact ⟨_, rfl⟩
        · exact ⟨_, rfl⟩
        · exact ⟨_, rfl⟩
        · exact ih later
  obtain ⟨value, rfl⟩ := written
  exact base64UrlCharacter_ascii value

end NebulaCloud.Platform
