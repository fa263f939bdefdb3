import NebulaCloud.Platform.JsonParse
import NebulaCloud.Platform.UriCode
import NebulaCloud.Platform.Utf8

namespace NebulaCloud.Platform

/-! # What has been encoded is decoded

UTF-8, `encodeURIComponent` and the strings of JSON, for every text. -/

variable {c : Char} {text : List Char}

/-! ## UTF-8 -/

theorem byte_toNat {code : Nat} (small : code < 256) : (UInt8.ofNat code).toNat = code := by
  rw [UInt8.toNat_ofNat']
  omega

theorem char_code (c : Char) : c.val.toNat < 0xD800 ∨ (0xE000 ≤ c.val.toNat ∧ c.val.toNat < 0x110000) := by
  rcases c.valid with low | ⟨high, bound⟩
  · exact .inl low
  · exact .inr ⟨high, bound⟩

variable {state : Utf8State} {code : Nat} {rest : List UInt8}

/-- A byte that a state waits for. -/
structure Continues (state : Utf8State) (byte : Nat) : Prop where
  small : byte < 256
  waits : state.needed ≠ 0
  lower : state.lower ≤ byte
  upper : byte ≤ state.upper

theorem decode_first (small : code < 256) : Utf8State.decode {} (UInt8.ofNat code :: rest) =
    (((Utf8State.first code).1.decode rest).1, (Utf8State.first code).2 ++ ((Utf8State.first code).1.decode rest).2) := by
  simp [Utf8State.decode, Utf8State.accept, byte_toNat small]

theorem decode_more (continues : Continues state code) (more : state.needed ≠ 1) :
    state.decode (UInt8.ofNat code :: rest) =
      Utf8State.decode { needed := state.needed - 1, code := 64 * state.code + (code - 0x80) } rest := by
  have within : ¬ (code < state.lower ∨ state.upper < code) := by
    have lower := continues.lower
    have upper := continues.upper
    omega
  simp [Utf8State.decode, Utf8State.accept, byte_toNat continues.small, continues.waits, within, more]

theorem decode_last (continues : Continues state code) (last : state.needed = 1) :
    state.decode (UInt8.ofNat code :: rest) =
      ((Utf8State.decode {} rest).1,
        Char.ofNat (64 * state.code + (code - 0x80)) :: (Utf8State.decode {} rest).2) := by
  have within : ¬ (code < state.lower ∨ state.upper < code) := by
    have lower := continues.lower
    have upper := continues.upper
    omega
  simp [Utf8State.decode, Utf8State.accept, byte_toNat continues.small, within, last]

/-- The bytes of a character are read as the character. -/
theorem decode_utf8EncodeChar (c : Char) (rest : List UInt8) :
    Utf8State.decode {} (String.utf8EncodeChar c ++ rest) =
      ((Utf8State.decode {} rest).1, c :: (Utf8State.decode {} rest).2) := by
  have valid := char_code c
  have read {code : Nat} (same : code = c.val.toNat) : Char.ofNat code = c := by
    rw [same]
    exact Char.ofNat_toNat c
  unfold String.utf8EncodeChar
  generalize c.val.toNat = code at valid read
  by_cases one : code ≤ 0x7F
  · simp only [if_pos one, List.cons_append, List.nil_append]
    rw [decode_first (by omega), first_ascii (by omega), read rfl]
    rfl
  by_cases two : code ≤ 0x7FF
  · simp only [if_neg one, if_pos two, List.cons_append, List.nil_append]
    have lead : Utf8State.first (code / 64 % 0x20 + 0xC0) =
        ({ needed := 1, code := code / 64 % 0x20 }, []) := by
      rw [Utf8State.first, if_neg (by omega), if_pos (by omega), Nat.add_sub_cancel]
    rw [decode_first (by omega), lead, decode_last ⟨by omega, by simp, by simp, by simp; omega⟩ rfl, read (by simp; omega)]
    rfl
  by_cases three : code ≤ 0xFFFF
  · simp only [if_neg one, if_neg two, if_pos three, List.cons_append, List.nil_append]
    have lead : Utf8State.first (code / 4096 % 0x10 + 0xE0) =
        ({ needed := 2
           lower := if code / 4096 % 0x10 + 0xE0 = 0xE0 then 0xA0 else 0x80
           upper := if code / 4096 % 0x10 + 0xE0 = 0xED then 0x9F else 0xBF
           code := code / 4096 % 0x10 }, []) := by
      rw [Utf8State.first, if_neg (by omega), if_neg (by omega), if_pos (by omega), Nat.add_sub_cancel]
    have second : Continues (Utf8State.first (code / 4096 % 0x10 + 0xE0)).1 (code / 64 % 0x40 + 0x80) := by
      rw [lead]
      refine ⟨by omega, by simp, ?_, ?_⟩
      · dsimp only
        split <;> omega
      · dsimp only
        split <;> omega
    rw [decode_first (by omega), decode_more second (by rw [lead]; simp), lead,
      decode_last ⟨by omega, by simp, by simp, by simp; omega⟩ rfl, read (by simp; omega)]
    rfl
  · simp only [if_neg one, if_neg two, if_neg three, List.cons_append, List.nil_append]
    have lead : Utf8State.first (code / 262144 % 0x08 + 0xF0) =
        ({ needed := 3
           lower := if code / 262144 % 0x08 + 0xF0 = 0xF0 then 0x90 else 0x80
           upper := if code / 262144 % 0x08 + 0xF0 = 0xF4 then 0x8F else 0xBF
           code := code / 262144 % 0x08 }, []) := by
      rw [Utf8State.first, if_neg (by omega), if_neg (by omega), if_neg (by omega), if_pos (by omega),
        Nat.add_sub_cancel]
    have second : Continues (Utf8State.first (code / 262144 % 0x08 + 0xF0)).1
        (code / 4096 % 0x40 + 0x80) := by
      rw [lead]
      refine ⟨by omega, by simp, ?_, ?_⟩
      · dsimp only
        split <;> omega
      · dsimp only
        split <;> omega
    rw [decode_first (by omega), decode_more second (by rw [lead]; simp), lead,
      decode_more ⟨by omega, by simp, by simp, by simp; omega⟩ (by simp),
      decode_last ⟨by omega, by simp, by simp, by simp; omega⟩ rfl, read (by simp; omega)]
    rfl

theorem utf8Text_utf8Encode (text : List Char) : utf8Text (utf8Encode text) = text := by
  have decoded : Utf8State.decode {} (utf8Encode text) = ({}, text) := by
    induction text with
    | nil => rfl
    | cons c rest ih =>
        rw [utf8Encode] at ih ⊢
        rw [List.flatMap_cons, decode_utf8EncodeChar, ih]
  simp [utf8Text, decoded, Utf8State.flush]

/-! ## `decodeURIComponent` -/

theorem hexDigit_upperHexDigit {digit : Nat} (small : digit < 16) : hexDigit (upperHexDigit digit) = some digit := by
  have each : ∀ digit < 16, hexDigit (upperHexDigit digit) = some digit := by decide
  exact each digit small

variable {byte : Nat} {more : List Char}

theorem percentByte_word (small : byte < 256) : percentByte (percentByteWord byte ++ more) = some (byte, more) := by
  have high := hexDigit_upperHexDigit (show byte / 16 < 16 by omega)
  have low := hexDigit_upperHexDigit (show byte % 16 < 16 by omega)
  simp only [percentByteWord, List.cons_append, List.nil_append, percentByte, high, low, Option.bind_eq_bind,
    Option.bind_some]
  exact congrArg (fun byte => some (byte, more)) (Nat.div_add_mod byte 16)

theorem percentContinuation_word {count : Nat} (continues : 0x80 ≤ byte ∧ byte < 0xC0) :
    percentContinuation (count + 1) code (percentByteWord byte ++ more) =
      percentContinuation count (64 * code + (byte - 0x80)) more := by
  rw [percentContinuation, percentByte_word (by omega)]
  simp [continues]

/-- The escapes of a character are read as the character. -/
theorem percentCharacter_word (c : Char) (more : List Char) :
    percentCharacter ((utf8Bytes c).flatMap percentByteWord ++ more) = some (c, more) := by
  have valid := char_code c
  have read {code : Nat} (same : code = c.toNat) : Char.ofNat code = c := by
    rw [same]
    exact Char.ofNat_toNat c
  have isValid : c.toNat.isValidChar := c.valid
  have size : c.toNat = c.val.toNat := rfl
  unfold utf8Bytes
  dsimp only
  by_cases one : c.toNat < 0x80
  · rw [if_pos one, List.flatMap_singleton, percentCharacter, percentByte_word (by omega)]
    simp [one, read rfl]
  by_cases two : c.toNat < 0x800
  · rw [if_neg one, if_pos two, List.flatMap_cons, List.flatMap_singleton, List.append_assoc, percentCharacter,
      percentByte_word (by omega)]
    have code : 64 * (0xC0 + c.toNat / 0x40 - 0xC0) + (0x80 + c.toNat % 0x40 - 0x80) = c.toNat := by omega
    simp only [Option.bind_eq_bind, Option.bind_some]
    rw [if_neg (by omega), if_pos (by omega), percentContinuation_word (by omega), percentContinuation]
    dsimp only [Option.bind_some]
    rw [code, if_pos ⟨by omega, isValid⟩, read rfl]
  by_cases three : c.toNat < 0x10000
  · rw [if_neg one, if_neg two, if_pos three, List.flatMap_cons, List.flatMap_cons, List.flatMap_singleton,
      List.append_assoc, List.append_assoc, percentCharacter, percentByte_word (by omega)]
    have code : 64 * (64 * (0xE0 + c.toNat / 0x1000 - 0xE0) + (0x80 + c.toNat / 0x40 % 0x40 - 0x80)) +
        (0x80 + c.toNat % 0x40 - 0x80) = c.toNat := by omega
    simp only [Option.bind_eq_bind, Option.bind_some]
    rw [if_neg (by omega), if_neg (by omega), if_pos (by omega), percentContinuation_word (by omega),
      percentContinuation_word (by omega), percentContinuation]
    dsimp only [Option.bind_some]
    rw [code, if_pos ⟨by omega, isValid⟩, read rfl]
  · rw [if_neg one, if_neg two, if_neg three, List.flatMap_cons, List.flatMap_cons, List.flatMap_cons,
      List.flatMap_singleton, List.append_assoc, List.append_assoc, List.append_assoc, percentCharacter,
      percentByte_word (by omega)]
    have code : 64 * (64 * (64 * (0xF0 + c.toNat / 0x40000 - 0xF0) + (0x80 + c.toNat / 0x1000 % 0x40 - 0x80)) +
        (0x80 + c.toNat / 0x40 % 0x40 - 0x80)) + (0x80 + c.toNat % 0x40 - 0x80) = c.toNat := by omega
    simp only [Option.bind_eq_bind, Option.bind_some]
    rw [if_neg (by omega), if_neg (by omega), if_neg (by omega), if_pos (by omega),
      percentContinuation_word (by omega), percentContinuation_word (by omega), percentContinuation_word (by omega),
      percentContinuation]
    dsimp only [Option.bind_some]
    rw [code, if_pos ⟨by omega, isValid⟩, read rfl]

section Percent

variable {encoded : Char → Bool}

theorem percentDecode_word {fuel : Nat} (percent : encoded '%' = true)
    (enough : (percentEncode encoded c ++ more).length ≤ fuel) :
    ∃ left, more.length ≤ left ∧
      percentDecode fuel (percentEncode encoded c ++ more) =
        (percentDecode left more).bind fun decoded => some (c :: decoded) := by
  cases escaped : encoded c with
  | false =>
      have word : percentEncode encoded c = [c] := percentEncode_plain escaped
      have plain : c ≠ '%' := by
        rintro rfl
        rw [percent] at escaped
        cases escaped
      rw [word, List.singleton_append, List.length_cons] at enough
      obtain ⟨left, rfl⟩ : ∃ left, fuel = left + 1 := ⟨fuel - 1, by omega⟩
      refine ⟨left, by omega, ?_⟩
      rw [word, List.singleton_append, percentDecode]
      · rfl
      · exact plain
  | true =>
      obtain ⟨tail, start⟩ := percentEncode_starts escaped
      have read := percentCharacter_word c more
      rw [← percentEncode_bytes escaped, start, List.cons_append] at read
      rw [start, List.cons_append, List.length_cons, List.length_append] at enough
      obtain ⟨left, rfl⟩ : ∃ left, fuel = left + 1 := ⟨fuel - 1, by omega⟩
      refine ⟨left, by omega, ?_⟩
      rw [start, List.cons_append, percentDecode, read]
      rfl

/-- Escapes are decoded if the sign that they use has been escaped too. -/
theorem percentDecode_words {fuel : Nat} (percent : encoded '%' = true)
    (enough : (text.flatMap (percentEncode encoded)).length ≤ fuel) :
    percentDecode fuel (text.flatMap (percentEncode encoded)) = some text := by
  induction text generalizing fuel with
  | nil => cases fuel <;> rfl
  | cons c rest ih =>
      rw [List.flatMap_cons] at enough ⊢
      obtain ⟨left, remains, read⟩ := percentDecode_word percent enough
      rw [read, ih remains]
      rfl

end Percent

/-- Nothing is lost in a URI. -/
theorem decodeURIComponent_encode (text : String) : decodeURIComponent (encodeURIComponent text) = some text := by
  rw [decodeURIComponent, encodeURIComponent_word, percentDecode_words (by decide) (Nat.le_refl _), Option.map_some,
    String.ofList_toList]

/-! ## Strings of JSON -/

theorem hexDigit_lowerHexDigit {digit : Nat} (small : digit < 16) : hexDigit (lowerHexDigit digit) = some digit := by
  have each : ∀ digit < 16, hexDigit (lowerHexDigit digit) = some digit := by decide
  exact each digit small

/-- An escape of a control character. -/
theorem jsonEscape_control (control : c.toNat < 0x20) (more : List Char) :
    jsonEscape ('u' :: '0' :: '0' :: lowerHexDigit (c.toNat / 16) :: lowerHexDigit (c.toNat % 16) :: more) =
      some (c, more) := by
  have high := hexDigit_lowerHexDigit (show c.toNat / 16 < 16 by omega)
  have low := hexDigit_lowerHexDigit (show c.toNat % 16 < 16 by omega)
  have zero : hexDigit '0' = some 0 := by decide
  have unit : jsonUnit ('0' :: '0' :: lowerHexDigit (c.toNat / 16) :: lowerHexDigit (c.toNat % 16) :: more) =
      some (c.toNat, more) := by
    simp only [jsonUnit, zero, high, low, Option.bind_eq_bind, Option.bind_some]
    rw [show 4096 * 0 + 256 * 0 + 16 * (c.toNat / 16) + c.toNat % 16 = c.toNat by omega]
  have noPair : ¬ (0xD800 ≤ c.toNat ∧ c.toNat < 0xE000) := by omega
  simp only [jsonEscape, unit, Option.bind_eq_bind, Option.bind_some]
  split
  · rw [if_neg (by omega), if_neg noPair, Char.ofNat_toNat]
  · rw [if_neg noPair, Char.ofNat_toNat]

/-- A character of a string, as it is or escaped. -/
theorem jsonStringRest_character {fuel : Nat} (more : List Char) :
    jsonStringRest (fuel + 1) (jsonCharacter c ++ more) =
      (jsonStringRest fuel more).bind fun (text, rest) => some (c :: text, rest) := by
  unfold jsonCharacter
  split
  · rfl
  · rfl
  · rfl
  · rfl
  · rfl
  · rfl
  · rfl
  · rename_i noQuote noEscape _ _ _ _ _
    split
    · rename_i control
      simp only [List.cons_append, List.nil_append, jsonStringRest]
      rw [if_neg (by decide), if_pos trivial, jsonEscape_control control]
      rfl
    · rename_i visible
      rw [List.singleton_append, jsonStringRest, if_neg noQuote, if_neg noEscape, if_neg visible]
      rfl

theorem jsonStringRest_written {fuel : Nat} (enough : text.length < fuel) (more : List Char) :
    jsonStringRest fuel (text.flatMap jsonCharacter ++ '"' :: more) = some (text, more) := by
  obtain ⟨fuel, rfl⟩ : ∃ left, fuel = left + 1 := ⟨fuel - 1, by omega⟩
  induction text generalizing fuel with
  | nil => rfl
  | cons c rest ih =>
      rw [List.length_cons] at enough
      obtain ⟨fuel, rfl⟩ : ∃ left, fuel = left + 1 := ⟨fuel - 1, by omega⟩
      rw [List.flatMap_cons, List.append_assoc, jsonStringRest_character, ih fuel (by omega)]
      rfl

theorem length_le_flatMap (text : List Char) : text.length ≤ (text.flatMap jsonCharacter).length := by
  induction text with
  | nil => simp
  | cons c rest ih =>
      have some : 0 < (jsonCharacter c).length := by
        unfold jsonCharacter
        split <;> (try split) <;> simp
      rw [List.flatMap_cons, List.length_append, List.length_cons]
      omega

/-- A text that has been written as JSON is read back, whatever is behind it. -/
theorem jsonValue_jsonText {fuel : Nat} (text : String) (more : List Char) :
    jsonValue (fuel + 1) (jsonText text ++ more) = some (.string text, more) := by
  have shape : jsonText text ++ more = '"' :: (text.toList.flatMap jsonCharacter ++ '"' :: more) := by
    simp [jsonText]
  have noSpace : skipJsonSpace ('"' :: (text.toList.flatMap jsonCharacter ++ '"' :: more)) =
      '"' :: (text.toList.flatMap jsonCharacter ++ '"' :: more) := rfl
  have read : jsonStringRest ((text.toList.flatMap jsonCharacter ++ '"' :: more).length + 1)
      (text.toList.flatMap jsonCharacter ++ '"' :: more) = some (text.toList, more) := by
    have long := length_le_flatMap text.toList
    refine jsonStringRest_written ?_ more
    rw [List.length_append, List.length_cons]
    omega
  rw [shape]
  simp only [jsonValue, noSpace, read, Option.map_some, String.ofList_toList]

end NebulaCloud.Platform
