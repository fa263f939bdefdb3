import NebulaCloud.Data.PrefixCode
import NebulaCloud.Platform.UrlPath

namespace NebulaCloud.Platform

open NebulaCloud.Data

/-! `encodeURIComponent` loses nothing: bytes as `%XX` and characters as UTF-8 bytes are
prefix codes, and so is one after the other. -/

theorem upperHexDigit_injective {digit other : Nat} (small : digit < 16) (small' : other < 16)
    (same : upperHexDigit digit = upperHexDigit other) : digit = other := by
  have each : ∀ digit < 16, ∀ other < 16, upperHexDigit digit = upperHexDigit other → digit = other := by decide
  exact each digit small other small' same

def percentByteWord (byte : Nat) : List Char := ['%', upperHexDigit (byte / 16), upperHexDigit (byte % 16)]

theorem percentByteWord_code : PrefixCode (· < 256) percentByteWord where
  nonempty := by simp [percentByteWord]
  decodes := by
    intro byte other small small' rest more same
    simp only [percentByteWord, List.cons_append, List.cons.injEq, true_and] at same
    have high := upperHexDigit_injective (by omega) (by omega) same.1
    have low := upperHexDigit_injective (by omega) (by omega) same.2.1
    omega

theorem utf8Bytes_ne_nil (c : Char) : utf8Bytes c ≠ [] := by
  simp only [utf8Bytes]
  split
  · simp
  · split
    · simp
    · split
      · simp
      · simp

/-- The number of the character at the front, how many bytes it has being read off the first. -/
def utf8Code (bytes : List Nat) : Nat :=
  let byte index := bytes.getD index 0
  if byte 0 < 0x80 then byte 0
  else if byte 0 < 0xE0 then 0x40 * (byte 0 - 0xC0) + (byte 1 - 0x80)
  else if byte 0 < 0xF0 then 0x1000 * (byte 0 - 0xE0) + 0x40 * (byte 1 - 0x80) + (byte 2 - 0x80)
  else 0x40000 * (byte 0 - 0xF0) + 0x1000 * (byte 1 - 0x80) + 0x40 * (byte 2 - 0x80) + (byte 3 - 0x80)

theorem utf8Code_utf8Bytes (c : Char) (rest : List Nat) : utf8Code (utf8Bytes c ++ rest) = c.toNat := by
  have bound := char_lt c
  simp only [utf8Bytes]
  split
  · rename_i one
    simp [utf8Code, one]
  · split
    · simp only [utf8Code, List.cons_append, List.getD_cons_zero, List.getD_cons_succ]
      rw [if_neg (by omega), if_pos (by omega)]
      omega
    · split
      · simp only [utf8Code, List.cons_append, List.getD_cons_zero, List.getD_cons_succ]
        rw [if_neg (by omega), if_neg (by omega), if_pos (by omega)]
        omega
      · simp only [utf8Code, List.cons_append, List.getD_cons_zero, List.getD_cons_succ]
        rw [if_neg (by omega), if_neg (by omega), if_neg (by omega)]
        omega

theorem utf8Bytes_code : PrefixCode (fun _ => True) utf8Bytes where
  nonempty c _ := utf8Bytes_ne_nil c
  decodes := by
    intro c other _ _ rest more same
    have codes := congrArg utf8Code same
    rw [utf8Code_utf8Bytes, utf8Code_utf8Bytes] at codes
    exact Char.toNat_inj.mp codes

variable {encoded : Char → Bool} {c other : Char} {rest more : List Char}

theorem percentEncode_plain (plain : encoded c = false) : percentEncode encoded c = [c] := by
  simp [percentEncode, plain]

theorem percentEncode_bytes (escaped : encoded c = true) :
    percentEncode encoded c = (utf8Bytes c).flatMap percentByteWord := by
  rw [percentEncode, if_pos escaped]
  rfl

theorem percentEncode_starts (escaped : encoded c = true) : ∃ tail, percentEncode encoded c = '%' :: tail := by
  rw [percentEncode_bytes escaped]
  cases spelled : utf8Bytes c with
  | nil => exact absurd spelled (utf8Bytes_ne_nil c)
  | cons first tail => exact ⟨_, rfl⟩

/-- An escape is no character that stands for itself, as its sign is escaped too. -/
theorem plain_ne_escaped (percent : encoded '%' = true) (plain : encoded c = false) (escaped : encoded other = true) :
    percentEncode encoded c ++ rest ≠ percentEncode encoded other ++ more := by
  intro same
  obtain ⟨tail, word⟩ := percentEncode_starts escaped
  rw [percentEncode_plain plain, word, List.cons_append, List.cons_append, List.cons.injEq] at same
  rw [same.1, percent] at plain
  cases plain

/-- Percent-encoding loses nothing if it encodes the sign that it uses. -/
theorem percentEncode_code (percent : encoded '%' = true) : PrefixCode (fun _ => True) (percentEncode encoded) where
  nonempty := by
    intro c _
    cases escaped : encoded c with
    | false => simp [percentEncode_plain escaped]
    | true =>
        obtain ⟨tail, word⟩ := percentEncode_starts escaped
        simp [word]
  decodes := by
    have bytes := utf8Bytes_code.comp percentByteWord_code fun c _ => utf8Bytes_lt c
    intro c other _ _ rest more same
    cases escaped : encoded c with
    | false =>
        cases escaped' : encoded other with
        | false =>
            rw [percentEncode_plain escaped, percentEncode_plain escaped'] at same
            exact (List.cons.inj same).1
        | true => exact absurd same (plain_ne_escaped percent escaped escaped')
    | true =>
        cases escaped' : encoded other with
        | false => exact absurd same.symm (plain_ne_escaped percent escaped' escaped)
        | true =>
            rw [percentEncode_bytes escaped, percentEncode_bytes escaped'] at same
            exact bytes.decodes c other trivial trivial rest more same

/-! ## `encodeURIComponent` -/

theorem encodeURIComponent_word (text : String) :
    (encodeURIComponent text).toList = text.toList.flatMap (percentEncode fun c => !isUriUnreserved c) := by
  rw [encodeURIComponent, String.toList_ofList]
  refine List.flatMap_congr fun c _ => ?_
  cases unreserved : isUriUnreserved c <;> simp [percentEncode, unreserved]

theorem encodeURIComponent_injective : Function.Injective encodeURIComponent := by
  intro text other same
  have code : PrefixCode (fun _ => True) (percentEncode fun c => !isUriUnreserved c) :=
    percentEncode_code (by decide)
  have words := congrArg String.toList same
  rw [encodeURIComponent_word, encodeURIComponent_word] at words
  exact String.toList_injective (code.injective (by simp) (by simp) words)

/-- Nothing comes out as it is but the unreserved characters and the escapes. -/
theorem encodeURIComponent_mem {text : String} (member : c ∈ (encodeURIComponent text).toList) :
    isUriUnreserved c = true ∨
      c ∈ ['%', '0', '1', '2', '3', '4', '5', '6', '7', '8', '9', 'A', 'B', 'C', 'D', 'E', 'F'] := by
  rw [encodeURIComponent_word] at member
  obtain ⟨unit, -, member⟩ := List.mem_flatMap.mp member
  rcases percentEncode_mem member with ⟨rfl, unreserved⟩ | escape
  · exact .inl (by simpa using unreserved)
  · exact .inr escape

end NebulaCloud.Platform
