import Mathlib.Data.List.Basic

namespace NebulaCloud.Platform

/-! # UTF-8

The decoder of the encoding standard, byte by byte.  What is no character comes out as
the replacement character. -/

structure Utf8State where
  /-- Continuation bytes that are still to come. -/
  needed : Nat := 0
  lower : Nat := 0x80
  upper : Nat := 0xBF
  code : Nat := 0
deriving DecidableEq, Repr

def replacement : Char := '\uFFFD'

/-- A byte between characters. -/
def Utf8State.first (byte : Nat) : Utf8State × List Char :=
  if byte < 0x80 then ({}, [Char.ofNat byte])
  else if 0xC2 ≤ byte ∧ byte < 0xE0 then ({ needed := 1, code := byte - 0xC0 }, [])
  else if 0xE0 ≤ byte ∧ byte < 0xF0 then
    ({ needed := 2
       lower := if byte = 0xE0 then 0xA0 else 0x80
       upper := if byte = 0xED then 0x9F else 0xBF
       code := byte - 0xE0 }, [])
  else if 0xF0 ≤ byte ∧ byte < 0xF5 then
    ({ needed := 3
       lower := if byte = 0xF0 then 0x90 else 0x80
       upper := if byte = 0xF4 then 0x8F else 0xBF
       code := byte - 0xF0 }, [])
  else ({}, [replacement])

/-- A byte that continues no character is read again between characters. -/
def Utf8State.accept (state : Utf8State) (byte : UInt8) : Utf8State × List Char :=
  if state.needed = 0 then Utf8State.first byte.toNat
  else if byte.toNat < state.lower ∨ state.upper < byte.toNat then
    ((Utf8State.first byte.toNat).1, replacement :: (Utf8State.first byte.toNat).2)
  else
    let code := 64 * state.code + (byte.toNat - 0x80)
    if state.needed = 1 then ({}, [Char.ofNat code])
    else ({ needed := state.needed - 1, code }, [])

/-- The characters that bytes complete, and what is left of the last one. -/
def Utf8State.decode (state : Utf8State) : List UInt8 → Utf8State × List Char
  | [] => (state, [])
  | byte :: rest =>
      (((state.accept byte).1.decode rest).1, (state.accept byte).2 ++ ((state.accept byte).1.decode rest).2)

/-- The end of the bytes. -/
def Utf8State.flush (state : Utf8State) : List Char := if state.needed = 0 then [] else [replacement]

/-- `buffer.toString('utf8')`. -/
def utf8Text (bytes : List UInt8) : List Char :=
  let (state, text) := Utf8State.decode {} bytes
  text ++ state.flush

def utf8Encode (text : List Char) : List UInt8 := text.flatMap String.utf8EncodeChar

variable {text : List Char} {state : Utf8State} {byte : UInt8}

theorem first_ascii {code : Nat} (ascii : code < 0x80) : Utf8State.first code = ({}, [Char.ofNat code]) := by
  rw [Utf8State.first, if_pos ascii]

theorem utf8EncodeChar_ascii {c : Char} (ascii : c.toNat < 0x80) :
    String.utf8EncodeChar c = [UInt8.ofNat c.toNat] := by
  have small : c.val.toNat ≤ 0x7F := Nat.le_of_lt_succ ascii
  unfold String.utf8EncodeChar
  exact if_pos small

theorem utf8Encode_length_ascii (ascii : ∀ c ∈ text, c.toNat < 0x80) : (utf8Encode text).length = text.length := by
  induction text with
  | nil => rfl
  | cons c rest ih =>
      have later := ih fun other member => ascii other (List.mem_cons_of_mem c member)
      rw [utf8Encode] at later ⊢
      rw [List.flatMap_cons, utf8EncodeChar_ascii (ascii c List.mem_cons_self), List.length_append, later,
        List.length_cons, List.length_cons, List.length_nil]
      omega

/-- ASCII comes back as it is. -/
theorem utf8Text_utf8Encode_ascii (ascii : ∀ c ∈ text, c.toNat < 0x80) : utf8Text (utf8Encode text) = text := by
  have decoded : Utf8State.decode {} (utf8Encode text) = ({}, text) := by
    induction text with
    | nil => rfl
    | cons c rest ih =>
        have small := ascii c List.mem_cons_self
        have code : (UInt8.ofNat c.toNat).toNat = c.toNat := by
          rw [UInt8.toNat_ofNat']
          omega
        have accepted : Utf8State.accept {} (UInt8.ofNat c.toNat) = ({}, [c]) := by
          rw [Utf8State.accept, if_pos rfl, code, first_ascii small, Char.ofNat_toNat]
        have later := ih fun other member => ascii other (List.mem_cons_of_mem c member)
        rw [utf8Encode, List.flatMap_cons, utf8EncodeChar_ascii small, List.singleton_append, ← utf8Encode,
          Utf8State.decode, accepted, later]
        rfl
  simp [utf8Text, decoded, Utf8State.flush]

end NebulaCloud.Platform
