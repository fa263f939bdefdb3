import NebulaCloud.Data.Transducer
import NebulaCloud.Platform.Utf8

namespace NebulaCloud.Platform

open NebulaCloud.Data

/-! # Decoding a stream

`TextDecoder` with `stream: true`, and where ASCII text stands in what it decodes. -/

structure TextDecoder where
  utf8 : Utf8State := {}
  bomSeen : Bool := false
deriving DecidableEq, Repr

/-- A byte order mark in front of everything is left out. -/
def TextDecoder.serialize (bomSeen : Bool) (text : List Char) : Bool × List Char :=
  if bomSeen then (true, text)
  else match text with
    | [] => (false, [])
    | c :: rest => (true, if c = '\uFEFF' then rest else text)

/-- `decoder.decode(chunk, { stream: true })`. -/
def TextDecoder.decode (decoder : TextDecoder) (chunk : List UInt8) : TextDecoder × List Char :=
  let (utf8, decoded) := decoder.utf8.decode chunk
  let (bomSeen, text) := serialize decoder.bomSeen decoded
  ({ utf8, bomSeen }, text)

/-- The UTF-16 code units of a character. -/
def charUnits (c : Char) : List Nat :=
  if c.toNat < 0x10000 then [c.toNat]
  else [0xD800 + (c.toNat - 0x10000) / 0x400, 0xDC00 + (c.toNat - 0x10000) % 0x400]

def textUnits (text : List Char) : List Nat := text.flatMap charUnits

variable {state : Utf8State} {byte : UInt8} {text : List Char} {decoder : TextDecoder}

@[simp] theorem textUnits_nil : textUnits [] = [] := rfl

@[simp] theorem textUnits_append (left right : List Char) :
    textUnits (left ++ right) = textUnits left ++ textUnits right :=
  List.flatMap_append

theorem textUnits_ascii {c : Char} (ascii : c.toNat < 0x80) : textUnits [c] = [c.toNat] := by
  have basic : c.toNat < 0x10000 := by omega
  simp [textUnits, charUnits, basic]

/-- What is not ASCII has no ASCII code unit. -/
theorem textUnits_strange (strange : ∀ c ∈ text, 0x80 ≤ c.toNat) : ∀ unit ∈ textUnits text, 0x80 ≤ unit := by
  intro unit member
  obtain ⟨c, inText, member⟩ := List.mem_flatMap.mp member
  have high := strange c inText
  rw [charUnits] at member
  split at member
  · rw [List.mem_singleton] at member
    omega
  · simp only [List.mem_cons, List.not_mem_nil, or_false] at member
    omega

theorem textUnits_eq_nil : textUnits text = [] ↔ text = [] := by
  cases text with
  | nil => simp
  | cons c rest =>
      have some : charUnits c ≠ [] := by
        rw [charUnits]
        split <;> exact List.cons_ne_nil _ _
      simp [textUnits, some]

/-! ## What a byte decodes to -/

theorem char_toNat_ofNat {code : Nat} (valid : code.isValidChar) : (Char.ofNat code).toNat = code := by
  rw [Char.ofNat, dif_pos valid]
  exact UInt32.toNat_ofNatLT

/-- All continuations of what has been read of a character lead to one above ASCII. -/
def completesStrange : Nat → Nat → Prop
  | 0, code => 0x80 ≤ code ∧ code.isValidChar
  | needed + 1, code => ∀ low < 64, completesStrange needed (64 * code + low)

/-- A state between characters, or within one above ASCII. -/
def Utf8State.Sound (state : Utf8State) : Prop :=
  ∀ needed, state.needed = needed + 1 →
    0x80 ≤ state.lower ∧ state.upper ≤ 0xBF ∧
    ∀ byte, state.lower ≤ byte → byte ≤ state.upper → completesStrange needed (64 * state.code + (byte - 0x80))

theorem between_sound : Utf8State.Sound {} := by
  intro needed more
  cases more

/-- The bounds of the second byte keep out overlong forms, surrogates and what is too large. -/
theorem first_sound {code : Nat} : (Utf8State.first code).1.Sound := by
  unfold Utf8State.first
  by_cases ascii : code < 0x80
  · rw [if_pos ascii]
    exact between_sound
  rw [if_neg ascii]
  by_cases two : 0xC2 ≤ code ∧ code < 0xE0
  · rw [if_pos two]
    rintro needed ⟨⟩
    refine ⟨Nat.le_refl _, Nat.le_refl _, fun byte low high => ?_⟩
    simp only [completesStrange, Nat.isValidChar] at low high ⊢
    omega
  rw [if_neg two]
  by_cases three : 0xE0 ≤ code ∧ code < 0xF0
  · rw [if_pos three]
    rintro needed ⟨⟩
    refine ⟨?_, ?_, fun byte low high => ?_⟩
    · simp only
      split <;> omega
    · simp only
      split <;> omega
    · simp only [completesStrange, Nat.isValidChar] at low high ⊢
      intro last below
      split at low <;> split at high <;> omega
  rw [if_neg three]
  by_cases four : 0xF0 ≤ code ∧ code < 0xF5
  · rw [if_pos four]
    rintro needed ⟨⟩
    refine ⟨?_, ?_, fun byte low high => ?_⟩
    · simp only
      split <;> omega
    · simp only
      split <;> omega
    · simp only [completesStrange, Nat.isValidChar] at low high ⊢
      intro third thirdBelow last below
      split at low <;> split at high <;> omega
  · rw [if_neg four]
    exact between_sound

theorem accept_sound (sound : state.Sound) : (state.accept byte).1.Sound := by
  rw [Utf8State.accept]
  by_cases between : state.needed = 0
  · rw [if_pos between]
    exact first_sound
  rw [if_neg between]
  by_cases outside : byte.toNat < state.lower ∨ state.upper < byte.toNat
  · rw [if_pos outside]
    exact first_sound
  rw [if_neg outside]
  by_cases last : state.needed = 1
  · rw [if_pos last]
    exact between_sound
  · rw [if_neg last]
    obtain ⟨needed, more⟩ : ∃ needed, state.needed = needed + 1 + 1 := ⟨state.needed - 2, by omega⟩
    obtain ⟨-, -, completes⟩ := sound _ more
    intro left same
    obtain rfl : left = needed := by simp only at same; omega
    refine ⟨Nat.le_refl _, Nat.le_refl _, fun byte low high => ?_⟩
    simp only at low high
    exact completes _ (by omega) (by omega) (byte - 0x80) (by omega)

/-- An ASCII byte ends what has not been completed, and comes out as itself. -/
theorem accept_ascii (sound : state.Sound) (ascii : byte.toNat < 0x80) :
    state.accept byte = ({}, state.flush ++ [Char.ofNat byte.toNat]) := by
  rw [Utf8State.accept, Utf8State.flush, first_ascii ascii]
  by_cases between : state.needed = 0
  · rw [if_pos between, if_pos between, List.nil_append]
  · obtain ⟨lower, -, -⟩ := sound (state.needed - 1) (by omega)
    rw [if_neg between, if_neg between, if_pos (.inl (by omega))]
    rfl

theorem replacement_strange : 0x80 ≤ replacement.toNat := by decide

theorem first_strange {code : Nat} (strange : 0x80 ≤ code) : ∀ c ∈ (Utf8State.first code).2, 0x80 ≤ c.toNat := by
  intro c member
  simp only [Utf8State.first, if_neg (Nat.not_lt.mpr strange)] at member
  split at member
  · cases member
  split at member
  · cases member
  split at member
  · cases member
  · rw [List.mem_singleton.mp member]
    exact replacement_strange

theorem accept_strange (sound : state.Sound) (strange : 0x80 ≤ byte.toNat) :
    ∀ c ∈ (state.accept byte).2, 0x80 ≤ c.toNat := by
  intro c member
  rw [Utf8State.accept] at member
  by_cases between : state.needed = 0
  · rw [if_pos between] at member
    exact first_strange strange c member
  rw [if_neg between] at member
  by_cases outside : byte.toNat < state.lower ∨ state.upper < byte.toNat
  · rw [if_pos outside] at member
    rcases List.mem_cons.mp member with rfl | member
    · exact replacement_strange
    · exact first_strange strange c member
  rw [if_neg outside] at member
  by_cases last : state.needed = 1
  · obtain ⟨-, -, completes⟩ := sound 0 last
    obtain ⟨high, valid⟩ := completes byte.toNat (by omega) (by omega)
    rw [if_pos last] at member
    rwa [List.mem_singleton.mp member, char_toNat_ofNat valid]
  · rw [if_neg last] at member
    cases member

/-- A byte above ASCII starts or goes on with a character, or shows. -/
theorem accept_pending (strange : 0x80 ≤ byte.toNat) :
    (state.accept byte).2 ≠ [] ∨ (state.accept byte).1.needed ≠ 0 := by
  rw [Utf8State.accept]
  by_cases between : state.needed = 0
  · rw [if_pos between]
    simp only [Utf8State.first, if_neg (Nat.not_lt.mpr strange)]
    split
    · exact .inr Nat.one_ne_zero
    split
    · exact .inr (Nat.succ_ne_zero 1)
    split
    · exact .inr (Nat.succ_ne_zero 2)
    · exact .inl (List.cons_ne_nil _ _)
  rw [if_neg between]
  by_cases outside : byte.toNat < state.lower ∨ state.upper < byte.toNat
  · rw [if_pos outside]
    exact .inl (List.cons_ne_nil _ _)
  rw [if_neg outside]
  by_cases last : state.needed = 1
  · rw [if_pos last]
    exact .inl (List.cons_ne_nil _ _)
  · rw [if_neg last]
    exact .inr (by simp only; omega)

/-! ## ASCII words in a stream -/

theorem utf8_decode_append (state : Utf8State) (left right : List UInt8) :
    state.decode (left ++ right) =
      (((state.decode left).1.decode right).1, (state.decode left).2 ++ ((state.decode left).1.decode right).2) := by
  induction left generalizing state with
  | nil => rfl
  | cons byte rest ih => simp only [List.cons_append, Utf8State.decode, ih, List.append_assoc]

theorem serialize_append (bomSeen : Bool) (left right : List Char) :
    TextDecoder.serialize bomSeen (left ++ right) =
      ((TextDecoder.serialize (TextDecoder.serialize bomSeen left).1 right).1,
        (TextDecoder.serialize bomSeen left).2 ++
          (TextDecoder.serialize (TextDecoder.serialize bomSeen left).1 right).2) := by
  cases bomSeen with
  | true => rfl
  | false =>
      cases left with
      | nil => rfl
      | cons c rest =>
          simp only [TextDecoder.serialize, List.cons_append, Bool.false_eq_true, if_false, if_true]
          split <;> rfl

/-- Where a stream is cut makes no difference. -/
theorem textDecoder_append (decoder : TextDecoder) (left right : List UInt8) :
    decoder.decode (left ++ right) =
      (((decoder.decode left).1.decode right).1, (decoder.decode left).2 ++ ((decoder.decode left).1.decode right).2) := by
  simp only [TextDecoder.decode, utf8_decode_append, serialize_append]

/-- The code units that a decoder writes byte by byte. -/
def unitTransducer : Transducer TextDecoder UInt8 Nat where
  step decoder byte := ((decoder.decode [byte]).1, textUnits (decoder.decode [byte]).2)

theorem unitTransducer_run (decoder : TextDecoder) (chunk : List UInt8) :
    unitTransducer.run decoder chunk = ((decoder.decode chunk).1, textUnits (decoder.decode chunk).2) := by
  induction chunk generalizing decoder with
  | nil =>
      obtain ⟨utf8, bomSeen⟩ := decoder
      cases bomSeen <;> simp [Transducer.run, TextDecoder.decode, TextDecoder.serialize, Utf8State.decode]
  | cons byte rest ih =>
      have cut := textDecoder_append decoder [byte] rest
      rw [List.singleton_append] at cut
      rw [Transducer.run_cons, ih, cut, textUnits_append]
      rfl

/-- Between characters, behind some text. -/
def TextDecoder.resting : TextDecoder := { bomSeen := true }

/-- Within a character, behind some text. -/
def TextDecoder.Owing (decoder : TextDecoder) : Prop := decoder.utf8.needed ≠ 0 ∧ decoder.bomSeen = true

theorem strange_of_unknown (unknown : ¬ ∃ unit, unit < 0x80 ∧ byte = UInt8.ofNat unit) : 0x80 ≤ byte.toNat := by
  by_contra ascii
  exact unknown ⟨byte.toNat, by omega, (UInt8.ofNat_toNat).symm⟩

theorem textDecoder_byte (decoder : TextDecoder) (byte : UInt8) :
    decoder.decode [byte] =
      ({ utf8 := (decoder.utf8.accept byte).1
         bomSeen := (TextDecoder.serialize decoder.bomSeen (decoder.utf8.accept byte).2).1 },
        (TextDecoder.serialize decoder.bomSeen (decoder.utf8.accept byte).2).2) := by
  simp [TextDecoder.decode, Utf8State.decode]

theorem serialize_suffix (bomSeen : Bool) (text : List Char) : (TextDecoder.serialize bomSeen text).2 <:+ text := by
  cases bomSeen with
  | true => exact List.suffix_refl text
  | false =>
      cases text with
      | nil => exact List.suffix_refl []
      | cons c rest =>
          simp only [TextDecoder.serialize, Bool.false_eq_true, if_false]
          split
          · exact List.suffix_cons c rest
          · exact List.suffix_refl _

/-- Only a byte order mark is left out. -/
theorem serialize_unmarked {c : Char} {rest : List Char} (unmarked : c ≠ '\uFEFF') (bomSeen : Bool) :
    TextDecoder.serialize bomSeen (c :: rest) = (true, c :: rest) := by
  cases bomSeen <;> simp [TextDecoder.serialize, unmarked]

theorem ascii_unmarked {c : Char} (ascii : c.toNat < 0x80) : c ≠ '\uFEFF' := by
  rintro rfl
  exact absurd ascii (by decide)

/-- What an ASCII byte makes of any state. -/
theorem textDecoder_ascii (sound : decoder.utf8.Sound) (ascii : byte.toNat < 0x80) :
    decoder.decode [byte] = (.resting, decoder.utf8.flush ++ [Char.ofNat byte.toNat]) := by
  have unmarked : Char.ofNat byte.toNat ≠ '\uFEFF' :=
    ascii_unmarked (by rwa [char_toNat_ofNat (.inl (by omega))])
  rw [textDecoder_byte, accept_ascii sound ascii, Utf8State.flush]
  split
  · rw [List.nil_append, serialize_unmarked unmarked]
    rfl
  · rw [List.singleton_append, serialize_unmarked (by decide)]
    rfl

/-- What another byte adds is not ASCII either. -/
theorem textDecoder_strange (sound : decoder.utf8.Sound) (strange : 0x80 ≤ byte.toNat) :
    ∀ c ∈ (decoder.decode [byte]).2, 0x80 ≤ c.toNat := by
  intro c member
  rw [textDecoder_byte] at member
  exact accept_strange sound strange c ((serialize_suffix _ _).subset member)

theorem flush_strange : ∀ c ∈ state.flush, 0x80 ≤ c.toNat := by
  intro c member
  rw [Utf8State.flush] at member
  split at member
  · cases member
  · rw [List.mem_singleton.mp member]
    exact replacement_strange

/-- ASCII comes through a decoder as it is. -/
theorem textUnits_passes :
    unitTransducer.Passes (fun decoder => decoder.utf8.Sound) TextDecoder.Owing TextDecoder.resting (· < 0x80)
      UInt8.ofNat where
  rest_sound := between_sound
  step_sound := by
    intro decoder byte sound
    simp only [unitTransducer, textDecoder_byte]
    exact accept_sound sound
  plain := by
    intro decoder unit sound plain
    have code : (UInt8.ofNat unit).toNat = unit := by
      rw [UInt8.toNat_ofNat']
      omega
    have letter : (Char.ofNat unit).toNat = unit := char_toNat_ofNat (.inl (by omega))
    refine ⟨textUnits decoder.utf8.flush, ?_, ?_, ?_, ?_⟩
    · simp only [unitTransducer, textDecoder_ascii sound (code.symm ▸ plain), code, textUnits_append,
        textUnits_ascii (letter.symm ▸ plain), letter]
    · intro other member
      exact Nat.not_lt.mpr (textUnits_strange flush_strange other member)
    · rintro rfl
      rfl
    · rintro ⟨pending, -⟩
      rw [Ne, textUnits_eq_nil, Utf8State.flush, if_neg pending]
      exact List.cons_ne_nil _ _
  strange := by
    intro decoder byte sound unknown unit member
    exact Nat.not_lt.mpr (textUnits_strange (textDecoder_strange sound (strange_of_unknown unknown)) unit member)
  owes := by
    intro decoder byte sound settled unknown
    have seen : decoder.bomSeen = true := by
      rcases settled with rfl | ⟨-, seen⟩
      · rfl
      · exact seen
    simp only [unitTransducer, TextDecoder.Owing, textDecoder_byte, seen, TextDecoder.serialize, if_true, and_true]
    rw [Ne, textUnits_eq_nil]
    exact accept_pending (strange_of_unknown unknown)

/-- Where ASCII stands in what has been decoded it stands in the bytes. -/
theorem occurs_decoded_iff {word after : List Nat} {bytes : List UInt8} (ascii : ∀ unit ∈ word, unit < 0x80)
    (nonempty : word ≠ []) :
    (∃ before, textUnits (TextDecoder.decode {} bytes).2 = before ++ word ++ after) ↔
      ∃ early later, bytes = early ++ word.map UInt8.ofNat ++ later ∧
        textUnits (TextDecoder.resting.decode later).2 = after := by
  have sound : (TextDecoder.utf8 {}).Sound := between_sound
  have occurs := textUnits_passes.occurs_iff sound ascii nonempty bytes after
  simpa only [unitTransducer_run] using occurs

end NebulaCloud.Platform
