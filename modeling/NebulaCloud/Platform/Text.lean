import NebulaCloud.Data.Runs
import Mathlib.Data.String.Basic
import Mathlib.Data.Bool.AllAny
import Mathlib.Data.List.Basic
import Mathlib.Data.List.TakeWhile
import Mathlib.Algebra.Ring.Nat

namespace NebulaCloud.Platform

open NebulaCloud.Data

/-! Strings and numbers as the language runtime treats them. -/

/-- White space and line terminators, the characters that `trim` removes. -/
def isWhiteSpace (c : Char) : Bool :=
  c.val ∈ ([0x9, 0xA, 0xB, 0xC, 0xD, 0x20, 0xA0, 0x1680, 0x2028, 0x2029, 0x202F, 0x205F, 0x3000,
    0xFEFF] : List UInt32) || (0x2000 ≤ c.val && c.val ≤ 0x200A)

def trimList (text : List Char) : List Char :=
  ((text.dropWhile isWhiteSpace).reverse.dropWhile isWhiteSpace).reverse

/-- `text.trim()`. -/
def trim (text : String) : String := String.ofList (trimList text.toList)

/-- What can be checked of each ASCII character holds of all of them. -/
theorem ascii_forall (holds : Char → Prop) (each : ∀ code < 128, holds (Char.ofNat code)) {c : Char}
    (ascii : c.toNat < 128) : holds c := by
  have checked := each c.toNat ascii
  rwa [Char.ofNat_toNat] at checked

theorem trimList_trimList (text : List Char) : trimList (trimList text) = trimList text := by
  have last := head?_dropWhile isWhiteSpace (text.dropWhile isWhiteSpace).reverse
  have front : ∀ c ∈ (trimList text).head?, isWhiteSpace c = false := by
    intro c member
    have first := head?_dropWhile isWhiteSpace text
    have suffix : (text.dropWhile isWhiteSpace).reverse.dropWhile isWhiteSpace <:+
        (text.dropWhile isWhiteSpace).reverse := List.dropWhile_suffix _
    obtain ⟨removed, split⟩ := suffix
    have whole : trimList text ++ removed.reverse = text.dropWhile isWhiteSpace := by
      have reversed := congrArg List.reverse split
      simpa only [List.reverse_append, List.reverse_reverse, trimList] using reversed
    apply first c
    rw [← whole]
    cases trimmed : trimList text with
    | nil => simp [trimmed] at member
    | cons head rest => simpa [trimmed] using member
  have kept : (trimList text).dropWhile isWhiteSpace = trimList text := dropWhile_of_head front
  unfold trimList at kept ⊢
  rw [kept, List.reverse_reverse, dropWhile_of_head last]

theorem trimList_visible {text : List Char} (visible : ∀ c ∈ text, isWhiteSpace c = false) : trimList text = text := by
  have kept {other : List Char} (each : ∀ c ∈ other, isWhiteSpace c = false) : other.dropWhile isWhiteSpace = other :=
    dropWhile_of_head fun c head => each c (List.mem_of_mem_head? head)
  rw [trimList, kept visible, kept fun c member => visible c (List.mem_reverse.mp member), List.reverse_reverse]

@[simp] theorem trim_trim (text : String) : trim (trim text) = trim text := by
  simp only [trim, String.toList_ofList, trimList_trimList]

theorem trim_visible {text : String} {first last : Char} {rest front : List Char}
    (starts : text.toList = first :: rest) (ends : text.toList = front ++ [last])
    (visible : isWhiteSpace first = false) (visible' : isWhiteSpace last = false) : trim text = text := by
  have kept : text.toList.dropWhile isWhiteSpace = text.toList := by
    rw [starts]
    exact dropWhile_of_head (by simpa using visible)
  have kept' : text.toList.reverse.dropWhile isWhiteSpace = text.toList.reverse := by
    rw [ends, List.reverse_append]
    exact dropWhile_of_head (by simpa using visible')
  rw [trim, trimList, kept, kept', List.reverse_reverse, String.ofList_toList]

theorem trim_ne_empty {text : String} {first : Char} {rest : List Char}
    (characters : text.toList = first :: rest) (visible : isWhiteSpace first = false) : trim text ≠ "" := by
  intro empty
  have none : trimList text.toList = [] := by simpa [trim] using congrArg String.toList empty
  have kept : (first :: rest).dropWhile isWhiteSpace = first :: rest := dropWhile_of_head (by simpa using visible)
  simp only [characters, trimList, kept, List.reverse_eq_nil_iff, List.dropWhile_eq_nil_iff] at none
  rw [none first (by simp)] at visible
  cases visible

/-- `text.length`, in UTF-16 code units. -/
def utf16Length (text : String) : Nat :=
  (text.toList.map fun c => if c.val < 0x10000 then 1 else 2).sum

/-- SQLite's `length(text)`, in characters before the first NUL. -/
def sqlLength (text : String) : Nat := (text.toList.takeWhile (· ≠ '\x00')).length

/-- The UTF-16 code units of a string, which order it under `<`. -/
def codeUnits (text : String) : List Nat :=
  text.toList.flatMap fun c =>
    if c.toNat < 0x10000 then [c.toNat]
    else [0xD800 + (c.toNat - 0x10000) / 0x400, 0xDC00 + (c.toNat - 0x10000) % 0x400]

/-- The first code units of a text.  A surrogate pair cut in half is stored as
the replacement character. -/
def takeUnits : Nat → List Char → List Char
  | 0, _ => []
  | _ + 1, [] => []
  | 1, c :: rest => if c.val < 0x10000 then c :: takeUnits 0 rest else ['\uFFFD']
  | length + 2, c :: rest =>
      c :: takeUnits (if c.val < 0x10000 then length + 1 else length) rest

/-- `text.slice(0, length)`. -/
@[irreducible] def slice (text : String) (length : Nat) : String := String.ofList (takeUnits length text.toList)

theorem takeUnits_length (length : Nat) (text : List Char) : (takeUnits length text).length ≤ length := by
  induction length, text using takeUnits.induct with
  | case1 => simp [takeUnits]
  | case2 => simp [takeUnits]
  | case3 c rest basic ih =>
      rw [takeUnits, if_pos basic]
      simpa using ih
  | case4 c rest supplementary =>
      rw [takeUnits, if_neg supplementary]
      simp
  | case5 length c rest ih =>
      rw [takeUnits, List.length_cons]
      split at ih
      · rename_i basic
        rw [if_pos basic]
        omega
      · rename_i supplementary
        rw [if_neg supplementary]
        omega

theorem sqlLength_slice (text : String) (length : Nat) : sqlLength (slice text length) ≤ length := by
  have shorter := (List.takeWhile_sublist (l := takeUnits length text.toList) (· ≠ '\x00')).length_le
  have taken := takeUnits_length length text.toList
  simp only [sqlLength, slice, String.toList_ofList]
  omega

/-! Lengths of one text: SQLite counts no more characters than there are, and no
character has less than one code unit. -/

theorem sqlLength_le_length (text : String) : sqlLength text ≤ text.toList.length :=
  (List.takeWhile_sublist _).length_le

theorem length_le_utf16Length (text : String) : text.toList.length ≤ utf16Length text := by
  unfold utf16Length
  induction text.toList with
  | nil => simp
  | cons c rest ih =>
      rw [List.length_cons, List.map_cons, List.sum_cons]
      split <;> omega

theorem utf16Length_ascii {text : String} (ascii : ∀ c ∈ text.toList, c.toNat < 0x80) :
    utf16Length text = text.toList.length := by
  have each : ∀ c ∈ text.toList, (if c.val < 0x10000 then 1 else 2) = 1 := by
    intro c member
    have small : c.val < 0x10000 := by
      have code := ascii c member
      exact UInt32.lt_iff_toNat_lt.mpr (Nat.lt_trans code (by decide))
    exact if_pos small
  rw [utf16Length, List.map_congr_left each]
  simp

theorem one_le_sqlLength {text : String} {first : Char} {rest : List Char}
    (characters : text.toList = first :: rest) (visible : first ≠ '\x00') : 1 ≤ sqlLength text := by
  simp [sqlLength, characters, visible]

def maxSafeInteger : Int := 9007199254740991

/-- `Number.isSafeInteger(value) && value >= 0` on an integer. -/
def IsNonNegativeSafeInteger (value : Int) : Prop := 0 ≤ value ∧ value ≤ maxSafeInteger

instance (value : Int) : Decidable (IsNonNegativeSafeInteger value) :=
  inferInstanceAs (Decidable (_ ∧ _))

end NebulaCloud.Platform
