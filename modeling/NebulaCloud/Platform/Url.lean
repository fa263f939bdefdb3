import Mathlib.Data.List.Basic
import Mathlib.Data.String.Basic

namespace NebulaCloud.Platform

/-! The authority of an `http` URL as the URL parser reads it, and the resolution
of a reference against a base URL.  The host parser is a parameter.  The path,
query and fragment states accept every text and change neither host nor port, so
a URL is its authority here; credentials are kept before percent-encoding. -/

structure Url where
  username : List Char
  password : List Char
  hostname : String
  port : Option Nat
deriving DecidableEq, Repr

def isSlash (c : Char) : Bool := c = '/' || c = '\\'

/-- The characters that end the authority of a special URL. -/
def endsAuthority (c : Char) : Bool := isSlash c || c = '?' || c = '#'

def isControlOrSpace (c : Char) : Bool := c.toNat ≤ 0x20

def isTabOrNewline (c : Char) : Bool := c = '\t' || c = '\n' || c = '\r'

/-- What the parser removes from its input before the first state. -/
def cleanInput (text : List Char) : List Char :=
  (((text.dropWhile isControlOrSpace).reverse.dropWhile isControlOrSpace).reverse).filter
    fun c => !isTabOrNewline c

def portNumber (digits : List Char) : Nat :=
  digits.foldl (fun number digit => 10 * number + (digit.toNat - 48)) 0

section Parser

variable (parseHost : List Char → Option String)

/-- The end of the port state; 80 is the default port of the scheme. -/
def finishPort (digits : List Char) : Option (Option Nat) :=
  if digits = [] then some none
  else if 65535 < portNumber digits then none
  else if portNumber digits = 80 then some none
  else some (some (portNumber digits))

def portState (buffer : List Char) : List Char → Option (Option Nat)
  | [] => finishPort buffer
  | c :: rest =>
      if c.isDigit then portState (buffer ++ [c]) rest
      else if endsAuthority c then finishPort buffer
      else none

def finishHost (buffer : List Char) : Option String :=
  if buffer = [] then none else parseHost buffer

def hostState (insideBrackets : Bool) (buffer : List Char) :
    List Char → Option (String × Option Nat)
  | [] => (finishHost parseHost buffer).map fun host => (host, none)
  | c :: rest =>
      if c = ':' ∧ insideBrackets = false then do
        let host ← finishHost parseHost buffer
        let port ← portState [] rest
        some (host, port)
      else if endsAuthority c then (finishHost parseHost buffer).map fun host => (host, none)
      else
        hostState (if c = '[' then true else if c = ']' then false else insideBrackets)
          (buffer ++ [c]) rest

/-- `atSign` holds the credentials read so far once an `@` was seen; a later `@`
turns the earlier one into text.  The result is the input of the host state. -/
def authorityState (atSign : Option (List Char)) (buffer : List Char) :
    List Char → Option (Option (List Char) × List Char)
  | [] => if atSign.isSome ∧ buffer = [] then none else some (atSign, buffer)
  | c :: rest =>
      if c = '@' then
        authorityState
          (some (match atSign with
            | none => buffer
            | some credentials => credentials ++ ['%', '4', '0'] ++ buffer)) [] rest
      else if endsAuthority c then
        if atSign.isSome ∧ buffer = [] then none else some (atSign, buffer ++ c :: rest)
      else authorityState atSign (buffer ++ [c]) rest

def parseAuthority (text : List Char) : Option Url := do
  let (atSign, hostText) ← authorityState none [] text
  let (hostname, port) ← hostState parseHost false [] hostText
  let credentials := atSign.getD []
  some
    { username := credentials.takeWhile (· ≠ ':')
      password := (credentials.dropWhile (· ≠ ':')).drop 1
      hostname
      port }

/-- The special authority ignore slashes state. -/
def ignoreSlashes (text : List Char) : Option Url := parseAuthority parseHost (text.dropWhile isSlash)

/-- `new URL("http://" + address)`. -/
def parseHttpURL (address : String) : Option Url :=
  ignoreSlashes parseHost ((cleanInput ("http://" ++ address).toList).drop "http:".length)

/-- The relative slash state: a second slash starts an authority, anything else
keeps that of the base. -/
def relativeSlashState (base : Url) : List Char → Option Url
  | [] => some base
  | c :: rest => if isSlash c then ignoreSlashes parseHost rest else some base

/-- `new URL("/" + rest, base)`. -/
def resolveRooted (base : Url) (rest : List Char) : Option Url :=
  relativeSlashState parseHost base ((cleanInput ('/' :: rest)).drop 1)

end Parser

/-- Letters, digits, dots and hyphens: on such lower-case texts without an
all-numeric last label, and on dotted quads in canonical form, the host parser
changes nothing. -/
def plainHost (text : List Char) : Option String :=
  if text.all fun c => ('a' ≤ c && c ≤ 'z') || ('0' ≤ c && c ≤ '9') || c = '.' || c = '-' then
    some (String.ofList text)
  else none

/-! ## Plain authorities -/

section Plain

variable {parseHost : List Char → Option String} {text rest buffer digits : List Char}
  {base url : Url}

/-- A text without a character that the authority states look at. -/
def IsPlain (text : List Char) : Prop :=
  ∀ c ∈ text, c ≠ '@' ∧ c ≠ ':' ∧ c ≠ '[' ∧ c ≠ ']' ∧ endsAuthority c = false

instance (text : List Char) : Decidable (IsPlain text) :=
  List.decidableBAll _ text

theorem authorityState_without (atSign : Option (List Char)) (started : atSign = none)
    (without : ∀ c ∈ text, c ≠ '@' ∧ endsAuthority c = false) :
    authorityState atSign buffer text = some (atSign, buffer ++ text) := by
  induction text generalizing buffer with
  | nil => simp [authorityState, started]
  | cons c rest ih =>
      obtain ⟨noAt, noEnd⟩ := without c List.mem_cons_self
      simp only [authorityState, noAt, noEnd, if_false, Bool.false_eq_true]
      rw [ih fun other member => without other (List.mem_cons_of_mem c member)]
      simp

theorem hostState_plain (plain : IsPlain text) :
    hostState parseHost false buffer (text ++ rest) =
      hostState parseHost false (buffer ++ text) rest := by
  induction text generalizing buffer with
  | nil => simp
  | cons c text ih =>
      obtain ⟨-, noColon, noOpen, noClose, noEnd⟩ := plain c List.mem_cons_self
      simp only [List.cons_append, hostState, noColon, noOpen, noClose, noEnd, false_and, if_false,
        Bool.false_eq_true]
      rw [ih fun other member => plain other (List.mem_cons_of_mem c member)]
      simp

theorem portState_digits (digit : ∀ c ∈ digits, c.isDigit = true) :
    portState buffer digits = finishPort (buffer ++ digits) := by
  induction digits generalizing buffer with
  | nil => simp [portState]
  | cons c digits ih =>
      simp only [portState, digit c List.mem_cons_self, if_true]
      rw [ih fun other member => digit other (List.mem_cons_of_mem c member)]
      simp

/-- A plain `host:port` is read as that host and that port. -/
theorem parseAuthority_hostPort (plain : IsPlain text) (nonempty : text ≠ [])
    (digit : ∀ c ∈ digits, c.isDigit = true) :
    parseAuthority parseHost (text ++ ':' :: digits) = (do
      let hostname ← parseHost text
      let port ← finishPort digits
      some { username := [], password := [], hostname, port }) := by
  have without : ∀ c ∈ text ++ ':' :: digits, c ≠ '@' ∧ endsAuthority c = false := by
    intro c member
    rcases List.mem_append.mp member with inHost | later
    · exact ⟨(plain c inHost).1, (plain c inHost).2.2.2.2⟩
    · rcases List.mem_cons.mp later with rfl | inPort
      · decide
      · have isDigit := digit c inPort
        constructor
        · rintro rfl
          exact absurd isDigit (by decide)
        · by_contra ends
          simp only [endsAuthority, isSlash, Bool.not_eq_false, Bool.or_eq_true,
            decide_eq_true_eq] at ends
          rcases ends with ((rfl | rfl) | rfl) | rfl <;> exact absurd isDigit (by decide)
  have colon : hostState parseHost false text (':' :: digits) = (do
      let host ← finishHost parseHost text
      let port ← portState [] digits
      some (host, port)) := by
    simp [hostState]
  unfold parseAuthority
  rw [authorityState_without none rfl without, List.nil_append]
  simp only [Option.bind_eq_bind, Option.bind_some]
  rw [hostState_plain plain, List.nil_append, colon, portState_digits digit]
  simp only [finishHost, nonempty, if_false, List.nil_append]
  cases parseHost text with
  | none => rfl
  | some hostname =>
      cases finishPort digits with
      | none => rfl
      | some port => simp

end Plain

end NebulaCloud.Platform
