import NebulaCloud.Platform.Hostname
import NebulaCloud.Platform.UrlPath

namespace NebulaCloud.Platform

/-! # Origins

URLs of the schemes `http` and `https` as a whole: parsing, the `hostname` setter, and
the origin that is read as the URL it was taken from. -/

structure HttpUrl where
  secure : Bool
  username : List Char
  password : List Char
  hostname : String
  port : Option Nat
  pathname : List Char
  search : List Char
  hash : List Char
deriving DecidableEq, Repr

def httpScheme : List Char → Option Bool
  | ['h', 't', 't', 'p'] => some false
  | ['h', 't', 't', 'p', 's'] => some true
  | _ => none

def defaultPort (secure : Bool) : Nat := if secure then 443 else 80

/-- The text of the host, and what follows it. -/
def hostBuffer (insideBrackets : Bool) (buffer : List Char) : List Char → List Char × List Char
  | [] => (buffer, [])
  | c :: rest =>
      if (c = ':' ∧ insideBrackets = false) ∨ endsAuthority c = true then (buffer, c :: rest)
      else hostBuffer (if c = '[' then true else if c = ']' then false else insideBrackets) (buffer ++ [c]) rest

/-- The port state, for the default port of the scheme. -/
def readPort (standard : Nat) : List Char → Option (Option Nat)
  | ':' :: rest =>
      let digits := rest.takeWhile Char.isDigit
      if (rest.dropWhile Char.isDigit).head?.any fun c => !endsAuthority c then none
      else if digits = [] then some none
      else if 65535 < portNumber digits then none
      else if portNumber digits = standard then some none
      else some (some (portNumber digits))
  | _ => some none

/-- `url.hash`, before percent-encoding. -/
def hashOf (tail : List Char) : List Char :=
  match tail.dropWhile (· ≠ '#') with
  | [_] => []
  | fragment => fragment

/-- `new URL(text)` for a text with one of the two schemes. -/
def parseHttpUrl (parseHost : List Char → Option String) (text : List Char) : Option HttpUrl := do
  let cleaned := cleanInput text
  let secure ← httpScheme ((cleaned.takeWhile (· ≠ ':')).map Char.toLower)
  let (atSign, rest) ← authorityState none [] (((cleaned.dropWhile (· ≠ ':')).drop 1).dropWhile isSlash)
  let (buffer, rest) := hostBuffer false [] rest
  let hostname ← finishHost parseHost buffer
  let port ← readPort (defaultPort secure) rest
  let tail := rest.dropWhile fun c => !endsAuthority c
  let credentials := atSign.getD []
  some
    { secure
      username := credentials.takeWhile (· ≠ ':')
      password := (credentials.dropWhile (· ≠ ':')).drop 1
      hostname
      port
      pathname := (readTail tail).pathname
      search := (readTail tail).search
      hash := hashOf tail }

/-- `url.hostname = text`: a host that is refused leaves the URL as it is. -/
def HttpUrl.setHostname (parseHost : List Char → Option String) (url : HttpUrl) (text : List Char) : HttpUrl :=
  let (buffer, rest) := hostBuffer false [] (text.filter fun c => !isTabOrNewline c)
  if rest.head? = some ':' then url
  else
    match finishHost parseHost buffer with
    | none => url
    | some hostname => { url with hostname }

def portText : Option Nat → List Char
  | none => []
  | some port => ':' :: Nat.toDigits 10 port

def schemeText (secure : Bool) : List Char :=
  if secure then ['h', 't', 't', 'p', 's'] else ['h', 't', 't', 'p']

/-- `url.origin`. -/
def HttpUrl.origin (url : HttpUrl) : List Char :=
  schemeText url.secure ++ [':', '/', '/'] ++ url.hostname.toList ++ portText url.port

/-- A port that a URL keeps. -/
def IsUrlPort (secure : Bool) (port : Option Nat) : Prop := ∀ number ∈ port, number ≤ 65535 ∧ number ≠ defaultPort secure

variable {parseHost : List Char → Option String} {url : HttpUrl} {host text rest : List Char} {c : Char}

theorem isDomainChar_plain (domain : isDomainChar c = true) :
    c ≠ '@' ∧ c ≠ ':' ∧ c ≠ '[' ∧ c ≠ ']' ∧ endsAuthority c = false ∧ isTabOrNewline c = false :=
  ascii_forall (fun c => isDomainChar c = true → c ≠ '@' ∧ c ≠ ':' ∧ c ≠ '[' ∧ c ≠ ']' ∧
    endsAuthority c = false ∧ isTabOrNewline c = false) (by decide) (isDomainChar_ascii domain) domain

theorem hostBuffer_domain (buffer : List Char) (domain : ∀ c ∈ host, isDomainChar c = true)
    (ends : ∀ c ∈ rest.head?, c = ':') : hostBuffer false buffer (host ++ rest) = (buffer ++ host, rest) := by
  induction host generalizing buffer with
  | nil =>
      rw [List.nil_append, List.append_nil]
      cases rest with
      | nil => rfl
      | cons c rest => rw [hostBuffer, if_pos (.inl ⟨ends c rfl, rfl⟩)]
  | cons c host ih =>
      obtain ⟨-, noColon, noOpen, noClose, noEnd, -⟩ := isDomainChar_plain (domain c List.mem_cons_self)
      have later := ih (buffer ++ [c]) fun other member => domain other (List.mem_cons_of_mem c member)
      have inside : ¬ ((c = ':' ∧ false = false) ∨ endsAuthority c = true) := by
        rintro (⟨colon, -⟩ | ends)
        · exact noColon colon
        · rw [noEnd] at ends
          cases ends
      rw [List.cons_append, hostBuffer, if_neg inside, if_neg noOpen, if_neg noClose, later, List.append_assoc,
        List.singleton_append]

theorem portNumber_toDigits (port : Nat) : portNumber (Nat.toDigits 10 port) = port :=
  Nat.ofDigitChars_eq_foldl.symm.trans Nat.ofDigitChars_ten_toDigits

/-- A port that a URL keeps is read back. -/
theorem readPort_portText {secure : Bool} {port : Option Nat} (kept : IsUrlPort secure port) :
    readPort (defaultPort secure) (portText port) = some port := by
  cases port with
  | none => rfl
  | some number =>
      have digit : ∀ c ∈ Nat.toDigits 10 number, c.isDigit = true := fun c => Nat.isDigit_of_mem_toDigits (by decide) (by decide)
      obtain ⟨small, other⟩ := kept number rfl
      have taken : (Nat.toDigits 10 number).takeWhile Char.isDigit = Nat.toDigits 10 number :=
        List.takeWhile_eq_self_iff.mpr digit
      have dropped : (Nat.toDigits 10 number).dropWhile Char.isDigit = [] := List.dropWhile_eq_nil_iff.mpr digit
      have nonempty : Nat.toDigits 10 number ≠ [] := Nat.toDigits_ne_nil
      rw [portText, readPort]
      simp only [taken, dropped, portNumber_toDigits, nonempty, Nat.not_lt.mpr small, other, List.head?_nil,
        Option.any_none, Bool.false_eq_true, if_false]

theorem portText_char {port : Option Nat} (member : c ∈ portText port) :
    0x20 < c.toNat ∧ c ≠ '@' ∧ endsAuthority c = false := by
  cases port with
  | none => cases member
  | some number =>
      rcases List.mem_cons.mp member with rfl | inDigits
      · decide
      · have digit := Nat.isDigit_of_mem_toDigits (by decide) (by decide) inDigits
        rw [Char.isDigit, Bool.and_eq_true, decide_eq_true_eq, decide_eq_true_eq] at digit
        have ascii : c.toNat < 128 := Nat.lt_of_le_of_lt digit.2 (by decide)
        exact ascii_forall (fun c => c.val ≥ 48 ∧ c.val ≤ 57 → 0x20 < c.toNat ∧ c ≠ '@' ∧ endsAuthority c = false)
          (by decide) ascii digit

/-- An origin is read as the URL it belongs to. -/
theorem parseHttpUrl_origin (domain : ∀ c ∈ url.hostname.toList, isDomainChar c = true)
    (nonempty : url.hostname.toList ≠ []) (read : parseHost url.hostname.toList = some url.hostname)
    (kept : IsUrlPort url.secure url.port) :
    parseHttpUrl parseHost url.origin =
      some { url with username := [], password := [], pathname := ['/'], search := [], hash := [] } := by
  have authorityChar : ∀ c ∈ url.hostname.toList ++ portText url.port,
      0x20 < c.toNat ∧ c ≠ '@' ∧ endsAuthority c = false := by
    intro c member
    rcases List.mem_append.mp member with inHost | inPort
    · obtain ⟨noAt, -, -, -, noEnd, -⟩ := isDomainChar_plain (domain c inHost)
      exact ⟨(isDomainChar_lower (domain c inHost)).1, noAt, noEnd⟩
    · exact portText_char inPort
  have clean : cleanInput url.origin = url.origin := by
    refine cleanInput_visible fun c member => ?_
    rw [HttpUrl.origin, List.append_assoc, List.mem_append] at member
    rcases member with inScheme | inAuthority
    · have schemes : ∀ secure, ∀ c ∈ schemeText secure ++ [':', '/', '/'], 0x20 < c.toNat := by
        intro secure
        cases secure with
        | true => exact List.all_iff_forall_prop.mp (by decide)
        | false => exact List.all_iff_forall_prop.mp (by decide)
      exact schemes url.secure c inScheme
    · exact (authorityChar c inAuthority).1
  have scheme : httpScheme ((url.origin.takeWhile (· ≠ ':')).map Char.toLower) = some url.secure := by
    rw [HttpUrl.origin]
    cases url.secure <;> rfl
  have slashes : ((url.origin.dropWhile (· ≠ ':')).drop 1).dropWhile isSlash = url.hostname.toList ++ portText url.port := by
    have behind : ((url.origin.dropWhile (· ≠ ':')).drop 1).dropWhile isSlash =
        (url.hostname.toList ++ portText url.port).dropWhile isSlash := by
      rw [HttpUrl.origin]
      cases url.secure <;> rfl
    obtain ⟨first, others, split⟩ := List.exists_cons_of_ne_nil nonempty
    have noEnd := (authorityChar first (by rw [split]; exact List.mem_cons_self)).2.2
    have noSlash : ¬ isSlash first = true := by
      intro slash
      rw [endsAuthority, slash] at noEnd
      cases noEnd
    rw [behind, split, List.cons_append, List.dropWhile_cons_of_neg noSlash]
  have authority : authorityState none [] (url.hostname.toList ++ portText url.port) =
      some (none, [] ++ (url.hostname.toList ++ portText url.port)) :=
    authorityState_without none rfl fun c member => (authorityChar c member).2
  have colon : ∀ c ∈ (portText url.port).head?, c = ':' := by
    cases url.port with
    | none => simp [portText]
    | some port => simp [portText]
  have buffered := hostBuffer_domain [] domain colon
  have ended : (portText url.port).dropWhile (fun c => !endsAuthority c) = [] := by
    refine List.dropWhile_eq_nil_iff.mpr fun c member => ?_
    rw [(portText_char member).2.2]
    rfl
  rw [parseHttpUrl, clean]
  simp only [scheme, slashes, authority, List.nil_append, buffered, finishHost, nonempty, if_false, read,
    readPort_portText kept, ended, Option.bind_eq_bind, Option.bind_some]
  rfl

/-- A domain is taken by the setter if the host parser reads it. -/
theorem setHostname_domain (domain : ∀ c ∈ host, isDomainChar c = true) (nonempty : host ≠ []) :
    url.setHostname parseHost host = (parseHost host).elim url fun hostname => { url with hostname } := by
  have kept : host.filter (fun c => !isTabOrNewline c) = host := by
    refine List.filter_eq_self.mpr fun c member => ?_
    rw [(isDomainChar_plain (domain c member)).2.2.2.2.2]
    rfl
  have buffered : hostBuffer false [] (host ++ []) = ([] ++ host, []) := hostBuffer_domain [] domain (by simp)
  rw [List.append_nil, List.nil_append] at buffered
  simp only [HttpUrl.setHostname, kept, buffered, finishHost, nonempty, List.head?_nil, if_false, reduceCtorEq]
  cases parseHost host <;> rfl

/-- Only ports that a URL keeps are read. -/
theorem readPort_kept {secure : Bool} {port : Option Nat} (read : readPort (defaultPort secure) text = some port) :
    IsUrlPort secure port := by
  intro number member
  rw [Option.mem_def.mp member] at read
  rw [readPort.eq_def] at read
  split at read
  · simp only at read
    split at read
    · cases read
    split at read
    · cases read
    split at read
    · cases read
    split at read
    · cases read
    · rename_i small other
      cases read
      exact ⟨Nat.not_lt.mp small, other⟩
  · cases read

/-- What a URL that has been read is made of. -/
theorem parseHttpUrl_parts (read : parseHttpUrl parseHost text = some url) :
    (∃ buffer, parseHost buffer = some url.hostname) ∧ IsUrlPort url.secure url.port := by
  simp only [parseHttpUrl, Option.bind_eq_bind, Option.bind_eq_some_iff, Option.some.injEq] at read
  obtain ⟨secure, -, ⟨atSign, rest⟩, -, hostname, finished, port, portRead, rfl⟩ := read
  rw [finishHost] at finished
  split at finished
  · cases finished
  · exact ⟨⟨_, finished⟩, readPort_kept portRead⟩

end NebulaCloud.Platform
