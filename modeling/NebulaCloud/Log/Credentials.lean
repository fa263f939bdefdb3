import NebulaCloud.Data.Runs
import NebulaCloud.Log.SafeLog
import Mathlib.Data.List.Chain
import Mathlib.Data.Set.Basic

namespace NebulaCloud.Log

open NebulaCloud.Data NebulaCloud.Platform

/-! # Credentials in the log

Which `Authorization` headers leave no trace of their credential in a line of the log. -/

/-- The characters of a scheme's name. -/
def isAuthSchemeCharacter (c : Char) : Bool := c.isAlphanum || c ∈ "!#$%&'*+-.^_`|~".toList

def IsAuthScheme (scheme : List Char) : Prop := scheme ≠ [] ∧ ∀ c ∈ scheme, isAuthSchemeCharacter c = true

/-- What may follow a credential, and is none of its characters. -/
def isDelimiter (c : Char) : Bool := isWhiteSpace c || c ∈ [',', ';', '}', '"', '\'']

/-- Characters of an alphabet, and padding. -/
def IsCredential (alphabet : Set Char) (credential : List Char) : Prop :=
  ∃ word padding, credential = word ++ padding ∧ word ≠ [] ∧ (∀ c ∈ word, c ∈ alphabet) ∧ ∀ c ∈ padding, c = '='

/-- A header in a text. -/
def headerText (before gap scheme space credential after : List Char) : List Char :=
  before ++ "Authorization".toList ++ ':' :: (gap ++ (scheme ++ (space ++ (credential ++ after))))

/-- Two texts that differ in the credential of a header. -/
def SwapsCredential (scheme : List Char) (alphabet : Set Char) (left right : String) : Prop :=
  ∃ before gap space first second after,
    (∀ c ∈ gap, isWhiteSpace c = true) ∧ space ≠ [] ∧ (∀ c ∈ space, isWhiteSpace c = true) ∧
      IsCredential alphabet first ∧ IsCredential alphabet second ∧ (∀ c ∈ after.head?, isDelimiter c = true) ∧
      left.toList = headerText before gap scheme space first after ∧
      right.toList = headerText before gap scheme space second after

/-- `bearer` in any case. -/
def IsBearer (word : List Char) : Prop := word.map Char.toLower = "bearer".toList

/-- The name ends in `bearer`, at a word boundary. -/
def EndsInBearer (scheme : List Char) : Prop :=
  ∃ front word, scheme = front ++ word ∧ IsBearer word ∧ front.getLast?.any isWordCharacter = false

section Characters

variable {c : Char} {word : List Char}

theorem isAlphanum_ascii (alphanumeric : c.isAlphanum = true) : c.toNat < 0x80 := by
  have spelled : c.isAlphanum =
      (decide (c.val ≥ 0x41 ∧ c.val ≤ 0x5A) || decide (c.val ≥ 0x61) && decide (c.val ≤ 0x7A) ||
        decide (c.val ≥ 0x30) && decide (c.val ≤ 0x39)) := rfl
  have bounds : (0x41 ≤ c.toNat ∧ c.toNat ≤ 0x5A ∨ 0x61 ≤ c.toNat ∧ c.toNat ≤ 0x7A) ∨ 0x30 ≤ c.toNat ∧ c.toNat ≤ 0x39 := by
    rw [spelled] at alphanumeric
    simpa [UInt32.le_iff_toNat_le, ← Char.toNat_val] using alphanumeric
  omega

theorem isTokenCharacter_spec (token : isTokenCharacter c = true) :
    isWhiteSpace c = false ∧ isDelimiter c = false ∧ c ≠ ':' ∧ c ≠ '=' := by
  have ascii : c.toNat < 0x80 := by
    rcases Bool.or_eq_true_iff.mp token with alphanumeric | listed
    · exact isAlphanum_ascii alphanumeric
    · have each : ∀ c ∈ ['.', '_', '~', '+', '/', '-'], c.toNat < 0x80 := List.all_iff_forall_prop.mp (by decide)
      exact each c (of_decide_eq_true listed)
  have each : ∀ code < 0x80, isTokenCharacter (Char.ofNat code) = true →
      isWhiteSpace (Char.ofNat code) = false ∧ isDelimiter (Char.ofNat code) = false ∧
        Char.ofNat code ≠ ':' ∧ Char.ofNat code ≠ '=' := by
    decide +kernel
  exact ascii_forall (fun c => isTokenCharacter c = true → isWhiteSpace c = false ∧ isDelimiter c = false ∧ c ≠ ':' ∧ c ≠ '=')
    each ascii token

theorem isAuthSchemeCharacter_spec (named : isAuthSchemeCharacter c = true) :
    isWhiteSpace c = false ∧ c ≠ ':' ∧ isHeaderCharacter c = true := by
  have ascii : c.toNat < 0x80 := by
    rcases Bool.or_eq_true_iff.mp named with alphanumeric | listed
    · exact isAlphanum_ascii alphanumeric
    · have each : ∀ c ∈ "!#$%&'*+-.^_`|~".toList, c.toNat < 0x80 := by simp
      exact each c (of_decide_eq_true listed)
  have each : ∀ code < 0x80, isAuthSchemeCharacter (Char.ofNat code) = true →
      isWhiteSpace (Char.ofNat code) = false ∧ Char.ofNat code ≠ ':' ∧ isHeaderCharacter (Char.ofNat code) = true := by
    decide +kernel
  exact ascii_forall (fun c => isAuthSchemeCharacter c = true → isWhiteSpace c = false ∧ c ≠ ':' ∧ isHeaderCharacter c = true)
    each ascii named

theorem ascii_of_toLower (lower : c.toLower.toNat < 0x80) : c.toNat < 0x80 := by
  unfold Char.toLower at lower
  split at lower
  · rename_i upper
    exact Nat.lt_of_le_of_lt upper.2 (by decide)
  · exact lower

theorem IsBearer.letter (bearer : IsBearer word) (member : c ∈ word) : isWhiteSpace c = false ∧ c ≠ ':' := by
  have lower : c.toLower ∈ "bearer".toList := bearer ▸ List.mem_map_of_mem member
  have letters : ∀ c ∈ "bearer".toList, c.toNat < 0x80 := by simp
  have each : ∀ code < 0x80, (Char.ofNat code).toLower ∈ "bearer".toList →
      isWhiteSpace (Char.ofNat code) = false ∧ Char.ofNat code ≠ ':' := by
    decide +kernel
  exact ascii_forall (fun c => c.toLower ∈ "bearer".toList → isWhiteSpace c = false ∧ c ≠ ':') each
    (ascii_of_toLower (letters _ lower)) lower

theorem IsBearer.length (bearer : IsBearer word) : word.length = 6 := by
  have length := congrArg List.length bearer
  rw [List.length_map] at length
  exact length

end Characters

/-! ## What the pattern of bearer tokens matches -/

section Bearer

variable {previous : Option Char} {text rest replacement word front : List Char} {name : String} {c : Char}

theorem dropWord_eq_some :
    dropWord name text = some rest ↔ ∃ word, text = word ++ rest ∧ word.map Char.toLower = name.toList := by
  unfold dropWord
  constructor
  · intro dropped
    split at dropped
    · rename_i same
      cases dropped
      exact ⟨_, (List.take_append_drop _ text).symm, same⟩
    · cases dropped
  · rintro ⟨word, rfl, same⟩
    have length : name.toList.length = word.length := by rw [← same, List.length_map]
    rw [length, List.take_left, List.drop_left, if_pos same]

/-- What a match of the pattern is made of: the word, white space, characters of a token
and padding, as far as they go. -/
structure IsBearerToken (text word space token padding rest : List Char) : Prop where
  whole : text = word ++ (space ++ (token ++ (padding ++ rest)))
  bearer : IsBearer word
  spaced : space ≠ []
  white : ∀ c ∈ space, isWhiteSpace c = true
  nonempty : token ≠ []
  characters : ∀ c ∈ token, isTokenCharacter c = true
  padded : ∀ c ∈ padding, c = '='
  ends : ∀ c ∈ rest.head?, c ≠ '=' ∧ (padding = [] → isTokenCharacter c = false)

section Match

variable {space token padding : List Char} {result : List Char × List Char}

theorem IsBearerToken.matched (found : IsBearerToken text word space token padding rest)
    (boundary : previous.any isWordCharacter = false) :
    bearerPattern previous text = some ("Bearer [REDACTED]".toList, rest) := by
  obtain ⟨rfl, bearer, spaced, white, nonempty, characters, padded, ends⟩ := found
  have dropped : dropWord "bearer" (word ++ (space ++ (token ++ (padding ++ rest)))) =
      some (space ++ (token ++ (padding ++ rest))) := dropWord_eq_some.mpr ⟨word, rfl, bearer⟩
  have tokenHead : ∀ c ∈ (token ++ (padding ++ rest)).head?, isWhiteSpace c = false := by
    intro c head
    obtain ⟨first, others, rfl⟩ := List.exists_cons_of_ne_nil nonempty
    obtain rfl : first = c := Option.some.inj head
    exact (isTokenCharacter_spec (characters first List.mem_cons_self)).1
  have paddingHead : ∀ c ∈ (padding ++ rest).head?, isTokenCharacter c = false := by
    intro c head
    cases padding with
    | nil => exact (ends c head).2 rfl
    | cons first others =>
        obtain rfl : first = c := Option.some.inj head
        rw [padded first List.mem_cons_self]
        rfl
  have restHead : ∀ c ∈ rest.head?, decide (c = '=') = false := fun c head => decide_eq_false (ends c head).1
  have equals : ∀ c ∈ padding, decide (c = '=') = true := fun c member => decide_eq_true (padded c member)
  have longer : ¬ (token ++ (padding ++ rest)).length = (space ++ (token ++ (padding ++ rest))).length := by
    have some : 0 < space.length := List.length_pos_of_ne_nil spaced
    have joined : (space ++ (token ++ (padding ++ rest))).length = space.length + (token ++ (padding ++ rest)).length :=
      List.length_append
    omega
  have kept : token ≠ [] := nonempty
  unfold bearerPattern
  rw [boundary, if_neg (by decide)]
  simp only [dropped, Option.bind_eq_bind, Option.bind_some, dropWhile_run white tokenHead,
    takeWhile_run characters paddingHead, dropWhile_run characters paddingHead, dropWhile_run equals restHead,
    longer, kept, or_self, if_false]

theorem bearerPattern_eq_some : bearerPattern previous text = some result ↔
    previous.any isWordCharacter = false ∧ ∃ word space token padding rest,
      IsBearerToken text word space token padding rest ∧ result = ("Bearer [REDACTED]".toList, rest) := by
  constructor
  · intro matched
    unfold bearerPattern at matched
    split at matched
    · cases matched
    rename_i boundary
    obtain ⟨behind, dropped, read⟩ := Option.bind_eq_some_iff.mp matched
    obtain ⟨word, rfl, bearer⟩ := dropWord_eq_some.mp dropped
    simp only at read
    split at read
    · cases read
    rename_i found
    cases read
    rw [not_or] at found
    have spaces := @List.takeWhile_append_dropWhile _ isWhiteSpace behind
    generalize behind.dropWhile isWhiteSpace = tokens at *
    have tokenSplit := @List.takeWhile_append_dropWhile _ isTokenCharacter tokens
    have tokenEnd := head?_dropWhile isTokenCharacter tokens
    generalize tokens.dropWhile isTokenCharacter = pads at *
    have padSplit := @List.takeWhile_append_dropWhile _ (· = '=') pads
    refine ⟨by simpa using boundary, word, behind.takeWhile isWhiteSpace, tokens.takeWhile isTokenCharacter,
      pads.takeWhile (· = '='), pads.dropWhile (· = '='), ⟨?_, bearer, ?_, ?_, found.2, ?_, ?_, ?_⟩, rfl⟩
    · rw [padSplit, tokenSplit, spaces]
    · intro none
      rw [none, List.nil_append] at spaces
      exact found.1 (congrArg List.length spaces)
    · exact fun c => List.mem_takeWhile_imp
    · exact fun c => List.mem_takeWhile_imp
    · intro c member
      simpa using List.mem_takeWhile_imp member
    · refine fun c head => ⟨by simpa using head?_dropWhile (· = '=') _ c head, fun none => ?_⟩
      rw [none, List.nil_append] at padSplit
      rw [padSplit] at head
      exact tokenEnd c head
  · rintro ⟨boundary, word, space, token, padding, rest, found, rfl⟩
    exact found.matched boundary

theorem bearerPattern_eq_none (refuted : previous.any isWordCharacter = false →
      ∀ {word space token padding rest}, ¬ IsBearerToken text word space token padding rest) :
    bearerPattern previous text = none := by
  by_contra some
  obtain ⟨result, matched⟩ := Option.ne_none_iff_exists'.mp some
  obtain ⟨boundary, word, space, token, padding, rest, found, -⟩ := bearerPattern_eq_some.mp matched
  exact refuted boundary found

theorem bearerPattern_advances : bearerPattern.Advances := by
  intro previous text replacement rest matched
  obtain ⟨_, word, space, token, padding, rest', found, same⟩ := bearerPattern_eq_some.mp matched
  cases same
  have length := found.bearer.length
  rw [found.whole]
  simp only [List.length_append]
  omega

theorem IsBearerToken.head (found : IsBearerToken (c :: text) word space token padding rest) :
    ∃ others, word = c :: others := by
  cases word with
  | nil => cases found.bearer.length
  | cons d others =>
      obtain rfl : c = d := (List.cons.inj found.whole).1
      exact ⟨others, rfl⟩

theorem bearerPattern_none_of_head (other : c.toLower ≠ 'b') : bearerPattern previous (c :: text) = none := by
  refine bearerPattern_eq_none fun _ _ _ _ _ _ found => ?_
  obtain ⟨others, rfl⟩ := found.head
  have lower : c.toLower :: others.map Char.toLower = ['b', 'e', 'a', 'r', 'e', 'r'] := found.bearer
  exact other (List.cons.inj lower).1

theorem IsBearerToken.colonFree (found : IsBearerToken text word space token padding rest) :
    ':' ∉ word ++ (space ++ (token ++ padding)) := by
  simp only [List.mem_append, not_or]
  exact ⟨fun member => (found.bearer.letter member).2 rfl, fun member => absurd (found.white _ member) (by decide),
    fun member => absurd (found.characters _ member) (by decide),
    fun member => absurd (found.padded _ member) (by decide)⟩

/-- What stands behind a match matters by its first character only. -/
theorem IsBearerToken.swap (found : IsBearerToken text word space token padding rest) (other : List Char)
    (same : other.head? = rest.head?) :
    IsBearerToken (word ++ (space ++ (token ++ (padding ++ other)))) word space token padding other :=
  { found with
    whole := rfl
    ends := same ▸ found.ends }

/-- A match in front of a colon takes the same, whatever stands behind the colon. -/
theorem bearerPattern_beforeColon (matched : bearerPattern previous (text ++ ':' :: rest) = some result) :
    ∃ left, left.length < text.length ∧ ∀ other,
      bearerPattern previous (text ++ ':' :: other) = some ("Bearer [REDACTED]".toList, left ++ ':' :: other) := by
  obtain ⟨boundary, word, space, token, padding, left, found, -⟩ := bearerPattern_eq_some.mp matched
  have split : text ++ ':' :: rest = (word ++ (space ++ (token ++ padding))) ++ left := by
    simpa only [List.append_assoc] using found.whole
  obtain ⟨more, rfl, rfl⟩ := append_cons_behind split found.colonFree
  refine ⟨more, ?_, fun other => ?_⟩
  · have length := found.bearer.length
    simp only [List.length_append]
    omega
  · have sameHead : (more ++ ':' :: other).head? = (more ++ ':' :: rest).head? := by
      cases more <;> rfl
    simpa only [List.append_assoc] using (found.swap _ sameHead).matched boundary

end Match

/-- A match takes no colon. -/
theorem bearerPattern_stopsAt : bearerPattern.StopsAt ':' := by
  refine ⟨fun previous rest => bearerPattern_none_of_head (by decide), fun previous text nonempty => ?_⟩
  by_cases never : ∀ rest, bearerPattern previous (text ++ ':' :: rest) = none
  · exact .inl never
  · obtain ⟨rest, some⟩ := not_forall.mp never
    obtain ⟨result, matched⟩ := Option.ne_none_iff_exists'.mp some
    obtain ⟨left, shorter, again⟩ := bearerPattern_beforeColon matched
    exact .inr ⟨_, left, shorter, again⟩

/-- The word ends where it matches, so that seven visible characters are no match. -/
theorem bearerPattern_none_of_visible (visible : ∀ c ∈ front, isWhiteSpace c = false) (long : 6 < front.length) :
    bearerPattern previous (front ++ rest) = none := by
  refine bearerPattern_eq_none fun _ word space _ _ _ found => ?_
  obtain ⟨x, spaces, rfl⟩ := List.exists_cons_of_ne_nil found.spaced
  have length := found.bearer.length
  have inFront : x ∈ front := by
    rcases List.append_eq_append_iff.mp found.whole with ⟨more, rfl, _⟩ | ⟨more, rfl, behind⟩
    · rw [List.length_append] at length
      omega
    · cases more with
      | nil =>
          rw [List.append_nil] at long
          omega
      | cons y more =>
          obtain rfl : x = y := (List.cons.inj behind).1
          exact List.mem_append_right word List.mem_cons_self
  have seen := visible x inFront
  rw [found.white x List.mem_cons_self] at seen
  cases seen

theorem bearerPattern_none_of_delimiter (delimiter : isDelimiter c = true) :
    bearerPattern previous (c :: text) = none := by
  refine bearerPattern_none_of_head fun lower => ?_
  have each : ∀ code < 0x80, (Char.ofNat code).toLower = 'b' → isDelimiter (Char.ofNat code) = false := by
    decide +kernel
  have ascii : c.toNat < 0x80 := ascii_of_toLower (lower ▸ by decide)
  have kept := ascii_forall (fun c => c.toLower = 'b' → isDelimiter c = false) each ascii lower
  rw [delimiter] at kept
  cases kept

theorem replaceAll_bearer_delimited (delimited : ∀ c ∈ text.head?, isDelimiter c = true) :
    replaceAll bearerPattern previous text = replaceAll bearerPattern none text := by
  cases text with
  | nil => rfl
  | cons c text =>
      have delimiter := delimited c rfl
      rw [replaceAll_none (bearerPattern_none_of_delimiter delimiter),
        replaceAll_none (bearerPattern_none_of_delimiter delimiter)]

theorem isWordCharacter_white (white : isWhiteSpace c = true) : isWordCharacter c = false := by
  by_contra named
  have token : isTokenCharacter c = true := by
    rcases Bool.or_eq_true_iff.mp (Bool.not_eq_false _ |>.mp named) with alphanumeric | underscore
    · exact Bool.or_eq_true_iff.mpr (.inl alphanumeric)
    · obtain rfl := of_decide_eq_true underscore
      decide
  rw [(isTokenCharacter_spec token).1] at white
  cases white

section Behind

variable {gap stretch back : List Char}

/-- In front of the word of a match nothing is matched. -/
theorem bearerPattern_none_before (named : IsBearer word) (visible : ∀ c ∈ front ++ word, isWhiteSpace c = false)
    (gapped : ∀ c ∈ gap, isWhiteSpace c = true) (split : gap ++ front = stretch ++ c :: back) :
    bearerPattern previous (c :: (back ++ (word ++ rest))) = none := by
  have inFront {more : List Char} (suffix : front = more ++ c :: back) :
      bearerPattern previous (c :: (back ++ (word ++ rest))) = none := by
    have long : 6 < (c :: back ++ word).length := by
      rw [List.length_append, named.length, List.length_cons]
      omega
    have seen : ∀ d ∈ c :: back ++ word, isWhiteSpace d = false := by
      intro d member
      refine visible d ?_
      rw [suffix, List.append_assoc]
      exact List.mem_append_right more member
    have none := @bearerPattern_none_of_visible previous rest (c :: back ++ word) seen long
    rwa [List.append_assoc] at none
  rcases List.append_eq_append_iff.mp split with ⟨more, _, suffix⟩ | ⟨more, inGap, suffix⟩
  · exact inFront suffix
  · cases more with
    | nil => exact @inFront [] suffix.symm
    | cons d more =>
        obtain rfl : c = d := (List.cons.inj suffix).1
        have whiteHead := gapped c (inGap ▸ List.mem_append_right stretch List.mem_cons_self)
        exact bearerPattern_none_of_delimiter (Bool.or_eq_true_iff.mpr (.inl whiteHead))

theorem boundary_behind (gapped : ∀ c ∈ gap, isWhiteSpace c = true)
    (boundary : front.getLast?.any isWordCharacter = false) :
    ((gap ++ front).getLast?.or (some ':')).any isWordCharacter = false := by
  rw [List.getLast?_append]
  cases ends : front.getLast? with
  | some c =>
      rw [ends] at boundary
      exact boundary
  | none =>
      cases gapEnds : gap.getLast? with
      | some c => exact isWordCharacter_white (gapped c (List.mem_of_getLast? gapEnds))
      | none => rfl

end Behind

/-- A scheme that ends in `bearer` hides the credential, whatever stands around it. -/
theorem bearer_hides {scheme gap space after : List Char} {alphabet : Set Char} (before : List Char)
    (ends : EndsInBearer scheme) (visible : ∀ c ∈ scheme, isWhiteSpace c = false)
    (tokens : ∀ c ∈ alphabet, isTokenCharacter c = true) (gapped : ∀ c ∈ gap, isWhiteSpace c = true)
    (spaced : space ≠ []) (white : ∀ c ∈ space, isWhiteSpace c = true)
    (delimited : ∀ c ∈ after.head?, isDelimiter c = true) :
    ∃ out, ∀ credential, IsCredential alphabet credential →
      replaceAll bearerPattern none (headerText before gap scheme space credential after) = out := by
  obtain ⟨front, bearer, rfl, named, boundary⟩ := ends
  obtain ⟨out, passed⟩ := replaceAll_barrier bearerPattern_advances bearerPattern_stopsAt none
    (before ++ "Authorization".toList)
  refine ⟨out ++ ':' :: (gap ++ front ++ ("Bearer [REDACTED]".toList ++ replaceAll bearerPattern none after)), ?_⟩
  rintro credential ⟨word, padding, rfl, nonempty, characters, padded⟩
  have tail : gap ++ (front ++ bearer ++ (space ++ (word ++ padding ++ after))) =
      gap ++ front ++ (bearer ++ (space ++ (word ++ (padding ++ after)))) := by
    simp only [List.append_assoc]
  have unmatched : ∀ stretch c back, gap ++ front = stretch ++ c :: back →
      bearerPattern (stretch.getLast?.or (some ':'))
        (c :: (back ++ (bearer ++ (space ++ (word ++ (padding ++ after)))))) = none :=
    fun stretch c back split => bearerPattern_none_before named visible gapped split
  have ended : ∀ c ∈ after.head?, c ≠ '=' ∧ (padding = [] → isTokenCharacter c = false) := by
    refine fun c head => ⟨?_, fun _ => ?_⟩
    · rintro rfl
      exact absurd (delimited '=' head) (by decide)
    · by_contra token
      have kept := (isTokenCharacter_spec (Bool.not_eq_false _ |>.mp token)).2.1
      rw [delimited c head] at kept
      cases kept
  have found : IsBearerToken (bearer ++ (space ++ (word ++ (padding ++ after)))) bearer space word padding after :=
    ⟨rfl, named, spaced, white, nonempty, fun c member => tokens c (characters c member), padded, ended⟩
  rw [headerText, passed, tail, replaceAll_skip unmatched,
    replaceAll_some bearerPattern_advances (found.matched (boundary_behind gapped boundary)),
    replaceAll_bearer_delimited delimited]

end Bearer

/-! ## Where no token of a bearer is found -/

section Leak

variable {previous : Option Char} {text start scheme cs : List Char} {c : Char} {result : List Char × List Char}

/-- The word at the end of a text, behind a boundary, is the end of the scheme. -/
theorem endsInBearer_of_append {front word : List Char} (bearer : IsBearer word)
    (boundary : (front.getLast?.or previous).any isWordCharacter = false)
    (joined : front ++ word = (start ++ [' ']) ++ scheme) : EndsInBearer scheme := by
  rcases List.append_eq_append_iff.mp joined with ⟨more, prefix', suffix⟩ | ⟨more, front', suffix⟩
  · rcases List.eq_nil_or_concat' more with rfl | ⟨others, z, rfl⟩
    · exact ⟨[], word, suffix.symm, bearer, rfl⟩
    · have last := congrArg List.getLast? prefix'
      rw [← List.append_assoc, List.getLast?_concat, List.getLast?_concat] at last
      obtain rfl := Option.some.inj last
      have inWord : ' ' ∈ word := by
        rw [suffix]
        exact List.mem_append_left scheme (List.mem_append_right others List.mem_cons_self)
      exact absurd (bearer.letter inWord).1 (by decide)
  · refine ⟨more, word, suffix, bearer, ?_⟩
    rw [front', List.getLast?_append] at boundary
    cases ends : more.getLast? with
    | none => rfl
    | some z =>
        rw [ends] at boundary
        exact boundary

/-- Without a bearer token there is nothing to replace. -/
theorem replaceAll_bearer_missed (dark : ∀ x ∈ start, isWhiteSpace x = false) (colon : start.getLast? = some ':')
    (named : ∀ x ∈ scheme, isWhiteSpace x = false) (visible : isWhiteSpace c = false) (same : ∀ x ∈ cs, x = c)
    (missed : ¬ (EndsInBearer scheme ∧ isTokenCharacter c = true)) :
    replaceAll bearerPattern none (start ++ ' ' :: (scheme ++ ' ' :: cs)) = start ++ ' ' :: (scheme ++ ' ' :: cs) := by
  refine replaceAll_unmatched fun front d back split => ?_
  refine bearerPattern_eq_none fun boundary word space token padding left found => ?_
  obtain ⟨x, spaces, rfl⟩ := List.exists_cons_of_ne_nil found.spaced
  have white := found.white x List.mem_cons_self
  have placed : (front ++ word) ++ x :: (spaces ++ (token ++ (padding ++ left))) =
      start ++ ' ' :: (scheme ++ ' ' :: cs) := by
    rw [split, found.whole]
    simp only [List.append_assoc, List.cons_append]
  rcases append_cons_inv _ placed white dark with ⟨word', _, _⟩ | ⟨middle, front', rest⟩
  · -- the word would end in the colon
    obtain ⟨z, ends⟩ : ∃ z, word.getLast? = some z := by
      cases word with
      | nil => cases found.bearer.length
      | cons y word => exact ⟨_, List.getLast?_cons⟩
    rw [← word', List.getLast?_append, ends] at colon
    exact (found.bearer.letter (List.mem_of_getLast? ends)).2 (Option.some.inj colon)
  rcases append_cons_inv _ rest white named with ⟨same', _, more⟩ | ⟨further, _, inside⟩
  · -- the word is the end of the scheme
    have token' : isTokenCharacter c = true := by
      obtain ⟨y, others, rfl⟩ := List.exists_cons_of_ne_nil found.nonempty
      have member : y ∈ cs := by
        rw [← more]
        exact List.mem_append_right spaces List.mem_cons_self
      exact same y member ▸ found.characters y List.mem_cons_self
    have joined : front ++ word = (start ++ [' ']) ++ scheme := by
      rw [front', same', List.append_assoc, List.singleton_append]
    exact missed ⟨endsInBearer_of_append found.bearer boundary joined, token'⟩
  · -- the white space would be in the credential
    have member : x ∈ cs := inside ▸ List.mem_append_right further List.mem_cons_self
    rw [same x member, visible] at white
    cases white

theorem dropWord_length {name : String} {rest : List Char} (dropped : dropWord name text = some rest) :
    rest.length + name.toList.length = text.length := by
  obtain ⟨word, rfl, same⟩ := dropWord_eq_some.mp dropped
  rw [← same, List.length_map, List.length_append, Nat.add_comm]

theorem authorizationHeaderPattern_advances : authorizationHeaderPattern.Advances := by
  intro previous text replacement rest matched
  unfold authorizationHeaderPattern at matched
  obtain ⟨behind, dropped, read⟩ := Option.bind_eq_some_iff.mp matched
  have length := dropWord_length dropped
  have word : "authorization".toList.length = 13 := rfl
  cases header : behind.dropWhile isWhiteSpace with
  | nil =>
      rw [header] at read
      cases read
  | cons c value =>
      rw [header] at read
      simp only at read
      split at read
      · cases read
        have first := congrArg List.length header
        have skipped := List.length_dropWhile_le isWhiteSpace behind
        have second := List.length_dropWhile_le isWhiteSpace value
        have third := List.length_dropWhile_le isHeaderCharacter (value.dropWhile isWhiteSpace)
        rw [List.length_cons] at first
        omega
      · cases read

/-- The pattern of the header takes the scheme for the credential. -/
theorem authorizationHeaderPattern_scheme (nonempty : scheme ≠ [])
    (named : ∀ x ∈ scheme, isAuthSchemeCharacter x = true) :
    authorizationHeaderPattern previous ("Authorization: ".toList ++ (scheme ++ ' ' :: cs)) =
      some ("Authorization: ".toList ++ "[REDACTED]".toList, ' ' :: cs) := by
  have written : "Authorization: ".toList = "Authorization".toList ++ [':', ' '] := rfl
  have dropped : dropWord "authorization" ("Authorization: ".toList ++ (scheme ++ ' ' :: cs)) =
      some (':' :: ' ' :: (scheme ++ ' ' :: cs)) := by
    refine dropWord_eq_some.mpr ⟨"Authorization".toList, ?_, rfl⟩
    rw [written, List.append_assoc]
    rfl
  have separator : (':' :: ' ' :: (scheme ++ ' ' :: cs)).dropWhile isWhiteSpace = ':' :: ' ' :: (scheme ++ ' ' :: cs) :=
    List.dropWhile_cons_of_neg (by decide)
  have header : (' ' :: (scheme ++ ' ' :: cs)).dropWhile isWhiteSpace = scheme ++ ' ' :: cs := by
    refine @dropWhile_run _ _ [' '] _ (List.forall_mem_singleton.mpr (by decide)) fun x head => ?_
    obtain ⟨first, others, rfl⟩ := List.exists_cons_of_ne_nil nonempty
    obtain rfl : first = x := Option.some.inj head
    exact (isAuthSchemeCharacter_spec (named first List.mem_cons_self)).1
  have each : ∀ x ∈ scheme, isHeaderCharacter x = true := fun x member => (isAuthSchemeCharacter_spec (named x member)).2.2
  have ends : ∀ x ∈ (' ' :: cs).head?, isHeaderCharacter x = false := by
    intro x head
    obtain rfl : ' ' = x := Option.some.inj head
    decide
  have kept : ("Authorization: ".toList ++ (scheme ++ ' ' :: cs)).take
      (("Authorization: ".toList ++ (scheme ++ ' ' :: cs)).length - (scheme ++ ' ' :: cs).length) =
        "Authorization: ".toList := by
    rw [List.length_append, Nat.add_sub_cancel, List.take_left]
  unfold authorizationHeaderPattern
  simp only [dropped, Option.bind_eq_bind, Option.bind_some, separator, header, takeWhile_run each ends,
    dropWhile_run each ends, kept]
  exact if_pos ⟨.inl trivial, nonempty⟩

/-- A match of a URL has a slash behind a colon. -/
theorem urlCredentialsPattern_some (matched : urlCredentialsPattern previous text = some result) :
    ∃ front back, text = front ++ ':' :: '/' :: back := by
  unfold urlCredentialsPattern at matched
  split at matched
  · rename_i first scheme authority _ rest
    refine ⟨text.takeWhile isSchemeCharacter, '/' :: authority, ?_⟩
    rw [← rest, List.takeWhile_append_dropWhile]
  · cases matched

theorem replaceAll_url_missed (free : ∀ x ∈ start, decide (x = ':') = false)
    (named : ∀ x ∈ scheme, decide (x = ':') = false) (same : ∀ x ∈ cs, x = c) :
    replaceAll urlCredentialsPattern previous (start ++ ':' :: ' ' :: (scheme ++ ' ' :: cs)) =
      start ++ ':' :: ' ' :: (scheme ++ ' ' :: cs) := by
  refine replaceAll_unmatched fun front d back split => ?_
  by_contra unmatched
  obtain ⟨result, matched⟩ := Option.ne_none_iff_exists'.mp unmatched
  obtain ⟨before, behind, found⟩ := urlCredentialsPattern_some matched
  have placed : (front ++ before) ++ ':' :: '/' :: behind = start ++ ':' :: ' ' :: (scheme ++ ' ' :: cs) := by
    rw [split, found, List.append_assoc]
  rcases append_cons_inv (fun x => decide (x = ':')) placed rfl free with ⟨_, _, slash⟩ | ⟨middle, _, rest⟩
  · cases slash
  · have spaced : middle ++ ':' :: '/' :: behind = (' ' :: scheme) ++ ' ' :: cs := rest
    have free' : ∀ x ∈ ' ' :: scheme, decide (x = ':') = false := by
      intro x member
      rcases List.mem_cons.mp member with rfl | inScheme
      · rfl
      · exact named x inScheme
    rcases append_cons_inv (fun x => decide (x = ':')) spaced rfl free' with ⟨_, colon, _⟩ | ⟨further, _, inside⟩
    · cases colon
    · have first := same ':' (inside ▸ List.mem_append_right further List.mem_cons_self)
      have second := same '/' (inside ▸ List.mem_append_right further (List.mem_cons_of_mem _ List.mem_cons_self))
      rw [← first] at second
      cases second

theorem toLower_slash (slash : c.toLower = '/') : c = '/' := by
  have each : ∀ code < 0x80, (Char.ofNat code).toLower = '/' → Char.ofNat code = '/' := by decide +kernel
  exact ascii_forall (fun c => c.toLower = '/' → c = '/') each (ascii_of_toLower (slash ▸ by decide)) slash

theorem dropWord_path {name : String} {letter : Char} {letters rest : List Char}
    (path : name.toList = '/' :: letter :: letters) (other : letter ≠ '/') (dropped : dropWord name text = some rest) :
    ∃ d back, text = '/' :: d :: back ∧ d ≠ '/' := by
  obtain ⟨word, rfl, same⟩ := dropWord_eq_some.mp dropped
  rw [path] at same
  obtain ⟨x, word, rfl⟩ : ∃ x others, word = x :: others := List.exists_cons_of_ne_nil (by rintro rfl; cases same)
  obtain ⟨first, behind⟩ := List.cons.inj same
  obtain ⟨d, word, rfl⟩ : ∃ d others, word = d :: others := List.exists_cons_of_ne_nil (by rintro rfl; cases behind)
  obtain rfl := toLower_slash first
  refine ⟨d, word ++ rest, rfl, ?_⟩
  rintro rfl
  exact other (List.cons.inj behind).1.symm

/-- A match of a path has a letter behind its slash. -/
theorem unixWorkspacePathPattern_some (matched : unixWorkspacePathPattern previous text = some result) :
    ∃ d back, text = '/' :: d :: back ∧ d ≠ '/' := by
  unfold unixWorkspacePathPattern at matched
  obtain ⟨behind, dropped, _⟩ := Option.bind_eq_some_iff.mp matched
  rcases Option.or_eq_some_iff.mp dropped with home | ⟨_, var⟩
  · have path : "/home/".toList = '/' :: 'h' :: ['o', 'm', 'e', '/'] := rfl
    exact dropWord_path path (by decide) home
  · have path : "/var/lib/".toList = '/' :: 'v' :: ['a', 'r', '/', 'l', 'i', 'b', '/'] := rfl
    exact dropWord_path path (by decide) var

theorem replaceAll_path_missed (free : ∀ x ∈ start, decide (x = '/') = false) (same : ∀ x ∈ cs, x = c) :
    replaceAll unixWorkspacePathPattern previous (start ++ ' ' :: cs) = start ++ ' ' :: cs := by
  refine replaceAll_unmatched fun front d back split => ?_
  by_contra unmatched
  obtain ⟨result, matched⟩ := Option.ne_none_iff_exists'.mp unmatched
  obtain ⟨letter, behind, found, other⟩ := unixWorkspacePathPattern_some matched
  have placed : front ++ '/' :: (letter :: behind) = start ++ ' ' :: cs := by rw [split, found]
  rcases append_cons_inv (fun x => decide (x = '/')) placed rfl free with ⟨_, slash, _⟩ | ⟨middle, _, inside⟩
  · cases slash
  · have first := same '/' (inside ▸ List.mem_append_right middle List.mem_cons_self)
    have second := same letter (inside ▸ List.mem_append_right middle (List.mem_cons_of_mem _ List.mem_cons_self))
    exact other (second.trans first.symm)

theorem replaceAll_authorization_short (few : cs.length ≤ 2) :
    replaceAll authorizationHeaderPattern previous (' ' :: cs) = ' ' :: cs := by
  refine replaceAll_unmatched fun front d back split => ?_
  have word : "authorization".toList.length = 13 := rfl
  have length := congrArg List.length split
  rw [List.length_append, List.length_cons] at length
  have dropped : dropWord "authorization" (d :: back) = none := by
    by_contra found
    obtain ⟨rest, dropped⟩ := Option.ne_none_iff_exists'.mp found
    have taken := dropWord_length dropped
    omega
  unfold authorizationHeaderPattern
  rw [dropped]
  rfl

/-- What is left of a header without a bearer token: the credential, and not its scheme. -/
theorem redactText_missed (named : IsAuthScheme scheme) (visible : isWhiteSpace c = false) (few : cs.length ≤ 2)
    (same : ∀ x ∈ cs, x = c) (missed : ¬ (EndsInBearer scheme ∧ isTokenCharacter c = true)) :
    redactText (headerText [] [' '] scheme [' '] cs []) = "Authorization: [REDACTED]".toList ++ ' ' :: cs := by
  have name : "Authorization:".toList = "Authorization".toList ++ [':'] := rfl
  have colon : "Authorization: ".toList = "Authorization:".toList ++ [' '] := rfl
  have redacted : "Authorization: [REDACTED]".toList = "Authorization: ".toList ++ "[REDACTED]".toList := rfl
  have colons : "Authorization:".toList ++ ' ' :: (scheme ++ ' ' :: cs) =
      "Authorization".toList ++ ':' :: ' ' :: (scheme ++ ' ' :: cs) := by
    rw [name, List.append_assoc]
    rfl
  have text : headerText [] [' '] scheme [' '] cs [] = "Authorization:".toList ++ ' ' :: (scheme ++ ' ' :: cs) := by
    rw [colons, headerText, List.nil_append, List.append_nil]
    rfl
  have header : "Authorization:".toList ++ ' ' :: (scheme ++ ' ' :: cs) =
      "Authorization: ".toList ++ (scheme ++ ' ' :: cs) := by
    rw [colon, List.append_assoc]
    rfl
  have spec {x : Char} (member : x ∈ scheme) := isAuthSchemeCharacter_spec (named.2 x member)
  have bearer := @replaceAll_bearer_missed "Authorization:".toList scheme cs c
    (List.all_iff_forall_prop.mp (by decide)) rfl
    (fun x member => (spec member).1) visible same missed
  have url := @replaceAll_url_missed none "Authorization".toList scheme cs c
    (List.all_iff_forall_prop.mp (by decide))
    (fun x member => decide_eq_false (spec member).2.1) same
  have replaced : replaceAll authorizationHeaderPattern none ("Authorization: ".toList ++ (scheme ++ ' ' :: cs)) =
      "Authorization: [REDACTED]".toList ++ ' ' :: cs := by
    rw [replaceAll_some authorizationHeaderPattern_advances (authorizationHeaderPattern_scheme named.1 named.2),
      replaceAll_authorization_short few, redacted]
  have path := @replaceAll_path_missed none "Authorization: [REDACTED]".toList cs c
    (List.all_iff_forall_prop.mp (by decide)) same
  rw [redactText, text, bearer, colons, url, ← colons, header, replaced, path]

end Leak

/-! ## Lines of the log -/

section Lines

variable {numberText : Rat → List Char} {text : List Char} {limit : Nat} {c : Char}

theorem cutUnits_short (short : 2 * text.length ≤ limit) : cutUnits limit text = (text, none) := by
  induction text generalizing limit with
  | nil => cases limit <;> rfl
  | cons c text ih =>
      rw [List.length_cons] at short
      obtain ⟨limit, rfl⟩ : ∃ count, limit = count + 2 := ⟨limit - 2, by omega⟩
      rw [cutUnits]
      split
      · rw [ih (by omega)]
      · rw [if_neg (by omega), Nat.add_sub_cancel, ih (by omega)]

/-- A message alone in a line. -/
def messageValue (text : List Char) : LogValue := .object [("message", .string (String.ofList text))]

theorem safeLogJSON_message {redacted : List Char} (same : redactText text = redacted) (short : redacted.length ≤ 512) :
    safeLogJSON numberText (messageValue text) =
      '\x7b' :: (jsonText "message" ++ ':' :: '"' :: (redacted.flatMap jsonCharacter ++ ['"', '\x7d'])) := by
  have plain : isSensitiveKey "message" = false := by decide
  simp only [safeLogJSON, messageValue, redactLogValue, redactFields, plain, Bool.false_eq_true, if_false, redactString,
    String.toList_ofList, same, cutUnits_short (show 2 * redacted.length ≤ 1024 by omega), valueJSON, fieldsJSON,
    cutTextJSON]
  simp

theorem jsonCharacter_ne_nil : jsonCharacter c ≠ [] := by
  unfold jsonCharacter
  split
  all_goals try exact List.cons_ne_nil _ _
  split <;> exact List.cons_ne_nil _ _

theorem AlikeFields.of_message {Related : String → String → Prop} {left right : List Char}
    (related : Related (String.ofList left) (String.ofList right)) : Alike Related (messageValue left) (messageValue right) :=
  .object (.field (.string related) .nil)

/-- For every scheme and alphabet: a credential of the alphabet, anywhere in a log value,
has no influence on the line exactly when the scheme ends in `bearer` and the alphabet is
that of its pattern. -/
theorem credential_hidden_iff (numberText : Rat → List Char) {scheme : List Char} (named : IsAuthScheme scheme)
    {alphabet : Set Char} (nonempty : alphabet.Nonempty) (visible : ∀ c ∈ alphabet, isDelimiter c = false) :
    (∀ left right, Alike (SwapsCredential scheme alphabet) left right →
      safeLogJSON numberText left = safeLogJSON numberText right) ↔
      EndsInBearer scheme ∧ ∀ c ∈ alphabet, isTokenCharacter c = true := by
  constructor
  · intro hidden
    by_contra missed
    obtain ⟨c, member, missed⟩ : ∃ c ∈ alphabet, ¬ (EndsInBearer scheme ∧ isTokenCharacter c = true) := by
      by_cases ends : EndsInBearer scheme
      · obtain ⟨c, outside⟩ := not_forall.mp fun all => missed ⟨ends, all⟩
        obtain ⟨member, other⟩ := Classical.not_imp.mp outside
        exact ⟨c, member, fun both => other both.2⟩
      · obtain ⟨c, member⟩ := nonempty
        exact ⟨c, member, fun both => ends both.1⟩
    have dark : isWhiteSpace c = false := (Bool.or_eq_false_iff.mp (visible c member)).1
    have credential (cs : List Char) (some : cs ≠ []) (same : ∀ x ∈ cs, x = c) : IsCredential alphabet cs :=
      ⟨cs, [], (List.append_nil cs).symm, some, fun x inside => same x inside ▸ member, by simp⟩
    have blank : ∀ x ∈ [' '], isWhiteSpace x = true := List.forall_mem_singleton.mpr (by decide)
    have one : ∀ x ∈ [c], x = c := by simp
    have two : ∀ x ∈ [c, c], x = c := by simp
    have swapped : SwapsCredential scheme alphabet (String.ofList (headerText [] [' '] scheme [' '] [c] []))
        (String.ofList (headerText [] [' '] scheme [' '] [c, c] [])) :=
      ⟨[], [' '], [' '], [c], [c, c], [], blank, by decide, blank, credential [c] (by simp) one,
        credential [c, c] (by simp) two, by simp, String.toList_ofList, String.toList_ofList⟩
    have lines := hidden _ _ (AlikeFields.of_message swapped)
    rw [safeLogJSON_message (redactText_missed named dark (by simp) one missed) (by simp),
      safeLogJSON_message (redactText_missed named dark (by simp) two missed) (by simp)] at lines
    have lengths := congrArg List.length lines
    have some := List.length_pos_of_ne_nil (@jsonCharacter_ne_nil c)
    simp only [List.length_cons, List.length_append, List.flatMap_append, List.flatMap_cons, List.flatMap_nil,
      List.length_nil] at lengths
    omega
  · rintro ⟨ends, tokens⟩ left right alike
    have texts : ∀ left right, SwapsCredential scheme alphabet left right → redactString left = redactString right := by
      rintro left right
        ⟨before, gap, space, first, second, after, gapped, spaced, white, one, two, delimited, leftText, rightText⟩
      have seen : ∀ c ∈ scheme, isWhiteSpace c = false := fun c member => (isAuthSchemeCharacter_spec (named.2 c member)).1
      obtain ⟨out, hidden⟩ := bearer_hides before ends seen tokens gapped spaced white delimited
      rw [redactString, redactString, redactText, redactText, leftText, rightText, hidden first one, hidden second two]
    rw [safeLogJSON, safeLogJSON, alike.redact texts]

end Lines

section Sample

def basicHeader : LogValue := .object [("message", .string "Authorization: Basic dXNlcjpwYXNz")]

def workerHeader : LogValue := .object [("message", .string "Authorization: Nebula-HMAC v1.1700000060.bm9uY2U.c2ln")]

/-- The credentials of other schemes are written to the log. -/
theorem credential_logged :
    "dXNlcjpwYXNz".toList <:+: safeLogJSON plainNumber basicHeader ∧
      "v1.1700000060.bm9uY2U.c2ln".toList <:+: safeLogJSON plainNumber workerHeader := by
  decide +kernel

theorem credential_hidden_bearer :
    (∀ left right, Alike (SwapsCredential "Bearer".toList {c | c.isAlphanum = true}) left right →
      safeLogJSON plainNumber left = safeLogJSON plainNumber right) ↔
      EndsInBearer "Bearer".toList ∧ ∀ c ∈ {c | c.isAlphanum = true}, isTokenCharacter c = true :=
  credential_hidden_iff plainNumber ⟨by decide, List.all_iff_forall_prop.mp (by decide)⟩ ⟨'a', by decide⟩ fun c member => by
    have token : isTokenCharacter c = true := Bool.or_eq_true_iff.mpr (.inl member)
    exact (isTokenCharacter_spec token).2.1

end Sample

end NebulaCloud.Log
