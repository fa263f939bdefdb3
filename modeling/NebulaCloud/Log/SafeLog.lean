import NebulaCloud.Data.Replace
import NebulaCloud.Platform.Json

namespace NebulaCloud.Log

open NebulaCloud.Data NebulaCloud.Platform

/-! # The log of the control plane

A value is written as one line of JSON, without what stands under sensitive keys, without
what looks like a credential in its texts, and cut to a bounded size. -/

/-- A value as the language has it; `other` is a function, a symbol or a big integer with
its text, and `notFinite` a number that JSON cannot write. -/
inductive LogValue
  | null
  | undefined
  | boolean (value : Bool)
  | number (value : Rat)
  | notFinite
  | string (value : String)
  | array (elements : List LogValue)
  | object (fields : List (String × LogValue))
  | other (text : String)

/-- The first code units of a text, and the first half of a surrogate pair if the limit
cuts one. -/
abbrev CutText := List Char × Option Nat

inductive SafeLogValue
  | null
  | boolean (value : Bool)
  | number (value : Rat)
  | string (text : CutText)
  | array (elements : List SafeLogValue)
  | object (fields : List (String × SafeLogValue))

/-! ## The patterns

None of them can match in more than one way from a place, so that each is read from left
to right.  They ignore the case of ASCII letters. -/

/-- What follows a word, given in lower case. -/
def dropWord (word : String) (text : List Char) : Option (List Char) :=
  if (text.take word.toList.length).map Char.toLower = word.toList then some (text.drop word.toList.length) else none

def isWordCharacter (c : Char) : Bool := c.isAlphanum || c = '_'

/-- `[-A-Za-z0-9._~+/]`. -/
def isTokenCharacter (c : Char) : Bool := c.isAlphanum || c ∈ ['.', '_', '~', '+', '/', '-']

/-- `\bBearer\s+[-A-Za-z0-9._~+/]+=*`, replaced by `Bearer [REDACTED]`. -/
def bearerPattern : Pattern Char := fun previous text =>
  if previous.any isWordCharacter then none
  else do
    let rest ← dropWord "bearer" text
    let token := rest.dropWhile isWhiteSpace
    if token.length = rest.length ∨ token.takeWhile isTokenCharacter = [] then none
    else some ("Bearer [REDACTED]".toList, (token.dropWhile isTokenCharacter).dropWhile (· = '='))

/-- `[a-z0-9+.-]`. -/
def isSchemeCharacter (c : Char) : Bool := c.isAlphanum || c ∈ ['+', '.', '-']

/-- `[^\s/@]`. -/
def isPasswordCharacter (c : Char) : Bool := !(isWhiteSpace c || c = '/' || c = '@')

/-- `[^\s/@:]`. -/
def isUserCharacter (c : Char) : Bool := isPasswordCharacter c && c ≠ ':'

/-- `([a-z][a-z0-9+.-]*:\/\/)[^\s/@:]+:[^\s/@]+@`, replaced by `$1[REDACTED]@`. -/
def urlCredentialsPattern : Pattern Char := fun _ text =>
  match text.takeWhile isSchemeCharacter, text.dropWhile isSchemeCharacter with
  | first :: scheme, ':' :: '/' :: '/' :: authority =>
      if ¬ first.isAlpha ∨ authority.takeWhile isUserCharacter = [] then none
      else
        match authority.dropWhile isUserCharacter with
        | ':' :: password =>
            if password.takeWhile isPasswordCharacter = [] then none
            else
              match password.dropWhile isPasswordCharacter with
              | '@' :: rest => some (first :: scheme ++ "://[REDACTED]@".toList, rest)
              | _ => none
        | _ => none
  | _, _ => none

/-- `[^\s,;}]`. -/
def isHeaderCharacter (c : Char) : Bool := !(isWhiteSpace c || c = ',' || c = ';' || c = '}')

/-- `(authorization\s*[:=]\s*)[^\s,;}]+`, replaced by `$1[REDACTED]`. -/
def authorizationHeaderPattern : Pattern Char := fun _ text => do
  let rest ← dropWord "authorization" text
  match rest.dropWhile isWhiteSpace with
  | [] => none
  | c :: rest =>
      let header := rest.dropWhile isWhiteSpace
      if (c = ':' ∨ c = '=') ∧ header.takeWhile isHeaderCharacter ≠ [] then
        some (text.take (text.length - header.length) ++ "[REDACTED]".toList, header.dropWhile isHeaderCharacter)
      else none

/-- `\/(?:home|var\/lib)\/(?:nebula-workspaces|nebula)(?:\/[^\s"']*)?`, replaced by
`[WORKSPACE_PATH]`. -/
def unixWorkspacePathPattern : Pattern Char := fun _ text => do
  let rest ← (dropWord "/home/" text).or (dropWord "/var/lib/" text)
  let rest ← (dropWord "nebula-workspaces" rest).or (dropWord "nebula" rest)
  some ("[WORKSPACE_PATH]".toList,
    match rest with
    | '/' :: path => path.dropWhile fun c => !(isWhiteSpace c || c = '"' || c = '\'')
    | rest => rest)

/-! ## Redaction -/

/-- `text.slice(0, length)`. -/
def cutUnits : Nat → List Char → CutText
  | 0, _ => ([], none)
  | _ + 1, [] => ([], none)
  | length + 1, c :: rest =>
      if c.toNat < 0x10000 then
        let (text, half) := cutUnits length rest
        (c :: text, half)
      else if length = 0 then ([], some (0xD800 + (c.toNat - 0x10000) / 0x400))
      else
        let (text, half) := cutUnits (length - 1) rest
        (c :: text, half)

def redactText (text : List Char) : List Char :=
  replaceAll unixWorkspacePathPattern none
    (replaceAll authorizationHeaderPattern none
      (replaceAll urlCredentialsPattern none (replaceAll bearerPattern none text)))

def redactString (value : String) : CutText := cutUnits 1024 (redactText value.toList)

def sensitiveWords : List String :=
  ["authorization", "cookie", "token", "secret", "password", "prompt", "console", "credential", "body", "email",
    "address", "url", "path"]

/-- `sensitiveKey.test(key)`. -/
def isSensitiveKey (key : String) : Bool :=
  sensitiveWords.any fun word => key.toList.tails.any fun text => (dropWord word text).isSome

mutual

/-- `redactLogValue(value)`, under a key that is not sensitive. -/
def redactLogValue : LogValue → SafeLogValue
  | .null | .undefined | .notFinite => .null
  | .boolean value => .boolean value
  | .number value => .number value
  | .string value => .string (redactString value)
  | .array elements => .array (redactElements 50 elements)
  | .object fields => .object (redactFields 50 fields)
  | .other text => .string (redactString text)

/-- The first elements, redacted. -/
def redactElements : Nat → List LogValue → List SafeLogValue
  | _, [] => []
  | 0, _ :: _ => []
  | limit + 1, value :: rest => redactLogValue value :: redactElements limit rest

/-- The first fields, redacted under their keys. -/
def redactFields : Nat → List (String × LogValue) → List (String × SafeLogValue)
  | _, [] => []
  | 0, _ :: _ => []
  | limit + 1, (key, value) :: rest =>
      (key, if isSensitiveKey key then .string ("[REDACTED]".toList, none) else redactLogValue value) ::
        redactFields limit rest

end

section Json

-- how a finite number is written
variable (numberText : Rat → List Char)

/-- A half of a surrogate pair is written as an escape. -/
def cutTextJSON (text : CutText) : List Char :=
  let half := text.2.elim [] fun unit =>
    ['\\', 'u', lowerHexDigit (unit / 4096), lowerHexDigit (unit / 256 % 16), lowerHexDigit (unit / 16 % 16),
      lowerHexDigit (unit % 16)]
  '"' :: (text.1.flatMap jsonCharacter ++ half ++ ['"'])

mutual

/-- `JSON.stringify(value)`. -/
def valueJSON : SafeLogValue → List Char
  | .null => "null".toList
  | .boolean value => (toString value).toList
  | .number value => numberText value
  | .string text => cutTextJSON text
  | .array elements => '[' :: ([','].intercalate (elementsJSON elements) ++ [']'])
  | .object fields => '\x7b' :: ([','].intercalate (fieldsJSON fields) ++ ['\x7d'])

def elementsJSON : List SafeLogValue → List (List Char)
  | [] => []
  | value :: rest => valueJSON value :: elementsJSON rest

def fieldsJSON : List (String × SafeLogValue) → List (List Char)
  | [] => []
  | (key, value) :: rest => (jsonText key ++ ':' :: valueJSON value) :: fieldsJSON rest

end

def safeLogJSON (value : LogValue) : List Char := valueJSON numberText (redactLogValue value)

end Json

/-! ## Values that differ in secrets -/

mutual

/-- Two values of one shape: their texts are related, and anything stands under a
sensitive key. -/
inductive Alike (Related : String → String → Prop) : LogValue → LogValue → Prop
  | same (value : LogValue) : Alike Related value value
  | string {left right : String} : Related left right → Alike Related (.string left) (.string right)
  | array {left right : List LogValue} : AlikeElements Related left right → Alike Related (.array left) (.array right)
  | object {left right : List (String × LogValue)} :
      AlikeFields Related left right → Alike Related (.object left) (.object right)

inductive AlikeElements (Related : String → String → Prop) : List LogValue → List LogValue → Prop
  | nil : AlikeElements Related [] []
  | cons {left right : LogValue} {lefts rights : List LogValue} :
      Alike Related left right → AlikeElements Related lefts rights →
        AlikeElements Related (left :: lefts) (right :: rights)

inductive AlikeFields (Related : String → String → Prop) :
    List (String × LogValue) → List (String × LogValue) → Prop
  | nil : AlikeFields Related [] []
  | sensitive {key : String} {left right : LogValue} {lefts rights : List (String × LogValue)} :
      isSensitiveKey key = true → AlikeFields Related lefts rights →
        AlikeFields Related ((key, left) :: lefts) ((key, right) :: rights)
  | field {key : String} {left right : LogValue} {lefts rights : List (String × LogValue)} :
      Alike Related left right → AlikeFields Related lefts rights →
        AlikeFields Related ((key, left) :: lefts) ((key, right) :: rights)

end

section Noninterference

variable {Related : String → String → Prop}

mutual

/-- Where related texts are redacted to one, so are the values. -/
theorem Alike.redact (texts : ∀ left right, Related left right → redactString left = redactString right) :
    ∀ {left right : LogValue}, Alike Related left right → redactLogValue left = redactLogValue right
  | _, _, .same _ => rfl
  | _, _, .string related => by rw [redactLogValue, redactLogValue, texts _ _ related]
  | _, _, .array elements => by rw [redactLogValue, redactLogValue, elements.redact texts]
  | _, _, .object fields => by rw [redactLogValue, redactLogValue, fields.redact texts]

theorem AlikeElements.redact (texts : ∀ left right, Related left right → redactString left = redactString right) :
    ∀ {left right : List LogValue} {limit : Nat}, AlikeElements Related left right →
      redactElements limit left = redactElements limit right
  | _, _, limit, .nil => rfl
  | _, _, 0, .cons _ _ => by rw [redactElements, redactElements]
  | _, _, limit + 1, .cons first rest => by
      rw [redactElements, redactElements, first.redact texts, rest.redact texts]

theorem AlikeFields.redact (texts : ∀ left right, Related left right → redactString left = redactString right) :
    ∀ {left right : List (String × LogValue)} {limit : Nat}, AlikeFields Related left right →
      redactFields limit left = redactFields limit right
  | _, _, limit, .nil => rfl
  | _, _, 0, .sensitive _ _ => by rw [redactFields, redactFields]
  | _, _, 0, .field _ _ => by rw [redactFields, redactFields]
  | _, _, limit + 1, .sensitive secret rest => by
      rw [redactFields, redactFields, if_pos secret, if_pos secret, rest.redact texts]
  | _, _, limit + 1, .field first rest => by
      rw [redactFields, redactFields, first.redact texts, rest.redact texts]

end

/-- What stands under sensitive keys, at any depth, has no influence on the line. -/
theorem safeLogJSON_noninterference (numberText : Rat → List Char) {left right : LogValue}
    (alike : Alike (fun _ _ => False) left right) : safeLogJSON numberText left = safeLogJSON numberText right := by
  have same : redactLogValue left = redactLogValue right := alike.redact fun _ _ impossible => impossible.elim
  rw [safeLogJSON, safeLogJSON, same]

end Noninterference

section Sample

def plainNumber (value : Rat) : List Char := (toString value.num).toList

def nestedSecret (secret : String) : LogValue :=
  .object
    [("event", .string "failed"),
      ("requests", .array [.object [("token", .object [("value", .string secret)]), ("status", .number 500)]])]

theorem safeLogJSON_nestedSecret :
    safeLogJSON plainNumber (nestedSecret "first") = safeLogJSON plainNumber (nestedSecret "second") :=
  safeLogJSON_noninterference plainNumber
    (.object (.field (.same _) (.field (.array (.cons
      (.object (.sensitive (by decide +kernel) (.field (.same _) .nil))) .nil)) .nil)))

end Sample

end NebulaCloud.Log
