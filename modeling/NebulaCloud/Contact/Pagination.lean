import NebulaCloud.Data.Keyset
import NebulaCloud.Database.ContactRequest
import NebulaCloud.Platform.Base64
import NebulaCloud.Platform.JsonParse
import NebulaCloud.Platform.Utf8
import Mathlib.Data.Prod.Lex

namespace NebulaCloud.Contact

open NebulaCloud.Data NebulaCloud.Database NebulaCloud.Platform

/-! # Pages of contact requests

The administration lists the requests from the newest on.  A page ends with a cursor, the
time and the id of its last request, which the next call hands back as text. -/

structure ContactRequestCursor where
  createdAt : Int
  id : String
deriving DecidableEq, Repr

structure ListContactRequestsOptions where
  status : Option ContactRequestStatus
  limit : Option Int
  before : Option ContactRequestCursor

/-- The order of a list, `ORDER BY created_at DESC, id DESC`. -/
def contactKey (request : ContactRequestRow) : Int ×ₗ String := toLex (request.createdAt, request.id)

def ContactRequestCursor.key (cursor : ContactRequestCursor) : Int ×ₗ String := toLex (cursor.createdAt, cursor.id)

def matchesStatus (status : Option ContactRequestStatus) (request : ContactRequestRow) : Bool :=
  status.all fun status => request.status = status

/-- `created_at < ? OR (created_at = ? AND id < ?)`. -/
def isBefore (before : Option ContactRequestCursor) (request : ContactRequestRow) : Bool :=
  let createdAt := (before.map (·.createdAt)).getD maxSafeInteger
  let id := (before.map (·.id)).getD "\uFFFF"
  request.createdAt < createdAt || (request.createdAt = createdAt && request.id < id)

/-- One request more than the limit is read, to see whether there are more. -/
def listContactRequests (requests : List ContactRequestRow) (options : ListContactRequestsOptions) :
    List ContactRequestRow × Option ContactRequestCursor :=
  let limit := (min (max (options.limit.getD 50) 1) 200).toNat
  let rows := (newestFirst contactKey
    (requests.filter fun request => matchesStatus options.status request && isBefore options.before request)).take (limit + 1)
  let page := rows.take limit
  (page, if limit < rows.length then page.getLast?.map fun last => ⟨last.createdAt, last.id⟩ else none)

/-! ## Cursors as text -/

/-- An integer in decimal. -/
def integerText (value : Int) : List Char :=
  if value < 0 then '-' :: Nat.toDigits 10 value.natAbs else Nat.toDigits 10 value.natAbs

/-- `JSON.stringify(cursor)`. -/
def cursorText (cursor : ContactRequestCursor) : List Char :=
  '{' :: (jsonText "createdAt" ++ ':' :: (integerText cursor.createdAt ++
    ',' :: (jsonText "id" ++ ':' :: (jsonText cursor.id ++ ['}']))))

def encodeContactCursor (cursor : ContactRequestCursor) : String :=
  String.ofList (toBase64Url (utf8Encode (cursorText cursor)))

/-- What a decoded cursor must look like. -/
def contactCursor (parsed : Json) : Option ContactRequestCursor := do
  let fields ← asRecord (some parsed)
  if ¬ ∀ field ∈ fields, field.1 ∈ ["createdAt", "id"] then none
  else do
    let createdAt ← asSafeInteger (fields.get "createdAt")
    if createdAt < 0 then none
    else
      match fields.get "id" with
      | some (.string id) => if utf16Length id < 1 ∨ 128 < utf16Length id then none else some ⟨createdAt, id⟩
      | _ => none

/-- `none` where the cursor is invalid; a missing one starts at the newest request. -/
def decodeContactCursor : Option String → Option (Option ContactRequestCursor)
  | none => some none
  | some value =>
      if value = "" then some none
      else if 512 < utf16Length value then none
      else ((parseJson (utf8Text (fromBase64Url value.toList))).bind contactCursor).map some

/-- The list of the administration; `none` where it answers that the pagination is invalid. -/
def contactRequestsPage (requests : List ContactRequestRow) (status : Option ContactRequestStatus) (limit : Int)
    (cursor : Option String) : Option (List ContactRequestRow × Option String) :=
  match decodeContactCursor cursor with
  | none => none
  | some before =>
      if limit < 1 ∨ 200 < limit then none
      else
        let (page, nextCursor) := listContactRequests requests ⟨status, some limit, before⟩
        some (page, nextCursor.map encodeContactCursor)

/-- A client that follows the cursors; `none` while it has not come to an end. -/
def walkContactRequests (requests : List ContactRequestRow) (status : Option ContactRequestStatus) (limit : Int) :
    Nat → Option String → Option (List ContactRequestRow)
  | 0, _ => none
  | calls + 1, cursor =>
      match contactRequestsPage requests status limit cursor with
      | none => none
      | some (page, none) => some page
      | some (page, some next) => (walkContactRequests requests status limit calls (some next)).map (page ++ ·)

/-! ## What comes through the form -/

def isHexDigit (c : Char) : Bool := (hexDigit c).isSome

def dash (c : Char) : Bool := c = '-'

/-- `/^[0-9a-f]{8}-[0-9a-f]{4}-4[0-9a-f]{3}-[89ab][0-9a-f]{3}-[0-9a-f]{12}$/i`, place by place. -/
def submissionIdPattern : List (Char → Bool) :=
  List.replicate 8 isHexDigit ++ [dash] ++ List.replicate 4 isHexDigit ++ [dash, fun c => c = '4'] ++
    List.replicate 3 isHexDigit ++ [dash, fun c => c ∈ ['8', '9', 'a', 'b', 'A', 'B']] ++
    List.replicate 3 isHexDigit ++ [dash] ++ List.replicate 12 isHexDigit

def isSubmissionId (id : String) : Bool :=
  id.toList.length = submissionIdPattern.length &&
    (submissionIdPattern.zip id.toList).all fun (place, c) => place c

/-- A request with an id that the contact route admits and a time that a clock gives. -/
structure Admitted (request : ContactRequestRow) : Prop where
  id : isSubmissionId request.id = true
  time : IsNonNegativeSafeInteger request.createdAt

instance (request : ContactRequestRow) : Decidable (Admitted request) :=
  decidable_of_iff (isSubmissionId request.id = true ∧ IsNonNegativeSafeInteger request.createdAt)
    ⟨fun both => ⟨both.1, both.2⟩, fun admitted => ⟨admitted.id, admitted.time⟩⟩

section Specs

variable {requests : List ContactRequestRow} {request : ContactRequestRow} {status : Option ContactRequestStatus}
  {before : Option ContactRequestCursor} {cursor : ContactRequestCursor} {limit : Int} {id : String}

theorem isHexDigit_range {c : Char} (hex : isHexDigit c = true) :
    0x30 ≤ c.toNat ∧ c.toNat ≤ 0x66 ∧ c ≠ '"' ∧ c ≠ '\\' := by
  unfold isHexDigit hexDigit at hex
  split at hex
  · rename_i digit
    have low : ('0' : Char).toNat ≤ c.toNat := digit.1
    have high : c.toNat ≤ ('9' : Char).toNat := digit.2
    refine ⟨low, high.trans (by decide), ?_, ?_⟩ <;> rintro rfl <;> revert low high <;> decide
  · split at hex
    · rename_i letter
      have low : ('a' : Char).toNat ≤ c.toNat := letter.1
      have high : c.toNat ≤ ('f' : Char).toNat := letter.2
      refine ⟨le_trans (by decide) low, high, ?_, ?_⟩ <;> rintro rfl <;> revert low high <;> decide
    · split at hex
      · rename_i letter
        have low : ('A' : Char).toNat ≤ c.toNat := letter.1
        have high : c.toNat ≤ ('F' : Char).toNat := letter.2
        refine ⟨le_trans (by decide) low, high.trans (by decide), ?_, ?_⟩ <;> rintro rfl <;> revert low high <;> decide
      · cases hex

theorem submissionIdPattern_plain {place : Char → Bool} (known : place ∈ submissionIdPattern) {c : Char}
    (fits : place c = true) : IsJsonPlain c ∧ c.toNat < 0x80 := by
  have hex (digit : isHexDigit c = true) : IsJsonPlain c ∧ c.toNat < 0x80 := by
    obtain ⟨low, high, noQuote, noEscape⟩ := isHexDigit_range digit
    exact ⟨⟨noQuote, noEscape, by omega⟩, by omega⟩
  have separator (same : dash c = true) : IsJsonPlain c ∧ c.toNat < 0x80 := by
    obtain rfl : c = '-' := of_decide_eq_true same
    decide
  simp only [submissionIdPattern, List.mem_append, List.mem_replicate, List.mem_cons, List.not_mem_nil, or_false]
    at known
  rcases known with
    ((((((((⟨_, rfl⟩ | rfl) | ⟨_, rfl⟩) | rfl | rfl) | ⟨_, rfl⟩) | rfl | rfl) | ⟨_, rfl⟩) | rfl) | ⟨_, rfl⟩)
  · exact hex fits
  · exact separator fits
  · exact hex fits
  · exact separator fits
  · obtain rfl : c = '4' := of_decide_eq_true fits
    decide
  · exact hex fits
  · exact separator fits
  · have listed : c ∈ ['8', '9', 'a', 'b', 'A', 'B'] := by simpa using fits
    have each : ∀ c ∈ ['8', '9', 'a', 'b', 'A', 'B'], IsJsonPlain c ∧ c.toNat < 0x80 :=
      List.all_iff_forall_prop.mp (by decide)
    exact each c listed
  · exact hex fits
  · exact separator fits
  · exact hex fits

theorem isSubmissionId_length (submission : isSubmissionId id = true) : id.toList.length = 36 := by
  simp only [isSubmissionId, Bool.and_eq_true, decide_eq_true_eq] at submission
  exact submission.1

theorem isSubmissionId_plain (submission : isSubmissionId id = true) :
    ∀ c ∈ id.toList, IsJsonPlain c ∧ c.toNat < 0x80 := by
  simp only [isSubmissionId, Bool.and_eq_true, decide_eq_true_eq, List.all_eq_true] at submission
  obtain ⟨length, places⟩ := submission
  intro c member
  obtain ⟨index, bound, rfl⟩ := List.mem_iff_getElem.mp member
  have place : index < submissionIdPattern.length := length ▸ bound
  have paired : (submissionIdPattern[index], id.toList[index]) ∈ submissionIdPattern.zip id.toList := by
    rw [← List.getElem_zip (h := by rw [List.length_zip]; omega)]
    exact List.getElem_mem _
  exact submissionIdPattern_plain (List.getElem_mem place) (places _ paired)

/-- No cursor stands before every admitted request. -/
theorem isBefore_none (admitted : Admitted request) : isBefore none request = true := by
  have small : request.id < "\uFFFF" := by
    have length := isSubmissionId_length admitted.id
    have plain := isSubmissionId_plain admitted.id
    rw [String.lt_iff_toList_lt]
    cases characters : request.id.toList with
    | nil =>
        rw [characters] at length
        cases length
    | cons c rest =>
        rw [characters] at plain
        have ascii : c.toNat < 0x80 := (plain c List.mem_cons_self).2
        have less : c < '\uFFFF' := Nat.lt_trans ascii (by decide)
        exact List.cons_lt_cons_iff.mpr (.inl less)
  have time := admitted.time.2
  simp only [isBefore, Option.map_none, Option.getD_none, Bool.or_eq_true, Bool.and_eq_true, decide_eq_true_eq]
  rcases Int.lt_or_eq_of_le time with less | same
  · exact .inl less
  · exact .inr ⟨same, small⟩

theorem isBefore_some : isBefore (some cursor) request = decide (contactKey request < cursor.key) := by
  rw [Bool.eq_iff_iff]
  simp only [isBefore, Option.map_some, Option.getD_some, Bool.or_eq_true, Bool.and_eq_true, decide_eq_true_eq,
    contactKey, ContactRequestCursor.key, Prod.Lex.toLex_lt_toLex]

/-! ## A cursor is read back -/

theorem integerText_of_nonneg {value : Int} (nonneg : 0 ≤ value) : integerText value = Nat.toDigits 10 value.toNat := by
  have magnitude : value.natAbs = value.toNat := by omega
  rw [integerText, if_neg (by omega), magnitude]

theorem toDigits_ascii {number : Nat} {c : Char} (member : c ∈ Nat.toDigits 10 number) : c.toNat < 0x80 := by
  have digit : c.isDigit = true := Nat.isDigit_of_mem_toDigits (by decide) (by decide) member
  simp only [Char.isDigit, Bool.and_eq_true, decide_eq_true_eq] at digit
  exact Nat.lt_of_le_of_lt digit.2 (by decide)

/-- The text of a cursor with an admitted id, cut where it is read. -/
theorem cursorText_admitted (submission : isSubmissionId cursor.id = true)
    (time : IsNonNegativeSafeInteger cursor.createdAt) :
    cursorText cursor =
      '{' :: '"' :: ("createdAt".toList ++ '"' :: ':' :: (Nat.toDigits 10 cursor.createdAt.toNat ++
        ',' :: '"' :: ("id".toList ++ '"' :: ':' :: '"' :: (cursor.id.toList ++ ['"', '}'])))) := by
  have quoted : jsonText cursor.id = '"' :: (cursor.id.toList ++ ['"']) :=
    jsonText_plain fun c member => (isSubmissionId_plain submission c member).1
  have createdAt : jsonText "createdAt" = '"' :: ("createdAt".toList ++ ['"']) := jsonText_plain (List.all_iff_forall_prop.mp (by decide))
  have id : jsonText "id" = '"' :: ("id".toList ++ ['"']) := jsonText_plain (List.all_iff_forall_prop.mp (by decide))
  simp only [cursorText, integerText_of_nonneg time.1, quoted, createdAt, id, List.append_assoc, List.cons_append,
    List.nil_append]

theorem cursorText_ascii (submission : isSubmissionId cursor.id = true)
    (time : IsNonNegativeSafeInteger cursor.createdAt) : ∀ c ∈ cursorText cursor, c.toNat < 0x80 := by
  have createdAt : ∀ c ∈ "createdAt".toList, c.toNat < 0x80 := List.all_iff_forall_prop.mp (by decide)
  have id : ∀ c ∈ "id".toList, c.toNat < 0x80 := List.all_iff_forall_prop.mp (by decide)
  have inId : ∀ c ∈ cursor.id.toList, c.toNat < 0x80 := fun c member => (isSubmissionId_plain submission c member).2
  rw [cursorText_admitted submission time]
  simp only [List.forall_mem_append, List.forall_mem_cons]
  refine ⟨by decide, by decide, createdAt, by decide, by decide, fun c => toDigits_ascii, by decide, by decide, id,
    by decide, by decide, by decide, inId, by decide, by decide, by simp⟩

theorem cursorText_length (submission : isSubmissionId cursor.id = true)
    (time : IsNonNegativeSafeInteger cursor.createdAt) : (cursorText cursor).length ≤ 80 := by
  have digits : (Nat.toDigits 10 cursor.createdAt.toNat).length ≤ 16 := by
    rw [Nat.length_toDigits_le_iff (by decide) (by decide)]
    have bounded := time.2
    have limit : maxSafeInteger < 10000000000000000 := by decide
    omega
  have first : "createdAt".toList.length = 9 := by decide
  have second : "id".toList.length = 2 := by decide
  rw [cursorText_admitted submission time]
  simp only [List.length_append, List.length_cons, List.length_nil, isSubmissionId_length submission, first, second]
  omega

theorem jsonValue_digits {number fuel : Nat} {rest : List Char} (bounded : number < 2 ^ 53) :
    jsonValue (fuel + 1) (Nat.toDigits 10 number ++ ',' :: rest) = some (.number number, ',' :: rest) := by
  have read : jsonUnsigned (Nat.toDigits 10 number ++ ',' :: rest) = some ((number : Rat), ',' :: rest) := by
    refine jsonUnsigned_toDigits bounded fun c head => ?_
    obtain rfl : ',' = c := Option.some.inj head
    decide
  cases digits : Nat.toDigits 10 number with
  | nil => exact absurd digits Nat.toDigits_ne_nil
  | cons c others =>
      have digit : c.isDigit = true :=
        Nat.isDigit_of_mem_toDigits (by decide) (by decide) (digits ▸ List.mem_cons_self : c ∈ Nat.toDigits 10 number)
      rw [digits] at read
      rw [List.cons_append] at read ⊢
      rw [jsonValue_digit digit, read]
      rfl

/-- `JSON.parse` gives back what `JSON.stringify` took. -/
theorem parseJson_cursorText (submission : isSubmissionId cursor.id = true)
    (time : IsNonNegativeSafeInteger cursor.createdAt) :
    parseJson (cursorText cursor) =
      some (.object [("createdAt", .number cursor.createdAt.toNat), ("id", .string cursor.id)]) := by
  have plain : ∀ c ∈ cursor.id.toList, IsJsonPlain c := fun c member => (isSubmissionId_plain submission c member).1
  have number (fuel : Nat) (rest : List Char) := @jsonValue_digits cursor.createdAt.toNat fuel rest (by
    have bounded := time.2
    have limit : maxSafeInteger < 2 ^ 53 := by decide
    omega)
  obtain ⟨fuel, enough⟩ : ∃ fuel, 2 * (cursorText cursor).length + 2 = fuel + 4 := by
    rw [cursorText_admitted submission time]
    exact ⟨_, rfl⟩
  have members : jsonMembers (fuel + 3) ('"' :: ("createdAt".toList ++ '"' :: ':' ::
      (Nat.toDigits 10 cursor.createdAt.toNat ++
        ',' :: '"' :: ("id".toList ++ '"' :: ':' :: '"' :: (cursor.id.toList ++ ['"', '}']))))) [] =
      some ([("createdAt", .number cursor.createdAt.toNat), ("id", .string cursor.id)], []) := by
    rw [jsonMembers_plain (List.all_iff_forall_prop.mp (by decide)) (number (fuel + 1) _)]
    change jsonMembers (fuel + 2) ('"' :: ("id".toList ++ _)) _ = _
    rw [jsonMembers_plain (List.all_iff_forall_prop.mp (by decide)) (jsonValue_string plain)]
    simp only [String.ofList_toList]
    rfl
  rw [parseJson, enough, cursorText_admitted submission time, jsonValue_object, members]
  rfl

/-- A cursor that the list gives is read back. -/
theorem decodeContactCursor_encodeContactCursor (submission : isSubmissionId cursor.id = true)
    (time : IsNonNegativeSafeInteger cursor.createdAt) :
    decodeContactCursor (some (encodeContactCursor cursor)) = some (some cursor) := by
  have ascii := cursorText_ascii submission time
  have short := cursorText_length submission time
  have encoded := toBase64Url_length (utf8Encode (cursorText cursor))
  rw [utf8Encode_length_ascii ascii] at encoded
  have length : utf16Length (encodeContactCursor cursor) = (toBase64Url (utf8Encode (cursorText cursor))).length := by
    rw [encodeContactCursor, utf16Length_ascii fun c member => toBase64Url_ascii (String.toList_ofList ▸ member),
      String.toList_ofList]
  have decoded : fromBase64Url (encodeContactCursor cursor).toList = utf8Encode (cursorText cursor) := by
    rw [encodeContactCursor, String.toList_ofList, fromBase64Url_toBase64Url]
  have nonempty : encodeContactCursor cursor ≠ "" := by
    intro empty
    have none : utf8Encode (cursorText cursor) = [] := by
      rw [← decoded, empty]
      rfl
    have zero := utf8Encode_length_ascii ascii
    rw [none, cursorText_admitted submission time] at zero
    cases zero
  have idLength : utf16Length cursor.id = 36 := by
    rw [utf16Length_ascii fun c member => (isSubmissionId_plain submission c member).2]
    exact isSubmissionId_length submission
  have checked : contactCursor (.object [("createdAt", .number cursor.createdAt.toNat), ("id", .string cursor.id)]) =
      some cursor := by
    have whole : ((cursor.createdAt.toNat : Rat)).num = cursor.createdAt := by
      rw [Rat.num_natCast, Int.toNat_of_nonneg time.1]
    have lower : -maxSafeInteger ≤ cursor.createdAt := le_trans (by decide) time.1
    have integer : asSafeInteger (some (.number cursor.createdAt.toNat)) = some cursor.createdAt := by
      rw [asSafeInteger, Rat.den_natCast, whole, if_pos ⟨rfl, lower, time.2⟩]
    have first : JsonRecord.get [("createdAt", .number cursor.createdAt.toNat), ("id", .string cursor.id)] "createdAt" =
      some (.number cursor.createdAt.toNat) := rfl
    have second : JsonRecord.get [("createdAt", .number cursor.createdAt.toNat), ("id", .string cursor.id)] "id" =
      some (.string cursor.id) := rfl
    simp only [contactCursor, asRecord, Option.bind_eq_bind, Option.bind_some, first, second, integer,
      if_neg (Int.not_lt.mpr time.1), idLength]
    rfl
  rw [decodeContactCursor, if_neg nonempty, if_neg (by omega), decoded, utf8Text_utf8Encode_ascii ascii,
    parseJson_cursorText submission time, Option.bind_some, checked]
  rfl

/-! ## The walk -/

/-- The list that the pages cut up. -/
def orderedContactRequests (requests : List ContactRequestRow) (status : Option ContactRequestStatus) :
    List ContactRequestRow :=
  newestFirst contactKey (requests.filter (matchesStatus status))

theorem contactKey_nodup (distinct : (requests.map (·.id)).Nodup) : (requests.map contactKey).Nodup := by
  refine List.Nodup.of_map (fun key : Int ×ₗ String => (ofLex key).2) ?_
  rw [List.map_map]
  exact distinct

theorem mem_orderedContactRequests : request ∈ orderedContactRequests requests status →
    request ∈ requests := by
  intro member
  exact List.mem_of_mem_filter (newestFirst_perm.mem_iff.mp member)

theorem orderedContactRequests_descending (distinct : (requests.map (·.id)).Nodup) :
    (orderedContactRequests requests status).Pairwise fun earlier later => contactKey later < contactKey earlier := by
  have sorted : Descending contactKey (orderedContactRequests requests status) := newestFirst_descending
  have keys : ((orderedContactRequests requests status).map contactKey).Nodup := by
    rw [orderedContactRequests, (newestFirst_perm.map contactKey).nodup_iff]
    exact (contactKey_nodup distinct).sublist (List.filter_sublist.map contactKey)
  exact sorted.imp₂ (fun _ _ order apart => lt_of_le_of_ne order (Ne.symm apart)) (List.pairwise_map.mp keys)

/-- A page is the head of the requests behind its cursor. -/
theorem listContactRequests_eq (distinct : (requests.map (·.id)).Nodup) (positive : 1 ≤ limit) (bounded : limit ≤ 200) :
    listContactRequests requests ⟨status, some limit, before⟩ =
      let behind := (orderedContactRequests requests status).filter (isBefore before)
      (behind.take limit.toNat, if limit.toNat < behind.length then
        (behind.take limit.toNat).getLast?.map fun last => ⟨last.createdAt, last.id⟩ else none) := by
  have clamped : (min (max limit 1) 200).toNat = limit.toNat := by omega
  have keys := (contactKey_nodup distinct).sublist (List.filter_sublist (p := matchesStatus status) |>.map contactKey)
  have selected : requests.filter (fun request => matchesStatus status request && isBefore before request) =
      (requests.filter (matchesStatus status)).filter (isBefore before) := by
    rw [List.filter_filter]
    exact List.filter_congr fun request _ => Bool.and_comm _ _
  have page (rows : List ContactRequestRow) (count : Nat) : (rows.take (count + 1)).take count = rows.take count := by
    rw [List.take_take, Nat.min_eq_left (Nat.le_succ count)]
  have more (rows : List ContactRequestRow) (count : Nat) :
      count < (rows.take (count + 1)).length ↔ count < rows.length := by
    rw [List.length_take]
    omega
  simp only [listContactRequests, Option.getD_some, clamped, selected, newestFirst_filter keys, page, more,
    orderedContactRequests]
  rfl

theorem isBefore_trans {later : ContactRequestRow} (admitted : Admitted later) (passed : isBefore before request = true)
    (order : contactKey later < contactKey request) : isBefore before later = true := by
  cases before with
  | none => exact isBefore_none admitted
  | some cursor =>
      rw [isBefore_some, decide_eq_true_eq] at passed ⊢
      exact order.trans passed

/-- From a cursor on, the walk lists what lies behind it. -/
theorem walkContactRequests_eq {calls : Nat} {text : Option String} {behind : List ContactRequestRow}
    (admitted : ∀ request ∈ requests, Admitted request) (distinct : (requests.map (·.id)).Nodup)
    (positive : 1 ≤ limit) (bounded : limit ≤ 200) (decoded : decodeContactCursor text = some before)
    (left : (orderedContactRequests requests status).filter (isBefore before) = behind) (enough : behind.length < calls) :
    walkContactRequests requests status limit calls text = some behind := by
  induction calls generalizing text before behind with
  | zero => cases enough
  | succ calls ih =>
      have sorted : behind.Pairwise fun earlier later => contactKey later < contactKey earlier :=
        left ▸ (orderedContactRequests_descending distinct).filter (isBefore before)
      rw [walkContactRequests, contactRequestsPage, decoded]
      simp only [if_neg (show ¬(limit < 1 ∨ 200 < limit) by omega), listContactRequests_eq distinct positive bounded, left]
      by_cases more : limit.toNat < behind.length
      · obtain ⟨last, ends⟩ : ∃ last, (behind.take limit.toNat).getLast? = some last := by
          cases behind with
          | nil => cases more
          | cons first others => exact getLast?_take_cons (by omega)
        have split : behind.take limit.toNat ++ behind.drop limit.toNat = behind := List.take_append_drop _ _
        have shown : last ∈ (orderedContactRequests requests status).filter (isBefore before) :=
          left ▸ List.mem_of_mem_take (List.mem_of_getLast? ends)
        obtain ⟨listed, passed⟩ := List.mem_filter.mp shown
        have known := admitted last (mem_orderedContactRequests listed)
        have apart : ∀ row ∈ behind.drop limit.toNat, contactKey row ≠ contactKey last := by
          intro row member
          rw [← split] at sorted
          exact ((List.pairwise_append.mp sorted).2.2 last (List.mem_of_getLast? ends) row member).ne
        have rest : below contactKey (contactKey last) behind = behind.drop limit.toNat := by
          rw [← split] at sorted
          have page := below_last (sorted.imp fun order => order.le) ends apart
          rwa [split] at page
        have next : (orderedContactRequests requests status).filter (isBefore (some ⟨last.createdAt, last.id⟩)) =
            behind.drop limit.toNat := by
          rw [← rest, ← left, below, List.filter_filter]
          refine List.filter_congr fun row member => ?_
          rw [isBefore_some, ContactRequestCursor.key, ← contactKey]
          have implied := isBefore_trans (admitted row (mem_orderedContactRequests member)) passed
          by_cases order : contactKey row < contactKey last
          · simp [order, implied order]
          · simp [order]
        have read : decodeContactCursor (some (encodeContactCursor ⟨last.createdAt, last.id⟩)) =
            some (some ⟨last.createdAt, last.id⟩) := decodeContactCursor_encodeContactCursor known.id known.time
        have fewer : (behind.drop limit.toNat).length < calls := by
          rw [List.length_drop]
          omega
        rw [if_pos more, ends]
        simp only [Option.map_some, ih read next fewer, split]
      · rw [if_neg more, List.take_of_length_le (Nat.not_lt.mp more)]
        rfl

/-- Following the cursors comes to an end and lists every request of the status once,
from the newest on. -/
theorem contactPagination_complete (database : ContactDatabase)
    (admitted : ∀ request ∈ database.tables, Admitted request) (status : Option ContactRequestStatus) (limit : Int)
    (range : 1 ≤ limit ∧ limit ≤ 200) :
    ∃ listed : List ContactRequestRow,
      (∀ calls, database.tables.length < calls →
        walkContactRequests database.tables status limit calls none = some listed) ∧
      listed.Perm (database.tables.filter (matchesStatus status)) ∧
      listed.Pairwise fun earlier later => contactKey later < contactKey earlier := by
  have distinct : (database.tables.map (·.id)).Nodup := database.consistent .primaryKey
  refine ⟨orderedContactRequests database.tables status, fun calls enough => ?_, newestFirst_perm,
    orderedContactRequests_descending distinct⟩
  have all : (orderedContactRequests database.tables status).filter (isBefore none) =
      orderedContactRequests database.tables status := by
    rw [List.filter_eq_self]
    exact fun request member => isBefore_none (admitted request (mem_orderedContactRequests member))
  have shorter : (orderedContactRequests database.tables status).length ≤ database.tables.length := by
    rw [orderedContactRequests, newestFirst_perm.length_eq]
    exact List.length_filter_le _ _
  exact walkContactRequests_eq admitted distinct range.1 range.2 rfl all (by omega)

end Specs

section Sample

def sampleRequest (id : String) (createdAt : Int) : ContactRequestRow where
  id := id
  name := "Ada"
  email := "ada@acme.test"
  organization := none
  topic := .sales
  message := "How much is it?"
  status := .new
  notificationStatus := .pending
  providerMessageId := none
  sourceHash := "0123456789abcdef"
  privacyVersion := "1"
  createdAt := createdAt
  updatedAt := createdAt

/-- Two of three requests came in the same millisecond. -/
def threeRequests : ContactDatabase :=
  Store.load
    [sampleRequest "11111111-1111-4111-8111-111111111111" 1000, sampleRequest "22222222-2222-4222-8222-222222222222" 1000,
      sampleRequest "33333333-3333-4333-8333-333333333333" 2000]
    (by decide)

theorem contactPagination_threeRequests :
    ∃ listed : List ContactRequestRow,
      (∀ calls, threeRequests.tables.length < calls →
        walkContactRequests threeRequests.tables none 1 calls none = some listed) ∧
      listed.Perm (threeRequests.tables.filter (matchesStatus none)) ∧
      listed.Pairwise fun earlier later => contactKey later < contactKey earlier :=
  contactPagination_complete threeRequests (by decide) none 1 (by decide)

end Sample

end NebulaCloud.Contact
