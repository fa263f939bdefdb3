import NebulaCloud.Platform.UriCode

namespace NebulaCloud.Ingress

open NebulaCloud.Data NebulaCloud.Platform

/-! # The path of a proxied request

The path of a public request goes through the URL parser in the server, again in the
client of the worker, and once more when the worker's URL is fetched. -/

def isLineTerminator (c : Char) : Bool := c ∈ ['\n', '\r', '\u2028', '\u2029']

/-- The groups of `publishedServicePath`, `/^\/p\/([^/]+)(\/.*)?$/`. -/
def matchPublishedServicePath : List Char → Option (List Char × List Char)
  | '/' :: 'p' :: '/' :: rest =>
      let slug := rest.takeWhile (· ≠ '/')
      let path := rest.dropWhile (· ≠ '/')
      if slug = [] ∨ path.any isLineTerminator then none else some (slug, path)
  | _ => none

/-- The `servicePath` that the server passes on: the whole path on a host of its own, and
what follows the slug on the host of the application. -/
def dispatchedServicePath (publishedHost : Bool) (url : UrlTail) : Option (List Char) :=
  if publishedHost then some (url.pathname ++ url.search)
  else
    (matchPublishedServicePath url.pathname).map fun (_, path) =>
      (if path = [] then ['/'] else path) ++ url.search

/-- What is signed, and what is appended to the base URL of the worker. -/
structure WorkerServiceRequest where
  signedPath : List Char
  target : List Char
deriving DecidableEq, Repr

@[irreducible] def workerServicePath (workspaceId : String) (targetPort : Nat) : List Char :=
  ("/internal/v1/workspaces/" ++ encodeURIComponent workspaceId ++ "/services/" ++ toString targetPort).toList

/-- `none` where `new URL` throws. -/
def proxyWorkspaceService (parseHost : List Char → Option String) (workspaceId : String) (targetPort : Nat)
    (servicePath : List Char) : Option WorkerServiceRequest := do
  let suffix := if servicePath.head? = some '/' then servicePath else '/' :: servicePath
  let serviceURL ← resolveTail parseHost suffix
  let path := workerServicePath workspaceId targetPort ++ serviceURL.pathname
  some { signedPath := path, target := path ++ serviceURL.search }

/-- The URL that is fetched, behind the authority of the worker; `basePath` is what the
base URL has there. -/
def fetchedTail (basePath : List Char) (request : WorkerServiceRequest) : UrlTail :=
  readTail (basePath ++ request.target)

/-- The signed path is the fetched one, lies under the service and goes on with what was
requested, and so does the query. -/
def ForwardsRequested (parseHost : List Char → Option String) (basePath : List Char) (workspaceId : String)
    (targetPort : Nat) (servicePath : List Char) : Prop :=
  ∃ request requested, proxyWorkspaceService parseHost workspaceId targetPort servicePath = some request ∧
    (fetchedTail basePath request).pathname = request.signedPath ∧
    request.signedPath = workerServicePath workspaceId targetPort ++ requested ∧
    requested ++ (fetchedTail basePath request).search = servicePath

/-! ## What the server passes on -/

variable {text servicePath basePath : List Char} {workspaceId : String} {targetPort : Nat}

/-- A path and a query in normal form. -/
def IsServicePath (servicePath : List Char) : Prop :=
  ∃ path search, path ≠ [] ∧ (∀ segment ∈ path, IsSegment segment) ∧ IsSearch search ∧
    servicePath = serializePath path ++ search

/-- The groups of the route are a segment and the rest of the path. -/
theorem matchPublishedServicePath_segments {path : List (List Char)} {slug rest : List Char}
    (each : ∀ segment ∈ path, IsSegment segment)
    (matched : matchPublishedServicePath (serializePath path) = some (slug, rest)) :
    ∃ later, path = ['p'] :: slug :: later ∧ rest = serializePath later := by
  have free {segment : List Char} (member : segment ∈ path) := slashFree_within (segment_free (each segment member))
  rw [matchPublishedServicePath.eq_def] at matched
  split at matched
  · rename_i behind whole
    simp only at matched
    split at matched
    · cases matched
    cases matched
    rcases path with _ | ⟨first, _ | ⟨second, later⟩⟩
    · cases whole
    · rw [serializePath_cons, List.cons.injEq] at whole
      have split : first ++ serializePath [] = ['p'] ++ '/' :: behind := whole.2
      obtain ⟨-, none⟩ := run_unique split (free List.mem_cons_self) (serializePath_head [])
        (List.forall_mem_singleton.mpr (by decide)) (by simp)
      cases none
    · rw [serializePath_cons, List.cons.injEq] at whole
      have split : first ++ serializePath (second :: later) = ['p'] ++ '/' :: behind := whole.2
      obtain ⟨rfl, rest⟩ := run_unique split (free List.mem_cons_self) (serializePath_head _)
        (List.forall_mem_singleton.mpr (by decide)) (by simp)
      rw [serializePath_cons, List.cons.injEq] at rest
      have second := free (List.mem_cons_of_mem _ List.mem_cons_self)
      refine ⟨later, ?_, ?_⟩
      · rw [← rest.2, takeWhile_run second (serializePath_head later)]
      · rw [← rest.2, dropWhile_run second (serializePath_head later)]
  · cases matched

/-- On either kind of host the server passes on a path and a query in normal form. -/
theorem dispatchedServicePath_normal {publishedHost : Bool}
    (dispatched : dispatchedServicePath publishedHost (readTail text) = some servicePath) :
    IsServicePath servicePath := by
  obtain ⟨path, nonempty, each, read, search', -⟩ := readTail_normal text
  rw [read, dispatchedServicePath] at dispatched
  cases publishedHost with
  | true =>
      cases dispatched
      exact ⟨path, _, nonempty, each, search', rfl⟩
  | false =>
      obtain ⟨⟨slug, rest⟩, matched, rfl⟩ := Option.map_eq_some_iff.mp dispatched
      obtain ⟨later, rfl, rfl⟩ := matchPublishedServicePath_segments each matched
      have laterEach : ∀ segment ∈ later, IsSegment segment := fun segment member =>
        each segment (List.mem_cons_of_mem _ (List.mem_cons_of_mem _ member))
      rcases later with _ | ⟨segment, later⟩
      · refine ⟨[[]], _, List.cons_ne_nil _ _, ?_, search', rfl⟩
        simpa using empty_segment
      · exact ⟨segment :: later, _, List.cons_ne_nil _ _, laterEach, search', rfl⟩

/-! ## The path of a service -/

def serviceSegments (workspaceId : String) (targetPort : Nat) : List (List Char) :=
  ["internal".toList, ['v', '1'], "workspaces".toList, (encodeURIComponent workspaceId).toList, "services".toList,
    (toString targetPort).toList]

theorem workerServicePath_eq : workerServicePath workspaceId targetPort =
    serializePath (serviceSegments workspaceId targetPort) := by
  simp [workerServicePath, serviceSegments, serializePath, String.toList_append]

/-- How `encodeURIComponent` writes a character. -/
def encodeUnit (c : Char) : List Char := percentEncode (fun c => !isUriUnreserved c) c

theorem encodeURIComponent_toList (text : String) : (encodeURIComponent text).toList = text.toList.flatMap encodeUnit :=
  encodeURIComponent_word text

theorem unreserved_ascii {c : Char} (unreserved : isUriUnreserved c = true) : c.toNat < 128 := by
  have bound {last : Char} (ascii : last.toNat < 128) (le : c ≤ last) : c.toNat < 128 := Nat.lt_of_le_of_lt le ascii
  simp only [isUriUnreserved, Bool.or_eq_true, Bool.and_eq_true, decide_eq_true_eq] at unreserved
  rcases unreserved with ((⟨-, small⟩ | ⟨-, capital⟩) | ⟨-, digit⟩) | mark
  · exact bound (by decide) small
  · exact bound (by decide) capital
  · exact bound (by decide) digit
  · have marks : ∀ c ∈ ['-', '_', '.', '!', '~', '*', '\'', '(', ')'], c.toNat < 128 :=
      List.all_iff_forall_prop.mp (by decide)
    exact marks c mark

theorem unreserved_plain {c : Char} (unreserved : isUriUnreserved c = true) :
    isPathEncoded c = false ∧ isSlash c = false :=
  ascii_forall (fun c => isUriUnreserved c = true → isPathEncoded c = false ∧ isSlash c = false)
    (by decide +kernel) (unreserved_ascii unreserved) unreserved

theorem encodeURIComponent_text (text : String) : IsPathText (encodeURIComponent text).toList := by
  intro c member
  rw [encodeURIComponent_toList] at member
  obtain ⟨unit, -, member⟩ := List.mem_flatMap.mp member
  rcases percentEncode_mem member with ⟨rfl, unreserved⟩ | encoded
  · exact unreserved_plain (by simpa using unreserved)
  · obtain ⟨plain, slash, -⟩ := encoded_plain c encoded
    exact ⟨plain, slash⟩

/-- No byte of another character is a full stop. -/
theorem utf8Bytes_head {c : Char} (encoded : isUriUnreserved c = false) :
    ∃ byte more, utf8Bytes c = byte :: more ∧ byte ≠ 0x2E ∧ byte < 256 := by
  have bound := char_lt c
  have other : c.toNat ≠ 0x2E := by
    intro same
    have dot : c = '.' := by rw [← Char.ofNat_toNat c, same]
    rw [dot] at encoded
    cases encoded
  simp only [utf8Bytes]
  split
  · exact ⟨_, _, rfl, by omega, by omega⟩
  split
  · exact ⟨_, _, rfl, by omega, by omega⟩
  split
  · exact ⟨_, _, rfl, by omega, by omega⟩
  · exact ⟨_, _, rfl, by omega, by omega⟩

/-- A dot is written for a dot only, and not as `%2E`. -/
theorem encodeUnit_dot (c : Char) (rest : List Char) :
    (∀ tail, (encodeUnit c ++ rest).map Char.toLower ≠ '%' :: '2' :: 'e' :: tail) ∧
      ∀ tail, (encodeUnit c ++ rest).map Char.toLower = '.' :: tail → c = '.' ∧ rest.map Char.toLower = tail := by
  cases unreserved : isUriUnreserved c with
  | true =>
      have lower := ascii_forall (fun c => isUriUnreserved c = true → c.toLower ≠ '%' ∧ (c.toLower = '.' → c = '.'))
        (by decide +kernel) (unreserved_ascii unreserved) unreserved
      have written : encodeUnit c = [c] := by simp [encodeUnit, percentEncode, unreserved]
      rw [written]
      constructor
      · intro tail same
        rw [List.singleton_append, List.map_cons, List.cons.injEq] at same
        exact lower.1 same.1
      · intro tail same
        rw [List.singleton_append, List.map_cons, List.cons.injEq] at same
        exact ⟨lower.2 same.1, same.2⟩
  | false =>
      obtain ⟨byte, more, bytes, notDot, small⟩ := utf8Bytes_head unreserved
      have high : ∀ digit < 16, (upperHexDigit digit).toLower = '2' → digit = 2 := by decide
      have low : ∀ digit < 16, (upperHexDigit digit).toLower = 'e' → digit = 14 := by decide
      simp only [encodeUnit, percentEncode, unreserved, bytes, Bool.not_false, if_true, List.flatMap_cons,
        List.cons_append, List.nil_append, List.map_cons, ne_eq, List.cons.injEq]
      constructor
      · rintro tail ⟨-, two, e, -⟩
        have first := high _ (by omega) two
        have second := low _ (by omega) e
        omega
      · rintro tail ⟨percent, -⟩
        exact absurd percent (by decide)

theorem encodeUnit_ne_nil (c : Char) : encodeUnit c ≠ [] := by
  rw [encodeUnit, percentEncode]
  split
  · rename_i encoded
    obtain ⟨byte, more, bytes, -⟩ := utf8Bytes_head (by simpa using encoded)
    rw [bytes]
    exact List.cons_ne_nil _ _
  · exact List.cons_ne_nil _ _

/-- How an encoded text starts in lower case. -/
theorem encoded_lower (text : List Char) :
    ((text.flatMap encodeUnit).map Char.toLower = [] → text = []) ∧
      (∀ tail, (text.flatMap encodeUnit).map Char.toLower ≠ '%' :: '2' :: 'e' :: tail) ∧
      ∀ tail, (text.flatMap encodeUnit).map Char.toLower = '.' :: tail →
        ∃ rest, text = '.' :: rest ∧ (rest.flatMap encodeUnit).map Char.toLower = tail := by
  cases text with
  | nil => simp
  | cons c rest =>
      obtain ⟨noPercent, dot⟩ := encodeUnit_dot c (rest.flatMap encodeUnit)
      rw [List.flatMap_cons]
      refine ⟨fun empty => ?_, noPercent, fun tail same => ?_⟩
      · rw [List.map_eq_nil_iff, List.append_eq_nil_iff] at empty
        exact absurd empty.1 (encodeUnit_ne_nil c)
      · obtain ⟨rfl, later⟩ := dot tail same
        exact ⟨rest, rfl, later⟩

/-- `encodeURIComponent` writes a dot segment for `.` and `..` only. -/
theorem encodeURIComponent_segment (text : String) :
    IsSegment (encodeURIComponent text).toList ↔ text ≠ "." ∧ text ≠ ".." := by
  constructor
  · rintro ⟨-, single, double⟩
    constructor
    · rintro rfl
      revert single
      decide
    · rintro rfl
      revert double
      decide
  · rintro ⟨noDot, noDots⟩
    have start := encoded_lower text.toList
    have behind (rest : List Char) := encoded_lower rest
    refine ⟨encodeURIComponent_text text, ?_, ?_⟩
    · rw [isSingleDot, encodeURIComponent_toList, decide_eq_false_iff_not]
      intro member
      simp only [singleDots, List.mem_cons, List.not_mem_nil, or_false] at member
      rcases member with dot | encoded
      · obtain ⟨rest, whole, none⟩ := start.2.2 _ dot
        rw [(behind rest).1 none] at whole
        exact noDot (String.toList_injective whole)
      · exact start.2.1 _ encoded
    · rw [isDoubleDot, encodeURIComponent_toList, decide_eq_false_iff_not]
      intro member
      simp only [doubleDots, List.mem_cons, List.not_mem_nil, or_false] at member
      rcases member with dots | later | encoded | encoded
      · obtain ⟨rest, whole, last⟩ := start.2.2 _ dots
        obtain ⟨others, again, none⟩ := (behind rest).2.2 _ last
        rw [again, (behind others).1 none] at whole
        exact noDots (String.toList_injective whole)
      · obtain ⟨rest, -, encoded⟩ := start.2.2 _ later
        exact (behind rest).2.1 _ encoded
      · exact start.2.1 _ encoded
      · exact start.2.1 _ encoded

theorem portText_segment (port : Nat) : IsSegment (toString port).toList := by
  have digits : (toString port).toList = Nat.toDigits 10 port := by
    rw [Nat.toString_eq_repr, Nat.repr, String.toList_ofList]
  have digit : ∀ c ∈ (toString port).toList, c.isDigit = true := by
    rw [digits]
    exact fun c => Nat.isDigit_of_mem_toDigits (by decide) (by decide)
  have unencoded : encodeURIComponent (toString port) = toString port := by
    refine String.toList_injective ?_
    rw [encodeURIComponent_toList]
    refine (List.flatMap_congr fun c member => ?_).trans (List.flatMap_singleton' _)
    have number := digit c member
    rw [Char.isDigit, Bool.and_eq_true, decide_eq_true_eq, decide_eq_true_eq] at number
    have unreserved : isUriUnreserved c = true := by
      simp only [isUriUnreserved, Bool.or_eq_true, Bool.and_eq_true, decide_eq_true_eq]
      exact .inl (.inr number)
    simp [encodeUnit, percentEncode, unreserved]
  have numeral (text : String) (dotted : '.' ∈ text.toList) : toString port ≠ text := by
    rintro rfl
    exact absurd (digit '.' dotted) (by decide)
  rw [← unencoded, encodeURIComponent_segment]
  exact ⟨numeral "." (by decide), numeral ".." (by decide)⟩

theorem serviceSegments_free : ∀ segment ∈ serviceSegments workspaceId targetPort, '/' ∉ segment := by
  intro segment member
  simp only [serviceSegments, List.mem_cons, List.not_mem_nil, or_false] at member
  rcases member with rfl | rfl | rfl | rfl | rfl | rfl
  · decide
  · decide
  · decide
  · intro slash
    cases (encodeURIComponent_text workspaceId '/' slash).2
  · decide
  · exact segment_free (portText_segment targetPort)

/-- The path of a service has a dot segment only where the workspace's id is one. -/
theorem serviceSegments_normal (workspaceId : String) (targetPort : Nat) :
    (∀ segment ∈ serviceSegments workspaceId targetPort, IsSegment segment) ↔ workspaceId ≠ "." ∧ workspaceId ≠ ".." := by
  have fixed (segment : List Char) (unreserved : segment.all isUriUnreserved = true)
      (single : isSingleDot segment = false) (double : isDoubleDot segment = false) : IsSegment segment :=
    ⟨fun c member => unreserved_plain (List.all_eq_true.mp unreserved c member), single, double⟩
  rw [← encodeURIComponent_segment]
  constructor
  · intro each
    exact each _ (by simp [serviceSegments])
  · intro normal segment member
    simp only [serviceSegments, List.mem_cons, List.not_mem_nil, or_false] at member
    rcases member with rfl | rfl | rfl | rfl | rfl | rfl
    · exact fixed _ (by decide) (by decide) (by decide)
    · exact fixed _ (by decide) (by decide) (by decide)
    · exact fixed _ (by decide) (by decide) (by decide)
    · exact normal
    · exact fixed _ (by decide) (by decide) (by decide)
    · exact portText_segment targetPort

/-! ## What is forwarded -/

theorem servicePath_head {path : List (List Char)} {search : List Char} (nonempty : path ≠ []) :
    (serializePath path ++ search).head? = some '/' := by
  obtain ⟨segment, more, rfl⟩ := List.exists_cons_of_ne_nil nonempty
  rfl

/-- Whatever is resolved is in normal form. -/
theorem resolveTail_normal {parseHost : List Char → Option String} {url : UrlTail}
    (resolved : resolveTail parseHost text = some url) :
    ∃ path, path ≠ [] ∧ (∀ segment ∈ path, IsSegment segment) ∧ IsSearch url.search ∧
      url = { pathname := serializePath path, search := url.search } := by
  have normal (other : List Char) : ∃ path, path ≠ [] ∧ (∀ segment ∈ path, IsSegment segment) ∧
      IsSearch (readTail other).search ∧
      readTail other = { pathname := serializePath path, search := (readTail other).search } := by
    obtain ⟨path, nonempty, each, read, search', -⟩ := readTail_normal other
    exact ⟨path, nonempty, each, search', read⟩
  rw [resolveTail] at resolved
  split at resolved
  · split at resolved
    · obtain ⟨_, -, rfl⟩ := Option.map_eq_some_iff.mp resolved
      exact normal _
    · cases resolved
      exact normal _
  · cases resolved
    exact normal _

/-- What the worker's URL looks like once it is fetched. -/
theorem fetchedTail_eq (targetPort : Nat) {path : List (List Char)} {search : List Char} (directory : IsDirectory basePath)
    (plainId : workspaceId ≠ "." ∧ workspaceId ≠ "..") (each : ∀ segment ∈ path, IsSegment segment)
    (search' : IsSearch search) :
    readTail (basePath ++ (workerServicePath workspaceId targetPort ++ serializePath path ++ search)) =
      { pathname := serializePath (directorySegments basePath ++ (serviceSegments workspaceId targetPort ++ path)), search } := by
  have service := (serviceSegments_normal workspaceId targetPort).mpr plainId
  have all : ∀ segment ∈ serviceSegments workspaceId targetPort ++ path, IsSegment segment := by
    intro segment member
    rcases List.mem_append.mp member with inService | inPath
    · exact service segment inService
    · exact each segment inPath
  rw [workerServicePath_eq, ← serializePath_append, ← List.append_assoc]
  exact readTail_directory directory (by simp [serviceSegments]) all search'

/-- A request that is sent has read its path as the URL parser does. -/
theorem proxyWorkspaceService_eq {parseHost : List Char → Option String} {request : WorkerServiceRequest}
    (sent : proxyWorkspaceService parseHost workspaceId targetPort servicePath = some request) :
    ∃ text url, resolveTail parseHost text = some url ∧ (servicePath.head? = some '/' → text = servicePath) ∧
      request.signedPath = workerServicePath workspaceId targetPort ++ url.pathname ∧
      request.target = workerServicePath workspaceId targetPort ++ url.pathname ++ url.search := by
  simp only [proxyWorkspaceService, Option.bind_eq_bind, Option.bind_eq_some_iff] at sent
  obtain ⟨url, resolved, same⟩ := sent
  cases same
  exact ⟨_, url, resolved, fun rooted => if_pos rooted, rfl, rfl⟩

/-- A request that is forwarded as it stands was signed for the path that was fetched. -/
theorem forwardsRequested_needs {parseHost : List Char → Option String} (directory : IsDirectory basePath)
    (normal : IsServicePath servicePath)
    (forwards : ForwardsRequested parseHost basePath workspaceId targetPort servicePath) :
    ¬ ['/', '/'] <+: servicePath ∧ (workspaceId ≠ "." ∧ workspaceId ≠ "..") ∧ directorySegments basePath = [] := by
  obtain ⟨request, requested, sent, fetched, signed, whole⟩ := forwards
  obtain ⟨text, url, resolved, rooted, signedPath, target⟩ := proxyWorkspaceService_eq sent
  obtain ⟨path, nonempty, each, search', read⟩ := resolveTail_normal resolved
  rw [read] at signedPath target
  obtain rfl : serializePath path = requested := List.append_cancel_left (signedPath.symm.trans signed)
  have free : ∀ segment ∈ serviceSegments workspaceId targetPort ++ path, '/' ∉ segment := by
    intro segment member
    rcases List.mem_append.mp member with inService | inPath
    · exact serviceSegments_free segment inService
    · exact segment_free (each segment inPath)
  have plainId : workspaceId ≠ "." ∧ workspaceId ≠ ".." := by
    -- What has been fetched has no dot segments, and the signed path is the same text.
    obtain ⟨others, -, othersEach, fetchedPath, -, -⟩ := readTail_normal (basePath ++ request.target)
    rw [fetchedTail, fetchedPath, signed, workerServicePath_eq, ← serializePath_append] at fetched
    have same := serializePath_injective (fun segment member => segment_free (othersEach segment member)) free fetched
    refine (serviceSegments_normal workspaceId targetPort).mp fun segment member => othersEach segment ?_
    rw [same]
    exact List.mem_append_left path member
  rw [fetchedTail, target, fetchedTail_eq targetPort directory plainId each search'] at fetched whole
  rw [signed, workerServicePath_eq, ← serializePath_append] at fetched
  have noBase : directorySegments basePath = [] := by
    rw [serializePath_append, List.append_left_eq_self] at fetched
    cases found : directorySegments basePath with
    | nil => rfl
    | cons segment others =>
        rw [found] at fetched
        cases fetched
  refine ⟨?_, plainId, noBase⟩
  obtain ⟨own, ownSearch, ownNonempty, -, -, rfl⟩ := normal
  rw [rooted (servicePath_head ownNonempty), ← whole] at resolved
  rw [read] at resolved
  rw [← whole]
  exact (resolveTail_serialize parseHost nonempty each search').mp resolved

/-- The path that a public request asks for is signed, fetched and handed to its service
exactly if it does not start with two slashes, the workspace's id is no dot segment and
the worker's base URL has no path of its own. -/
theorem forwardsRequested_iff (parseHost : List Char → Option String) (workspaceId : String) (targetPort : Nat)
    (publishedHost : Bool) (text : List Char) (directory : IsDirectory basePath)
    (dispatched : dispatchedServicePath publishedHost (readTail text) = some servicePath) :
    ForwardsRequested parseHost basePath workspaceId targetPort servicePath ↔
      ¬ ['/', '/'] <+: servicePath ∧ (workspaceId ≠ "." ∧ workspaceId ≠ "..") ∧ directorySegments basePath = [] := by
  have normal := dispatchedServicePath_normal dispatched
  refine ⟨forwardsRequested_needs directory normal, ?_⟩
  rintro ⟨single, plainId, noBase⟩
  obtain ⟨path, search, nonempty, each, search', rfl⟩ := normal
  have resolved := (resolveTail_serialize parseHost nonempty each search').mpr single
  have sent : proxyWorkspaceService parseHost workspaceId targetPort (serializePath path ++ search) =
      some { signedPath := workerServicePath workspaceId targetPort ++ serializePath path
             target := workerServicePath workspaceId targetPort ++ serializePath path ++ search } := by
    simp only [proxyWorkspaceService, servicePath_head nonempty, if_true, resolved, Option.bind_eq_bind,
      Option.bind_some]
  have fetched := fetchedTail_eq targetPort directory plainId each search'
  rw [noBase, List.nil_append, serializePath_append, ← workerServicePath_eq] at fetched
  exact ⟨_, serializePath path, sent, congrArg UrlTail.pathname fetched, rfl,
    congrArg (serializePath path ++ ·) (congrArg UrlTail.search fetched)⟩

/-- `GET /p/site/a/b?q=1`. -/
theorem forwardsRequested_nested :
    dispatchedServicePath false (readTail "/p/site/a/b?q=1".toList) = some "/a/b?q=1".toList ∧
      (ForwardsRequested plainHost [] "w1" 3000 "/a/b?q=1".toList ↔
        ¬ ['/', '/'] <+: "/a/b?q=1".toList ∧ ("w1" ≠ "." ∧ "w1" ≠ "..") ∧ directorySegments [] = []) := by
  have dispatched : dispatchedServicePath false (readTail "/p/site/a/b?q=1".toList) = some "/a/b?q=1".toList := by
    decide +kernel
  exact ⟨dispatched, forwardsRequested_iff plainHost "w1" 3000 false "/p/site/a/b?q=1".toList
    .nil dispatched⟩

/-- `GET /p/site//a/b`: the service is asked for `/b`. -/
theorem segment_misrouted :
    dispatchedServicePath false (readTail "/p/site//a/b".toList) = some "//a/b".toList ∧
      proxyWorkspaceService plainHost "w1" 3000 "//a/b".toList =
        some { signedPath := "/internal/v1/workspaces/w1/services/3000/b".toList
               target := "/internal/v1/workspaces/w1/services/3000/b".toList } ∧
      ¬ ForwardsRequested plainHost [] "w1" 3000 "//a/b".toList := by
  have dispatched : dispatchedServicePath false (readTail "/p/site//a/b".toList) = some "//a/b".toList := by
    decide +kernel
  refine ⟨dispatched, by decide +kernel, fun forwards => ?_⟩
  have needed := forwardsRequested_needs .nil (dispatchedServicePath_normal dispatched) forwards
  exact needed.1 (by decide)

end NebulaCloud.Ingress
