import NebulaCloud.Data.Runs
import NebulaCloud.Platform.Uri
import NebulaCloud.Platform.Url

namespace NebulaCloud.Platform

open NebulaCloud.Data

/-! # Path and query of a URL

The states of the URL parser behind the authority of a special URL, and the texts that
they leave as they are. -/

/-- The query percent-encode set. -/
def isQueryEncoded (c : Char) : Bool := c.toNat ≤ 0x20 || 0x7E < c.toNat || c ∈ ['"', '#', '<', '>']

/-- The special-query percent-encode set. -/
def isSpecialQueryEncoded (c : Char) : Bool := isQueryEncoded c || c = '\''

/-- The path percent-encode set. -/
def isPathEncoded (c : Char) : Bool := isQueryEncoded c || c ∈ ['?', '^', '`', '{', '}']

def percentEncode (encoded : Char → Bool) (c : Char) : List Char :=
  if encoded c then
    (utf8Bytes c).flatMap fun byte => ['%', upperHexDigit (byte / 16), upperHexDigit (byte % 16)]
  else [c]

def singleDots : List (List Char) := [['.'], ['%', '2', 'e']]

def doubleDots : List (List Char) :=
  [['.', '.'], ['.', '%', '2', 'e'], ['%', '2', 'e', '.'], ['%', '2', 'e', '%', '2', 'e']]

def isSingleDot (segment : List Char) : Bool := segment.map Char.toLower ∈ singleDots

def isDoubleDot (segment : List Char) : Bool := segment.map Char.toLower ∈ doubleDots

/-- The end of a segment: `slash` tells whether another one follows. -/
def endSegment (slash : Bool) (path : List (List Char)) (buffer : List Char) : List (List Char) :=
  if isDoubleDot buffer then
    if slash then path.dropLast else path.dropLast ++ [[]]
  else if isSingleDot buffer then
    if slash then path else path ++ [[]]
  else path ++ [buffer]

/-- The path state, with what is left for the query and fragment states. -/
def pathState (path : List (List Char)) (buffer : List Char) : List Char → List (List Char) × List Char
  | [] => (endSegment false path buffer, [])
  | c :: rest =>
      if isSlash c then pathState (endSegment true path buffer) [] rest
      else if c = '?' ∨ c = '#' then (endSegment false path buffer, c :: rest)
      else pathState path (buffer ++ percentEncode isPathEncoded c) rest

/-- The path start state. -/
def pathStartState : List Char → List (List Char) × List Char
  | [] => pathState [] [] []
  | c :: rest => if isSlash c then pathState [] [] rest else pathState [] [] (c :: rest)

/-- `url.search`: an empty query is left out. -/
def searchOf : List Char → List Char
  | '?' :: rest =>
      let query := (rest.takeWhile (· ≠ '#')).flatMap (percentEncode isSpecialQueryEncoded)
      if query = [] then [] else '?' :: query
  | _ => []

def serializePath (path : List (List Char)) : List Char := path.flatMap ('/' :: ·)

structure UrlTail where
  pathname : List Char
  search : List Char
deriving DecidableEq, Repr

/-- What a URL has behind its authority. -/
def readTail (text : List Char) : UrlTail :=
  let (path, rest) := pathStartState text
  { pathname := serializePath path, search := searchOf rest }

/-- `new URL(text, base)` for a text that starts with a slash: a second slash starts an
authority. -/
def resolveTail (parseHost : List Char → Option String) (text : List Char) : Option UrlTail :=
  match cleanInput text with
  | first :: second :: rest =>
      if isSlash second then
        (ignoreSlashes parseHost rest).map fun _ =>
          readTail ((rest.dropWhile isSlash).dropWhile fun c => !endsAuthority c)
      else some (readTail (first :: second :: rest))
  | short => some (readTail short)

/-! ## Texts in normal form -/

def IsPathText (text : List Char) : Prop := ∀ c ∈ text, isPathEncoded c = false ∧ isSlash c = false

/-- A segment that the path state leaves as it is. -/
structure IsSegment (segment : List Char) : Prop where
  text : IsPathText segment
  single : isSingleDot segment = false
  double : isDoubleDot segment = false

/-- A query that the query state leaves as it is, with its question mark. -/
def IsSearch (search : List Char) : Prop :=
  search = [] ∨ ∃ query, query ≠ [] ∧ search = '?' :: query ∧ ∀ c ∈ query, isSpecialQueryEncoded c = false

variable {path : List (List Char)} {buffer segment text rest search : List Char} {c : Char}

theorem serializePath_cons (segment : List Char) (path : List (List Char)) :
    serializePath (segment :: path) = '/' :: (segment ++ serializePath path) := rfl

theorem empty_segment : IsSegment [] := ⟨by simp [IsPathText], by decide, by decide⟩

theorem isPathText_append {left right : List Char} (front : IsPathText left) (back : IsPathText right) :
    IsPathText (left ++ right) := by
  intro c member
  rcases List.mem_append.mp member with first | last
  · exact front c first
  · exact back c last

theorem upperHexDigit_mem {digit : Nat} (small : digit < 16) :
    upperHexDigit digit ∈ ['0', '1', '2', '3', '4', '5', '6', '7', '8', '9', 'A', 'B', 'C', 'D', 'E', 'F'] := by
  revert digit
  decide

theorem char_lt (c : Char) : c.toNat < 0x110000 := by
  rcases c.valid with low | ⟨-, high⟩
  · exact Nat.lt_trans low (by decide)
  · exact high

theorem utf8Bytes_lt (c : Char) : ∀ byte ∈ utf8Bytes c, byte < 256 := by
  have bound := char_lt c
  intro byte member
  simp only [utf8Bytes] at member
  split at member
  · simp only [List.mem_singleton] at member
    omega
  split at member
  · simp only [List.mem_cons, List.not_mem_nil, or_false] at member
    omega
  split at member
  · simp only [List.mem_cons, List.not_mem_nil, or_false] at member
    omega
  · simp only [List.mem_cons, List.not_mem_nil, or_false] at member
    omega

/-- Percent-encoding writes only what nothing encodes. -/
theorem percentEncode_mem {encoded : Char → Bool} {other : Char} (member : other ∈ percentEncode encoded c) :
    (other = c ∧ encoded c = false) ∨
      other ∈ ['%', '0', '1', '2', '3', '4', '5', '6', '7', '8', '9', 'A', 'B', 'C', 'D', 'E', 'F'] := by
  rw [percentEncode] at member
  split at member
  · right
    obtain ⟨byte, inBytes, member⟩ := List.mem_flatMap.mp member
    have small := utf8Bytes_lt c byte inBytes
    simp only [List.mem_cons, List.not_mem_nil, or_false] at member
    rcases member with rfl | rfl | rfl
    · exact List.mem_cons_self
    · exact List.mem_cons_of_mem _ (upperHexDigit_mem (by omega))
    · exact List.mem_cons_of_mem _ (upperHexDigit_mem (by omega))
  · rename_i plain
    exact .inl ⟨List.mem_singleton.mp member, Bool.not_eq_true _ |>.mp plain⟩

theorem encoded_plain :
    ∀ other ∈ ['%', '0', '1', '2', '3', '4', '5', '6', '7', '8', '9', 'A', 'B', 'C', 'D', 'E', 'F'],
      isPathEncoded other = false ∧ isSlash other = false ∧ isSpecialQueryEncoded other = false :=
  List.all_iff_forall_prop.mp (by decide)

theorem percentEncode_text (noSlash : isSlash c = false) : IsPathText (percentEncode isPathEncoded c) := by
  intro other member
  rcases percentEncode_mem member with ⟨rfl, plain⟩ | written
  · exact ⟨plain, noSlash⟩
  · obtain ⟨plain, slash, -⟩ := encoded_plain other written
    exact ⟨plain, slash⟩

theorem endSegment_segments {slash : Bool} (each : ∀ segment ∈ path, IsSegment segment) (text : IsPathText buffer) :
    ∀ segment ∈ endSegment slash path buffer, IsSegment segment := by
  have ends (front : List (List Char)) (inPath : ∀ segment ∈ front, IsSegment segment) (last : List Char)
      (final : IsSegment last) : ∀ segment ∈ front ++ [last], IsSegment segment := by
    intro segment member
    rcases List.mem_append.mp member with first | same
    · exact inPath segment first
    · rwa [List.mem_singleton.mp same]
  have shorter : ∀ segment ∈ path.dropLast, IsSegment segment :=
    fun segment member => each segment (List.dropLast_subset path member)
  rw [endSegment]
  by_cases double : isDoubleDot buffer = true
  · rw [if_pos double]
    cases slash with
    | true => exact shorter
    | false => exact ends _ shorter [] empty_segment
  rw [if_neg double]
  by_cases single : isSingleDot buffer = true
  · rw [if_pos single]
    cases slash with
    | true => exact each
    | false => exact ends _ each [] empty_segment
  · rw [if_neg single]
    exact ends _ each buffer ⟨text, Bool.not_eq_true _ |>.mp single, Bool.not_eq_true _ |>.mp double⟩

/-- The path state writes segments in normal form. -/
theorem pathState_segments (each : ∀ segment ∈ path, IsSegment segment) (written : IsPathText buffer) :
    ∀ segment ∈ (pathState path buffer text).1, IsSegment segment := by
  induction text generalizing path buffer with
  | nil => exact endSegment_segments each written
  | cons c rest ih =>
      rw [pathState]
      split
      · exact ih (endSegment_segments each written) (by simp [IsPathText])
      split
      · exact endSegment_segments each written
      · rename_i noSlash _
        exact ih each (isPathText_append written (percentEncode_text (Bool.not_eq_true _ |>.mp noSlash)))

theorem pathState_nonempty : (pathState path buffer text).1 ≠ [] := by
  have last (path : List (List Char)) (buffer : List Char) : endSegment false path buffer ≠ [] := by
    rw [endSegment]
    split
    · exact List.concat_ne_nil _ _
    split
    · exact List.concat_ne_nil _ _
    · exact List.concat_ne_nil _ _
  induction text generalizing path buffer with
  | nil => exact last path buffer
  | cons c rest ih =>
      rw [pathState]
      split
      · exact ih
      split
      · exact last path buffer
      · exact ih

theorem searchOf_search (text : List Char) : IsSearch (searchOf text) := by
  cases text with
  | nil => exact .inl rfl
  | cons c rest =>
      rcases eq_or_ne c '?' with rfl | other
      · rw [searchOf]
        split
        · exact .inl rfl
        · rename_i nonempty
          refine .inr ⟨_, nonempty, rfl, fun written member => ?_⟩
          obtain ⟨c, -, member⟩ := List.mem_flatMap.mp member
          rcases percentEncode_mem member with ⟨rfl, plain⟩ | encoded
          · exact plain
          · exact (encoded_plain written encoded).2.2
      · left
        unfold searchOf
        split
        · rename_i same
          cases same
          exact absurd rfl other
        · rfl

/-! ## Reading back -/

theorem pathText_plain (text : IsPathText segment) (member : c ∈ segment) :
    isSlash c = false ∧ ¬ (c = '?' ∨ c = '#') ∧ percentEncode isPathEncoded c = [c] := by
  obtain ⟨plain, noSlash⟩ := text c member
  refine ⟨noSlash, ?_, ?_⟩
  · rintro (rfl | rfl)
    · exact absurd plain (by decide)
    · exact absurd plain (by decide)
  · rw [percentEncode, plain]
    rfl

theorem pathState_text (written : IsPathText segment) :
    pathState path buffer (segment ++ text) = pathState path (buffer ++ segment) text := by
  induction segment generalizing buffer with
  | nil => rw [List.nil_append, List.append_nil]
  | cons c rest ih =>
      obtain ⟨noSlash, more, same⟩ := pathText_plain written List.mem_cons_self
      have later : IsPathText rest := fun other member => written other (List.mem_cons_of_mem c member)
      rw [List.cons_append, pathState, if_neg (by rw [noSlash]; decide), if_neg more, same, ih later,
        List.append_assoc, List.singleton_append]

theorem endSegment_normal {slash : Bool} (normal : IsSegment segment) :
    endSegment slash path segment = path ++ [segment] := by
  rw [endSegment, normal.double, normal.single]
  rfl

/-- What the path state reads of segments in normal form. -/
theorem pathState_serialize (path : List (List Char)) {more : List (List Char)} (normal : IsSegment segment)
    (each : ∀ segment ∈ more, IsSegment segment) (ends : ∀ c ∈ text.head?, c = '?' ∨ c = '#') :
    pathState path [] (segment ++ serializePath more ++ text) = (path ++ segment :: more, text) := by
  induction more generalizing path segment with
  | nil =>
      rw [serializePath, List.flatMap_nil, List.append_nil, pathState_text normal.text, List.nil_append]
      cases text with
      | nil => rw [pathState, endSegment_normal normal]
      | cons c rest =>
          have stop := ends c rfl
          have noSlash : isSlash c = false := by rcases stop with rfl | rfl <;> rfl
          rw [pathState, if_neg (by rw [noSlash]; decide), if_pos stop, endSegment_normal normal]
  | cons next more ih =>
      have later := ih (path ++ [segment]) (each next List.mem_cons_self)
        fun other member => each other (List.mem_cons_of_mem next member)
      have slash : isSlash '/' = true := rfl
      rw [serializePath_cons, List.append_assoc, pathState_text normal.text, List.nil_append, List.cons_append,
        pathState, if_pos slash, endSegment_normal normal, later, List.append_assoc, List.singleton_append]

theorem search_head (search' : IsSearch search) : ∀ c ∈ search.head?, c = '?' ∨ c = '#' := by
  rcases search' with rfl | ⟨query, -, rfl, -⟩
  · simp
  · simp

theorem searchOf_normal (search' : IsSearch search) : searchOf search = search := by
  rcases search' with rfl | ⟨query, nonempty, rfl, plain⟩
  · rfl
  · have whole : query.takeWhile (· ≠ '#') = query := by
      rw [List.takeWhile_eq_self_iff]
      intro c member
      rw [decide_eq_true_eq]
      rintro rfl
      exact absurd (plain '#' member) (by decide)
    have same : query.flatMap (percentEncode isSpecialQueryEncoded) = query := by
      rw [List.flatMap_congr (g := fun c => [c])]
      · exact List.flatMap_singleton' query
      · intro c member
        rw [percentEncode, plain c member]
        rfl
    rw [searchOf]
    simp only [whole, same, if_neg nonempty]

/-! ## A path in front -/

/-- The segments of a path that another one follows. -/
def directoryState (path : List (List Char)) (buffer : List Char) : List Char → List (List Char)
  | [] => endSegment true path buffer
  | c :: rest =>
      if isSlash c then directoryState (endSegment true path buffer) [] rest
      else directoryState path (buffer ++ percentEncode isPathEncoded c) rest

def directorySegments : List Char → List (List Char)
  | [] => []
  | _ :: rest => directoryState [] [] rest

/-- A path without query or fragment: nothing, or it starts with a slash. -/
structure IsDirectory (text : List Char) : Prop where
  rooted : ∀ c ∈ text.head?, isSlash c = true
  pathOnly : ∀ c ∈ text, ¬ (c = '?' ∨ c = '#')

theorem IsDirectory.nil : IsDirectory [] := ⟨by simp, by simp⟩

theorem pathState_directory (pathOnly : ∀ c ∈ text, ¬ (c = '?' ∨ c = '#')) :
    pathState path buffer (text ++ '/' :: rest) = pathState (directoryState path buffer text) [] rest := by
  induction text generalizing path buffer with
  | nil => rfl
  | cons c others ih =>
      have later (path : List (List Char)) (buffer : List Char) := @ih path buffer
        fun other member => pathOnly other (List.mem_cons_of_mem c member)
      rw [List.cons_append, pathState, directoryState, if_neg (pathOnly c List.mem_cons_self)]
      split
      · exact later _ _
      · exact later _ _

theorem pathStartState_directory (directory : IsDirectory text) :
    pathStartState (text ++ '/' :: rest) = pathState (directorySegments text) [] rest := by
  cases text with
  | nil => rfl
  | cons c others =>
      rw [List.cons_append, pathStartState, if_pos (directory.rooted c rfl), directorySegments,
        pathState_directory fun other member => directory.pathOnly other (List.mem_cons_of_mem c member)]

/-- Behind a directory a URL in normal form is read as it stands. -/
theorem readTail_directory (directory : IsDirectory text) (nonempty : path ≠ [])
    (each : ∀ segment ∈ path, IsSegment segment) (search' : IsSearch search) :
    readTail (text ++ serializePath path ++ search) =
      { pathname := serializePath (directorySegments text ++ path), search } := by
  obtain ⟨segment, more, rfl⟩ := List.exists_cons_of_ne_nil nonempty
  have read := pathState_serialize (directorySegments text) (each segment List.mem_cons_self)
    (fun other member => each other (List.mem_cons_of_mem segment member)) (search_head search')
  have start : pathStartState (text ++ serializePath (segment :: more) ++ search) =
      (directorySegments text ++ segment :: more, search) := by
    rw [serializePath_cons, List.append_assoc, List.cons_append, pathStartState_directory directory, read]
  rw [readTail, start]
  simp only [searchOf_normal search']

/-- A URL in normal form is read as it stands. -/
theorem readTail_serialize (nonempty : path ≠ []) (each : ∀ segment ∈ path, IsSegment segment)
    (search' : IsSearch search) :
    readTail (serializePath path ++ search) = { pathname := serializePath path, search } :=
  readTail_directory .nil nonempty each search'

/-! ## Counting segments -/

theorem serializePath_append (left right : List (List Char)) :
    serializePath (left ++ right) = serializePath left ++ serializePath right :=
  List.flatMap_append

theorem slashFree_within (free : '/' ∉ segment) : ∀ c ∈ segment, decide (c ≠ '/') = true := by
  intro c member
  rw [decide_eq_true_eq]
  rintro rfl
  exact free member

theorem serializePath_head (path : List (List Char)) :
    ∀ c ∈ (serializePath path).head?, decide (c ≠ '/') = false := by
  cases path with
  | nil => simp [serializePath]
  | cons segment path => simp [serializePath_cons]

/-- Segments without slashes can be told apart. -/
theorem serializePath_injective {left right : List (List Char)} (leftFree : ∀ segment ∈ left, '/' ∉ segment)
    (rightFree : ∀ segment ∈ right, '/' ∉ segment) (same : serializePath left = serializePath right) :
    left = right := by
  induction left generalizing right with
  | nil =>
      cases right with
      | nil => rfl
      | cons segment path => cases same
  | cons first left ih =>
      cases right with
      | nil => cases same
      | cons second right =>
          rw [serializePath_cons, serializePath_cons, List.cons.injEq] at same
          obtain ⟨rfl, later⟩ := run_unique same.2 (slashFree_within (leftFree first List.mem_cons_self))
            (serializePath_head left) (slashFree_within (rightFree second List.mem_cons_self)) (serializePath_head right)
          rw [ih (fun segment member => leftFree segment (List.mem_cons_of_mem first member))
            (fun segment member => rightFree segment (List.mem_cons_of_mem first member)) later]

theorem endSegment_length (slash : Bool) (path : List (List Char)) (buffer : List Char) :
    (endSegment slash path buffer).length ≤ path.length + 1 := by
  rw [endSegment]
  split
  · split
    · rw [List.length_dropLast]
      omega
    · rw [List.length_append, List.length_dropLast, List.length_singleton]
      omega
  split
  · split
    · exact Nat.le_succ _
    · rw [List.length_append, List.length_singleton]
  · rw [List.length_append, List.length_singleton]

/-- The part of a URL's tail that belongs to the path. -/
def pathPart : List Char → List Char
  | [] => []
  | c :: rest => if c = '?' ∨ c = '#' then [] else c :: pathPart rest

/-- There are no more segments than slashes, but for one in front. -/
theorem pathState_length (path : List (List Char)) (buffer text : List Char) :
    (pathState path buffer text).1.length ≤ path.length + 1 + (pathPart text).countP isSlash := by
  induction text generalizing path buffer with
  | nil => exact endSegment_length false path buffer
  | cons c rest ih =>
      rw [pathState, pathPart]
      by_cases stop : c = '?' ∨ c = '#'
      · have noSlash : isSlash c = false := by rcases stop with rfl | rfl <;> rfl
        rw [if_pos stop, if_neg (by rw [noSlash]; decide), if_pos stop]
        exact endSegment_length false path buffer
      rw [if_neg stop, if_neg stop]
      by_cases slash : isSlash c = true
      · have ended := endSegment_length true path buffer
        have later := ih (endSegment true path buffer) []
        rw [if_pos slash, List.countP_cons_of_pos slash]
        omega
      · rw [if_neg slash, List.countP_cons_of_neg slash]
        exact ih path _

theorem pathStartState_eq (text : List Char) :
    ∃ rest, pathStartState text = pathState [] [] rest ∧
      (pathPart rest).countP isSlash ≤ (pathPart text).countP isSlash := by
  cases text with
  | nil => exact ⟨[], rfl, Nat.le_refl _⟩
  | cons c rest =>
      rw [pathStartState]
      by_cases slash : isSlash c = true
      · have inPath : ¬ (c = '?' ∨ c = '#') := by
          rintro (rfl | rfl)
          · cases slash
          · cases slash
        refine ⟨rest, if_pos slash, ?_⟩
        rw [pathPart, if_neg inPath, List.countP_cons_of_pos slash]
        exact Nat.le_succ _
      · exact ⟨c :: rest, if_neg slash, Nat.le_refl _⟩

/-- Every URL that has been read is in normal form. -/
theorem readTail_normal (text : List Char) :
    ∃ path, path ≠ [] ∧ (∀ segment ∈ path, IsSegment segment) ∧
      readTail text = { pathname := serializePath path, search := (readTail text).search } ∧
      IsSearch (readTail text).search ∧ path.length ≤ (pathPart text).countP isSlash + 1 := by
  obtain ⟨rest, start, fewer⟩ := pathStartState_eq text
  have counted := pathState_length [] [] rest
  refine ⟨(pathState [] [] rest).1, pathState_nonempty, ?_, ?_, searchOf_search _, ?_⟩
  · exact pathState_segments (by simp) (by simp [IsPathText])
  · rw [readTail, start]
  · rw [List.length_nil] at counted
    omega

theorem pathPart_dropWhile (dropped : Char → Bool) (inPath : ∀ c, dropped c = true → ¬ (c = '?' ∨ c = '#'))
    (text : List Char) :
    (pathPart (text.dropWhile dropped)).countP isSlash ≤ (pathPart text).countP isSlash := by
  induction text with
  | nil => exact Nat.le_refl _
  | cons c rest ih =>
      cases drop : dropped c with
      | true =>
          rw [List.dropWhile_cons_of_pos drop, pathPart, if_neg (inPath c drop), List.countP_cons]
          exact Nat.le_trans ih (Nat.le_add_right _ _)
      | false => rw [List.dropWhile_cons_of_neg (by rw [drop]; decide)]

theorem segment_free (normal : IsSegment segment) : '/' ∉ segment := by
  intro member
  cases (normal.text '/' member).2

/-- As many slashes as segments. -/
theorem serializePath_count (each : ∀ segment ∈ path, IsSegment segment) (search' : IsSearch search) :
    (pathPart (serializePath path ++ search)).countP isSlash = path.length := by
  have inText {segment : List Char} (written : IsPathText segment) (rest : List Char) :
      (pathPart (segment ++ rest)).countP isSlash = (pathPart rest).countP isSlash := by
    induction segment with
    | nil => rfl
    | cons c segment ih =>
        obtain ⟨noSlash, more, -⟩ := pathText_plain written List.mem_cons_self
        rw [List.cons_append, pathPart, if_neg more, List.countP_cons_of_neg (by rw [noSlash]; decide)]
        exact ih fun other member => written other (List.mem_cons_of_mem c member)
  induction path with
  | nil =>
      rcases search' with rfl | ⟨query, -, rfl, -⟩
      · rfl
      · rfl
  | cons segment path ih =>
      have later := ih fun other member => each other (List.mem_cons_of_mem segment member)
      have slash : isSlash '/' = true := rfl
      rw [serializePath_cons, List.cons_append, List.append_assoc, pathPart, if_neg (by decide),
        List.countP_cons_of_pos slash, inText (each segment List.mem_cons_self).text, later, List.length_cons]

/-! ## A second slash in front -/

theorem isQueryEncoded_low (plain : isQueryEncoded c = false) : 0x20 < c.toNat := by
  rw [isQueryEncoded, Bool.or_eq_false_iff, Bool.or_eq_false_iff, decide_eq_false_iff_not] at plain
  omega

theorem cleanInput_visible (visible : ∀ c ∈ text, 0x20 < c.toNat) : cleanInput text = text := by
  have kept {other : List Char} (each : ∀ c ∈ other, 0x20 < c.toNat) : other.dropWhile isControlOrSpace = other := by
    refine dropWhile_of_head fun c head => ?_
    have high := each c (List.mem_of_mem_head? head)
    rw [isControlOrSpace, decide_eq_false_iff_not]
    omega
  have back : ∀ c ∈ text.reverse, 0x20 < c.toNat := fun c member => visible c (List.mem_reverse.mp member)
  rw [cleanInput, kept visible, kept back, List.reverse_reverse, List.filter_eq_self]
  intro c member
  have high := visible c member
  rw [Bool.not_eq_true', isTabOrNewline]
  by_contra control
  simp only [Bool.not_eq_false, Bool.or_eq_true, decide_eq_true_eq] at control
  rcases control with (rfl | rfl) | rfl <;> exact absurd high (by decide)

theorem serialize_visible (each : ∀ segment ∈ path, IsSegment segment) (search' : IsSearch search) :
    ∀ c ∈ serializePath path ++ search, 0x20 < c.toNat := by
  intro c member
  rcases List.mem_append.mp member with inPath | inSearch
  · obtain ⟨segment, inList, inSegment⟩ := List.mem_flatMap.mp inPath
    rcases List.mem_cons.mp inSegment with rfl | inText
    · decide
    · have plain := ((each segment inList).text c inText).1
      rw [isPathEncoded, Bool.or_eq_false_iff] at plain
      exact isQueryEncoded_low plain.1
  · rcases search' with rfl | ⟨query, -, rfl, plain⟩
    · cases inSearch
    rcases List.mem_cons.mp inSearch with rfl | inQuery
    · decide
    · have unencoded := plain c inQuery
      rw [isSpecialQueryEncoded, Bool.or_eq_false_iff] at unencoded
      exact isQueryEncoded_low unencoded.1

/-- Behind an authority there are fewer segments. -/
theorem readTail_authority_ne (rest : List Char) (each : ∀ segment ∈ path, IsSegment segment)
    (search' : IsSearch search) (slashes : serializePath path ++ search = '/' :: '/' :: rest) :
    (readTail ((rest.dropWhile isSlash).dropWhile fun c => !endsAuthority c)).pathname ≠ serializePath path := by
  intro same
  obtain ⟨later, -, laterEach, read, -, fewer⟩ :=
    readTail_normal ((rest.dropWhile isSlash).dropWhile fun c => !endsAuthority c)
  have whole := serializePath_count each search'
  have slash : isSlash '/' = true := rfl
  rw [slashes, pathPart, if_neg (by decide), List.countP_cons_of_pos slash, pathPart, if_neg (by decide),
    List.countP_cons_of_pos slash] at whole
  have behindSlashes := pathPart_dropWhile isSlash (by
    rintro c slash (rfl | rfl)
    · cases slash
    · cases slash) rest
  have behindHost := pathPart_dropWhile (fun c => !endsAuthority c) (by
    rintro c inside (rfl | rfl)
    · cases inside
    · cases inside) (rest.dropWhile isSlash)
  have equal : later = path := by
    refine serializePath_injective (fun segment member => segment_free (laterEach segment member))
      (fun segment member => segment_free (each segment member)) ?_
    rw [read] at same
    exact same
  rw [equal] at fewer
  omega

/-- A text in normal form is resolved to itself unless it starts with two slashes: then it
loses its first segments to an authority. -/
theorem resolveTail_serialize (parseHost : List Char → Option String) (nonempty : path ≠ [])
    (each : ∀ segment ∈ path, IsSegment segment) (search' : IsSearch search) :
    resolveTail parseHost (serializePath path ++ search) = some { pathname := serializePath path, search } ↔
      ¬ ['/', '/'] <+: serializePath path ++ search := by
  have read := readTail_serialize nonempty each search'
  have authority (rest : List Char) := readTail_authority_ne rest each search'
  have clean := cleanInput_visible (serialize_visible each search')
  rw [resolveTail, clean]
  obtain ⟨segment, more, rfl⟩ := List.exists_cons_of_ne_nil nonempty
  have onlySlash : ∀ c ∈ (segment ++ serializePath more ++ search).head?, isSlash c = true → c = '/' := by
    intro c head slash
    rcases segment with _ | ⟨first, segment⟩
    · rcases more with _ | ⟨next, more⟩
      · rcases search' with rfl | ⟨query, -, rfl, -⟩
        · cases head
        · cases head
          cases slash
      · cases head
        rfl
    · cases head
      rw [((each _ List.mem_cons_self).text c List.mem_cons_self).2] at slash
      cases slash
  rw [serializePath_cons, List.cons_append] at read authority ⊢
  generalize segment ++ serializePath more ++ search = behind at *
  rcases behind with _ | ⟨second, rest⟩
  · simp [read]
  · by_cases slash : isSlash second = true
    · obtain rfl := onlySlash second rfl slash
      simp only [if_pos slash]
      refine iff_of_false ?_ (not_not_intro ⟨rest, rfl⟩)
      intro resolved
      obtain ⟨_, -, same⟩ := Option.map_eq_some_iff.mp resolved
      exact authority rest rfl (by rw [same])
    · simp only [if_neg slash, read, true_iff]
      rintro ⟨more, same⟩
      cases same
      exact slash rfl

end NebulaCloud.Platform
