import Mathlib.Data.List.Basic

namespace NebulaCloud.Data

/-! # Comma-separated values

The reader of RFC 4180, one character at a time.  Records end with CR LF, the last one
may end with the text, and a cell in quotes holds any characters, with its quotes
doubled. -/

/-- Where in a cell the reader stands: `closed` is behind a quote that may end the cell,
`ended` behind the carriage return of a record. -/
inductive CsvPlace
  | start | plain | quoted | closed | ended
deriving DecidableEq

/-- `field` and `cells` are what has been read of the cell and of the record. -/
def readCsv : CsvPlace → List Char → List (List Char) → List Char → Option (List (List (List Char)))
  | place, field, cells, [] =>
      if place = .quoted ∨ place = .ended then none
      else if place = .start ∧ cells = [] then some []
      else some [cells ++ [field]]
  | place, field, cells, c :: rest =>
      if place = .ended then
        if c = '\n' then (readCsv .start [] [] rest).map ((cells ++ [field]) :: ·) else none
      else if place = .quoted then
        if c = '"' then readCsv .closed field cells rest else readCsv .quoted (field ++ [c]) cells rest
      else if c = '"' then
        match place with
        | .start => readCsv .quoted [] cells rest
        | .closed => readCsv .quoted (field ++ ['"']) cells rest
        | _ => none
      else if c = ',' then readCsv .start [] (cells ++ [field]) rest
      else if c = '\r' then readCsv .ended field cells rest
      else if c = '\n' ∨ place = .closed then none
      else readCsv .plain (field ++ [c]) cells rest

/-- The record of a blank line. -/
def blankRecord : List (List Char) := [[]]

/-- The records of a text without the blank lines at its end. -/
def parseCsv (text : List Char) : Option (List (List (List Char))) :=
  (readCsv .start [] [] text).map fun records => (records.reverse.dropWhile (· = blankRecord)).reverse

def doubleQuotes (text : List Char) : List Char := text.flatMap fun c => if c = '"' then ['"', '"'] else [c]

def quotedCell (text : List Char) : List Char := '"' :: (doubleQuotes text ++ ['"'])

def quotedRecord (cells : List (List Char)) : List Char := [','].intercalate (cells.map quotedCell)

def crlf : List Char := ['\r', '\n']

section Written

variable {field text rest : List Char} {cells before : List (List Char)} {records : List (List (List Char))}

theorem readCsv_doubleQuotes :
    readCsv .quoted field cells (doubleQuotes text ++ '"' :: rest) = readCsv .closed (field ++ text) cells rest := by
  induction text generalizing field with
  | nil => simp [doubleQuotes, readCsv]
  | cons c text ih =>
      have later := @ih (field ++ [c])
      rw [List.append_assoc, List.singleton_append] at later
      rw [← later, doubleQuotes, List.flatMap_cons, ← doubleQuotes, List.append_assoc]
      by_cases quote : c = '"'
      · subst quote
        rfl
      · simp [readCsv, quote]

theorem readCsv_quotedCell :
    readCsv .start [] cells (quotedCell text ++ rest) = readCsv .closed text cells rest := by
  have opened : readCsv .start [] cells ('"' :: (doubleQuotes text ++ '"' :: rest)) =
      readCsv .quoted [] cells (doubleQuotes text ++ '"' :: rest) := rfl
  rw [quotedCell, List.cons_append, List.append_assoc, List.singleton_append, opened, readCsv_doubleQuotes,
    List.nil_append]

theorem quotedRecord_cons_cons {cell next : List Char} {others : List (List Char)} :
    quotedRecord (cell :: next :: others) = quotedCell cell ++ ',' :: quotedRecord (next :: others) := by
  simp [quotedRecord, List.intercalate]

/-- The cells of a record are read up to its end. -/
theorem readCsv_quotedRecord (nonempty : cells ≠ []) :
    readCsv .start [] before (quotedRecord cells ++ (crlf ++ rest)) =
      (readCsv .start [] [] rest).map ((before ++ cells) :: ·) := by
  induction cells generalizing before with
  | nil => exact absurd rfl nonempty
  | cons cell others ih =>
      cases others with
      | nil =>
          have ended : readCsv .closed cell before (crlf ++ rest) =
              (readCsv .start [] [] rest).map ((before ++ [cell]) :: ·) := rfl
          rw [quotedRecord, List.map_singleton, List.intercalate_singleton, readCsv_quotedCell, ended]
      | cons next others =>
          have comma : readCsv .closed cell before (',' :: (quotedRecord (next :: others) ++ (crlf ++ rest))) =
              readCsv .start [] (before ++ [cell]) (quotedRecord (next :: others) ++ (crlf ++ rest)) := rfl
          rw [quotedRecord_cons_cons, List.append_assoc, readCsv_quotedCell, List.cons_append, comma,
            ih (List.cons_ne_nil next others), List.append_assoc, List.singleton_append]

theorem readCsv_records (nonempty : ∀ cells ∈ records, cells ≠ []) :
    readCsv .start [] [] (records.flatMap (fun cells => quotedRecord cells ++ crlf) ++ rest) =
      (readCsv .start [] [] rest).map (records ++ ·) := by
  induction records with
  | nil => simp
  | cons cells others ih =>
      have later := ih fun other member => nonempty other (List.mem_cons_of_mem cells member)
      rw [List.flatMap_cons, List.append_assoc, List.append_assoc,
        readCsv_quotedRecord (nonempty cells List.mem_cons_self), later]
      cases readCsv .start [] [] rest <;> rfl

/-- Quoted records are read back as they were, with or without a blank line behind them. -/
theorem parseCsv_records (wide : ∀ cells ∈ records, 2 ≤ cells.length) (blank : Bool) :
    parseCsv (records.flatMap (fun cells => quotedRecord cells ++ crlf) ++ if blank then crlf else []) =
      some records := by
  have nonempty : ∀ cells ∈ records, cells ≠ [] := by
    rintro cells member rfl
    exact absurd (wide [] member) (by decide)
  have kept : (records.reverse.dropWhile (· = blankRecord)).reverse = records := by
    cases last : records.reverse with
    | nil => rw [List.dropWhile_nil, List.reverse_nil, List.reverse_eq_nil_iff.mp last]
    | cons cells others =>
        have member : cells ∈ records := by
          rw [← List.mem_reverse, last]
          exact List.mem_cons_self
        have notBlank : ¬ cells = blankRecord := by
          rintro rfl
          exact absurd (wide _ member) (by decide)
        rw [List.dropWhile_cons_of_neg (by simpa using notBlank), ← last, List.reverse_reverse]
  have tail : readCsv .start [] [] (if blank then crlf else []) = some (if blank then [blankRecord] else []) := by
    cases blank <;> rfl
  have dropped : (records ++ if blank then [blankRecord] else []).reverse.dropWhile (· = blankRecord) =
      records.reverse.dropWhile (· = blankRecord) := by
    cases blank with
    | false => simp
    | true => simp
  rw [parseCsv, readCsv_records nonempty, tail, Option.map_some, Option.map_some, dropped, kept]

end Written

end NebulaCloud.Data
