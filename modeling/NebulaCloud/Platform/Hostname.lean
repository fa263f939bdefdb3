import NebulaCloud.Platform.Text

namespace NebulaCloud.Platform

/-! # Host names

What the host parser does with names of letters, digits and hyphens.  The tables of the
internationalized names are left open: they say of an encoded label whether it is valid,
whether it holds right-to-left text and whether it meets the criteria for names that do. -/

def isLabelLetter (c : Char) : Bool := 'a' ≤ c && c ≤ 'z'

def isLabelDigit (c : Char) : Bool := '0' ≤ c && c ≤ '9'

def isLabelEnd (c : Char) : Bool := isLabelLetter c || isLabelDigit c

/-- `/^[a-z0-9](?:[a-z0-9-]{0,61}[a-z0-9])?$/`. -/
def hostnameLabel (label : List Char) : Bool :=
  label.length ≤ 63 && label.head?.any isLabelEnd && label.getLast?.any isLabelEnd &&
    label.all fun c => isLabelEnd c || c = '-'

/-- A last label that makes the name an IPv4 address, or invalid. -/
def isNumeric (label : List Char) : Bool :=
  (label ≠ [] && label.all isLabelDigit) ||
    (['0', 'x'] <+: label && (label.drop 2).all fun c => isLabelDigit c || ('a' ≤ c && c ≤ 'f'))

def labels (name : List Char) : List (List Char) := name.splitOn '.'

/-- A name of labels that is not the name of a number. -/
structure IsDomain (name : List Char) : Prop where
  label : ∀ label ∈ labels name, hostnameLabel label = true
  notNumeric : ∀ label ∈ (labels name).getLast?, isNumeric label = false

def isEncoded (label : List Char) : Bool := ['x', 'n', '-', '-'] <+: label

structure NameTables where
  valid : List Char → Bool
  rightToLeft : List Char → Bool
  /-- The criteria that all labels of a name meet once one of them is right-to-left. -/
  directed : List Char → Bool

/-- Letters are left-to-right, and a label with digits in front is not. -/
def NameTables.isDirected (tables : NameTables) (label : List Char) : Bool :=
  if isEncoded label then tables.directed label else label.head?.any isLabelLetter

def NameTables.isRightToLeft (tables : NameTables) (label : List Char) : Bool :=
  isEncoded label && tables.rightToLeft label

/-- The names that `domain to ASCII` lets through. -/
def NameTables.admits (tables : NameTables) (name : List (List Char)) : Bool :=
  (name.all fun label => !isEncoded label || tables.valid label) &&
    (!name.any tables.isRightToLeft || name.all tables.isDirected)

/-- One part of a dotted quad in canonical form. -/
def isOctet (part : List Char) : Bool :=
  part ≠ [] && part.all isLabelDigit && part.length ≤ 3 &&
    (part.length = 1 || part.head? ≠ some '0') &&
    part.foldl (fun number digit => 10 * number + (digit.toNat - 48)) 0 ≤ 255

/-- `isIP(name) === 4`. -/
def isIPv4 (name : List Char) : Bool := (labels name).length = 4 && (labels name).all isOctet

/-- What is relied on of a host parser: it reads its own results again, these are in
lower-case ASCII, a domain in lower-case ASCII is left as it is or refused, with or
without a dot at its end, and a name of a number is an address. -/
structure HostParser (tables : NameTables) (parseHost : List Char → Option String) : Prop where
  again : ∀ {text host}, parseHost text = some host → parseHost host.toList = some host
  ascii : ∀ {text host}, parseHost text = some host →
    ∀ c ∈ host.toList, 0x20 < c.toNat ∧ c.toNat < 0x80 ∧ c.toLower = c
  domain : ∀ {name dot}, IsDomain name → (dot = [] ∨ dot = ['.']) →
    parseHost (name ++ dot) = if tables.admits (labels name) then some (String.ofList (name ++ dot)) else none
  number : ∀ {name dot host}, (∀ label ∈ labels name, hostnameLabel label = true) →
    (∃ label ∈ (labels name).getLast?, isNumeric label = true) → (dot = [] ∨ dot = ['.']) →
    parseHost (name ++ dot) = some host → isIPv4 host.toList = true

/-- `text.replace(/\.$/, '')`. -/
def dropDot (text : List Char) : List Char := if text.getLast? = some '.' then text.dropLast else text

variable {label name text dot : List Char} {tables : NameTables} {c : Char}

theorem labels_cons (free : '.' ∉ label) : labels (label ++ '.' :: name) = label :: labels name :=
  List.splitOn_append_cons_self_of_not_mem free name

theorem labels_mem (member : c ∈ name) : c = '.' ∨ ∃ label ∈ labels name, c ∈ label := by
  induction name with
  | nil => cases member
  | cons first rest ih =>
      obtain ⟨head, others, split⟩ := List.exists_cons_of_ne_nil (List.splitOn_ne_nil '.' rest)
      rw [labels, List.splitOn_cons_eq_if_modifyHead]
      rw [labels, split] at ih
      rw [split]
      rcases List.mem_cons.mp member with rfl | later
      · by_cases isDot : c = '.'
        · exact .inl isDot
        · rw [if_neg (by simpa using isDot)]
          exact .inr ⟨_, List.mem_cons_self, List.mem_cons_self⟩
      · rcases ih later with isDot | ⟨label, inLabels, inLabel⟩
        · exact .inl isDot
        right
        split
        · exact ⟨label, List.mem_cons_of_mem _ inLabels, inLabel⟩
        · rcases List.mem_cons.mp inLabels with rfl | inOthers
          · exact ⟨_, List.mem_cons_self, List.mem_cons_of_mem first inLabel⟩
          · exact ⟨label, List.mem_cons_of_mem _ inOthers, inLabel⟩

/-- The characters of a domain. -/
def isDomainChar (c : Char) : Bool := isLabelEnd c || c = '-' || c = '.'

theorem isDomainChar_ascii (domain : isDomainChar c = true) : c.toNat < 128 := by
  have bound {last : Char} (ascii : last.toNat < 128) (le : c ≤ last) : c.toNat < 128 := Nat.lt_of_le_of_lt le ascii
  simp only [isDomainChar, isLabelEnd, isLabelLetter, isLabelDigit, Bool.or_eq_true, Bool.and_eq_true,
    decide_eq_true_eq] at domain
  rcases domain with ((⟨-, letter⟩ | ⟨-, digit⟩) | rfl) | rfl
  · exact bound (by decide) letter
  · exact bound (by decide) digit
  · decide
  · decide

theorem isDomainChar_lower (domain : isDomainChar c = true) : 0x20 < c.toNat ∧ c.toNat < 0x80 ∧ c.toLower = c :=
  ascii_forall (fun c => isDomainChar c = true → 0x20 < c.toNat ∧ c.toNat < 0x80 ∧ c.toLower = c)
    (by decide) (isDomainChar_ascii domain) domain

theorem label_char (valid : hostnameLabel label = true) (member : c ∈ label) : isDomainChar c = true ∧ c ≠ '.' := by
  simp only [hostnameLabel, Bool.and_eq_true, List.all_eq_true] at valid
  have allowed := valid.2 c member
  refine ⟨by rw [isDomainChar, allowed, Bool.true_or], ?_⟩
  rintro rfl
  revert allowed
  decide

theorem domain_char (valid : ∀ label ∈ labels name, hostnameLabel label = true) (member : c ∈ name) :
    isDomainChar c = true := by
  rcases labels_mem member with rfl | ⟨label, inLabels, inLabel⟩
  · rfl
  · exact (label_char (valid label inLabels) inLabel).1

theorem domain_last (valid : ∀ label ∈ labels name, hostnameLabel label = true) : name.getLast? ≠ some '.' := by
  intro last
  obtain ⟨front, rfl⟩ := List.getLast?_eq_some_iff.mp last
  have empty : [] ∈ labels (front ++ ['.']) := by
    rw [labels, List.splitOn_append_cons_self]
    exact List.mem_append_right _ (by simp)
  exact absurd (valid [] empty) (by decide)

theorem dropDot_append (last : name.getLast? ≠ some '.') (ending : dot = [] ∨ dot = ['.']) :
    dropDot (name ++ dot) = name := by
  rcases ending with rfl | rfl
  · rw [List.append_nil, dropDot, if_neg last]
  · rw [dropDot, if_pos List.getLast?_concat, List.dropLast_concat]

theorem dropDot_split (text : List Char) : ∃ dot, (dot = [] ∨ dot = ['.']) ∧ text = dropDot text ++ dot := by
  rw [dropDot]
  split
  · rename_i last
    obtain ⟨front, rfl⟩ := List.getLast?_eq_some_iff.mp last
    exact ⟨['.'], .inr rfl, by rw [List.dropLast_concat]⟩
  · exact ⟨[], .inl rfl, (List.append_nil text).symm⟩

/-! ## A host parser for domains -/

/-- A host parser that reads domains in lower-case ASCII and nothing else. -/
def readDomain (tables : NameTables) (text : List Char) : Option String :=
  let name := labels (dropDot text)
  if name.all hostnameLabel && !name.getLast?.any isNumeric && tables.admits name then some (String.ofList text)
  else none

theorem readDomain_eq {host : String} (read : readDomain tables text = some host) :
    host.toList = text ∧ (∀ label ∈ labels (dropDot text), hostnameLabel label = true) ∧
      ∀ label ∈ (labels (dropDot text)).getLast?, isNumeric label = false := by
  rw [readDomain] at read
  split at read
  · rename_i admitted
    cases read
    simp only [Bool.and_eq_true, List.all_eq_true, Bool.not_eq_true'] at admitted
    refine ⟨String.toList_ofList, admitted.1.1, fun label last => ?_⟩
    have known := admitted.1.2
    rw [Option.mem_def.mp last] at known
    exact known
  · cases read

theorem readDomain_domain (domain : IsDomain name) (ending : dot = [] ∨ dot = ['.']) :
    readDomain tables (name ++ dot) =
      if tables.admits (labels name) then some (String.ofList (name ++ dot)) else none := by
  have each : (labels name).all hostnameLabel = true := List.all_eq_true.mpr domain.label
  have last : (labels name).getLast?.any isNumeric = false := by
    rcases found : (labels name).getLast? with _ | label
    · rfl
    · exact domain.notNumeric label found
  simp only [readDomain, dropDot_append (domain_last domain.label) ending, each, last, Bool.not_false, Bool.true_and]

/-- It is a host parser like those that are relied on. -/
theorem readDomain_hostParser (tables : NameTables) : HostParser tables (readDomain tables) where
  again := by
    intro text host read
    rw [(readDomain_eq read).1, read]
  ascii := by
    intro text host read c member
    obtain ⟨same, each, -⟩ := readDomain_eq read
    obtain ⟨dot, ending, split⟩ := dropDot_split text
    rw [same, split] at member
    refine isDomainChar_lower ?_
    rcases List.mem_append.mp member with inName | inDot
    · exact domain_char each inName
    · rcases ending with rfl | rfl
      · cases inDot
      · rw [List.mem_singleton.mp inDot]
        rfl
  domain := fun domain ending => readDomain_domain domain ending
  number := by
    rintro name dot host each ⟨label, last, numeric⟩ ending read
    obtain ⟨-, -, notNumeric⟩ := readDomain_eq read
    rw [dropDot_append (domain_last each) ending] at notNumeric
    rw [notNumeric label last] at numeric
    cases numeric

end NebulaCloud.Platform
