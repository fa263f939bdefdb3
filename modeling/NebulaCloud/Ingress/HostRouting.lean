import NebulaCloud.Platform.HttpUrl

namespace NebulaCloud.Ingress

open NebulaCloud.Platform

/-! # Host names of published services

The address of a publication is made with the `hostname` setter of a URL, which refuses a
host silently; requests are routed by the suffix of their host name. -/

section Code

variable (lower : List Char → List Char) (parseHost : List Char → Option String)

def normalizeHostname (value : List Char) : List Char := dropDot (lower (trimList value))

/-- An IPv6 address has colons, and no label does. -/
def validHostname (value : List Char) : Bool :=
  value.length ≤ 253 && '.' ∈ value && !isIPv4 value && (labels value).all hostnameLabel

structure PublishedServiceOrigin where
  origin : List Char
  hostnameSuffix : List Char
deriving DecidableEq, Repr

/-- `parsesElsewhere` tells whether a text is a URL with another scheme. -/
def parsePublishedServiceOrigin (parsesElsewhere : List Char → Bool) (raw : Option (List Char)) :
    Except String (Option PublishedServiceOrigin) :=
  match raw.map trimList with
  | none | some [] => .ok none
  | some value =>
      match parseHttpUrl parseHost value with
      | none =>
          if parsesElsewhere value then
            .error "NEBULA_PUBLISHED_SERVICE_ORIGIN must be a clean HTTP(S) origin with a DNS hostname"
          else .error "NEBULA_PUBLISHED_SERVICE_ORIGIN must be an absolute HTTP(S) origin"
      | some url =>
          let hostnameSuffix := normalizeHostname lower url.hostname.toList
          if url.username ≠ [] ∨ url.password ≠ [] ∨ url.pathname ≠ ['/'] ∨ url.search ≠ [] ∨ url.hash ≠ [] ∨
              validHostname hostnameSuffix = false then
            .error "NEBULA_PUBLISHED_SERVICE_ORIGIN must be a clean HTTP(S) origin with a DNS hostname"
          else .ok (some { origin := (url.setHostname parseHost hostnameSuffix).origin, hostnameSuffix })

def urlForSlug (origin : PublishedServiceOrigin) (slug : List Char) : Except String (List Char) :=
  let normalizedSlug := lower (trimList slug)
  if hostnameLabel normalizedSlug = false then .error "Published service slug is not a valid DNS label"
  else
    match parseHttpUrl parseHost origin.origin with
    | none => .error "Invalid URL"
    | some published =>
        .ok (published.setHostname parseHost (normalizedSlug ++ '.' :: origin.hostnameSuffix)).origin

inductive PublishedServiceHostMatch
  | none
  | invalid
  | service (slug : List Char)
deriving DecidableEq, Repr

def matchPublishedServiceHostname (hostname : List Char) (configuredSuffix : Option (List Char)) :
    PublishedServiceHostMatch :=
  let suffix := normalizeHostname lower (configuredSuffix.getD [])
  if suffix = [] then .none
  else
    let candidate := normalizeHostname lower hostname
    if candidate = suffix then .invalid
    else
      let ending := '.' :: suffix
      if ending <:+ candidate then
        let slug := candidate.take (candidate.length - ending.length)
        if hostnameLabel slug then .service slug else .invalid
      else .none

end Code

/-! ## What routing is for -/

/-- `toLowerCase` of ASCII text. -/
def LowersAscii (lower : List Char → List Char) : Prop :=
  ∀ text, (∀ c ∈ text, c.toNat < 0x80) → lower text = text.map Char.toLower

structure IsHexSlug (slug : List Char) : Prop where
  nonempty : slug ≠ []
  short : slug.length ≤ 63
  hex : ∀ c ∈ slug, isLabelDigit c = true ∨ ('a' ≤ c ∧ c ≤ 'f')

/-- The host of the address of a slug is matched to that slug. -/
def RoutesBack (lower : List Char → List Char) (parseHost : List Char → Option String)
    (origin : PublishedServiceOrigin) (slug : List Char) : Prop :=
  ∃ address url, urlForSlug lower parseHost origin slug = .ok address ∧ parseHttpUrl parseHost address = some url ∧
    matchPublishedServiceHostname lower url.hostname.toList (some origin.hostnameSuffix) = .service slug

/-- The suffix itself, or a name below it. -/
def IsUnder (suffix name : List Char) : Prop := name = suffix ∨ '.' :: suffix <:+ name

/-- Of all host names, in any letter case and with or without a dot at the end, the ones
under the suffix are never passed over, a service is found where one valid label stands in
front of it, and all others are passed over. -/
def FailsClosed (lower : List Char → List Char) (suffix : List Char) : Prop :=
  ∀ hostname name, name.getLast? ≠ some '.' →
    (lower (trimList hostname) = name ∨ lower (trimList hostname) = name ++ ['.']) →
    (matchPublishedServiceHostname lower hostname (some suffix) = .none ↔ ¬ IsUnder suffix name) ∧
      ∀ slug, matchPublishedServiceHostname lower hostname (some suffix) = .service slug ↔
        hostnameLabel slug = true ∧ name = slug ++ '.' :: suffix

/-! ## Names that stay as they are -/

variable {lower : List Char → List Char} {parseHost : List Char → Option String} {tables : NameTables}
  {name suffix slug hostname text : List Char} {origin : PublishedServiceOrigin}

/-- Visible text in lower-case ASCII is not changed. -/
theorem lower_plain (lowers : LowersAscii lower)
    (plain : ∀ c ∈ text, 0x20 < c.toNat ∧ c.toNat < 0x80 ∧ c.toLower = c) : lower (trimList text) = text := by
  have visible : ∀ c ∈ text, isWhiteSpace c = false := fun c member =>
    ascii_forall (fun c => 0x20 < c.toNat → isWhiteSpace c = false) (by decide +kernel)
      (plain c member).2.1 (plain c member).1
  rw [trimList_visible visible, lowers text fun c member => (plain c member).2.1]
  exact (List.map_congr_left fun c member => (plain c member).2.2).trans (List.map_id text)

theorem normalizeHostname_domain (lowers : LowersAscii lower)
    (valid : ∀ label ∈ labels name, hostnameLabel label = true) : normalizeHostname lower name = name := by
  have plain := lower_plain lowers fun c member => isDomainChar_lower (domain_char valid member)
  have same := dropDot_append (domain_last valid) (.inl rfl)
  rw [normalizeHostname, plain]
  rwa [List.append_nil] at same

theorem hex_end {c : Char} (hex : isLabelDigit c = true ∨ ('a' ≤ c ∧ c ≤ 'f')) : isLabelEnd c = true := by
  rcases hex with digit | ⟨low, high⟩
  · rw [isLabelEnd, digit, Bool.or_true]
  · have letter : isLabelLetter c = true := by
      rw [isLabelLetter, Bool.and_eq_true, decide_eq_true_eq, decide_eq_true_eq]
      exact ⟨low, Char.le_trans high (by decide)⟩
    rw [isLabelEnd, letter, Bool.true_or]

theorem hexSlug_label (hex : IsHexSlug slug) : hostnameLabel slug = true := by
  have ends (c : Char) (member : c ∈ slug) := hex_end (hex.hex c member)
  simp only [hostnameLabel, Bool.and_eq_true, decide_eq_true_eq, List.all_eq_true, Option.any_eq_true]
  refine ⟨⟨⟨hex.short, ?_⟩, ?_⟩, fun c member => by rw [ends c member]; rfl⟩
  · exact ⟨slug.head hex.nonempty, List.head?_eq_some_head hex.nonempty, ends _ (List.head_mem hex.nonempty)⟩
  · exact ⟨slug.getLast hex.nonempty, List.getLast?_eq_some_getLast hex.nonempty, ends _ (List.getLast_mem hex.nonempty)⟩

/-- There is no `x` among the hexadecimal digits. -/
theorem hexSlug_unencoded (hex : IsHexSlug slug) : isEncoded slug = false := by
  rw [isEncoded, decide_eq_false_iff_not]
  rintro ⟨rest, rfl⟩
  rcases hex.hex 'x' List.mem_cons_self with digit | ⟨-, high⟩
  · exact absurd digit (by decide)
  · exact absurd high (by decide)

theorem label_free (valid : hostnameLabel slug = true) : '.' ∉ slug :=
  fun member => (label_char valid member).2 rfl

/-! ## The configured origin -/

/-- What has been accepted: a domain that the host parser reads, and the origin of a URL
with that host. -/
structure IsAccepted (tables : NameTables) (origin : PublishedServiceOrigin) (url : HttpUrl) : Prop where
  domain : IsDomain origin.hostnameSuffix
  nonempty : origin.hostnameSuffix ≠ []
  admitted : tables.admits (labels origin.hostnameSuffix) = true
  address : origin.origin = url.origin
  hostname : url.hostname = String.ofList origin.hostnameSuffix
  port : IsUrlPort url.secure url.port

/-- The name of an address is no name that passes the check. -/
theorem notNumeric_of_valid {dot : List Char} {host : String} (standard : HostParser tables parseHost)
    (valid : validHostname suffix = true) (ending : dot = [] ∨ dot = ['.'])
    (read : parseHost (suffix ++ dot) = some host) (same : host.toList = suffix ++ dot) :
    ∀ label ∈ (labels suffix).getLast?, isNumeric label = false := by
  intro label last
  simp only [validHostname, Bool.and_eq_true, Bool.not_eq_true', List.all_eq_true] at valid
  by_contra numeric
  have address := standard.number valid.2 ⟨label, last, Bool.not_eq_false _ |>.mp numeric⟩ ending read
  rw [same] at address
  rcases ending with rfl | rfl
  · rw [List.append_nil, valid.1.2] at address
    cases address
  · rw [isIPv4, labels, List.splitOn_append_cons_self, Bool.and_eq_true, List.all_eq_true] at address
    exact absurd (address.2 [] (List.mem_append_right _ (by simp))) (by decide)

theorem parsePublishedServiceOrigin_accepted {parsesElsewhere : List Char → Bool} {raw : Option (List Char)}
    (standard : HostParser tables parseHost) (lowers : LowersAscii lower)
    (accepted : parsePublishedServiceOrigin lower parseHost parsesElsewhere raw = .ok (some origin)) :
    ∃ url, IsAccepted tables origin url := by
  rw [parsePublishedServiceOrigin] at accepted
  split at accepted
  · cases accepted
  · cases accepted
  split at accepted
  · split at accepted <;> cases accepted
  rename_i url read
  simp only at accepted
  split at accepted
  · cases accepted
  rename_i clean
  cases accepted
  simp only [not_or, Bool.not_eq_false] at clean
  obtain ⟨-, -, -, -, -, valid⟩ := clean
  obtain ⟨⟨buffer, found⟩, port⟩ := parseHttpUrl_parts read
  have again := standard.again found
  obtain ⟨dot, ending, split⟩ := dropDot_split url.hostname.toList
  have normal : normalizeHostname lower url.hostname.toList = dropDot url.hostname.toList := by
    rw [normalizeHostname, lower_plain lowers (standard.ascii found)]
  rw [normal] at valid ⊢
  generalize dropDot url.hostname.toList = suffix at *
  have each : ∀ label ∈ labels suffix, hostnameLabel label = true := by
    simp only [validHostname, Bool.and_eq_true, List.all_eq_true] at valid
    exact valid.2
  have domain : IsDomain suffix :=
    ⟨each, notNumeric_of_valid standard valid ending (by rw [← split, again]) split⟩
  have nonempty : suffix ≠ [] := by
    rintro rfl
    cases valid
  have admitted : tables.admits (labels suffix) = true := by
    have known := standard.domain domain ending
    rw [← split, again] at known
    by_contra refused
    rw [if_neg refused] at known
    cases known
  have taken := standard.domain domain (.inl rfl)
  rw [List.append_nil, if_pos admitted] at taken
  refine ⟨{ url with hostname := String.ofList suffix }, domain, nonempty, admitted, ?_, rfl, port⟩
  simp only [setHostname_domain (fun c member => domain_char each member) nonempty, taken, Option.elim_some]

/-! ## Matching -/

theorem matchPublishedServiceHostname_eq (normal : normalizeHostname lower hostname = name)
    (suffixNormal : normalizeHostname lower suffix = suffix) (nonempty : suffix ≠ []) :
    matchPublishedServiceHostname lower hostname (some suffix) =
      if name = suffix then .invalid
      else if '.' :: suffix <:+ name then
        if hostnameLabel (name.take (name.length - (suffix.length + 1))) then
          .service (name.take (name.length - (suffix.length + 1)))
        else .invalid
      else .none := by
  rw [matchPublishedServiceHostname]
  simp only [Option.getD_some, suffixNormal, nonempty, normal, List.length_cons, if_false]

theorem take_label (label suffix : List Char) :
    (label ++ '.' :: suffix).take ((label ++ '.' :: suffix).length - (suffix.length + 1)) = label := by
  rw [List.length_append, List.length_cons, Nat.add_sub_cancel, List.take_left]

theorem ne_suffix (label suffix : List Char) : label ++ '.' :: suffix ≠ suffix := by
  intro same
  have lengths := congrArg List.length same
  rw [List.length_append, List.length_cons] at lengths
  omega

/-- One label in front of the suffix is a service. -/
theorem matchPublishedServiceHostname_service (label : hostnameLabel slug = true)
    (normal : normalizeHostname lower hostname = slug ++ '.' :: suffix)
    (suffixNormal : normalizeHostname lower suffix = suffix) (nonempty : suffix ≠ []) :
    matchPublishedServiceHostname lower hostname (some suffix) = .service slug := by
  rw [matchPublishedServiceHostname_eq normal suffixNormal nonempty, if_neg (ne_suffix slug suffix),
    if_pos (List.suffix_append slug _), take_label, if_pos label]

theorem failsClosed (suffixNormal : normalizeHostname lower suffix = suffix) (nonempty : suffix ≠ []) :
    FailsClosed lower suffix := by
  intro hostname name last ends
  have normal : normalizeHostname lower hostname = name := by
    rw [normalizeHostname]
    rcases ends with same | same
    · rw [same, dropDot, if_neg last]
    · rw [same, dropDot_append last (.inr rfl)]
  rw [matchPublishedServiceHostname_eq normal suffixNormal nonempty, IsUnder]
  by_cases same : name = suffix
  · subst same
    refine ⟨by simp, fun slug => ?_⟩
    rw [if_pos rfl]
    refine iff_of_false (by simp) ?_
    rintro ⟨-, longer⟩
    exact ne_suffix slug name longer.symm
  rw [if_neg same]
  by_cases under : '.' :: suffix <:+ name
  · rw [if_pos under]
    obtain ⟨front, rfl⟩ := under
    rw [take_label]
    refine ⟨?_, fun slug => ?_⟩
    · refine iff_of_false ?_ (not_not_intro (.inr (List.suffix_append front _)))
      split <;> simp
    · rw [List.append_left_inj]
      split
      · rename_i label
        rw [PublishedServiceHostMatch.service.injEq]
        exact ⟨fun equal => ⟨equal ▸ label, equal⟩, fun found => found.2⟩
      · rename_i noLabel
        refine iff_of_false (by simp) ?_
        rintro ⟨label, rfl⟩
        exact noLabel label
  · rw [if_neg under]
    refine ⟨by simp [same, under], fun slug => iff_of_false (by simp) ?_⟩
    rintro ⟨-, rfl⟩
    exact under (List.suffix_append slug _)

/-! ## Addresses -/

/-- Whether a slug may stand in front of the suffix. -/
theorem admits_slug (hex : IsHexSlug slug) (admitted : tables.admits (labels suffix) = true) :
    tables.admits (slug :: labels suffix) = true ↔
      (∀ label ∈ labels suffix, tables.isRightToLeft label = false) ∨ slug.head?.any isLabelLetter = true := by
  have unencoded := hexSlug_unencoded hex
  have noneRightToLeft : (∀ label ∈ labels suffix, tables.isRightToLeft label = false) ↔
      (labels suffix).any tables.isRightToLeft = false := by
    simp only [List.any_eq_false, Bool.not_eq_true]
  have slugRightToLeft : tables.isRightToLeft slug = false := by rw [NameTables.isRightToLeft, unencoded, Bool.false_and]
  have slugDirected : tables.isDirected slug = slug.head?.any isLabelLetter := by
    rw [NameTables.isDirected, unencoded]
    rfl
  rw [NameTables.admits, Bool.and_eq_true] at admitted
  obtain ⟨valid, directed⟩ := admitted
  rw [noneRightToLeft, NameTables.admits, List.all_cons, List.any_cons, List.all_cons, unencoded, valid, slugRightToLeft,
    slugDirected]
  cases rightToLeft : (labels suffix).any tables.isRightToLeft with
  | false => simp
  | true =>
      rw [rightToLeft] at directed
      simp only [Bool.not_true, Bool.false_or] at directed
      simp [directed]

theorem isDomain_slug (domain : IsDomain suffix) (label : hostnameLabel slug = true) : IsDomain (slug ++ '.' :: suffix) := by
  have split : labels (slug ++ '.' :: suffix) = slug :: labels suffix := labels_cons (label_free label)
  have some : labels suffix ≠ [] := List.splitOn_ne_nil '.' suffix
  constructor
  · intro other member
    rw [split] at member
    rcases List.mem_cons.mp member with rfl | inSuffix
    · exact label
    · exact domain.label other inSuffix
  · rw [split, List.getLast?_cons_of_ne_nil some]
    exact domain.notNumeric

/-- The host of a slug's address: the slug in front of the suffix where the host parser
reads that name, and the bare suffix where it does not. -/
theorem urlForSlug_accepted {url : HttpUrl} (standard : HostParser tables parseHost) (lowers : LowersAscii lower)
    (accepted : IsAccepted tables origin url) (hex : IsHexSlug slug) :
    ∃ address url, urlForSlug lower parseHost origin slug = .ok address ∧ parseHttpUrl parseHost address = some url ∧
      url.hostname.toList =
        if tables.admits (slug :: labels origin.hostnameSuffix) then slug ++ '.' :: origin.hostnameSuffix
        else origin.hostnameSuffix := by
  have label := hexSlug_label hex
  have suffixChar (c : Char) (member : c ∈ origin.hostnameSuffix) := domain_char accepted.domain.label member
  have own : url.hostname.toList = origin.hostnameSuffix := by rw [accepted.hostname, String.toList_ofList]
  have readSuffix : parseHost origin.hostnameSuffix = some url.hostname := by
    have read := standard.domain accepted.domain (.inl rfl)
    rw [List.append_nil, if_pos accepted.admitted] at read
    rw [read, accepted.hostname]
  have normalSlug : lower (trimList slug) = slug :=
    lower_plain lowers fun c member => isDomainChar_lower (label_char label member).1
  have published : parseHttpUrl parseHost url.origin =
      some { url with username := [], password := [], pathname := ['/'], search := [], hash := [] } :=
    parseHttpUrl_origin (own.symm ▸ suffixChar) (own.symm ▸ accepted.nonempty) (own.symm ▸ readSuffix) accepted.port
  have domain := isDomain_slug accepted.domain label
  have read := standard.domain domain (.inl rfl)
  rw [List.append_nil, labels_cons (label_free label)] at read
  have nonempty : slug ++ '.' :: origin.hostnameSuffix ≠ [] := by simp
  have nameChar (c : Char) (member : c ∈ slug ++ '.' :: origin.hostnameSuffix) := domain_char domain.label member
  simp only [urlForSlug, normalSlug, label, Bool.true_eq_false, if_false, accepted.address, published,
    setHostname_domain nameChar nonempty, read]
  by_cases admits : tables.admits (slug :: labels origin.hostnameSuffix) = true
  · simp only [if_pos admits] at read ⊢
    have text : (String.ofList (slug ++ '.' :: origin.hostnameSuffix)).toList = slug ++ '.' :: origin.hostnameSuffix :=
      String.toList_ofList
    refine ⟨_, _, rfl, parseHttpUrl_origin ?_ ?_ ?_ accepted.port, ?_⟩
    · exact text.symm ▸ nameChar
    · exact text.symm ▸ nonempty
    · exact text.symm ▸ read
    · exact text
  · simp only [if_neg admits]
    exact ⟨_, _, rfl, published, own⟩

/-- The address of a slug leads back to it exactly if the name may be written that way:
under a suffix with right-to-left labels the slug has to start with a letter.  Everything
else fails closed. -/
theorem hostRouting_iff {parsesElsewhere : List Char → Bool} {raw : Option (List Char)}
    (standard : HostParser tables parseHost) (lowers : LowersAscii lower)
    (accepted : parsePublishedServiceOrigin lower parseHost parsesElsewhere raw = .ok (some origin))
    (hex : IsHexSlug slug) :
    (RoutesBack lower parseHost origin slug ∧ FailsClosed lower origin.hostnameSuffix) ↔
      (∀ label ∈ labels origin.hostnameSuffix, tables.isRightToLeft label = false) ∨
        slug.head?.any isLabelLetter = true := by
  obtain ⟨url, known⟩ := parsePublishedServiceOrigin_accepted standard lowers accepted
  have suffixNormal := normalizeHostname_domain lowers known.domain.label
  have label := hexSlug_label hex
  have domain := isDomain_slug known.domain label
  have closed := failsClosed suffixNormal known.nonempty
  obtain ⟨address, published, built, read, hostname⟩ := urlForSlug_accepted standard lowers known hex
  rw [← admits_slug hex known.admitted, and_iff_left closed]
  constructor
  · rintro ⟨other, parsed, otherBuilt, otherRead, matched⟩
    rw [built] at otherBuilt
    cases otherBuilt
    rw [read] at otherRead
    cases otherRead
    by_contra refused
    rw [hostname, if_neg refused, matchPublishedServiceHostname_eq suffixNormal suffixNormal known.nonempty,
      if_pos rfl] at matched
    cases matched
  · intro admits
    rw [if_pos admits] at hostname
    refine ⟨address, published, built, read, ?_⟩
    rw [hostname]
    exact matchPublishedServiceHostname_service label (normalizeHostname_domain lowers domain.label) suffixNormal
      known.nonempty

/-- Tables with one right-to-left label. -/
def hebrewTables : NameTables where
  valid _ := true
  rightToLeft label := label = "xn--4dbrk0ce".toList
  directed _ := true

/-- `https://apps.nubols.com` and a slug that starts with a digit. -/
theorem hostRouting_opaque :
    parsePublishedServiceOrigin (List.map Char.toLower) (readDomain hebrewTables) (fun _ => false)
        (some "https://apps.nubols.com".toList) =
      .ok (some ⟨"https://apps.nubols.com".toList, "apps.nubols.com".toList⟩) ∧
    RoutesBack (List.map Char.toLower) (readDomain hebrewTables)
        ⟨"https://apps.nubols.com".toList, "apps.nubols.com".toList⟩ "1a2b".toList ∧
      FailsClosed (List.map Char.toLower) "apps.nubols.com".toList := by
  have accepted : parsePublishedServiceOrigin (List.map Char.toLower) (readDomain hebrewTables) (fun _ => false)
      (some "https://apps.nubols.com".toList) =
      .ok (some ⟨"https://apps.nubols.com".toList, "apps.nubols.com".toList⟩) := by decide +kernel
  have hex : IsHexSlug "1a2b".toList := ⟨by decide +kernel, by decide +kernel, List.all_iff_forall_prop.mp (by decide +kernel)⟩
  exact ⟨accepted, (hostRouting_iff (readDomain_hostParser hebrewTables) (fun _ _ => rfl) accepted hex).mpr
    (.inl (by decide +kernel))⟩

/-- `https://apps.xn--4dbrk0ce`: the setter refuses the slug's name, and the address is
that of the suffix. -/
theorem slug_refused :
    parsePublishedServiceOrigin (List.map Char.toLower) (readDomain hebrewTables) (fun _ => false)
        (some "https://apps.xn--4dbrk0ce".toList) =
      .ok (some ⟨"https://apps.xn--4dbrk0ce".toList, "apps.xn--4dbrk0ce".toList⟩) ∧
    IsHexSlug "1a2b".toList ∧
    urlForSlug (List.map Char.toLower) (readDomain hebrewTables)
        ⟨"https://apps.xn--4dbrk0ce".toList, "apps.xn--4dbrk0ce".toList⟩ "1a2b".toList =
      .ok "https://apps.xn--4dbrk0ce".toList ∧
    ¬ RoutesBack (List.map Char.toLower) (readDomain hebrewTables)
        ⟨"https://apps.xn--4dbrk0ce".toList, "apps.xn--4dbrk0ce".toList⟩ "1a2b".toList := by
  have built : urlForSlug (List.map Char.toLower) (readDomain hebrewTables)
      ⟨"https://apps.xn--4dbrk0ce".toList, "apps.xn--4dbrk0ce".toList⟩ "1a2b".toList =
      .ok "https://apps.xn--4dbrk0ce".toList := by decide +kernel
  refine ⟨by decide +kernel, ⟨by decide +kernel, by decide +kernel, List.all_iff_forall_prop.mp (by decide +kernel)⟩, built, ?_⟩
  rintro ⟨address, url, otherBuilt, read, matched⟩
  rw [built] at otherBuilt
  cases otherBuilt
  have bare : (parseHttpUrl (readDomain hebrewTables) "https://apps.xn--4dbrk0ce".toList).map (·.hostname) =
      some "apps.xn--4dbrk0ce" := by decide +kernel
  rw [read] at bare
  have hostname : url.hostname = "apps.xn--4dbrk0ce" := Option.some.inj bare
  rw [hostname] at matched
  revert matched
  decide

end NebulaCloud.Ingress
