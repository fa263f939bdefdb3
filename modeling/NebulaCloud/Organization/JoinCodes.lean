import NebulaCloud.Organization.Membership

namespace NebulaCloud.Organization

open NebulaCloud.Data NebulaCloud.Database NebulaCloud.Platform

/-! # Join codes

An organization has one code at a time.  Typed in any case and with blanks around it, it
admits to that organization; no other text does. -/

/-! ## The format -/

section Format

variable {hmac toUpperCase : String → String} {normalized lookupKey signature organizationId : String}

theorem matchOrganizationCode_eq_some :
    matchOrganizationCode normalized = some (lookupKey, signature) ↔
      normalized = "NBL-" ++ lookupKey ++ "-" ++ signature ∧ IsCodePart lookupKey.toList ∧
        IsCodePart signature.toList := by
  constructor
  · intro matched
    unfold matchOrganizationCode at matched
    split at matched
    · rename_i rest characters
      split at matched
      · rename_i last remaining
        split at matched
        · rename_i parts
          obtain ⟨keyPart, signaturePart⟩ := parts
          cases matched
          refine ⟨?_, by simpa using keyPart, by simpa using signaturePart⟩
          have joined : rest.take 12 ++ '-' :: last = rest := by rw [← remaining, List.take_append_drop]
          apply String.ext
          rw [characters]
          conv_lhs => rw [← joined]
          simp
        · cases matched
      · cases matched
    · cases matched
  · rintro ⟨rfl, keyPart, signaturePart⟩
    have characters : ("NBL-" ++ lookupKey ++ "-" ++ signature).toList =
        'N' :: 'B' :: 'L' :: '-' :: (lookupKey.toList ++ '-' :: signature.toList) := by simp
    have taken : (lookupKey.toList ++ '-' :: signature.toList).take 12 = lookupKey.toList := by
      rw [← keyPart.1, List.take_left]
    have dropped : (lookupKey.toList ++ '-' :: signature.toList).drop 12 = '-' :: signature.toList := by
      rw [← keyPart.1, List.drop_left]
    unfold matchOrganizationCode
    simp only [characters, taken, dropped, if_pos (And.intro keyPart signaturePart), String.ofList_toList]

theorem takeUnits_ascii {text : List Char} (length : Nat) (ascii : ∀ c ∈ text, c.toNat < 128) :
    takeUnits length text = text.take length := by
  induction length, text using takeUnits.induct with
  | case1 => simp [takeUnits]
  | case2 => simp [takeUnits]
  | case3 c rest basic ih => simp [takeUnits, if_pos basic]
  | case4 c rest supplementary =>
      have small : c.val < 0x10000 := UInt32.lt_iff_toNat_lt.mpr
        (Nat.lt_trans (ascii c List.mem_cons_self) (by decide))
      exact absurd small supplementary
  | case5 length c rest ih =>
      have small : c.val < 0x10000 := UInt32.lt_iff_toNat_lt.mpr
        (Nat.lt_trans (ascii c List.mem_cons_self) (by decide))
      simp only [small, if_true] at ih ⊢
      rw [takeUnits, if_pos small, ih fun c member => ascii c (List.mem_cons_of_mem _ member), List.take_succ_cons]

/-- The case of a digit of a digest. -/
theorem toUpper_hexDigit {c : Char} (digit : ('0' ≤ c && c ≤ '9') = true ∨ ('a' ≤ c && c ≤ 'f') = true) :
    c.toNat < 128 ∧ isCodeDigit c.toUpper = true := by
  have small : c.toNat < 128 := by
    simp only [Bool.and_eq_true, decide_eq_true_eq, Char.le_def] at digit
    change c.val.toNat < 128
    rcases digit with ⟨-, upper⟩ | ⟨-, upper⟩
    · exact Nat.lt_of_le_of_lt (UInt32.le_iff_toNat_le.mp upper) (by decide)
    · exact Nat.lt_of_le_of_lt (UInt32.le_iff_toNat_le.mp upper) (by decide)
  refine ⟨small, ?_⟩
  have every : ∀ code < 128, ('0' ≤ Char.ofNat code && Char.ofNat code ≤ '9') = true ∨
      ('a' ≤ Char.ofNat code && Char.ofNat code ≤ 'f') = true → isCodeDigit (Char.ofNat code).toUpper = true := by
    decide
  exact ascii_forall (fun c => ('0' ≤ c && c ≤ '9') = true ∨ ('a' ≤ c && c ≤ 'f') = true →
    isCodeDigit c.toUpper = true) every small digit

/-- What the platform promises of its digest and of its upper case. -/
structure CodeFunctions (hmac toUpperCase : String → String) : Prop where
  hex : ∀ text, IsTokenHash (hmac text)
  ascii : ∀ text : String, (∀ c ∈ text.toList, c.toNat < 128) →
    toUpperCase text = String.ofList (text.toList.map Char.toUpper)

/-- A signature is twelve digits. -/
theorem isCodePart_signature (functions : CodeFunctions hmac toUpperCase) :
    IsCodePart (organizationCodeSignature hmac toUpperCase organizationId lookupKey).toList := by
  obtain ⟨length, digits⟩ := functions.hex (organizationId ++ ":" ++ lookupKey)
  let digest := hmac (organizationId ++ ":" ++ lookupKey)
  have each : ∀ c ∈ digest.toList, c.toNat < 128 ∧ isCodeDigit c.toUpper = true := by
    intro c member
    have digit := List.all_eq_true.mp digits c member
    rw [Bool.or_eq_true] at digit
    exact toUpper_hexDigit digit
  have long : 64 ≤ digest.toList.length := length ▸ sqlLength_le_length digest
  have sliced : (slice digest 12).toList = digest.toList.take 12 := by
    rw [slice, String.toList_ofList, takeUnits_ascii 12 fun c member => (each c member).1]
  have first : ∀ c ∈ digest.toList.take 12, c.toNat < 128 ∧ isCodeDigit c.toUpper = true :=
    fun c member => each c (List.mem_of_mem_take member)
  rw [organizationCodeSignature, functions.ascii _ (by rw [sliced]; exact fun c member => (first c member).1),
    String.toList_ofList, sliced]
  refine ⟨by simp; omega, ?_⟩
  rw [List.all_eq_true]
  intro c member
  obtain ⟨digit, isDigit, rfl⟩ := List.mem_map.mp member
  exact (first digit isDigit).2

end Format

/-! ## What a code admits to -/

section Resolution

variable {hmac toUpperCase : String → String} {database after : AdministrationDatabase}
  {request : AdministrationRequest} {requests : List AdministrationRequest} {text organizationId : String}
  {row : OrganizationJoinCodeRow}

/-- Every lookup key has the form of a key. -/
def WellFormedCodes (database : AdministrationDatabase) : Prop :=
  ∀ code ∈ database.tables.joinCodes, IsCodePart code.lookupKey.toList

instance (database : AdministrationDatabase) : Decidable (WellFormedCodes database) :=
  inferInstanceAs (Decidable (∀ code ∈ _, _))

/-- The code that the administrators of an organization are shown. -/
def currentCode (hmac toUpperCase : String → String) (database : AdministrationDatabase) (organizationId : String) :
    Option String :=
  (lookup (·.organizationId) database.tables.joinCodes organizationId).map fun row =>
    organizationCode hmac toUpperCase row.organizationId row.lookupKey

theorem resolveCode_eq_some (functions : CodeFunctions hmac toUpperCase) (wellFormed : WellFormedCodes database) :
    resolveCode hmac toUpperCase database text = some row ↔
      row ∈ database.tables.joinCodes ∧
        toUpperCase (trim text) = organizationCode hmac toUpperCase row.organizationId row.lookupKey := by
  have distinct : (database.tables.joinCodes.map (·.lookupKey)).Nodup := database.consistent .joinCodeLookupKey
  unfold resolveCode resolveOrganizationJoinCode
  constructor
  · intro resolves
    split at resolves
    · cases resolves
    · rename_i lookupKey signature matched
      obtain ⟨found, signed⟩ := Option.filter_eq_some_iff.mp resolves
      obtain ⟨stored, sameKey⟩ := (lookup_eq_some distinct).mp found
      obtain ⟨written, -, -⟩ := matchOrganizationCode_eq_some.mp matched
      simp only [decide_eq_true_eq] at signed
      exact ⟨stored, by rw [written, organizationCode, signed, sameKey]⟩
  · rintro ⟨stored, written⟩
    have matched := matchOrganizationCode_eq_some.mpr ⟨written, wellFormed row stored, isCodePart_signature functions⟩
    have found : lookup (·.lookupKey) database.tables.joinCodes row.lookupKey = some row :=
      lookup_of_mem distinct stored
    simp only [matched, found]
    simp

/-- A text admits to an organization exactly if it is read as the code shown there. -/
theorem resolves_iff_current (functions : CodeFunctions hmac toUpperCase) (wellFormed : WellFormedCodes database) :
    (∃ row ∈ resolveCode hmac toUpperCase database text, row.organizationId = organizationId) ↔
      currentCode hmac toUpperCase database organizationId = some (toUpperCase (trim text)) := by
  have distinct : (database.tables.joinCodes.map (·.organizationId)).Nodup :=
    database.consistent .joinCodeOrganization
  simp only [currentCode, Option.map_eq_some_iff, Option.mem_def, resolveCode_eq_some functions wellFormed]
  constructor
  · rintro ⟨row, ⟨stored, written⟩, rfl⟩
    exact ⟨row, lookup_of_mem distinct stored, written.symm⟩
  · rintro ⟨row, found, written⟩
    exact ⟨row, ⟨lookup_mem found, written.symm⟩, lookup_key found⟩

theorem step_wellFormedCodes (enabled : (administration hmac toUpperCase).Enabled database request)
    (wellFormed : WellFormedCodes database) :
    WellFormedCodes ((administration hmac toUpperCase).step database request) := by
  have effect := serve_effect enabled
  generalize rowsEq : ((administration hmac toUpperCase).step database request).tables.rows = rows at effect
  have codes : ((administration hmac toUpperCase).step database request).tables.joinCodes = rows.joinCodes :=
    congrArg AdministrationRows.joinCodes rowsEq
  unfold WellFormedCodes
  rw [codes]
  cases effect with
  | kept => exact wellFormed
  | memberState => exact wellFormed
  | joined => exact wellFormed
  | planned => exact wellFormed
  | rotated => exact forall_upsert wellFormed enabled fun _ _ => enabled

/-- The request draws a new code for the organization. -/
def Rotates (organizationId : String) : AdministrationRequest → Prop
  | .rotateJoinCode options _ => options.organizationId = organizationId
  | _ => False

instance (organizationId : String) (request : AdministrationRequest) : Decidable (Rotates organizationId request) :=
  match request with
  | .rotateJoinCode _ _ => inferInstanceAs (Decidable (_ = _))
  | .setMemberDisabled _ _ | .join _ _ _ _ | .updateOrganization _ _ | .createPlanAccount _ | .elsewhere _ =>
      inferInstanceAs (Decidable False)

/-- Only a rotation changes the code of an organization. -/
theorem step_currentCode (enabled : (administration hmac toUpperCase).Enabled database request)
    (unrotated : ¬ Rotates organizationId request) :
    currentCode hmac toUpperCase ((administration hmac toUpperCase).step database request) organizationId =
      currentCode hmac toUpperCase database organizationId := by
  have effect := serve_effect enabled
  generalize rowsEq : ((administration hmac toUpperCase).step database request).tables.rows = rows at effect
  have codes : ((administration hmac toUpperCase).step database request).tables.joinCodes = rows.joinCodes :=
    congrArg AdministrationRows.joinCodes rowsEq
  unfold currentCode
  rw [codes]
  cases effect with
  | kept => rfl
  | memberState => rfl
  | joined => rfl
  | planned => rfl
  | rotated =>
      rename_i options stamp role admin
      have other : (joinCodeRow options).organizationId ≠ organizationId := unrotated
      simp only [writeJoinCode]
      rw [lookup_upsert fun _ _ => rfl, if_neg other]

theorem run_currentCode (runs : (administration hmac toUpperCase).Runs database requests)
    (unrotated : ∀ request ∈ requests, ¬ Rotates organizationId request) :
    currentCode hmac toUpperCase ((administration hmac toUpperCase).run database requests) organizationId =
      currentCode hmac toUpperCase database organizationId := by
  induction requests generalizing database with
  | nil => rfl
  | cons request rest ih =>
      rw [System.run_cons, ih runs.2 fun later member => unrotated later (List.mem_cons_of_mem _ member)]
      exact step_currentCode runs.1 (unrotated request List.mem_cons_self)

theorem run_wellFormedCodes (wellFormed : WellFormedCodes database)
    (runs : (administration hmac toUpperCase).Runs database requests) :
    WellFormedCodes ((administration hmac toUpperCase).run database requests) := by
  induction requests generalizing database with
  | nil => exact wellFormed
  | cons request rest ih => exact ih (step_wellFormedCodes runs.1 wellFormed) runs.2

/-- The code that a rotation answers with is the current one. -/
theorem rotated_currentCode {options : RotateJoinCodeOptions} {stamp : AuditStamp} {code : String}
    (rotated : serve hmac toUpperCase database (.rotateJoinCode options stamp) = (after, .ok (.joinCode code))) :
    currentCode hmac toUpperCase after options.organizationId = some code := by
  simp only [serve, rotateOrganizationJoinCodeHandler, rotateOrganizationJoinCode] at rotated
  split at rotated
  · cases rotated
  · rename_i written stored
    split at stored
    · cases stored
    · have tables := Store.execute_ok.mp stored
      have codes : after.tables.joinCodes = (writeJoinCode options database.tables).joinCodes := by
        have rows := congrArg AdministrationRows.joinCodes (@audited_rows written
          (organizationAudit options.userId options.organizationId "organization.access_code_rotated" stamp)
          (.joinCode (organizationCode hmac toUpperCase options.organizationId options.lookupKey)))
        rw [rotated] at rows
        exact rows.trans (congrArg AdministrationTables.joinCodes tables)
      have answered : code = organizationCode hmac toUpperCase options.organizationId options.lookupKey := by
        unfold audited at rotated
        split at rotated
        · cases rotated
        · cases rotated
          rfl
      have own : (joinCodeRow options).organizationId = options.organizationId := rfl
      unfold currentCode
      rw [codes, writeJoinCode, lookup_upsert fun _ _ => rfl, if_pos own, answered, Option.map_some]
      cases lookup (·.organizationId) database.tables.joinCodes options.organizationId with
      | none => rfl
      | some stored => rfl

/-- The insertion of a member with a fresh identifier is accepted. -/
theorem member_consistent (cloud : CloudDatabase) {options : JoinOptions}
    (fresh : options.createId ∉ cloud.tables.members.map (·.id))
    (exists' : options.organizationId ∈ cloud.tables.organizationIds) :
    schema.Consistent (writeMember options cloud.tables) := by
  have kept {memberId organizationId : String} (before : cloud.tables.MemberOf memberId organizationId) :
      (writeMember options cloud.tables).MemberOf memberId organizationId := by
    obtain ⟨member, stored, is⟩ := before
    exact ⟨member, List.mem_append_left _ stored, is⟩
  have ids : ∀ memberId ∈ cloud.tables.members.map (·.id),
      memberId ∈ (writeMember options cloud.tables).members.map (·.id) := by
    intro memberId stored
    simp only [writeMember, List.map_append]
    exact List.mem_append_left _ stored
  intro constraint
  have held := cloud.consistent constraint
  cases constraint with
  | memberId =>
      refine nodup_append_fresh held fun stored member same => fresh ?_
      exact List.mem_map.mpr ⟨stored, member, same⟩
  | memberOrganization =>
      intro member stored
      rcases List.mem_append.mp stored with before | added
      · exact held member before
      · rw [List.mem_singleton.mp added]
        exact exists'
  | memberStateMember => exact fun state stored => ids _ (held state stored)
  | workspaceOwner => exact fun workspace stored => kept (held workspace stored)
  | entitlementOwner => exact fun entitlement stored => kept (held entitlement stored)
  | usageMembership => exact fun event stored => ids _ (held event stored)
  | _ => exact held

/-- A known user who presents the current code is a member afterwards. -/
theorem join_admits {userId createId : String} {stamp : AuditStamp}
    (resolves : resolveCode hmac toUpperCase database text = some row) (user : userId ∈ database.tables.userIds)
    (fresh : createId ∉ database.tables.members.map (·.id)) (stored : row ∈ database.tables.joinCodes) :
    (findMembership (serve hmac toUpperCase database
      (.join userId text createId stamp)).1.tables.cloud.tables userId row.organizationId).isSome = true := by
  have exists' : row.organizationId ∈ database.tables.organizationIds := database.consistent .joinCodeOwner row stored
  let options : JoinOptions := ⟨userId, row.organizationId, createId, stamp.now⟩
  suffices joined : ∃ after membershipId, joinOrganizationById database options = .ok (after, membershipId) ∧
      (findMembership after.tables.cloud.tables userId row.organizationId).isSome = true by
    obtain ⟨after, membershipId, called, found⟩ := joined
    have rows := @audited_rows after (joinAudit userId row.organizationId membershipId stamp)
      (.joined row.organizationId membershipId)
    have members := congrArg AdministrationRows.members rows
    simp only [serve, joinOrganizationHandler, resolves]
    rw [show joinOrganizationById database ⟨userId, row.organizationId, createId, stamp.now⟩ =
      .ok (after, membershipId) from called]
    simp only [findMembership, AdministrationTables.rows] at found members ⊢
    rwa [members]
  unfold joinOrganizationById
  rw [if_neg (not_not.mpr user), if_neg (not_not.mpr exists')]
  cases known : findMembership database.tables.cloud.tables options.userId options.organizationId with
  | some existing => exact ⟨database, existing.id, rfl, by rw [known]; rfl⟩
  | none =>
      have consistent : schema.Consistent (writeMember options database.tables.cloud.tables) :=
        member_consistent _ fresh exists'
      let cloud : CloudDatabase := ⟨_, consistent⟩
      have accepted : administrationSchema.Consistent
          { database.tables with cloud, roster := database.tables.roster.joined options } := by
        intro constraint
        have held := database.consistent constraint
        cases constraint with
        | memberUser =>
            intro member isStored
            rcases List.mem_append.mp isStored with before | added
            · exact held member before
            · rw [List.mem_singleton.mp added]
              exact user
        | _ => exact held
      have stated : statement database.tables.cloud (writeMember options) = .ok cloud :=
        Store.execute_of_consistent consistent
      refine ⟨⟨_, accepted⟩, createId, ?_, ?_⟩
      · simp only [stated]
        exact bind_ok.mpr ⟨_, Store.execute_of_consistent accepted, rfl⟩
      · refine List.find?_isSome.mpr ⟨joinedMember options, List.mem_append_right _ (List.mem_singleton.mpr rfl), ?_⟩
        simp [joinedMember, options]

/-- From a rotation to the next one of the same organization, in every run: a text admits to
the organization exactly if it is read as the code that the rotation answered with, whoever
else rotates, joins or leaves; and a known user who presents it becomes a member. -/
theorem rotatedCode_admits (functions : CodeFunctions hmac toUpperCase) (wellFormed : WellFormedCodes database)
    {options : RotateJoinCodeOptions} {stamp : AuditStamp} {code : String}
    (drawn : IsCodePart options.lookupKey.toList)
    (rotated : serve hmac toUpperCase database (.rotateJoinCode options stamp) = (after, .ok (.joinCode code)))
    (runs : (administration hmac toUpperCase).Runs after requests)
    (unrotated : ∀ request ∈ requests, ¬ Rotates options.organizationId request) (text : String) :
    let final := (administration hmac toUpperCase).run after requests
    ((∃ row ∈ resolveCode hmac toUpperCase final text, row.organizationId = options.organizationId) ↔
      toUpperCase (trim text) = code) ∧
    (toUpperCase (trim text) = code → ∀ userId ∈ final.tables.userIds, ∀ createId stamp,
      createId ∉ final.tables.members.map (·.id) →
      (findMembership (serve hmac toUpperCase final (.join userId text createId stamp)).1.tables.cloud.tables userId
        options.organizationId).isSome = true) := by
  have afterWellFormed : WellFormedCodes after := by
    have stepped := @step_wellFormedCodes hmac toUpperCase database (.rotateJoinCode options stamp) drawn wellFormed
    simp only [administration, rotated] at stepped
    exact stepped
  have finalWellFormed := run_wellFormedCodes afterWellFormed runs
  have current := (run_currentCode runs unrotated).trans (rotated_currentCode rotated)
  have admits := @resolves_iff_current hmac toUpperCase _ text options.organizationId functions finalWellFormed
  rw [current, Option.some.injEq, eq_comm] at admits
  refine ⟨admits, ?_⟩
  intro read userId user createId joinStamp fresh
  obtain ⟨row, resolves, same⟩ := admits.mpr read
  have stored := ((resolveCode_eq_some functions finalWellFormed).mp resolves).1
  rw [← same]
  exact join_admits resolves user fresh stored

end Resolution

section Sample

/-- The digest of `acme:0123456789AB` under the secret of the test platform. -/
def sampleDigest (text : String) : String :=
  if text = "acme:0123456789AB" then "03a617c2609c38081e498fdcb143eda9d9c079cf85315278a50216d988d9d0c9"
  else "0000000000000000000000000000000000000000000000000000000000000000"

def upperCased (text : String) : String := String.ofList (text.toList.map Char.toUpper)

theorem sampleFunctions : CodeFunctions sampleDigest upperCased where
  hex text := by
    unfold sampleDigest
    split
    · decide
    · decide
  ascii _ _ := rfl

/-- One more user, who is in no organization. -/
def guestAdministration : AdministrationTables :=
  { acmeAdministration with
    roster :=
      { acmeAdministration.roster with
        users := acmeAdministration.roster.users ++ [⟨"dee", "Dee", "dee@guest.example"⟩] } }

theorem guestAdministration_accepted : administrationSchema.violated? guestAdministration = none := by decide

def guestAcme : AdministrationDatabase := Store.load guestAdministration guestAdministration_accepted

def adasRotation : RotateJoinCodeOptions := ⟨"ada", "acme", "0123456789AB", 10⟩

def rotatedAcme : AdministrationDatabase :=
  (serve sampleDigest upperCased guestAcme (.rotateJoinCode adasRotation ⟨"audit-1", 10⟩)).1

theorem rotatedAcme_code : serve sampleDigest upperCased guestAcme (.rotateJoinCode adasRotation ⟨"audit-1", 10⟩) =
    (rotatedAcme, .ok (.joinCode "NBL-0123456789AB-03A617C2609C")) :=
  Prod.ext rfl (by decide +kernel)

/-- The code typed in small letters, with blanks, after a member has been disabled. -/
theorem rotatedCode_admits_dee :
    (findMembership (serve sampleDigest upperCased
      ((administration sampleDigest upperCased).run rotatedAcme [disableBob])
      (.join "dee" " nbl-0123456789ab-03a617c2609c\n" "m4" ⟨"audit-2", 20⟩)).1.tables.cloud.tables "dee"
      "acme").isSome = true :=
  (rotatedCode_admits sampleFunctions (by decide) (by decide) rotatedAcme_code (by decide +kernel) (by decide) _).2
    (by decide +kernel) "dee" (by decide +kernel) "m4" ⟨"audit-2", 20⟩ (by decide +kernel)

end Sample

end NebulaCloud.Organization
