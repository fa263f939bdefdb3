import NebulaCloud.Audit.Pagination
import NebulaCloud.Database.ContactRequest
import NebulaCloud.Database.Entitlement
import NebulaCloud.Database.PlatformControl
import NebulaCloud.Server.Mediation

namespace NebulaCloud.Server

open NebulaCloud.Access NebulaCloud.Data NebulaCloud.Data.Program NebulaCloud.Database NebulaCloud.Platform

/-! # What operations are called with

The handler checks what it reads of a request, and the operations check what they are
called with.  What the handler lets through, the operations do as well. -/

/-! ## What the operations check -/

/-- A name of a service that is stored as it is. -/
def IsStoredName (name : List Char) : Prop :=
  publishedServiceName (String.ofList name) = .ok (String.ofList name)

def PublicationOperation.Fits : PublicationOperation → Prop
  | .listWorkspacePublications => True
  | .upsertWorkspacePublication name port protocol visibility ttlSeconds =>
      IsStoredName name ∧ Database.publishedServicePort port = .ok port ∧
        (protocol = .tcp → visibility = .publicAccess) ∧
        ∀ seconds ∈ ttlSeconds, ∀ now, IsSafeInteger (now + seconds * 1000) →
          checkExpiry (some (now + seconds * 1000)) now = .ok ()
  | .revokeWorkspacePublication name => IsStoredName name

/-- What the form sends is stored as it has arrived, if the address still fits in lower case. -/
def ContactRequestInput.Fits (input : ContactRequestInput) : Prop :=
  ∀ (toLowerCase : String → String) (request : CreateContactRequestInput),
    request.id = input.submissionId → request.name = input.name → request.organization = input.organization →
    request.message = input.message → request.privacyVersion = input.privacyVersion →
    boundedContactText request.email "email" 3 254 = .ok request.email →
    boundedContactText request.sourceHash "sourceHash" 16 128 = .ok request.sourceHash →
    request.windowMs = none → request.maximumPerSource = none → request.maximumPerEmail = none →
    ∃ row, contactRequestRow toLowerCase request = .ok row ∧ row.id = input.submissionId ∧ row.name = input.name ∧
      row.organization = input.organization ∧ row.message = input.message ∧ row.privacyVersion = input.privacyVersion

def entitlementSourceText : OperatorEntitlementSource → String
  | .beta => "beta"
  | .stripe => "stripe"
  | .admin => "admin"

/-- The input says what the body says. -/
structure IsReadFrom (fields : JsonRecord) (input : UpsertOperatorEntitlementInput) : Prop where
  organizationId : fields.get "organizationId" = some (.string input.organizationId)
  source : fields.get "source" = some (.string (entitlementSourceText input.source))
  startsAt : asSafeInteger (fields.get "startsAt") = some input.startsAt
  endsAt : match input.endsAt with
    | none => fields.get "endsAt" = some .null
    | some endsAt => asSafeInteger (fields.get "endsAt") = some endsAt

/-- Only the membership and the clock are left to be wrong. -/
def EntitlementOperation.Fits : EntitlementOperation → Prop
  | .upsertOperatorEntitlement membershipId body =>
      ∃ fields : JsonRecord, body = .object fields ∧
        ∀ (database : CloudDatabase) (input : UpsertOperatorEntitlementInput),
          input.membershipId = membershipId → IsReadFrom fields input →
        database.tables.MemberOf (trim input.membershipId) (trim input.organizationId) →
        IsNonNegativeSafeInteger input.now → ∃ row, checkedEntitlement database input = .ok row
  | .revokeOperatorEntitlement membershipId organizationId => trim membershipId ≠ "" ∧ trim organizationId ≠ ""

def PlatformOperation.Fits : PlatformOperation → Prop
  | .listPlatformControls => True
  | .updatePlatformControl name body actor =>
      ∃ (fields : JsonRecord) (paused : Bool) (reason : String), body = .object fields ∧
        fields.get "paused" = some (.boolean paused) ∧ fields.get "reason" = some (.string reason) ∧
        ∀ (database : CloudDatabase) eventId now,
          IsNonNegativeSafeInteger now →
          setPlatformControl database ⟨name, paused, reason, actor, eventId, now⟩ =
            controlUpdate database ⟨name, paused, reason, actor, eventId, now⟩
  | .revokeOrganizationPublications organizationId actor reason =>
      trim organizationId ≠ "" ∧ IsActor (trim actor) ∧ trim reason ≠ "" ∧ utf16Length (trim reason) ≤ 256

def OrganizationOperation.Fits (context : RequestContext) : OrganizationOperation → Prop
  | .assignStripeOperatorSeat membershipId | .revokeStripeOperatorSeat membershipId => trim membershipId ≠ ""
  | .setOrganizationPublicationConnected workspaceId name _ => trim workspaceId ≠ "" ∧ IsStoredName name
  | .getOrganizationAudit limit before =>
      ∀ (database : CloudDatabase) userId organizationId,
        Audit.getOrganizationAudit database userId organizationId limit before =
          Audit.listOrganizationAuditEvents database ⟨userId, organizationId, some limit, before⟩
  | .getPersonalUsage since rangeDays | .getOrganizationUsage since rangeDays =>
      rangeDays ∈ [7, 30, 90] ∧ since = context.now - rangeDays * 24 * 60 * 60 * 1000
  | _ => True

def AccountOperation.Fits : AccountOperation → Prop
  | .listPlanAccounts => True
  | .createPlanAccount accountType plan organizationId =>
      accountType ∈ ["individual", "organization"] ∧ plan ∈ ["individual", "team", "business", "enterprise"] ∧
        organizationId ≠ "" ∧ trim organizationId = organizationId
  | .joinOrganization text | .ensurePersonalWorkspace text | .ensureWorkspaceRunning text => trim text ≠ ""

/-- The arguments are as the operation wants them. -/
def Question.Fits (context : RequestContext) : Question → Prop
  | .handleStripeWebhook rawBody _ => rawBody ≠ [] ∧ rawBody.length ≤ stripeWebhookMaximumBytes
  | .handleResendWebhook rawBody => rawBody.length ≤ 256 * 1024
  | .submitContact input sourceAddress => input.Fits ∧ sourceAddress = context.clientAddress
  | .getInvitationStatus invitationId userEmail =>
      trim invitationId ≠ "" ∧ utf16Length invitationId ≤ 256 ∧ userEmail ≠ ""
  | .publication operation workspaceId => operation.Fits ∧ trim workspaceId ≠ ""
  | .contactAdministration (.listContactRequests _ limit _) => 1 ≤ limit ∧ limit ≤ 200
  | .entitlementAdministration operation => operation.Fits
  | .platformAdministration operation => operation.Fits
  | .workerAdministration (.updateWorkerHost _ update actor) =>
      asksForAction update = true → ∃ name ∈ actor, IsActor (trim name)
  | .account operation _ => operation.Fits
  | .organization operation _ _ => operation.Fits context
  | .workspace (.proxyRuntime _) workspaceId _ _ | .workspace .restartWorkspace workspaceId _ _ => trim workspaceId ≠ ""
  | _ => True

/-! ## What the checks of the handler establish -/

section Checks

theorem labelEnd_ascii {c : Char} (isEnd : isLabelEnd c = true) : c.toNat < 128 := by
  simp only [isLabelEnd, isLabelLetter, isLabelDigit, Bool.or_eq_true, Bool.and_eq_true, decide_eq_true_eq,
    Char.le_def, UInt32.le_iff_toNat_le] at isEnd
  have small : c.val.toNat ≤ 122 := by
    rcases isEnd with ⟨-, high⟩ | ⟨-, high⟩
    · exact high
    · exact high.trans (by decide)
  exact Nat.lt_of_le_of_lt small (by decide)

theorem trimList_ends {text : List Char} (first : text.head?.any isLabelEnd = true)
    (last : text.getLast?.any isLabelEnd = true) : trimList text = text := by
  have visible {c : Char} (isEnd : isLabelEnd c = true) : isWhiteSpace c = false :=
    ascii_forall (fun c => isLabelEnd c = true → isWhiteSpace c = false) (by decide +kernel) (labelEnd_ascii isEnd)
      isEnd
  have kept : text.dropWhile isWhiteSpace = text := by
    apply dropWhile_of_head
    intro c head
    rw [Option.mem_def.mp head] at first
    exact visible first
  have keptBack : text.reverse.dropWhile isWhiteSpace = text.reverse := by
    apply dropWhile_of_head
    intro c head
    rw [List.head?_reverse, Option.mem_def] at head
    rw [head] at last
    exact visible last
  rw [trimList, kept, keptBack, List.reverse_reverse]

theorem isPublishedServiceName_stored {name : List Char} (valid : isPublishedServiceName name = true) :
    IsStoredName name := by
  simp only [isPublishedServiceName, Bool.and_eq_true, decide_eq_true_eq] at valid
  obtain ⟨⟨⟨short, first⟩, last⟩, each⟩ := valid
  have trimmed : trim (String.ofList name) = String.ofList name := by
    rw [trim, String.toList_ofList, trimList_ends first last]
  have lowered : lowerCase (String.ofList name) = String.ofList name := by
    have kept : ∀ c ∈ name, (if c.toNat = 0x212A then 'k' else c.toLower) = c := by
      intro c member
      have plain := List.all_eq_true.mp each c member
      have ascii : c.toNat < 128 := by
        rcases Bool.or_eq_true_iff.mp plain with isEnd | hyphen
        · exact labelEnd_ascii isEnd
        · rw [decide_eq_true_eq.mp hyphen]
          decide
      exact ascii_forall
        (fun c => (isLabelEnd c || decide (c = '-')) = true → (if c.toNat = 0x212A then 'k' else c.toLower) = c)
        (by decide +kernel) ascii plain
    rw [lowerCase, String.toList_ofList, List.map_congr_left kept, List.map_id']
  have service : isServiceName (String.ofList name) = true := by
    simp only [isServiceName, String.toList_ofList, Bool.and_eq_true, decide_eq_true_eq]
    exact ⟨⟨⟨first, last⟩, each⟩, short⟩
  rw [IsStoredName, publishedServiceName, trimmed, lowered, if_pos service]

theorem publishedServicePort_fits {value : Option Json} {port : Int} (valid : publishedServicePort value = some port) :
    Database.publishedServicePort port = .ok port := by
  have checked := (Option.filter_eq_some_iff.mp valid).2
  simp only [Bool.and_eq_true, decide_eq_true_eq] at checked
  rw [Database.publishedServicePort, if_pos ⟨checked.1.1, checked.1.2, checked.2⟩]

theorem publicationSettings_ok {fields : JsonRecord} {protocol : PublishedServiceProtocol}
    {visibility : PublishedServiceVisibility} {ttlSeconds : Option Int}
    (valid : publicationSettings fields = some (protocol, visibility, ttlSeconds)) :
    (protocol = .tcp → visibility = .publicAccess) ∧
      ∀ seconds ∈ ttlSeconds, publishedServiceMinimumTTLSeconds ≤ seconds ∧
        seconds ≤ publishedServiceMaximumTTLSeconds := by
  unfold publicationSettings at valid
  dsimp only at valid
  split at valid
  on_goal 3 => cases valid
  all_goals
    split at valid
    on_goal 3 => cases valid
    all_goals
      obtain ⟨protocol', -, valid⟩ := Option.bind_eq_some_iff.mp valid
      obtain ⟨visibility', -, valid⟩ := Option.bind_eq_some_iff.mp valid
      split at valid
      · cases valid
      rename_i fits
      have isPublic := not_and_not_right.mp fits
      split at valid
      · cases valid
        exact ⟨isPublic, by simp⟩
      · obtain ⟨seconds, -, bounded⟩ := Option.bind_eq_some_iff.mp valid
        split at bounded
        · rename_i bounds
          cases bounded
          exact ⟨isPublic, by rintro _ ⟨⟩; exact bounds⟩
        · cases bounded

theorem publicationSettings_fits {fields : JsonRecord} {protocol : PublishedServiceProtocol}
    {visibility : PublishedServiceVisibility} {ttlSeconds : Option Int}
    (valid : publicationSettings fields = some (protocol, visibility, ttlSeconds)) :
    (protocol = .tcp → visibility = .publicAccess) ∧
      ∀ seconds ∈ ttlSeconds, ∀ now, IsSafeInteger (now + seconds * 1000) →
        checkExpiry (some (now + seconds * 1000)) now = .ok () := by
  obtain ⟨isPublic, bounded⟩ := publicationSettings_ok valid
  refine ⟨isPublic, fun seconds asked now safe => ?_⟩
  have bounds := bounded seconds asked
  have within : ¬ (now + seconds * 1000 - now < publishedServiceMinimumTTLSeconds * 1000 ∨
      publishedServiceMaximumTTLSeconds * 1000 < now + seconds * 1000 - now) := by
    simp only [publishedServiceMinimumTTLSeconds, publishedServiceMaximumTTLSeconds] at bounds ⊢
    omega
  rw [checkExpiry, if_neg (not_not.mpr safe), if_neg within]

/-- The loop keeps no more bytes than it may. -/
theorem readChunks_length {maximumBytes length : Nat} {broken : Bool} {chunks later read : List (List UInt8)}
    (counted : chunks.flatten.length = length) (within : length ≤ maximumBytes)
    (done : readChunks maximumBytes broken chunks length later = .ok read) : read.flatten.length ≤ maximumBytes := by
  induction later generalizing chunks length with
  | nil =>
      rw [readChunks] at done
      split at done
      · cases done
      · cases done
        exact counted.trans_le within
  | cons value later ih =>
      rw [readChunks] at done
      split at done
      · cases done
      · rename_i small
        refine ih ?_ (not_lt.mp small) done
        simp [counted]

theorem readBoundedBytes_length {request : ServerRequest} {maximumBytes : Nat} {bytes : List UInt8}
    (read : readBoundedBytes request maximumBytes = .ok bytes) : bytes.length ≤ maximumBytes := by
  unfold readBoundedBytes at read
  split at read
  · cases read
  · split at read
    · cases read
      exact Nat.zero_le _
    · rename_i body _
      cases done : readChunks maximumBytes body.broken [] 0 body.chunks with
      | error failure =>
          rw [done] at read
          cases read
      | ok chunks =>
          rw [done] at read
          cases read
          exact readChunks_length rfl (Nat.zero_le _) done

theorem takeUnits_short {length : Nat} {text : List Char}
    (short : (text.map fun c => if c.val < 0x10000 then 1 else 2).sum ≤ length) : takeUnits length text = text := by
  induction length, text using takeUnits.induct with
  | case1 text =>
      cases text with
      | nil => rfl
      | cons c rest =>
          simp only [List.map_cons, List.sum_cons] at short
          split at short <;> omega
  | case2 => rfl
  | case3 c rest basic ih =>
      simp only [List.map_cons, List.sum_cons, if_pos basic] at short
      rw [takeUnits, if_pos basic, ih (by omega)]
  | case4 c rest supplementary =>
      simp only [List.map_cons, List.sum_cons, if_neg supplementary] at short
      omega
  | case5 length c rest ih =>
      simp only [List.map_cons, List.sum_cons] at short
      rw [takeUnits, ih]
      split
      · rename_i basic
        rw [if_pos basic] at short
        omega
      · rename_i supplementary
        rw [if_neg supplementary] at short
        omega

theorem slice_short {text : String} {length : Nat} (short : utf16Length text ≤ length) : slice text length = text := by
  rw [slice, takeUnits_short short, String.ofList_toList]

theorem isTextBetween_iff {least most : Nat} {text : String} :
    isTextBetween least most (some (.string text)) = true ↔
      least ≤ utf16Length (trim text) ∧ utf16Length (trim text) ≤ most := by
  simp [isTextBetween, asText]

theorem asText_some {value : Option Json} {text : String} (read : asText value = some text) :
    value = some (.string text) := by
  unfold asText at read
  split at read
  · cases read
    rfl
  · cases read

theorem isTextBetween_some {least most : Nat} {value : Option Json} (bounds : isTextBetween least most value = true) :
    ∃ text, value = some (.string text) := by
  obtain ⟨text, read, -⟩ := (Option.any_eq_true _ _).mp bounds
  exact ⟨text, asText_some read⟩

theorem isBoolean_some {value : Option Json} (isGiven : isBoolean value = true) :
    ∃ given, value = some (.boolean given) := by
  unfold isBoolean at isGiven
  split at isGiven
  · exact ⟨_, rfl⟩
  · cases isGiven

theorem ne_empty_of_length {text : String} (long : 1 ≤ utf16Length text) : text ≠ "" := by
  rintro rfl
  exact absurd long (by decide)

theorem boundedContactText_fits {text field : String} {least most : Nat}
    (bounds : isTextBetween least most (some (.string text)) = true) :
    boundedContactText (trim text) field least most = .ok (trim text) := by
  obtain ⟨low, high⟩ := isTextBetween_iff.mp bounds
  simp only [boundedContactText, trim_trim]
  rw [if_neg (by omega)]

theorem isSubmissionId_fits {id : String} (submission : Contact.isSubmissionId id = true) :
    boundedContactText id "id" 1 128 = .ok id := by
  have plain := Contact.isSubmissionId_plain submission
  have visible : ∀ c ∈ id.toList, isWhiteSpace c = false := by
    intro c member
    simp only [Contact.isSubmissionId, Bool.and_eq_true, decide_eq_true_eq, List.all_eq_true] at submission
    obtain ⟨length, places⟩ := submission
    obtain ⟨index, bound, same⟩ := List.mem_iff_getElem.mp member
    have placed : index < Contact.submissionIdPattern.length := length ▸ bound
    have paired : (Contact.submissionIdPattern[index], id.toList[index]) ∈
        Contact.submissionIdPattern.zip id.toList := by
      rw [← List.getElem_zip (h := by rw [List.length_zip]; omega)]
      exact List.getElem_mem _
    have fits : (Contact.submissionIdPattern.any fun place => place c) = true :=
      List.any_eq_true.mpr ⟨_, List.getElem_mem placed, same ▸ places _ paired⟩
    exact ascii_forall
      (fun c => (Contact.submissionIdPattern.any fun place => place c) = true → isWhiteSpace c = false)
      (by decide +kernel) (plain c member).2 fits
  have trimmed : trim id = id := by rw [trim, trimList_visible visible, String.ofList_toList]
  have length : utf16Length id = 36 :=
    (utf16Length_ascii fun c member => (plain c member).2).trans (Contact.isSubmissionId_length submission)
  simp only [boundedContactText, trimmed, length]
  rw [if_neg (by decide)]

/-- The parts of an accepted form, as they are read. -/
theorem contactRequest_ok {lower : List Char → List Char} {value : Json} {input : ContactRequestInput}
    (accepted : contactRequest lower value = some input) :
    Contact.isSubmissionId input.submissionId = true ∧
      (∃ name, input.name = trim name ∧ isTextBetween 1 120 (some (.string name)) = true) ∧
      (∀ organization ∈ input.organization, organization ≠ "" ∧ ∃ text, organization = trim text ∧
        isTextBetween 0 160 (some (.string text)) = true) ∧
      (∃ message, input.message = trim message ∧ isTextBetween 10 4000 (some (.string message)) = true) ∧
      ∃ version, input.privacyVersion = trim version ∧ isTextBetween 1 64 (some (.string version)) = true := by
  unfold contactRequest at accepted
  obtain ⟨fields, -, accepted⟩ := Option.bind_eq_some_iff.mp accepted
  obtain ⟨submissionId, submission, accepted⟩ := Option.bind_eq_some_iff.mp accepted
  obtain ⟨name, nameText, accepted⟩ := Option.bind_eq_some_iff.mp accepted
  obtain ⟨email, -, accepted⟩ := Option.bind_eq_some_iff.mp accepted
  split at accepted
  · cases accepted
  rename_i organizationFits
  obtain ⟨topic, -, accepted⟩ := Option.bind_eq_some_iff.mp accepted
  obtain ⟨message, messageText, accepted⟩ := Option.bind_eq_some_iff.mp accepted
  obtain ⟨version, versionText, accepted⟩ := Option.bind_eq_some_iff.mp accepted
  split at accepted
  · cases accepted
  cases accepted
  refine ⟨(Option.filter_eq_some_iff.mp submission).2, ⟨name, rfl, (Option.filter_eq_some_iff.mp nameText).2⟩, ?_,
    ⟨message, rfl, (Option.filter_eq_some_iff.mp messageText).2⟩,
    ⟨version, rfl, (Option.filter_eq_some_iff.mp versionText).2⟩⟩
  intro organization member
  obtain ⟨read, named⟩ := Option.filter_eq_some_iff.mp (Option.mem_def.mp member)
  obtain ⟨text, present, rfl⟩ := Option.map_eq_some_iff.mp read
  refine ⟨by simpa using named, text, rfl, ?_⟩
  simpa [asText_some present] using organizationFits

theorem contactRequest_fits {lower : List Char → List Char} {value : Json} {input : ContactRequestInput}
    (accepted : contactRequest lower value = some input) : input.Fits := by
  obtain ⟨submission, ⟨name, nameText, nameFits⟩, organizationFits, ⟨message, messageText, messageFits⟩,
    version, versionText, versionFits⟩ := contactRequest_ok accepted
  intro toLowerCase request sameId sameName sameOrganization sameMessage sameVersion email sourceHash window source
    perEmail
  have organization :
      (input.organization.map fun text => slice (trim text) 160).filter (· ≠ "") = input.organization := by
    cases stored : input.organization with
    | none => rfl
    | some organization =>
        obtain ⟨named, text, rfl, fits⟩ := organizationFits organization stored
        rw [Option.map_some, trim_trim, slice_short (isTextBetween_iff.mp fits).2]
        exact Option.filter_some_pos (by simpa using named)
  have idBounded := isSubmissionId_fits submission
  have nameBounded := @boundedContactText_fits name "name" 1 120 nameFits
  have messageBounded := @boundedContactText_fits message "message" 10 4000 messageFits
  have versionBounded := @boundedContactText_fits version "privacyVersion" 1 64 versionFits
  rw [← nameText, ← sameName] at nameBounded
  rw [← messageText, ← sameMessage] at messageBounded
  rw [← versionText, ← sameVersion] at versionBounded
  rw [← sameId] at idBounded
  have limits : request.limits = ⟨60 * 60 * 1000, 5, 3⟩ := by
    simp [CreateContactRequestInput.limits, window, source, perEmail]
  have positive : ∀ value ∈ ([60 * 60 * 1000, 5, 3] : List Int), ∀ field,
      positiveContactLimit value field = .ok () := by
    intro value member field
    have within : ∀ value ∈ ([60 * 60 * 1000, 5, 3] : List Int), IsNonNegativeSafeInteger value ∧ 0 < value := by
      decide
    rw [positiveContactLimit, if_neg (not_not.mpr (within value member))]
  obtain ⟨row, stored, id, name, storedOrganization, message, version⟩ : ∃ row,
      contactRequestRow toLowerCase request = .ok row ∧ row.id = request.id ∧ row.name = request.name ∧
        row.organization = (request.organization.map fun text => slice (trim text) 160).filter (· ≠ "") ∧
        row.message = request.message ∧ row.privacyVersion = request.privacyVersion := by
    unfold contactRequestRow
    rw [idBounded, nameBounded, email, messageBounded, sourceHash, versionBounded, limits,
      positive _ (by decide), positive _ (by decide), positive _ (by decide)]
    exact ⟨_, rfl, rfl, rfl, rfl, rfl, rfl⟩
  rw [sameOrganization, organization] at storedOrganization
  exact ⟨row, stored, id.trans sameId, name.trans sameName, storedOrganization, message.trans sameMessage,
    version.trans sameVersion⟩

/-! ### Administrators -/

theorem recordOf_object {body : Json} {allowed : List String} {fields : JsonRecord}
    (read : recordOf body allowed = some fields) : body = .object fields := by
  have record := (Option.filter_eq_some_iff.mp read).1
  cases body with
  | object own =>
      cases record
      rfl
  | _ => cases record

theorem platformAdministratorActor_fits {request : ServerRequest} {actor : String}
    (named : platformAdministratorActor request = some actor) : trim actor = actor ∧ IsActor actor := by
  unfold platformAdministratorActor at named
  dsimp only at named
  split at named
  · rename_i valid
    cases named
    refine ⟨trim_trim _, ne_empty_of_length valid.1, valid.2.1, ?_⟩
    have printable := valid.2.2
    rw [List.any_eq_false] at printable
    rw [hasControlCharacter, List.any_eq_false]
    intro c member control
    refine printable c member ?_
    simp only [isControlCharacter, Bool.or_eq_true, decide_eq_true_eq] at control ⊢
    omega
  · cases named

theorem isUpdatePlatformControlRequest_fits {name : PlatformControlName} {body : Json} {actor : String}
    {request : ServerRequest} (valid : isUpdatePlatformControlRequest body = true)
    (named : platformAdministratorActor request = some actor) :
    (PlatformOperation.updatePlatformControl name body actor).Fits := by
  obtain ⟨fields, read, checked⟩ := (Option.any_eq_true _ _).mp valid
  obtain ⟨trimmed, isActor⟩ := platformAdministratorActor_fits named
  obtain ⟨paused, bounds⟩ := Bool.and_eq_true_iff.mp checked
  obtain ⟨isPaused, paused⟩ := isBoolean_some paused
  obtain ⟨text, reason⟩ := isTextBetween_some bounds
  rw [reason] at bounds
  obtain ⟨low, high⟩ := isTextBetween_iff.mp bounds
  refine ⟨fields, isPaused, text, recordOf_object read, paused, reason, ?_⟩
  intro database eventId now clock
  have explained : ¬ (trim text = "" ∨ 256 < utf16Length (trim text)) := by
    rintro (empty | long)
    · exact ne_empty_of_length low empty
    · omega
  rw [setPlatformControl, if_neg explained, if_neg (not_not.mpr (trimmed.symm ▸ isActor)), if_neg (not_not.mpr clock)]

theorem asSafeInteger_safe {value : Option Json} {number : Int} (read : asSafeInteger value = some number) :
    -maxSafeInteger ≤ number ∧ number ≤ maxSafeInteger := by
  unfold asSafeInteger at read
  split at read
  · split at read
    · rename_i safe
      cases read
      exact safe.2
    · cases read
  · cases read

theorem isUpsertOperatorEntitlementRequest_fits {membershipId : String} {body : Json} (visible : trim membershipId ≠ "")
    (valid : isUpsertOperatorEntitlementRequest body = true) :
    (EntitlementOperation.upsertOperatorEntitlement membershipId body).Fits := by
  obtain ⟨fields, read, checked⟩ := (Option.any_eq_true _ _).mp valid
  simp only [Bool.and_eq_true] at checked
  obtain ⟨⟨⟨named, -⟩, source⟩, times⟩ := checked
  obtain ⟨startsAt, starts, times⟩ := (Option.any_eq_true _ _).mp times
  simp only [Bool.and_eq_true, decide_eq_true_eq] at times
  refine ⟨fields, recordOf_object read, ?_⟩
  intro database input membership from' member clock
  have scope : ¬ (trim input.membershipId = "" ∨ trim input.organizationId = "") := by
    rw [from'.organizationId] at named
    rw [membership]
    simpa [visible, isNonEmptyString, asText] using named
  have same : startsAt = input.startsAt := by
    rw [from'.startsAt] at starts
    exact (Option.some.inj starts).symm
  have start : IsNonNegativeSafeInteger input.startsAt := same ▸ ⟨times.1, (asSafeInteger_safe starts).2⟩
  have ends : (∀ endsAt ∈ input.endsAt, input.startsAt < endsAt ∧ endsAt ≤ maxSafeInteger) ∧
      (input.endsAt = none → input.source ≠ .beta) := by
    have stored := from'.endsAt
    cases read : input.endsAt with
    | none =>
        rw [read] at stored
        refine ⟨by simp, fun _ isBeta => ?_⟩
        have forever := times.2
        rw [stored, from'.source, isBeta] at forever
        simp [asText, entitlementSourceText] at forever
    | some endsAt =>
        rw [read] at stored
        dsimp only at stored
        refine ⟨?_, by simp⟩
        rintro _ ⟨⟩
        have later := times.2
        split at later
        · rename_i null
          rw [null] at stored
          cases stored
        · rw [stored] at later
          refine ⟨?_, (asSafeInteger_safe stored).2⟩
          simpa [same] using later
  have finish : ¬ ∃ endsAt ∈ input.endsAt, endsAt ≤ input.startsAt ∨ maxSafeInteger < endsAt := by
    rintro ⟨endsAt, given, early | late⟩
    · exact absurd (ends.1 endsAt given).1 (not_lt.mpr early)
    · exact absurd (ends.1 endsAt given).2 (not_le.mpr late)
  have expires : ¬ (input.source = .beta ∧ input.endsAt = none) := fun both => ends.2 both.2 both.1
  rw [checkedEntitlement]
  simp only [if_neg scope, if_neg (not_not.mpr start), if_neg finish, if_neg expires, if_neg (not_not.mpr member),
    if_neg (not_not.mpr clock)]
  exact ⟨_, rfl⟩

end Checks

/-! ## What the request names -/

/-- The request asks that a member be disabled or enabled. -/
structure NamesMember (request : ServerRequest) (organizationId membershipId : String) (disabled : Bool) : Prop where
  path : ∃ encodedOrganizationId encodedMembershipId,
    matchRoute organizationMemberPath request.pathname = some [encodedOrganizationId, encodedMembershipId] ∧
      decodeURIComponent encodedOrganizationId = some organizationId ∧
      decodeURIComponent encodedMembershipId = some membershipId
  body : ∃ body fields, requestJson request = .ok body ∧ propertiesOf body = some fields ∧
    fields.get "disabled" = some (.boolean disabled)

/-- The request brings a join code. -/
structure NamesCode (request : ServerRequest) (code : String) : Prop where
  path : request.pathname = "/api/organizations/join"
  body : ∃ body fields, requestJson request = .ok body ∧ propertiesOf body = some fields ∧
    fields.get "code" = some (.string code)

def Question.IsNamed (request : ServerRequest) : Question → Prop
  | .organization (.setOrganizationMemberDisabled membershipId disabled) _ organizationId =>
      NamesMember request organizationId membershipId disabled
  | .account (.joinOrganization code) _ => NamesCode request code
  | _ => True

/-- The question has arguments that fit and that come from the request. -/
def Called (context : RequestContext) (request : ServerRequest) (_ : History) (question : Question) : Prop :=
  question.Fits context ∧ question.IsNamed request

/-! ## The routes -/

section Rules

variable {options : ControlPlaneHandlerOptions} {context : RequestContext} {request : ServerRequest} {history : History}

theorem called_session {next : Session → Handling}
    (each : ∀ history session, Guarded (Called context request) history (next session)) :
    Guarded (Called context request) history (withSession options next) := by
  refine guarded_if fun _ => guarded_await ⟨trivial, trivial⟩ fun told => ?_
  cases told with
  | none => exact .done
  | some session => exact each _ session

theorem called_organization {missing : Reply} {next : Session → String → Handling}
    (each : ∀ history session organizationId, Guarded (Called context request) history (next session organizationId)) :
    Guarded (Called context request) history (withOrganization options missing next) := by
  refine called_session fun later session => ?_
  split
  · exact .done
  · exact each later session _

theorem called_unpaused {error : String} {next : Handling}
    (each : ∀ history, Guarded (Called context request) history next) :
    Guarded (Called context request) history (unlessPublicationPaused options error next) := by
  refine guarded_ite (fun _ => guarded_await ⟨trivial, trivial⟩ fun isPaused => ?_) fun _ => each _
  cases isPaused with
  | true => exact .done
  | false => exact each _

theorem called_authorized {callback : Callback} {administration : Administration} {unavailable unauthorized : Reply}
    {next : Handling} (each : ∀ history, Guarded (Called context request) history next) :
    Guarded (Called context request) history
      (authorized options callback administration unavailable unauthorized next) := by
  refine guarded_if fun _ => guarded_await ⟨trivial, trivial⟩ fun told => ?_
  cases told with
  | false => exact .done
  | true => exact each _

end Rules

section Administrators

variable {options : ControlPlaneHandlerOptions} {context : RequestContext} {request : ServerRequest} {history : History}

theorem exportContactRequests_called {status : Option ContactRequestStatus} {requests : List ContactRequestRow}
    {before : Option Contact.ContactRequestCursor} :
    Guarded (Called context request) history (exportContactRequests context status requests before) := by
  induction requests, before using exportContactRequests.induct status generalizing history with
  | case1 requests before ih =>
      rw [exportContactRequests]
      refine guarded_await ⟨show (1 : Int) ≤ 200 ∧ (200 : Int) ≤ 200 by decide, trivial⟩ fun page => ?_
      dsimp only
      split
      · exact ih page ‹_›
      · split
        · exact .done
        · exact .done

theorem contactAdministration_called {matched : Option (List String)} :
    Guarded (Called context request) history (contactAdministration options context request matched) := by
  unfold contactAdministration
  refine called_authorized fun later => guarded_unless fun _ => ?_
  split
  · exact .done
  split
  · split
    · refine guarded_unless fun bounds => guarded_await ⟨?_, trivial⟩ fun _ => .done
      exact ⟨by omega, by omega⟩
    · exact .done
  split
  · exact exportContactRequests_called
  refine guarded_if fun _ => ?_
  split
  · unfold updateContactRequest
    split
    · exact .done
    split
    · exact .done
    split
    · exact .done
    · exact guarded_await ⟨trivial, trivial⟩ fun _ => .done
  · exact .done

theorem entitlementAdministration_called {encodedMembershipId : String} :
    Guarded (Called context request) history (entitlementAdministration options request encodedMembershipId) := by
  unfold entitlementAdministration
  refine called_authorized fun later => ?_
  split
  · exact .done
  refine guarded_unless fun visible => guarded_ite (fun _ => ?_) fun _ => guarded_if fun _ => ?_
  · unfold upsertEntitlement
    refine guarded_unless fun _ => ?_
    split
    · exact .done
    · exact guarded_unless fun valid =>
        guarded_attempt ⟨isUpsertOperatorEntitlementRequest_fits visible (not_not.mp valid), trivial⟩
  · unfold revokeEntitlement
    refine guarded_unless fun _ => guarded_unless fun named => ?_
    refine guarded_await ⟨⟨visible, ?_⟩, trivial⟩ fun _ => .done
    rwa [trim_trim]

theorem revokeOrganizationPublications_called {encodedOrganizationId : String} :
    Guarded (Called context request) history
      (revokeOrganizationPublications options request encodedOrganizationId) := by
  unfold revokeOrganizationPublications platformAuthorized
  refine called_authorized fun later => guarded_unless fun _ => guarded_unless fun _ => ?_
  split
  · exact .done
  refine guarded_unless fun visible => ?_
  split
  · exact .done
  rename_i actor named
  split
  · exact .done
  split
  · exact .done
  rename_i reason read
  obtain ⟨fields, -, found⟩ := Option.bind_eq_some_iff.mp read
  obtain ⟨low, high⟩ := isTextBetween_iff.mp (Option.filter_eq_some_iff.mp found).2
  obtain ⟨trimmed, isActor⟩ := platformAdministratorActor_fits named
  exact guarded_attempt ⟨⟨visible, trimmed.symm ▸ isActor, ne_empty_of_length low, high⟩, trivial⟩

theorem platformControlAdministration_called {matched : Option (List String)} :
    Guarded (Called context request) history (platformControlAdministration options request matched) := by
  unfold platformControlAdministration platformAuthorized
  refine called_authorized fun later => ?_
  refine guarded_ite (fun _ => guarded_if fun _ => ?_) fun _ => guarded_if fun _ => ?_
  · exact guarded_await ⟨trivial, trivial⟩ fun _ => .done
  split
  · unfold updatePlatformControl
    refine guarded_unless fun _ => ?_
    split
    · exact .done
    split
    · exact .done
    rename_i actor named
    split
    · exact .done
    · exact guarded_unless fun valid =>
        guarded_attempt ⟨isUpdatePlatformControlRequest_fits (not_not.mp valid) named, trivial⟩
  · exact .done

theorem workerAdministration_called {matched : Option (List String)} :
    Guarded (Called context request) history (workerAdministration options context request matched) := by
  unfold workerAdministration
  refine called_authorized fun later => ?_
  refine guarded_ite (fun _ => guarded_if fun _ => ?_) fun _ => guarded_ite (fun _ => ?_) fun _ =>
    guarded_if fun _ => ?_
  · exact guarded_await ⟨trivial, trivial⟩ fun _ => .done
  · unfold registerWorkerHost
    refine guarded_unless fun _ => ?_
    split
    · exact .done
    · exact guarded_unless fun _ => guarded_attempt ⟨trivial, trivial⟩
  split
  · unfold updateWorkerHost
    refine guarded_unless fun _ => ?_
    split
    · exact .done
    split
    · exact .done
    rename_i update _
    refine guarded_unless fun _ => guarded_unless fun acts => guarded_attempt ⟨fun asks => ?_, trivial⟩
    rw [if_pos asks] at acts ⊢
    cases named : platformAdministratorActor request with
    | none => exact absurd ⟨asks, named⟩ acts
    | some actor =>
        obtain ⟨trimmed, isActor⟩ := platformAdministratorActor_fits named
        exact ⟨actor, rfl, trimmed.symm ▸ isActor⟩
  · exact .done

end Administrators

section Everybody

variable {options : ControlPlaneHandlerOptions} {context : RequestContext} {request : ServerRequest}
  {lower : List Char → List Char} {history : History}

theorem publishedServices_called {slug servicePath : List Char} :
    Guarded (Called context request) history (publishedServices options request slug servicePath) := by
  unfold publishedServices
  exact guarded_unless fun _ => guarded_unless fun _ => called_unpaused fun later => guarded_if fun _ =>
    guarded_attempt ⟨trivial, trivial⟩

theorem stripeWebhook_called : Guarded (Called context request) history (stripeWebhook options request lower) := by
  unfold stripeWebhook
  refine guarded_unless fun _ => guarded_unless fun _ => guarded_unless fun _ => guarded_unless fun _ => ?_
  split
  · exact .done
  · exact .done
  · rename_i rawBody read
    exact guarded_unless fun nonempty => guarded_attempt ⟨⟨nonempty, readBoundedBytes_length read⟩, trivial⟩

theorem resendWebhook_called : Guarded (Called context request) history (resendWebhook options request) := by
  unfold resendWebhook
  refine guarded_unless fun _ => guarded_unless fun _ => ?_
  dsimp only
  split
  · exact .done
  · exact .done
  · rename_i rawBody read
    exact guarded_attempt ⟨readBoundedBytes_length read, trivial⟩

theorem upsertWorkspacePublication_called {workspaceId : String} {name : List Char} (visible : trim workspaceId ≠ "")
    (valid : isPublishedServiceName name = true) :
    Guarded (Called context request) history (upsertWorkspacePublication options request workspaceId name) := by
  unfold upsertWorkspacePublication
  refine called_unpaused fun later => guarded_unless fun _ => ?_
  split
  · exact .done
  split
  · exact .done
  rename_i fields port read
  split
  · exact .done
  rename_i protocol visibility ttlSeconds settings
  obtain ⟨record, -, ported⟩ := Option.bind_eq_some_iff.mp read
  obtain ⟨number, isPort, same⟩ := Option.map_eq_some_iff.mp ported
  cases same
  obtain ⟨isPublic, expiry⟩ := publicationSettings_fits settings
  exact guarded_attempt
    ⟨⟨⟨isPublishedServiceName_stored valid, publishedServicePort_fits isPort, isPublic, expiry⟩, visible⟩, trivial⟩

theorem workspacePublications_called {encodedWorkspaceId : String} {encodedName : Option String} :
    Guarded (Called context request) history
      (workspacePublications options request lower encodedWorkspaceId encodedName) := by
  unfold workspacePublications
  refine guarded_unless fun _ => ?_
  split
  · exact .done
  · exact .done
  refine guarded_unless fun route => guarded_await ⟨trivial, trivial⟩ fun authenticated =>
    guarded_unless fun _ => ?_
  obtain ⟨visible, valid⟩ := not_or.mp route
  split
  · refine guarded_unless fun _ => guarded_if fun _ => ?_
    exact guarded_await ⟨⟨trivial, visible⟩, trivial⟩ fun _ => .done
  · rename_i name named
    have isName : isPublishedServiceName name = true := by
      rw [named] at valid
      simpa using valid
    unfold changeWorkspacePublication
    refine guarded_ite (fun _ => upsertWorkspacePublication_called visible isName) fun _ => guarded_if fun _ =>
      guarded_if fun _ => ?_
    exact guarded_await ⟨⟨isPublishedServiceName_stored isName, visible⟩, trivial⟩ fun _ => .done

theorem contact_called : Guarded (Called context request) history (contact options context request lower) := by
  unfold contact
  refine guarded_unless fun _ => guarded_unless fun _ => ?_
  split
  · exact .done
  · exact .done
  split
  · exact .done
  rename_i input accepted
  exact guarded_unless fun _ => guarded_attempt ⟨⟨contactRequest_fits accepted, rfl⟩, trivial⟩

theorem invitationStatus_called {encodedInvitationId : String} :
    Guarded (Called context request) history (invitationStatus options request encodedInvitationId) := by
  unfold invitationStatus
  refine guarded_unless fun _ => called_session fun later session => ?_
  split
  · exact .done
  rename_i email found
  refine guarded_unless fun _ => ?_
  split
  · exact .done
  refine guarded_unless fun invalid => guarded_await ⟨⟨?_, ?_, ?_⟩, trivial⟩ fun _ => .done
  · exact (not_or.mp invalid).1
  · exact not_lt.mp (not_or.mp invalid).2
  · simpa using (Option.filter_eq_some_iff.mp found).2

theorem planAccountRequest_fits {fields : JsonRecord} {accountType plan organizationId : String}
    (read : planAccountRequest fields = some (accountType, plan, organizationId)) :
    (AccountOperation.createPlanAccount accountType plan (trim organizationId)).Fits := by
  unfold planAccountRequest at read
  obtain ⟨accountType, isType, read⟩ := Option.bind_eq_some_iff.mp read
  obtain ⟨plan, isPlan, read⟩ := Option.bind_eq_some_iff.mp read
  obtain ⟨organizationId, named, read⟩ := Option.bind_eq_some_iff.mp read
  cases read
  refine ⟨?_, ?_, ?_, trim_trim _⟩
  · simpa using (Option.filter_eq_some_iff.mp isType).2
  · simpa using (Option.filter_eq_some_iff.mp isPlan).2
  · simpa using (Option.filter_eq_some_iff.mp named).2

theorem planAccounts_called : Guarded (Called context request) history (planAccounts options context request) := by
  unfold planAccounts
  refine called_session fun later session => ?_
  refine guarded_ite (fun _ => guarded_if fun _ => guarded_await ⟨trivial, trivial⟩ fun _ => .done) fun _ =>
    guarded_if fun _ => guarded_if fun _ => ?_
  unfold createPlanAccount
  split
  · exact .done
  split
  · exact .done
  split
  · exact .done
  rename_i accountType plan organizationId read
  exact guarded_attempt ⟨planAccountRequest_fits read, trivial⟩

theorem accountRoute_called {callback : Callback} {unavailable : Reply} {key required : String}
    {operation : String → AccountOperation} {failed : ServerError → Reply} {answered : Json → Reply}
    (fits : ∀ text, trim text ≠ "" → (operation text).Fits)
    (named : ∀ text userId body fields, requestJson request = .ok body → propertiesOf body = some fields →
      fields.get key = some (.string text) → (Question.account (operation text) userId).IsNamed request) :
    Guarded (Called context request) history
      (accountRoute options context request callback unavailable key required operation failed answered) := by
  unfold accountRoute
  refine called_session fun later session => guarded_unless fun _ => ?_
  split
  · exact .done
  rename_i body read
  split
  · exact .done
  rename_i fields properties
  split
  · exact .done
  rename_i text found
  obtain ⟨isText, visible⟩ := Option.filter_eq_some_iff.mp found
  have present := asText_some isText
  exact guarded_attempt
    ⟨fits text (by simpa using visible), named text session.userId body fields read properties present⟩

theorem operatorRuntime_called {encodedWorkspaceId : String} :
    Guarded (Called context request) history (operatorRuntime options encodedWorkspaceId) := by
  unfold operatorRuntime
  refine called_organization fun later session organizationId => guarded_unless fun _ => ?_
  split
  · exact .done
  · exact guarded_attempt ⟨trivial, trivial⟩

theorem restartWorkspace_called {encodedWorkspaceId : String} :
    Guarded (Called context request) history (restartWorkspace options encodedWorkspaceId) := by
  unfold restartWorkspace
  refine called_organization fun later session organizationId => guarded_unless fun _ => ?_
  split
  · exact .done
  · exact guarded_unless fun visible => guarded_attempt ⟨visible, trivial⟩

theorem runtime_called {route : RuntimeRoute} :
    Guarded (Called context request) history (runtime options route) := by
  unfold runtime
  refine called_organization fun later session organizationId => guarded_unless fun _ => ?_
  split
  · exact .done
  · exact guarded_unless fun visible => guarded_attempt ⟨visible, trivial⟩

theorem afterReconciliation_called {session : Session} {organizationId : String} {next : Handling}
    (each : ∀ history, Guarded (Called context request) history next) :
    Guarded (Called context request) history (afterReconciliation options session organizationId next) := by
  unfold afterReconciliation
  split
  · exact .ask ⟨trivial, trivial⟩ fun _ => each _
  · exact each _

theorem usageRange_fits {days : Int} (read : usageRange request = some days) : days ∈ ([7, 30, 90] : List Int) := by
  simpa using (Option.filter_eq_some_iff.mp read).2

theorem personalUsage_called : Guarded (Called context request) history (personalUsage options context request) := by
  unfold personalUsage
  split
  · exact .done
  rename_i days read
  refine called_organization fun later session organizationId => guarded_unless fun _ => ?_
  exact afterReconciliation_called fun last => guarded_attempt ⟨⟨usageRange_fits read, rfl⟩, trivial⟩

theorem organizationUsage_called {encodedOrganizationId : String} {isExport : Bool} :
    Guarded (Called context request) history
      (organizationUsage options context request encodedOrganizationId isExport) := by
  unfold organizationUsage
  split
  · exact .done
  rename_i days read
  refine called_session fun later session => ?_
  split
  · exact .done
  refine guarded_unless fun _ => guarded_unless fun _ => afterReconciliation_called fun last => ?_
  exact guarded_attempt ⟨⟨usageRange_fits read, rfl⟩, trivial⟩

end Everybody

/-! ## The routes of an organization -/

section Organizations

variable {options : ControlPlaneHandlerOptions} {context : RequestContext} {request : ServerRequest}
  {lower : List Char → List Char} {history : History} {session : Session} {organizationId pathname : String}
  {rest : List Segment} {captures : List String}

theorem matchSegments_word_some {word : String} {route : List Segment} {path : List (List Char)}
    (matched : matchSegments (.word word :: route) path = some captures) :
    ∃ rest, path = word.toList :: rest ∧ matchSegments route rest = some captures := by
  cases path with
  | nil => cases matched
  | cons segment rest =>
      rw [matchSegments] at matched
      split at matched
      · rename_i same
        exact ⟨rest, by rw [same], matched⟩
      · cases matched

theorem matchSegments_capture_some {route : List Segment} {path : List (List Char)}
    (matched : matchSegments (.capture :: route) path = some captures) :
    ∃ segment rest others, path = segment :: rest ∧ captures = String.ofList segment :: others ∧
      matchSegments route rest = some others := by
  cases path with
  | nil => cases matched
  | cons segment rest =>
      rw [matchSegments] at matched
      split at matched
      · cases matched
      · obtain ⟨others, later, rfl⟩ := Option.map_eq_some_iff.mp matched
        exact ⟨segment, rest, others, rfl, rfl, later⟩

theorem matchSegments_nil_some {path : List (List Char)} (matched : matchSegments [] path = some captures) :
    captures = [] := by
  cases path with
  | nil =>
      cases matched
      rfl
  | cons segment rest => cases matched

/-- All routes of organizations capture the same part of the path first. -/
theorem organizationRoute_some (matched : matchRoute (organizationRoute rest) pathname = some captures) :
    ∃ encoded others path, captures = String.ofList encoded :: others ∧
      (pathname.toList.splitOn '/')[3]? = some encoded ∧ matchSegments rest path = some others := by
  unfold matchRoute at matched
  split at matched
  · rename_i segments split
    obtain ⟨afterApi, rfl, inApi⟩ := matchSegments_word_some matched
    obtain ⟨afterWord, rfl, inOrganizations⟩ := matchSegments_word_some inApi
    obtain ⟨encoded, path, others, rfl, captured, behind⟩ := matchSegments_capture_some inOrganizations
    exact ⟨encoded, others, path, captured, by rw [split]; rfl, behind⟩
  · cases matched

theorem captured_organization {encoded : String}
    (found : captured (matchRoute (organizationRoute rest) pathname) 1 = some encoded) :
    (pathname.toList.splitOn '/')[3]? = some encoded.toList := by
  obtain ⟨captures, matched, first⟩ := Option.bind_eq_some_iff.mp found
  obtain ⟨segment, others, path, rfl, third, -⟩ := organizationRoute_some matched
  cases first
  rw [String.toList_ofList]
  exact third

theorem encodedOrganizationId_third {encoded : String}
    (found : (organizationMatches pathname).encodedOrganizationId = some encoded) :
    (pathname.toList.splitOn '/')[3]? = some encoded.toList := by
  obtain ⟨matched, listed, first⟩ := List.exists_of_findSome?_eq_some found
  simp only [List.mem_cons, List.not_mem_nil, or_false] at listed
  rcases listed with rfl | rfl | rfl | rfl | rfl | rfl | rfl | rfl | rfl | rfl | rfl
  all_goals exact captured_organization first

/-- A path of a member, with the parts that it names. -/
theorem organizationMember_some (present : (organizationMatches pathname).member.isSome = true)
    (organization :
      (organizationMatches pathname).encodedOrganizationId.bind decodeURIComponent = some organizationId) :
    ∃ encoded, matchRoute organizationMemberPath pathname =
        some [encoded, (captured (organizationMatches pathname).member 2).getD ""] ∧
      decodeURIComponent encoded = some organizationId := by
  obtain ⟨captures, matched⟩ := Option.isSome_iff_exists.mp present
  obtain ⟨encoded, found, decoded⟩ := Option.bind_eq_some_iff.mp organization
  obtain ⟨segment, others, path, rfl, third, later⟩ := organizationRoute_some matched
  obtain ⟨afterMembers, -, later⟩ := matchSegments_word_some later
  obtain ⟨membership, last, none, -, rfl, ends⟩ := matchSegments_capture_some later
  obtain rfl := matchSegments_nil_some ends
  have same : encoded = String.ofList segment := by
    have both := (encodedOrganizationId_third found).symm.trans third
    rw [← Option.some.inj both, String.ofList_toList]
  refine ⟨encoded, ?_, decoded⟩
  rw [matched, same]
  exact matched

theorem setMemberDisabled_called {encodedOrganizationId encodedMembershipId : String}
    (path : matchRoute organizationMemberPath request.pathname = some [encodedOrganizationId, encodedMembershipId])
    (organization : decodeURIComponent encodedOrganizationId = some organizationId) :
    Guarded (Called context request) history
      (setMemberDisabled request session organizationId encodedMembershipId) := by
  unfold setMemberDisabled
  split
  · exact .done
  rename_i membershipId decoded
  split
  · exact .done
  rename_i fields read
  split
  · rename_i disabled given
    obtain ⟨body, parsed, properties⟩ := Option.bind_eq_some_iff.mp read
    refine guarded_attempt ⟨trivial, ⟨_, _, path, organization, decoded⟩, body, fields, ?_, properties, given⟩
    cases result : requestJson request with
    | error failure =>
        rw [result] at parsed
        cases parsed
    | ok value =>
        rw [result] at parsed
        cases parsed
        rfl
  · exact .done

theorem changeSeat_called {encodedMembershipId : String} :
    Guarded (Called context request) history
      (changeSeat options request session organizationId encodedMembershipId) := by
  unfold changeSeat
  split
  · exact .done
  refine guarded_unless fun visible => guarded_ite (fun _ => ?_) fun _ => ?_
  · exact guarded_if fun _ => guarded_attempt ⟨visible, trivial⟩
  · exact guarded_if fun _ => guarded_attempt ⟨visible, trivial⟩

theorem setPublicationConnected_called {encodedWorkspaceId encodedName : String} :
    Guarded (Called context request) history
      (setPublicationConnected request lower session organizationId encodedWorkspaceId encodedName) := by
  unfold setPublicationConnected
  split
  · refine guarded_unless fun route => ?_
    obtain ⟨visible, valid⟩ := not_or.mp route
    split
    · exact .done
    split
    · exact guarded_attempt ⟨⟨visible, isPublishedServiceName_stored (not_not.mp valid)⟩, trivial⟩
    · exact .done
  · exact .done

theorem organizationAudit_called :
    Guarded (Called context request) history (organizationAudit request session organizationId) := by
  unfold organizationAudit
  dsimp only
  split
  · exact .done
  rename_i limit _
  refine guarded_unless fun bounds => guarded_attempt ⟨?_, trivial⟩
  obtain ⟨low, bounds⟩ := not_or.mp bounds
  obtain ⟨high, instants⟩ := not_or.mp bounds
  intro database userId organizationId
  rw [Audit.getOrganizationAudit, if_neg]
  rintro (below | above | ⟨time, given, wrong⟩)
  · exact low below
  · exact high above
  · obtain ⟨read, present, same⟩ := Option.bind_eq_some_iff.mp (Option.mem_def.mp given)
    refine instants ((Option.any_eq_true _ _).mpr ⟨read, present, ?_⟩)
    rw [show read = some time from same]
    simp only [Option.any_some, Bool.not_eq_true', Bool.and_eq_false_iff, decide_eq_false_iff_not]
    omega

theorem organizationRequest_called
    (organization :
      (organizationMatches request.pathname).encodedOrganizationId.bind decodeURIComponent = some organizationId) :
    Guarded (Called context request) history
      (organizationRequest options context request lower session organizationId
        (organizationMatches request.pathname)) := by
  unfold organizationRequest
  refine guarded_ite (fun _ => guarded_attempt ⟨trivial, trivial⟩) fun _ => ?_
  refine guarded_ite (fun route => ?_) fun _ => ?_
  · obtain ⟨encoded, path, decoded⟩ := organizationMember_some route.2.1 organization
    exact setMemberDisabled_called path decoded
  refine guarded_ite (fun _ => changeSeat_called) fun _ => ?_
  refine guarded_ite (fun _ => guarded_attempt ⟨trivial, trivial⟩) fun _ => ?_
  refine guarded_ite (fun _ => guarded_attempt ⟨trivial, trivial⟩) fun _ => ?_
  refine guarded_ite (fun _ => setPublicationConnected_called) fun _ => ?_
  refine guarded_ite (fun _ => guarded_attempt ⟨trivial, trivial⟩) fun _ => ?_
  refine guarded_ite (fun _ => guarded_attempt ⟨trivial, trivial⟩) fun _ => ?_
  refine guarded_ite (fun _ => organizationAudit_called) fun _ => ?_
  refine guarded_ite (fun _ => guarded_attempt ⟨trivial, trivial⟩) fun _ => guarded_if fun _ => ?_
  unfold updateOrganization
  split
  · exact .done
  split
  · exact .done
  · exact guarded_attempt ⟨trivial, trivial⟩

theorem organizationRoutes_called :
    Guarded (Called context request) history
      (organizationRoutes options context request lower (organizationMatches request.pathname)) := by
  unfold organizationRoutes
  refine called_session fun later session => ?_
  split
  · exact .done
  rename_i organizationId decoded
  exact guarded_unless fun _ => organizationRequest_called decoded

end Organizations

/-! ## The whole handler -/

section Dispatch

variable {options : ControlPlaneHandlerOptions} {context : RequestContext} {request : ServerRequest}
  {lower : List Char → List Char} {history : History} {question : Question}

theorem healthRoutes_called : Guarded (Called context request) history (healthRoutes options request) := by
  unfold healthRoutes withReadiness
  refine guarded_unless fun _ => guarded_ite (fun _ => ?_) fun _ => guarded_if fun _ => ?_
  · exact guarded_if fun _ => guarded_await ⟨trivial, trivial⟩ fun _ => .done
  · exact guarded_if fun _ => guarded_await ⟨trivial, trivial⟩ fun _ => .done

theorem workspaceRoutes_called :
    Guarded (Called context request) history (workspaceRoutes options context request) := by
  unfold workspaceRoutes
  refine guarded_ite (fun _ => operatorRuntime_called) fun _ => ?_
  refine guarded_ite (fun _ => personalUsage_called) fun _ => ?_
  refine guarded_ite (fun _ => organizationUsage_called) fun _ => ?_
  refine guarded_ite (fun _ => ?_) fun _ => guarded_ite (fun _ => ?_) fun _ => ?_
  · exact accountRoute_called (fun _ visible => visible) fun _ _ _ _ _ _ _ => trivial
  · exact accountRoute_called (fun _ visible => visible) fun _ _ _ _ _ _ _ => trivial
  refine guarded_ite (fun _ => restartWorkspace_called) fun _ => ?_
  split
  · exact runtime_called
  · exact healthRoutes_called

theorem userRoutes_called : Guarded (Called context request) history (userRoutes options context request lower) := by
  unfold userRoutes
  refine guarded_ite (fun _ => guarded_if fun _ => guarded_await ⟨trivial, trivial⟩ fun _ => .done) fun _ => ?_
  split
  · exact invitationStatus_called
  refine guarded_ite (fun _ => planAccounts_called) fun _ => guarded_ite (fun route => ?_) fun _ => ?_
  · exact accountRoute_called (fun _ visible => visible) fun _ _ body fields read properties code =>
      ⟨route.2, body, fields, read, properties, code⟩
  · exact guarded_ite (fun _ => organizationRoutes_called) fun _ => workspaceRoutes_called

theorem administrationRoutes_called :
    Guarded (Called context request) history (administrationRoutes options context request lower) := by
  unfold administrationRoutes
  refine guarded_ite (fun _ => contactAdministration_called) fun _ => ?_
  split
  · exact entitlementAdministration_called
  · exact revokeOrganizationPublications_called
  · refine guarded_ite (fun _ => platformControlAdministration_called) fun _ => ?_
    exact guarded_ite (fun _ => workerAdministration_called) fun _ => userRoutes_called

theorem createControlPlaneHandler_called :
    Guarded (Called context request) [] (createControlPlaneHandler options context request lower) := by
  unfold createControlPlaneHandler
  dsimp only
  split
  · exact .done
  · exact publishedServices_called
  · exact publishedServices_called
  unfold ownRoutes
  refine guarded_ite (fun _ => stripeWebhook_called) fun _ => guarded_ite (fun _ => resendWebhook_called) fun _ => ?_
  split
  · exact workspacePublications_called
  · exact workspacePublications_called
  · exact guarded_ite (fun _ => contact_called) fun _ => administrationRoutes_called

end Dispatch

end NebulaCloud.Server
