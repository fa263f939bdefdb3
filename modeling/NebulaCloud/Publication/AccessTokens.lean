import NebulaCloud.Data.History
import NebulaCloud.Ingress.PublishedServiceGateway
import NebulaCloud.Publication.Reconnection

namespace NebulaCloud.Publication

open NebulaCloud.Data NebulaCloud.Database NebulaCloud.Platform NebulaCloud.Ingress

/-! # Access tokens

The token of a private publication is told once, to whoever publishes it; the row keeps
its hash.  A publication that is disconnected and connected again keeps the token, and one
that is published anew gets another. -/

/-- The text that a request presents is taken for the token. -/
def Presents (hashPublishedServiceToken : String → String) (request : ProxiedRequest) (token : String) : Prop :=
  trim (request.token.getD "") ≠ "" ∧ utf16Length (trim (request.token.getD "")) ≤ 256 ∧
    hashPublishedServiceToken (trim (request.token.getD "")) = hashPublishedServiceToken token

instance (hash : String → String) (request : ProxiedRequest) (token : String) :
    Decidable (Presents hash request token) :=
  inferInstanceAs (Decidable (_ ∧ _))

structure TokenHistory where
  database : CloudDatabase
  /-- The token that the policy under the key was made with. -/
  token : Option String

/-- Everything that writes publications. -/
inductive PolicyActivity
  | publish (context : CallContext) (input : PublishWorkspaceServiceInput)
  | disconnect (context : CallContext) (workspaceId name : String)
  | setConnected (context : CallContext) (directory : Directory) (input : SetPublicationConnectedInput)
  | revokeOrganization (input : RevokeOrganizationPublishedServicesInput)
  /-- Any other activity writes no publication; it may delete some. -/
  | other (database : CloudDatabase)

def drawnToken (context : CallContext) (input : PublishWorkspaceServiceInput) (token : Option String) :
    Option String :=
  match input.visibility with
  | .publicAccess => none
  | .privateAccess => if input.preserveAccessPolicy then token else some context.accessToken

section Activities

variable (settings : PublicationSettings) (key : String × String)

def policies : System TokenHistory PolicyActivity where
  Initial history := getPublishedServiceByName history.database key = none ∧ history.token = none
  Enabled history
    | .other database =>
        ∀ service ∈ database.tables.publishedServices, service ∈ history.database.tables.publishedServices
    | _ => True
  step history
    | .publish context input =>
        let published := (publishWorkspaceService settings context history.database input).1
        ⟨published,
          if getPublishedServiceByName published key = getPublishedServiceByName history.database key then
            history.token
          else drawnToken context input history.token⟩
    | .disconnect context workspaceId name =>
        { history with database := (disconnectWorkspaceService context history.database workspaceId name).1 }
    | .setConnected context directory input =>
        { history with
          database := (setOrganizationPublicationConnected settings context history.database directory input).1 }
    | .revokeOrganization input =>
        match revokeOrganizationPublishedServices history.database input with
        | .ok (revoked, _) => { history with database := revoked }
        | .error _ => history
    | .other database => { history with database }

instance (history : TokenHistory) (activity : PolicyActivity) :
    Decidable ((policies settings key).Enabled history activity) :=
  match activity with
  | .publish _ _ | .disconnect _ _ _ | .setConnected _ _ _ | .revokeOrganization _ => .isTrue trivial
  | .other database => inferInstanceAs (Decidable (∀ service ∈ database.tables.publishedServices,
      service ∈ history.database.tables.publishedServices))

/-- The policy under the key is made anew. -/
def Replaces (activity : PolicyActivity) : Prop :=
  ∃ context input, activity = .publish context input ∧ input.key = key ∧
    (input.visibility = .publicAccess ∨ input.preserveAccessPolicy = false)

end Activities

/-! ## What is kept of a policy -/

/-- A publication that is private was so before, with the same hash. -/
def KeepsPrivate (before after : CloudDatabase) (key : String × String) : Prop :=
  ∀ service ∈ getPublishedServiceByName after key, service.visibility = .privateAccess →
    ∃ earlier ∈ getPublishedServiceByName before key,
      earlier.visibility = .privateAccess ∧ earlier.accessTokenHash = service.accessTokenHash

section Steps

variable {settings : PublicationSettings} {context : CallContext} {database after : CloudDatabase}
  {key : String × String} {service : PublishedServiceRow} {token : String}

theorem KeepsPrivate.refl (same : getPublishedServiceByName after key = getPublishedServiceByName database key) :
    KeepsPrivate database after key := by
  intro service stored isPrivate
  rw [same] at stored
  exact ⟨service, stored, isPrivate, rfl⟩

/-- A digit of a hash is neither blank nor the terminator. -/
theorem hexDigit_visible {c : Char} (digit : (('0' ≤ c && c ≤ '9') || ('a' ≤ c && c ≤ 'f')) = true) :
    isWhiteSpace c = false ∧ c ≠ '\x00' := by
  have small : c.toNat < 128 := by
    simp only [Bool.or_eq_true, Bool.and_eq_true, decide_eq_true_eq] at digit
    change c.val.toNat < 128
    rcases digit with ⟨-, upper⟩ | ⟨-, upper⟩
    · exact Nat.lt_of_le_of_lt (UInt32.le_iff_toNat_le.mp upper) (by decide)
    · exact Nat.lt_of_le_of_lt (UInt32.le_iff_toNat_le.mp upper) (by decide)
  have every : ∀ code < 128, (('0' ≤ Char.ofNat code && Char.ofNat code ≤ '9') ||
      ('a' ≤ Char.ofNat code && Char.ofNat code ≤ 'f')) = true →
      isWhiteSpace (Char.ofNat code) = false ∧ Char.ofNat code ≠ '\x00' := by
    decide
  exact ascii_forall (fun c => (('0' ≤ c && c ≤ '9') || ('a' ≤ c && c ≤ 'f')) = true →
    isWhiteSpace c = false ∧ c ≠ '\x00') every small digit

theorem trim_hash {hash : String} (hex : IsTokenHash hash) : trim hash = hash := by
  have visible : ∀ c ∈ hash.toList, isWhiteSpace c = false :=
    fun c member => (hexDigit_visible (List.all_eq_true.mp hex.2 c member)).1
  rw [trim, trimList_visible visible, String.ofList_toList]

theorem isTokenHash_iff {hash : String} : isTokenHash hash = true ↔ IsTokenHash hash := by
  have swapped : (fun c : Char => ('a' ≤ c && c ≤ 'f') || ('0' ≤ c && c ≤ '9')) =
      fun c => ('0' ≤ c && c ≤ '9') || ('a' ≤ c && c ≤ 'f') := by
    funext c
    exact Bool.or_comm _ _
  unfold isTokenHash IsTokenHash
  rw [swapped, Bool.and_eq_true, decide_eq_true_eq]
  refine and_congr_left fun digits => ?_
  have whole : hash.toList.takeWhile (· ≠ '\x00') = hash.toList := by
    rw [List.takeWhile_eq_self_iff]
    intro c member
    simpa using (hexDigit_visible (List.all_eq_true.mp digits c member)).2
  rw [sqlLength, whole]

theorem tokenHash_hash {input : UpsertPublishedServiceInput} {hash : String} (hex : IsTokenHash hash)
    (given : input.accessTokenHash = some hash) : input.tokenHash = some hash := by
  have nonempty : hash ≠ "" := by
    intro empty
    rw [empty] at hex
    exact absurd hex.1 (by decide)
  unfold UpsertPublishedServiceInput.tokenHash
  rw [given, Option.map_some, trim_hash hex]
  simp [Option.filter, nonempty]

/-- The hash of a stored publication, if it is private. -/
theorem hash_of_private (stored : getPublishedServiceByName database key = some service)
    (isPrivate : service.visibility = .privateAccess) :
    service.authPolicy = .token ∧ ∃ hash, service.accessTokenHash = some hash ∧ IsTokenHash hash := by
  have checks : service.Checks := database.consistent .serviceChecks service (lookup_mem stored)
  rcases checks.2.2.2.1 with ⟨isPublic, _, _⟩ | ⟨_, _, policy, hash, has, hex⟩
  · rw [isPrivate] at isPublic
    cases isPublic
  · exact ⟨policy, hash, has, hex⟩

theorem private_of_hash {hash : String} (stored : getPublishedServiceByName database key = some service)
    (has : service.accessTokenHash = some hash) : service.visibility = .privateAccess := by
  have checks : service.Checks := database.consistent .serviceChecks service (lookup_mem stored)
  rcases checks.2.2.2.1 with ⟨_, _, absent⟩ | ⟨_, isPrivate, _⟩
  · rw [has] at absent
    cases absent
  · exact isPrivate

/-- A private row is read with its token and with no other text. -/
theorem mayRead_iff {request : ProxiedRequest} (stored : getPublishedServiceByName database key = some service)
    (isPrivate : service.visibility = .privateAccess)
    (has : service.accessTokenHash = some (settings.hashPublishedServiceToken token)) :
    mayRead settings.hashPublishedServiceToken request service = true ↔
      Presents settings.hashPublishedServiceToken request token := by
  obtain ⟨policy, hash, sameHash, hex⟩ := hash_of_private stored isPrivate
  rw [has, Option.some.injEq] at sameHash
  subst sameHash
  have nonempty : settings.hashPublishedServiceToken token ≠ "" := by
    intro empty
    rw [empty] at hex
    exact absurd hex.1 (by decide)
  have valid : isTokenHash (settings.hashPublishedServiceToken token) = true := isTokenHash_iff.mpr hex
  unfold mayRead publishedServiceTokenAuthenticated Presents
  simp [isPrivate, policy, has, nonempty, valid, and_assoc]

/-! ## What each call does to the policy -/

theorem publishWorkspaceService_other {input : PublishWorkspaceServiceInput} (other : key ≠ input.key) :
    getPublishedServiceByName (publishWorkspaceService settings context database input).1 key =
      getPublishedServiceByName database key := by
  cases prepared : preparePublication settings context database input with
  | error failure => simp only [publishWorkspaceService, prepared]
  | ok ready =>
      obtain ⟨owner, request⟩ := ready
      have same := preparePublication_ok prepared
      cases upserted : upsertPublishedService database request with
      | error failure => simp only [publishWorkspaceService, prepared, upserted]
      | ok result =>
          obtain ⟨stored, publication⟩ := result
          obtain ⟨_, _, untouched⟩ := upsertPublishedService_stored upserted
          have requested : request.key = input.key := by
            rw [same]
            rfl
          have unchanged := untouched key (requested ▸ other)
          obtain ⟨_, accepted, _⟩ := bind_ok.mp upserted
          obtain ⟨_, workspaceText, nameText⟩ := requestedService_ok accepted
          rw [same] at workspaceText nameText
          simp only [publishWorkspaceService, prepared, upserted, finishPublication]
          rcases @startListener_outcome settings context stored publication input with started | ⟨failure, stopped⟩
          · rw [started]
            cases audited : auditPublication stored owner context "workspace.service_published" publication with
            | error failure => simpa only [audited] using unchanged
            | ok final =>
                simp only [audited]
                exact (auditPublication_ok audited key).trans unchanged
          · obtain ⟨failed, looked⟩ := @abandonPublication_row context stored failure input workspaceText nameText
            cases outcome : abandonPublication context stored input failure with
            | mk given result =>
                simp only [outcome] at failed looked
                cases failed
                rw [stopped, outcome]
                refine (looked key).trans ?_
                rw [unchanged]
                simp [other]

/-- A call leaves the row as it is, or it writes one with the visibility and the hash that
it asks for. -/
theorem publishWorkspaceService_policy {input : PublishWorkspaceServiceInput}
    (changed : getPublishedServiceByName (publishWorkspaceService settings context database input).1 input.key ≠
      getPublishedServiceByName database input.key)
    (stored : getPublishedServiceByName (publishWorkspaceService settings context database input).1 input.key =
      some service) :
    service.visibility = input.visibility ∧ service.accessTokenHash =
      (publicationInput settings context input (getPublishedServiceByName database input.key)).tokenHash := by
  rcases @publishWorkspaceService_cases settings context database input with
    ⟨failure, refused⟩ | ⟨request, after, publication, same, upserted, outcome⟩
  · rw [refused] at changed
    exact absurd rfl changed
  · obtain ⟨row, _, _⟩ := upsertPublishedService_stored upserted
    have visibility : publication.visibility = input.visibility := by
      rw [row.visibility, same]
      rfl
    rcases outcome with active | ⟨_, revoked⟩
    · cases stored.symm.trans active
      exact ⟨visibility, same ▸ row.accessTokenHash⟩
    · cases stored.symm.trans revoked
      exact ⟨visibility, same ▸ row.accessTokenHash⟩

/-- A call that is to keep the policy keeps it. -/
theorem publishWorkspaceService_keeps {input : PublishWorkspaceServiceInput}
    (preserves : input.preserveAccessPolicy = true) :
    KeepsPrivate database (publishWorkspaceService settings context database input).1 key := by
  by_cases changed : getPublishedServiceByName (publishWorkspaceService settings context database input).1 key =
      getPublishedServiceByName database key
  · exact KeepsPrivate.refl changed
  · by_cases other : key = input.key
    · subst other
      intro service stored isPrivate
      obtain ⟨visibility, written⟩ := publishWorkspaceService_policy changed stored
      obtain ⟨_, hash, has, hex⟩ := hash_of_private stored isPrivate
      have asked : (publicationInput settings context input
          (getPublishedServiceByName database input.key)).accessTokenHash =
          (getPublishedServiceByName database input.key).bind (·.accessTokenHash) := by
        simp [publicationInput, preserves, ← visibility, isPrivate]
      cases before : getPublishedServiceByName database input.key with
      | none =>
          rw [before] at asked written
          rw [UpsertPublishedServiceInput.tokenHash, asked, has] at written
          cases written
      | some earlier =>
          rw [before, Option.bind_some] at asked
          cases kept : earlier.accessTokenHash with
          | none =>
              rw [before, UpsertPublishedServiceInput.tokenHash, asked, kept, has] at written
              cases written
          | some hash =>
              have earlierPrivate := private_of_hash before kept
              obtain ⟨_, known, same, hex⟩ := hash_of_private before earlierPrivate
              rw [kept, Option.some.injEq] at same
              subst same
              refine ⟨earlier, rfl, earlierPrivate, ?_⟩
              rw [written, before, tokenHash_hash hex (asked.trans kept), kept]
    · exact absurd (publishWorkspaceService_other other) changed

theorem disconnectWorkspaceService_keeps {workspaceId name : String} :
    KeepsPrivate database (disconnectWorkspaceService context database workspaceId name).1 key := by
  rcases @disconnectWorkspaceService_row context database workspaceId name with ⟨failure, refused⟩ | looked
  · exact KeepsPrivate.refl (by rw [refused])
  · intro service stored isPrivate
    rw [looked, Option.mem_def, Option.map_eq_some_iff] at stored
    obtain ⟨earlier, found, rfl⟩ := stored
    refine ⟨earlier, found, ?_⟩
    split at isPrivate
    · rename_i applies
      rw [if_pos applies]
      exact ⟨isPrivate, rfl⟩
    · rename_i kept
      rw [if_neg kept]
      exact ⟨isPrivate, rfl⟩

theorem setOrganizationPublicationConnected_keeps {directory : Directory} {input : SetPublicationConnectedInput} :
    KeepsPrivate database
      (setOrganizationPublicationConnected settings context database directory input).1 key := by
  rcases @setOrganizationPublicationConnected_cases settings context database directory input with
    ⟨failure, refused⟩ | nothing | ⟨existing, _, after, _⟩
  · exact KeepsPrivate.refl (by rw [refused])
  · exact KeepsPrivate.refl (by rw [nothing])
  · rw [after, applyConnected]
    split
    · exact publishWorkspaceService_keeps rfl
    · exact disconnectWorkspaceService_keeps

theorem revokeOrganizationPublishedServices_keeps {input : RevokeOrganizationPublishedServicesInput}
    {rows : List PublishedServiceRow}
    (revoked : revokeOrganizationPublishedServices database input = .ok (after, rows)) :
    KeepsPrivate database after key := by
  rcases revokeOrganizationPublishedServices_ok revoked with same | written
  · exact KeepsPrivate.refl (by rw [same])
  · intro service stored isPrivate
    have updated := @lookup_updateWhere PublishedServiceRow _ _ (·.key) database.tables.publishedServices key
      (fun service => ActiveIn database.tables (trim input.organizationId) service) (·.revoked input.now)
      fun _ _ => rfl
    rw [getPublishedServiceByName, written, revokeServicesIn, updated, Option.mem_def,
      Option.map_eq_some_iff] at stored
    obtain ⟨earlier, found, rfl⟩ := stored
    refine ⟨earlier, found, ?_⟩
    split at isPrivate
    · rename_i applies
      rw [if_pos applies]
      exact ⟨isPrivate, rfl⟩
    · rename_i kept
      rw [if_neg kept]
      exact ⟨isPrivate, rfl⟩

theorem other_keeps (kept : ∀ service ∈ after.tables.publishedServices, service ∈ database.tables.publishedServices) :
    KeepsPrivate database after key := by
  intro service stored isPrivate
  have present := kept service (lookup_mem stored)
  have found := getPublishedServiceByName_of_mem present
  rw [show service.key = key from lookup_key stored] at found
  exact ⟨service, found, isPrivate, rfl⟩

end Steps

/-! ## Over runs -/

section Runs

variable {settings : PublicationSettings} {key : String × String} {context : CallContext}
  {database : CloudDatabase} {history : TokenHistory} {activities : List PolicyActivity}

/-- Whatever is private under the key is so by the token. -/
def TokenKnown (settings : PublicationSettings) (key : String × String) (history : TokenHistory) : Prop :=
  ∀ service ∈ getPublishedServiceByName history.database key, service.visibility = .privateAccess →
    ∃ token ∈ history.token, service.accessTokenHash = some (settings.hashPublishedServiceToken token)

theorem TokenKnown.kept (known : TokenKnown settings key history)
    (keeps : KeepsPrivate history.database database key) : TokenKnown settings key ⟨database, history.token⟩ := by
  intro service stored isPrivate
  obtain ⟨earlier, found, wasPrivate, same⟩ := keeps service stored isPrivate
  obtain ⟨token, isToken, has⟩ := known earlier found wasPrivate
  exact ⟨token, isToken, same.symm.trans has⟩

theorem TokenKnown.published (hex : ∀ token, IsTokenHash (settings.hashPublishedServiceToken token))
    {input : PublishWorkspaceServiceInput} (known : TokenKnown settings key history) :
    TokenKnown settings key ((policies settings key).step history (.publish context input)) := by
  simp only [policies]
  split
  · rename_i same
    exact known.kept (KeepsPrivate.refl same)
  · rename_i changed
    by_cases other : key = input.key
    · subst other
      cases preserves : input.preserveAccessPolicy with
      | true =>
          intro service stored isPrivate
          obtain ⟨token, isToken, has⟩ := known.kept (publishWorkspaceService_keeps preserves) service stored isPrivate
          obtain ⟨visibility, _⟩ := publishWorkspaceService_policy changed stored
          refine ⟨token, ?_, has⟩
          rw [drawnToken, ← visibility, isPrivate, preserves]
          exact isToken
      | false =>
          intro service stored isPrivate
          obtain ⟨visibility, written⟩ := publishWorkspaceService_policy changed stored
          refine ⟨context.accessToken, ?_, ?_⟩
          · rw [drawnToken, ← visibility, isPrivate, preserves]
            rfl
          · rw [written]
            refine tokenHash_hash (hex _) ?_
            simp [publicationInput, newAccessToken, ← visibility, isPrivate, preserves]
    · exact absurd (publishWorkspaceService_other other) changed

theorem step_tokenKnown (hex : ∀ token, IsTokenHash (settings.hashPublishedServiceToken token))
    (activity : PolicyActivity) (enabled : (policies settings key).Enabled history activity)
    (known : TokenKnown settings key history) :
    TokenKnown settings key ((policies settings key).step history activity) := by
  cases activity with
  | publish context input => exact known.published hex
  | disconnect context workspaceId name => exact known.kept disconnectWorkspaceService_keeps
  | setConnected context directory input => exact known.kept setOrganizationPublicationConnected_keeps
  | revokeOrganization input =>
      simp only [policies]
      cases revoked : revokeOrganizationPublishedServices history.database input with
      | error failure => exact known
      | ok result => exact known.kept (revokeOrganizationPublishedServices_keeps revoked)
  | other database => exact known.kept (other_keeps enabled)

/-- Only a new policy comes with a new token. -/
theorem step_token (activity : PolicyActivity)
    (changed : ((policies settings key).step history activity).token ≠ history.token) : Replaces key activity := by
  cases activity with
  | publish context input =>
      simp only [policies] at changed
      split at changed
      · exact absurd rfl changed
      · rename_i written
        refine ⟨context, input, rfl, ?_, ?_⟩
        · by_contra other
          exact written (publishWorkspaceService_other (Ne.symm other))
        · unfold drawnToken at changed
          split at changed
          · exact .inl ‹_›
          · split at changed
            · exact absurd rfl changed
            · rename_i draws
              exact .inr (Bool.eq_false_iff.mpr draws)
  | disconnect | setConnected | other => exact absurd rfl changed
  | revokeOrganization input =>
      simp only [policies] at changed
      split at changed
      · exact absurd rfl changed
      · exact absurd rfl changed

/-- From any publication on that has told a token: whatever is private under the name is
read with the newest token and with nothing else.  That is the token that was told,
until a call makes the policy anew. -/
theorem accessToken_lasts (hex : ∀ token, IsTokenHash (settings.hashPublishedServiceToken token))
    {input : PublishWorkspaceServiceInput} {summary : PublishedServiceSummary} {token : String}
    (told : (publishWorkspaceService settings context database input).2 = .ok (summary, some token))
    (runs : (policies settings input.key).Runs
      ⟨(publishWorkspaceService settings context database input).1, some token⟩ activities) :
    let final := (policies settings input.key).run
      ⟨(publishWorkspaceService settings context database input).1, some token⟩ activities
    (∀ service ∈ getPublishedServiceByName final.database input.key, service.visibility = .privateAccess →
      ∃ newest ∈ final.token, ∀ request, mayRead settings.hashPublishedServiceToken request service = true ↔
        Presents settings.hashPublishedServiceToken request newest) ∧
    (final.token = some token ∨
      ∃ earlier activity later, activities = earlier ++ activity :: later ∧ Replaces input.key activity) := by
  have drawn : newAccessToken context input = some token := by
    unfold publishWorkspaceService at told
    split at told
    · cases told
    · split at told
      · cases told
      · unfold finishPublication at told
        split at told
        · cases told
        · split at told
          · cases told
          · exact congrArg Prod.snd (Except.ok.inj told)
  have start : TokenKnown settings input.key
      ⟨(publishWorkspaceService settings context database input).1, some token⟩ := by
    rcases @publishWorkspaceService_cases settings context database input with
      ⟨failure, refused⟩ | ⟨request, after, publication, same, upserted, active | ⟨⟨failure, thrown⟩, _⟩⟩
    · rw [refused] at told
      cases told
    · intro service stored isPrivate
      rw [active] at stored
      cases stored
      refine ⟨token, rfl, ?_⟩
      obtain ⟨row, _, _⟩ := upsertPublishedService_stored upserted
      have visibility : publication.visibility = input.visibility := by
        rw [row.visibility, same]
        rfl
      rw [row.accessTokenHash]
      refine tokenHash_hash (hex token) ?_
      have preserves : input.preserveAccessPolicy = false := by
        unfold newAccessToken at drawn
        split at drawn
        · exact (And.right ‹_›)
        · cases drawn
      rw [same]
      simp [publicationInput, drawn, ← visibility, isPrivate, preserves]
    · rw [thrown] at told
      cases told
  refine ⟨?_, ?_⟩
  · intro service stored isPrivate
    have step (history : TokenHistory) (activity : PolicyActivity)
        (enabled : (policies settings input.key).Enabled history activity)
        (known : TokenKnown settings input.key history) :
        True ∧ TokenKnown settings input.key ((policies settings input.key).step history activity) :=
      ⟨trivial, step_tokenKnown hex activity enabled known⟩
    have known := (runs.invariant start step).2
    obtain ⟨newest, isToken, has⟩ := known service stored isPrivate
    exact ⟨newest, isToken, fun request => mayRead_iff stored isPrivate has⟩
  · by_cases kept : ((policies settings input.key).run
      ⟨(publishWorkspaceService settings context database input).1, some token⟩ activities).token = some token
    · exact .inl kept
    · obtain ⟨earlier, activity, later, split, before, after⟩ :=
        System.exists_turn (fun history : TokenHistory => history.token ≠ some token) (by simp) kept
      have changed : ((policies settings input.key).step ((policies settings input.key).run
          ⟨(publishWorkspaceService settings context database input).1, some token⟩ earlier) activity).token ≠
          ((policies settings input.key).run
            ⟨(publishWorkspaceService settings context database input).1, some token⟩ earlier).token := by
        rw [not_not.mp before]
        exact after
      exact .inr ⟨earlier, activity, later, split, step_token activity changed⟩

end Runs

section Sample

/-- The SHA-256 digests of the two tokens that are drawn. -/
def sampleHash (token : String) : String :=
  if token = "key-1" then "be2974546978e3739e6d6da85c4be9f334ce32df2b9fd4b6ff1b55c0d57e9d44"
  else "7c36b0a9dedde119c75165957c6c9c187e65df1ee5db87c4c58ad503ad88cbe3"

theorem sampleHash_hex (token : String) : IsTokenHash (sampleHash token) := by
  unfold sampleHash
  split
  · decide
  · decide

def tokenHost : PublicationSettings := { openHost with hashPublishedServiceToken := sampleHash }

def privateSite : PublishWorkspaceServiceInput := ⟨"w1", "site", .http, 3000, .privateAccess, some 3600, false⟩

def firstKey : CallContext := { callAt "p1" 1000 with accessToken := "key-1" }

def lockedSite : CloudDatabase := (publishWorkspaceService tokenHost firstKey openWorkshop privateSite).1

theorem lockedSite_told : ∃ summary,
    (publishWorkspaceService tokenHost firstKey openWorkshop privateSite).2 = .ok (summary, some "key-1") :=
  ⟨⟨"p1", "site", .http, 3000, none, .active, .privateAccess, .token, "p1", some 3601000, 1000, 1000⟩,
    by decide +kernel⟩

/-- Off and on again. -/
def toggledSite : List PolicyActivity :=
  [.setConnected (callAt "p2" 1400) workshopDirectory ⟨"ada", "acme", "w1", "site", false⟩,
    .setConnected (callAt "p3" 2400) workshopDirectory ⟨"ada", "acme", "w1", "site", true⟩]

def toggled : TokenHistory := (policies tokenHost ("w1", "site")).run ⟨lockedSite, some "key-1"⟩ toggledSite

/-- Disconnected and connected again, the site is still read with the token that was told,
and not with another. -/
theorem accessToken_lasts_toggled :
    ∃ service, getPublishedServiceByName toggled.database ("w1", "site") = some service ∧
      mayRead sampleHash ⟨some " key-1", none⟩ service = true ∧
        mayRead sampleHash ⟨some "key-2", none⟩ service = false := by
  obtain ⟨summary, told⟩ := lockedSite_told
  obtain ⟨reads, _⟩ := accessToken_lasts sampleHash_hex told
    (show (policies tokenHost ("w1", "site")).Runs ⟨lockedSite, some "key-1"⟩ toggledSite by decide +kernel)
  have isPrivate : ∀ service ∈ getPublishedServiceByName toggled.database ("w1", "site"),
      service.visibility = .privateAccess := by
    decide +kernel
  obtain ⟨service, stored⟩ : ∃ service, getPublishedServiceByName toggled.database ("w1", "site") = some service :=
    Option.isSome_iff_exists.mp (by decide +kernel)
  obtain ⟨newest, isToken, each⟩ := reads service stored (isPrivate service stored)
  have same : newest = "key-1" := (Option.some.inj isToken).symm
  subst same
  refine ⟨service, stored, (each _).mpr (by decide), ?_⟩
  rw [← Bool.not_eq_true]
  exact fun other => absurd ((each _).mp other) (by decide)

end Sample

end NebulaCloud.Publication
