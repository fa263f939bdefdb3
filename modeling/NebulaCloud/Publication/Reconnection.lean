import NebulaCloud.Publication.WorkspaceServices

namespace NebulaCloud.Publication

open NebulaCloud.Data NebulaCloud.Database NebulaCloud.Platform

/-! # Reconnection

A publication is published again from its row.  How long it was to live is read off the
row as the time from the last write to the expiry; a revocation is a write as well, so
that what is restored is what was left of the lifetime. -/

/-! ## Calls that come one after another -/

structure PublicationHistory where
  database : CloudDatabase
  clock : Int

/-- What goes on about one publication. -/
inductive PublicationActivity
  | setConnected (context : CallContext) (directory : Directory) (input : SetPublicationConnectedInput)
  | other (database : CloudDatabase)

section Activities

variable (settings : PublicationSettings) (key : String × String)

/-- Calls about the publication of the key, in the order of their clocks, and any other
activity that leaves its row alone. -/
def reconnections : System PublicationHistory PublicationActivity where
  Initial _ := True
  Enabled history
    | .setConnected context _ input => input.key = key ∧ history.clock ≤ context.now
    | .other database => getPublishedServiceByName database key = getPublishedServiceByName history.database key
  step history
    | .setConnected context directory input =>
        ⟨(setOrganizationPublicationConnected settings context history.database directory input).1, context.now⟩
    | .other database => { history with database }

instance (history : PublicationHistory) (activity : PublicationActivity) :
    Decidable ((reconnections settings key).Enabled history activity) :=
  match activity with
  | .setConnected _ _ _ => inferInstanceAs (Decidable (_ ∧ _))
  | .other _ => inferInstanceAs (Decidable (_ = _))

/-- A publication that ends before its shortest lifetime is disconnected within half a
second. -/
def DisconnectsPromptly (history : PublicationHistory) : PublicationActivity → Prop
  | .setConnected context _ input =>
      input.connected = false →
        ∀ service ∈ getPublishedServiceByName history.database key, service.state = .active →
          ∀ expiresAt ∈ service.expiresAt,
            expiresAt - service.updatedAt = publishedServiceMinimumTTLSeconds * 1000 ∨
              context.now - service.updatedAt ≤ 500
  | .other _ => True

instance (history : PublicationHistory) (activity : PublicationActivity) :
    Decidable (DisconnectsPromptly key history activity) :=
  match activity with
  | .setConnected _ _ input => inferInstanceAs (Decidable (input.connected = false → _))
  | .other _ => inferInstanceAs (Decidable True)

end Activities

/-- An active publication with the settings of the original one, which lives for its
lifetime from now on. -/
structure Restored (original : PublishedServiceRow) (lifetime : Option Int) (now : Int)
    (service : PublishedServiceRow) : Prop where
  state : service.state = .active
  protocol : service.protocol = original.protocol
  targetPort : service.targetPort = original.targetPort
  visibility : service.visibility = original.visibility
  accessTokenHash : service.accessTokenHash = original.accessTokenHash
  slug : service.slug = original.slug
  expiresAt : service.expiresAt = lifetime.map fun seconds => now + seconds * 1000

/-- A reconnect throws, finds nothing that it may touch, or restores the publication. -/
def Restores (settings : PublicationSettings) (key : String × String) (original : PublishedServiceRow)
    (lifetime : Option Int) (history : PublicationHistory) : PublicationActivity → Prop
  | .setConnected context directory input =>
      input.connected = true →
        let called := setOrganizationPublicationConnected settings context history.database directory input
        (∃ failure, called.2 = .error failure) ∨ called = (history.database, .ok none) ∨
          ∃ service ∈ getPublishedServiceByName called.1 key, Restored original lifetime context.now service
  | .other _ => True

/-! ## The lifetime of a row -/

section Lifetimes

variable {service : PublishedServiceRow} {lifetime : Option Int} {now : Int}

def StorableLifetime (lifetime : Option Int) : Prop :=
  ∀ seconds ∈ lifetime, publishedServiceMinimumTTLSeconds ≤ seconds ∧ seconds ≤ publishedServiceMaximumTTLSeconds

/-- The row that a publication writes tells its lifetime. -/
theorem originalTTLSeconds_published (bounds : StorableLifetime lifetime)
    (expiry : service.expiresAt = lifetime.map fun seconds => service.updatedAt + seconds * 1000) :
    originalTTLSeconds service = lifetime := by
  unfold originalTTLSeconds
  rw [expiry]
  cases lifetime with
  | none => rfl
  | some seconds =>
      obtain ⟨lower, upper⟩ := bounds seconds rfl
      simp only [publishedServiceMinimumTTLSeconds, publishedServiceMaximumTTLSeconds] at lower upper
      simp only [Option.map_some, Option.some.injEq]
      omega

/-- A revocation lets the row tell what is left, unless nothing noticeable has passed or
less is not allowed. -/
theorem originalTTLSeconds_revoked_iff (bounds : StorableLifetime lifetime) (later : service.updatedAt ≤ now)
    (expiry : service.expiresAt = lifetime.map fun seconds => service.updatedAt + seconds * 1000) :
    originalTTLSeconds (service.revoked now) = lifetime ↔
      ∀ expiresAt ∈ service.expiresAt,
        expiresAt - service.updatedAt = publishedServiceMinimumTTLSeconds * 1000 ∨
          now - service.updatedAt ≤ 500 := by
  unfold originalTTLSeconds
  simp only [PublishedServiceRow.revoked, expiry]
  cases lifetime with
  | none => simp
  | some seconds =>
      obtain ⟨lower, upper⟩ := bounds seconds rfl
      simp only [publishedServiceMinimumTTLSeconds, publishedServiceMaximumTTLSeconds] at lower upper ⊢
      simp only [Option.map_some, Option.mem_def, Option.some.injEq, forall_eq']
      omega

end Lifetimes

/-! ## What every row under the key keeps -/

structure KeepsSettings (original : PublishedServiceRow) (lifetime : Option Int) (clock : Int)
    (service : PublishedServiceRow) : Prop where
  protocol : service.protocol = original.protocol
  targetPort : service.targetPort = original.targetPort
  visibility : service.visibility = original.visibility
  accessTokenHash : service.accessTokenHash = original.accessTokenHash
  slug : service.slug = original.slug
  trimmed : (service.accessTokenHash.map trim).filter (· ≠ "") = service.accessTokenHash
  bounds : StorableLifetime lifetime
  told : originalTTLSeconds service = lifetime
  expiresAt : service.state = .active →
    service.expiresAt = lifetime.map fun seconds => service.updatedAt + seconds * 1000
  written : service.updatedAt ≤ clock

section Steps

variable {settings : PublicationSettings} {context : CallContext} {database after : CloudDatabase}
  {original service publication : PublishedServiceRow} {lifetime : Option Int} {clock : Int}

theorem tokenHash_trimmed (input : UpsertPublishedServiceInput) :
    (input.tokenHash.map trim).filter (· ≠ "") = input.tokenHash := by
  unfold UpsertPublishedServiceInput.tokenHash
  cases input.accessTokenHash with
  | none => rfl
  | some hash =>
      by_cases blank : trim hash = ""
      · simp [blank, Option.filter]
      · simp [blank, Option.filter]

theorem KeepsSettings.later (keeps : KeepsSettings original lifetime clock service) {now : Int}
    (later : clock ≤ now) : KeepsSettings original lifetime now service :=
  { keeps with written := keeps.written.trans later }

/-- A prompt revocation. -/
theorem KeepsSettings.revoked (keeps : KeepsSettings original lifetime clock service) {now : Int}
    (later : clock ≤ now) (active : service.state = .active)
    (prompt : ∀ expiresAt ∈ service.expiresAt,
      expiresAt - service.updatedAt = publishedServiceMinimumTTLSeconds * 1000 ∨ now - service.updatedAt ≤ 500) :
    KeepsSettings original lifetime now (service.revoked now) where
  protocol := keeps.protocol
  targetPort := keeps.targetPort
  visibility := keeps.visibility
  accessTokenHash := keeps.accessTokenHash
  slug := keeps.slug
  trimmed := keeps.trimmed
  bounds := keeps.bounds
  told := (originalTTLSeconds_revoked_iff keeps.bounds (keeps.written.trans later)
    (keeps.expiresAt active)).mpr prompt
  expiresAt := by simp [PublishedServiceRow.revoked]
  written := le_refl now

/-- The expiry of an accepted publication is within the limits of a lifetime. -/
theorem upsertPublishedService_expiry {input : UpsertPublishedServiceInput}
    (published : upsertPublishedService database input = .ok (after, service)) :
    ∀ expiresAt ∈ input.expiresAt, publishedServiceMinimumTTLSeconds * 1000 ≤ expiresAt - input.now ∧
      expiresAt - input.now ≤ publishedServiceMaximumTTLSeconds * 1000 := by
  obtain ⟨requested, _, published⟩ := bind_ok.mp published
  unfold publish at published
  split at published
  · cases published
  · obtain ⟨_, checked, _⟩ := bind_ok.mp published
    intro expiresAt expiry
    rw [Option.mem_def] at expiry
    rw [expiry] at checked
    simp only [checkExpiry] at checked
    split at checked
    · cases checked
    · split at checked
      · cases checked
      · omega

/-- A call stores nothing, or it stores what it asks for; where the listener does not
start, that is revoked at once. -/
theorem publishWorkspaceService_cases (input : PublishWorkspaceServiceInput) :
    (∃ failure, publishWorkspaceService settings context database input = (database, .error failure)) ∨
      ∃ request stored publication,
        request = publicationInput settings context input (getPublishedServiceByName database input.key) ∧
        upsertPublishedService database request = .ok (stored, publication) ∧
        ((getPublishedServiceByName (publishWorkspaceService settings context database input).1 input.key =
            some publication) ∨
          (∃ failure, (publishWorkspaceService settings context database input).2 = .error failure) ∧
            getPublishedServiceByName (publishWorkspaceService settings context database input).1 input.key =
              some (publication.revoked context.now)) := by
  cases prepared : preparePublication settings context database input with
  | error failure => exact .inl ⟨failure, by simp only [publishWorkspaceService, prepared]⟩
  | ok ready =>
      obtain ⟨owner, request⟩ := ready
      cases upserted : upsertPublishedService database request with
      | error failure => exact .inl ⟨failure, by simp only [publishWorkspaceService, prepared, upserted]⟩
      | ok result =>
          obtain ⟨stored, publication⟩ := result
          have same := preparePublication_ok prepared
          refine .inr ⟨request, stored, publication, same, upserted, ?_⟩
          obtain ⟨row, returned, _⟩ := upsertPublishedService_stored upserted
          rw [same] at returned
          have returned : getPublishedServiceByName stored input.key = some publication := returned
          obtain ⟨requested, accepted, _⟩ := bind_ok.mp upserted
          obtain ⟨_, workspaceText, nameText⟩ := requestedService_ok accepted
          rw [same] at workspaceText nameText
          simp only [publishWorkspaceService, prepared, upserted, finishPublication]
          rcases @startListener_outcome settings context stored publication input with started | ⟨failure, stopped⟩
          · rw [started]
            cases audited : auditPublication stored owner context "workspace.service_published" publication with
            | error failure =>
                simp only [audited]
                exact .inl returned
            | ok final =>
                simp only [audited]
                exact .inl ((auditPublication_ok audited input.key).trans returned)
          · obtain ⟨failed, looked⟩ := @abandonPublication_row context stored failure input workspaceText nameText
            cases outcome : abandonPublication context stored input failure with
            | mk given result =>
                simp only [outcome] at failed looked
                cases failed
                rw [stopped, outcome]
                refine .inr ⟨⟨failure, rfl⟩, (looked input.key).trans ?_⟩
                rw [returned, Option.map_some, if_pos ⟨rfl, row.state⟩]

/-- A publication of what the row tells has the settings and the lifetime of the
original. -/
theorem KeepsSettings.restored {input : SetPublicationConnectedInput}
    (found : getPublishedServiceByName database input.key = some service)
    (keeps : KeepsSettings original lifetime clock service)
    (row : StoredFrom database
      (publicationInput settings context (reconnectInput input service) (some service)) publication) :
    Restored original lifetime context.now publication ∧
      KeepsSettings original lifetime context.now publication := by
  have checks : service.Checks := database.consistent .serviceChecks service (lookup_mem found)
  have token : publication.accessTokenHash = service.accessTokenHash := by
    rw [row.accessTokenHash, ← keeps.trimmed]
    unfold UpsertPublishedServiceInput.tokenHash
    cases visibility : service.visibility with
    | privateAccess => simp [publicationInput, reconnectInput, visibility]
    | publicAccess =>
        have hidden : service.accessTokenHash = none := by
          rcases checks.2.2.2.1 with ⟨_, _, absent⟩ | ⟨_, isPrivate, _⟩
          · exact absent
          · rw [visibility] at isPrivate
            cases isPrivate
        simp [publicationInput, reconnectInput, visibility, hidden]
  have expiry : publication.expiresAt = lifetime.map fun seconds => context.now + seconds * 1000 := by
    rw [row.expiresAt, ← keeps.told]
    rfl
  have written : publication.updatedAt = context.now := row.updatedAt
  have slug : publication.slug = original.slug := (row.slug service found).trans keeps.slug
  refine ⟨⟨row.state, row.protocol.trans keeps.protocol, row.targetPort.trans keeps.targetPort,
    row.visibility.trans keeps.visibility, token.trans keeps.accessTokenHash, slug, expiry⟩, ?_⟩
  refine ⟨row.protocol.trans keeps.protocol, row.targetPort.trans keeps.targetPort,
    row.visibility.trans keeps.visibility, token.trans keeps.accessTokenHash, slug, ?_, keeps.bounds, ?_, ?_,
    written.le⟩
  · rw [token]
    exact keeps.trimmed
  · refine originalTTLSeconds_published keeps.bounds ?_
    rw [expiry, written]
  · intro _
    rw [expiry, written]

/-- A reconnect restores the publication, or it leaves behind a row that can be
reconnected later. -/
theorem KeepsSettings.reconnect {directory : Directory} {input : SetPublicationConnectedInput}
    (found : getPublishedServiceByName database input.key = some service)
    (keeps : KeepsSettings original lifetime clock service) (later : clock ≤ context.now)
    (connected : input.connected = true) :
    Restores settings input.key original lifetime ⟨database, clock⟩ (.setConnected context directory input) ∧
      ∃ kept ∈ getPublishedServiceByName
          (setOrganizationPublicationConnected settings context database directory input).1 input.key,
        KeepsSettings original lifetime context.now kept := by
  have unchanged : ∃ kept ∈ getPublishedServiceByName database input.key,
      KeepsSettings original lifetime context.now kept := ⟨service, found, keeps.later later⟩
  rcases @setOrganizationPublicationConnected_cases settings context database directory input with
    ⟨failure, refused⟩ | nothing | ⟨existing, stored, after, answered⟩
  · rw [refused]
    exact ⟨fun _ => .inl ⟨failure, by rw [refused]⟩, unchanged⟩
  · rw [nothing]
    exact ⟨fun _ => .inr (.inl nothing), unchanged⟩
  · rw [found, Option.mem_some_iff] at stored
    subst stored
    simp only [applyConnected, connected, if_true] at after answered
    have failed (failure : Failure)
        (thrown : (publishWorkspaceService settings context database (reconnectInput input service)).2 =
          .error failure) :
        (setOrganizationPublicationConnected settings context database directory input).2 = .error failure := by
      rw [thrown] at answered
      rcases answered with ⟨other, same, failed⟩ | ⟨done, _⟩
      · cases same
        exact failed
      · cases done
    rw [after]
    rcases @publishWorkspaceService_cases settings context database (reconnectInput input service) with
      ⟨failure, refused⟩ | ⟨request, stored, publication, same, upserted, outcome⟩
    · rw [refused] at failed ⊢
      exact ⟨fun _ => .inl ⟨failure, failed failure rfl⟩, unchanged⟩
    · obtain ⟨row, _, _⟩ := upsertPublishedService_stored upserted
      have sameRow : getPublishedServiceByName database (reconnectInput input service).key = some service := found
      rw [same, sameRow] at row
      obtain ⟨restored, kept⟩ := keeps.restored found row
      rcases outcome with active | ⟨⟨failure, thrown⟩, revoked⟩
      · exact ⟨fun _ => .inr (.inr ⟨publication, by rw [after]; exact active, restored⟩), publication, active, kept⟩
      · refine ⟨fun _ => .inl ⟨failure, failed failure thrown⟩, _, revoked, ?_⟩
        have written : publication.updatedAt = context.now := row.updatedAt
        exact kept.revoked (le_refl _) restored.state fun _ _ => .inr (by omega)

/-- A prompt disconnect. -/
theorem KeepsSettings.disconnect {directory : Directory} {input : SetPublicationConnectedInput}
    (found : getPublishedServiceByName database input.key = some service)
    (keeps : KeepsSettings original lifetime clock service) (later : clock ≤ context.now)
    (disconnected : input.connected = false)
    (prompt : DisconnectsPromptly input.key ⟨database, clock⟩ (.setConnected context directory input)) :
    ∃ kept ∈ getPublishedServiceByName
        (setOrganizationPublicationConnected settings context database directory input).1 input.key,
      KeepsSettings original lifetime context.now kept := by
  have unchanged : ∃ kept ∈ getPublishedServiceByName database input.key,
      KeepsSettings original lifetime context.now kept := ⟨service, found, keeps.later later⟩
  rcases @setOrganizationPublicationConnected_cases settings context database directory input with
    ⟨failure, refused⟩ | nothing | ⟨existing, stored, after, _⟩
  · rw [refused]
    exact unchanged
  · rw [nothing]
    exact unchanged
  · rw [found, Option.mem_some_iff] at stored
    subst stored
    simp only [applyConnected, disconnected, Bool.false_eq_true, if_false] at after
    rw [after]
    rcases @disconnectWorkspaceService_row context database input.workspaceId input.name with
      ⟨failure, refused⟩ | looked
    · rw [refused]
      exact unchanged
    · rw [looked, found, Option.map_some]
      refine ⟨_, rfl, ?_⟩
      split
      · rename_i applies
        exact keeps.revoked later applies.2.2 (prompt disconnected service found applies.2.2)
      · exact keeps.later later

/-- What was published keeps its own settings. -/
theorem KeepsSettings.published {request : UpsertPublishedServiceInput} {seconds : Option Int}
    (upserted : upsertPublishedService database request = .ok (after, publication))
    (expiry : request.expiresAt = seconds.map fun seconds => request.now + seconds * 1000) :
    KeepsSettings publication seconds request.now publication := by
  obtain ⟨row, _, _⟩ := upsertPublishedService_stored upserted
  have bounds : StorableLifetime seconds := by
    intro lifetime member
    have within := upsertPublishedService_expiry upserted (request.now + lifetime * 1000)
      (by rw [expiry, member]; rfl)
    omega
  have expiresAt : publication.expiresAt = seconds.map fun seconds => publication.updatedAt + seconds * 1000 := by
    rw [row.expiresAt, expiry, row.updatedAt]
  refine ⟨rfl, rfl, rfl, rfl, rfl, ?_, bounds, originalTTLSeconds_published bounds expiresAt,
    fun _ => expiresAt, row.updatedAt.le⟩
  rw [row.accessTokenHash]
  exact tokenHash_trimmed request

end Steps

/-! ## Whole histories -/

section Runs

variable {settings : PublicationSettings} {context : CallContext} {database : CloudDatabase}

/-- The row under the key after some calls. -/
def Keeps (key : String × String) (original : PublishedServiceRow) (lifetime : Option Int)
    (history : PublicationHistory) : Prop :=
  ∃ service ∈ getPublishedServiceByName history.database key,
    KeepsSettings original lifetime history.clock service

@[simp] theorem step_setConnected {key : String × String} {history : PublicationHistory} {directory : Directory}
    {input : SetPublicationConnectedInput} :
    (reconnections settings key).step history (.setConnected context directory input) =
      ⟨(setOrganizationPublicationConnected settings context history.database directory input).1,
        context.now⟩ := rfl

theorem keeps_step {key : String × String} {original : PublishedServiceRow} {lifetime : Option Int}
    (history : PublicationHistory) (activity : PublicationActivity)
    (met : (reconnections settings key).Enabled history activity ∧ DisconnectsPromptly key history activity)
    (keeps : Keeps key original lifetime history) :
    Restores settings key original lifetime history activity ∧
      Keeps key original lifetime ((reconnections settings key).step history activity) := by
  obtain ⟨database, clock⟩ := history
  obtain ⟨service, found, keeps⟩ := keeps
  cases activity with
  | other after =>
      obtain ⟨same, _⟩ := met
      exact ⟨trivial, service, same.trans found, keeps⟩
  | setConnected context directory input =>
      obtain ⟨⟨rfl, later⟩, prompt⟩ := met
      rw [step_setConnected]
      cases connected : input.connected with
      | true =>
          obtain ⟨restores, kept⟩ :=
            @KeepsSettings.reconnect settings context database original service lifetime clock directory input found
              keeps later connected
          exact ⟨restores, kept⟩
      | false =>
          have kept :=
            @KeepsSettings.disconnect settings context database original service lifetime clock directory input found
              keeps later connected prompt
          refine ⟨fun reconnects => ?_, kept⟩
          rw [connected] at reconnects
          cases reconnects

/-- For every publication and every later sequence of calls in which each disconnect is
prompt: each reconnect restores the settings and the lifetime. -/
theorem reconnections_restore {input : PublishWorkspaceServiceInput} {events : List PublicationActivity}
    {answer : PublishedServiceSummary × Option String}
    (published : (publishWorkspaceService settings context database input).2 = .ok answer)
    (runs : (reconnections settings input.key).Runs
      ⟨(publishWorkspaceService settings context database input).1, context.now⟩ events)
    (prompt : (reconnections settings input.key).Along (DisconnectsPromptly input.key)
      ⟨(publishWorkspaceService settings context database input).1, context.now⟩ events) :
    ∃ original ∈ getPublishedServiceByName (publishWorkspaceService settings context database input).1 input.key,
      original.expiresAt = input.ttlSeconds.map (fun seconds => context.now + seconds * 1000) ∧
        (reconnections settings input.key).Along
          (Restores settings input.key original input.ttlSeconds)
          ⟨(publishWorkspaceService settings context database input).1, context.now⟩ events := by
  rcases @publishWorkspaceService_cases settings context database input with
    ⟨failure, refused⟩ | ⟨request, stored, original, same, upserted, outcome⟩
  · rw [refused] at published
    cases published
  · rcases outcome with active | ⟨⟨failure, thrown⟩, _⟩
    · obtain ⟨row, _, _⟩ := upsertPublishedService_stored upserted
      have keeps : KeepsSettings original input.ttlSeconds request.now original :=
        KeepsSettings.published upserted (by rw [same]; rfl)
      rw [same] at row keeps
      exact ⟨original, active, row.expiresAt,
        ((runs.and prompt).invariant ⟨original, active, keeps⟩ fun history activity met holds =>
          keeps_step history activity met holds).1⟩
    · rw [thrown] at published
      cases published

end Runs

section Sample

/-- The workshop, in which publications may be made. -/
def openWorkshop : CloudDatabase :=
  Store.load
    { workshop.tables with platformControls := [⟨.publication, false, "", "system", 0⟩] }
    (by decide +kernel)

def openHost : PublicationSettings where
  tcpIngress := none
  tcpIngressHost := "tcp.nubols.com"
  tcpIngressPortMinimum := 20000
  tcpIngressPortMaximum := 20999
  workspacePublicationLimit := 5
  organizationPublicationLimit := 20
  publishedServiceURL := id
  hashPublishedServiceToken := id

def callAt (id : String) (now : Int) : CallContext := ⟨id, id, "", id, now, now, now⟩

/-- A public site that is to live for an hour, published at one second. -/
def hourlySite : PublishWorkspaceServiceInput := ⟨"w1", "site", .http, 3000, .publicAccess, some 3600, false⟩

def openedSite : PublicationHistory :=
  ⟨(publishWorkspaceService openHost (callAt "p1" 1000) openWorkshop hourlySite).1, 1000⟩

def workshopDirectory : Directory := ⟨[⟨"ada", "Ada", "ada@acme.test"⟩, ⟨"bob", "Bob", "bob@acme.test"⟩], []⟩

/-- The owner connects or disconnects the site. -/
def setSite (id : String) (now : Int) (connected : Bool) : PublicationActivity :=
  .setConnected (callAt id now) workshopDirectory ⟨"ada", "acme", "w1", "site", connected⟩

theorem openedSite_published :
    (publishWorkspaceService openHost (callAt "p1" 1000) openWorkshop hourlySite).2 =
      .ok (⟨"p1", "site", .http, 3000, none, .active, .publicAccess, .none, "p1", some 3601000, 1000, 1000⟩,
        none) := by
  decide +kernel

/-- Disconnected at once and connected again a second later, the site is as it was. -/
theorem reconnections_restore_prompt :
    ∃ original ∈ getPublishedServiceByName openedSite.database ("w1", "site"),
      original.expiresAt = some 3601000 ∧
        (reconnections openHost ("w1", "site")).Along (Restores openHost ("w1", "site") original (some 3600))
          openedSite [setSite "p2" 1400 false, setSite "p3" 2400 true] :=
  reconnections_restore openedSite_published (by decide +kernel) (by decide +kernel)

/-- Disconnected after a thousand seconds, the site that was to live for an hour comes
back for 2600 seconds. -/
theorem reconnect_shortens :
    ∃ original ∈ getPublishedServiceByName openedSite.database ("w1", "site"),
      original.expiresAt = some 3601000 ∧
        (reconnections openHost ("w1", "site")).Runs openedSite
          [setSite "p2" 1001000 false, setSite "p3" 1002000 true] ∧
        ¬ (reconnections openHost ("w1", "site")).Along (Restores openHost ("w1", "site") original (some 3600))
          openedSite [setSite "p2" 1001000 false, setSite "p3" 1002000 true] := by
  have published : (getPublishedServiceByName openedSite.database ("w1", "site")).map (·.expiresAt) =
      some (some 3601000) := by
    decide +kernel
  obtain ⟨original, found, expiry⟩ := Option.map_eq_some_iff.mp published
  refine ⟨original, found, expiry, by decide +kernel, ?_⟩
  obtain ⟨history, disconnected⟩ : ∃ history,
      history = (reconnections openHost ("w1", "site")).step openedSite (setSite "p2" 1001000 false) := ⟨_, rfl⟩
  obtain ⟨answered, shortened⟩ :
      (setOrganizationPublicationConnected openHost (callAt "p3" 1002000) history.database
          workshopDirectory ⟨"ada", "acme", "w1", "site", true⟩).2.map (·.isSome) = .ok true ∧
        (getPublishedServiceByName (setOrganizationPublicationConnected openHost (callAt "p3" 1002000)
          history.database workshopDirectory ⟨"ada", "acme", "w1", "site", true⟩).1 ("w1", "site")).map
            (·.expiresAt) = some (some 3602000) := by
    rw [disconnected]
    decide +kernel
  intro restores
  have reconnect := restores.2.1
  rw [← disconnected] at reconnect
  rcases reconnect rfl with ⟨failure, thrown⟩ | nothing | ⟨service, kept, restored⟩
  · rw [thrown] at answered
    cases answered
  · rw [nothing] at answered
    cases answered
  · rw [Option.mem_def.mp kept, Option.map_some, restored.expiresAt] at shortened
    cases shortened

end Sample

end NebulaCloud.Publication
