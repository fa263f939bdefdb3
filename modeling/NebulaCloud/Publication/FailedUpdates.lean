import NebulaCloud.Publication.WorkspaceServices

namespace NebulaCloud.Publication

open NebulaCloud.Data NebulaCloud.Database NebulaCloud.Platform

/-! # Failed updates

Once a publication is stored there is no way back to the one before it: a listener that
does not start revokes the row, and an audit record that is refused leaves the new
settings in place. -/

structure ServiceSettings where
  protocol : PublishedServiceProtocol
  targetPort : Int
  visibility : PublishedServiceVisibility
  accessTokenHash : Option String
  ingressPort : Option Int
  expiresAt : Option Int
deriving DecidableEq, Repr

def serviceSettings (service : PublishedServiceRow) : ServiceSettings where
  protocol := service.protocol
  targetPort := service.targetPort
  visibility := service.visibility
  accessTokenHash := service.accessTokenHash
  ingressPort := service.ingressPort
  expiresAt := service.expiresAt

/-- An active publication of the name is still there, with the same settings. -/
def Survives (before after : CloudDatabase) (key : String × String) : Prop :=
  ∀ service ∈ getPublishedServiceByName before key, service.state = .active →
    ∃ kept ∈ getPublishedServiceByName after key,
      kept.state = .active ∧ serviceSettings kept = serviceSettings service

instance (before after : CloudDatabase) (key : String × String) : Decidable (Survives before after key) :=
  inferInstanceAs (Decidable (∀ service ∈ getPublishedServiceByName before key, _))

section Failures

variable (settings : PublicationSettings) (context : CallContext) (database : CloudDatabase)
  (input : PublishWorkspaceServiceInput)

/-- The request gets as far as to be stored: no control is paused, the owner is known,
and the upsert finds nothing wrong with it. -/
def Storable : Prop :=
  ∃ owner request result, preparePublication settings context database input = .ok (owner, request) ∧
    upsertPublishedService database request = .ok result

/-- The request asks for the settings that a publication has, on a port that it may
keep and that can be listened on. -/
def AsksForTheSame (service : PublishedServiceRow) : Prop :=
  let request := publicationInput settings context input (some service)
  service.protocol = input.protocol ∧ service.targetPort = input.port ∧
    service.visibility = input.visibility ∧ service.accessTokenHash = request.tokenHash ∧
    service.expiresAt = request.expiresAt ∧
    (input.protocol = .tcp → ∃ port ∈ service.ingressPort,
      settings.tcpIngressPortMinimum ≤ port ∧ port ≤ settings.tcpIngressPortMaximum ∧
        ∃ tcpIngress ∈ settings.tcpIngress, tcpIngress.activate port = .ok ())

end Failures

section Specs

variable {settings : PublicationSettings} {context : CallContext} {database stored : CloudDatabase}
  {input : PublishWorkspaceServiceInput} {service : PublishedServiceRow} {failure : Failure}

/-- A listener that does not start leaves no active row under the name. -/
theorem abandonPublication_revokes
    (workspaceText : publishedServiceText input.workspaceId "Workspace id" = .ok (trim input.workspaceId))
    (nameText : publishedServiceName input.name = .ok (lowerCase (trim input.name))) :
    (abandonPublication context stored input failure).2 = .error failure ∧
      ∀ kept ∈ getPublishedServiceByName (abandonPublication context stored input failure).1 input.key,
        kept.state ≠ .active := by
  obtain ⟨failed, looked⟩ := @abandonPublication_row context stored failure input workspaceText nameText
  refine ⟨failed, fun kept held => ?_⟩
  rw [looked, Option.mem_map] at held
  obtain ⟨before, _, rfl⟩ := held
  by_cases active : before.state = .active
  · simp [active, PublishedServiceRow.revoked]
  · simp [active]

/-- The listener starts or the publication is given up. -/
theorem startListener_cases
    (workspaceText : publishedServiceText input.workspaceId "Workspace id" = .ok (trim input.workspaceId))
    (nameText : publishedServiceName input.name = .ok (lowerCase (trim input.name))) :
    startListener settings context stored input service = (stored, .ok ()) ∧
        (service.protocol = .tcp → ∃ port ∈ service.ingressPort,
          ∃ tcpIngress ∈ settings.tcpIngress, tcpIngress.activate port = .ok ()) ∨
      (∃ failure, (startListener settings context stored input service).2 = .error failure) ∧
        (∀ kept ∈ getPublishedServiceByName (startListener settings context stored input service).1 input.key,
          kept.state ≠ .active) ∧
        service.protocol = .tcp ∧ ∀ port ∈ service.ingressPort,
          ∀ tcpIngress ∈ settings.tcpIngress, tcpIngress.activate port ≠ .ok () := by
  unfold startListener
  cases service.protocol with
  | http => exact .inl ⟨rfl, by simp⟩
  | tcp =>
      cases port : service.ingressPort with
      | none =>
          have given := @abandonPublication_revokes context stored input
            (.error "TCP publication ingress could not be allocated") workspaceText nameText
          exact .inr ⟨⟨_, given.1⟩, given.2, rfl, by simp⟩
      | some number =>
          cases ingress : settings.tcpIngress with
          | none =>
              have given := @abandonPublication_revokes context stored input
                (.error "TCP publication ingress could not be allocated") workspaceText nameText
              exact .inr ⟨⟨_, given.1⟩, given.2, rfl, by simp⟩
          | some tcpIngress =>
              cases outcome : tcpIngress.activate number with
              | ok done =>
                  simp only [outcome]
                  exact .inl ⟨trivial, fun _ => ⟨number, rfl, tcpIngress, rfl, outcome⟩⟩
              | error failure =>
                  simp only [outcome]
                  have given := @abandonPublication_revokes context stored input failure workspaceText nameText
                  refine .inr ⟨⟨_, given.1⟩, given.2, trivial, ?_⟩
                  intro other same ingress sameIngress accepted
                  cases same
                  cases sameIngress
                  rw [outcome] at accepted
                  cases accepted

theorem serviceSettings_eq {left right : PublishedServiceRow} :
    serviceSettings left = serviceSettings right ↔
      left.protocol = right.protocol ∧ left.targetPort = right.targetPort ∧
        left.visibility = right.visibility ∧ left.accessTokenHash = right.accessTokenHash ∧
        left.ingressPort = right.ingressPort ∧ left.expiresAt = right.expiresAt := by
  simp [serviceSettings]

/-- A publication that may keep its port keeps it. -/
theorem chooseIngressPort_same {tables : Tables} {request : UpsertPublishedServiceInput}
    {chosen : Option Int} (checks : service.Checks) (sameProtocol : request.requestedProtocol = service.protocol)
    (within : service.protocol = .tcp → ∃ port ∈ service.ingressPort,
      ∃ minimum ∈ request.tcpIngressPortMinimum, ∃ maximum ∈ request.tcpIngressPortMaximum,
        minimum ≤ port ∧ port ≤ maximum)
    (choice : chooseIngressPort tables (some service) request = .ok chosen) : chosen = service.ingressPort := by
  rcases chooseIngressPort_ok choice with ⟨http, none⟩ | ⟨tcp, number, some, chosenPort⟩
  · rcases checks.2.1 with ⟨_, absent⟩ | ⟨tcp, _⟩
    · rw [none, absent]
    · rw [sameProtocol, tcp] at http
      cases http
  · rw [sameProtocol] at tcp
    obtain ⟨port, has, minimum, isMinimum, maximum, isMaximum, lower, upper⟩ := within tcp
    rw [some, has, chosenPort.kept minimum isMinimum maximum isMaximum port
      (keptIngressPort_of_hasPort ⟨tcp, has⟩ ⟨lower, upper⟩)]

/-- A request for the settings that a publication has stores the port that it has. -/
theorem storedPort_same {owner : WorkspaceOwnerIdentity} {request : UpsertPublishedServiceInput}
    {publication : PublishedServiceRow} (found : getPublishedServiceByName database input.key = some service)
    (prepared : preparePublication settings context database input = .ok (owner, request))
    (row : StoredFrom database request publication)
    (asked : AsksForTheSame settings context input service) : publication.ingressPort = service.ingressPort := by
  obtain ⟨protocol, _, _, _, _, tcp⟩ := asked
  have same := preparePublication_ok prepared
  rw [found] at same
  subst same
  have named : (publicationInput settings context input (some service)).key = input.key := rfl
  have choice := row.ingressPort
  rw [named, found] at choice
  have checks : service.Checks := database.consistent .serviceChecks service (lookup_mem found)
  have sameProtocol : (publicationInput settings context input (some service)).requestedProtocol =
      service.protocol := protocol.symm
  refine chooseIngressPort_same checks sameProtocol ?_ choice
  intro isTCP
  obtain ⟨port, has, lower, upper, _⟩ := tcp (protocol.symm.trans isTCP)
  exact ⟨port, has, _, rfl, _, rfl, lower, upper⟩

/-- The settings of a publication whose listener has started are those of the one
before it exactly when the request asked for them. -/
theorem stored_same_iff {owner : WorkspaceOwnerIdentity} {request : UpsertPublishedServiceInput}
    {publication : PublishedServiceRow} (found : getPublishedServiceByName database input.key = some service)
    (prepared : preparePublication settings context database input = .ok (owner, request))
    (row : StoredFrom database request publication)
    (started : publication.protocol = .tcp → ∃ port ∈ publication.ingressPort,
      ∃ tcpIngress ∈ settings.tcpIngress, tcpIngress.activate port = .ok ()) :
    serviceSettings publication = serviceSettings service ↔ AsksForTheSame settings context input service := by
  have keepsPort := @storedPort_same settings context database input service owner request publication
    found prepared row
  have same := preparePublication_ok prepared
  rw [found] at same
  subst same
  rw [serviceSettings_eq, row.protocol, row.targetPort, row.visibility, row.accessTokenHash, row.expiresAt]
  constructor
  · rintro ⟨protocol, targetPort, visibility, token, port, expiry⟩
    refine ⟨protocol.symm, targetPort.symm, visibility.symm, token.symm, expiry.symm, fun tcp => ?_⟩
    rcases chooseIngressPort_ok row.ingressPort with ⟨http, _⟩ | ⟨_, number, some, chosen⟩
    · have requested : input.protocol = .http := http
      rw [tcp] at requested
      cases requested
    · obtain ⟨listening, has, tcpIngress, enabled, activated⟩ := started (row.protocol.trans tcp)
      obtain ⟨minimum, isMinimum, maximum, isMaximum, lower, upper⟩ := chosen.within
      cases isMinimum
      cases isMaximum
      rw [some] at has
      cases has
      exact ⟨number, port.symm.trans some, lower, upper, tcpIngress, enabled, activated⟩
  · intro asked
    have samePort := keepsPort asked
    obtain ⟨protocol, targetPort, visibility, token, expiry, _⟩ := asked
    exact ⟨protocol.symm, targetPort.symm, visibility.symm, token.symm, samePort, expiry.symm⟩

/-- A listener that does not start on the new row would not start on the old one. -/
theorem not_asksForTheSame {owner : WorkspaceOwnerIdentity} {request : UpsertPublishedServiceInput}
    {publication : PublishedServiceRow} (found : getPublishedServiceByName database input.key = some service)
    (prepared : preparePublication settings context database input = .ok (owner, request))
    (row : StoredFrom database request publication) (tcp : publication.protocol = .tcp)
    (silent : ∀ port ∈ publication.ingressPort,
      ∀ tcpIngress ∈ settings.tcpIngress, tcpIngress.activate port ≠ .ok ()) :
    ¬ AsksForTheSame settings context input service := by
  intro asked
  have samePort := storedPort_same found prepared row asked
  have requested : input.protocol = .tcp := by
    rw [row.protocol, preparePublication_ok prepared] at tcp
    exact tcp
  obtain ⟨_, _, _, _, _, listens⟩ := asked
  obtain ⟨port, has, _, _, tcpIngress, enabled, activated⟩ := listens requested
  exact silent port (samePort.trans has) tcpIngress enabled activated

theorem publishWorkspaceService_notStorable (refused : ¬ Storable settings context database input) :
    (publishWorkspaceService settings context database input).1 = database := by
  cases prepared : preparePublication settings context database input with
  | error thrown => simp only [publishWorkspaceService, prepared]
  | ok ready =>
      obtain ⟨owner, request⟩ := ready
      cases upserted : upsertPublishedService database request with
      | error thrown => simp only [publishWorkspaceService, prepared, upserted]
      | ok result => exact absurd ⟨owner, request, result, prepared, upserted⟩ refused

/-- What the upsert has written over an active publication survives the rest of the call
exactly when it is the same. -/
theorem finishPublication_survives_iff {owner : WorkspaceOwnerIdentity} {request : UpsertPublishedServiceInput}
    {publication : PublishedServiceRow}
    (prepared : preparePublication settings context database input = .ok (owner, request))
    (upserted : upsertPublishedService database request = .ok (stored, publication))
    (failed : (finishPublication settings context stored input owner publication).2 = .error failure) :
    Survives database (finishPublication settings context stored input owner publication).1 input.key ↔
      ∀ service ∈ getPublishedServiceByName database input.key, service.state = .active →
        AsksForTheSame settings context input service := by
  obtain ⟨row, returned, _⟩ := upsertPublishedService_stored upserted
  obtain ⟨_, accepted, _⟩ := bind_ok.mp upserted
  obtain ⟨_, workspaceText, nameText⟩ := requestedService_ok accepted
  have requested := preparePublication_ok prepared
  have named : request.key = input.key := by
    rw [requested]
    rfl
  rw [named] at returned
  rw [requested] at workspaceText nameText
  unfold finishPublication at failed ⊢
  rcases @startListener_cases settings context stored input publication workspaceText nameText with
    ⟨started, listening⟩ | ⟨⟨thrown, stopped⟩, inactive, tcp, silent⟩
  · -- the listener runs, so the audit record was refused
    rw [started] at failed ⊢
    simp only at failed ⊢
    cases audited : auditPublication stored owner context "workspace.service_published" publication with
    | ok after => simp [audited] at failed
    | error refused =>
        simp only
        constructor
        · intro survives service found active
          obtain ⟨kept, held, _, sameSettings⟩ := survives service found active
          rw [returned] at held
          cases held
          exact (stored_same_iff found prepared row listening).mp sameSettings
        · intro asks service found active
          exact ⟨publication, returned, row.state,
            (stored_same_iff found prepared row listening).mpr (asks service found active)⟩
  · obtain ⟨given, outcome⟩ : ∃ given, startListener settings context stored input publication =
        (given, .error thrown) := ⟨_, Prod.ext rfl stopped⟩
    rw [outcome] at inactive ⊢
    simp only at inactive ⊢
    constructor
    · intro survives service found active
      obtain ⟨kept, held, keptActive, _⟩ := survives service found active
      exact absurd keptActive (inactive kept held)
    · intro asks service found active
      exact absurd (asks service found active) (not_asksForTheSame found prepared row tcp silent)

end Specs

section Sample

/-- The workshop with a public site. -/
def liveSite : CloudDatabase :=
  Store.load
    { workshop.tables with
      platformControls := [⟨.publication, false, "", "system", 0⟩]
      publishedServices :=
        [⟨"p1", "w1", "site", "s1", .http, 3000, none, .active, .publicAccess, .none, none, none, 1000, 1000,
          none⟩] }
    (by decide +kernel)

/-- A host on which no port can be listened on. -/
def busyHost : PublicationSettings where
  tcpIngress := some ⟨fun _ => .error (.error "listen EADDRINUSE")⟩
  tcpIngressHost := "tcp.nubols.com"
  tcpIngressPortMinimum := 20000
  tcpIngressPortMaximum := 20999
  workspacePublicationLimit := 5
  organizationPublicationLimit := 20
  publishedServiceURL := id
  hashPublishedServiceToken := id

def update : CallContext := ⟨"p2", "s2", "", "e1", 5000, 5001, 5002⟩

/-- The site published again, as it is but for its protocol and its port. -/
def siteOn (protocol : PublishedServiceProtocol) (port : Int) : PublishWorkspaceServiceInput :=
  ⟨"w1", "site", protocol, port, .publicAccess, none, false⟩

end Sample

end NebulaCloud.Publication
