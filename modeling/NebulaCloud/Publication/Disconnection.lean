import NebulaCloud.Publication.Reconnection

namespace NebulaCloud.Publication

open NebulaCloud.Data NebulaCloud.Database NebulaCloud.Platform

/-! # Disconnection

The actor may be any administrator, but a revocation needs an owner who is not disabled.
Without one nothing is revoked, and the publication is answered as it is. -/

section Answers

variable {settings : PublicationSettings} {context : CallContext} {database : CloudDatabase}
  {directory : Directory} {input : SetPublicationConnectedInput}
  {summary : OrganizationPublishedServiceSummary}

theorem listedService_publication {tables : Tables} {organizationId actorId : String} {organizationScope : Bool}
    {service : PublishedServiceRow} {entry : OrganizationPublishedService}
    (listed : listedService directory tables organizationId organizationScope actorId service = some entry) :
    entry.publication = service := by
  unfold listedService at listed
  split at listed
  · cases listed
  · split at listed
    · cases listed
    · split at listed
      · cases listed
      · split at listed
        · cases listed
          rfl
        · cases listed

/-- Every publication of a listing is a stored one. -/
theorem listOrganizationPublishedServices_stored {userId organizationId : String}
    {listed : List OrganizationPublishedService}
    (answered : listOrganizationPublishedServices directory database userId organizationId = .ok listed) :
    ∀ entry ∈ listed, entry.publication ∈ database.tables.publishedServices := by
  unfold listOrganizationPublishedServices at answered
  split at answered
  · cases answered
  · split at answered
    · cases answered
    · cases answered
      intro entry member
      obtain ⟨service, stored, row⟩ := List.mem_filterMap.mp ((List.mem_insertionSort _).mp member)
      rw [listedService_publication row]
      exact stored

/-- What is answered is the summary of the row that the request names. -/
theorem answerPublication_ok
    (answered : answerPublication settings context database directory input = .ok (some summary)) :
    ∃ entry, getPublishedServiceByName database (input.workspaceId, input.name) = some entry.publication ∧
      summary = organizationPublishedServiceSummary settings entry context.answeredAt := by
  obtain ⟨listed, listing, answered⟩ := bind_ok.mp answered
  simp only [Except.ok.injEq, Option.map_eq_some_iff] at answered
  obtain ⟨entry, found, rfl⟩ := answered
  have named := List.find?_some found
  simp only [Bool.and_eq_true, decide_eq_true_eq] at named
  have key : entry.publication.key = (input.workspaceId, input.name) := Prod.ext named.1 named.2
  have stored := listOrganizationPublishedServices_stored listing entry (List.mem_of_find?_eq_some found)
  refine ⟨entry, ?_, rfl⟩
  rw [← key]
  exact getPublishedServiceByName_of_mem stored

/-- For every database, actor and publication: the publication that a disconnect answers
is revoked exactly when it was before, or its owner is known and not disabled and the
request names it as it is stored. -/
theorem disconnect_revokes_iff (disconnected : input.connected = false)
    (answered : (setOrganizationPublicationConnected settings context database directory input).2 =
      .ok (some summary)) :
    ∃ before ∈ getPublishedServiceByName database (input.workspaceId, input.name), ∃ entry,
      getPublishedServiceByName (setOrganizationPublicationConnected settings context database directory input).1
          (input.workspaceId, input.name) = some entry.publication ∧
        summary = organizationPublishedServiceSummary settings entry context.answeredAt ∧
        (entry.publication.state = .revoked ↔
          before.state = .revoked ∨
            (getWorkspaceOwnerIdentity database input.workspaceId).isSome ∧
              (input.workspaceId, input.name) = input.key) := by
  rcases @setOrganizationPublicationConnected_cases settings context database directory input with
    ⟨failure, refused⟩ | nothing | ⟨existing, _, after, outcome⟩
  · rw [refused] at answered
    cases answered
  · rw [nothing] at answered
    cases answered
  · rcases outcome with ⟨failure, _, thrown⟩ | ⟨done, reread⟩
    · rw [thrown] at answered
      cases answered
    · rw [reread] at answered
      obtain ⟨entry, found, told⟩ := answerPublication_ok answered
      rw [after]
      simp only [applyConnected, disconnected, Bool.false_eq_true, if_false] at done found ⊢
      rcases @disconnectWorkspaceService_row context database input.workspaceId input.name with
        ⟨failure, refused⟩ | looked
      · rw [refused] at done
        cases done
      · rw [looked, Option.map_eq_some_iff] at found
        obtain ⟨before, stored, row⟩ := found
        refine ⟨before, stored, entry, ?_, told, ?_⟩
        · rw [looked, stored, ← row]
          rfl
        · rw [← row]
          split
          · rename_i applies
            exact ⟨fun _ => .inr ⟨applies.1, applies.2.1⟩, fun _ => rfl⟩
          · rename_i kept
            refine ⟨.inl, ?_⟩
            rintro (revoked | ⟨known, named⟩)
            · exact revoked
            · cases state : before.state with
              | revoked => rfl
              | active => exact absurd ⟨known, named, state⟩ kept

end Answers

section Sample

/-- The workshop with a public site of Bob's. -/
def siteOfBob : CloudDatabase :=
  Store.load
    { workshop.tables with
      publishedServices :=
        [⟨"p1", "w2", "site", "s1", .http, 3000, none, .active, .publicAccess, .none, none, none, 1000, 1000,
          none⟩] }
    (by decide +kernel)

def siteOfDisabledBob : CloudDatabase :=
  Store.load { siteOfBob.tables with memberStates := [⟨"m2", true⟩] } (by decide +kernel)

/-- The owner of the organization disconnects it. -/
def disconnectSite : SetPublicationConnectedInput := ⟨"ada", "acme", "w2", "site", false⟩

/-- Bob is disabled, and his site is answered as what it still is, active. -/
theorem disconnect_unrevoked :
    let called :=
      setOrganizationPublicationConnected openHost (callAt "e1" 5000) siteOfDisabledBob workshopDirectory
        disconnectSite
    called.2.map (·.map fun summary => (summary.publication.id, summary.publication.state)) =
        .ok (some ("p1", .active)) ∧
      (getPublishedServiceByName called.1 ("w2", "site")).map (·.state) = some .active := by
  decide +kernel

/-- While Bob may sign in, his site is revoked. -/
theorem disconnect_revokes_enabled :
    ∃ entry : OrganizationPublishedService,
      getPublishedServiceByName
          (setOrganizationPublicationConnected openHost (callAt "e1" 5000) siteOfBob workshopDirectory
            disconnectSite).1 ("w2", "site") = some entry.publication ∧
        entry.publication.state = .revoked := by
  have answered :
      (setOrganizationPublicationConnected openHost (callAt "e1" 5000) siteOfBob workshopDirectory
        disconnectSite).2 =
        .ok (some ⟨⟨"p1", "site", .http, 3000, none, .revoked, .publicAccess, .none, "s1", none, 1000, 5000⟩,
          "w2", "Bob", "bob@acme.test"⟩) := by
    decide +kernel
  obtain ⟨before, _, entry, found, _, revoked⟩ := disconnect_revokes_iff rfl answered
  exact ⟨entry, found, revoked.mpr (.inr (by decide +kernel))⟩

end Sample

end NebulaCloud.Publication
