import NebulaCloud.Data.System
import NebulaCloud.Database.PublishedService

namespace NebulaCloud.Publication

open NebulaCloud.Data NebulaCloud.Database

/-! # Publication quotas

The live publications of a workspace and of an organization stay within their
limits at every time, whatever is published, revoked, expires and comes back. -/

inductive PublicationEvent
  | publish (input : UpsertPublishedServiceInput)
  | revoke (input : RevokePublishedServiceInput)
  | revokeOrganization (input : RevokeOrganizationPublishedServicesInput)
deriving DecidableEq, Repr

/-- The clock reading of the operation. -/
def PublicationEvent.now : PublicationEvent → Int
  | .publish input => input.now
  | .revoke input => input.now
  | .revokeOrganization input => input.now

def perform (database : CloudDatabase) : PublicationEvent → CloudDatabase
  | .publish input => (commit database (upsertPublishedService database input)).1
  | .revoke input => (commit database (revokePublishedService database input)).1
  | .revokeOrganization input =>
      (commit database (revokeOrganizationPublishedServices database input)).1

/-! ## Live rows -/

section Counting

variable {scope : String → Bool} {now later : Int} {database : CloudDatabase}
  {services : List PublishedServiceRow}

/-- The live rows of the workspaces in a scope. -/
def liveIn (scope : String → Bool) (services : List PublishedServiceRow) (now : Int) : Nat :=
  services.countP fun service => scope service.workspaceId && service.IsLive now

/-- The workspaces of an organization. -/
def organizationScope (tables : Tables) (organizationId workspaceId : String) : Bool :=
  ∃ workspace ∈ tables.workspaces,
    workspace.id = workspaceId ∧ workspace.organizationId = organizationId

/-- Time alone only ends publications. -/
theorem liveIn_later (passed : now ≤ later) :
    liveIn scope services later ≤ liveIn scope services now := by
  refine List.countP_mono_left fun service _ counted => ?_
  simp only [Bool.and_eq_true, decide_eq_true_eq] at counted ⊢
  exact ⟨counted.1, counted.2.earlier passed⟩

theorem liveIn_revoked {selected : PublishedServiceRow → Bool} {timestamp : Int} :
    liveIn scope (updateWhere selected (·.revoked timestamp) services) now ≤
      liveIn scope services now := by
  refine countP_updateWhere_le fun service _ _ counted => ?_
  simp [PublishedServiceRow.revoked, PublishedServiceRow.IsLive] at counted

/-- A publication takes one place, unless it was live already. -/
theorem liveIn_stored (excluded : PublishedServiceRow) :
    liveIn scope (storeService excluded database.tables).publishedServices now +
        (if scope excluded.workspaceId = true ∧
          ∃ stored ∈ getPublishedServiceByName database excluded.key, stored.IsLive now
        then 1 else 0) ≤
      liveIn scope database.tables.publishedServices now +
        if scope excluded.workspaceId = true then 1 else 0 := by
  have distinct : (database.tables.publishedServices.map (·.key)).Nodup :=
    database.consistent .serviceName
  have balance := @countP_upsert_balance _ _ _ (·.key) (fun _ _ => true)
    PublishedServiceRow.republished excluded database.tables.publishedServices distinct
    fun service => scope service.workspaceId && service.IsLive now
  have left : (getPublishedServiceByName database excluded.key).any
      (fun service => scope service.workspaceId && service.IsLive now) = true ↔
      scope excluded.workspaceId = true ∧
        ∃ stored ∈ getPublishedServiceByName database excluded.key, stored.IsLive now := by
    cases found : getPublishedServiceByName database excluded.key with
    | none => simp
    | some stored =>
        have sameKey : stored.key = excluded.key := lookup_key found
        have sameWorkspace : stored.workspaceId = excluded.workspaceId := congrArg Prod.fst sameKey
        simp [sameWorkspace]
  have entered : ((upserted (fun _ _ => true) PublishedServiceRow.republished excluded
      (getPublishedServiceByName database excluded.key))).workspaceId = excluded.workspaceId := by
    cases found : getPublishedServiceByName database excluded.key with
    | none => rfl
    | some stored =>
        have sameKey : stored.key = excluded.key := lookup_key found
        exact congrArg Prod.fst sameKey
  simp only [← left]
  refine balance.trans_le (Nat.add_le_add_left ?_ _)
  split
  · rename_i counted
    rw [Bool.and_eq_true] at counted
    have covered : scope excluded.workspaceId = true := (congrArg scope entered).symm.trans counted.1
    rw [if_pos covered]
  · exact Nat.zero_le _

/-- So it stays within a limit if it finds room where it counts. -/
theorem liveIn_stored_le {excluded : PublishedServiceRow} {limit : Nat}
    (within : liveIn scope database.tables.publishedServices now ≤ limit)
    (room : scope excluded.workspaceId = true →
      (∃ stored ∈ getPublishedServiceByName database excluded.key, stored.IsLive now) ∨
        liveIn scope database.tables.publishedServices now < limit) :
    liveIn scope (storeService excluded database.tables).publishedServices now ≤ limit := by
  have step := @liveIn_stored scope now database excluded
  by_cases covered : scope excluded.workspaceId = true
  · rcases room covered with live | space
    · rw [if_pos ⟨covered, live⟩, if_pos covered] at step
      omega
    · rw [if_pos covered] at step
      omega
  · rw [if_neg covered] at step
    omega

end Counting

/-! ## Runs under a clock -/

structure PublicationState where
  database : CloudDatabase
  clock : Int

/-- The operation asks for these limits; revocations ask for none. -/
def HasLimits (maximumActive maximumOrganizationActive : Nat) : PublicationEvent → Prop
  | .publish input =>
      input.activeLimit = maximumActive ∧ input.organizationActiveLimit = maximumOrganizationActive
  | .revoke _ | .revokeOrganization _ => True

instance (maximumActive maximumOrganizationActive : Nat) :
    (event : PublicationEvent) → Decidable (HasLimits maximumActive maximumOrganizationActive event)
  | .publish _ => inferInstanceAs (Decidable (_ ∧ _))
  | .revoke _ | .revokeOrganization _ => .isTrue trivial

/-- Publications and revocations in any order under fixed limits, none earlier than
the one before. -/
def metered (maximumActive maximumOrganizationActive : Nat) :
    System PublicationState PublicationEvent where
  Initial state := state.database.tables.publishedServices = []
  Enabled state event :=
    state.clock ≤ event.now ∧ HasLimits maximumActive maximumOrganizationActive event
  step state event := { database := perform state.database event, clock := event.now }

instance (maximumActive maximumOrganizationActive : Nat) (state : PublicationState)
    (event : PublicationEvent) :
    Decidable ((metered maximumActive maximumOrganizationActive).Enabled state event) :=
  inferInstanceAs (Decidable (_ ∧ _))

/-- Both quotas, in every scope that one of them limits. -/
structure WithinQuotas (maximumActive maximumOrganizationActive : Nat) (tables : Tables) (now : Int) :
    Prop where
  workspace : ∀ workspaceId, liveServices tables workspaceId now ≤ maximumActive
  organization : ∀ organizationId,
    organizationLiveServices tables organizationId now ≤ maximumOrganizationActive

section Runs

variable {maximumActive maximumOrganizationActive : Nat} {database after : CloudDatabase}
  {tables next : Tables} {now time : Int}

/-! Both counts are counts of a scope. -/

theorem liveServices_eq (workspaceId : String) :
    liveServices tables workspaceId now =
      liveIn (fun id => id = workspaceId) tables.publishedServices now := rfl

theorem organizationLiveServices_eq (organizationId : String) :
    organizationLiveServices tables organizationId now =
      liveIn (organizationScope tables organizationId) tables.publishedServices now := rfl

theorem organizationScope_congr (same : next.workspaces = tables.workspaces) (organizationId : String) :
    organizationScope next organizationId = organizationScope tables organizationId := by
  unfold organizationScope
  rw [same]

/-- Where no scope has more live rows, the quotas still hold. -/
theorem WithinQuotas.of_fewer
    (within : WithinQuotas maximumActive maximumOrganizationActive tables now)
    (workspaces : next.workspaces = tables.workspaces)
    (fewer : ∀ scope, liveIn scope next.publishedServices time ≤
      liveIn scope tables.publishedServices now) :
    WithinQuotas maximumActive maximumOrganizationActive next time := by
  refine ⟨fun workspaceId => ?_, fun organizationId => ?_⟩
  · have before := within.workspace workspaceId
    rw [liveServices_eq] at before ⊢
    exact (fewer _).trans before
  · have before := within.organization organizationId
    rw [organizationLiveServices_eq] at before ⊢
    rw [organizationScope_congr workspaces]
    exact (fewer _).trans before

theorem withinQuotas_later (within : WithinQuotas maximumActive maximumOrganizationActive tables now)
    (passed : now ≤ time) : WithinQuotas maximumActive maximumOrganizationActive tables time :=
  within.of_fewer rfl fun _ => liveIn_later passed

theorem withinQuotas_revoked {selected : PublishedServiceRow → Bool} {timestamp : Int}
    (within : WithinQuotas maximumActive maximumOrganizationActive tables now)
    (workspaces : next.workspaces = tables.workspaces)
    (services : next.publishedServices =
      updateWhere selected (·.revoked timestamp) tables.publishedServices) :
    WithinQuotas maximumActive maximumOrganizationActive next now :=
  within.of_fewer workspaces fun _ => services ▸ liveIn_revoked

theorem withinQuotas_published {input : UpsertPublishedServiceInput} {service : PublishedServiceRow}
    (within : WithinQuotas maximumActive maximumOrganizationActive database.tables input.now)
    (limits : HasLimits maximumActive maximumOrganizationActive (.publish input))
    (published : upsertPublishedService database input = .ok (after, service)) :
    WithinQuotas maximumActive maximumOrganizationActive after.tables input.now := by
  obtain ⟨excluded, admitted, written, _⟩ := upsertPublishedService_ok published
  obtain ⟨limit, organizationLimit⟩ := limits
  have quotas := admitted.quotas
  rw [limit, organizationLimit, ← admitted.key] at quotas
  rw [written]
  refine ⟨fun workspaceId => ?_, fun organizationId => ?_⟩
  · have before := within.workspace workspaceId
    rw [liveServices_eq] at before ⊢
    refine liveIn_stored_le before fun covered => ?_
    refine quotas.imp_right fun ⟨workspace, found, room, _⟩ => ?_
    have sameId : workspace.id = workspaceId :=
      (lookup_key found).trans (of_decide_eq_true covered)
    rw [sameId] at room
    exact Int.ofNat_lt.mp room
  · have before := within.organization organizationId
    rw [organizationLiveServices_eq] at before ⊢
    refine liveIn_stored_le before fun covered => ?_
    refine quotas.imp_right fun ⟨workspace, found, _, room⟩ => ?_
    -- Workspaces have unique identifiers, so the publication has one organization.
    obtain ⟨owner, ownerMember, ownerId, owned⟩ := of_decide_eq_true covered
    have distinct : (database.tables.workspaces.map (·.id)).Nodup := database.consistent .workspaceId
    have same : owner = workspace :=
      eq_of_key distinct ownerMember (lookup_mem found) (ownerId.trans (lookup_key found).symm)
    rw [← same, owned] at room
    exact Int.ofNat_lt.mp room

theorem withinQuotas_commit {Value : Type} {body : Except Failure (CloudDatabase × Value)}
    (within : WithinQuotas maximumActive maximumOrganizationActive database.tables now)
    (kept : ∀ after value, body = .ok (after, value) →
      WithinQuotas maximumActive maximumOrganizationActive after.tables now) :
    WithinQuotas maximumActive maximumOrganizationActive (commit database body).1.tables now :=
  commit_preserves (fun state : CloudDatabase =>
    WithinQuotas maximumActive maximumOrganizationActive state.tables now) within kept

theorem withinQuotas_step (event : PublicationEvent)
    (within : WithinQuotas maximumActive maximumOrganizationActive database.tables event.now)
    (limits : HasLimits maximumActive maximumOrganizationActive event) :
    WithinQuotas maximumActive maximumOrganizationActive (perform database event).tables event.now := by
  cases event with
  | publish input =>
      simp only [perform, PublicationEvent.now] at within ⊢
      exact withinQuotas_commit within fun _ _ => withinQuotas_published within limits
  | revoke input =>
      simp only [perform, PublicationEvent.now] at within ⊢
      refine withinQuotas_commit within fun after revoked accepted => ?_
      obtain rfl | written := revokePublishedService_ok accepted
      · exact within
      · exact withinQuotas_revoked within (by rw [written]) (by rw [written])
  | revokeOrganization input =>
      simp only [perform, PublicationEvent.now] at within ⊢
      refine withinQuotas_commit within fun after rows accepted => ?_
      obtain rfl | written := revokeOrganizationPublishedServices_ok accepted
      · exact within
      · exact withinQuotas_revoked within (by rw [written]; rfl) (by rw [written]; rfl)

/-- In every reachable state both quotas hold from the clock on, and a rejected
publication leaves the table as it was. -/
structure QuotasKept (maximumActive maximumOrganizationActive : Nat) (state : PublicationState) :
    Prop where
  within : ∀ now, state.clock ≤ now →
    WithinQuotas maximumActive maximumOrganizationActive state.database.tables now
  rejected : ∀ input failure,
    (commit state.database (upsertPublishedService state.database input)).2 = .error failure →
      (perform state.database (.publish input)).tables.publishedServices =
        state.database.tables.publishedServices

theorem quotasKept_of_reachable {state : PublicationState}
    (reachable : (metered maximumActive maximumOrganizationActive).Reachable state) :
    QuotasKept maximumActive maximumOrganizationActive state := by
  have atClock : WithinQuotas maximumActive maximumOrganizationActive state.database.tables
      state.clock := by
    refine reachable.invariant (fun state : PublicationState =>
      WithinQuotas maximumActive maximumOrganizationActive state.database.tables state.clock) ?_ ?_
    · intro first empty
      have none (scope : String → Bool) :
          liveIn scope first.database.tables.publishedServices first.clock = 0 := by
        rw [empty]
        rfl
      refine ⟨fun workspaceId => ?_, fun organizationId => ?_⟩
      · rw [liveServices_eq, none]
        exact Nat.zero_le _
      · rw [organizationLiveServices_eq, none]
        exact Nat.zero_le _
    · rintro before event ⟨passed, limits⟩ within
      exact withinQuotas_step event (withinQuotas_later within passed) limits
  refine ⟨fun now passed => withinQuotas_later atClock passed, fun input failure rejected => ?_⟩
  simp only [perform, commit_rollback rejected]

end Runs

section Sample

set_option maxRecDepth 4000 in
/-- Two workspaces of one organization. -/
def workshop : CloudDatabase :=
  Store.load
    { Tables.empty with
      organizations := [⟨"acme"⟩]
      members := [⟨"m1", "ada", "acme", "owner"⟩, ⟨"m2", "bob", "acme", "member"⟩]
      workspaces :=
        [personalWorkspace ⟨"ada", "acme", "w1", 10⟩ "m1",
          personalWorkspace ⟨"bob", "acme", "w2", 10⟩ "m2"] }
    (by decide)

/-- A public page that lives for ten minutes, one a workspace and two in all. -/
def page (workspaceId name slug : String) (now : Int) : UpsertPublishedServiceInput where
  id := slug
  workspaceId := workspaceId
  name := name
  slug := slug
  protocol := none
  targetPort := 3000
  visibility := .publicAccess
  authPolicy := .none
  accessTokenHash := none
  expiresAt := some (now + 600000)
  tcpIngressPortMinimum := none
  tcpIngressPortMaximum := none
  maximumActive := some 1
  maximumOrganizationActive := some 2
  now := now

/-- The site expires, the docs take its place, and the site comes back once they are
revoked. -/
def siteAndDocs : List PublicationEvent :=
  [.publish (page "w1" "site" "s1" 1000), .publish (page "w1" "docs" "s2" 2000),
    .publish (page "w1" "docs" "s2" 700000), .publish (page "w1" "Site " "s3" 700001),
    .revoke ⟨"w1", "docs", 700002⟩, .publish (page "w1" "Site " "s3" 700003)]

theorem quotasKept_siteAndDocs :
    ((metered 1 2).run ⟨workshop, 0⟩ siteAndDocs).database.tables.publishedServices.map
        (fun service => (service.slug, service.state)) = [("s1", .active), ("s2", .revoked)] ∧
      QuotasKept 1 2 ((metered 1 2).run ⟨workshop, 0⟩ siteAndDocs) := by
  have start : (metered 1 2).Reachable ⟨workshop, 0⟩ := .initial rfl
  have runs : (metered 1 2).Runs ⟨workshop, 0⟩ siteAndDocs := by decide +kernel
  exact ⟨by decide +kernel, quotasKept_of_reachable (start.run runs)⟩

end Sample

end NebulaCloud.Publication
