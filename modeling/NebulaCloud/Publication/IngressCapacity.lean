import NebulaCloud.Database.Deletion
import NebulaCloud.Publication.Addresses

namespace NebulaCloud.Publication

open NebulaCloud.Data NebulaCloud.Database NebulaCloud.Platform

/-! # Capacity of the TCP ingress

A port belongs to the row of a publication, whatever state that is in: the
publication finds its port again when it comes back, and nobody else gets it before
the row gives it up. -/

/-- Some publication, live or not, has the port. -/
def PortRecorded (tables : Tables) (port : Int) : Prop :=
  ∃ service ∈ tables.publishedServices, service.ingressPort = some port

instance (tables : Tables) (port : Int) : Decidable (PortRecorded tables port) :=
  inferInstanceAs (Decidable (∃ service ∈ tables.publishedServices, _))

/-- The publication passes every check that comes before its port is chosen, the quotas
among them. -/
def PassesChecks (database : CloudDatabase) (input : UpsertPublishedServiceInput) : Prop :=
  ∃ requested, requestedService input = .ok requested ∧
    ∃ workspace, getWorkspaceById database requested.workspaceId = some workspace ∧
      checkExpiry input.expiresAt input.now = .ok () ∧ checkAccess requested = .ok () ∧
      checkQuotas database.tables workspace (getPublishedServiceByName database requested.key) input = .ok ()

/-- Every port of the range is recorded, and none of them by the publication itself. -/
def Exhausted (database : CloudDatabase) (input : UpsertPublishedServiceInput) : Prop :=
  ∃ minimum ∈ input.tcpIngressPortMinimum, ∃ maximum ∈ input.tcpIngressPortMaximum,
    IsIngressRange minimum maximum ∧
      (∀ port, minimum ≤ port → port ≤ maximum → PortRecorded database.tables port) ∧
      ∀ stored ∈ getPublishedServiceByName database input.key, ∀ port, HasPort port stored →
        ¬ (minimum ≤ port ∧ port ≤ maximum)

section Capacity

variable {database after : CloudDatabase} {tables : Tables} {input : UpsertPublishedServiceInput}
  {requested service : PublishedServiceRow} {existing : Option PublishedServiceRow} {failure : Failure}
  {minimum maximum port : Int}

/-! ## Which check throws -/

theorem publishedServiceText_error {value field : String}
    (rejected : publishedServiceText value field = .error failure) : ∃ message, failure = .error message := by
  unfold publishedServiceText at rejected
  split at rejected <;> cases rejected
  exact ⟨_, rfl⟩

theorem requestedService_error (rejected : requestedService input = .error failure) :
    ∃ message, failure = .error message := by
  have name : ∀ {value : String} {failure : Failure}, publishedServiceName value = .error failure →
      ∃ message, failure = .error message := by
    intro value failure rejected
    unfold publishedServiceName at rejected
    split at rejected <;> cases rejected
    exact ⟨_, rfl⟩
  have number : ∀ {value : Int} {failure : Failure}, publishedServicePort value = .error failure →
      ∃ message, failure = .error message := by
    intro value failure rejected
    unfold publishedServicePort at rejected
    split at rejected <;> cases rejected
    exact ⟨_, rfl⟩
  rcases bind_error.mp rejected with thrown | ⟨_, _, rejected⟩
  · exact publishedServiceText_error thrown
  rcases bind_error.mp rejected with thrown | ⟨_, _, rejected⟩
  · exact publishedServiceText_error thrown
  rcases bind_error.mp rejected with thrown | ⟨_, _, rejected⟩
  · exact name thrown
  rcases bind_error.mp rejected with thrown | ⟨_, _, rejected⟩
  · exact publishedServiceText_error thrown
  rcases bind_error.mp rejected with thrown | ⟨_, _, rejected⟩
  · exact number thrown
  split at rejected
  · cases rejected
    exact ⟨_, rfl⟩
  · split at rejected
    · cases rejected
      exact ⟨_, rfl⟩
    · cases rejected

theorem checkExpiry_error {expiresAt : Option Int} {now : Int}
    (rejected : checkExpiry expiresAt now = .error failure) : ∃ message, failure = .error message := by
  unfold checkExpiry at rejected
  split at rejected
  · cases rejected
  · split at rejected
    · cases rejected
      exact ⟨_, rfl⟩
    · split at rejected
      · cases rejected
        exact ⟨_, rfl⟩
      · cases rejected

theorem checkAccess_error (rejected : checkAccess requested = .error failure) :
    ∃ message, failure = .error message := by
  unfold checkAccess at rejected
  split at rejected
  · cases rejected
    exact ⟨_, rfl⟩
  · split at rejected
    · cases rejected
      exact ⟨_, rfl⟩
    · cases rejected

theorem checkQuotas_error {workspace : WorkspaceRow}
    (rejected : checkQuotas tables workspace existing input = .error failure) :
    failure = .publishedServiceLimit ∨ failure = .organizationPublishedServiceLimit := by
  unfold checkQuotas at rejected
  split at rejected
  · cases rejected
  · split at rejected
    · cases rejected
      exact .inl rfl
    · split at rejected
      · cases rejected
        exact .inr rfl
      · cases rejected

/-! ## The choice of a port -/

theorem freeIngressPort_eq_none : freeIngressPort tables minimum maximum = none ↔
    ∀ port, minimum ≤ port → port ≤ maximum → PortRecorded tables port := by
  unfold freeIngressPort
  rw [List.find?_eq_none]
  constructor
  · intro none port lower upper
    have recorded := none port (mem_portsBetween.mpr ⟨lower, upper⟩)
    simpa [PortRecorded] using recorded
  · intro recorded port member
    obtain ⟨lower, upper⟩ := mem_portsBetween.mp member
    obtain ⟨service, stored, holds⟩ := recorded port lower upper
    simpa using ⟨service, stored, holds⟩

theorem keptIngressPort_eq_none : keptIngressPort minimum maximum existing = none ↔
    ∀ stored ∈ existing, ∀ port, HasPort port stored → ¬ (minimum ≤ port ∧ port ≤ maximum) := by
  cases existing with
  | none => simp [keptIngressPort]
  | some stored =>
      by_cases tcp : stored.protocol = .tcp
      · simp [keptIngressPort, tcp, HasPort, Option.filter_eq_none_iff]
      · simp [keptIngressPort, tcp, HasPort]

theorem chooseIngressPort_capacity :
    chooseIngressPort tables existing input = .error .publishedServiceIngressCapacity ↔
      input.requestedProtocol = .tcp ∧
        ∃ minimum ∈ input.tcpIngressPortMinimum, ∃ maximum ∈ input.tcpIngressPortMaximum,
          IsIngressRange minimum maximum ∧ keptIngressPort minimum maximum existing = none ∧
            freeIngressPort tables minimum maximum = none := by
  unfold chooseIngressPort
  cases protocol : input.requestedProtocol with
  | http => simp
  | tcp =>
      cases input.tcpIngressPortMinimum with
      | none => simp
      | some minimum =>
          cases input.tcpIngressPortMaximum with
          | none => simp
          | some maximum =>
              by_cases range : IsIngressRange minimum maximum
              · cases kept : keptIngressPort minimum maximum existing with
                | some port => simp [range, kept]
                | none =>
                    cases free : freeIngressPort tables minimum maximum with
                    | some port => simp [range, kept, free]
                    | none => simp [range, kept, free]
              · simp [range]

/-- The capacity error comes from the choice of the port and from nowhere else. -/
theorem upsertPublishedService_capacity :
    upsertPublishedService database input = .error .publishedServiceIngressCapacity ↔
      PassesChecks database input ∧ input.requestedProtocol = .tcp ∧ Exhausted database input := by
  have chosen : ∀ {requested : PublishedServiceRow}, requestedService input = .ok requested →
      (chooseIngressPort database.tables (getPublishedServiceByName database requested.key) input =
          .error .publishedServiceIngressCapacity ↔
        input.requestedProtocol = .tcp ∧ Exhausted database input) := by
    intro requested accepted
    obtain ⟨⟨id, slug, rfl⟩, _⟩ := requestedService_ok accepted
    rw [chooseIngressPort_capacity]
    simp only [keptIngressPort_eq_none, freeIngressPort_eq_none, Exhausted]
    apply and_congr_right
    intro _
    constructor
    · rintro ⟨minimum, isMinimum, maximum, isMaximum, range, own, recorded⟩
      exact ⟨minimum, isMinimum, maximum, isMaximum, range, recorded, own⟩
    · rintro ⟨minimum, isMinimum, maximum, isMaximum, range, recorded, own⟩
      exact ⟨minimum, isMinimum, maximum, isMaximum, range, own, recorded⟩
  constructor
  · intro rejected
    rcases bind_error.mp rejected with thrown | ⟨requested, accepted, rejected⟩
    · obtain ⟨message, same⟩ := requestedService_error thrown
      cases same
    · unfold publish at rejected
      split at rejected
      · cases rejected
      · rename_i workspace found
        rcases bind_error.mp rejected with thrown | ⟨_, expiry, rejected⟩
        · obtain ⟨message, same⟩ := checkExpiry_error thrown
          cases same
        rcases bind_error.mp rejected with thrown | ⟨_, access, rejected⟩
        · obtain ⟨message, same⟩ := checkAccess_error thrown
          cases same
        rcases bind_error.mp rejected with thrown | ⟨_, quotas, rejected⟩
        · rcases checkQuotas_error thrown with same | same <;> cases same
        rcases bind_error.mp rejected with thrown | ⟨ingressPort, _, rejected⟩
        · exact ⟨⟨requested, accepted, workspace, found, expiry, access, quotas⟩, (chosen accepted).mp thrown⟩
        rcases bind_error.mp rejected with thrown | ⟨written, _, rejected⟩
        · obtain ⟨constraint, same⟩ := Store.execute_error thrown
          cases same
        split at rejected <;> cases rejected
  · rintro ⟨⟨requested, accepted, workspace, found, expiry, access, quotas⟩, exhausted⟩
    refine bind_error.mpr (.inr ⟨requested, accepted, ?_⟩)
    unfold publish
    rw [found]
    refine bind_error.mpr (.inr ⟨(), expiry, ?_⟩)
    refine bind_error.mpr (.inr ⟨(), access, ?_⟩)
    refine bind_error.mpr (.inr ⟨(), quotas, ?_⟩)
    exact bind_error.mpr (.inl ((chosen accepted).mpr exhausted))

/-! ## Who gets a port back -/

/-- A port belongs to one row. -/
theorem eq_of_port (database : CloudDatabase) {left right : PublishedServiceRow}
    (leftStored : left ∈ database.tables.publishedServices)
    (rightStored : right ∈ database.tables.publishedServices) (leftPort : left.ingressPort = some port)
    (rightPort : right.ingressPort = some port) : left = right :=
  eq_of_column (database.consistent .serviceIngressPort) leftStored rightStored leftPort rightPort

/-- A publication that is published again finds the port that it has in the range. -/
theorem upsertPublishedService_reclaims {stored : PublishedServiceRow}
    (found : getPublishedServiceByName database input.key = some stored) (has : HasPort port stored)
    (tcp : input.requestedProtocol = .tcp) (isMinimum : minimum ∈ input.tcpIngressPortMinimum)
    (isMaximum : maximum ∈ input.tcpIngressPortMaximum) (within : minimum ≤ port ∧ port ≤ maximum) :
    upsertPublishedService database input ≠ .error .publishedServiceIngressCapacity ∧
      ∀ after service, upsertPublishedService database input = .ok (after, service) →
        service.ingressPort = some port := by
  constructor
  · intro rejected
    obtain ⟨_, _, otherMinimum, isOther, otherMaximum, isOtherMaximum, _, _, own⟩ :=
      upsertPublishedService_capacity.mp rejected
    cases isMinimum.symm.trans isOther
    cases isMaximum.symm.trans isOtherMaximum
    exact own stored found port has within
  · intro after service published
    obtain ⟨excluded, admitted, written, returned⟩ := upsertPublishedService_ok published
    rw [getPublishedServiceByName_stored written, if_pos admitted.key, found, Option.some.injEq] at returned
    obtain ⟨http, _⟩ | ⟨_, number, chosen, choice⟩ := admitted.port
    · rw [tcp] at http
      cases http
    · rw [found] at choice
      rw [← returned]
      show excluded.ingressPort = some port
      rw [chosen, choice.kept minimum isMinimum maximum isMaximum port (keptIngressPort_of_hasPort has within)]

/-- A publication that comes back over HTTP gives its port up. -/
theorem upsertPublishedService_releases {stored : PublishedServiceRow}
    (found : getPublishedServiceByName database input.key = some stored)
    (recorded : stored.ingressPort = some port) (http : input.requestedProtocol = .http)
    (published : upsertPublishedService database input = .ok (after, service)) :
    ¬ PortRecorded after.tables port := by
  obtain ⟨excluded, admitted, written, _⟩ := upsertPublishedService_ok published
  have noPort : excluded.ingressPort = none := by
    obtain ⟨_, none⟩ | ⟨tcp, _⟩ := admitted.port
    · exact none
    · rw [http] at tcp
      cases tcp
  rintro ⟨other, held, has⟩
  rw [written] at held
  rcases (mem_upsert (key_distinct database)).mp held with rfl | ⟨old, apart⟩
  · have none : (upserted (fun _ _ => true) PublishedServiceRow.republished excluded
        (lookup (·.key) database.tables.publishedServices excluded.key)).ingressPort = none := by
      cases lookup (·.key) database.tables.publishedServices excluded.key with
      | none => exact noPort
      | some row => exact noPort
    rw [none] at has
    cases has
  · have same : other = stored := eq_of_port database old (lookup_mem found) has recorded
    apply apart
    rw [same, admitted.key]
    exact lookup_key found

/-- A deleted workspace gives up the ports of its publications. -/
theorem deleteWorkspace_releases {workspaceId : String} {now : Int}
    (deleted : deleteWorkspace database workspaceId now = .ok after)
    (stored : service ∈ database.tables.publishedServices) (own : service.workspaceId = workspaceId)
    (recorded : service.ingressPort = some port) : ¬ PortRecorded after.tables port := by
  rintro ⟨other, held, has⟩
  rw [Store.execute_ok.mp deleted] at held
  obtain ⟨old, kept⟩ := List.mem_filter.mp held
  have same : other = service := eq_of_port database old stored has recorded
  subst same
  obtain ⟨workspace, listed, sameId⟩ := List.mem_map.mp (database.consistent .serviceWorkspace other stored)
  have gone : other.workspaceId ∈
      (database.tables.workspaces.filter fun workspace => workspace.id = workspaceId).map (·.id) :=
    List.mem_map.mpr ⟨workspace, List.mem_filter.mpr ⟨listed, by simp [sameId, own]⟩, sameId⟩
  simp [gone] at kept

/-- For every database and every publication: the capacity error means that every port
of the range is recorded and none by the publication itself.  A port that is recorded
comes back with its publication, and is free for others once that is published over
HTTP or its workspace is deleted. -/
theorem ingressCapacity (database : CloudDatabase) (input : UpsertPublishedServiceInput) :
    (upsertPublishedService database input = .error .publishedServiceIngressCapacity ↔
      PassesChecks database input ∧ input.requestedProtocol = .tcp ∧ Exhausted database input) ∧
    (∀ stored port, getPublishedServiceByName database input.key = some stored →
      (HasPort port stored → input.requestedProtocol = .tcp →
        (∃ minimum ∈ input.tcpIngressPortMinimum, ∃ maximum ∈ input.tcpIngressPortMaximum,
          minimum ≤ port ∧ port ≤ maximum) →
        upsertPublishedService database input ≠ .error .publishedServiceIngressCapacity ∧
          ∀ after service, upsertPublishedService database input = .ok (after, service) →
            service.ingressPort = some port) ∧
      (stored.ingressPort = some port → input.requestedProtocol = .http →
        ∀ after service, upsertPublishedService database input = .ok (after, service) →
          ¬ PortRecorded after.tables port)) ∧
    ∀ service ∈ database.tables.publishedServices, ∀ port, service.ingressPort = some port →
      ∀ now after, deleteWorkspace database service.workspaceId now = .ok after →
        ¬ PortRecorded after.tables port := by
  refine ⟨upsertPublishedService_capacity, ?_, ?_⟩
  · intro stored port found
    refine ⟨?_, fun recorded http after service => upsertPublishedService_releases found recorded http⟩
    rintro has tcp ⟨minimum, isMinimum, maximum, isMaximum, within⟩
    exact upsertPublishedService_reclaims found has tcp isMinimum isMaximum within
  · exact fun service stored port recorded now after deleted =>
      deleteWorkspace_releases deleted stored rfl recorded

end Capacity

section Sample

/-- A public TCP publication that may only have the port 20000. -/
def gamePort (workspaceId name slug : String) (now : Int) : UpsertPublishedServiceInput :=
  { page workspaceId name slug now with
    protocol := some .tcp
    tcpIngressPortMinimum := some 20000
    tcpIngressPortMaximum := some 20000 }

/-- The one port of the range belongs to a publication that has been revoked. -/
def gameRevoked : List PublicationEvent :=
  [.publish (gamePort "w1" "game" "s1" 1000), .revoke ⟨"w1", "game", 2000⟩]

def afterGame : CloudDatabase := ((metered 1 2).run ⟨workshop, 0⟩ gameRevoked).database

/-- Nobody else can publish in that reachable state, though no publication is live and
the quotas have room. -/
theorem revoked_publication_exhausts :
    (metered 1 2).Reachable ((metered 1 2).run ⟨workshop, 0⟩ gameRevoked) ∧
      PassesChecks afterGame (gamePort "w2" "other" "s2" 3000) ∧
      (∀ service ∈ afterGame.tables.publishedServices, ¬ service.IsLive 3000) ∧
      upsertPublishedService afterGame (gamePort "w2" "other" "s2" 3000) =
        .error .publishedServiceIngressCapacity := by
  have start : (metered 1 2).Reachable ⟨workshop, 0⟩ := .initial rfl
  have runs : (metered 1 2).Runs ⟨workshop, 0⟩ gameRevoked := by decide +kernel
  have rejected : upsertPublishedService afterGame (gamePort "w2" "other" "s2" 3000) =
      .error .publishedServiceIngressCapacity :=
    (@commit_failed _ _ _ afterGame _ _).mp (by decide +kernel)
  exact ⟨start.run runs, (upsertPublishedService_capacity.mp rejected).1, by decide +kernel, rejected⟩

/-- The game itself comes back to its port. -/
theorem ingressCapacity_gameReturns :
    ∀ after service, upsertPublishedService afterGame (gamePort "w1" "game" "s1" 3000) = .ok (after, service) →
      service.ingressPort = some 20000 := by
  have recorded : ∃ stored ∈ getPublishedServiceByName afterGame (gamePort "w1" "game" "s1" 3000).key,
      stored.protocol = .tcp ∧ stored.ingressPort = some 20000 := by
    decide +kernel
  obtain ⟨stored, found, has⟩ := recorded
  exact (((ingressCapacity afterGame (gamePort "w1" "game" "s1" 3000)).2.1 stored 20000 found).1 has rfl
    ⟨20000, rfl, 20000, rfl, le_rfl, le_rfl⟩).2

end Sample

end NebulaCloud.Publication
