import NebulaCloud.Publication.Quotas

namespace NebulaCloud.Publication

open NebulaCloud.Data NebulaCloud.Database

/-! # Publication addresses

A publication keeps its slug for good and its port as long as it stays a TCP
publication of the range. -/

/-- Publications and revocations in any order.  Expiry is the passing of time and
changes no row. -/
def publications : System CloudDatabase PublicationEvent where
  Initial _ := True
  Enabled _ _ := True
  step := perform

/-- An accepted publication under the key asks for TCP in a range with the port. -/
def KeepsPort (key : String × String) (port : Int) (database : CloudDatabase) :
    PublicationEvent → Prop
  | .publish input =>
      input.key = key → (∃ result, upsertPublishedService database input = .ok result) →
        input.requestedProtocol = .tcp ∧
          ∃ minimum ∈ input.tcpIngressPortMinimum, ∃ maximum ∈ input.tcpIngressPortMaximum,
            minimum ≤ port ∧ port ≤ maximum
  | .revoke _ | .revokeOrganization _ => True

/-- The stored row has these identifiers. -/
def HasAddress (id slug : String) (stored : PublishedServiceRow) : Prop :=
  stored.id = id ∧ stored.slug = slug

def HasPort (port : Int) (stored : PublishedServiceRow) : Prop :=
  stored.protocol = .tcp ∧ stored.ingressPort = some port

/-- Some row is stored under the key, and it satisfies a property. -/
def Stores (database : CloudDatabase) (key : String × String) (Holds : PublishedServiceRow → Prop) :
    Prop :=
  ∃ stored ∈ getPublishedServiceByName database key, Holds stored

section Steps

variable {database after : CloudDatabase} {key : String × String}
  {Holds : PublishedServiceRow → Prop}

theorem key_distinct (database : CloudDatabase) :
    (database.tables.publishedServices.map (·.key)).Nodup := database.consistent .serviceName

theorem getPublishedServiceByName_stored {excluded : PublishedServiceRow}
    (written : after.tables = storeService excluded database.tables) :
    getPublishedServiceByName after key =
      if excluded.key = key then
        some (upserted (fun _ _ => true) PublishedServiceRow.republished excluded
          (getPublishedServiceByName database key))
      else getPublishedServiceByName database key := by
  unfold getPublishedServiceByName
  rw [written]
  exact lookup_upsert fun stored same => same

theorem stores_revoked {selected : PublishedServiceRow → Bool} {timestamp : Int}
    (stored : Stores database key Holds)
    (services : after.tables.publishedServices =
      updateWhere selected (·.revoked timestamp) database.tables.publishedServices)
    (kept : ∀ service, Holds service → Holds (service.revoked timestamp)) :
    Stores after key Holds := by
  obtain ⟨service, found, holds⟩ := stored
  have looked : getPublishedServiceByName after key =
      (getPublishedServiceByName database key).map fun row =>
        if selected row then row.revoked timestamp else row := by
    unfold getPublishedServiceByName
    rw [services]
    exact lookup_updateWhere fun _ _ => rfl
  rw [found] at looked
  refine ⟨_, looked, ?_⟩
  dsimp only
  split
  · exact kept service holds
  · exact holds

theorem stores_published {input : UpsertPublishedServiceInput} {service : PublishedServiceRow}
    (stored : Stores database key Holds)
    (published : upsertPublishedService database input = .ok (after, service))
    (kept : input.key = key → ∀ excluded stored, Admitted database input excluded →
      getPublishedServiceByName database key = some stored → Holds stored →
      Holds (excluded.republished stored)) :
    Stores after key Holds := by
  obtain ⟨excluded, admitted, written, _⟩ := upsertPublishedService_ok published
  obtain ⟨old, found, holds⟩ := stored
  have looked := @getPublishedServiceByName_stored database after key excluded written
  split at looked
  · rename_i same
    rw [found] at looked
    exact ⟨_, looked, kept (admitted.key.symm.trans same) excluded old admitted found holds⟩
  · exact ⟨old, looked.trans found, holds⟩

theorem stores_commit {Value : Type} {body : Except Failure (CloudDatabase × Value)}
    (stored : Stores database key Holds)
    (kept : ∀ after value, body = .ok (after, value) → Stores after key Holds) :
    Stores (commit database body).1 key Holds :=
  commit_preserves (fun state : CloudDatabase => Stores state key Holds) stored kept

/-- What revocations and accepted publications keep, every step keeps. -/
theorem stores_step (event : PublicationEvent) (stored : Stores database key Holds)
    (revoked : ∀ timestamp service, Holds service → Holds (service.revoked timestamp))
    (published : ∀ input, event = .publish input → input.key = key →
      (∃ result, upsertPublishedService database input = .ok result) →
      ∀ excluded stored, Admitted database input excluded →
        getPublishedServiceByName database key = some stored → Holds stored →
        Holds (excluded.republished stored)) :
    Stores (perform database event) key Holds := by
  cases event with
  | publish input =>
      simp only [perform]
      refine stores_commit stored fun after service accepted => ?_
      exact stores_published stored accepted fun same => published input rfl same ⟨_, accepted⟩
  | revoke input =>
      simp only [perform]
      refine stores_commit stored fun after service accepted => ?_
      obtain rfl | written := revokePublishedService_ok accepted
      · exact stored
      · exact stores_revoked stored (by rw [written]) (revoked input.now)
  | revokeOrganization input =>
      simp only [perform]
      refine stores_commit stored fun after rows accepted => ?_
      obtain rfl | written := revokeOrganizationPublishedServices_ok accepted
      · exact stored
      · exact stores_revoked stored (by rw [written]; rfl) (revoked input.now)

theorem hasAddress_step {id slug : String} (event : PublicationEvent)
    (stored : Stores database key (HasAddress id slug)) :
    Stores (perform database event) key (HasAddress id slug) :=
  stores_step event stored (fun _ _ address => address) fun _ _ _ _ _ _ _ _ address => address

/-- The port is looked up before a free one is searched for. -/
theorem keptIngressPort_of_hasPort {port minimum maximum : Int} {stored : PublishedServiceRow}
    (has : HasPort port stored) (within : minimum ≤ port ∧ port ≤ maximum) :
    keptIngressPort minimum maximum (some stored) = some port := by
  simp [keptIngressPort, has.1, has.2, Option.filter, within.1, within.2]

theorem hasPort_step {port : Int} (event : PublicationEvent)
    (stored : Stores database key (HasPort port)) (keeps : KeepsPort key port database event) :
    Stores (perform database event) key (HasPort port) := by
  refine stores_step event stored (fun _ _ has => has) ?_
  rintro input rfl same accepted excluded old admitted found has
  obtain ⟨tcp, minimum, isMinimum, maximum, isMaximum, within⟩ := keeps same accepted
  obtain ⟨http, _⟩ | ⟨_, number, chosen, choice⟩ := admitted.port
  · rw [tcp] at http
    cases http
  · refine ⟨admitted.protocol.trans tcp, ?_⟩
    change excluded.ingressPort = some port
    rw [same, found] at choice
    rw [chosen, choice.kept minimum isMinimum maximum isMaximum port
      (keptIngressPort_of_hasPort has within)]

/-- The one row that a publication or a revocation is about. -/
def about : PublicationEvent → Option (String × String)
  | .publish input => some input.key
  | .revoke input => some input.key
  | .revokeOrganization _ => none

theorem perform_frame {event : PublicationEvent} (subject : about event = some key)
    {service : PublishedServiceRow} (other : service.key ≠ key) :
    service ∈ (perform database event).tables.publishedServices ↔
      service ∈ database.tables.publishedServices := by
  have unchanged {Value : Type} {body : Except Failure (CloudDatabase × Value)}
      (kept : ∀ after value, body = .ok (after, value) →
        (service ∈ after.tables.publishedServices ↔ service ∈ database.tables.publishedServices)) :
      service ∈ (commit database body).1.tables.publishedServices ↔
        service ∈ database.tables.publishedServices :=
    commit_preserves (fun state : CloudDatabase =>
      service ∈ state.tables.publishedServices ↔ service ∈ database.tables.publishedServices)
      Iff.rfl kept
  cases event with
  | publish input =>
      cases subject
      simp only [perform]
      refine unchanged fun after published accepted => ?_
      obtain ⟨excluded, admitted, written, _⟩ := upsertPublishedService_ok accepted
      rw [written, ← admitted.key] at *
      refine (mem_upsert (key_distinct database)).trans ⟨?_, fun member => .inr ⟨member, other⟩⟩
      rintro (rfl | ⟨member, _⟩)
      · refine absurd ?_ other
        cases found : lookup (·.key) database.tables.publishedServices excluded.key with
        | none => rfl
        | some stored =>
            have sameKey : stored.key = excluded.key := lookup_key found
            exact sameKey
      · exact member
  | revoke input =>
      cases subject
      simp only [perform]
      refine unchanged fun after revoked accepted => ?_
      obtain rfl | written := revokePublishedService_ok accepted
      · exact Iff.rfl
      · rw [written]
        refine mem_updateWhere.trans ⟨?_, fun member => ⟨service, member, by simp [other]⟩⟩
        rintro ⟨before, member, changed⟩
        split at changed
        · rename_i chosen
          refine absurd ?_ other
          rw [← changed]
          exact of_decide_eq_true chosen
        · rwa [← changed]
  | revokeOrganization input => cases subject

end Steps

/-! ## Whole runs -/

/-- What holds of the addresses after a run. -/
structure StableAddresses (database : CloudDatabase) (events : List PublicationEvent) : Prop where
  address : ∀ service ∈ database.tables.publishedServices,
    Stores (publications.run database events) service.key (HasAddress service.id service.slug)
  port : ∀ service ∈ database.tables.publishedServices, ∀ port, HasPort port service →
    publications.Along (KeepsPort service.key port) database events →
      Stores (publications.run database events) service.key (HasPort port)
  slugs : ((publications.run database events).tables.publishedServices.map (·.slug)).Nodup
  ports : ((publications.run database events).tables.publishedServices.filterMap (·.ingressPort)).Nodup
  http : ∀ service ∈ (publications.run database events).tables.publishedServices,
    service.protocol = .http → service.ingressPort = none
  tcp : ∀ input after service,
    upsertPublishedService (publications.run database events) input = .ok (after, service) →
      service.protocol = .tcp → ∃ port ∈ service.ingressPort,
        ∃ minimum ∈ input.tcpIngressPortMinimum, ∃ maximum ∈ input.tcpIngressPortMaximum,
          minimum ≤ port ∧ port ≤ maximum
  frame : ∀ event key, about event = some key → ∀ service, service.key ≠ key →
    (service ∈ (perform (publications.run database events) event).tables.publishedServices ↔
      service ∈ (publications.run database events).tables.publishedServices)

section Runs

variable {database after : CloudDatabase} {key : String × String}

theorem hasAddress_run {id slug : String} (events : List PublicationEvent)
    (stored : Stores database key (HasAddress id slug)) :
    Stores (publications.run database events) key (HasAddress id slug) := by
  induction events generalizing database with
  | nil => exact stored
  | cons event rest ih => exact ih (hasAddress_step event stored)

theorem hasPort_run {port : Int} {events : List PublicationEvent}
    (stored : Stores database key (HasPort port))
    (keeps : publications.Along (KeepsPort key port) database events) :
    Stores (publications.run database events) key (HasPort port) := by
  induction events generalizing database with
  | nil => exact stored
  | cons event rest ih => exact ih (hasPort_step event stored keeps.1) keeps.2

theorem getPublishedServiceByName_of_mem {service : PublishedServiceRow}
    (member : service ∈ database.tables.publishedServices) :
    getPublishedServiceByName database service.key = some service :=
  lookup_of_mem (key_distinct database) member

/-- The row that a publication returns carries what was admitted. -/
theorem port_of_published {input : UpsertPublishedServiceInput} {service : PublishedServiceRow}
    (published : upsertPublishedService database input = .ok (after, service))
    (tcp : service.protocol = .tcp) :
    ∃ port ∈ service.ingressPort, ∃ minimum ∈ input.tcpIngressPortMinimum,
      ∃ maximum ∈ input.tcpIngressPortMaximum, minimum ≤ port ∧ port ≤ maximum := by
  obtain ⟨excluded, admitted, written, returned⟩ := upsertPublishedService_ok published
  rw [getPublishedServiceByName_stored written, if_pos admitted.key, Option.some.injEq] at returned
  have same : service.protocol = excluded.protocol ∧ service.ingressPort = excluded.ingressPort := by
    rw [← returned]
    cases getPublishedServiceByName database input.key with
    | none => exact ⟨rfl, rfl⟩
    | some stored => exact ⟨rfl, rfl⟩
  rw [same.1, admitted.protocol] at tcp
  obtain ⟨http, _⟩ | ⟨_, number, chosen, choice⟩ := admitted.port
  · rw [tcp] at http
    cases http
  · exact ⟨number, same.2.trans chosen, choice.within⟩

end Runs

end NebulaCloud.Publication
