import NebulaCloud.Data.Flights
import NebulaCloud.Organization.Membership
import NebulaCloud.Server.Arguments

namespace NebulaCloud.Server

open NebulaCloud.Access NebulaCloud.Data NebulaCloud.Data.Program NebulaCloud.Database NebulaCloud.Platform
open NebulaCloud.Data.Service (Turn)
open NebulaCloud.Organization (AdministrationDatabase AdministrationRequest AuditStamp NubolsPlan Administers Admits
  IsCodePart SameMemberships SetMemberDisabledOptions memberDisabled_congr requireMutableMember requireMutableMember_ok
  resolveCode serve_effect step_memberDisabled step_members)
open NebulaCloud.Publication (PlanAccountType)

/-! # Requests side by side

The control plane serves many requests at a time.  Each callback is one step, and between
two of them the others go on. -/

/-- A request with what the authentication library finds in it. -/
structure Arrival where
  context : RequestContext
  request : ServerRequest
  getSession : Except ServerError (Option AuthSession)
  email : Option String

/-- What a callback draws, what it leaves of the rest of the cloud and what it answers. -/
structure Draw where
  id : String
  lookupKey : String
  stamp : AuditStamp
  now : Int
  cloud : CloudDatabase
  told (question : Question) : question.Answer

def planAccountTypes : List (String × PlanAccountType) := [("individual", .individual), ("organization", .organization)]

def nubolsPlans : List (String × NubolsPlan) :=
  [("individual", .individual), ("team", .team), ("business", .business), ("enterprise", .enterprise)]

/-- What a callback asks of the administration.  All others leave members as they are. -/
def Draw.call (draw : Draw) : Question → Option AdministrationRequest
  | .account (.joinOrganization code) userId => some (.join userId code draw.id draw.stamp)
  | .account (.createPlanAccount accountType plan organizationId) userId => do
      let accountType ← planAccountTypes.lookup accountType
      let plan ← nubolsPlans.lookup plan
      some (.createPlanAccount ⟨userId, accountType, plan, organizationId, draw.id, draw.now⟩)
  | .organization (.setOrganizationMemberDisabled membershipId disabled) userId organizationId =>
      some (.setMemberDisabled ⟨userId, organizationId, membershipId, disabled⟩ draw.stamp)
  | .organization .rotateOrganizationJoinCode userId organizationId =>
      some (.rotateJoinCode ⟨userId, organizationId, draw.lookupKey, draw.now⟩ draw.stamp)
  | .organization (.updateOrganization name) userId organizationId =>
      some (.updateOrganization ⟨userId, organizationId, name⟩ draw.stamp)
  | .resolveSession => none
  | _ => some (.elsewhere draw.cloud)

/-- The session that `resolveSession` makes of the library's. -/
def Arrival.session (arrival : Arrival) (database : AdministrationDatabase) : Except ServerError (Option Session) :=
  arrival.getSession.map fun found => found.map fun session =>
    let resolved := Access.resolveSession database.tables.cloud session
    ⟨resolved.userId, arrival.email, resolved.activeOrganizationId⟩

section Served

variable (hmac toUpperCase : String → String) (options : ControlPlaneHandlerOptions) (lower : List Char → List Char)

def controlPlane : Service AdministrationDatabase AdministrationRequest Arrival Draw Question.Answer
    (Except ServerError Reply) where
  main arrival := createControlPlaneHandler options arrival.context arrival.request lower
  answer arrival database draw
    | .resolveSession => arrival.session database
    | question => draw.told question
  event _ draw question := draw.call question
  outside
    | .elsewhere _ => True
    | _ => False

/-- All interleavings of requests, and of other work on the cloud. -/
abbrev serving := (controlPlane options lower).flying (Organization.administration hmac toUpperCase)

end Served

/-! ## Who asks -/

/-- A session belongs to whom the library has signed in. -/
def IsTruthful (arrival : Arrival) (answered : Sigma Question.Answer) : Prop :=
  ∀ session, answered = ⟨.resolveSession, .ok (some session)⟩ → ∃ signedIn,
    arrival.getSession = .ok (some signedIn) ∧ session.userId = signedIn.userId ∧
      ∀ organizationId ∈ session.activeOrganizationId, signedIn.activeOrganizationId = some organizationId

/-- The request brings a current code of the organization, for a user who is signed in and
no member of it. -/
structure Joins (hmac toUpperCase : String → String) (arrival : Arrival) (database : AdministrationDatabase)
    (member : MemberRow) : Prop where
  method : arrival.request.method = "POST"
  user : ∃ signedIn, arrival.getSession = .ok (some signedIn) ∧ signedIn.userId = member.userId
  code : ∃ code resolved, NamesCode arrival.request code ∧ resolveCode hmac toUpperCase database code = some resolved ∧
    resolved.organizationId = member.organizationId
  absent : findMembership database.tables.cloud.tables member.userId member.organizationId = none

/-- The request names the member, for a user who is signed in to the organization and
administers the member. -/
structure Governs (arrival : Arrival) (database : AdministrationDatabase) (member : MemberRow) (disabled : Bool) :
    Prop where
  method : arrival.request.method = "PATCH"
  names : NamesMember arrival.request member.organizationId member.id disabled
  noOwner : member.role ≠ "owner"
  user : ∃ signedIn, arrival.getSession = .ok (some signedIn) ∧
    signedIn.activeOrganizationId = some member.organizationId ∧
      Administers database.tables.cloud.tables signedIn.userId member

section Steps

variable {hmac toUpperCase : String → String} {options : ControlPlaneHandlerOptions} {lower : List Char → List Char}
  {state : Flights AdministrationDatabase Arrival Question.Answer (Except ServerError Reply)}
  {event : FlightEvent AdministrationRequest Arrival Draw}
  {events : List (FlightEvent AdministrationRequest Arrival Draw)} {arrival : Arrival} {history : History}
  {question : Question} {draw : Draw} {member : MemberRow}

theorem session_truthful (database : AdministrationDatabase) :
    IsTruthful arrival ⟨question, (controlPlane options lower).answer arrival database draw question⟩ := by
  intro session same
  obtain ⟨rfl, told⟩ := Sigma.mk.inj_iff.mp same
  have told : arrival.session database = .ok (some session) := eq_of_heq told
  unfold Arrival.session at told
  cases found : arrival.getSession with
  | error error =>
      rw [found] at told
      cases told
  | ok library =>
      rw [found] at told
      cases library with
      | none => cases told
      | some signedIn =>
          cases told
          refine ⟨signedIn, rfl, rfl, ?_⟩
          intro organizationId active
          exact (Option.filter_eq_some_iff.mp active).1

theorem call_join {userId code createId : String} {stamp : AuditStamp}
    (called : draw.call question = some (.join userId code createId stamp)) :
    question = .account (.joinOrganization code) userId := by
  unfold Draw.call at called
  split at called
  · cases called
    rfl
  · simp [Option.bind_eq_some_iff] at called
  all_goals cases called

theorem call_setMemberDisabled {options : SetMemberDisabledOptions} {stamp : AuditStamp}
    (called : draw.call question = some (.setMemberDisabled options stamp)) :
    question = .organization (.setOrganizationMemberDisabled options.membershipId options.disabled) options.userId
      options.organizationId := by
  unfold Draw.call at called
  split at called
  · cases called
  · simp [Option.bind_eq_some_iff] at called
  · cases called
    rfl
  all_goals cases called

/-- Who has come up with a question, and with what. -/
theorem turn_served (idle : state.flights = [])
    (turn : Turn ((serving hmac toUpperCase options lower).run state events) event arrival history question draw) :
    .start arrival ∈ events ∧ Mediated options arrival.request history question ∧
      question.IsNamed arrival.request ∧ ∀ answered ∈ history, IsTruthful arrival answered := by
  have allMediated (arrival : Arrival) :
      Guarded (Mediated options arrival.request) [] ((controlPlane options lower).main arrival) :=
    createControlPlaneHandler_mediated
  have allCalled (arrival : Arrival) :
      Guarded (Called arrival.context arrival.request) [] ((controlPlane options lower).main arrival) :=
    createControlPlaneHandler_called
  have truthful (arrival : Arrival) (database : AdministrationDatabase) (draw : Draw) (question : Question) :
      IsTruthful arrival ⟨question, (controlPlane options lower).answer arrival database draw question⟩ :=
    session_truthful database
  obtain ⟨started, mediated, told⟩ := Service.turn_allowed allMediated truthful idle turn
  obtain ⟨-, called, -⟩ := Service.turn_allowed allCalled truthful idle turn
  exact ⟨started, mediated, called.2, told⟩

/-- A step that changes what is shared is one of the administration. -/
theorem step_shared (enabled : (serving hmac toUpperCase options lower).Enabled state event) :
    ((serving hmac toUpperCase options lower).step state event).shared = state.shared ∨
      ∃ effect ∈ (controlPlane options lower).effect state event,
        (Organization.administration hmac toUpperCase).Enabled state.shared effect ∧
          ((serving hmac toUpperCase options lower).step state event).shared =
            (Organization.administration hmac toUpperCase).step state.shared effect := by
  rw [Service.flying_shared]
  cases happens : (controlPlane options lower).effect state event with
  | none => exact .inl rfl
  | some effect => exact .inr ⟨effect, rfl, enabled.1 effect happens, rfl⟩

/-- A callback has it from its question. -/
theorem effect_called {effect : AdministrationRequest}
    (enabled : (serving hmac toUpperCase options lower).Enabled state event)
    (happens : effect ∈ (controlPlane options lower).effect state event) (own : ∀ cloud, effect ≠ .elsewhere cloud) :
    ∃ arrival history question draw, Turn state event arrival history question draw ∧
      draw.call question = some effect := by
  rcases Service.effect_cases happens with rfl | turn
  · cases effect with
    | elsewhere cloud => exact absurd rfl (own cloud)
    | _ => exact enabled.2.elim
  · exact turn

/-- The member comes by a callback that admits it. -/
def AdmittedBy (hmac toUpperCase : String → String)
    (state : Flights AdministrationDatabase Arrival Question.Answer (Except ServerError Reply))
    (event : FlightEvent AdministrationRequest Arrival Draw) (member : MemberRow) : Prop :=
  ∃ arrival history code userId draw createId stamp,
    Turn state event arrival history (.account (.joinOrganization code) userId) draw ∧
      Admits hmac toUpperCase state.shared (.join userId code createId stamp) member

theorem step_admitted (enabled : (serving hmac toUpperCase options lower).Enabled state event) :
    ∃ added, ((serving hmac toUpperCase options lower).step state event).shared.tables.members =
        state.shared.tables.members ++ added ∧
      ∀ member ∈ added, AdmittedBy hmac toUpperCase state event member := by
  rcases step_shared enabled with same | ⟨effect, happens, allowed, after⟩
  · exact ⟨[], by rw [same, List.append_nil], by simp⟩
  · obtain ⟨added, extended, admitted⟩ := step_members allowed
    refine ⟨added, by rw [after, extended], ?_⟩
    intro member isNew
    have admits := admitted member isNew
    obtain ⟨userId, code, createId, stamp, resolved, rfl, -⟩ := id admits
    obtain ⟨arrival, history, question, draw, turn, called⟩ := effect_called enabled happens (by simp)
    obtain rfl := call_join called
    exact ⟨arrival, history, code, userId, draw, createId, stamp, turn, admits⟩

theorem requireMutableMember_organization {cloud : CloudDatabase} {options : SetMemberDisabledOptions}
    {target : MemberRow} (checked : requireMutableMember cloud options = .ok target) :
    target.organizationId = options.organizationId := by
  unfold requireMutableMember at checked
  split at checked
  · cases checked
  split at checked
  · cases checked
  rename_i found
  have chosen := List.find?_some found
  simp only [Bool.and_eq_true, decide_eq_true_eq] at chosen
  split at checked
  · cases checked
  split at checked
  · cases checked
  · cases checked
    exact chosen.2

/-- Administrators reach the members of the organization that they name, and no others. -/
theorem setMemberDisabled_organization {database : AdministrationDatabase} {options : SetMemberDisabledOptions}
    {stamp : AuditStamp} (stored : member ∈ database.tables.members) (named : options.membershipId = member.id)
    (changed : memberDisabled ((Organization.administration hmac toUpperCase).step database
      (.setMemberDisabled options stamp)).tables.cloud.tables member.id ≠
        memberDisabled database.tables.cloud.tables member.id) :
    options.organizationId = member.organizationId := by
  have enabled : (Organization.administration hmac toUpperCase).Enabled database (.setMemberDisabled options stamp) :=
    trivial
  have effect := serve_effect enabled
  generalize rowsEq : ((Organization.administration hmac toUpperCase).step database
    (.setMemberDisabled options stamp)).tables.rows = rows at effect
  have states := congrArg Organization.AdministrationRows.memberStates rowsEq
  cases effect with
  | kept => exact absurd (memberDisabled_congr states member.id) changed
  | memberState checked =>
      obtain ⟨targetStored, targetId, -⟩ := requireMutableMember_ok checked
      have distinct : (database.tables.cloud.tables.members.map (·.id)).Nodup :=
        database.tables.cloud.consistent .memberId
      obtain rfl := eq_of_key distinct targetStored stored (targetId.trans named)
      exact (requireMutableMember_organization checked).symm

theorem step_governed (enabled : (serving hmac toUpperCase options lower).Enabled state event)
    (stored : member ∈ state.shared.tables.members)
    (changed : memberDisabled ((serving hmac toUpperCase options lower).step state event).shared.tables.cloud.tables
      member.id ≠ memberDisabled state.shared.tables.cloud.tables member.id) :
    ∃ arrival history userId draw, Turn state event arrival history
        (.organization (.setOrganizationMemberDisabled member.id
          (memberDisabled ((serving hmac toUpperCase options lower).step state event).shared.tables.cloud.tables
            member.id)) userId member.organizationId) draw ∧
      member.role ≠ "owner" ∧ Administers state.shared.tables.cloud.tables userId member := by
  rcases step_shared enabled with same | ⟨effect, happens, allowed, after⟩
  · exact absurd (by rw [same]) changed
  · rw [after] at changed ⊢
    have sets := step_memberDisabled allowed stored changed
    cases effect with
    | setMemberDisabled options stamp =>
        obtain ⟨named, given, noOwner, administers⟩ := sets
        have organization := setMemberDisabled_organization stored named changed
        obtain ⟨arrival, history, question, draw, turn, called⟩ := effect_called enabled happens (by simp)
        obtain rfl := call_setMemberDisabled called
        rw [named, given, organization] at turn
        exact ⟨arrival, history, options.userId, draw, turn, noOwner, administers⟩
    | _ => exact sets.elim

/-! ## Whole runs -/

end Steps

section Sample

/-- An administrator sends the change of a member. -/
def disabling : Arrival where
  context := quietContext
  request := ⟨"PATCH", "nubols.test", "/api/organizations/acme/members/m2", "", [], [],
    some ⟨[utf8Encode "\x7b\"disabled\":true\x7d".toList], false⟩⟩
  getSession := .ok (some ⟨"cai", some "acme"⟩)
  email := none

def quietDraw : Draw where
  id := ""
  lookupKey := ""
  stamp := ⟨"audit-1", 10⟩
  now := 10
  cloud := Organization.acme.tables.cloud
  told _ := .error ⟨.error, "", ""⟩

def idleAcme : Flights AdministrationDatabase Arrival Question.Answer (Except ServerError Reply) :=
  ⟨Organization.acme, []⟩

def disablingEvents : List (FlightEvent AdministrationRequest Arrival Draw) :=
  [.start disabling, .advance 0 quietDraw, .advance 0 quietDraw]

theorem disabling_runs : (serving id id everyCallback id).Runs idleAcme disablingEvents :=
  ⟨⟨by decide +kernel, trivial⟩, ⟨by decide +kernel, trivial⟩, ⟨by decide +kernel, trivial⟩, trivial⟩

end Sample

end NebulaCloud.Server
