import NebulaCloud.Organization.Membership

namespace NebulaCloud.Organization

open NebulaCloud.Data NebulaCloud.Database NebulaCloud.Platform
open NebulaCloud.Provisioning (OneMembership)

/-! # Plan accounts

The plan that an owner has chosen stays: it may be chosen again, and no other one may. -/

section Accounts

variable {hmac toUpperCase : String → String} {database after : AdministrationDatabase}
  {request : AdministrationRequest} {requests : List AdministrationRequest} {account : PlanAccount}
  {options again : CreatePlanAccountOptions} {summary : PlanAccountSummary} {userId organizationId : String}
  {accounts : List PlanAccountSummary}

theorem toPlanAccount_account {tables : AdministrationTables} (joined : toPlanAccount tables account = some summary) :
    summary.account = account := by
  obtain ⟨profile, -, rfl⟩ := Option.map_eq_some_iff.mp joined
  rfl

/-- Every account has its organization. -/
theorem toPlanAccount_exists (stored : account ∈ database.tables.planAccounts) :
    ∃ summary, toPlanAccount database.tables account = some summary ∧ summary.account = account := by
  have owned : account.organizationId ∈ database.tables.organizationIds :=
    database.consistent .planAccountOrganizationOwner account stored
  have profiles : database.tables.profiles.map (·.organizationId) = database.tables.organizationIds :=
    database.consistent .profileOrganization
  rw [← profiles, List.mem_map] at owned
  obtain ⟨profile, isStored, same⟩ := owned
  cases found : lookup (·.organizationId) database.tables.profiles account.organizationId with
  | none => exact absurd same (lookup_eq_none.mp found profile isStored)
  | some known =>
      have joined : toPlanAccount database.tables account =
          some { account, organizationName := known.name, organizationSlug := known.slug } := by
        simp only [toPlanAccount, found, Option.map_some]
      exact ⟨_, joined, rfl⟩

theorem getPlanAccount_of_mem (organizationId : String) (stored : account ∈ database.tables.planAccounts)
    (organization : account.organizationId = trim organizationId) :
    ∃ summary, getPlanAccountByOrganizationId database organizationId = some summary ∧ summary.account = account := by
  have distinct : (database.tables.planAccounts.map (·.organizationId)).Nodup :=
    database.consistent .planAccountOrganization
  have found := lookup_of_mem distinct stored
  rw [organization] at found
  obtain ⟨summary, joined, same⟩ := toPlanAccount_exists stored
  exact ⟨summary, by simp only [getPlanAccountByOrganizationId, found, Option.bind_some, joined], same⟩

theorem getPlanAccount_stored (found : getPlanAccountByOrganizationId database organizationId = some summary) :
    summary.account ∈ database.tables.planAccounts ∧ summary.account.organizationId = trim organizationId := by
  obtain ⟨account, known, joined⟩ := Option.bind_eq_some_iff.mp found
  rw [toPlanAccount_account joined]
  exact ⟨lookup_mem known, lookup_key known⟩

/-! ## Creation -/

/-- A successful call ends with the account that it asks for in the table. -/
theorem createPlanAccount_ok (created : createPlanAccount database options = (after, .ok summary)) :
    summary.account ∈ after.tables.planAccounts ∧
      summary.account.organizationId = trim options.organizationId ∧ asksFor options summary.account = true := by
  unfold createPlanAccount at created
  split at created
  · cases created
  · split at created
    · cases created
    · split at created
      · cases created
      · cases body : createPlanAccountBody database options with
        | error failure =>
            rw [body, commit_error] at created
            cases created
        | ok result =>
            rw [body, commit_ok] at created
            cases created
            unfold createPlanAccountBody at body
            split at body
            · cases body
            · split at body
              · cases body
              · split at body
                · rename_i existing found
                  split at body
                  · rename_i same
                    cases body
                    obtain ⟨stored, organization⟩ := getPlanAccount_stored found
                    exact ⟨stored, organization.trans (trim_trim _), same⟩
                  · cases body
                · rename_i absent
                  obtain ⟨inserted, insert, returned⟩ := bind_ok.mp body
                  have written := Store.execute_ok.mp insert
                  split at returned
                  · cases returned
                  · rename_i found
                    cases returned
                    have isNew : planAccountRow options ∈ inserted.tables.planAccounts := by
                      rw [written]
                      exact List.mem_append_right _ (List.mem_singleton.mpr rfl)
                    obtain ⟨other, sameFound, same⟩ := getPlanAccount_of_mem (trim options.organizationId) isNew
                      (trim_trim options.organizationId).symm
                    rw [found] at sameFound
                    cases sameFound
                    rw [same]
                    exact ⟨isNew, rfl, by simp [asksFor, planAccountRow]⟩

/-- An enabled owner chooses a plan for an organization without one. -/
def Plans (database : AdministrationDatabase) (request : AdministrationRequest) (account : PlanAccount) : Prop :=
  ∃ options membership, request = .createPlanAccount options ∧ account = planAccountRow options ∧
    findMembership database.tables.cloud.tables (trim options.userId) (trim options.organizationId) =
      some membership ∧
    memberDisabled database.tables.cloud.tables membership.id = false ∧ membership.role = "owner"

theorem step_planAccounts (enabled : (administration hmac toUpperCase).Enabled database request) :
    ∃ added, ((administration hmac toUpperCase).step database request).tables.planAccounts =
        database.tables.planAccounts ++ added ∧ ∀ account ∈ added, Plans database request account := by
  have effect := serve_effect enabled
  generalize rowsEq : ((administration hmac toUpperCase).step database request).tables.rows = rows at effect
  have accounts : ((administration hmac toUpperCase).step database request).tables.planAccounts = rows.planAccounts :=
    congrArg AdministrationRows.planAccounts rowsEq
  rw [accounts]
  cases effect with
  | kept => exact ⟨[], by simp [AdministrationTables.rows], by simp⟩
  | memberState => exact ⟨[], by simp [AdministrationTables.rows], by simp⟩
  | rotated => exact ⟨[], by simp [AdministrationTables.rows], by simp⟩
  | joined => exact ⟨[], by simp [AdministrationTables.rows], by simp⟩
  | planned owner isEnabled role absent =>
      refine ⟨_, rfl, ?_⟩
      intro account added
      rw [List.mem_singleton] at added
      exact ⟨_, _, rfl, added, owner, isEnabled, role⟩

/-- Accounts are never rewritten or lost. -/
theorem run_planAccounts (runs : (administration hmac toUpperCase).Runs database requests) :
    ∃ added, ((administration hmac toUpperCase).run database requests).tables.planAccounts =
        database.tables.planAccounts ++ added ∧
      ∀ account ∈ added, ∃ earlier request later, requests = earlier ++ request :: later ∧
        Plans ((administration hmac toUpperCase).run database earlier) request account :=
  System.run_extends (fun state => state.tables.planAccounts) Plans runs fun _ _ enabled => step_planAccounts enabled

/-- A later call of an enabled owner changes nothing: it finds the account or is told of the
conflict. -/
theorem createPlanAccount_again {membership : MemberRow} (stored : account ∈ database.tables.planAccounts)
    (organization : account.organizationId = trim again.organizationId) (user : trim again.userId ≠ "")
    (named : trim again.organizationId ≠ "") (valid : validPlan again.accountType again.plan = true)
    (owner : findMembership database.tables.cloud.tables (trim again.userId) (trim again.organizationId) =
      some membership)
    (enabled : memberDisabled database.tables.cloud.tables membership.id = false) (role : membership.role = "owner") :
    ∃ summary, summary.account = account ∧ createPlanAccount database again =
      (database, if asksFor again account then .ok summary
        else .error (.planAccountConflict "This organization already has a different plan account")) := by
  obtain ⟨summary, found, same⟩ := getPlanAccount_of_mem (trim again.organizationId) stored
    (organization.trans (trim_trim _).symm)
  refine ⟨summary, same, ?_⟩
  have body : createPlanAccountBody database again =
      if asksFor again account then .ok (database, summary)
      else .error (.planAccountConflict "This organization already has a different plan account") := by
    simp only [createPlanAccountBody, owner, enabled, role, found, same]
    simp
  rw [createPlanAccount, if_neg user, if_neg named, if_neg (by simp [valid]), body]
  split
  · rfl
  · rfl

/-! ## The listing -/

/-- Who is shown an account: the owner of an individual one, and every enabled member of the
organization of another. -/
def ShownTo (database : AdministrationDatabase) (userId : String) (account : PlanAccount) : Prop :=
  (account.accountType = .individual ∧ account.ownerUserId = some userId) ∨
    (account.accountType = .organization ∧
      isOrganizationMemberEnabled database.tables.cloud userId account.organizationId = true)

instance (database : AdministrationDatabase) (userId : String) (account : PlanAccount) :
    Decidable (ShownTo database userId account) :=
  inferInstanceAs (Decidable (_ ∨ _))

/-- The join finds the one membership or nothing. -/
theorem joinedMemberships_of_one {tables : Tables} (one : OneMembership tables) :
    joinedMemberships tables userId organizationId = [findMembership tables userId organizationId] := by
  unfold joinedMemberships findMembership
  have swapped : (fun member : MemberRow => decide (member.organizationId = organizationId) &&
      decide (member.userId = userId)) = fun member => decide ((member.userId, member.organizationId) =
      (userId, organizationId)) := by
    funext member
    rw [Bool.eq_iff_iff]
    simp [and_comm]
  have single := @filter_eq_lookup MemberRow (String × String) _ (fun member => (member.userId, member.organizationId))
    tables.members (userId, organizationId) one
  have found : (tables.members.find? fun member => member.userId = userId && member.organizationId = organizationId) =
      lookup (fun member : MemberRow => (member.userId, member.organizationId)) tables.members
        (userId, organizationId) := by
    unfold lookup
    congr 1
    funext member
    rw [Bool.eq_iff_iff]
    simp
  rw [found, swapped, single]
  cases lookup (fun member : MemberRow => (member.userId, member.organizationId)) tables.members
    (userId, organizationId) with
  | none => rfl
  | some member => rfl

theorem listsAccount_iff :
    listsAccount database.tables.cloud.tables userId account
        (findMembership database.tables.cloud.tables userId account.organizationId) = true ↔
      ShownTo database userId account := by
  unfold listsAccount ShownTo isOrganizationMemberEnabled
  cases account.accountType with
  | individual => simp
  | organization => simp

/-- The listing shows every account once to those that it is for. -/
theorem listPlanAccountsForUser_iff (one : OneMembership database.tables.cloud.tables)
    (listed : listPlanAccountsForUser database userId = .ok accounts) :
    (accounts.map (·.account)).Perm
      (database.tables.planAccounts.filter fun account => ShownTo database (trim userId) account) := by
  unfold listPlanAccountsForUser at listed
  split at listed
  · cases listed
  · cases listed
    refine ((List.perm_insertionSort _ _).map _).trans ?_
    have each (stored : List PlanAccount) (known : ∀ account ∈ stored, account ∈ database.tables.planAccounts) :
        (stored.flatMap fun account =>
          ((joinedMemberships database.tables.cloud.tables (trim userId) account.organizationId).filter
            (listsAccount database.tables.cloud.tables (trim userId) account)).filterMap fun _ =>
              toPlanAccount database.tables account).map (·.account) =
        stored.filter fun account => ShownTo database (trim userId) account := by
      induction stored with
      | nil => rfl
      | cons account rest ih =>
          obtain ⟨summary, joined, same⟩ := toPlanAccount_exists (known account List.mem_cons_self)
          rw [List.flatMap_cons, List.map_append, ih fun other member => known other (List.mem_cons_of_mem _ member),
            joinedMemberships_of_one one, List.filter_cons, List.filter_cons]
          by_cases shown : ShownTo database (trim userId) account
          · rw [if_pos (listsAccount_iff.mpr shown), if_pos (by simpa using shown)]
            simp [joined, same]
          · rw [if_neg (fun lists => shown (listsAccount_iff.mp lists)), if_neg (by simpa using shown)]
            rfl
    rw [each _ fun _ member => member]

/-! ## Over runs -/

/-- Once a plan has been chosen for an organization, then in every later state the account
is the same, an owner who asks again finds it or a conflict, and a user is shown it exactly
if it is for that user. -/
theorem planAccount_lasts (one : OneMembership after.tables.cloud.tables)
    (created : createPlanAccount database options = (after, .ok summary))
    (runs : (administration hmac toUpperCase).Runs after requests) :
    let final := (administration hmac toUpperCase).run after requests
    asksFor options summary.account = true ∧
    (∀ again membership, trim again.organizationId = trim options.organizationId → trim again.userId ≠ "" →
      trim again.organizationId ≠ "" → validPlan again.accountType again.plan = true →
      findMembership final.tables.cloud.tables (trim again.userId) (trim again.organizationId) = some membership →
      memberDisabled final.tables.cloud.tables membership.id = false → membership.role = "owner" →
      ∃ found, found.account = summary.account ∧ createPlanAccount final again =
        (final, if asksFor again summary.account then .ok found
          else .error (.planAccountConflict "This organization already has a different plan account"))) ∧
    ∀ userId accounts, listPlanAccountsForUser final userId = .ok accounts →
      (accounts.map (·.account)).Nodup ∧
        (summary.account ∈ accounts.map (·.account) ↔ ShownTo final (trim userId) summary.account) := by
  obtain ⟨stored, organization, asks⟩ := createPlanAccount_ok created
  obtain ⟨added, extended, -⟩ := run_planAccounts runs
  have present : summary.account ∈ ((administration hmac toUpperCase).run after requests).tables.planAccounts :=
    extended ▸ List.mem_append_left added stored
  refine ⟨asks, ?_, ?_⟩
  · intro again membership same user named valid owner enabled role
    exact createPlanAccount_again present (organization.trans same.symm) user named valid owner enabled role
  · intro userId accounts listed
    have shown := listPlanAccountsForUser_iff (run_oneMembership one runs) listed
    have distinct : (((administration hmac toUpperCase).run after requests).tables.planAccounts.map (·.id)).Nodup :=
      ((administration hmac toUpperCase).run after requests).consistent .planAccountId
    refine ⟨shown.nodup_iff.mpr (distinct.of_map.filter _), ?_⟩
    rw [shown.mem_iff, List.mem_filter, decide_eq_true_eq]
    exact ⟨fun member => member.2, fun isShown => ⟨present, isShown⟩⟩

end Accounts

section Sample

/-- The owner chooses the team plan. -/
def teamPlan : CreatePlanAccountOptions := ⟨"ada", .organization, .team, "acme", "plan-1", 10⟩

def plannedAcme : AdministrationDatabase := (createPlanAccount acme teamPlan).1

def teamAccount : PlanAccountSummary := ⟨planAccountRow teamPlan, "Acme", "acme"⟩

/-- Once the owner has chosen, the disabled member is not shown the plan. -/
theorem planAccount_lasts_disabledBob :
    ∃ accounts, listPlanAccountsForUser ((administration id id).run plannedAcme [disableBob]) "bob" = .ok accounts ∧
      planAccountRow teamPlan ∉ accounts.map (·.account) := by
  have created : createPlanAccount acme teamPlan = (plannedAcme, .ok teamAccount) := Prod.ext rfl (by decide +kernel)
  have listed : listPlanAccountsForUser ((administration id id).run plannedAcme [disableBob]) "bob" = .ok [] := by
    decide +kernel
  refine ⟨[], listed, fun shown => ?_⟩
  have isFor := ((planAccount_lasts (by decide) created (by decide +kernel)).2.2 "bob" [] listed).2.mp shown
  revert isFor
  decide +kernel

end Sample

end NebulaCloud.Organization
