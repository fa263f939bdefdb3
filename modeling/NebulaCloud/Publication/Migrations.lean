import NebulaCloud.Database.Membership
import NebulaCloud.Database.PublishedService

namespace NebulaCloud.Publication

open NebulaCloud.Data NebulaCloud.Database NebulaCloud.Platform

/-! # The versions of `published_service`

Three migrations rebuild the table, and each copies the rows of the one before. -/

structure PublishedService0014 where
  id : String
  workspaceId : String
  name : String
  slug : String
  protocol : PublishedServiceProtocol
  targetPort : Int
  state : PublishedServiceState
  createdAt : Int
  updatedAt : Int
  revokedAt : Option Int
deriving DecidableEq, Repr

structure PublishedService0015 extends PublishedService0014 where
  visibility : PublishedServiceVisibility
  authPolicy : PublishedServiceAuthPolicy
  accessTokenHash : Option String
  expiresAt : Int
deriving DecidableEq, Repr

structure PublishedService0016 extends PublishedService0014 where
  visibility : PublishedServiceVisibility
  authPolicy : PublishedServiceAuthPolicy
  accessTokenHash : Option String
  expiresAt : Option Int
deriving DecidableEq, Repr

/-! ## Checks -/

def PublishedService0014.Checks (row : PublishedService0014) : Prop :=
  row.protocol = .http ∧ IsServicePort row.targetPort ∧
    ((row.state = .active ∧ row.revokedAt = none) ∨ (row.state = .revoked ∧ row.revokedAt.isSome))

instance (row : PublishedService0014) : Decidable row.Checks := inferInstanceAs (Decidable (_ ∧ _))

/-- `visibility`, `auth_policy` and `access_token_hash` fit each other. -/
def AccessColumns (visibility : PublishedServiceVisibility) (authPolicy : PublishedServiceAuthPolicy)
    (accessTokenHash : Option String) : Prop :=
  (visibility = .publicAccess ∧ authPolicy = .none ∧ accessTokenHash = none) ∨
    (visibility = .privateAccess ∧ authPolicy = .token ∧ ∃ hash ∈ accessTokenHash, IsTokenHash hash)

instance (visibility : PublishedServiceVisibility) (authPolicy : PublishedServiceAuthPolicy)
    (accessTokenHash : Option String) : Decidable (AccessColumns visibility authPolicy accessTokenHash) :=
  inferInstanceAs (Decidable (_ ∨ _))

def PublishedService0015.Checks (row : PublishedService0015) : Prop :=
  row.toPublishedService0014.Checks ∧ row.createdAt < row.expiresAt ∧
    AccessColumns row.visibility row.authPolicy row.accessTokenHash

instance (row : PublishedService0015) : Decidable row.Checks := inferInstanceAs (Decidable (_ ∧ _))

def PublishedService0016.Checks (row : PublishedService0016) : Prop :=
  row.toPublishedService0014.Checks ∧ (∀ expiresAt ∈ row.expiresAt, row.createdAt < expiresAt) ∧
    AccessColumns row.visibility row.authPolicy row.accessTokenHash

instance (row : PublishedService0016) : Decidable row.Checks := inferInstanceAs (Decidable (_ ∧ _))

/-- The keys of the table and its reference to `workspace`. -/
def Keyed (tables : Tables) (rows : List PublishedService0014) : Prop :=
  (rows.map (·.id)).Nodup ∧ (rows.map (·.slug)).Nodup ∧ (rows.map fun row => (row.workspaceId, row.name)).Nodup ∧
    ∀ row ∈ rows, row.workspaceId ∈ tables.workspaces.map (·.id)

instance (tables : Tables) (rows : List PublishedService0014) : Decidable (Keyed tables rows) :=
  inferInstanceAs (Decidable (_ ∧ _))

/-- The rows of the table at a version.  The migrations behind 0017 make other tables. -/
inductive SchemaContent
  | version0014 (rows : List PublishedService0014)
  | version0015 (rows : List PublishedService0015)
  | version0016 (rows : List PublishedService0016)
  | version0017 (rows : List PublishedServiceRow)
deriving DecidableEq, Repr

/-- The constraints of the version, beside the rows of the other tables. -/
def SchemaContent.Valid (tables : Tables) : SchemaContent → Prop
  | .version0014 rows => Keyed tables rows ∧ ∀ row ∈ rows, row.Checks
  | .version0015 rows => Keyed tables (rows.map (·.toPublishedService0014)) ∧ ∀ row ∈ rows, row.Checks
  | .version0016 rows => Keyed tables (rows.map (·.toPublishedService0014)) ∧ ∀ row ∈ rows, row.Checks
  | .version0017 rows => schema.Consistent { tables with publishedServices := rows }

instance (tables : Tables) (content : SchemaContent) : Decidable (content.Valid tables) :=
  match content with
  | .version0014 _ => inferInstanceAs (Decidable (_ ∧ _))
  | .version0015 _ => inferInstanceAs (Decidable (_ ∧ _))
  | .version0016 _ => inferInstanceAs (Decidable (_ ∧ _))
  | .version0017 rows =>
      decidable_of_iff (schema.violated? { tables with publishedServices := rows } = none) schema.violated?_eq_none

/-! ## Migrations -/

/-- `SELECT …, 'public', 'none', NULL, MAX(created_at + 1, strftime('%s', 'now') * 1000 + 86400000), …`. -/
def PublishedService0014.migrate0015 (seconds : Int) (row : PublishedService0014) : PublishedService0015 where
  toPublishedService0014 := row
  visibility := .publicAccess
  authPolicy := .none
  accessTokenHash := none
  expiresAt := max (row.createdAt + 1) (seconds * 1000 + 86400000)

/-- `SELECT …, visibility, auth_policy, access_token_hash, NULL, …`. -/
def PublishedService0015.migrate0016 (row : PublishedService0015) : PublishedService0016 where
  toPublishedService0014 := row.toPublishedService0014
  visibility := row.visibility
  authPolicy := row.authPolicy
  accessTokenHash := row.accessTokenHash
  expiresAt := none

/-- `SELECT …, target_port, NULL, state, visibility, auth_policy, access_token_hash, expires_at, …`. -/
def PublishedService0016.migrate0017 (row : PublishedService0016) : PublishedServiceRow where
  id := row.id
  workspaceId := row.workspaceId
  name := row.name
  slug := row.slug
  protocol := row.protocol
  targetPort := row.targetPort
  ingressPort := none
  state := row.state
  visibility := row.visibility
  authPolicy := row.authPolicy
  accessTokenHash := row.accessTokenHash
  expiresAt := row.expiresAt
  createdAt := row.createdAt
  updatedAt := row.updatedAt
  revokedAt := row.revokedAt

/-- The migrations that rebuild the table. -/
inductive Migration
  | publishedServiceAccessExpiry
  | optionalPublishedServiceExpiry
  | tcpPublishedServiceIngress
deriving DecidableEq, Repr

def Migration.id : Migration → String
  | .publishedServiceAccessExpiry => "0015_published_service_access_expiry"
  | .optionalPublishedServiceExpiry => "0016_optional_published_service_expiry"
  | .tcpPublishedServiceIngress => "0017_tcp_published_service_ingress"

def migrations : List Migration :=
  [.publishedServiceAccessExpiry, .optionalPublishedServiceExpiry, .tcpPublishedServiceIngress]

/-- The identifiers that `nebula_migration` has at the version. -/
def SchemaContent.appliedIds : SchemaContent → List String
  | .version0014 _ => []
  | .version0015 _ => [Migration.publishedServiceAccessExpiry.id]
  | .version0016 _ => [Migration.publishedServiceAccessExpiry.id, Migration.optionalPublishedServiceExpiry.id]
  | .version0017 _ =>
      [Migration.publishedServiceAccessExpiry.id, Migration.optionalPublishedServiceExpiry.id,
        Migration.tcpPublishedServiceIngress.id]

/-- The statements of a migration, which fail on a table of another version. -/
def Migration.sql (seconds : Int) : Migration → SchemaContent → Option SchemaContent
  | .publishedServiceAccessExpiry, .version0014 rows => some (.version0015 (rows.map (·.migrate0015 seconds)))
  | .optionalPublishedServiceExpiry, .version0015 rows => some (.version0016 (rows.map (·.migrate0016)))
  | .tcpPublishedServiceIngress, .version0016 rows => some (.version0017 (rows.map (·.migrate0017)))
  | _, _ => none

/-- The loop of `migrateCloudSchema`; `none` when a transaction throws. -/
def applyMigrations (tables : Tables) (seconds : Int) (appliedIds : List String) :
    List Migration → SchemaContent → Option SchemaContent
  | [], content => some content
  | migration :: rest, content =>
      if migration.id ∈ appliedIds then applyMigrations tables seconds appliedIds rest content
      else
        match migration.sql seconds content with
        | none => none
        | some migrated =>
            if migrated.Valid tables then applyMigrations tables seconds appliedIds rest migrated else none

/-- `seconds` is the clock of the database. -/
def migrateCloudSchema (tables : Tables) (seconds : Int) (content : SchemaContent) : Option SchemaContent :=
  applyMigrations tables seconds content.appliedIds migrations content

/-! ## The resolver -/

/-- The joins of `getPublishedServiceBySlug`: the workspace is ready and its owner an enabled
member of its organization. -/
def IsServed (tables : Tables) (workspaceId : String) : Prop :=
  ∃ workspace ∈ tables.workspaces, workspace.id = workspaceId ∧ workspace.state = .ready ∧
    ∃ member ∈ tables.members, member.id = workspace.memberId ∧
      member.organizationId = workspace.organizationId ∧ memberDisabled tables member.id = false

instance (tables : Tables) (workspaceId : String) : Decidable (IsServed tables workspaceId) :=
  inferInstanceAs (Decidable (∃ _ ∈ _, _))

def getPublishedServiceBySlug (tables : Tables) (slug : String) (now : Int) : Option PublishedServiceRow :=
  tables.publishedServices.find? fun service =>
    service.slug = trim slug && service.IsLive now && IsServed tables service.workspaceId

/-- A row as the resolver reads it.  A column that a version does not have restricts nothing. -/
def PublishedService0014.asRow (row : PublishedService0014) : PublishedServiceRow where
  id := row.id
  workspaceId := row.workspaceId
  name := row.name
  slug := row.slug
  protocol := row.protocol
  targetPort := row.targetPort
  ingressPort := none
  state := row.state
  visibility := .publicAccess
  authPolicy := .none
  accessTokenHash := none
  expiresAt := none
  createdAt := row.createdAt
  updatedAt := row.updatedAt
  revokedAt := row.revokedAt

def PublishedService0015.asRow (row : PublishedService0015) : PublishedServiceRow :=
  { row.toPublishedService0014.asRow with
    visibility := row.visibility
    authPolicy := row.authPolicy
    accessTokenHash := row.accessTokenHash
    expiresAt := some row.expiresAt }

def SchemaContent.publications : SchemaContent → List PublishedServiceRow
  | .version0014 rows => rows.map (·.asRow)
  | .version0015 rows => rows.map (·.asRow)
  | .version0016 rows => rows.map (·.migrate0017)
  | .version0017 rows => rows

/-- Some address leads to the publication. -/
def SchemaContent.Resolvable (tables : Tables) (content : SchemaContent) (now : Int) (id : String) : Prop :=
  ∃ slug service, getPublishedServiceBySlug { tables with publishedServices := content.publications } slug now =
    some service ∧ service.id = id

/-- What a publication keeps. -/
def identity (service : PublishedServiceRow) : String × String × String × Int × PublishedServiceState :=
  (service.id, service.slug, service.name, service.targetPort, service.state)

def access (service : PublishedServiceRow) : String × PublishedServiceVisibility × Option String :=
  (service.id, service.visibility, service.accessTokenHash)

def SchemaContent.HasAccessColumns : SchemaContent → Prop
  | .version0014 _ => False
  | _ => True

/-- The remaining migrations run, keep every publication and make none resolvable. -/
def NeverResurrects (tables : Tables) (seconds now : Int) (content : SchemaContent) : Prop :=
  ∃ migrated, migrateCloudSchema tables seconds content = some migrated ∧
    (∀ id, migrated.Resolvable tables now id → content.Resolvable tables now id) ∧
    migrated.publications.map identity = content.publications.map identity ∧
    (content.HasAccessColumns → migrated.publications.map access = content.publications.map access)

/-- Nothing but its expiry keeps an active publication of version 0015 from being resolved. -/
def SchemaContent.NoneExpired (tables : Tables) (now : Int) : SchemaContent → Prop
  | .version0015 rows =>
      ∀ row ∈ rows, row.state = .active → trim row.slug = row.slug → IsServed tables row.workspaceId →
        now < row.expiresAt
  | _ => True

instance (tables : Tables) (now : Int) (content : SchemaContent) : Decidable (content.NoneExpired tables now) :=
  match content with
  | .version0015 rows =>
      inferInstanceAs (Decidable (∀ row ∈ rows, row.state = .active → trim row.slug = row.slug →
        IsServed tables row.workspaceId → now < row.expiresAt))
  | .version0014 _ | .version0016 _ | .version0017 _ => .isTrue trivial

section Runs

variable {tables : Tables} {seconds now : Int}

/-! ## The migrations accept what the version before accepted -/

theorem valid_migrate0015 {rows : List PublishedService0014}
    (valid : (SchemaContent.version0014 rows).Valid tables) :
    (SchemaContent.version0015 (rows.map (·.migrate0015 seconds))).Valid tables := by
  obtain ⟨keyed, checks⟩ := valid
  have same : (rows.map (·.migrate0015 seconds)).map (·.toPublishedService0014) = rows := by
    simp [Function.comp_def, PublishedService0014.migrate0015]
  refine ⟨by rwa [same], ?_⟩
  intro row member
  obtain ⟨stored, storedMember, rfl⟩ := List.mem_map.mp member
  have later : stored.createdAt < max (stored.createdAt + 1) (seconds * 1000 + 86400000) := by omega
  exact ⟨checks stored storedMember, later, .inl ⟨rfl, rfl, rfl⟩⟩

theorem valid_migrate0016 {rows : List PublishedService0015}
    (valid : (SchemaContent.version0015 rows).Valid tables) :
    (SchemaContent.version0016 (rows.map (·.migrate0016))).Valid tables := by
  obtain ⟨keyed, checks⟩ := valid
  have same : (rows.map (·.migrate0016)).map (·.toPublishedService0014) = rows.map (·.toPublishedService0014) := by
    simp [Function.comp_def, PublishedService0015.migrate0016]
  refine ⟨by rwa [same], ?_⟩
  intro row member
  obtain ⟨stored, storedMember, rfl⟩ := List.mem_map.mp member
  obtain ⟨common, _, accessible⟩ := checks stored storedMember
  exact ⟨common, by simp [PublishedService0015.migrate0016], accessible⟩

theorem migrate0017_checks {row : PublishedService0016} (checks : row.Checks) : row.migrate0017.Checks := by
  obtain ⟨⟨http, port, revocation⟩, expiry, accessible⟩ := checks
  refine ⟨port, .inl ⟨http, rfl⟩, expiry, ?_, revocation⟩
  rcases accessible with anyone | ⟨restricted, token, hash⟩
  · exact .inl anyone
  · exact .inr ⟨http, restricted, token, hash⟩

theorem valid_migrate0017 {surroundings : CloudDatabase} {rows : List PublishedService0016}
    (valid : (SchemaContent.version0016 rows).Valid surroundings.tables) :
    (SchemaContent.version0017 (rows.map (·.migrate0017))).Valid surroundings.tables := by
  obtain ⟨⟨ids, slugs, names, owned⟩, checks⟩ := valid
  rw [List.map_map] at ids slugs names
  intro constraint
  have held := surroundings.consistent constraint
  cases constraint with
  | serviceId =>
      show ((rows.map (·.migrate0017)).map (·.id)).Nodup
      rw [List.map_map]
      exact ids
  | serviceSlug =>
      show ((rows.map (·.migrate0017)).map (·.slug)).Nodup
      rw [List.map_map]
      exact slugs
  | serviceIngressPort =>
      show ((rows.map (·.migrate0017)).filterMap (·.ingressPort)).Nodup
      simp [List.filterMap_map, PublishedService0016.migrate0017]
  | serviceName =>
      show ((rows.map (·.migrate0017)).map fun service => (service.workspaceId, service.name)).Nodup
      rw [List.map_map]
      exact names
  | serviceWorkspace =>
      intro service member
      obtain ⟨row, rowMember, rfl⟩ := List.mem_map.mp member
      exact owned row.toPublishedService0014 (List.mem_map_of_mem rowMember)
  | serviceChecks =>
      intro service member
      obtain ⟨row, rowMember, rfl⟩ := List.mem_map.mp member
      exact migrate0017_checks (checks row rowMember)
  | _ => exact held

/-! ## What comes out of the migrations -/

theorem migrate_version0016 {surroundings : CloudDatabase} {rows : List PublishedService0016}
    (valid : (SchemaContent.version0016 rows).Valid surroundings.tables) :
    migrateCloudSchema surroundings.tables seconds (.version0016 rows) =
      some (.version0017 (rows.map (·.migrate0017))) := by
  simp [migrateCloudSchema, migrations, applyMigrations, SchemaContent.appliedIds, Migration.id, Migration.sql,
    valid_migrate0017 valid]

theorem migrate_version0015 {surroundings : CloudDatabase} {rows : List PublishedService0015}
    (valid : (SchemaContent.version0015 rows).Valid surroundings.tables) :
    migrateCloudSchema surroundings.tables seconds (.version0015 rows) =
      some (.version0017 ((rows.map (·.migrate0016)).map (·.migrate0017))) := by
  have valid0016 := valid_migrate0016 valid
  simp only [migrateCloudSchema, migrations, applyMigrations, SchemaContent.appliedIds, Migration.id, Migration.sql,
    valid0016, valid_migrate0017 valid0016, if_true, if_false, List.mem_singleton, String.reduceEq]

theorem migrate_version0014 {surroundings : CloudDatabase} {rows : List PublishedService0014}
    (valid : (SchemaContent.version0014 rows).Valid surroundings.tables) :
    migrateCloudSchema surroundings.tables seconds (.version0014 rows) =
      some (.version0017 (((rows.map (·.migrate0015 seconds)).map (·.migrate0016)).map (·.migrate0017))) := by
  have valid0015 : (SchemaContent.version0015 (rows.map (·.migrate0015 seconds))).Valid surroundings.tables :=
    valid_migrate0015 valid
  have valid0016 := valid_migrate0016 valid0015
  simp only [migrateCloudSchema, migrations, applyMigrations, SchemaContent.appliedIds, Migration.sql,
    valid0015, valid0016, valid_migrate0017 valid0016, if_true, if_false, List.not_mem_nil]

theorem migrate_version0017 {rows : List PublishedServiceRow} :
    migrateCloudSchema tables seconds (.version0017 rows) = some (.version0017 rows) := by
  simp [migrateCloudSchema, migrations, applyMigrations, SchemaContent.appliedIds]

/-- What version 0016 makes of a publication. -/
def permanent (service : PublishedServiceRow) : PublishedServiceRow := { service with expiresAt := none }

theorem publications_version0015 (rows : List PublishedService0015) :
    (SchemaContent.version0017 ((rows.map (·.migrate0016)).map (·.migrate0017))).publications =
      (SchemaContent.version0015 rows).publications.map permanent := by
  simp only [SchemaContent.publications, List.map_map]
  rfl

theorem publications_version0014 (rows : List PublishedService0014) :
    (SchemaContent.version0017
        (((rows.map (·.migrate0015 seconds)).map (·.migrate0016)).map (·.migrate0017))).publications =
      (SchemaContent.version0014 rows).publications := by
  simp only [SchemaContent.publications, List.map_map]
  rfl

/-! ## What the resolver finds -/

/-- The resolver finds an active publication whose address has no blanks around it. -/
theorem resolvable_iff {content : SchemaContent} {id : String}
    (slugs : (content.publications.map (·.slug)).Nodup) :
    content.Resolvable tables now id ↔
      ∃ service ∈ content.publications, service.id = id ∧ trim service.slug = service.slug ∧ service.IsLive now ∧
        IsServed tables service.workspaceId := by
  constructor
  · intro resolvable
    obtain ⟨slug, service, found, same⟩ := resolvable
    have hit := List.find?_some found
    simp only [Bool.and_eq_true, decide_eq_true_eq] at hit
    obtain ⟨⟨address, live⟩, served⟩ := hit
    exact ⟨service, List.mem_of_find?_eq_some found, same, by rw [address, trim_trim], live, served⟩
  · intro found
    obtain ⟨service, member, same, trimmed, live, served⟩ := found
    have unique : ∀ left ∈ content.publications, ∀ right ∈ content.publications,
        (left.slug = trim service.slug && left.IsLive now && IsServed tables left.workspaceId) = true →
        (right.slug = trim service.slug && right.IsLive now && IsServed tables right.workspaceId) = true →
        left = right := by
      intro left leftMember right rightMember leftHit rightHit
      simp only [Bool.and_eq_true, decide_eq_true_eq] at leftHit rightHit
      exact eq_of_key slugs leftMember rightMember (leftHit.1.1.trans rightHit.1.1.symm)
    refine ⟨service.slug, service, (find?_eq_some_of_unique unique).mpr ⟨member, ?_⟩, same⟩
    simp only [Bool.and_eq_true, decide_eq_true_eq]
    exact ⟨⟨trimmed.symm, live⟩, served⟩

theorem keptPublications {content migrated : SchemaContent}
    (run : migrateCloudSchema tables seconds content = some migrated)
    (same : migrated.publications = content.publications) : NeverResurrects tables seconds now content := by
  refine ⟨migrated, run, fun id resolvable => ?_, by rw [same], fun _ => by rw [same]⟩
  unfold SchemaContent.Resolvable at resolvable ⊢
  rwa [same] at resolvable

theorem live_of_resolvable {content : SchemaContent} {service : PublishedServiceRow} {id : String}
    (ids : (content.publications.map (·.id)).Nodup) (slugs : (content.publications.map (·.slug)).Nodup)
    (member : service ∈ content.publications) (same : service.id = id) (resolvable : content.Resolvable tables now id) :
    service.IsLive now := by
  obtain ⟨found, foundMember, foundId, _, live, _⟩ := (resolvable_iff slugs).mp resolvable
  rwa [eq_of_key ids member foundMember (same.trans foundId.symm)]

theorem neverResurrects_version0015 {surroundings : CloudDatabase} {rows : List PublishedService0015}
    (valid : (SchemaContent.version0015 rows).Valid surroundings.tables) :
    NeverResurrects surroundings.tables seconds now (.version0015 rows) ↔
      (SchemaContent.version0015 rows).NoneExpired surroundings.tables now := by
  have columns (column : PublishedServiceRow → String) (old : PublishedService0014 → String)
      (reads : ∀ row : PublishedService0015, column row.asRow = old row.toPublishedService0014)
      (kept : ∀ service, column (permanent service) = column service)
      (distinct : ((rows.map (·.toPublishedService0014)).map old).Nodup) :
      ((SchemaContent.version0015 rows).publications.map column).Nodup ∧
        (((SchemaContent.version0015 rows).publications.map permanent).map column).Nodup := by
    have before : (SchemaContent.version0015 rows).publications.map column =
        (rows.map (·.toPublishedService0014)).map old := by
      simp [SchemaContent.publications, Function.comp_def, reads]
    have after : ((SchemaContent.version0015 rows).publications.map permanent).map column =
        (SchemaContent.version0015 rows).publications.map column := by
      simp [Function.comp_def, kept]
    exact ⟨before ▸ distinct, by rw [after, before]; exact distinct⟩
  obtain ⟨ids, _⟩ := columns (·.id) (·.id) (fun _ => rfl) (fun _ => rfl) valid.1.1
  obtain ⟨slugs, slugsAfter⟩ := columns (·.slug) (·.slug) (fun _ => rfl) (fun _ => rfl) valid.1.2.1
  have outcome := publications_version0015 rows
  rw [← outcome] at slugsAfter
  constructor
  · intro keeps row member active trimmed served
    obtain ⟨migrated, run, unresurrected, _⟩ := keeps
    rw [migrate_version0015 valid, Option.some.injEq] at run
    subst run
    have published : row.asRow ∈ (SchemaContent.version0015 rows).publications := List.mem_map_of_mem member
    have carried : permanent row.asRow ∈
        (SchemaContent.version0017 ((rows.map (·.migrate0016)).map (·.migrate0017))).publications := by
      rw [outcome]
      exact List.mem_map_of_mem published
    have live : (permanent row.asRow).IsLive now := ⟨active, by simp [permanent]⟩
    have reachable := (resolvable_iff slugsAfter).mpr ⟨_, carried, rfl, trimmed, live, served⟩
    have live := live_of_resolvable ids slugs published rfl (unresurrected _ reachable)
    exact live.2 row.expiresAt rfl
  · intro unexpired
    refine ⟨_, migrate_version0015 valid, fun id resolvable => ?_, ?_, fun _ => ?_⟩
    · obtain ⟨service, serviceMember, same, trimmed, live, served⟩ := (resolvable_iff slugsAfter).mp resolvable
      rw [outcome] at serviceMember
      obtain ⟨before, beforeMember, rfl⟩ := List.mem_map.mp serviceMember
      obtain ⟨row, rowMember, rfl⟩ := List.mem_map.mp beforeMember
      have later := unexpired row rowMember live.1 trimmed served
      refine (resolvable_iff slugs).mpr ⟨row.asRow, beforeMember, same, trimmed, ⟨live.1, ?_⟩, served⟩
      intro expiresAt stored
      cases stored
      exact later
    · rw [outcome, List.map_map]
      rfl
    · rw [outcome, List.map_map]
      rfl

end Runs

section Sample

/-- A ready workspace of an enabled owner. -/
def studio : CloudDatabase :=
  Store.load
    { Tables.empty with
      organizations := [⟨"acme"⟩]
      members := [⟨"m1", "ada", "acme", "owner"⟩]
      workspaces := [⟨"w1", "m1", "acme", some "w1", none, Resources.zero, .ready, 10, 10⟩] }
    (by decide)

/-- A publication that expired ten minutes after it was made. -/
def expiredSite : PublishedService0015 where
  id := "p1"
  workspaceId := "w1"
  name := "site"
  slug := "s1"
  protocol := .http
  targetPort := 3000
  state := .active
  createdAt := 1000
  updatedAt := 1000
  revokedAt := none
  visibility := .publicAccess
  authPolicy := .none
  accessTokenHash := none
  expiresAt := 601000

theorem expiredSite_valid : (SchemaContent.version0015 [expiredSite]).Valid studio.tables := by decide

end Sample

end NebulaCloud.Publication
