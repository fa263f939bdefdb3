import NebulaCloud.Worker.Directory

namespace NebulaCloud.Worker

open NebulaCloud.Data NebulaCloud.Database NebulaCloud.Platform

/-! # Where the requests of a call go -/

/-! ## What one client sends -/

/-- A path of the worker's interface that is about the workspace. -/
def Addresses (workspaceId : String) (path : List Char) : Prop :=
  ∃ rest, path = (workspacePath workspaceId).toList ++ rest ∧ ∀ c ∈ rest.head?, c = '/'

/-- The request is signed with the secret of the client for a path of the workspace. -/
def SentBy (hmac : String → String → String) (client : NebulaWorkerClient) (workspaceId : String)
    (request : WorkerRequest) : Prop :=
  ∃ path search, ∃ context : RequestContext, request.url = client.baseURL ++ String.ofList (path ++ search) ∧
    Addresses workspaceId path ∧
    workerAuthorizationHeader hmac ⟨client.token, request.method, String.ofList path, context.now, context.nonce⟩ =
      .ok request.authorization

section Clients

variable {hmac : String → String → String} {parseHost : List Char → Option String} {client : NebulaWorkerClient}
  {workspaceId otherId : String} {path : List Char} {sent : WorkerRequest} {surroundings : Surroundings}

theorem encodeURIComponent_slashFree (text : String) : '/' ∉ (encodeURIComponent text).toList := by
  intro member
  rcases encodeURIComponent_mem member with unreserved | escape
  · exact absurd unreserved (by decide)
  · simp at escape

/-- Kept folded, since it is long. -/
@[irreducible] def workspacesPath : List Char := "/internal/v1/workspaces/".toList

theorem workspacePath_toList (workspaceId : String) :
    (workspacePath workspaceId).toList = workspacesPath ++ (encodeURIComponent workspaceId).toList := by
  rw [workspacesPath]
  exact String.toList_append

/-- A path is about one workspace. -/
theorem addresses_unique (addresses : Addresses workspaceId path) (other : Addresses otherId path) :
    workspaceId = otherId := by
  obtain ⟨rest, rfl, ends⟩ := addresses
  obtain ⟨later, same, endsLater⟩ := other
  rw [workspacePath_toList, workspacePath_toList, List.append_assoc, List.append_assoc] at same
  have behind := List.append_cancel_left same
  have free (text : String) : ∀ c ∈ (encodeURIComponent text).toList, decide (c ≠ '/') = true := by
    intro c member
    rw [decide_eq_true_eq]
    rintro rfl
    exact encodeURIComponent_slashFree text member
  have stops {rest : List Char} (ends : ∀ c ∈ rest.head?, c = '/') : ∀ c ∈ rest.head?, decide (c ≠ '/') = false := by
    intro c head
    simp [ends c head]
  obtain ⟨encoded, -⟩ := run_unique behind (free workspaceId) (stops ends) (free otherId) (stops endsLater)
  exact encodeURIComponent_injective (String.toList_injective encoded)

theorem request_sent {context : RequestContext} {suffix method : String} {idempotencyKey : Option String}
    {body : Option Json} {outcome : FetchOutcome} (starts : ∀ c ∈ suffix.toList.head?, c = '/') :
    ∀ sent ∈ (request hmac client context (workspacePath workspaceId ++ suffix) method idempotencyKey body outcome).1,
      SentBy hmac client workspaceId sent := by
  intro sent member
  unfold request at member
  split at member
  · cases member
  · rename_i authorization signed
    rw [List.mem_singleton] at member
    subst member
    refine ⟨(workspacePath workspaceId ++ suffix).toList, [], context, ?_, ⟨suffix.toList, ?_, starts⟩, ?_⟩
    · rw [List.append_nil, String.ofList_toList]
    · exact String.toList_append
    · rw [String.ofList_toList]
      exact signed

theorem request_sent_plain {context : RequestContext} {method : String} {idempotencyKey : Option String}
    {body : Option Json} {outcome : FetchOutcome} :
    ∀ sent ∈ (request hmac client context (workspacePath workspaceId) method idempotencyKey body outcome).1,
      SentBy hmac client workspaceId sent := by
  have sent := @request_sent hmac client workspaceId context "" method idempotencyKey body outcome (by simp)
  rwa [String.append_empty] at sent

theorem slash_head {text : List Char} (first : text.head? = some '/') : ∀ c ∈ text.head?, c = '/' := by
  intro c head
  rw [first] at head
  exact (Option.some.inj head).symm

theorem andThen_sent {α β : Type} {called : Called α} {next : α → Called β} {Holds : WorkerRequest → Prop}
    (first : ∀ sent ∈ called.1, Holds sent) (later : ∀ value, ∀ sent ∈ (next value).1, Holds sent) :
    ∀ sent ∈ (called.andThen next).1, Holds sent := by
  intro sent member
  rcases called with ⟨requests, _ | value⟩
  · exact first sent member
  · rcases List.mem_append.mp member with before | after
    · exact first sent before
    · exact later value sent after

theorem andThen_ok {α β : Type} {called : Called α} {next : α → Called β} {result : β}
    (ended : (called.andThen next).2 = .ok result) : ∃ value, called.2 = .ok value ∧ (next value).2 = .ok result := by
  rcases called with ⟨requests, _ | value⟩
  · cases ended
  · exact ⟨value, rfl, ended⟩

theorem callWorker_sent {call : WorkerCall} :
    ∀ sent ∈ (callWorker hmac parseHost client workspaceId call surroundings).1,
      SentBy hmac client workspaceId sent := by
  cases call with
  | ensureWorkspaceRunning _ jobId =>
      refine andThen_sent (andThen_sent ?_ fun _ => andThen_sent ?_ (by simp)) (by simp)
      · exact request_sent_plain
      · exact request_sent (slash_head rfl)
  | getRuntimeAccess =>
      refine andThen_sent (andThen_sent ?_ (by simp)) (by simp)
      exact request_sent (slash_head rfl)
  | getWorkspace =>
      refine andThen_sent (andThen_sent ?_ (by simp)) (by simp)
      exact request_sent_plain
  | restartWorkspace _ operationId =>
      refine andThen_sent (andThen_sent ?_ (by simp)) (by simp)
      exact request_sent (slash_head rfl)
  | proxyWorkspaceService _ targetPort method servicePath =>
      refine andThen_sent ?_ (by simp)
      intro sent member
      unfold serviceRequest at member
      split at member
      · cases member
      · rename_i service built
        split at member
        · cases member
        · rename_i authorization signed
          rw [List.mem_singleton] at member
          subst member
          obtain ⟨url, parsed, written⟩ := Option.bind_eq_some_iff.mp built
          cases written
          refine ⟨_, url.search, surroundings.first, rfl, ?_, signed⟩
          refine ⟨"/services/".toList ++ ((toString targetPort).toList ++ url.pathname), ?_, ?_⟩
          · unfold Ingress.workerServicePath workspacePath
            simp only [String.toList_append, List.append_assoc]
          · exact slash_head rfl

theorem checkedMutation_own {message : String} {payload : Json} {result : WorkerProvisioningResult}
    (checked : checkedMutation workspaceId message payload = .ok result) : result.workspaceId = workspaceId := by
  simp only [checkedMutation] at checked
  split at checked
  · cases checked
    rfl
  · cases checked

/-- An answer is about the workspace that was asked for. -/
theorem callWorker_own {call : WorkerCall} {answer : WorkerAnswer}
    (answered : (callWorker hmac parseHost client workspaceId call surroundings).2 = .ok answer) :
    ∀ told ∈ answer.workspaceId, told = workspaceId := by
  intro told isTold
  cases call with
  | ensureWorkspaceRunning _ jobId =>
      obtain ⟨result, ended, wrapped⟩ := andThen_ok answered
      cases wrapped
      obtain ⟨_, _, ended⟩ := andThen_ok ended
      obtain ⟨_, _, checked⟩ := andThen_ok ended
      cases isTold
      exact checkedMutation_own checked
  | getRuntimeAccess =>
      obtain ⟨runtime, ended, wrapped⟩ := andThen_ok answered
      cases wrapped
      obtain ⟨payload, _, checked⟩ := andThen_ok ended
      cases isTold
      simp only [checkedAccess] at checked
      split at checked
      · cases checked
      · split at checked
        · cases checked
        · cases checked
        · split at checked
          · cases checked
          · cases checked
          · cases checked
            rfl
  | getWorkspace =>
      obtain ⟨info, ended, wrapped⟩ := andThen_ok answered
      cases wrapped
      obtain ⟨payload, _, checked⟩ := andThen_ok ended
      cases isTold
      simp only [checkedWorkspace] at checked
      split at checked
      · split at checked
        · cases checked
          rfl
        · cases checked
      · cases checked
  | restartWorkspace _ operationId =>
      obtain ⟨result, ended, wrapped⟩ := andThen_ok answered
      cases wrapped
      obtain ⟨_, _, checked⟩ := andThen_ok ended
      cases isTold
      exact checkedMutation_own checked
  | proxyWorkspaceService =>
      obtain ⟨outcome, _, wrapped⟩ := andThen_ok answered
      cases wrapped
      cases isTold

end Clients

/-! ## Kept clients are never stale -/

section Factory

variable {settings : FactorySettings} {clients : List (String × CachedClient)} {host otherHost : WorkerHostRow}
  {token otherToken keyId : String} {made : NebulaWorkerClient}

/-- No secret has the separator of a revision. -/
def ColonFree (credentials : List WorkerCredential) : Prop := ∀ credential ∈ credentials, ':' ∉ credential.secret.toList

instance (credentials : List WorkerCredential) : Decidable (ColonFree credentials) :=
  inferInstanceAs (Decidable (∀ _ ∈ _, _))

theorem getSecret_some (found : getSecret settings.credentials keyId = some token) :
    ∃ credential ∈ settings.credentials, credential.keyId = keyId ∧ credential.secret = token := by
  obtain ⟨credential, first, same⟩ := Option.map_eq_some_iff.mp found
  have named := List.find?_some first
  exact ⟨credential, List.mem_of_find?_eq_some first, of_decide_eq_true named, same⟩

theorem keyId_free (credential : WorkerCredential) : ':' ∉ credential.keyId.toList := by
  intro member
  have valid := credential.isKeyId
  simp only [isCredentialKeyId, Bool.and_eq_true, List.all_eq_true] at valid
  exact absurd (valid.1.2 ':' member) (by decide)

/-- A revision tells where the client goes and what it signs with. -/
theorem revision_injective (colonFree : ColonFree settings.credentials)
    (known : getSecret settings.credentials host.credentialKeyId = some token)
    (known' : getSecret settings.credentials otherHost.credentialKeyId = some otherToken)
    (same : revision settings host token = revision settings otherHost otherToken) :
    host.baseURL = otherHost.baseURL ∧ token = otherToken := by
  obtain ⟨credential, isKnown, key, rfl⟩ := getSecret_some known
  obtain ⟨other, isKnown', key', rfl⟩ := getSecret_some known'
  have regrouped (host : WorkerHostRow) (token : String) : revision settings host token =
      (((toString host.updatedAt).toList ++ ':' :: host.baseURL.toList) ++ ':' :: host.credentialKeyId.toList ++
        ':' :: token.toList) ++ ':' :: settings.workspaceImage.toList := by
    simp [revision]
  rw [regrouped, regrouped] at same
  have behind := List.append_cancel_right same
  obtain ⟨fronts, tokens⟩ := field_unique_last behind (colonFree _ isKnown) (colonFree _ isKnown')
  obtain ⟨urls, -⟩ := field_unique_last fronts (key ▸ keyId_free credential) (key' ▸ keyId_free other)
  obtain ⟨-, baseURLs⟩ := field_unique urls (integer_free (by decide) (by decide))
    (integer_free (by decide) (by decide))
  exact ⟨String.toList_injective baseURLs, String.toList_injective tokens⟩

/-- Every kept client was made from a row with its revision. -/
def Coherent (settings : FactorySettings) (clients : List (String × CachedClient)) : Prop :=
  ∀ entry ∈ clients, ∃ host : WorkerHostRow, ∃ token,
    getSecret settings.credentials host.credentialKeyId = some token ∧
      entry.2.revision = revision settings host token ∧
      newWorkerClient host.baseURL token settings.workspaceImage = .ok entry.2.client

theorem newClient_of_secret (known : getSecret settings.credentials host.credentialKeyId = some token) :
    newClient settings host = newWorkerClient host.baseURL token settings.workspaceImage := by
  simp only [newClient, connection, known]
  rfl

/-- The client that is used is the one that the row would give now. -/
theorem client_eq_newClient (colonFree : ColonFree settings.credentials) (coherent : Coherent settings clients) :
    (client settings clients host).1 = newClient settings host ∧
      Coherent settings (client settings clients host).2 := by
  cases known : getSecret settings.credentials host.credentialKeyId with
  | none =>
      simp only [client, newClient, connection, known]
      exact ⟨rfl, coherent⟩
  | some token =>
      have connected : connection settings host = .ok { baseURL := host.baseURL, token } := by
        simp only [connection, known]
      have fresh : ∀ made, newWorkerClient host.baseURL token settings.workspaceImage = .ok made →
          Coherent settings ((host.id, ⟨revision settings host token, made⟩) :: clients) := by
        intro made created entry member
        rcases List.mem_cons.mp member with rfl | kept
        · exact ⟨host, token, known, rfl, created⟩
        · exact coherent entry kept
      rw [newClient_of_secret known]
      simp only [client, connected]
      cases cached : clients.lookup host.id with
      | none =>
          cases created : newWorkerClient host.baseURL token settings.workspaceImage with
          | error failure => exact ⟨rfl, coherent⟩
          | ok made => exact ⟨rfl, fresh made created⟩
      | some entry =>
          by_cases current : entry.revision = revision settings host token
          · obtain ⟨before, later, split, -⟩ := List.lookup_eq_some_iff.mp cached
            have member : (host.id, entry) ∈ clients := by simp [split]
            obtain ⟨earlier, secret, isKnown, revised, created⟩ := coherent _ member
            obtain ⟨baseURL, same⟩ := revision_injective colonFree isKnown known (revised.symm.trans current)
            rw [baseURL, same] at created
            simp only [if_pos current]
            exact ⟨created.symm, coherent⟩
          · simp only [if_neg current]
            cases created : newWorkerClient host.baseURL token settings.workspaceImage with
            | error failure => exact ⟨rfl, coherent⟩
            | ok made => exact ⟨rfl, fresh made created⟩

theorem newClient_ok (created : newClient settings host = .ok made) :
    ∃ token, getSecret settings.credentials host.credentialKeyId = some token ∧
      made = ⟨withoutTrailingSlash host.baseURL, token, trim settings.workspaceImage⟩ := by
  cases known : getSecret settings.credentials host.credentialKeyId with
  | none =>
      simp only [newClient, connection, known] at created
      cases created
  | some token =>
      rw [newClient_of_secret known] at created
      obtain ⟨credential, _, _, rfl⟩ := getSecret_some known
      unfold newWorkerClient at created
      split at created
      · cases created
      · split at created
        · cases created
        · split at created
          · cases created
          · cases created
            exact ⟨_, rfl, by rw [credential.trimmed]⟩

end Factory

/-! ## Calls go to the assigned host -/

/-- What the host knows the workspace of the call as. -/
def WorkerCall.knownAs (call : WorkerCall) (workspace : WorkspaceRow) : Option String :=
  match call with
  | .ensureWorkspaceRunning workspaceId _ => some workspaceId
  | .getRuntimeAccess _ | .getWorkspace _ | .restartWorkspace _ _ | .proxyWorkspaceService _ _ _ _ =>
      workspace.workerWorkspaceId

/-- The host that the workspace of the call is on. -/
def AssignedTo (database : CloudDatabase) (call : WorkerCall) (host : WorkerHostRow) (workerWorkspaceId : String) :
    Prop :=
  ∃ workspace, getWorkspaceById database call.workspaceId = some workspace ∧
    workspace.workerHostId = some host.id ∧ getWorkerHost database host.id = some host ∧
    call.knownAs workspace = some workerWorkspaceId

section Directory

variable {Load : Type} [LinearOrder Load] {quotient : Int → Int → Load} {hmac : String → String → String}
  {parseHost : List Char → Option String} {settings : DirectorySettings} {database after : CloudDatabase}
  {call : WorkerCall} {host : WorkerHostRow} {workerWorkspaceId workspaceId : String} {now : Int}

theorem assigned_ok (found : assigned database workspaceId = .ok (host, workerWorkspaceId)) :
    ∃ workspace, getWorkspaceById database workspaceId = some workspace ∧ workspace.workerHostId = some host.id ∧
      getWorkerHost database host.id = some host ∧ workspace.workerWorkspaceId = some workerWorkspaceId := by
  unfold assigned at found
  split at found
  · cases found
  · rename_i workspace stored
    split at found
    · rename_i hostId workerId onHost atWorker
      split at found
      · cases found
      · rename_i row isHost
        cases found
        have sameId : host.id = hostId := lookup_key isHost
        refine ⟨workspace, stored, ?_, sameId ▸ isHost, ?_⟩
        · rw [sameId]
          exact (Option.filter_eq_some_iff.mp onHost).1
        · exact (Option.filter_eq_some_iff.mp atWorker).1
    · cases found

theorem placeWorkspace_assigned {workspace : WorkspaceRow} {required : Resources} {heartbeatMaxAgeMs : Int}
    {assignment : WorkerPlacementAssignment} (stored : getWorkspaceById database workspaceId = some workspace)
    (placed : placeWorkspace quotient database workspace required heartbeatMaxAgeMs now = .ok (after, assignment)) :
    getWorkspaceById after workspaceId = some assignment.workspace ∧
      assignment.workspace.workerHostId = some assignment.workerHost.id ∧
      getWorkerHost after assignment.workerHost.id = some assignment.workerHost := by
  have sameId : workspace.id = workspaceId := lookup_key stored
  unfold placeWorkspace at placed
  split at placed
  · cases placed
  · rename_i candidate selected
    split at placed
    · cases placed
    · obtain ⟨reserved, reserve, placed⟩ := bind_ok.mp placed
      split at placed
      · cases placed
      · rename_i unassigned
        obtain ⟨written, assign, placed⟩ := bind_ok.mp placed
        split at placed
        · rename_i row workerHost foundWorkspace foundHost
          cases placed
          have hostId : workerHost.id = candidate.id := lookup_key foundHost
          refine ⟨sameId ▸ foundWorkspace, ?_, hostId.symm ▸ foundHost⟩
          have looked := @lookup_updateWhere WorkspaceRow _ _ (·.id) database.tables.workspaces workspace.id
            (fun row => row.id = workspace.id && row.workerHostId = none)
            (fun row => { row with workerHostId := some candidate.id, reserved := required, updatedAt := now })
            fun _ _ => rfl
          have before : lookup (·.id) database.tables.workspaces workspace.id = some workspace := sameId ▸ stored
          have rows : after.tables.workspaces = updateWhere
              (fun row => row.id = workspace.id && row.workerHostId = none)
              (fun row => { row with workerHostId := some candidate.id, reserved := required, updatedAt := now })
              database.tables.workspaces := by
            rw [Store.execute_ok.mp assign, assignHost, Store.execute_ok.mp reserve, reserveHost]
          rw [rows, looked, before, Option.map_some, if_pos (by simpa using unassigned)] at foundWorkspace
          cases foundWorkspace
          rw [hostId]
        · cases placed

theorem resolveCall_assigned
    (resolved : resolveCall quotient settings database call now = (after, .ok (host, workerWorkspaceId))) :
    AssignedTo after call host workerWorkspaceId := by
  cases call with
  | ensureWorkspaceRunning workspaceId jobId =>
      simp only [resolveCall] at resolved
      split at resolved
      · cases resolved
      · rename_i placed assignment assigns
        cases resolved
        obtain ⟨required, _, assigns⟩ := bind_ok.mp assigns
        split at assigns
        · cases assigns
        · split at assigns
          · cases assigns
          · split at assigns
            · cases assigns
            · rename_i workspace stored
              split at assigns
              · rename_i hostId onHost
                split at assigns
                · cases assigns
                · rename_i row isHost
                  cases assigns
                  have sameId : row.id = hostId := lookup_key isHost
                  refine ⟨workspace, stored, ?_, sameId ▸ isHost, rfl⟩
                  rw [sameId]
                  exact (Option.filter_eq_some_iff.mp onHost).1
              · obtain ⟨placed, onHost, isHost⟩ := placeWorkspace_assigned stored assigns
                exact ⟨assignment.workspace, placed, onHost, isHost, rfl⟩
  | getRuntimeAccess | getWorkspace | restartWorkspace | proxyWorkspaceService =>
      simp only [resolveCall, Prod.mk.injEq] at resolved
      obtain ⟨rfl, found⟩ := resolved
      exact assigned_ok found

/-- What is sent for a call, and what is told of its workspace, once the kept clients are
coherent. -/
theorem call_routes (colonFree : ColonFree settings.credentials) {directory : WorkerDirectory}
    (coherent : Coherent settings.toFactorySettings directory.clients) (surroundings : Surroundings) :
    Coherent settings.toFactorySettings (directory.call quotient hmac parseHost settings call surroundings).1.clients ∧
      ((directory.call quotient hmac parseHost settings call surroundings).2.1 = [] ∧
          (∀ answer, (directory.call quotient hmac parseHost settings call surroundings).2.2 ≠ .ok answer) ∨
        ∃ host workerWorkspaceId secret,
          AssignedTo (directory.call quotient hmac parseHost settings call surroundings).1.database call host
            workerWorkspaceId ∧
          getSecret settings.credentials host.credentialKeyId = some secret ∧
          (∀ sent ∈ (directory.call quotient hmac parseHost settings call surroundings).2.1,
            SentBy hmac ⟨withoutTrailingSlash host.baseURL, secret, trim settings.workspaceImage⟩ workerWorkspaceId
              sent) ∧
          ∀ answer, (directory.call quotient hmac parseHost settings call surroundings).2.2 = .ok answer →
            ∀ told ∈ answer.workspaceId, told = workerWorkspaceId) := by
  unfold WorkerDirectory.call
  cases resolved : resolveCall quotient settings directory.database call surroundings.assignedAt with
  | mk after outcome =>
      cases outcome with
      | error failure => exact ⟨coherent, .inl ⟨rfl, by simp⟩⟩
      | ok target =>
          obtain ⟨host, workerWorkspaceId⟩ := target
          obtain ⟨same, kept⟩ := @client_eq_newClient settings.toFactorySettings directory.clients host colonFree coherent
          cases used : client settings.toFactorySettings directory.clients host with
          | mk made clients =>
              rw [used] at same kept
              cases made with
              | error failure =>
                  simp only [used]
                  exact ⟨kept, .inl ⟨trivial, by simp⟩⟩
              | ok made =>
                  obtain ⟨secret, known, rfl⟩ := newClient_ok same.symm
                  simp only [used]
                  exact ⟨kept, .inr ⟨host, workerWorkspaceId, secret, resolveCall_assigned resolved, known,
                    callWorker_sent, fun answer answered => callWorker_own answered⟩⟩

end Directory

end NebulaCloud.Worker
