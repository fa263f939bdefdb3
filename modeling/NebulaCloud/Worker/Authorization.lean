import NebulaCloud.Data.Fields
import NebulaCloud.Usage.LegacyIds

namespace NebulaCloud.Worker

open NebulaCloud.Data NebulaCloud.Platform

/-! # Authorization of requests to a worker

Each request is signed by itself, for a minute. -/

def authorizationVersion : String := "v1"

def lifetimeSeconds : Int := 60

structure WorkerAuthorizationOptions where
  secret : String
  method : String
  path : String
  /-- `Date.now()`. -/
  now : Int
  nonce : String
deriving DecidableEq, Repr

/-- `/^[A-Za-z0-9_-]{16,128}$/`. -/
def isRequestNonce (nonce : String) : Bool :=
  nonce.toList.all (fun c => c.isAlphanum || c = '_' || c = '-') && 16 ≤ nonce.toList.length &&
    nonce.toList.length ≤ 128

/-- `method.toUpperCase()`; a method is a token of ASCII characters. -/
def upperMethod (method : String) : String := String.ofList (method.toList.map Char.toUpper)

inductive AuthorizationFailure
  | error (message : String)
deriving DecidableEq, Repr

namespace WorkerAuthorizationOptions

variable (options : WorkerAuthorizationOptions)

/-- In seconds. -/
def expiresAt : Int := options.now / 1000 + lifetimeSeconds

/-- What is signed. -/
def payload : List Char :=
  joinFields '\n' ([authorizationVersion, toString options.expiresAt, options.nonce,
    upperMethod options.method].map String.toList) options.path.toList

end WorkerAuthorizationOptions

/-- `createHmac('sha256', secret).update(payload).digest('base64url')` is up to the platform. -/
def workerAuthorizationHeader (hmac : String → String → String) (options : WorkerAuthorizationOptions) :
    Except AuthorizationFailure String :=
  if trim options.secret = "" then .error (.error "Worker service signing secret is required")
  else if isRequestNonce options.nonce = false then .error (.error "Worker service credential nonce is invalid")
  else
    .ok (String.ofList ("Nebula-HMAC ".toList ++
      joinFields '.' ([authorizationVersion, toString options.expiresAt, options.nonce].map String.toList)
        (hmac options.secret (String.ofList options.payload)).toList))

section Reading

variable {hmac : String → String → String} {options other : WorkerAuthorizationOptions} {header : String}

/-- An HTTP method is a token. -/
def IsMethod (method : String) : Prop := '\n' ∉ method.toList

instance (method : String) : Decidable (IsMethod method) := inferInstanceAs (Decidable (_ ∉ _))

theorem toString_int_toList (number : Int) : (toString number).toList =
    if 0 ≤ number then (toString number.toNat).toList else '-' :: (toString (-number).toNat).toList := by
  rw [Int.toString_eq_repr, Int.repr_eq_if]
  split
  · rfl
  · simp

theorem integer_mem {number : Int} {c : Char} (member : c ∈ (toString number).toList) :
    c.isDigit = true ∨ c = '-' := by
  rw [toString_int_toList] at member
  split at member
  · exact .inl (Usage.decimal_digits _ c member)
  · rcases List.mem_cons.mp member with rfl | digit
    · exact .inr rfl
    · exact .inl (Usage.decimal_digits _ c digit)

theorem integer_injective {number other : Int} (same : (toString number).toList = (toString other).toList) :
    number = other := by
  have unsigned (number : Nat) : (toString number).toList.head? ≠ some '-' := by
    intro head
    exact absurd (Usage.decimal_digits number '-' (List.mem_of_mem_head? head)) (by decide)
  rw [toString_int_toList, toString_int_toList] at same
  split at same
  · split at same
    · have equal := Usage.decimal_injective (String.toList_injective same)
      omega
    · exact absurd (congrArg List.head? same) (unsigned _)
  · split at same
    · exact absurd (congrArg List.head? same.symm) (unsigned _)
    · have equal := Usage.decimal_injective (String.toList_injective (List.cons.inj same).2)
      omega

theorem integer_free {number : Int} {separator : Char} (digit : separator.isDigit = false)
    (sign : separator ≠ '-') : separator ∉ (toString number).toList := by
  intro member
  rcases integer_mem member with isDigit | same
  · rw [digit] at isDigit
    cases isDigit
  · exact sign same

theorem nonce_free {nonce : String} {separator : Char} (valid : isRequestNonce nonce = true)
    (outside : (separator.isAlphanum || separator = '_' || separator = '-') = false) : separator ∉ nonce.toList := by
  intro member
  simp only [isRequestNonce, Bool.and_eq_true, List.all_eq_true] at valid
  have inside := valid.1.1 separator member
  rw [outside] at inside
  cases inside

theorem upperMethod_free {method : String} (isMethod : IsMethod method) : '\n' ∉ (upperMethod method).toList := by
  rw [upperMethod, String.toList_ofList]
  intro member
  obtain ⟨c, stored, upper⟩ := List.mem_map.mp member
  have newline : c = '\n' := by
    by_cases ascii : c.toNat < 128
    · exact ascii_forall (fun c => c.toUpper = '\n' → c = '\n') (by decide) ascii upper
    · have same : c.toUpper = c := dif_neg fun lower : 'a'.val ≤ c.val ∧ c.val ≤ 'z'.val =>
        ascii (Nat.lt_of_le_of_lt (UInt32.le_iff_toNat_le.mp lower.2) (by decide))
      exact same.symm.trans upper
  exact isMethod (newline ▸ stored)

/-- What is signed tells the request. -/
theorem payload_injective (valid : isRequestNonce options.nonce = true) (valid' : isRequestNonce other.nonce = true)
    (isMethod : IsMethod options.method) (isMethod' : IsMethod other.method)
    (same : options.payload = other.payload) :
    options.expiresAt = other.expiresAt ∧ options.nonce = other.nonce ∧
      upperMethod options.method = upperMethod other.method ∧ options.path = other.path := by
  have free {options : WorkerAuthorizationOptions} (valid : isRequestNonce options.nonce = true)
      (isMethod : IsMethod options.method) : ∀ field ∈ [authorizationVersion, toString options.expiresAt,
        options.nonce, upperMethod options.method].map String.toList, '\n' ∉ field := by
    intro field member
    simp only [List.map_cons, List.map_nil, List.mem_cons, List.not_mem_nil, or_false] at member
    rcases member with rfl | rfl | rfl | rfl
    · decide
    · exact integer_free (by decide) (by decide)
    · exact nonce_free valid (by decide)
    · exact upperMethod_free isMethod
  obtain ⟨fields, path⟩ := joinFields_injective (by simp) (free valid isMethod) (free valid' isMethod') same
  simp only [List.map_cons, List.map_nil, List.cons.injEq, and_true] at fields
  obtain ⟨-, expiry, nonce, method⟩ := fields
  exact ⟨integer_injective expiry, String.toList_injective nonce, String.toList_injective method,
    String.toList_injective path⟩

/-- Whoever presents the header of one request for another one, agrees with it in all that
is signed, or has two texts with one signature. -/
theorem workerAuthorization_binds (signed : workerAuthorizationHeader hmac options = .ok header)
    (presented : workerAuthorizationHeader hmac other = .ok header) (isMethod : IsMethod options.method)
    (isMethod' : IsMethod other.method) :
    (options.expiresAt = other.expiresAt ∧ options.nonce = other.nonce ∧
        upperMethod options.method = upperMethod other.method ∧ options.path = other.path) ∨
      (options.payload ≠ other.payload ∧
        hmac options.secret (String.ofList options.payload) = hmac other.secret (String.ofList other.payload)) := by
  have accepted {options : WorkerAuthorizationOptions} (signed : workerAuthorizationHeader hmac options = .ok header) :
      isRequestNonce options.nonce = true ∧ header.toList = "Nebula-HMAC ".toList ++
        joinFields '.' ([authorizationVersion, toString options.expiresAt, options.nonce].map String.toList)
          (hmac options.secret (String.ofList options.payload)).toList := by
    unfold workerAuthorizationHeader at signed
    split at signed
    · cases signed
    · split at signed
      · cases signed
      · rename_i valid
        cases signed
        exact ⟨by simpa using valid, String.toList_ofList⟩
  obtain ⟨valid, written⟩ := accepted signed
  obtain ⟨valid', written'⟩ := accepted presented
  by_cases same : options.payload = other.payload
  · exact .inl (payload_injective valid valid' isMethod isMethod' same)
  · have free {options : WorkerAuthorizationOptions} (valid : isRequestNonce options.nonce = true) :
        ∀ field ∈ [authorizationVersion, toString options.expiresAt, options.nonce].map String.toList,
          '.' ∉ field := by
      intro field member
      simp only [List.map_cons, List.map_nil, List.mem_cons, List.not_mem_nil, or_false] at member
      rcases member with rfl | rfl | rfl
      · decide
      · exact integer_free (by decide) (by decide)
      · exact nonce_free valid (by decide)
    have behind := List.append_cancel_left (written.symm.trans written')
    have signatures := (joinFields_injective (by simp) (free valid) (free valid') behind).2
    exact .inr ⟨same, String.toList_injective signatures⟩

end Reading

section Sample

def statusRequest : WorkerAuthorizationOptions :=
  ⟨"a secret of the fleet", "get", "/internal/v1/status", 5000, "0123456789abcdef"⟩

/-- The same request within the second. -/
def statusAgain : WorkerAuthorizationOptions := { statusRequest with method := "GET", now := 5999 }

theorem workerAuthorization_binds_status :
    (statusRequest.expiresAt = statusAgain.expiresAt ∧ statusRequest.nonce = statusAgain.nonce ∧
        upperMethod statusRequest.method = upperMethod statusAgain.method ∧ statusRequest.path = statusAgain.path) ∨
      (statusRequest.payload ≠ statusAgain.payload ∧ "c2lnbmF0dXJl" = "c2lnbmF0dXJl") :=
  @workerAuthorization_binds (fun _ _ => "c2lnbmF0dXJl") statusRequest statusAgain
    "Nebula-HMAC v1.65.0123456789abcdef.c2lnbmF0dXJl" (by decide +kernel) (by decide +kernel) (by decide) (by decide)

end Sample

end NebulaCloud.Worker
