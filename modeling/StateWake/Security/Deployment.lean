import StateWake.Base.Sha256

/-!
# The deployment security boundary

`adapters/deployment_security.py` and the rejection handlers of `review_api.py`. A request is
classified by its method and path; the boundary then lets it through or turns it away, and
every decision on a classified request is a security event.
-/

namespace StateWake.Security

open StateWake.Base Text

/-- `SecurityOperation`, `adapters/deployment_security.py`. -/
inductive SecurityOperation where
  | verifyEvidence
  | verifyProof
  | reviewRead
  | reviewWrite
  | approvalRead
  | approvalWrite
  | approvalRevoke
  | approvalSupersede
  deriving DecidableEq, Repr

/-- The text of an operation. -/
def SecurityOperation.text : SecurityOperation → Text
  | verifyEvidence => lit "verify:evidence"
  | verifyProof => lit "verify:proof"
  | reviewRead => lit "review:read"
  | reviewWrite => lit "review:write"
  | approvalRead => lit "approval:read"
  | approvalWrite => lit "approval:write"
  | approvalRevoke => lit "approval:revoke"
  | approvalSupersede => lit "approval:supersede"

theorem SecurityOperation.surrogateFree_text (o : SecurityOperation) : SurrogateFree o.text := by
  cases o <;> exact surrogateFree_lit _

/-- `SecurityAuditEvent`, `adapters/security_audit.py:18–23`. -/
inductive SecurityAuditEvent where
  | authenticationFailed
  | authorizationDenied
  | requestRejected
  | requestAdmitted
  deriving DecidableEq, Repr

/-- The text of an event. -/
def SecurityAuditEvent.text : SecurityAuditEvent → Text
  | authenticationFailed => lit "authentication_failed"
  | authorizationDenied => lit "authorization_denied"
  | requestRejected => lit "request_rejected"
  | requestAdmitted => lit "request_admitted"

theorem SecurityAuditEvent.surrogateFree_text (e : SecurityAuditEvent) : SurrogateFree e.text := by
  cases e <;> exact surrogateFree_lit _

/-- `SecurityEvent`, `adapters/deployment_security.py:92–106`. -/
structure SecurityEvent where
  event : SecurityAuditEvent
  operation : Option SecurityOperation
  method : Text
  path : Text
  reason : Text
  deriving DecidableEq

/-! ### Routes -/

/-- The separator of path parts. -/
def slash : CodePoint := 0x2F

/-- `[part for part in path.split("/") if part]`. -/
def pathParts (path : Text) : List Text := (path.splitOn slash).filter fun part ↦ !part.isEmpty

/-- The parts of `/api/v1/claims/<record>/<collection>`. -/
def isCollectionRoute (parts : List Text) (collection : Text) : Bool :=
  match parts with
  | [api, version, claims, record, name] =>
    [api, version, claims] == [lit "api", lit "v1", lit "claims"] && isSha256 record &&
      name == collection
  | _ => false

/-- The parts of `/api/v1/claims/<record>/approvals/<receipt>/<action>`. -/
def isLifecycleRoute (parts : List Text) (action : Text) : Bool :=
  match parts with
  | [api, version, claims, record, name, receipt, last] =>
    [api, version, claims] == [lit "api", lit "v1", lit "claims"] && isSha256 record &&
      name == lit "approvals" && isSha256 receipt && last == action
  | _ => false

/-- `_operation_for_request`, `adapters/deployment_security.py:134–177`. -/
def operationForRequest (method path : Text) : Option SecurityOperation :=
  if method = lit "POST" ∧ path = lit "/v1/evidence/verify" then some .verifyEvidence
  else if method = lit "POST" ∧ path = lit "/v1/proof/verify" then some .verifyProof
  else if isCollectionRoute (pathParts path) (lit "reviews") ∧ method = lit "GET" then
    some .reviewRead
  else if isCollectionRoute (pathParts path) (lit "reviews") ∧ method = lit "POST" then
    some .reviewWrite
  else if isCollectionRoute (pathParts path) (lit "approvals") ∧ method = lit "GET" then
    some .approvalRead
  else if isCollectionRoute (pathParts path) (lit "approvals") ∧ method = lit "POST" then
    some .approvalWrite
  else if isLifecycleRoute (pathParts path) (lit "revoke") ∧ method = lit "POST" then
    some .approvalRevoke
  else if isLifecycleRoute (pathParts path) (lit "supersede") ∧ method = lit "POST" then
    some .approvalSupersede
  else if method = lit "GET" ∧ path = lit "/api/v1/review-capabilities" then some .reviewRead
  else none

/-! ### Emitted events -/

/-- What the boundary looks at in a request: the method in upper case, the path and the scheme
in lower case. -/
structure Request where
  method : Text
  path : Text
  scheme : Text

/-- `DeploymentSecurityConfig`, `adapters/deployment_security.py:109–132`, over the host's type
of principals. -/
structure DeploymentSecurityConfig (π : Type) where
  authenticate : Request → Option π
  authorize : π → SecurityOperation → Request → Bool
  admitRequest : Option (π → Request → Bool)
  requireHttps : Bool
  publicPaths : List Text

/-- The event that `create_secured_application` emits for a request,
`adapters/deployment_security.py:204–329`. -/
def securedApplication {π : Type} (config : DeploymentSecurityConfig π) (request : Request) :
    Option SecurityEvent :=
  if request.path ∈ config.publicPaths then none
  else
    match operationForRequest request.method request.path with
    | none => none
    | some operation =>
      let emit (event : SecurityAuditEvent) (reason : Text) : Option SecurityEvent :=
        some ⟨event, some operation, request.method, request.path, reason⟩
      if config.requireHttps ∧ request.scheme ≠ lit "https" then
        emit .requestRejected (lit "https_required")
      else
        match config.authenticate request with
        | none => emit .authenticationFailed (lit "authentication_failed")
        | some principal =>
          if !config.authorize principal operation request then
            emit .authorizationDenied (lit "authorization_denied")
          else if config.admitRequest.any fun admitted ↦ !admitted principal request then
            emit .requestRejected (lit "request_admission_rejected")
          else emit .requestAdmitted (lit "authorized")

/-- Why a handler of the review application rejects an admitted request,
`review_api.py:462–489` and `review_api.py:1014–1111`. -/
inductive Rejection where
  | originDenied
  | csrfRejected
  | staleHumanReviewBasis
  | approvalIdempotencyConflict
  | approvalLifecycleConflict
  | approvalLifecycleTargetInvalid
  | idempotencyConflict
  | invalidSupersession
  deriving DecidableEq, Repr

/-- The reason a handler passes. -/
def Rejection.reason : Rejection → Text
  | originDenied => lit "origin_denied"
  | csrfRejected => lit "csrf_rejected"
  | staleHumanReviewBasis => lit "stale_human_review_basis"
  | approvalIdempotencyConflict => lit "approval_idempotency_conflict"
  | approvalLifecycleConflict => lit "approval_lifecycle_conflict"
  | approvalLifecycleTargetInvalid => lit "approval_lifecycle_target_invalid"
  | idempotencyConflict => lit "idempotency_conflict"
  | invalidSupersession => lit "invalid_supersession"

/-- `_emit_rejection`, `review_api.py:428–448`. -/
def emitRejection (method path reason : Text) (operation : SecurityOperation) : SecurityEvent :=
  ⟨.requestRejected, some operation, method, path, reason⟩

/-- The events of the boundary and of the handlers behind it. A handler passes the method and
path of a classified request, and an operation that some request is classified as. -/
inductive Emitted : SecurityEvent → Prop where
  | boundary {π : Type} (config : DeploymentSecurityConfig π) (request : Request)
      {event : SecurityEvent} (emitted : securedApplication config request = some event) :
      Emitted event
  | rejection {method path method' path' : Text} (rejected : Rejection)
      {operation : SecurityOperation} (routed : operationForRequest method path ≠ none)
      (classified : operationForRequest method' path' = some operation) :
      Emitted (emitRejection method path rejected.reason operation)

/-! ### What an event holds -/

/-- Every code point of a path is a separator or stands in a part. -/
private theorem mem_splitOn {c : CodePoint} {s : Text} (h : c ∈ s) :
    c = slash ∨ ∃ part ∈ s.splitOn slash, c ∈ part := by
  induction s with
  | nil => cases h
  | cons d s ih =>
    rw [List.splitOn_cons_eq_if_modifyHead]
    by_cases hd : d = slash
    · rw [if_pos (by simpa using hd)]
      rcases List.mem_cons.mp h with rfl | h
      · exact .inl hd
      · exact (ih h).imp id fun ⟨part, hp, hc⟩ ↦ ⟨part, List.mem_cons_of_mem _ hp, hc⟩
    · rw [if_neg (by simpa using hd)]
      cases hs : s.splitOn slash with
      | nil => exact absurd hs (List.splitOn_ne_nil _ _)
      | cons first parts =>
        rw [hs] at ih
        rw [List.modifyHead_cons]
        rcases List.mem_cons.mp h with rfl | h
        · exact .inr ⟨_, List.mem_cons_self, List.mem_cons_self⟩
        · rcases ih h with hc | ⟨part, hp, hc⟩
          · exact .inl hc
          · rcases List.mem_cons.mp hp with rfl | hp
            · exact .inr ⟨_, List.mem_cons_self, List.mem_cons_of_mem _ hc⟩
            · exact .inr ⟨part, List.mem_cons_of_mem _ hp, hc⟩

/-- A text the audit journal can hold and read back. -/
structure Plain (s : Text) : Prop where
  nonempty : s ≠ []
  whole : SurrogateFree s

private theorem plain_lit {s : String} (h : s ≠ "") : Plain (lit s) where
  nonempty := by
    intro hs
    exact h (lit_inj.mp (hs.trans (show [] = lit "" from rfl)))
  whole := surrogateFree_lit s

private theorem plain_path {path : Text} (hne : pathParts path ≠ [])
    (h : ∀ part ∈ pathParts path, SurrogateFree part) : Plain path where
  nonempty := by
    rintro rfl
    exact hne rfl
  whole := by
    intro c hc
    rcases mem_splitOn hc with rfl | ⟨part, hpart, hc⟩
    · decide
    · refine h part (List.mem_filter.mpr ⟨hpart, ?_⟩) c hc
      cases part with
      | nil => cases hc
      | cons _ _ => rfl

private theorem plain_collection {path : Text} {name : String}
    (h : isCollectionRoute (pathParts path) (lit name) = true) : Plain path := by
  have hparts : pathParts path ≠ [] ∧ ∀ part ∈ pathParts path, SurrogateFree part := by
    unfold isCollectionRoute at h
    split at h
    · next hp =>
      rw [hp]
      simp only [Bool.and_eq_true, beq_iff_eq, List.cons.injEq, and_true] at h
      obtain ⟨⟨⟨rfl, rfl, rfl⟩, hrecord⟩, rfl⟩ := h
      simp [surrogateFree_of_isSha256 hrecord]
    · cases h
  exact plain_path hparts.1 hparts.2

private theorem plain_lifecycle {path : Text} {action : String}
    (h : isLifecycleRoute (pathParts path) (lit action) = true) : Plain path := by
  have hparts : pathParts path ≠ [] ∧ ∀ part ∈ pathParts path, SurrogateFree part := by
    unfold isLifecycleRoute at h
    split at h
    · next hp =>
      rw [hp]
      simp only [Bool.and_eq_true, beq_iff_eq, List.cons.injEq, and_true] at h
      obtain ⟨⟨⟨⟨⟨rfl, rfl, rfl⟩, hrecord⟩, rfl⟩, hreceipt⟩, rfl⟩ := h
      simp [surrogateFree_of_isSha256 hrecord, surrogateFree_of_isSha256 hreceipt]
    · cases h
  exact plain_path hparts.1 hparts.2

/-- The method and path of a classified request are plain. -/
theorem plain_of_operation {method path : Text} (h : operationForRequest method path ≠ none) :
    Plain method ∧ Plain path := by
  have hget : Plain (lit "GET") := plain_lit (by decide)
  have hpost : Plain (lit "POST") := plain_lit (by decide)
  unfold operationForRequest at h
  split at h
  · next hc => exact ⟨hc.1 ▸ hpost, hc.2 ▸ plain_lit (by decide)⟩
  split at h
  · next hc => exact ⟨hc.1 ▸ hpost, hc.2 ▸ plain_lit (by decide)⟩
  split at h
  · next hc => exact ⟨hc.2 ▸ hget, plain_collection hc.1⟩
  split at h
  · next hc => exact ⟨hc.2 ▸ hpost, plain_collection hc.1⟩
  split at h
  · next hc => exact ⟨hc.2 ▸ hget, plain_collection hc.1⟩
  split at h
  · next hc => exact ⟨hc.2 ▸ hpost, plain_collection hc.1⟩
  split at h
  · next hc => exact ⟨hc.2 ▸ hpost, plain_lifecycle hc.1⟩
  split at h
  · next hc => exact ⟨hc.2 ▸ hpost, plain_lifecycle hc.1⟩
  split at h
  · next hc => exact ⟨hc.1 ▸ hget, hc.2 ▸ plain_lit (by decide)⟩
  · exact absurd rfl h

/-- The boundary's events carry the request's method, path and operation. -/
theorem securedApplication_eq_some {π : Type} {config : DeploymentSecurityConfig π}
    {request : Request} {e : SecurityEvent} (h : securedApplication config request = some e) :
    e.operation = operationForRequest request.method request.path ∧ e.operation ≠ none ∧
      e.method = request.method ∧ e.path = request.path ∧ Plain e.reason := by
  unfold securedApplication at h
  split at h
  · cases h
  split at h
  · cases h
  next operation hop =>
  rw [hop]
  dsimp only at h
  split at h
  · cases h
    exact ⟨rfl, nofun, rfl, rfl, plain_lit (by decide)⟩
  split at h
  · cases h
    exact ⟨rfl, nofun, rfl, rfl, plain_lit (by decide)⟩
  split at h
  · cases h
    exact ⟨rfl, nofun, rfl, rfl, plain_lit (by decide)⟩
  split at h
  · cases h
    exact ⟨rfl, nofun, rfl, rfl, plain_lit (by decide)⟩
  · cases h
    exact ⟨rfl, nofun, rfl, rfl, plain_lit (by decide)⟩

/-- The texts of an emitted event are plain. -/
theorem Emitted.plain {e : SecurityEvent} (h : Emitted e) :
    Plain e.method ∧ Plain e.path ∧ Plain e.reason := by
  cases h with
  | boundary config request emitted =>
    obtain ⟨hoperation, hne, hmethod, hpath, hreason⟩ := securedApplication_eq_some emitted
    rw [hmethod, hpath]
    rw [hoperation] at hne
    exact ⟨(plain_of_operation hne).1, (plain_of_operation hne).2, hreason⟩
  | rejection rejected routed classified =>
    refine ⟨(plain_of_operation routed).1, (plain_of_operation routed).2, ?_⟩
    cases rejected <;> exact plain_lit (by decide)

end StateWake.Security
