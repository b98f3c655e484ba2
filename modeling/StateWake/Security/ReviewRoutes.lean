import StateWake.Base.Logged
import StateWake.Security.Deployment

/-!
# The routes behind the security boundary

The review application of `review_api.py:564–992` parses the raw path on its own, with
`_review_record_id`, `_approval_record_id` and `_approval_lifecycle_route`, after the boundary
has classified the same path by `_operation_for_request`. Here the application is the list of
the effects it has on the evidence stores; the checks it makes on headers and bodies, the
report loader and the stores are the host's.
-/

namespace StateWake.Security

open StateWake.Base Text

/-! ### The application's parsers -/

/-- The prefix of the claim routes. -/
def claimsPrefix : List Text := [lit "api", lit "v1", lit "claims"]

/-- `_review_record_id` and `_approval_record_id` for the name of a collection. -/
def collectionRecordId (collection path : Text) : Except PyError (Option Text) :=
  match pathParts path with
  | [api, version, claims, value, name] =>
    if [api, version, claims] ≠ claimsPrefix ∨ name ≠ collection then .ok none
    else if !isSha256 value then valueError (lit "record id must be a lowercase SHA-256 identity")
    else .ok (some value)
  | _ => .ok none

/-- `_review_record_id`, `review_api.py:263–271`. -/
def reviewRecordId (path : Text) : Except PyError (Option Text) :=
  collectionRecordId (lit "reviews") path

/-- `_approval_record_id`, `review_api.py:274–286`. -/
def approvalRecordId (path : Text) : Except PyError (Option Text) :=
  collectionRecordId (lit "approvals") path

/-- The transitions of `_approval_lifecycle_route`. -/
inductive LifecycleAction where
  | revoke
  | supersede
  deriving DecidableEq, Repr

/-- The last part of a lifecycle route. -/
def LifecycleAction.text : LifecycleAction → Text
  | revoke => lit "revoke"
  | supersede => lit "supersede"

/-- The operation of a transition, `review_api.py:745–750`. -/
def LifecycleAction.operation : LifecycleAction → SecurityOperation
  | revoke => .approvalRevoke
  | supersede => .approvalSupersede

/-- The transition a last part names. -/
def LifecycleAction.ofText (s : Text) : Option LifecycleAction :=
  if s = lit "revoke" then some .revoke else if s = lit "supersede" then some .supersede else none

/-- `_approval_lifecycle_route`, `review_api.py:289–310`. -/
def approvalLifecycleRoute (path : Text) :
    Except PyError (Option (Text × Text × LifecycleAction)) :=
  match pathParts path with
  | [api, version, claims, record, name, receipt, last] =>
    if [api, version, claims] ≠ claimsPrefix ∨ name ≠ lit "approvals" then .ok none
    else
      match LifecycleAction.ofText last with
      | none => .ok none
      | some action =>
        if !isSha256 record then valueError (lit "record id must be a lowercase SHA-256 identity")
        else if !isSha256 receipt then
          valueError (lit "approval receipt id must be a lowercase SHA-256 identity")
        else .ok (some (record, receipt, action))
  | _ => .ok none

/-- `path == "/api/v1/review-capabilities"`. -/
def isCapabilityRoute (path : Text) : Bool := path == lit "/api/v1/review-capabilities"

/-- What the three parsers make of a path. -/
structure Routed where
  review : Option Text
  approval : Option Text
  lifecycle : Option (Text × Text × LifecycleAction)
  deriving DecidableEq

/-- `review_api.py:607–612`. -/
def routed (path : Text) : Except PyError Routed :=
  if isCapabilityRoute path then .ok ⟨none, none, none⟩
  else do
    let review ← reviewRecordId path
    let approval ← approvalRecordId path
    let lifecycle ← approvalLifecycleRoute path
    .ok ⟨review, approval, lifecycle⟩

/-- An answer: the status, and the code and message of an error. -/
structure Response where
  status : Text
  error : Option (Text × Text) := none
  deriving DecidableEq

/-- `_error`, `review_api.py:250–260`. -/
def errorResponse (status code message : Text) : Response := ⟨status, some (code, message)⟩

/-- `_error` for a method the route does not serve. -/
def methodNotAllowed (message : Text) : Response :=
  errorResponse (lit "405 Method Not Allowed") (lit "METHOD_NOT_ALLOWED") message

/-- The answers given before the principal is asked for, `review_api.py:616–650`. -/
def refusal (method path : Text) (target : Routed) : Option Response :=
  if !isCapabilityRoute path && target.review.isNone && target.approval.isNone &&
      target.lifecycle.isNone then
    some (errorResponse (lit "404 Not Found") (lit "NOT_FOUND") (lit "not found"))
  else if isCapabilityRoute path && method ≠ lit "GET" then
    some (methodNotAllowed (lit "review capabilities are read-only"))
  else if target.lifecycle.isSome && method ≠ lit "POST" then
    some (methodNotAllowed (lit "approval lifecycle transitions are POST-only"))
  else if target.lifecycle.isNone && (target.review.isSome || target.approval.isSome) &&
      method ≠ lit "GET" && method ≠ lit "POST" then
    some (methodNotAllowed
      (lit "only GET and POST are supported for human review operations"))
  else none

/-- The operation class of the branch that serves a method and path; none where the application
answers before it asks for the principal. -/
def routeOperation (method path : Text) : Option SecurityOperation :=
  match routed path with
  | .error _ => none
  | .ok target =>
    if (refusal method path target).isSome then none
    else if isCapabilityRoute path then some .reviewRead
    else
      match target.lifecycle with
      | some (_, _, action) => some action.operation
      | none =>
        if target.approval.isSome then
          some (if method = lit "GET" then .approvalRead else .approvalWrite)
        else some (if method = lit "GET" then .reviewRead else .reviewWrite)

/-! ### The application -/

/-- What the application does to the evidence of a record. -/
inductive Effect where
  | loadReport (record : Text)
  | readReviews (record : Text)
  | appendReview (record : Text)
  | readApprovals (record : Text)
  | createApproval (record : Text)
  | revokeApproval (record receipt : Text)
  | supersedeApproval (record receipt : Text)
  deriving DecidableEq

/-- The operation class of an effect. The report of a record is loaded for every operation on the
record, and for no other. -/
def Effect.ofClass : Effect → SecurityOperation → Bool
  | loadReport _, operation => operation ≠ .verifyEvidence && operation ≠ .verifyProof
  | readReviews _, operation => operation = .reviewRead
  | appendReview _, operation => operation = .reviewWrite
  | readApprovals _, operation => operation = .approvalRead
  | createApproval _, operation => operation = .approvalWrite
  | revokeApproval _ _, operation => operation = .approvalRevoke
  | supersedeApproval _ _, operation => operation = .approvalSupersede

/-- The environ the application is called with: the request, and what the boundary added. -/
structure Environ (π : Type) where
  request : Request
  authenticatedPrincipal : Option π
  securityOperation : Option SecurityOperation

/-- What the application asks of its host, `ReviewApiSecurity` and the stores: each may raise. -/
structure ReviewServices (π : Type) where
  Actor : Type
  Report : Type
  Authority : Type
  ApprovalInput : Type
  StatementInput : Type
  actorForPrincipal : π → Except PyError Actor
  /-- `_load_report`. -/
  loadReport : Text → Except PyError Report
  approvalForPrincipal : Option (π → Report → Except PyError Authority)
  /-- `_validate_write_protection`. -/
  validateWriteProtection : Request → π → SecurityOperation → Except PyError Unit
  /-- The header and body checks of an approval or transition, `review_api.py:758–806`. -/
  approvalInput : Request → Report → Option LifecycleAction → Except PyError ApprovalInput
  /-- The header and body checks of a review statement, `review_api.py:924–963`. -/
  statementInput : Request → Report → Except PyError StatementInput
  lifecycleForTarget : Text → Report → Except PyError Unit
  appendApproval : Text → Option Text → Actor → Authority → ApprovalInput →
    Except PyError Bool
  revokeApproval : Text → Text → Actor → Authority → ApprovalInput → Except PyError Bool
  reviewsForTarget : Text → Report → Except PyError Unit
  appendReview : Text → Actor → StatementInput → Except PyError Bool

variable {π : Type}

/-- The answer to a write. -/
def writeResponse (created : Bool) : Response :=
  ⟨if created then lit "201 Created" else lit "200 OK", none⟩

/-- The approval branch, `review_api.py:707–893`. -/
def serveApproval (services : ReviewServices π) (request : Request) (principal : π)
    (actor : services.Actor) (record : Text) (report : services.Report) (target : Routed) :
    Logged Effect Response := do
  match services.approvalForPrincipal with
  | none =>
    return errorResponse (lit "404 Not Found") (lit "APPROVAL_NOT_CONFIGURED")
      (lit "human approval is not configured for this service")
  | some approvalForPrincipal =>
    let authority ← .ofExcept (approvalForPrincipal principal report)
    if target.approval.isSome && request.method = lit "GET" then
      .perform (.readApprovals record) (services.lifecycleForTarget record report)
      return ⟨lit "200 OK", none⟩
    else
      let action := target.lifecycle.map fun (_, _, action) ↦ action
      .ofExcept (services.validateWriteProtection request principal
        ((action.map LifecycleAction.operation).getD .approvalWrite))
      let input ← .ofExcept (services.approvalInput request report action)
      match target.lifecycle with
      | some (_, receipt, .revoke) =>
        let created ← .perform (.revokeApproval record receipt)
          (services.revokeApproval record receipt actor authority input)
        return writeResponse created
      | some (_, receipt, .supersede) =>
        let created ← .perform (.supersedeApproval record receipt)
          (services.appendApproval record (some receipt) actor authority input)
        return writeResponse created
      | none =>
        let created ← .perform (.createApproval record)
          (services.appendApproval record none actor authority input)
        return writeResponse created

/-- The review branch, `review_api.py:895–990`. -/
def serveReview (services : ReviewServices π) (request : Request) (principal : π)
    (actor : services.Actor) (record : Text) (report : services.Report) :
    Logged Effect Response := do
  if request.method = lit "GET" then
    .perform (.readReviews record) (services.reviewsForTarget record report)
    return ⟨lit "200 OK", none⟩
  else
    .ofExcept (services.validateWriteProtection request principal .reviewWrite)
    let input ← .ofExcept (services.statementInput request report)
    let created ← .perform (.appendReview record) (services.appendReview record actor input)
    return writeResponse created

/-- `application`, `review_api.py:576–990`; the `except` clauses after it have no effect on a
store. -/
def reviewApplication (services : ReviewServices π) (environ : Environ π) :
    Logged Effect Response := do
  let method := environ.request.method
  let path := environ.request.path
  if path = lit "/health" then
    return if method ≠ lit "GET" then methodNotAllowed (lit "health is read-only")
      else ⟨lit "200 OK", none⟩
  else
    let target ← .ofExcept (routed path)
    match refusal method path target with
    | some response => return response
    | none =>
      let principal ← .ofExcept (orRaise
        ⟨.permissionError, lit "authenticated principal is unavailable"⟩
        environ.authenticatedPrincipal)
      let actor ← .ofExcept (services.actorForPrincipal principal)
      if isCapabilityRoute path then return ⟨lit "200 OK", none⟩
      else
        -- `assert record_id is not None`
        let record ← .ofExcept (orRaise ⟨.valueError, []⟩
          (target.review <|> target.approval <|>
            target.lifecycle.map fun (record, _, _) ↦ record))
        let report ← .perform (.loadReport record) (services.loadReport record)
        if target.approval.isSome || target.lifecycle.isSome then
          serveApproval services environ.request principal actor record report target
        else serveReview services environ.request principal actor record report

/-- The environ with which `create_secured_application` calls the application it wraps; none where
it answers itself. -/
def forwarded (config : DeploymentSecurityConfig π) (request : Request) : Option (Environ π) :=
  if request.path ∈ config.publicPaths then some ⟨request, none, none⟩
  else
    match operationForRequest request.method request.path with
    | none => some ⟨request, none, none⟩
    | some operation =>
      if config.requireHttps ∧ request.scheme ≠ lit "https" then none
      else
        match config.authenticate request with
        | none => none
        | some principal =>
          if !config.authorize principal operation request then none
          else if config.admitRequest.any fun admitted ↦ !admitted principal request then none
          else some ⟨request, some principal, some operation⟩

/-- The effects of a request on the secured application. -/
def securedEffects (config : DeploymentSecurityConfig π) (services : ReviewServices π)
    (request : Request) : List Effect :=
  match forwarded config request with
  | none => []
  | some environ => (reviewApplication services environ).effects

/-! ### The shapes of a path -/

/-- The path of a collection of a record. -/
def IsCollectionPath (path record collection : Text) : Prop :=
  pathParts path = claimsPrefix ++ [record, collection] ∧ isSha256 record = true

/-- The path of a transition of an approval. -/
def IsLifecyclePath (path record receipt : Text) (action : LifecycleAction) : Prop :=
  pathParts path = claimsPrefix ++ [record, lit "approvals", receipt, action.text] ∧
    isSha256 record = true ∧ isSha256 receipt = true

theorem LifecycleAction.ofText_eq_some {s : Text} {action : LifecycleAction} :
    LifecycleAction.ofText s = some action ↔ s = action.text := by
  unfold LifecycleAction.ofText
  by_cases hr : s = lit "revoke"
  · subst hr
    cases action <;> simp [LifecycleAction.text]
  · by_cases hs : s = lit "supersede"
    · subst hs
      cases action <;> simp [LifecycleAction.text]
    · rw [if_neg hr, if_neg hs]
      cases action <;> simp [LifecycleAction.text, hr, hs]

/-- The boundary takes a path as a collection's exactly when it has the shape. -/
theorem isCollectionRoute_iff {path collection : Text} :
    isCollectionRoute (pathParts path) collection = true ↔
      ∃ record, IsCollectionPath path record collection := by
  unfold isCollectionRoute IsCollectionPath
  split
  · next api version claims record name hp =>
    rw [hp]
    simp only [Bool.and_eq_true, beq_iff_eq, claimsPrefix, List.cons_append, List.nil_append,
      List.cons.injEq, and_true]
    constructor
    · rintro ⟨⟨⟨rfl, rfl, rfl⟩, hrecord⟩, rfl⟩
      exact ⟨record, ⟨rfl, rfl, rfl, rfl, rfl⟩, hrecord⟩
    · rintro ⟨_, ⟨rfl, rfl, rfl, rfl, rfl⟩, hrecord⟩
      exact ⟨⟨⟨rfl, rfl, rfl⟩, hrecord⟩, rfl⟩
  · next hp =>
    refine iff_of_false nofun ?_
    rintro ⟨record, hr, -⟩
    exact hp _ _ _ _ _ hr

theorem isLifecycleRoute_iff {path : Text} {action : LifecycleAction} :
    isLifecycleRoute (pathParts path) action.text = true ↔
      ∃ record receipt, IsLifecyclePath path record receipt action := by
  unfold isLifecycleRoute IsLifecyclePath
  split
  · next api version claims record name receipt last hp =>
    rw [hp]
    simp only [Bool.and_eq_true, beq_iff_eq, claimsPrefix, List.cons_append, List.nil_append,
      List.cons.injEq, and_true]
    constructor
    · rintro ⟨⟨⟨⟨⟨rfl, rfl, rfl⟩, hrecord⟩, rfl⟩, hreceipt⟩, rfl⟩
      exact ⟨record, receipt, ⟨rfl, rfl, rfl, rfl, rfl, rfl, rfl⟩, hrecord, hreceipt⟩
    · rintro ⟨_, _, ⟨rfl, rfl, rfl, rfl, rfl, rfl, rfl⟩, hrecord, hreceipt⟩
      exact ⟨⟨⟨⟨⟨rfl, rfl, rfl⟩, hrecord⟩, rfl⟩, hreceipt⟩, rfl⟩
  · next hp =>
    refine iff_of_false nofun ?_
    rintro ⟨record, receipt, hr, -⟩
    exact hp _ _ _ _ _ _ _ hr

/-- The application takes a path as a collection's exactly when it has the shape. -/
theorem collectionRecordId_eq_some {collection path record : Text} :
    collectionRecordId collection path = .ok (some record) ↔
      IsCollectionPath path record collection := by
  unfold collectionRecordId IsCollectionPath
  split
  · next api version claims value name hp =>
    rw [hp]
    by_cases hshape : [api, version, claims] ≠ claimsPrefix ∨ name ≠ collection
    · rw [if_pos hshape]
      refine iff_of_false nofun ?_
      rintro ⟨hr, -⟩
      simp only [claimsPrefix, List.cons_append, List.nil_append, List.cons.injEq, and_true] at hr
      obtain ⟨rfl, rfl, rfl, rfl, rfl⟩ := hr
      exact hshape.elim (fun h ↦ h rfl) fun h ↦ h rfl
    · rw [if_neg hshape]
      simp only [not_or, not_not] at hshape
      obtain ⟨hclaims, rfl⟩ := hshape
      rw [← hclaims]
      cases hv : isSha256 value with
      | false => 
        refine iff_of_false nofun ?_
        rintro ⟨hr, hrecord⟩
        simp only [List.cons_append, List.nil_append, List.cons.injEq, and_true, true_and] at hr
        rw [← hr, hv] at hrecord
        cases hrecord
      | true =>
        simp only [Bool.not_true, Bool.false_eq_true, if_false, Except.ok.injEq, Option.some.injEq,
          List.cons_append, List.nil_append, List.cons.injEq, and_true, true_and]
        constructor
        · rintro rfl
          exact ⟨rfl, hv⟩
        · exact And.left
  · next hp =>
    refine iff_of_false nofun ?_
    rintro ⟨hr, -⟩
    exact hp _ _ _ _ _ hr

theorem approvalLifecycleRoute_eq_some {path record receipt : Text} {action : LifecycleAction} :
    approvalLifecycleRoute path = .ok (some (record, receipt, action)) ↔
      IsLifecyclePath path record receipt action := by
  unfold approvalLifecycleRoute IsLifecyclePath
  split
  · next api version claims record' name receipt' last hp =>
    rw [hp]
    by_cases hshape : [api, version, claims] ≠ claimsPrefix ∨ name ≠ lit "approvals"
    · rw [if_pos hshape]
      refine iff_of_false nofun ?_
      rintro ⟨hr, -⟩
      simp only [claimsPrefix, List.cons_append, List.nil_append, List.cons.injEq, and_true] at hr
      obtain ⟨rfl, rfl, rfl, rfl, rfl, rfl, rfl⟩ := hr
      exact hshape.elim (fun h ↦ h rfl) fun h ↦ h rfl
    · rw [if_neg hshape]
      simp only [not_or, not_not] at hshape
      obtain ⟨hclaims, rfl⟩ := hshape
      rw [← hclaims]
      simp only [List.cons_append, List.nil_append, List.cons.injEq, and_true, true_and]
      cases ha : LifecycleAction.ofText last with
      | none =>
        refine iff_of_false nofun ?_
        rintro ⟨⟨-, -, hlast⟩, -⟩
        rw [LifecycleAction.ofText_eq_some.mpr hlast] at ha
        cases ha
      | some named =>
        rw [LifecycleAction.ofText_eq_some] at ha
        subst ha
        have htext : ∀ other : LifecycleAction, named.text = other.text ↔ named = other := by
          intro other
          cases named <;> cases other <;> simp [LifecycleAction.text]
        rw [htext]
        dsimp only
        cases hr : isSha256 record' with
        | false =>
          refine iff_of_false nofun ?_
          rintro ⟨⟨rfl, -, -⟩, hrecord, -⟩
          exact absurd (hr.symm.trans hrecord) nofun
        | true =>
          cases hc : isSha256 receipt' with
          | false =>
            refine iff_of_false nofun ?_
            rintro ⟨⟨-, rfl, -⟩, -, hreceipt⟩
            exact absurd (hc.symm.trans hreceipt) nofun
          | true =>
            simp only [Bool.not_true, Bool.false_eq_true, if_false, Except.ok.injEq,
              Option.some.injEq, Prod.mk.injEq]
            constructor
            · rintro ⟨rfl, rfl, rfl⟩
              exact ⟨⟨rfl, rfl, rfl⟩, hr, hc⟩
            · exact And.left
  · next hp =>
    refine iff_of_false nofun ?_
    rintro ⟨hr, -⟩
    exact hp _ _ _ _ _ _ _ hr

/-! ### The two classifications of a path -/

/-- The path of a claim route is none of the fixed paths. -/
private theorem ne_of_claims {path : Text} {rest : List Text} {s : String}
    (h : pathParts path = claimsPrefix ++ rest)
    (hs : (claimsPrefix.isPrefixOf (pathParts (lit s))) = false) : path ≠ lit s := by
  rintro rfl
  rw [h, List.isPrefixOf_iff_prefix.mpr (List.prefix_append _ _)] at hs
  cases hs

section

variable {path record receipt : Text} {action : LifecycleAction}

theorem isCapabilityRoute_of_claims {rest : List Text}
    (h : pathParts path = claimsPrefix ++ rest) : isCapabilityRoute path = false := by
  rw [isCapabilityRoute, beq_eq_false_iff_ne]
  exact ne_of_claims h (by decide)

theorem routed_of_reviews (h : IsCollectionPath path record (lit "reviews")) :
    routed path = .ok ⟨some record, none, none⟩ := by
  have hreview : reviewRecordId path = .ok (some record) := collectionRecordId_eq_some.mpr h
  rw [routed, isCapabilityRoute_of_claims h.1, hreview]
  simp [approvalRecordId, collectionRecordId, approvalLifecycleRoute, h.1, claimsPrefix]

theorem routed_of_approvals (h : IsCollectionPath path record (lit "approvals")) :
    routed path = .ok ⟨none, some record, none⟩ := by
  have happroval : approvalRecordId path = .ok (some record) := collectionRecordId_eq_some.mpr h
  rw [routed, isCapabilityRoute_of_claims h.1, happroval]
  simp [reviewRecordId, collectionRecordId, approvalLifecycleRoute, h.1, claimsPrefix]

theorem routed_of_lifecycle (h : IsLifecyclePath path record receipt action) :
    routed path = .ok ⟨none, none, some (record, receipt, action)⟩ := by
  have hlifecycle := approvalLifecycleRoute_eq_some.mpr h
  rw [routed, isCapabilityRoute_of_claims h.1, hlifecycle]
  simp [reviewRecordId, approvalRecordId, collectionRecordId, h.1, claimsPrefix]

theorem operation_of_reviews (h : IsCollectionPath path record (lit "reviews")) (method : Text) :
    operationForRequest method path =
      if method = lit "GET" then some .reviewRead
      else if method = lit "POST" then some .reviewWrite else none := by
  have hreviews : isCollectionRoute (pathParts path) (lit "reviews") = true :=
    isCollectionRoute_iff.mpr ⟨record, h⟩
  have happrovals : isCollectionRoute (pathParts path) (lit "approvals") = false := by
    simp [isCollectionRoute, h.1, claimsPrefix]
  have hlifecycle (last : Text) : isLifecycleRoute (pathParts path) last = false := by
    simp [isLifecycleRoute, h.1, claimsPrefix]
  simp only [operationForRequest, hreviews, happrovals, hlifecycle,
    ne_of_claims h.1 (s := "/v1/evidence/verify") (by decide),
    ne_of_claims h.1 (s := "/v1/proof/verify") (by decide),
    ne_of_claims h.1 (s := "/api/v1/review-capabilities") (by decide)]
  simp

theorem operation_of_approvals (h : IsCollectionPath path record (lit "approvals"))
    (method : Text) :
    operationForRequest method path =
      if method = lit "GET" then some .approvalRead
      else if method = lit "POST" then some .approvalWrite else none := by
  have happrovals : isCollectionRoute (pathParts path) (lit "approvals") = true :=
    isCollectionRoute_iff.mpr ⟨record, h⟩
  have hreviews : isCollectionRoute (pathParts path) (lit "reviews") = false := by
    simp [isCollectionRoute, h.1, claimsPrefix]
  have hlifecycle (last : Text) : isLifecycleRoute (pathParts path) last = false := by
    simp [isLifecycleRoute, h.1, claimsPrefix]
  simp only [operationForRequest, hreviews, happrovals, hlifecycle,
    ne_of_claims h.1 (s := "/v1/evidence/verify") (by decide),
    ne_of_claims h.1 (s := "/v1/proof/verify") (by decide),
    ne_of_claims h.1 (s := "/api/v1/review-capabilities") (by decide)]
  simp

theorem operation_of_lifecycle (h : IsLifecyclePath path record receipt action) (method : Text) :
    operationForRequest method path =
      if method = lit "POST" then some action.operation else none := by
  have hcollection (name : Text) : isCollectionRoute (pathParts path) name = false := by
    simp [isCollectionRoute, h.1, claimsPrefix]
  have haction (last : Text) :
      isLifecycleRoute (pathParts path) last = decide (action.text = last) := by
    by_cases hl : action.text = last
    · rw [decide_eq_true hl, ← hl]
      exact isLifecycleRoute_iff.mpr ⟨record, receipt, h⟩
    · rw [decide_eq_false hl]
      simp [isLifecycleRoute, h.1, claimsPrefix, hl]
  simp only [operationForRequest, hcollection, haction,
    ne_of_claims h.1 (s := "/v1/evidence/verify") (by decide),
    ne_of_claims h.1 (s := "/v1/proof/verify") (by decide),
    ne_of_claims h.1 (s := "/api/v1/review-capabilities") (by decide)]
  cases action <;> simp [LifecycleAction.text, LifecycleAction.operation]

end

/-- A path is the capability route, one of the claim routes of a record, or none of these. -/
inductive Shape (path : Text) : Prop where
  | capability (h : isCapabilityRoute path = true)
  | reviews (record : Text) (h : IsCollectionPath path record (lit "reviews"))
  | approvals (record : Text) (h : IsCollectionPath path record (lit "approvals"))
  | lifecycle (record receipt : Text) (action : LifecycleAction)
      (h : IsLifecyclePath path record receipt action)
  | other (hc : isCapabilityRoute path = false)
      (hr : ∀ record, ¬IsCollectionPath path record (lit "reviews"))
      (ha : ∀ record, ¬IsCollectionPath path record (lit "approvals"))
      (hl : ∀ record receipt action, ¬IsLifecyclePath path record receipt action)

theorem shape (path : Text) : Shape path := by
  by_cases hc : isCapabilityRoute path = true
  · exact .capability hc
  by_cases hr : ∃ record, IsCollectionPath path record (lit "reviews")
  · exact hr.elim .reviews
  by_cases ha : ∃ record, IsCollectionPath path record (lit "approvals")
  · exact ha.elim .approvals
  by_cases hl : ∃ record receipt action, IsLifecyclePath path record receipt action
  · obtain ⟨record, receipt, action, h⟩ := hl
    exact .lifecycle record receipt action h
  simp only [not_exists] at hr ha hl
  exact .other (by simpa using hc) hr ha hl

/-- A path of none of the shapes is refused by the application's parsers. -/
theorem refusal_of_other {path method : Text} {target : Routed}
    (hc : isCapabilityRoute path = false)
    (hr : ∀ record, ¬IsCollectionPath path record (lit "reviews"))
    (ha : ∀ record, ¬IsCollectionPath path record (lit "approvals"))
    (hl : ∀ record receipt action, ¬IsLifecyclePath path record receipt action)
    (h : routed path = .ok target) : (refusal method path target).isSome = true := by
  rw [routed, hc] at h
  simp only [Bool.false_eq_true, if_false, bind_eq_ok, Except.ok.injEq] at h
  obtain ⟨review, hreview, approval, happroval, lifecycle, hlifecycle, rfl⟩ := h
  have hreviewNone : review = none := by
    cases review with
    | none => rfl
    | some record => exact absurd (collectionRecordId_eq_some.mp hreview) (hr record)
  have happrovalNone : approval = none := by
    cases approval with
    | none => rfl
    | some record => exact absurd (collectionRecordId_eq_some.mp happroval) (ha record)
  have hlifecycleNone : lifecycle = none := by
    match lifecycle with
    | none => rfl
    | some (record, receipt, action) =>
      exact absurd (approvalLifecycleRoute_eq_some.mp hlifecycle) (hl record receipt action)
  subst hreviewNone happrovalNone hlifecycleNone
  simp [refusal, hc]

/-- The application serves a method and path under the class the boundary computed for them. -/
theorem routeOperation_iff (method path : Text) (operation : SecurityOperation) :
    routeOperation method path = some operation ↔
      operationForRequest method path = some operation ∧
        operation ≠ .verifyEvidence ∧ operation ≠ .verifyProof := by
  cases shape path with
  | capability h =>
    have hpath : path = lit "/api/v1/review-capabilities" := beq_iff_eq.mp h
    have hparts : pathParts path = [lit "api", lit "v1", lit "review-capabilities"] := by
      rw [hpath]
      decide
    have hcollection (name : Text) : isCollectionRoute (pathParts path) name = false := by
      rw [hparts]
      rfl
    have hlifecycle (last : Text) : isLifecycleRoute (pathParts path) last = false := by
      rw [hparts]
      rfl
    have hrouted : routed path = .ok ⟨none, none, none⟩ := by rw [routed, if_pos h]
    have hoperation : operationForRequest method path =
        if method = lit "GET" then some .reviewRead else none := by
      simp only [operationForRequest, hcollection, hlifecycle]
      simp [hpath]
    rw [hoperation]
    simp only [routeOperation, hrouted, refusal, h]
    by_cases hget : method = lit "GET"
    · simp only [hget]
      simp
      rintro rfl
      decide
    · simp [hget]
  | reviews record h =>
    rw [operation_of_reviews h]
    simp only [routeOperation, routed_of_reviews h, refusal, isCapabilityRoute_of_claims h.1]
    by_cases hget : method = lit "GET"
    · simp [hget]
      rintro rfl
      decide
    · by_cases hpost : method = lit "POST"
      · simp [hpost]
        rintro rfl
        decide
      · simp [hget, hpost]
  | approvals record h =>
    rw [operation_of_approvals h]
    simp only [routeOperation, routed_of_approvals h, refusal, isCapabilityRoute_of_claims h.1]
    by_cases hget : method = lit "GET"
    · simp [hget]
      rintro rfl
      decide
    · by_cases hpost : method = lit "POST"
      · simp [hpost]
        rintro rfl
        decide
      · simp [hget, hpost]
  | lifecycle record receipt action h =>
    rw [operation_of_lifecycle h]
    simp only [routeOperation, routed_of_lifecycle h, refusal, isCapabilityRoute_of_claims h.1]
    by_cases hpost : method = lit "POST"
    · simp [hpost]
      rintro rfl
      cases action <;> decide
    · simp [hpost]
  | other hc hr ha hl =>
    have hnone : routeOperation method path = none := by
      unfold routeOperation
      cases hrouted : routed path with
      | error e => rfl
      | ok target => exact if_pos (refusal_of_other hc hr ha hl hrouted)
    rw [hnone]
    refine iff_of_false nofun ?_
    rintro ⟨hoperation, hevidence, hproof⟩
    have hreviews : isCollectionRoute (pathParts path) (lit "reviews") = false := by
      rw [← Bool.not_eq_true, isCollectionRoute_iff]
      exact fun ⟨record, h⟩ ↦ hr record h
    have happrovals : isCollectionRoute (pathParts path) (lit "approvals") = false := by
      rw [← Bool.not_eq_true, isCollectionRoute_iff]
      exact fun ⟨record, h⟩ ↦ ha record h
    have hlifecycle (action : LifecycleAction) :
        isLifecycleRoute (pathParts path) action.text = false := by
      rw [← Bool.not_eq_true, isLifecycleRoute_iff]
      exact fun ⟨record, receipt, h⟩ ↦ hl record receipt action h
    have hrevoke := hlifecycle .revoke
    have hsupersede := hlifecycle .supersede
    have hcap : path ≠ lit "/api/v1/review-capabilities" := beq_eq_false_iff_ne.mp hc
    simp only [LifecycleAction.text] at hrevoke hsupersede
    simp only [operationForRequest, hreviews, happrovals, hrevoke, hsupersede, hcap] at hoperation
    split at hoperation
    · cases hoperation
      exact hevidence rfl
    split at hoperation
    · cases hoperation
      exact hproof rfl
    · simp at hoperation

/-! ### The effects of the application -/

section

variable {services : ReviewServices π} {request : Request} {principal : π}
  {actor : services.Actor} {record : Text} {report : services.Report} {e : Effect}

theorem mem_serveReview
    (h : e ∈ (serveReview services request principal actor record report).effects) :
    e.ofClass (if request.method = lit "GET" then .reviewRead else .reviewWrite) = true := by
  unfold serveReview at h
  by_cases hget : request.method = lit "GET"
  · rw [if_pos hget]
    simp only [if_pos hget, Logged.mem_bind, Logged.effects_perform, Logged.effects_pure,
      List.mem_singleton, List.not_mem_nil, and_false, exists_false, or_false] at h
    rw [h]
    rfl
  · rw [if_neg hget]
    simp only [if_neg hget, Logged.mem_bind, Logged.effects_perform, Logged.effects_ofExcept,
      Logged.effects_pure, List.mem_singleton, List.not_mem_nil, and_false, exists_false, or_false,
      false_or] at h
    obtain ⟨_, -, _, -, rfl⟩ := h
    rfl

/-- The operation the approval branch serves. -/
def approvalOperation (method : Text) (target : Routed) : SecurityOperation :=
  match target.lifecycle with
  | some (_, _, action) => action.operation
  | none => if method = lit "GET" then .approvalRead else .approvalWrite

theorem mem_serveApproval {target : Routed}
    (hexclusive : target.approval = none ∨ target.lifecycle = none)
    (hsome : (target.approval.isSome || target.lifecycle.isSome) = true)
    (h : e ∈ (serveApproval services request principal actor record report target).effects) :
    e.ofClass (approvalOperation request.method target) = true := by
  unfold serveApproval at h
  cases hauthority : services.approvalForPrincipal with
  | none =>
    rw [hauthority] at h
    exact absurd h List.not_mem_nil
  | some approvalForPrincipal =>
    rw [hauthority] at h
    simp only [Logged.mem_bind, Logged.effects_ofExcept, List.not_mem_nil, false_or] at h
    obtain ⟨authority, -, h⟩ := h
    by_cases hget : (target.approval.isSome && decide (request.method = lit "GET")) = true
    · simp only [if_pos hget, Logged.mem_bind, Logged.effects_perform, Logged.effects_pure,
        List.mem_singleton, List.not_mem_nil, and_false, exists_false, or_false] at h
      rw [Bool.and_eq_true, decide_eq_true_eq] at hget
      have hlifecycle : target.lifecycle = none :=
        hexclusive.resolve_left fun hn ↦ by simp [hn] at hget
      rw [h, approvalOperation, hlifecycle, if_pos hget.2]
      rfl
    · simp only [if_neg hget, Logged.mem_bind, Logged.effects_ofExcept, List.not_mem_nil,
        false_or] at h
      obtain ⟨_, -, input, -, h⟩ := h
      match hlifecycle : target.lifecycle with
      | some (_, receipt, .revoke) =>
        rw [hlifecycle] at h
        simp only [Logged.mem_bind, Logged.effects_perform, Logged.effects_pure,
          List.mem_singleton, List.not_mem_nil, and_false, exists_false, or_false] at h
        rw [h, approvalOperation, hlifecycle]
        rfl
      | some (_, receipt, .supersede) =>
        rw [hlifecycle] at h
        simp only [Logged.mem_bind, Logged.effects_perform, Logged.effects_pure,
          List.mem_singleton, List.not_mem_nil, and_false, exists_false, or_false] at h
        rw [h, approvalOperation, hlifecycle]
        rfl
      | none =>
        rw [hlifecycle] at h hsome
        have hnotGet : request.method ≠ lit "GET" := by
          rintro hm
          simp only [Option.isSome_none, Bool.or_false] at hsome
          exact hget (by simp [hsome, hm])
        simp only [Logged.mem_bind, Logged.effects_perform, Logged.effects_pure,
          List.mem_singleton, List.not_mem_nil, and_false, exists_false, or_false] at h
        rw [h, approvalOperation, hlifecycle, if_neg hnotGet]
        rfl

/-- The application finds a path on at most one side of the approval routes. -/
theorem approval_or_lifecycle_none {path : Text} {target : Routed} (h : routed path = .ok target) :
    target.approval = none ∨ target.lifecycle = none := by
  by_cases hc : isCapabilityRoute path = true
  · rw [routed, if_pos hc] at h
    cases h
    exact .inl rfl
  · rw [routed, if_neg hc] at h
    simp only [bind_eq_ok, Except.ok.injEq] at h
    obtain ⟨review, hreview, approval, happroval, lifecycle, hlifecycle, rfl⟩ := h
    match approval, lifecycle with
    | none, _ => exact .inl rfl
    | some _, none => exact .inr rfl
    | some record, some (record', receipt, action) =>
      have hparts := (collectionRecordId_eq_some.mp happroval).1
      rw [(approvalLifecycleRoute_eq_some.mp hlifecycle).1] at hparts
      cases hparts

/-- An effect of the application is of the class its dispatch serves, and the boundary named a
principal. -/
theorem mem_reviewApplication {environ : Environ π}
    (h : e ∈ (reviewApplication services environ).effects) :
    environ.authenticatedPrincipal ≠ none ∧
      ∃ operation, routeOperation environ.request.method environ.request.path = some operation ∧
        e.ofClass operation = true := by
  unfold reviewApplication at h
  by_cases hhealth : environ.request.path = lit "/health"
  · rw [if_pos hhealth] at h
    exact absurd h List.not_mem_nil
  simp only [if_neg hhealth, Logged.mem_bind, Logged.effects_ofExcept, Logged.result_ofExcept,
    List.not_mem_nil, false_or] at h
  obtain ⟨target, hrouted, h⟩ := h
  cases hrefusal : refusal environ.request.method environ.request.path target with
  | some response =>
    rw [hrefusal] at h
    exact absurd h List.not_mem_nil
  | none =>
    rw [hrefusal] at h
    simp only [Logged.mem_bind, Logged.effects_ofExcept, Logged.result_ofExcept, List.not_mem_nil,
      false_or, orRaise_eq_ok] at h
    obtain ⟨principal, hprincipal, actor, -, h⟩ := h
    by_cases hcap : isCapabilityRoute environ.request.path = true
    · rw [if_pos hcap] at h
      exact absurd h List.not_mem_nil
    simp only [if_neg hcap, Logged.mem_bind, Logged.effects_ofExcept, Logged.result_ofExcept,
      Logged.effects_perform, Logged.result_perform, List.not_mem_nil, false_or,
      List.mem_singleton] at h
    obtain ⟨record, -, h⟩ := h
    -- the class of the branch that the dispatch enters
    have hclass : routeOperation environ.request.method environ.request.path =
        some (if target.approval.isSome || target.lifecycle.isSome then
          approvalOperation environ.request.method target
          else if environ.request.method = lit "GET" then .reviewRead else .reviewWrite) := by
      rw [routeOperation, hrouted]
      simp only [hrefusal, hcap, approvalOperation]
      rcases target.lifecycle with _ | ⟨_, _, action⟩
      · cases target.approval <;> simp
      · simp
    refine ⟨by simp [hprincipal], _, hclass, ?_⟩
    rcases h with rfl | ⟨report, -, h⟩
    · have hverify := ((routeOperation_iff _ _ _).mp hclass).2
      rw [Effect.ofClass, Bool.and_eq_true, decide_eq_true_eq, decide_eq_true_eq]
      exact hverify
    · by_cases hbranch : (target.approval.isSome || target.lifecycle.isSome) = true
      · rw [if_pos hbranch] at h ⊢
        exact mem_serveApproval (approval_or_lifecycle_none hrouted) hbranch h
      · rw [if_neg hbranch] at h ⊢
        exact mem_serveReview h

end

/-! ### The boundary -/

/-- The boundary hands a principal on exactly where it admits the request. -/
theorem forwarded_principal {config : DeploymentSecurityConfig π} {request : Request}
    {environ : Environ π} {principal : π} (h : forwarded config request = some environ)
    (hp : environ.authenticatedPrincipal = some principal) :
    ∃ operation, operationForRequest request.method request.path = some operation ∧
      config.authenticate request = some principal ∧
      config.authorize principal operation request = true ∧ environ.request = request := by
  unfold forwarded at h
  split at h
  · cases h
    cases hp
  split at h
  · cases h
    cases hp
  next operation hoperation =>
  split at h
  · cases h
  split at h
  · cases h
  next authenticated hauthenticated =>
  split at h
  · cases h
  next hauthorized =>
  split at h
  · cases h
  cases h
  cases hp
  exact ⟨operation, hoperation, hauthenticated, by simpa using hauthorized, rfl⟩

/-- The boundary hands a principal on exactly where its event is the admission. -/
theorem forwarded_principal_iff (config : DeploymentSecurityConfig π) (request : Request) :
    ((forwarded config request).bind Environ.authenticatedPrincipal).isSome = true ↔
      (securedApplication config request).map SecurityEvent.event = some .requestAdmitted := by
  unfold forwarded securedApplication
  by_cases hpublic : request.path ∈ config.publicPaths
  · simp [hpublic]
  cases operationForRequest request.method request.path with
  | none => simp [hpublic]
  | some operation =>
    by_cases hhttps : config.requireHttps ∧ request.scheme ≠ lit "https"
    · simp [hpublic, hhttps]
    cases hauthenticate : config.authenticate request with
    | none => simp [hpublic, if_neg hhttps]
    | some principal =>
      by_cases hauthorize : config.authorize principal operation request = true
      · by_cases hadmit : (config.admitRequest.any fun admitted ↦ !admitted principal request) =
          true
        · simp [hpublic, if_neg hhttps, hauthorize, hadmit]
        · simp [hpublic, if_neg hhttps, hauthorize, hadmit]
      · simp [hpublic, if_neg hhttps, hauthorize]

/-- Each effect of a request on the secured application was authorised: the principal that the
host authenticated may do exactly the operation of the effect. And the application serves every
method and path under the class the boundary computed for them. -/
theorem secured_routes_agree (config : DeploymentSecurityConfig π) (services : ReviewServices π) :
    (∀ request, ∀ e ∈ securedEffects config services request,
      ∃ principal operation, config.authenticate request = some principal ∧
        config.authorize principal operation request = true ∧ e.ofClass operation = true ∧
        operationForRequest request.method request.path = some operation) ∧
    ∀ method path operation, routeOperation method path = some operation ↔
      operationForRequest method path = some operation ∧
        operation ≠ .verifyEvidence ∧ operation ≠ .verifyProof := by
  constructor
  · intro request e he
    unfold securedEffects at he
    cases hforwarded : forwarded config request with
    | none =>
      rw [hforwarded] at he
      exact absurd he List.not_mem_nil
    | some environ =>
      rw [hforwarded] at he
      obtain ⟨hprincipal, operation, hroute, hclass⟩ := mem_reviewApplication he
      obtain ⟨principal, hprincipal⟩ := Option.ne_none_iff_exists'.mp hprincipal
      obtain ⟨classified, hclassified, hauthenticate, hauthorize, hrequest⟩ :=
        forwarded_principal hforwarded hprincipal
      rw [hrequest, routeOperation_iff, hclassified] at hroute
      cases hroute.1
      exact ⟨principal, operation, hauthenticate, hauthorize, hclass, hclassified⟩
  · exact routeOperation_iff

/-- A host that lets its one principal do everything, and whose stores answer. -/
private def openConfig : DeploymentSecurityConfig Unit where
  authenticate _ := some ()
  authorize _ _ _ := true
  admitRequest := none
  requireHttps := true
  publicPaths := [lit "/health", lit "/v1/version"]

private def openServices : ReviewServices Unit where
  Actor := Unit
  Report := Unit
  Authority := Unit
  ApprovalInput := Unit
  StatementInput := Unit
  actorForPrincipal _ := .ok ()
  loadReport _ := .ok ()
  approvalForPrincipal := some fun _ _ ↦ .ok ()
  validateWriteProtection _ _ _ := .ok ()
  approvalInput _ _ _ := .ok ()
  statementInput _ _ := .ok ()
  lifecycleForTarget _ _ := .ok ()
  appendApproval _ _ _ _ _ := .ok true
  revokeApproval _ _ _ _ _ := .ok true
  reviewsForTarget _ _ := .ok ()
  appendReview _ _ _ := .ok true

private def someRecord : Text := List.replicate 64 0x61

/-- The two parsers drop the same empty parts. -/
private def revokeRequest : Request where
  method := lit "POST"
  path := lit "//api/v1/claims/" ++ someRecord ++ lit "/approvals//" ++ someRecord ++ lit "/revoke/"
  scheme := lit "https"

/-- A revocation is carried out under the authorisation for revocations. -/
theorem secured_routes_agree_revoke :
    .revokeApproval someRecord someRecord ∈
        securedEffects openConfig openServices revokeRequest ∧
      ∃ principal operation, openConfig.authenticate revokeRequest = some principal ∧
        openConfig.authorize principal operation revokeRequest = true ∧
        (Effect.revokeApproval someRecord someRecord).ofClass operation = true ∧
        operationForRequest revokeRequest.method revokeRequest.path = some operation := by
  have h : .revokeApproval someRecord someRecord ∈
      securedEffects openConfig openServices revokeRequest := by decide +kernel
  exact ⟨h, (secured_routes_agree openConfig openServices).1 revokeRequest _ h⟩

end StateWake.Security
