import StateWake.Base.Datetime
import StateWake.Base.Sha256
import StateWake.Utils.JsonSupport

/-!
# Review statements

`domain/review_statement.py`. The constructor checks the trimmed form of every text field and
keeps the field as it was given; the reader rebuilds a record from the trimmed form. A record
is read back as it was exactly when trimming leaves its texts alone.
-/

namespace StateWake.Review

open StateWake.Base Text Utils

/-! ### Field checks -/

/-- `_ALLOWED_CATEGORIES`, `domain/review_statement.py:26–32`. -/
def allowedCategories : List Text :=
  [lit "observation", lit "question", lit "change_requested", lit "finding",
    lit "review_complete"]

/-- `_canonical`, `domain/review_statement.py:35–37`. -/
def canonical (payload : Dict Json) : Except PyError Bytes :=
  Utf8.toBytes (Json.dumps Json.compact (.obj payload))

/-- `_require_digest`, `domain/review_statement.py:40–45`. -/
def requireDigest (value : Json) (field : Text) : Except PyError Text := do
  let text ← requireString value field
  require ⟨.valueError, field ++ lit " must be a lowercase SHA-256 digest"⟩ (isSha256 text)
  pure text

/-- `_optional_digest`, `domain/review_statement.py:48–52`. -/
def optionalDigest (value : Json) (field : Text) : Except PyError (Option Text) :=
  match value with
  | .null => .ok none
  | v => do
    let text ← requireDigest v field
    pure (some text)

/-- `_require_category`, `domain/review_statement.py:55–60`. -/
def requireCategory (value : Json) : Except PyError Text := do
  let text ← requireString value (lit "category")
  require ⟨.valueError, lit "unsupported review category"⟩ (text ∈ allowedCategories)
  pure text

/-- `_require_non_empty`, `domain/review_statement.py:63–72`; every caller gives a limit. -/
def requireNonEmpty (value : Json) (field : Text) (maxChars : Nat) : Except PyError Text := do
  let text ← requireString value field
  require ⟨.valueError, field ++ lit " must not be blank"⟩ (strip text ≠ [])
  require ⟨.valueError, field ++ lit " exceeds maximum length"⟩ ((strip text).length ≤ maxChars)
  pure (strip text)

/-- A field that may be `None`, else as `_require_non_empty` takes it,
`domain/review_statement.py:208–217`. -/
def optionalNonEmpty (value : Json) (field : Text) (maxChars : Nat) :
    Except PyError (Option Text) :=
  match value with
  | .null => .ok none
  | v => do
    let text ← requireNonEmpty v field maxChars
    pure (some text)

/-- The name of an item of a field. -/
def itemField (field : Text) (index : Nat) : Text :=
  field ++ lit "[" ++ Decimal.decimal index ++ lit "]"

/-- `_string_tuple`, `domain/review_statement.py:75–85`. -/
def stringTuple (value : Json) (field : Text) (maxItems : Nat) : Except PyError (List Text) := do
  let items ← orRaise ⟨.valueError, field ++ lit " must be a JSON array"⟩ value.asList
  require ⟨.valueError, field ++ lit " exceeds maximum item count"⟩ (items.length ≤ maxItems)
  items.zipIdx.mapM fun item ↦ requireNonEmpty item.1 (itemField field item.2) 256

/-! ### Records -/

/-- What a review statement says, `domain/review_statement.py:98–110`: the arguments that
`review_request_fingerprint` takes. -/
structure ReviewRequest where
  targetRecordId : Text
  candidateIdentity : Text
  candidateDigest : Text
  reportDigest : Text
  profileId : Text
  profileVersion : Text
  actorIdentityRef : Text
  actorRole : Text
  category : Text
  statement : Text
  findingRefs : List Text
  limitation : Option Text
  scope : Text
  supersedesDigest : Option Text
  deriving DecidableEq

/-- The fields of a record, `domain/review_statement.py:97–116`. -/
structure ReviewStatementFields extends ReviewRequest where
  sequence : Int
  createdAt : AwareDatetime
  idempotencyKey : Text
  requestFingerprint : Text
  previousDigest : Option Text
  digest : Text
  deriving DecidableEq

/-- The payload of `review_request_fingerprint`, `domain/review_statement.py:299–314`. -/
def ReviewRequest.payload (r : ReviewRequest) : Dict Json :=
  [(lit "target_record_id", .str r.targetRecordId),
    (lit "candidate_identity", .str r.candidateIdentity),
    (lit "candidate_digest", .str r.candidateDigest),
    (lit "report_digest", .str r.reportDigest),
    (lit "profile_id", .str r.profileId),
    (lit "profile_version", .str r.profileVersion),
    (lit "actor_identity_ref", .str r.actorIdentityRef),
    (lit "actor_role", .str r.actorRole),
    (lit "category", .str r.category),
    (lit "statement", .str r.statement),
    (lit "finding_refs", .arr (r.findingRefs.map .str)),
    (lit "limitation", optionJson r.limitation),
    (lit "scope", .str r.scope),
    (lit "supersedes_digest", optionJson r.supersedesDigest)]

/-- `review_request_fingerprint`, `domain/review_statement.py:282–316`. -/
def reviewRequestFingerprint (r : ReviewRequest) : Except PyError Text := do
  let content ← canonical r.payload
  pure (sha256 content)

namespace ReviewStatementFields

/-- The checks of the constructor, `domain/review_statement.py:118–155`. -/
def validate (f : ReviewStatementFields) : Except PyError Unit := do
  require ⟨.valueError, lit "sequence must be non-negative"⟩ (0 ≤ f.sequence)
  let _ ← requireDigest (.str f.targetRecordId) (lit "target_record_id")
  let _ ← requireNonEmpty (.str f.candidateIdentity) (lit "candidate_identity") 512
  let _ ← requireDigest (.str f.candidateDigest) (lit "candidate_digest")
  let _ ← requireDigest (.str f.reportDigest) (lit "report_digest")
  let _ ← requireNonEmpty (.str f.profileId) (lit "profile_id") 256
  let _ ← requireNonEmpty (.str f.profileVersion) (lit "profile_version") 128
  let _ ← requireNonEmpty (.str f.actorIdentityRef) (lit "actor_identity_ref") 512
  let _ ← requireNonEmpty (.str f.actorRole) (lit "actor_role") 256
  let _ ← requireCategory (.str f.category)
  let _ ← requireNonEmpty (.str f.statement) (lit "statement") 4000
  require ⟨.valueError, lit "finding_refs exceeds maximum item count"⟩
    (f.findingRefs.length ≤ 32)
  let _ ← f.findingRefs.zipIdx.mapM fun item ↦
    requireNonEmpty (.str item.1) (itemField (lit "finding_refs") item.2) 256
  let _ ← f.limitation.toList.mapM fun text ↦
    requireNonEmpty (.str text) (lit "limitation") 2000
  let _ ← requireNonEmpty (.str f.scope) (lit "scope") 512
  let _ ← requireNonEmpty (.str f.idempotencyKey) (lit "idempotency_key") 256
  let _ ← requireDigest (.str f.requestFingerprint) (lit "request_fingerprint")
  let _ ← optionalDigest (optionJson f.supersedesDigest) (lit "supersedes_digest")
  let _ ← optionalDigest (optionJson f.previousDigest) (lit "previous_digest")
  let _ ← requireDigest (.str f.digest) (lit "digest")
  pure ()

/-- `unsigned_payload()` at a time in UTC, `domain/review_statement.py:157–180`. -/
def payloadAt (f : ReviewStatementFields) (createdAt : Datetime) : Dict Json :=
  [(lit "schema_version", .str (lit "review-statement.v1")),
    (lit "sequence", .int f.sequence),
    (lit "target_record_id", .str f.targetRecordId),
    (lit "candidate_identity", .str f.candidateIdentity),
    (lit "candidate_digest", .str f.candidateDigest),
    (lit "report_digest", .str f.reportDigest),
    (lit "profile_id", .str f.profileId),
    (lit "profile_version", .str f.profileVersion),
    (lit "actor_identity_ref", .str f.actorIdentityRef),
    (lit "actor_role", .str f.actorRole),
    (lit "category", .str f.category),
    (lit "statement", .str f.statement),
    (lit "finding_refs", .arr (f.findingRefs.map .str)),
    (lit "limitation", optionJson f.limitation),
    (lit "scope", .str f.scope),
    (lit "created_at", .str (isoformat createdAt)),
    (lit "idempotency_key", .str f.idempotencyKey),
    (lit "request_fingerprint", .str f.requestFingerprint),
    (lit "supersedes_digest", optionJson f.supersedesDigest),
    (lit "previous_digest", optionJson f.previousDigest)]

/-- `unsigned_payload()`, `domain/review_statement.py:157–180`. -/
def unsignedPayload (f : ReviewStatementFields) : Except PyError (Dict Json) := do
  let createdAt ← f.createdAt.toUtc
  pure (f.payloadAt createdAt)

/-- `to_dict()`, `domain/review_statement.py:182–186`. -/
def toDict (f : ReviewStatementFields) : Except PyError (Dict Json) := do
  let payload ← f.unsignedPayload
  pure (payload ++ [(lit "digest", .str f.digest)])

/-- The digest of the unsigned payload, `domain/review_statement.py:194`. -/
def contentDigest (f : ReviewStatementFields) : Except PyError Text := do
  let payload ← f.unsignedPayload
  let content ← canonical payload
  pure (sha256 content)

end ReviewStatementFields

/-- `ReviewStatementRecord`, `domain/review_statement.py:88–155`, with what its constructor
checked. -/
structure ReviewStatementRecord extends ReviewStatementFields where
  lawful : toReviewStatementFields.validate = .ok ()

namespace ReviewStatementRecord

/-- The constructor, `__post_init__` at `domain/review_statement.py:118–155`. -/
def create (f : ReviewStatementFields) : Except PyError ReviewStatementRecord :=
  match lawful : f.validate with
  | .error e => .error e
  | .ok () => .ok ⟨f, lawful⟩

/-- `verify`, `domain/review_statement.py:188–196`. -/
def verify (r : ReviewStatementRecord) (expectedSequence : Int) (expectedPrevious : Option Text) :
    Except PyError Unit := do
  require ⟨.valueError, lit "review statement sequence is not contiguous"⟩
    (r.sequence = expectedSequence)
  require ⟨.valueError, lit "review statement chain is discontinuous"⟩
    (r.previousDigest = expectedPrevious)
  let expected ← r.contentDigest
  require ⟨.valueError, lit "review statement digest mismatch"⟩ (r.digest = expected)

/-- `payload.get(key)`, with `None` as the JSON `null`. -/
def member (payload : Dict Json) (key : Text) : Json := (payload.get? key).getD .null

/-- `from_dict`, `domain/review_statement.py:198–279`. -/
def fromDict (payload : Dict Json) : Except PyError ReviewStatementRecord := do
  require ⟨.valueError, lit "unsupported review statement schema"⟩
    (member payload (lit "schema_version") = .str (lit "review-statement.v1"))
  let written ← requireString (member payload (lit "created_at")) (lit "created_at")
  let createdAt ← parseAware written (lit "created_at must be timezone-aware")
  let limitation ← optionalNonEmpty (member payload (lit "limitation")) (lit "limitation") 2000
  let sequence ← requireInt (member payload (lit "sequence")) (lit "sequence")
  let targetRecordId ← requireDigest (member payload (lit "target_record_id"))
    (lit "target_record_id")
  let candidateIdentity ← requireNonEmpty (member payload (lit "candidate_identity"))
    (lit "candidate_identity") 512
  let candidateDigest ← requireDigest (member payload (lit "candidate_digest"))
    (lit "candidate_digest")
  let reportDigest ← requireDigest (member payload (lit "report_digest")) (lit "report_digest")
  let profileId ← requireNonEmpty (member payload (lit "profile_id")) (lit "profile_id") 256
  let profileVersion ← requireNonEmpty (member payload (lit "profile_version"))
    (lit "profile_version") 128
  let actorIdentityRef ← requireNonEmpty (member payload (lit "actor_identity_ref"))
    (lit "actor_identity_ref") 512
  let actorRole ← requireNonEmpty (member payload (lit "actor_role")) (lit "actor_role") 256
  let category ← requireCategory (member payload (lit "category"))
  let statement ← requireNonEmpty (member payload (lit "statement")) (lit "statement") 4000
  let findingRefs ← stringTuple (member payload (lit "finding_refs")) (lit "finding_refs") 32
  let scope ← requireNonEmpty (member payload (lit "scope")) (lit "scope") 512
  let idempotencyKey ← requireNonEmpty (member payload (lit "idempotency_key"))
    (lit "idempotency_key") 256
  let requestFingerprint ← requireDigest (member payload (lit "request_fingerprint"))
    (lit "request_fingerprint")
  let supersedesDigest ← optionalDigest (member payload (lit "supersedes_digest"))
    (lit "supersedes_digest")
  let previousDigest ← optionalDigest (member payload (lit "previous_digest"))
    (lit "previous_digest")
  let digest ← requireDigest (member payload (lit "digest")) (lit "digest")
  create
    { targetRecordId, candidateIdentity, candidateDigest, reportDigest, profileId,
      profileVersion, actorIdentityRef, actorRole, category, statement, findingRefs, limitation,
      scope, supersedesDigest, sequence, createdAt, idempotencyKey, requestFingerprint,
      previousDigest, digest }

/-- `with_review_digest`, `domain/review_statement.py:319–343`. -/
def withReviewDigest (r : ReviewStatementRecord) : Except PyError ReviewStatementRecord := do
  let digest ← r.contentDigest
  create { r.toReviewStatementFields with digest }

end ReviewStatementRecord

/-! ### What the checks say -/

section Checks

variable {s t field : Text}

theorem requireDigest_str :
    requireDigest (.str s) field = .ok t ↔ s = t ∧ isSha256 s = true := by
  rw [requireDigest, requireString_str, ok_bind, require_bind_eq_ok, and_comm]
  exact and_congr_left fun _ ↦ ⟨Except.ok.inj, congrArg Except.ok⟩

theorem requireCategory_str :
    requireCategory (.str s) = .ok t ↔ s = t ∧ s ∈ allowedCategories := by
  rw [requireCategory, requireString_str, ok_bind, require_bind_eq_ok, decide_eq_true_eq,
    and_comm]
  exact and_congr_left fun _ ↦ ⟨Except.ok.inj, congrArg Except.ok⟩

/-- A text that a bounded field takes. -/
def Fits (maxChars : Nat) (s : Text) : Prop := strip s ≠ [] ∧ (strip s).length ≤ maxChars

instance (maxChars : Nat) (s : Text) : Decidable (Fits maxChars s) :=
  inferInstanceAs (Decidable (_ ∧ _))

theorem requireNonEmpty_str {maxChars : Nat} :
    requireNonEmpty (.str s) field maxChars = .ok t ↔ strip s = t ∧ Fits maxChars s := by
  rw [requireNonEmpty, requireString_str, ok_bind, require_bind_eq_ok, require_bind_eq_ok,
    decide_eq_true_eq, decide_eq_true_eq, Fits]
  constructor
  · rintro ⟨hne, hle, ht⟩
    cases ht
    exact ⟨rfl, hne, hle⟩
  · rintro ⟨rfl, hne, hle⟩
    exact ⟨hne, hle, rfl⟩

theorem optionalDigest_optionJson {o o' : Option Text} :
    optionalDigest (optionJson o) field = .ok o' ↔ o = o' ∧ ∀ d ∈ o, isSha256 d = true := by
  cases o with
  | none =>
    rw [show optionJson none = .null from rfl, optionalDigest, Except.ok.injEq]
    exact (and_iff_left isSha256_of_mem_none).symm
  | some d =>
    rw [show optionJson (some d) = .str d from rfl, optionalDigest.eq_def]
    simp only [bind_eq_ok, requireDigest_str, Option.mem_def, Option.some.injEq, forall_eq']
    constructor
    · rintro ⟨_, ⟨rfl, hd⟩, ho⟩
      cases ho
      exact ⟨rfl, hd⟩
    · rintro ⟨rfl, hd⟩
      exact ⟨d, ⟨rfl, hd⟩, rfl⟩

theorem optionalNonEmpty_optionJson {o o' : Option Text} {maxChars : Nat} :
    optionalNonEmpty (optionJson o) field maxChars = .ok o' ↔
      o.map strip = o' ∧ ∀ s ∈ o, Fits maxChars s := by
  cases o with
  | none =>
    rw [show optionJson none = .null from rfl, optionalNonEmpty, Except.ok.injEq]
    exact (and_iff_left (by rintro _ ⟨⟩)).symm
  | some s =>
    rw [show optionJson (some s) = .str s from rfl, optionalNonEmpty.eq_def]
    simp only [bind_eq_ok, requireNonEmpty_str, Option.mem_def, Option.some.injEq, forall_eq',
      Option.map_some]
    constructor
    · rintro ⟨_, ⟨rfl, hs⟩, ho⟩
      cases ho
      exact ⟨rfl, hs⟩
    · rintro ⟨rfl, hs⟩
      exact ⟨_, ⟨rfl, hs⟩, rfl⟩

/-- Checking items one by one gives them trimmed, when all of them fit. -/
theorem mapM_requireNonEmpty {α : Type} {text name : α → Text} {maxChars : Nat} {items : List α}
    {texts : List Text} :
    (items.mapM fun item ↦ requireNonEmpty (.str (text item)) (name item) maxChars) = .ok texts ↔
      items.map (fun item ↦ strip (text item)) = texts ∧
        ∀ item ∈ items, Fits maxChars (text item) := by
  induction items generalizing texts with
  | nil => simp [pure, Except.pure]
  | cons item items ih =>
    simp only [List.mapM_cons, bind_eq_ok, requireNonEmpty_str, ih, List.map_cons,
      List.forall_mem_cons]
    constructor
    · rintro ⟨_, ⟨rfl, hitem⟩, _, ⟨rfl, hitems⟩, ht⟩
      cases ht
      exact ⟨rfl, hitem, hitems⟩
    · rintro ⟨rfl, hitem, hitems⟩
      exact ⟨_, ⟨rfl, hitem⟩, _, ⟨rfl, hitems⟩, rfl⟩

private theorem forall_zipIdx {items : List Text} {P : Text → Prop} :
    (∀ item ∈ items.zipIdx, P item.1) ↔ ∀ s ∈ items, P s := by
  constructor
  · intro h s hs
    obtain ⟨i, hi, rfl⟩ := List.getElem_of_mem hs
    exact h (items[i], i) (by simp [List.mem_zipIdx_iff_getElem?])
  · rintro h ⟨s, i⟩ hs
    exact h s (List.fst_mem_of_mem_zipIdx hs)

theorem stringTuple_texts {items texts : List Text} {maxItems : Nat} :
    stringTuple (.arr (items.map .str)) field maxItems = .ok texts ↔
      items.map strip = texts ∧ items.length ≤ maxItems ∧ ∀ s ∈ items, Fits 256 s := by
  have hstrip : items.zipIdx.map (fun item ↦ strip item.1) = items.map strip := by
    have hfst : items.zipIdx.map Prod.fst = items := by simp
    conv_rhs => rw [← hfst, List.map_map]
    rfl
  rw [stringTuple, Json.asList_arr, orRaise_some, ok_bind, require_bind_eq_ok, decide_eq_true_eq,
    List.length_map, List.zipIdx_map, List.mapM_map]
  rw [show ((fun item : Json × Nat ↦ requireNonEmpty item.1 (itemField field item.2) 256) ∘
    Prod.map Json.str id) = fun item : Text × Nat ↦
      requireNonEmpty (.str item.1) (itemField field item.2) 256 from rfl,
    mapM_requireNonEmpty, hstrip, forall_zipIdx (P := Fits 256)]
  exact and_left_comm

end Checks

namespace ReviewStatementFields

/-- The bounded texts of a record, with their bounds. -/
def texts (f : ReviewStatementFields) : List (Text × Nat) :=
  [(f.candidateIdentity, 512), (f.profileId, 256), (f.profileVersion, 128),
    (f.actorIdentityRef, 512), (f.actorRole, 256), (f.statement, 4000), (f.scope, 512),
    (f.idempotencyKey, 256)] ++
  f.findingRefs.map (·, 256) ++ f.limitation.toList.map (·, 2000)

/-- The digests of a record. -/
def digests (f : ReviewStatementFields) : List Text :=
  [f.targetRecordId, f.candidateDigest, f.reportDigest, f.requestFingerprint, f.digest] ++
  f.supersedesDigest.toList ++ f.previousDigest.toList

/-- What the constructor checks. -/
structure Lawful (f : ReviewStatementFields) : Prop where
  numbered : 0 ≤ f.sequence
  texts : ∀ t ∈ f.texts, Fits t.2 t.1
  digests : ∀ d ∈ f.digests, isSha256 d = true
  category : f.category ∈ allowedCategories
  bounded : f.findingRefs.length ≤ 32

theorem validate_eq_ok {f : ReviewStatementFields} : f.validate = .ok () ↔ f.Lawful := by
  simp only [validate, bind_eq_ok, require_eq_ok, decide_eq_true_eq, requireDigest_str,
    requireNonEmpty_str, requireCategory_str, optionalDigest_optionJson, mapM_requireNonEmpty,
    exists_and_left, exists_eq_left', and_assoc, forall_zipIdx (P := Fits 256)]
  constructor
  · rintro ⟨hsequence, htarget, hcandidate, hcandidateDigest, hreport, hprofile, hversion, hactor,
      hrole, hcategory, hstatement, hbounded, hrefs, hlimitation, hscope, hkey, hfingerprint,
      hsupersedes, hprevious, hdigest, -⟩
    refine ⟨hsequence, ?_, ?_, hcategory, hbounded⟩
    · simpa [texts, hcandidate, hprofile, hversion, hactor, hrole, hstatement, hscope, hkey,
        or_imp, forall_and] using
        ⟨hrefs, fun s hs ↦ hlimitation s (Option.mem_toList.mpr hs)⟩
    · simpa [digests, htarget, hcandidateDigest, hreport, hfingerprint, hdigest, or_imp,
        forall_and] using ⟨hsupersedes, hprevious⟩
  · rintro ⟨hsequence, htexts, hdigests, hcategory, hbounded⟩
    simp only [texts, digests, List.forall_mem_append, List.forall_mem_cons, List.forall_mem_map,
      List.not_mem_nil, IsEmpty.forall_iff, implies_true, and_true, Option.mem_toList]
      at htexts hdigests
    obtain ⟨⟨⟨hcandidate, hprofile, hversion, hactor, hrole, hstatement, hscope, hkey⟩, hrefs⟩,
      hlimitation⟩ := htexts
    obtain ⟨⟨⟨htarget, hcandidateDigest, hreport, hfingerprint, hdigest⟩, hsupersedes⟩,
      hprevious⟩ := hdigests
    exact ⟨hsequence, htarget, hcandidate, hcandidateDigest, hreport, hprofile, hversion, hactor,
      hrole, hcategory, hstatement, hbounded, hrefs,
      fun item hitem ↦ hlimitation item (Option.mem_toList.mp hitem), hscope, hkey, hfingerprint,
      hsupersedes, hprevious, hdigest, (), (), rfl⟩

/-- A record as the reader rebuilds it: the time in UTC, the texts trimmed. -/
def reread (f : ReviewStatementFields) (createdAt : Datetime) : ReviewStatementFields :=
  { f with
    candidateIdentity := strip (joinSurrogates f.candidateIdentity)
    profileId := strip (joinSurrogates f.profileId)
    profileVersion := strip (joinSurrogates f.profileVersion)
    actorIdentityRef := strip (joinSurrogates f.actorIdentityRef)
    actorRole := strip (joinSurrogates f.actorRole)
    statement := strip (joinSurrogates f.statement)
    scope := strip (joinSurrogates f.scope)
    idempotencyKey := strip (joinSurrogates f.idempotencyKey)
    findingRefs := (f.findingRefs.map joinSurrogates).map strip
    limitation := (f.limitation.map joinSurrogates).map strip
    createdAt := .ofUtc createdAt }

/-- Texts that trimming leaves alone and that hold no surrogate pair. -/
def Stable (f : ReviewStatementFields) : Prop := ∀ t ∈ f.texts, strip t.1 = t.1 ∧ PairFree t.1

end ReviewStatementFields

namespace ReviewStatementFields

variable {f : ReviewStatementFields}

/-- A lawful record takes any digest. -/
theorem Lawful.withDigest (hf : f.Lawful) {digest : Text} (hd : isSha256 digest = true) :
    ({ f with digest } : ReviewStatementFields).Lawful := by
  refine ⟨hf.numbered, hf.texts, ?_, hf.category, hf.bounded⟩
  have hdigests := hf.digests
  simp only [ReviewStatementFields.digests, List.forall_mem_append, List.forall_mem_cons,
    List.not_mem_nil, IsEmpty.forall_iff, implies_true, and_true] at hdigests ⊢
  obtain ⟨⟨⟨htarget, hcandidate, hreport, hfingerprint, -⟩, hsupersedes⟩, hprevious⟩ := hdigests
  exact ⟨⟨⟨htarget, hcandidate, hreport, hfingerprint, hd⟩, hsupersedes⟩, hprevious⟩

theorem texts_reread (now : Datetime) :
    (f.reread now).texts = f.texts.map fun t ↦ (strip (joinSurrogates t.1), t.2) := by
  simp [texts, reread, Option.toList_map, Function.comp_def]

/-- Rebuilding a record leaves its texts alone exactly when they are stable. -/
theorem texts_reread_eq_iff (now : Datetime) : (f.reread now).texts = f.texts ↔ f.Stable := by
  rw [texts_reread]
  conv_lhs => rw [← List.map_id f.texts, List.map_map, List.map_inj_left]
  refine forall₂_congr fun t _ ↦ ?_
  rw [Function.comp_apply, id_eq, ← strip_joinSurrogates_eq_self_iff, Prod.ext_iff]
  exact and_iff_left rfl

theorem reread_of_stable (hs : f.Stable) (now : Datetime) :
    f.reread now = { f with createdAt := .ofUtc now } := by
  have htexts : ∀ t ∈ f.texts, strip (joinSurrogates t.1) = t.1 := fun t ht ↦
    (strip_joinSurrogates_eq_self_iff t.1).mpr (hs t ht)
  simp only [texts, List.forall_mem_append, List.forall_mem_cons, List.forall_mem_map,
    List.not_mem_nil, IsEmpty.forall_iff, implies_true, and_true, Option.mem_toList] at htexts
  obtain ⟨⟨⟨hcandidate, hprofile, hversion, hactor, hrole, hstatement, hscope, hkey⟩, hrefs⟩,
    hlimitation⟩ := htexts
  have hitems : (f.findingRefs.map joinSurrogates).map strip = f.findingRefs := by
    rw [List.map_map]
    exact (List.map_congr_left hrefs).trans (List.map_id' _)
  have hlim : (f.limitation.map joinSurrogates).map strip = f.limitation := by
    cases h : f.limitation with
    | none => rfl
    | some s => rw [Option.map_some, Option.map_some, hlimitation s h]
  rw [reread, hcandidate, hprofile, hversion, hactor, hrole, hstatement, hscope, hkey, hitems,
    hlim]

end ReviewStatementFields

namespace ReviewStatementRecord

variable {f : ReviewStatementFields} {now : Datetime} {members : Dict Json}

theorem create_eq_ok {r : ReviewStatementRecord} :
    create f = .ok r ↔ r.toReviewStatementFields = f := by
  constructor
  · intro h
    unfold create at h
    split at h
    · cases h
    · cases h
      rfl
  · rintro rfl
    unfold create
    split
    · next e he =>
      rw [r.lawful] at he
      cases he
    · rfl

/-- Under every key of a written record, what its value reads back as. -/
def Reread (members : Dict Json) (f : ReviewStatementFields) (now : Datetime) : Prop :=
  ∀ key v, (key, v) ∈ f.payloadAt now ++ [(lit "digest", .str f.digest)] →
    member members key = Json.joined (Json.sortKeys v)

private theorem joined_texts (items : List Text) :
    Json.joined (Json.sortKeys (.arr (items.map .str))) =
      .arr ((items.map joinSurrogates).map .str) := by
  rw [Json.sortKeys_arr, Json.joined_arr, List.map_map, List.map_map, List.map_map]
  rfl

private theorem joined_optionJson (o : Option Text) :
    Json.joined (Json.sortKeys (optionJson o)) = optionJson (o.map joinSurrogates) := by
  cases o <;> rfl

private theorem map_joinSurrogates {o : Option Text} (h : ∀ s ∈ o, isSha256 s = true) :
    o.map joinSurrogates = o := by
  cases o with
  | none => rfl
  | some s =>
    rw [Option.map_some,
      (joinSurrogates_eq_self_iff s).mpr (surrogateFree_of_isSha256 (h s rfl)).pairFree]

/-- The reader takes a written record exactly when the texts still fit once their pairs are
joined, and it trims them. -/
theorem fromDict_eq_ok (hf : f.Lawful) (hm : Reread members f now) {r : ReviewStatementRecord} :
    fromDict members = .ok r ↔ r.toReviewStatementFields = f.reread now ∧
      ∀ t ∈ f.texts, Fits t.2 (joinSurrogates t.1) := by
  have hdigest : ∀ d ∈ f.digests, joinSurrogates d = d := fun d hd ↦
    (joinSurrogates_eq_self_iff d).mpr (surrogateFree_of_isSha256 (hf.digests d hd)).pairFree
  have hallowed : ∀ c ∈ allowedCategories, joinSurrogates c = c := by
    simp [allowedCategories, joinSurrogates_eq_self_iff]
  have hdigests := hf.digests
  simp only [ReviewStatementFields.digests, List.forall_mem_append, List.forall_mem_cons,
    List.not_mem_nil, IsEmpty.forall_iff, implies_true, and_true, Option.mem_toList] at hdigests
  obtain ⟨⟨⟨htarget, hcandidateDigest, hreport, hfingerprint, hdig⟩, hsupersedes⟩, hprevious⟩ :=
    hdigests
  have text : ∀ key s, (key, Json.str s) ∈ f.payloadAt now ++ [(lit "digest", .str f.digest)] →
      member members key = .str (joinSurrogates s) := fun key s h ↦ hm key _ h
  have digest : ∀ key s, (key, Json.str s) ∈ f.payloadAt now ++ [(lit "digest", .str f.digest)] →
      isSha256 s = true → member members key = .str s := by
    intro key s h hs
    rw [text key s h,
      (joinSurrogates_eq_self_iff s).mpr (surrogateFree_of_isSha256 hs).pairFree]
  have hschema := text (lit "schema_version") (lit "review-statement.v1")
    (by simp [ReviewStatementFields.payloadAt])
  rw [(joinSurrogates_eq_self_iff _).mpr (pairFree_lit _)] at hschema
  have hcreated := text (lit "created_at") (isoformat now)
    (by simp [ReviewStatementFields.payloadAt])
  rw [(joinSurrogates_eq_self_iff _).mpr (surrogateFree_isoformat now).pairFree] at hcreated
  have hcategory := text (lit "category") f.category (by simp [ReviewStatementFields.payloadAt])
  rw [hallowed _ hf.category] at hcategory
  have hsequence := hm (lit "sequence") (.int f.sequence)
    (by simp [ReviewStatementFields.payloadAt])
  have hrefs := hm (lit "finding_refs") (.arr (f.findingRefs.map .str))
    (by simp [ReviewStatementFields.payloadAt])
  have hlimitation := hm (lit "limitation") (optionJson f.limitation)
    (by simp [ReviewStatementFields.payloadAt])
  have hsup := hm (lit "supersedes_digest") (optionJson f.supersedesDigest)
    (by simp [ReviewStatementFields.payloadAt])
  have hprev := hm (lit "previous_digest") (optionJson f.previousDigest)
    (by simp [ReviewStatementFields.payloadAt])
  rw [joined_texts] at hrefs
  rw [joined_optionJson] at hlimitation
  rw [joined_optionJson, map_joinSurrogates hsupersedes] at hsup
  rw [joined_optionJson, map_joinSurrogates hprevious] at hprev
  rw [Json.sortKeys_int, Json.joined_int] at hsequence
  simp only [fromDict, bind_eq_ok, require_eq_ok, decide_eq_true_eq, hschema, hcreated,
    requireString_str, Except.ok.injEq, parseAware_isoformat, hlimitation,
    optionalNonEmpty_optionJson, hsequence, requireInt_int, hcategory, requireCategory_str, hrefs,
    stringTuple_texts, hsup, hprev, optionalDigest_optionJson, requireDigest_str,
    requireNonEmpty_str, create_eq_ok,
    digest (lit "target_record_id") f.targetRecordId
      (by simp [ReviewStatementFields.payloadAt]) htarget,
    digest (lit "candidate_digest") f.candidateDigest
      (by simp [ReviewStatementFields.payloadAt]) hcandidateDigest,
    digest (lit "report_digest") f.reportDigest
      (by simp [ReviewStatementFields.payloadAt]) hreport,
    digest (lit "request_fingerprint") f.requestFingerprint
      (by simp [ReviewStatementFields.payloadAt]) hfingerprint,
    digest (lit "digest") f.digest (by simp) hdig,
    text (lit "candidate_identity") f.candidateIdentity
      (by simp [ReviewStatementFields.payloadAt]),
    text (lit "profile_id") f.profileId (by simp [ReviewStatementFields.payloadAt]),
    text (lit "profile_version") f.profileVersion (by simp [ReviewStatementFields.payloadAt]),
    text (lit "actor_identity_ref") f.actorIdentityRef
      (by simp [ReviewStatementFields.payloadAt]),
    text (lit "actor_role") f.actorRole (by simp [ReviewStatementFields.payloadAt]),
    text (lit "statement") f.statement (by simp [ReviewStatementFields.payloadAt]),
    text (lit "scope") f.scope (by simp [ReviewStatementFields.payloadAt]),
    text (lit "idempotency_key") f.idempotencyKey (by simp [ReviewStatementFields.payloadAt]),
    htarget, hcandidateDigest, hreport, hfingerprint, hdig, hf.category,
    exists_and_left, exists_eq_left', exists_const, true_and, and_true, and_assoc,
    List.length_map, List.forall_mem_map, Option.mem_map, forall_exists_index, and_imp,
    forall_apply_eq_imp_iff₂]
  constructor
  · rintro ⟨hlim, hcandidate, hprofile, hversion, hactor, hrole, hstatement, -, hitems, hscope,
      hkey, -, -, hr⟩
    refine ⟨hr, ?_⟩
    simpa [ReviewStatementFields.texts, hcandidate, hprofile, hversion, hactor, hrole, hstatement,
      hscope, hkey, or_imp, forall_and] using
      ⟨hitems, hlim⟩
  · rintro ⟨hr, htexts⟩
    simp only [ReviewStatementFields.texts, List.forall_mem_append, List.forall_mem_cons,
      List.forall_mem_map, List.not_mem_nil, IsEmpty.forall_iff, implies_true, and_true,
      Option.mem_toList] at htexts
    obtain ⟨⟨⟨hcandidate, hprofile, hversion, hactor, hrole, hstatement, hscope, hkey⟩, hitems⟩,
      hlim⟩ := htexts
    exact ⟨hlim, hcandidate, hprofile, hversion, hactor, hrole, hstatement, hf.bounded, hitems,
      hscope, hkey, hsupersedes, hprevious, hr⟩

/-- Where the texts are stable, the reader gives a written record back, its time in UTC. -/
theorem fromDict_of_stable {r : ReviewStatementRecord}
    (hm : Reread members r.toReviewStatementFields now)
    (hs : r.toReviewStatementFields.Stable) :
    fromDict members =
      .ok ⟨{ r.toReviewStatementFields with createdAt := .ofUtc now }, r.lawful⟩ := by
  have hf := ReviewStatementFields.validate_eq_ok.mp r.lawful
  have hreread := ReviewStatementFields.reread_of_stable hs now
  refine (fromDict_eq_ok hf hm).mpr ⟨hreread.symm, fun t ht ↦ ?_⟩
  rw [(joinSurrogates_eq_self_iff t.1).mpr (hs t ht).2]
  exact hf.texts t ht

end ReviewStatementRecord

end StateWake.Review
