import StateWake.Attestation.History
import StateWake.Attestation.Service

/-!
# Calls to an attestation store

Every call that may write: the two appends of the store and the recording functions of the
service. Whatever calls are made, the file holds a history, and each call leaves it alone or
adds entries at its end.
-/

namespace StateWake.Attestation

open StateWake.Base Text Utils RegisterHistory Trust Store

/-- A call. The dictionary inside a supplied envelope is a Python value: it holds each key once
and writes its floats as `repr` does; the envelope's digests refuse the other floats. -/
inductive Call where
  | append (attestation : ReliabilityOutcomeAttestation)
  | appendSigned (binding : SignedReliabilityOutcomeBinding)
    (writable : Json.Writable (.obj binding.envelope.attestation))
  | recordSigned (envelope : SignedReliabilityOutcomeEnvelope)
    (writable : Json.Writable (.obj envelope.attestation))
    (trustState : SignedAttestationTrustState) (authorities : Dict Bytes)
  | attest (request : Request) (signingKeyId : Option Text) (now : Datetime)
  | attestSigned (request : Request) (key : SigningKeyReference)
    (trustState : SignedAttestationTrustState) (authorities : Dict Bytes) (now : Datetime)

/-- What a call returns. -/
inductive Answer where
  | attestation (a : ReliabilityOutcomeAttestation)
  | binding (b : SignedReliabilityOutcomeBinding)
  deriving DecidableEq

variable (ed25519 : Bytes → Bytes → Bytes → Bool)
  (provider : SigningKeyReference → Bytes → Except PyError Bytes)

/-- The answer of a call and the file it leaves. -/
def call (file : Option Bytes) : Call → Except PyError Answer × Option Bytes
  | .append a => (Store.append file a).map (.map .attestation) id
  | .appendSigned b _ => (Store.appendSigned file b).map (.map .binding) id
  | .recordSigned e _ state authorities =>
    (recordSigned ed25519 e state authorities file).map (.map .binding) id
  | .attest r signingKeyId now => (attest r signingKeyId now file).map (.map .attestation) id
  | .attestSigned r key state authorities now =>
    (attestSigned ed25519 provider r key state authorities now file).map (.map .binding) id

variable {ed25519 provider} {file file' : Option Bytes} {h : List Entry}
  {a c : ReliabilityOutcomeAttestation} {b : SignedReliabilityOutcomeBinding}

/-! ### Appends -/

/-- An append leaves the file alone or adds an attestation. -/
theorem append_grows (hr : Represents file h) (a : ReliabilityOutcomeAttestation) :
    ∃ g, Represents (Store.append file a).2 (h ++ g) := by
  rcases append_cases hr a with ⟨hfresh, happend⟩ | ⟨c, -, happend⟩ | ⟨e, happend⟩
  · rw [happend]
    exact ⟨[.attested a], hr.extend (prefixwise_append_singleton.mpr ⟨hr.stored, hfresh.stored⟩)⟩
  · exact ⟨[], by rw [happend, List.append_nil]; exact hr⟩
  · exact ⟨[], by rw [happend, List.append_nil]; exact hr⟩

/-- A signed append leaves the file alone or adds a binding. -/
theorem appendSigned_grows (hr : Represents file h) (b : SignedReliabilityOutcomeBinding)
    (hw : Json.Writable (.obj b.envelope.attestation)) :
    ∃ g, Represents (Store.appendSigned file b).2 (h ++ g) := by
  rcases appendSigned_cases hr b hw with ⟨hu, happend⟩ | ⟨-, happend⟩ | ⟨e, happend⟩
  · rw [happend]
    exact ⟨added h b, hr.extend (hu.stored hr.stored)⟩
  · exact ⟨[], by rw [happend, List.append_nil]; exact hr⟩
  · exact ⟨[], by rw [happend, List.append_nil]; exact hr⟩

/-- An append that returns has recorded the attestation, up to its place in the chain. -/
theorem append_returns (hr : Represents file h) (happend : Store.append file a = (.ok c, file')) :
    unchained c = unchained a ∧ c.attestationId = a.attestationId ∧
      ∃ g, Represents file' (h ++ g) ∧ c ∈ (after (h ++ g)).records := by
  cases hc : (after h).recorded? a.attestationId with
  | some d =>
    rw [append_of_recorded hr hc] at happend
    obtain ⟨hd, hid⟩ := recorded?_eq_some hc
    split at happend
    · next heq =>
      cases happend
      exact ⟨heq, hid, [], by rwa [List.append_nil], by rwa [List.append_nil]⟩
    · cases happend
  | none =>
    by_cases hlink : a.previousDigest = (after h).tipDigest
    · have hfresh : Fresh h a := ⟨hc, hlink⟩
      rw [append_of_fresh hr hfresh] at happend
      cases happend
      refine ⟨rfl, rfl, [.attested a],
        hr.extend (prefixwise_append_singleton.mpr ⟨hr.stored, hfresh.stored⟩), ?_⟩
      rw [after_attested]
      exact List.mem_append_right _ (List.mem_singleton_self a)
    · rw [append_of_unlinked hr hc hlink] at happend
      cases happend

private theorem bound_mem_added (h : List Entry) (b : SignedReliabilityOutcomeBinding) :
    b ∈ (after (h ++ added h b)).bindings := by
  change b ∈ List.filterMap Entry.binding? (h ++ added h b)
  rw [List.filterMap_append, List.mem_append]
  right
  unfold added
  split <;> simp [Entry.binding?]

/-- A signed append that returns has recorded exactly the binding it was given. -/
theorem appendSigned_returns (hr : Represents file h)
    (hw : Json.Writable (.obj b.envelope.attestation)) {d : SignedReliabilityOutcomeBinding}
    (happend : Store.appendSigned file b = (.ok d, file')) :
    d = b ∧ ∃ g, Represents file' (h ++ g) ∧ b ∈ (after (h ++ g)).bindings := by
  rcases appendSigned_cases hr b hw with ⟨hu, hb⟩ | ⟨hbound, hb⟩ | ⟨e, he⟩
  · rw [hb] at happend
    cases happend
    exact ⟨rfl, added h b, hr.extend (hu.stored hr.stored), bound_mem_added h b⟩
  · rw [hb] at happend
    cases happend
    exact ⟨rfl, [], by rwa [List.append_nil], by
      rw [List.append_nil]
      exact (binding?_eq_some hbound).1⟩
  · rw [he] at happend
    cases happend

/-! ### Calls of the service -/

theorem createEnvelope_eq_ok {keyId : Text} {signature : Bytes}
    {e : SignedReliabilityOutcomeEnvelope} (he : createEnvelope a keyId signature = .ok e) :
    e.keyId = keyId ∧ e.attestation = ordered a.toDict ∧ e.signature = Base64.encode signature := by
  obtain ⟨content, -, hcreate⟩ := bind_eq_ok.mp he
  obtain ⟨hkey, hattestation, -, hsignature⟩ :=
    SignedReliabilityOutcomeEnvelope.create_eq_ok hcreate
  exact ⟨hkey, hattestation, hsignature⟩

/-- The envelope of an attestation embeds it. -/
theorem fromDict_createEnvelope {keyId : Text} {signature : Bytes}
    {e : SignedReliabilityOutcomeEnvelope} (he : createEnvelope a keyId signature = .ok e) :
    ReliabilityOutcomeAttestation.fromDict e.attestation = .ok a := by
  rw [(createEnvelope_eq_ok he).2.1]
  exact ReliabilityOutcomeAttestation.fromDict_of_readsAs
    (readsAs_sorted ((Json.writable_obj _).mp a.writable_toDict).1)

theorem writable_createEnvelope {keyId : Text} {signature : Bytes}
    {e : SignedReliabilityOutcomeEnvelope} (he : createEnvelope a keyId signature = .ok e) :
    Json.Writable (.obj e.attestation) := by
  rw [(createEnvelope_eq_ok he).2.1]
  exact writable_ordered a.writable_toDict

/-- A signed envelope is the attestation's, under the signing key. -/
theorem signedEnvelope_eq_ok {key : SigningKeyReference} {state : SignedAttestationTrustState}
    {authorities : Dict Bytes} {e : SignedReliabilityOutcomeEnvelope}
    (he : signedEnvelope ed25519 provider a key state authorities = .ok e) :
    ∃ signature, createEnvelope a key.keyId signature = .ok e := by
  obtain ⟨-, he⟩ := require_bind_eq_ok.mp he
  obtain ⟨_, -, he⟩ := bind_eq_ok.mp he
  obtain ⟨_, -, he⟩ := bind_eq_ok.mp he
  obtain ⟨-, he⟩ := require_bind_eq_ok.mp he
  obtain ⟨_, -, he⟩ := bind_eq_ok.mp he
  obtain ⟨_, -, he⟩ := bind_eq_ok.mp he
  obtain ⟨signature, -, he⟩ := bind_eq_ok.mp he
  exact ⟨signature, he⟩

theorem bindEnvelope_eq_ok {e : SignedReliabilityOutcomeEnvelope}
    {state : SignedAttestationTrustState} {authorities : Dict Bytes}
    (hb : bindEnvelope ed25519 e state authorities = .ok b) :
    b.envelope = e ∧ buildTrustContext ed25519 e state authorities = .ok b.trustContext := by
  obtain ⟨context, hcontext, hcreate⟩ := bind_eq_ok.mp hb
  obtain ⟨henvelope, rfl⟩ := SignedReliabilityOutcomeBinding.create_eq_ok hcreate
  exact ⟨henvelope, hcontext⟩

/-- The binding that signing an attestation makes of it. -/
def signedBinding (ed25519 : Bytes → Bytes → Bytes → Bool)
    (provider : SigningKeyReference → Bytes → Except PyError Bytes)
    (a : ReliabilityOutcomeAttestation) (key : SigningKeyReference)
    (state : SignedAttestationTrustState) (authorities : Dict Bytes) :
    Except PyError SignedReliabilityOutcomeBinding := do
  let envelope ← signedEnvelope ed25519 provider a key state authorities
  bindEnvelope ed25519 envelope state authorities

/-- Signing an attestation gives a binding of it. -/
theorem signedBinding_eq_ok {key : SigningKeyReference} {state : SignedAttestationTrustState}
    {authorities : Dict Bytes}
    (hb : signedBinding ed25519 provider a key state authorities = .ok b) :
    b.attestation = a ∧ Json.Writable (.obj b.envelope.attestation) := by
  obtain ⟨e, he, hbind⟩ := bind_eq_ok.mp hb
  obtain ⟨signature, hcreate⟩ := signedEnvelope_eq_ok he
  have henvelope := (bindEnvelope_eq_ok hbind).1
  have hembedded := b.embedded
  rw [henvelope, fromDict_createEnvelope hcreate] at hembedded
  refine ⟨(Except.ok.inj hembedded).symm, ?_⟩
  rw [henvelope]
  exact writable_createEnvelope hcreate

/-! ### What a call offers to the store -/

variable (ed25519 provider)

/-- What a call gives the store to record. -/
def offer (file : Option Bytes) : Call → Except PyError Answer
  | .append a => .ok (.attestation a)
  | .appendSigned b _ => .ok (.binding b)
  | .recordSigned e _ state authorities =>
    (bindEnvelope ed25519 e state authorities).map .binding
  | .attest r signingKeyId now => (build r now signingKeyId file).map .attestation
  | .attestSigned r key state authorities now =>
    (build r now (some key.keyId) file >>= fun a ↦
      signedBinding ed25519 provider a key state authorities).map .binding

/-- What the store does with it. -/
def commit (file : Option Bytes) : Answer → Except PyError Answer × Option Bytes
  | .attestation a => (Store.append file a).map (.map .attestation) id
  | .binding b => (Store.appendSigned file b).map (.map .binding) id

/-- What the store is given can be written. -/
def Answer.Writable : Answer → Prop
  | .attestation _ => True
  | .binding b => Json.Writable (.obj b.envelope.attestation)

/-- A call raises and leaves the file alone, or commits what it offers. -/
theorem call_eq (file : Option Bytes) (c : Call) :
    call ed25519 provider file c = match offer ed25519 provider file c with
      | .error e => (.error e, file)
      | .ok x => commit file x := by
  cases c with
  | append | appendSigned => rfl
  | recordSigned e _ state authorities =>
    rw [call, offer, recordSigned]
    cases bindEnvelope ed25519 e state authorities <;> rfl
  | attest r signingKeyId now =>
    rw [call, offer, attest]
    cases build r now signingKeyId file <;> rfl
  | attestSigned r key state authorities now =>
    rw [call, offer, attestSigned]
    cases build r now (some key.keyId) file with
    | error e => rfl
    | ok a =>
      simp only [signAndRecord, ok_bind, signedBinding]
      cases signedEnvelope ed25519 provider a key state authorities with
      | error e => rfl
      | ok e =>
        simp only [recordSigned, ok_bind]
        cases bindEnvelope ed25519 e state authorities <;> rfl

variable {ed25519 provider}

private theorem map_eq_ok {α β : Type} {f : α → β} {x : Except PyError α} {y : β} :
    x.map f = .ok y ↔ ∃ z, x = .ok z ∧ f z = y := by
  cases x with
  | error e => exact iff_of_false nofun fun ⟨z, hz, _⟩ ↦ nomatch hz
  | ok z => simp [Except.map]

theorem offer_writable {c : Call} {x : Answer} (hx : offer ed25519 provider file c = .ok x) :
    x.Writable := by
  cases c with
  | append a =>
    cases hx
    trivial
  | appendSigned b hw =>
    cases hx
    exact hw
  | recordSigned e hw state authorities =>
    obtain ⟨b, hb, rfl⟩ := map_eq_ok.mp hx
    rw [Answer.Writable, (bindEnvelope_eq_ok hb).1]
    exact hw
  | attest r signingKeyId now =>
    obtain ⟨a, -, rfl⟩ := map_eq_ok.mp hx
    trivial
  | attestSigned r key state authorities now =>
    obtain ⟨b, hb, rfl⟩ := map_eq_ok.mp hx
    obtain ⟨a, -, hb⟩ := bind_eq_ok.mp hb
    exact (signedBinding_eq_ok hb).2

theorem commit_grows (hr : Represents file h) {x : Answer} (hw : x.Writable) :
    ∃ g, Represents (commit file x).2 (h ++ g) := by
  cases x with
  | attestation a => exact append_grows hr a
  | binding b => exact appendSigned_grows hr b hw

/-- A call leaves the file alone or adds entries. -/
theorem call_grows (hr : Represents file h) (c : Call) :
    ∃ g, Represents (call ed25519 provider file c).2 (h ++ g) := by
  rw [call_eq]
  split
  · exact ⟨[], by rwa [List.append_nil]⟩
  · next x hx => exact commit_grows hr (offer_writable hx)

/-- After any calls the file holds the history it held and what was added to it. -/
theorem run_grows (hr : Represents file h) (calls : List Call) :
    ∃ g, Represents (Calls.run (call ed25519 provider) file calls) (h ++ g) := by
  induction calls generalizing file h with
  | nil => exact ⟨[], by rwa [List.append_nil]⟩
  | cons c calls ih =>
    obtain ⟨g, hg⟩ := @call_grows ed25519 provider _ _ hr c
    obtain ⟨g', hg'⟩ := ih hg
    exact ⟨g ++ g', by rwa [← List.append_assoc]⟩

/-- A store that started without a file holds a history. -/
theorem reachable_represents (calls : List Call) :
    ∃ g, Represents (Calls.run (call ed25519 provider) none calls) g :=
  run_grows represents_none calls

end StateWake.Attestation
