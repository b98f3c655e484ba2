import StateWake.Base.Calls
import StateWake.Integrations.Instrumentation

/-!
# Correlation of retrievals

The starts of retrievals are numbered, and every entry of the queue has the number of the start that
appended it. While the entry that is pushed out of the full queue is that of its span's open start,
a start is forgotten only after as many starts as the queue is long.
-/

namespace StateWake.Integrations

open StateWake.Base Text Utils Claims Lifecycle

/-! ### The queue -/

theorem get?_foldl_erase (keys : List Text) (queries : Dict Text) (k : Text) :
    (keys.foldl Dict.erase queries).get? k = if k ∈ keys then none else queries.get? k := by
  induction keys generalizing queries with
  | nil => simp
  | cons key keys ih =>
    rw [List.foldl_cons, ih, Dict.get?_erase]
    by_cases hk : k = key
    · simp [hk]
    · simp [hk]

theorem distinct_foldl_erase {queries : Dict Text} (hd : queries.Distinct) (keys : List Text) :
    (keys.foldl Dict.erase queries).Distinct := by
  induction keys generalizing queries with
  | nil => exact hd
  | cons key keys ih => exact ih (hd.erase key)

/-- A table of queries and its queue, where `queued` has the number of the start that appended each
entry and `opened` the number and the digest of each span's open start, after so many starts. -/
structure Queued (limit : Nat) (queries : Dict Text) (queued : List (Text × Nat))
    (starts : Nat) (opened : Dict (Nat × Text)) : Prop where
  increasing : (queued.map Prod.snd).Pairwise (· < ·)
  below : ∀ number ∈ queued.map Prod.snd, number < starts
  length : queued.length ≤ limit
  distinct : queries.Distinct
  mem : ∀ key d, queries.get? key = some d → key ∈ queued.map Prod.fst
  current : ∀ key d, queries.get? key = some d → ∃ i, opened.get? key = some (i, d)
  before : ∀ key i d, opened.get? key = some (i, d) → i < starts
  forgotten : ∀ key i d, opened.get? key = some (i, d) →
    queries.get? key = some d ∨ i + limit < starts

/-- The queue with the entry of a start, where the start appends one. -/
def pending (queries : Dict Text) (queued : List (Text × Nat)) (starts : Nat) (key : Text) :
    List (Text × Nat) :=
  if (queries.get? key).isNone then queued ++ [(key, starts)] else queued

namespace Queued

variable {limit : Nat} {queries : Dict Text} {queued : List (Text × Nat)} {starts : Nat}
  {opened : Dict (Nat × Text)}

theorem init : Queued limit [] [] 0 [] where
  increasing := .nil
  below := by simp
  length := Nat.zero_le _
  distinct := List.nodup_nil
  mem := by simp
  current := by simp
  before := by simp
  forgotten := by simp

/-- The table has no more entries than the queue. -/
theorem length_queries_le (hq : Queued limit queries queued starts opened) :
    queries.length ≤ limit := by
  have hsubset : queries.keys ⊆ queued.map Prod.fst := by
    intro key hkey
    obtain ⟨d, hd⟩ := Option.ne_none_iff_exists'.mp (mt Dict.get?_eq_none_iff.mp (not_not.mpr hkey))
    exact hq.mem key d hd
  have hlength := (List.subperm_of_subset hq.distinct hsubset).length_le
  rw [List.length_map, Dict.keys, List.length_map] at hlength
  exact hlength.trans hq.length

/-- A span that is not in the table has no open start. -/
theorem eraseOpened (hq : Queued limit queries queued starts opened) {key : Text}
    (hkey : queries.get? key = none) : Queued limit queries queued starts (opened.erase key) := by
  refine { hq with current := fun k d hd ↦ ?_, before := fun k i d hd ↦ ?_,
                   forgotten := fun k i d hd ↦ ?_ }
  · obtain ⟨i, hi⟩ := hq.current k d hd
    refine ⟨i, ?_⟩
    rw [Dict.get?_erase, if_neg, hi]
    intro hk
    rw [hk, hkey] at hd
    cases hd
  · rw [Dict.get?_erase] at hd
    split at hd
    · cases hd
    · exact hq.before k i d hd
  · rw [Dict.get?_erase] at hd
    split at hd
    · cases hd
    · exact hq.forgotten k i d hd

/-- An end takes its span out of the table, and leaves the queue. -/
theorem erase (hq : Queued limit queries queued starts opened) (key : Text) :
    Queued limit (queries.erase key) queued starts (opened.erase key) := by
  have hget {k d : Text} (h : (queries.erase key).get? k = some d) :
      k ≠ key ∧ queries.get? k = some d := by
    rw [Dict.get?_erase] at h
    split at h
    · cases h
    · next hk => exact ⟨hk, h⟩
  have hopened {k : Text} {p : Nat × Text} (h : (opened.erase key).get? k = some p) :
      k ≠ key ∧ opened.get? k = some p := by
    rw [Dict.get?_erase] at h
    split at h
    · cases h
    · next hk => exact ⟨hk, h⟩
  refine { hq with distinct := hq.distinct.erase key, mem := fun k d hd ↦ hq.mem k d (hget hd).2,
                   current := fun k d hd ↦ ?_,
                   before := fun k i d hd ↦ hq.before k i d (hopened hd).2,
                   forgotten := fun k i d hd ↦ ?_ }
  · obtain ⟨i, hi⟩ := hq.current k d (hget hd).2
    exact ⟨i, by rw [Dict.get?_erase, if_neg (hget hd).1, hi]⟩
  · rw [Dict.get?_erase, if_neg (hopened hd).1]
    exact hq.forgotten k i d (hopened hd).2

/-- The numbers in the queue with the entry of a start increase and are those of starts. -/
theorem pending_spec (hq : Queued limit queries queued starts opened) (key : Text) :
    ((pending queries queued starts key).map Prod.snd).Pairwise (· < ·) ∧
      (∀ number ∈ (pending queries queued starts key).map Prod.snd, number < starts + 1) ∧
      (pending queries queued starts key).length ≤ limit + 1 := by
  have hlength := hq.length
  rw [pending]
  split
  · refine ⟨?_, fun number hnumber ↦ ?_, ?_⟩
    · rw [List.map_append, List.pairwise_append]
      refine ⟨hq.increasing, List.pairwise_singleton _ _, fun a ha b hb ↦ ?_⟩
      rw [List.map_singleton, List.mem_singleton] at hb
      rw [hb]
      exact hq.below a ha
    · rw [List.map_append, List.map_singleton, List.mem_append, List.mem_singleton] at hnumber
      cases hnumber with
      | inl hold => exact (hq.below number hold).trans (Nat.lt_succ_self _)
      | inr hlast =>
        rw [hlast]
        exact Nat.lt_succ_self _
    · rw [List.length_append, List.length_singleton]
      omega
  · refine ⟨hq.increasing, fun number hnumber ↦ ?_, by omega⟩
    have hbelow := hq.below number hnumber
    omega

/-- An entry that is pushed out is followed by as many starts as the queue is long. -/
theorem add_lt_of_mem_expired (hq : Queued limit queries queued starts opened) {key : Text}
    {entry : Text × Nat}
    (hentry : entry ∈ Window.expired limit (pending queries queued starts key)) :
    entry.2 + limit < starts + 1 := by
  obtain ⟨hincreasing, hbelow, hlength⟩ := hq.pending_spec key
  have hsplit := Window.expired_append_latest limit (pending queries queued starts key)
  have hlatest : (Window.latest limit (pending queries queued starts key)).length =
      limit := by
    have hexpired := List.length_pos_of_mem hentry
    rw [Window.expired, List.length_take] at hexpired
    rw [Window.latest, List.length_drop]
    omega
  rw [← hsplit, List.map_append, List.pairwise_append] at hincreasing
  rw [← hsplit, List.map_append] at hbelow
  have hnumber := hbelow entry.2 (List.mem_append_left _ (List.mem_map_of_mem hentry))
  have hafter : ∀ number ∈ (Window.latest limit (pending queries queued starts key)).map Prod.snd,
      entry.2 + 1 ≤ number :=
    fun number hmem ↦ hincreasing.2.2 entry.2 (List.mem_map_of_mem hentry) number hmem
  have hcount := Window.length_le_of_pairwise hincreasing.2.1
    (fun number hmem ↦ hbelow number (List.mem_append_right _ hmem)) hafter
  rw [List.length_map, hlatest] at hcount
  omega

/-- A start enters its span, and what it pushes out is forgotten. -/
theorem remember (hq : Queued limit queries queued starts opened) {key : Text} (digest : Text)
    (hcurrent : ∀ entry ∈ Window.expired limit (pending queries queued starts key),
      ∀ i d, (opened.set key (starts, digest)).get? entry.1 = some (i, d) → entry.2 = i) :
    Queued limit
      (((Window.expired limit (pending queries queued starts key)).map Prod.fst).foldl
        Dict.erase (queries.set key digest))
      (Window.latest limit (pending queries queued starts key)) (starts + 1)
      (opened.set key (starts, digest)) := by
  obtain ⟨hincreasing, hbelow, hlength⟩ := hq.pending_spec key
  have hsplit := Window.expired_append_latest limit (pending queries queued starts key)
  have hget {k d : Text} (h : (((Window.expired limit
      (pending queries queued starts key)).map Prod.fst).foldl Dict.erase
        (queries.set key digest)).get? k = some d) :
      k ∉ (Window.expired limit (pending queries queued starts key)).map Prod.fst ∧
        (queries.set key digest).get? k = some d := by
    rw [get?_foldl_erase] at h
    split at h
    · cases h
    · next hk => exact ⟨hk, h⟩
  have hmem {k d : Text} (h : (queries.set key digest).get? k = some d) :
      k ∈ (pending queries queued starts key).map Prod.fst := by
    rw [Dict.get?_set] at h
    by_cases hk : k = key
    · rw [hk, pending]
      cases hqueries : queries.get? key with
      | none => simp
      | some d' =>
        rw [if_neg (by simp)]
        exact hq.mem key d' hqueries
    · rw [if_neg hk] at h
      have hold := hq.mem k d h
      rw [pending]
      split
      · rw [List.map_append]
        exact List.mem_append_left _ hold
      · exact hold
  constructor
  · exact hincreasing.sublist ((List.drop_sublist _ _).map Prod.snd)
  · intro number hnumber
    exact hbelow number (List.map_subset _ (Window.latest_subset _ _) hnumber)
  · exact Window.length_latest_le _ _
  · exact distinct_foldl_erase (hq.distinct.set key digest) _
  · intro k d hd
    obtain ⟨hk, hset⟩ := hget hd
    have hall := hmem hset
    rw [← hsplit, List.map_append, List.mem_append] at hall
    exact hall.resolve_left hk
  · intro k d hd
    have hset := (hget hd).2
    rw [Dict.get?_set] at hset ⊢
    by_cases hk : k = key
    · rw [if_pos hk] at hset ⊢
      exact ⟨starts, by rw [Option.some.inj hset]⟩
    · rw [if_neg hk] at hset ⊢
      exact hq.current k d hset
  · intro k i d hd
    rw [Dict.get?_set] at hd
    split at hd
    · cases hd
      exact Nat.lt_succ_self _
    · exact (hq.before k i d hd).trans (Nat.lt_succ_self _)
  · intro k i d hd
    by_cases hk : k ∈ (Window.expired limit (pending queries queued starts key)).map Prod.fst
    · obtain ⟨entry, hentry, rfl⟩ := List.mem_map.mp hk
      have hnumber := hcurrent entry hentry i d hd
      have hfar := hq.add_lt_of_mem_expired hentry
      rw [hnumber] at hfar
      exact .inr hfar
    · rw [get?_foldl_erase, if_neg hk]
      rw [Dict.get?_set] at hd ⊢
      by_cases hsame : k = key
      · rw [if_pos hsame] at hd ⊢
        cases hd
        exact .inl rfl
      · rw [if_neg hsame] at hd ⊢
        exact (hq.forgotten k i d hd).imp_right fun hfar ↦ hfar.trans (Nat.lt_succ_self _)

end Queued

/-! ### What an event is -/

/-- The handler's tables. -/
def EventHandler.tables {σ : Type} (h : EventHandler σ) :
    Dict Text × List Text × List Text × List Text :=
  (h.retrievalQueries, h.retrievalOrder, h.seenEventIds, h.seenOrder)

/-- The handler without the query of a span. -/
def EventHandler.forget {σ : Type} (h : EventHandler σ) (key : Text) : EventHandler σ :=
  { h with retrievalQueries := h.retrievalQueries.erase key }

namespace InstrumentationEvent

variable (event : InstrumentationEvent)

/-- The span of an event, or the event itself. -/
def key (eventId : Text) : Text := event.spanId.getD eventId

/-- The time of an event that has one. -/
def time (now : Datetime) : Option ObservedTime :=
  event.timestamp.bind fun timestamp ↦ (eventTime now timestamp).toOption

/-- Whether an event is of the start or the end of a retrieval. -/
def kind : Retrieval :=
  match event.operation with
  | .ok operation => retrievalOf operation
  | .error _ => .neither

/-- The digest that the query of a start is remembered by: it has a time and a query that can be
encoded. -/
def remembered (now : Datetime) : Option Text := do
  let _ ← event.time now
  let query ← event.query
  (digestText query).toOption

/-- Nothing keeps the end of a retrieval from taking its start: it has a time, and where it has a
query of its own, that can be encoded, having the nodes raises only what is caught, and the sink is
steady. -/
def Settled {σ : Type} (sink : Sink σ) (s : σ) (now : Datetime) : Prop :=
  (event.time now).isSome ∧ ∀ query, event.query = some query →
    (∃ queryDigest, digestText query = .ok queryDigest) ∧ Recorder.Steady sink s ∧
      ∀ nodes, event.nodes = some nodes →
        RaisesOnly (fun k ↦ isCallbackError k = true) (nodes >>= readNodes)

end InstrumentationEvent

/-! ### What an event does -/

section Effects

variable {σ : Type} {limit : Nat} (sink : Sink σ) (options : EventHandlerOptions)
  (isPrintable : Text → Bool) {h : EventHandler σ} {event : InstrumentationEvent} {now : Datetime}

theorem evidence_noting_fail (stage : Text) (exc : PyError) (h : EventHandler σ) :
    (noting (Recorder.fail sink stage exc) h).2.evidence = h.evidence :=
  Recorder.evidence_fail stage exc h.toRecorder

theorem eventRetrieval_raisesOnly {eventId queryDigest : Text} {context : Text × Text × Text}
    {nodes : Except PyError (List RetrievedNode)} {time : ObservedTime}
    (hnodes : RaisesOnly (fun k ↦ isCallbackError k = true) (nodes >>= readNodes)) :
    RaisesOnly (fun k ↦ isCallbackError k = true)
      (eventRetrieval eventId context queryDigest nodes time) := by
  have hvalid (c : RetrievalEvidenceContract) (hutc : c.capturedAt = .ofUtc time.time) :
      RaisesOnly (fun k ↦ isCallbackError k = true) c.postInit := by
    rw [RetrievalEvidenceContract.postInit, hutc]
    have hp : isCallbackError .valueError = true := rfl
    refine (requireFields_raisesOnly hp _).bind fun _ _ ↦ ?_
    refine (RaisesOnly.require hp).bind fun _ _ ↦ ?_
    refine (requireTexts_raisesOnly hp _ _).bind fun _ _ ↦ ?_
    refine (requireTexts_raisesOnly hp _ _).bind fun _ _ ↦ ?_
    refine (requireUtcDatetime_raisesOnly hp _ _).bind fun _ _ ↦ ?_
    refine (jsonMapping_raisesOnly hp _ _).bind fun _ _ ↦ ?_
    exact (jsonMapping_raisesOnly hp _ _).bind fun _ _ ↦ RaisesOnly.ok _
  cases nodes with
  | error e => exact RaisesOnly.error (hnodes e rfl)
  | ok nodes =>
    rw [ok_bind] at hnodes
    exact hnodes.bind fun read _ ↦ (hvalid _ rfl).bind fun _ _ ↦ RaisesOnly.ok _

theorem recordEnd_cases (sink : Sink σ) (options : EventHandlerOptions) (eventId : Text)
    (nodes : Option (Except PyError (List RetrievedNode))) (time : ObservedTime)
    (queryDigest : Option Text) :
    (∃ stage exc, recordEnd sink options eventId nodes time queryDigest =
      Recorder.fail sink stage exc) ∨
    ∃ context digest n, queryDigest = some digest ∧ nodes = some n ∧
      recordEnd sink options eventId nodes time queryDigest =
        Recorder.capturing sink isCallbackError (lit "llamaindex.retrieval_contract")
          (eventRetrieval eventId context digest n time) := by
  unfold recordEnd
  split
  · exact .inr ⟨_, _, _, rfl, rfl, rfl⟩
  · exact .inl ⟨_, _, rfl⟩

/-- What is recorded of a retrieval is at most its contract, with the digest it was given. -/
theorem recordEnd_spec (eventId : Text) (nodes : Option (Except PyError (List RetrievedNode)))
    (time : ObservedTime) (queryDigest : Option Text) (r : Recorder σ) :
    ∃ contracts, (recordEnd sink options eventId nodes time queryDigest r).2.evidence =
        r.evidence ++ contracts ∧ contracts.length ≤ 1 ∧
      ∀ result ∈ contracts, ∃ c, result.contract = .retrieval c ∧
        queryDigest = some c.queryDigest := by
  obtain ⟨stage, exc, hrecord⟩ | ⟨context, digest, n, rfl, rfl, hrecord⟩ :=
    recordEnd_cases sink options eventId nodes time queryDigest
  · rw [hrecord]
    exact ⟨[], by rw [Recorder.evidence_fail, List.append_nil], Nat.zero_le _, by simp⟩
  · rw [hrecord]
    obtain hsame | ⟨result, hevidence, hcontract⟩ := @Recorder.evidence_capturing σ sink
      isCallbackError (lit "llamaindex.retrieval_contract")
      (eventRetrieval eventId context digest n time) r
    · exact ⟨[], by rw [hsame, List.append_nil], Nat.zero_le _, by simp⟩
    · refine ⟨[result], hevidence, le_rfl, fun result' hmem ↦ ?_⟩
      rw [List.mem_singleton] at hmem
      simp only [eventRetrieval, bind_eq_ok] at hcontract
      obtain ⟨_, -, read, -, _, -, heq⟩ := hcontract
      rw [hmem, ← Except.ok.inj heq]
      exact ⟨_, rfl, rfl⟩

/-- Nothing escapes from the recording where having the nodes raises only what is caught and the
sink is steady. -/
theorem recordEnd_isOk {eventId : Text} {nodes : Option (Except PyError (List RetrievedNode))}
    {time : ObservedTime} {queryDigest : Option Text} {r : Recorder σ}
    (hs : Recorder.Steady sink r.sink) (hnodes : ∀ n, nodes = some n →
      RaisesOnly (fun k ↦ isCallbackError k = true) (n >>= readNodes)) :
    (recordEnd sink options eventId nodes time queryDigest r).1 = .ok () := by
  obtain ⟨stage, exc, hrecord⟩ | ⟨context, digest, n, rfl, rfl, hrecord⟩ :=
    recordEnd_cases sink options eventId nodes time queryDigest
  · rw [hrecord]
    exact (Recorder.fail_of_noted (hs.notes _ _)).1
  · rw [hrecord]
    apply Recorder.capturing_isOk hs
    · intro k hk
      rw [isCallbackError, hk]
      rfl
    · exact eventRetrieval_raisesOnly (hnodes n rfl)
    · intro c hc
      simp only [eventRetrieval, bind_eq_ok] at hc
      obtain ⟨_, -, read, -, _, hvalid, heq⟩ := hc
      rw [← Except.ok.inj heq]
      exact hvalid

theorem forget_forget (h : EventHandler σ) (key : Text) :
    (h.forget key).forget key = h.forget key := by
  rw [EventHandler.forget, EventHandler.forget, Dict.erase, Dict.erase, List.filter_filter]
  simp

theorem noting_apply (m : Attempt (Recorder σ) Unit) (h : EventHandler σ) :
    noting m h = ((m h.toRecorder).1, { h with toRecorder := (m h.toRecorder).2 }) := rfl

/-- What is recorded, after which the span is forgotten. -/
theorem record_forget_spec (m : Attempt (Recorder σ) Unit) (key : Text) (h : EventHandler σ) :
    let done := (noting m >>= fun _ ↦ Attempt.modify fun h ↦ h.forget key) h
    done.2.evidence = (m h.toRecorder).2.evidence ∧
      (done.2.tables = (h.forget key).tables ∨
        done.2.tables = h.tables ∧ ∃ e, (m h.toRecorder).1 = .error e) := by
  have happly := noting_apply m h
  cases hrun : m h.toRecorder with
  | mk outcome r =>
    rw [hrun] at happly
    cases outcome with
    | ok u =>
      rw [Attempt.bind_of_ok happly]
      exact ⟨rfl, .inl rfl⟩
    | error e =>
      rw [Attempt.bind_of_error happly]
      exact ⟨rfl, .inr ⟨rfl, e, rfl⟩⟩

/-- The end of a retrieval takes its start, or something escapes before it does. Its contract has
the digest of its own query or that of the start. -/
theorem retrievalEnd_spec (eventId key : Text) (time : ObservedTime) (h : EventHandler σ) :
    ∃ contracts,
      (retrievalEnd sink options eventId key event time h).2.evidence =
        h.evidence ++ contracts ∧ contracts.length ≤ 1 ∧
      (∀ result ∈ contracts, ∃ c, result.contract = .retrieval c ∧
        match event.query with
        | some query => digestText query = .ok c.queryDigest
        | none => h.retrievalQueries.get? key = some c.queryDigest) ∧
      ((retrievalEnd sink options eventId key event time h).2.tables = (h.forget key).tables ∨
        (retrievalEnd sink options eventId key event time h).2.tables = h.tables ∧
          ((event.time now).isSome → ¬event.Settled sink h.sink now)) := by
  rw [retrievalEnd]
  cases hquery : event.query with
  | none =>
    have hended : endedQuery key none h = (.ok (h.retrievalQueries.get? key), h.forget key) := rfl
    rw [Attempt.bind_of_ok hended]
    obtain ⟨contracts, hcontracts, hone, hdigest⟩ := recordEnd_spec sink options
      eventId event.nodes time (h.retrievalQueries.get? key)
      (h.forget key).toRecorder
    obtain ⟨hevidence, htables⟩ := record_forget_spec (recordEnd sink options eventId event.nodes
      time (h.retrievalQueries.get? key)) key (h.forget key)
    refine ⟨contracts, hevidence.trans hcontracts, hone, hdigest, .inl ?_⟩
    cases htables with
    | inl hforgot => exact hforgot.trans (by rw [forget_forget])
    | inr hsame => exact hsame.1
  | some query =>
    cases hdigest : digestText query with
    | error e =>
      have hended : endedQuery key (some query) h = (.error e, h) := by
        rw [endedQuery, hdigest]
        rfl
      rw [Attempt.bind_of_error hended]
      refine ⟨[], (List.append_nil _).symm, Nat.zero_le _, by simp, .inr ⟨rfl, fun _ hsettled ↦ ?_⟩⟩
      obtain ⟨⟨d, hd⟩, -⟩ := hsettled.2 query hquery
      rw [hdigest] at hd
      cases hd
    | ok digest =>
      have hended : endedQuery key (some query) h = (.ok (some digest), h) := by
        rw [endedQuery, hdigest]
        rfl
      rw [Attempt.bind_of_ok hended]
      obtain ⟨contracts, hcontracts, hone, hcarried⟩ := recordEnd_spec sink options
        eventId event.nodes time (some digest) h.toRecorder
      obtain ⟨hevidence, htables⟩ := record_forget_spec (recordEnd sink options eventId event.nodes
        time (some digest)) key h
      refine ⟨contracts, hevidence.trans hcontracts, hone, fun result hmem ↦ ?_, ?_⟩
      · obtain ⟨c, hc, heq⟩ := hcarried result hmem
        exact ⟨c, hc, hdigest.trans (congrArg _ (Option.some.inj heq))⟩
      · refine htables.imp_right fun ⟨hsame, e, he⟩ ↦ ⟨hsame, fun _ hsettled ↦ ?_⟩
        obtain ⟨-, hsteady, hnodes⟩ := hsettled.2 query hquery
        rw [recordEnd_isOk sink options hsteady hnodes] at he
        cases he

/-- What is done about the retrieval of an event with a time. -/
theorem retrieve_spec {operation : Text} (hoperation : event.operation = .ok operation)
    {time : ObservedTime} (htime : event.time now = some time) (eventId key : Text)
    (h : EventHandler σ) :
    ∃ contracts,
      (retrieve limit sink options eventId key operation event time h).2.evidence =
        h.evidence ++ contracts ∧ contracts.length ≤ 1 ∧
      (∀ result ∈ contracts, ∃ c, result.contract = .retrieval c ∧
        match event.query with
        | some query => digestText query = .ok c.queryDigest
        | none => h.retrievalQueries.get? key = some c.queryDigest) ∧
      match event.kind with
      | .start => (retrieve limit sink options eventId key operation event time h).2.tables =
          ((event.remembered now).elim h fun digest ↦ h.rememberQuery limit key digest).tables
      | .finish =>
        (retrieve limit sink options eventId key operation event time h).2.tables =
            (h.forget key).tables ∨
          (retrieve limit sink options eventId key operation event time h).2.tables = h.tables ∧
            ¬event.Settled sink h.sink now
      | .neither =>
        (retrieve limit sink options eventId key operation event time h).2.tables = h.tables := by
  have hkind : event.kind = retrievalOf operation := by
    rw [InstrumentationEvent.kind, hoperation]
  rw [retrieve, hkind]
  cases retrievalOf operation with
  | start =>
    have hremembered : event.remembered now =
        event.query.bind fun query ↦ (digestText query).toOption := by
      rw [InstrumentationEvent.remembered, htime]
      rfl
    rw [hremembered]
    cases event.query with
    | none =>
      refine ⟨[], ?_, Nat.zero_le _, by simp, rfl⟩
      rw [List.append_nil]
      exact evidence_noting_fail sink _ _ h
    | some query =>
      refine ⟨[], ?_, Nat.zero_le _, by simp, ?_⟩
      · rw [List.append_nil]
        dsimp only [retrievalStart]
        cases digestText query <;> rfl
      · dsimp only [retrievalStart, Option.bind]
        cases digestText query <;> rfl
  | finish =>
    obtain ⟨contracts, hevidence, hone, hdigest, htables⟩ := @retrievalEnd_spec σ sink options event
      now eventId key time h
    refine ⟨contracts, hevidence, hone, hdigest, htables.imp_right fun ⟨hsame, hsettled⟩ ↦
      ⟨hsame, ?_⟩⟩
    exact hsettled (by rw [htime]; rfl)
  | neither => exact ⟨[], (List.append_nil _).symm, Nat.zero_le _, by simp, rfl⟩

/-- A new event without an operation or a time changes nothing but the sink's notes. -/
theorem handleNew_refused (hrefused : (∃ e, event.operation = .error e) ∨ event.time now = none)
    (eventId : Text) (h : EventHandler σ) :
    (handleNew limit sink options isPrintable eventId event now h).2.evidence = h.evidence ∧
      (handleNew limit sink options isPrintable eventId event now h).2.tables = h.tables := by
  cases hoperation : event.operation with
  | error e =>
    rw [handleNew, hoperation]
    exact ⟨rfl, rfl⟩
  | ok operation =>
    have htime : event.time now = none := hrefused.resolve_left fun ⟨e, he⟩ ↦ by
      rw [hoperation] at he
      cases he
    rw [handleNew, hoperation, Attempt.lift_ok_bind]
    rw [InstrumentationEvent.time] at htime
    cases htimestamp : event.timestamp with
    | none => exact ⟨evidence_noting_fail sink _ _ h, rfl⟩
    | some timestamp =>
      rw [htimestamp] at htime
      cases hread : eventTime now timestamp with
      | ok time =>
        rw [Option.bind_some, hread] at htime
        cases htime
      | error e =>
        dsimp only
        rw [hread]
        dsimp only
        split
        · exact ⟨evidence_noting_fail sink _ _ h, rfl⟩
        · exact ⟨rfl, rfl⟩

/-- A new event with both is observed, after what is done about its retrieval. -/
theorem handleNew_of_time {operation : Text} (hoperation : event.operation = .ok operation)
    {time : ObservedTime} (htime : event.time now = some time) (eventId : Text)
    (h : EventHandler σ) :
    let retrieved :=
      (retrieve limit sink options eventId (event.key eventId) operation event time h).2
    (handleNew limit sink options isPrintable eventId event now h).2.tables = retrieved.tables ∧
      ∃ observations, (handleNew limit sink options isPrintable eventId event now h).2.evidence =
          retrieved.evidence ++ observations ∧ observations.length ≤ 1 ∧
        ∀ result ∈ observations, ∃ c, result.contract = .observation c ∧ c.runId = eventId := by
  rw [InstrumentationEvent.time, Option.bind_eq_some_iff] at htime
  obtain ⟨timestamp, htimestamp, htime⟩ := htime
  have hread : eventTime now timestamp = .ok time := by
    cases heq : eventTime now timestamp with
    | error e =>
      rw [heq] at htime
      cases htime
    | ok time' =>
      rw [heq] at htime
      cases htime
      rfl
  rw [handleNew, hoperation, Attempt.lift_ok_bind, htimestamp]
  dsimp only
  rw [hread]
  dsimp only
  rw [← InstrumentationEvent.key]
  cases hrun : retrieve limit sink options eventId (event.key eventId) operation event time h with
  | mk outcome h' =>
    cases outcome with
    | error e =>
      rw [Attempt.bind_of_error hrun]
      exact ⟨rfl, [], (List.append_nil _).symm, Nat.zero_le _, by simp⟩
    | ok u =>
      rw [Attempt.bind_of_ok hrun, noting_apply]
      refine ⟨rfl, ?_⟩
      obtain ⟨e, -, hsame⟩ | ⟨-, result, hevidence, hcontract⟩ := @Recorder.capture_spec
        σ sink (eventObservation isPrintable eventId (event.key eventId) operation time)
        h'.toRecorder
      · exact ⟨[], by rw [hsame, List.append_nil], Nat.zero_le _, by simp⟩
      · refine ⟨[result], hevidence, le_rfl, fun result' hmem ↦ ?_⟩
        rw [List.mem_singleton] at hmem
        simp only [eventObservation, bind_eq_ok] at hcontract
        obtain ⟨_, -, heq⟩ := hcontract
        rw [hmem, ← Except.ok.inj heq]
        exact ⟨_, rfl, rfl⟩

/-- What the tables are after a new event. -/
def Moved (limit : Nat) (sink : Sink σ) (event : InstrumentationEvent) (now : Datetime) (key : Text)
    (h h' : EventHandler σ) : Prop :=
  match event.kind with
  | .start =>
    h'.tables = ((event.remembered now).elim h fun digest ↦ h.rememberQuery limit key digest).tables
  | .finish =>
    h'.tables = (h.forget key).tables ∨ h'.tables = h.tables ∧ ¬event.Settled sink h.sink now
  | .neither => h'.tables = h.tables

/-- What a new event records: at most its retrieval, with the digest of its own query or that of its
span, and at most its observation. -/
structure Records (event : InstrumentationEvent) (eventId : Text) (h h' : EventHandler σ)
    (contracts observations : List ContractCaptureResult) : Prop where
  evidence : h'.evidence = h.evidence ++ (contracts ++ observations)
  retrieval : contracts.length ≤ 1
  observation : observations.length ≤ 1
  digests : ∀ result ∈ contracts, ∃ c, result.contract = .retrieval c ∧
    match event.query with
    | some query => digestText query = .ok c.queryDigest
    | none => h.retrievalQueries.get? (event.key eventId) = some c.queryDigest
  runs : ∀ result ∈ observations, ∃ c, result.contract = .observation c ∧ c.runId = eventId

/-- A new event records at most a retrieval and an observation of it, and moves the tables. -/
theorem handleNew_spec (event : InstrumentationEvent) (now : Datetime) (eventId : Text)
    (h : EventHandler σ) :
    let h' := (handleNew limit sink options isPrintable eventId event now h).2
    Moved limit sink event now (event.key eventId) h h' ∧
      ∃ contracts observations, Records event eventId h h' contracts observations := by
  have hrefused (hr : (∃ e, event.operation = .error e) ∨ event.time now = none)
      (hmoved : Moved limit sink event now (event.key eventId) h h) :
      let h' := (handleNew limit sink options isPrintable eventId event now h).2
      Moved limit sink event now (event.key eventId) h h' ∧
        ∃ contracts observations, Records event eventId h h' contracts observations := by
    obtain ⟨hevidence, htables⟩ := handleNew_refused sink options isPrintable hr
      eventId h
    refine ⟨?_, [], [], ?_, Nat.zero_le _, Nat.zero_le _, by simp, by simp⟩
    · rw [Moved, htables]
      exact hmoved
    · rw [List.append_nil, List.append_nil]
      exact hevidence
  cases hoperation : event.operation with
  | error e =>
    refine hrefused (.inl ⟨e, hoperation⟩) ?_
    rw [Moved, InstrumentationEvent.kind, hoperation]
  | ok operation =>
    cases htime : event.time now with
    | none =>
      refine hrefused (.inr htime) ?_
      have hremembered : event.remembered now = none := by
        rw [InstrumentationEvent.remembered, htime]
        rfl
      rw [Moved]
      cases event.kind with
      | start => exact congrArg EventHandler.tables (by rw [hremembered]; rfl)
      | finish => exact .inr ⟨rfl, fun hsettled ↦ by
          rw [InstrumentationEvent.Settled, htime] at hsettled
          cases hsettled.1⟩
      | neither => rfl
    | some time =>
      obtain ⟨contracts, hevidence, hone, hdigest, hmoved⟩ := retrieve_spec sink options
        hoperation htime eventId (event.key eventId) h
      obtain ⟨htables, observations, hobserved, hobservation, hrun⟩ := handleNew_of_time
        sink options isPrintable hoperation htime eventId h
      refine ⟨?_, contracts, observations, ?_, hone, hobservation, hdigest, hrun⟩
      · rw [Moved, htables]
        exact hmoved
      · rw [hobserved, hevidence, List.append_assoc]

/-- Noting what is raised changes neither the tables nor what is recorded. -/
theorem catching_noting (caught : ErrorKind → Bool) (m : Attempt (EventHandler σ) Unit)
    (stage : Text) (h : EventHandler σ) :
    let done := Attempt.catching caught m (fun exc ↦ noting (Recorder.fail sink stage exc)) h
    done.2.tables = (m h).2.tables ∧ done.2.evidence = (m h).2.evidence := by
  cases hrun : m h with
  | mk outcome h' =>
    cases outcome with
    | ok u =>
      rw [Attempt.catching_of_ok hrun]
      exact ⟨rfl, rfl⟩
    | error e =>
      cases hcaught : caught e.kind with
      | true =>
        rw [Attempt.catching_of_caught hrun hcaught]
        exact ⟨rfl, evidence_noting_fail sink _ _ h'⟩
      | false =>
        rw [Attempt.catching_of_escaped hrun hcaught]
        exact ⟨rfl, rfl⟩

/-- An event without an identity, or with one that was seen, changes nothing but notes. -/
theorem handleEvent_of_old (now : Datetime) (hold : ∀ eventId, event.id = some eventId →
      (h.firstEvent limit eventId).1 = false) :
    (handleEvent limit sink options isPrintable event now h).2.evidence = h.evidence ∧
      (handleEvent limit sink options isPrintable event now h).2.tables = h.tables := by
  rw [handleEvent]
  cases hid : event.id with
  | none =>
    obtain ⟨htables, hevidence⟩ := catching_noting sink isCallbackError
      (Attempt.lift (.error ⟨.valueError, lit "LlamaIndex event has no native identity"⟩))
      (lit "llamaindex.event") h
    exact ⟨hevidence, htables⟩
  | some eventId =>
    have hfirst := hold eventId hid
    have hsame : (h.firstEvent limit eventId).2 = h := by
      rw [EventHandler.firstEvent] at hfirst ⊢
      split at hfirst
      · next hseen => rw [if_pos hseen]
      · cases hfirst
    obtain ⟨htables, hevidence⟩ := catching_noting sink isCallbackError (do
      let h ← Attempt.get
      Attempt.modify fun h ↦ (h.firstEvent limit eventId).2
      if (h.firstEvent limit eventId).1 then
        handleNew limit sink options isPrintable eventId event now
      else pure ()) (lit "llamaindex.event") h
    rw [Attempt.get_bind, Attempt.modify_bind, hfirst, hsame] at htables hevidence
    exact ⟨hevidence, htables⟩

/-- A new event is handled after its identity is entered. -/
theorem handleEvent_of_new (now : Datetime) {eventId : Text} (hid : event.id = some eventId)
    (hnew : (h.firstEvent limit eventId).1 = true) :
    let h' := (handleEvent limit sink options isPrintable event now h).2
    Moved limit sink event now (event.key eventId) (h.firstEvent limit eventId).2 h' ∧
      ∃ contracts observations,
        Records event eventId (h.firstEvent limit eventId).2 h' contracts observations := by
  obtain ⟨htables, hevidence⟩ := catching_noting sink isCallbackError (do
    let h ← Attempt.get
    Attempt.modify fun h ↦ (h.firstEvent limit eventId).2
    if (h.firstEvent limit eventId).1 then
      handleNew limit sink options isPrintable eventId event now
    else pure ()) (lit "llamaindex.event") h
  rw [Attempt.get_bind, Attempt.modify_bind, hnew, if_pos rfl] at htables hevidence
  obtain ⟨hmoved, contracts, observations, hrecords⟩ := handleNew_spec sink options
    isPrintable event now eventId
    (h.firstEvent limit eventId).2
  rw [handleEvent, hid]
  refine ⟨?_, contracts, observations, { hrecords with evidence := ?_ }⟩
  · rw [Moved] at hmoved ⊢
    rw [← htables] at hmoved
    exact hmoved
  · rw [← hrecords.evidence]
    exact hevidence

end Effects

/-! ### Runs -/

/-- A handler, the identities that were new to it, how many starts were remembered, the number of
the start behind each entry of its queue, and the number and the digest of each span's open start. -/
structure Tracked (σ : Type) where
  handler : EventHandler σ
  fresh : List Text
  starts : Nat
  queued : List (Text × Nat)
  opened : Dict (Nat × Text)

namespace Tracked

variable {σ : Type}

/-- A handler that was told nothing. -/
def init (s : σ) : Tracked σ := ⟨.init s, [], 0, [], []⟩

/-- The queue with the entry of a start of a span. -/
def pending (t : Tracked σ) (key : Text) : List (Text × Nat) :=
  Integrations.pending t.handler.retrievalQueries t.queued t.starts key

/-- What is known after a new event that left a handler. A start without a digest leaves none to
correlate with, and any end closes its span. -/
def next (limit : Nat) (t : Tracked σ) (event : InstrumentationEvent) (now : Datetime)
    (eventId : Text) (handler : EventHandler σ) : Tracked σ :=
  let key := event.key eventId
  let fresh := t.fresh ++ [eventId]
  match event.kind, event.remembered now with
  | .start, some digest => ⟨handler, fresh, t.starts + 1, Window.latest limit (t.pending key),
      t.opened.set key (t.starts, digest)⟩
  | .start, none => ⟨handler, fresh, t.starts, t.queued, t.opened.erase key⟩
  | .finish, _ => ⟨handler, fresh, t.starts, t.queued, t.opened.erase key⟩
  | .neither, _ => ⟨handler, fresh, t.starts, t.queued, t.opened⟩

theorem handler_next (limit : Nat) (t : Tracked σ) (event : InstrumentationEvent) (now : Datetime)
    (eventId : Text) (h : EventHandler σ) : (t.next limit event now eventId h).handler = h := by
  rw [next]
  split <;> rfl

theorem fresh_next (limit : Nat) (t : Tracked σ) (event : InstrumentationEvent) (now : Datetime)
    (eventId : Text) (h : EventHandler σ) :
    (t.next limit event now eventId h).fresh = t.fresh ++ [eventId] := by
  rw [next]
  split <;> rfl

end Tracked

/-- How many observations of an event there are. -/
def countObserved (eventId : Text) (evidence : List ContractCaptureResult) : Nat :=
  evidence.countP fun result ↦
    match result.contract with
    | .observation c => decide (c.runId = eventId)
    | _ => false

section Runs

variable {σ : Type} (limit : Nat) (sink : Sink σ) (options : EventHandlerOptions)
  (isPrintable : Text → Bool)

/-- What an event, handled at a time, makes of a handler and of what is known. -/
def watch (t : Tracked σ) (e : InstrumentationEvent × Datetime) :
    Except PyError Unit × Tracked σ :=
  let (outcome, handler) := handleEvent limit sink options isPrintable e.1 e.2 t.handler
  (outcome, match e.1.id with
    | some eventId =>
      if (t.handler.firstEvent limit eventId).1 then t.next limit e.1 e.2 eventId handler
      else { t with handler }
    | none => { t with handler })

/-- A new event leaves the correlation of others alone. What a start pushes out of the queue is the
entry of its span's open start, or of a span without one. A start that is not remembered, and an end
that something keeps from taking its start, are of a span that is not in the table. -/
def Undisturbed (t : Tracked σ) (e : InstrumentationEvent × Datetime) : Prop :=
  ∀ eventId, e.1.id = some eventId → (t.handler.firstEvent limit eventId).1 = true →
    let key := e.1.key eventId
    match e.1.kind, e.1.remembered e.2 with
    | .start, some digest => ∀ entry ∈ Window.expired limit (t.pending key), ∀ i d,
        (t.opened.set key (t.starts, digest)).get? entry.1 = some (i, d) → entry.2 = i
    | .start, none => t.handler.retrievalQueries.get? key = none
    | .finish, _ =>
      t.handler.retrievalQueries.get? key = none ∨ e.1.Settled sink t.handler.sink e.2
    | .neither, _ => True

/-- What an event may do. -/
structure Correlates (event : InstrumentationEvent) (t t' : Tracked σ) : Prop where
  /-- At most one retrieval is recorded, with the digest of the end's own query or that of its
  span's open start, and at most one observation, of an event that is new. -/
  recorded : ∃ contracts observations,
    t'.handler.evidence = t.handler.evidence ++ (contracts ++ observations) ∧
      contracts.length ≤ 1 ∧ observations.length ≤ 1 ∧
      (∀ result ∈ contracts, ∃ c, result.contract = .retrieval c ∧
        match event.query with
        | some query => digestText query = .ok c.queryDigest
        | none => ∃ eventId i, event.id = some eventId ∧
            t.opened.get? (event.key eventId) = some (i, c.queryDigest)) ∧
      ∀ result ∈ observations, ∃ c, result.contract = .observation c ∧
        event.id = some c.runId ∧ t'.fresh = t.fresh ++ [c.runId]
  /-- An open start is in the table, or as many starts as the limit came after it. -/
  forgotten : ∀ key i d, t'.opened.get? key = some (i, d) →
    t'.handler.retrievalQueries.get? key = some d ∨ i + limit < t'.starts
  /-- An event is observed once for each time it was new, and between two such times as many others
  were new as the limit. -/
  once : ∀ eventId, countObserved eventId t'.handler.evidence ≤ t'.fresh.count eventId
  spaced : Window.Spaced limit t'.fresh
  /-- The buffers stay within the limit. -/
  bounded : t'.handler.retrievalQueries.length ≤ limit ∧
    t'.handler.retrievalOrder.length ≤ limit ∧
    t'.handler.seenEventIds.length ≤ limit ∧ t'.handler.seenOrder.length ≤ limit

/-- What holds of a handler and of what is known in every state. -/
structure Tracks (t : Tracked σ) : Prop where
  order : t.handler.retrievalOrder = t.queued.map Prod.fst
  queued : Queued limit t.handler.retrievalQueries t.queued t.starts t.opened
  seenOrder : t.handler.seenOrder = Window.latest limit t.fresh
  seenEventIds : t.handler.seenEventIds = t.handler.seenOrder
  spaced : Window.Spaced limit t.fresh
  once : ∀ eventId, countObserved eventId t.handler.evidence ≤ t.fresh.count eventId

theorem tracks_init (s : σ) : Tracks limit (.init s) where
  order := rfl
  queued := .init
  seenOrder := (Window.latest_of_le (Nat.zero_le _)).symm
  seenEventIds := rfl
  spaced := Window.spaced_nil _
  once _ := Nat.zero_le _

variable {limit sink options isPrintable} {t : Tracked σ} {event : InstrumentationEvent}
  {now : Datetime}

theorem foldl_erase_append (items more : List Text) :
    items.foldl List.erase (items ++ more) = more := by
  induction items with
  | nil => rfl
  | cons item items ih => rw [List.foldl_cons, List.cons_append, List.erase_cons_head, ih]

/-- The tables after an identity that was new. -/
theorem tables_firstEvent (ht : Tracks limit t) {eventId : Text}
    (hnew : (t.handler.firstEvent limit eventId).1 = true) :
    eventId ∉ Window.latest limit t.fresh ∧
      (t.handler.firstEvent limit eventId).2.tables =
        (t.handler.retrievalQueries, t.handler.retrievalOrder,
          Window.latest limit (t.fresh ++ [eventId]),
          Window.latest limit (t.fresh ++ [eventId])) := by
  rw [EventHandler.firstEvent, ht.seenEventIds, ht.seenOrder] at hnew ⊢
  by_cases hseen : (Window.latest limit t.fresh).contains eventId = true
  · rw [if_pos hseen] at hnew
    cases hnew
  · have hsplit := Window.expired_append_latest limit (Window.latest limit t.fresh ++ [eventId])
    have herased := foldl_erase_append
      (Window.expired limit (Window.latest limit t.fresh ++ [eventId]))
      (Window.latest limit (Window.latest limit t.fresh ++ [eventId]))
    rw [hsplit] at herased
    rw [if_neg hseen, EventHandler.tables, Window.trim_eq, herased, Window.latest_append_singleton]
    exact ⟨fun hmem ↦ hseen (List.contains_iff_mem.mpr hmem), rfl⟩

/-- The tables after a start that is remembered. -/
theorem tables_rememberQuery (limit : Nat) (h : EventHandler σ) {queued : List (Text × Nat)}
    (horder : h.retrievalOrder = queued.map Prod.fst) (key digest : Text) (starts : Nat) :
    (h.rememberQuery limit key digest).tables =
      (((Window.expired limit (pending h.retrievalQueries queued starts key)).map
          Prod.fst).foldl Dict.erase (h.retrievalQueries.set key digest),
        (Window.latest limit (pending h.retrievalQueries queued starts key)).map Prod.fst,
        h.seenEventIds, h.seenOrder) := by
  have hpending : (pending h.retrievalQueries queued starts key).map Prod.fst =
      if (h.retrievalQueries.get? key).isNone then h.retrievalOrder ++ [key]
      else h.retrievalOrder := by
    rw [pending, horder]
    split
    · rw [List.map_append, List.map_singleton]
    · rfl
  rw [Window.map_expired, Window.map_latest, hpending, EventHandler.rememberQuery,
    EventHandler.tables, Window.trim_eq]

theorem Tracks.bounded (ht : Tracks limit t) : t.handler.retrievalQueries.length ≤ limit ∧
    t.handler.retrievalOrder.length ≤ limit ∧
    t.handler.seenEventIds.length ≤ limit ∧ t.handler.seenOrder.length ≤ limit := by
  have hseen : t.handler.seenOrder.length ≤ limit := by
    rw [ht.seenOrder]
    exact Window.length_latest_le _ _
  refine ⟨ht.queued.length_queries_le, ?_, ?_, hseen⟩
  · rw [ht.order, List.length_map]
    exact ht.queued.length
  · rw [ht.seenEventIds]
    exact hseen

/-- What is known is right where the tables are what it says and the counts agree. -/
theorem tracks_of_tables {h : EventHandler σ} {fresh : List Text} {starts : Nat}
    {queued : List (Text × Nat)} {opened : Dict (Nat × Text)} {queries : Dict Text}
    (htables : h.tables =
      (queries, queued.map Prod.fst, Window.latest limit fresh, Window.latest limit fresh))
    (hqueued : Queued limit queries queued starts opened) (hspaced : Window.Spaced limit fresh)
    (honce : ∀ eventId, countObserved eventId h.evidence ≤ fresh.count eventId) :
    Tracks limit ⟨h, fresh, starts, queued, opened⟩ := by
  simp only [EventHandler.tables, Prod.mk.injEq] at htables
  obtain ⟨hqueries, horder, hids, hseen⟩ := htables
  exact ⟨horder, hqueries ▸ hqueued, hseen, hids.trans hseen.symm, hspaced, honce⟩

theorem Tracks.tables (ht : Tracks limit t) : t.handler.tables =
    (t.handler.retrievalQueries, t.queued.map Prod.fst, Window.latest limit t.fresh,
      Window.latest limit t.fresh) := by
  rw [EventHandler.tables, ht.order, ht.seenEventIds, ht.seenOrder]

/-- What a new event records is counted once. -/
theorem Records.once {eventId : Text} {h h' : EventHandler σ}
    {contracts observations : List ContractCaptureResult}
    (hr : Records event eventId h h' contracts observations) {fresh : List Text}
    (honce : ∀ id, countObserved id h.evidence ≤ fresh.count id) (id : Text) :
    countObserved id h'.evidence ≤ (fresh ++ [eventId]).count id := by
  have hcontracts : countObserved id contracts = 0 := by
    rw [countObserved, List.countP_eq_zero]
    intro result hmem
    obtain ⟨c, hc, -⟩ := hr.digests result hmem
    rw [hc]
    exact Bool.false_ne_true
  have hobservations : countObserved id observations ≤ [eventId].count id := by
    cases observations with
    | nil => exact Nat.zero_le _
    | cons result rest =>
      have hrest : rest = [] := List.eq_nil_of_length_eq_zero (by
        have hone := hr.observation
        rw [List.length_cons] at hone
        omega)
      obtain ⟨c, hc, hrun⟩ := hr.runs result List.mem_cons_self
      rw [hrest, countObserved, List.countP_singleton, List.count_singleton, hc, ← hrun]
      simp
  have hold := honce id
  rw [countObserved] at hcontracts hobservations hold ⊢
  rw [hr.evidence, List.countP_append, List.countP_append, List.count_append, hcontracts]
  omega

/-- In a state where what is known is right, what an event records is of its open start. -/
theorem correlates_of_records {eventId : Text} {h : EventHandler σ} {t' : Tracked σ}
    (ht : Tracks limit t) (ht' : Tracks limit t') (hid : event.id = some eventId)
    (hevidence : h.evidence = t.handler.evidence)
    (hqueries : h.retrievalQueries = t.handler.retrievalQueries)
    (hfresh : t'.fresh = t.fresh ++ [eventId]) {contracts observations}
    (hr : Records event eventId h t'.handler contracts observations) :
    Correlates limit event t t' := by
  refine ⟨⟨contracts, observations, ?_, hr.retrieval, hr.observation, fun result hmem ↦ ?_,
    fun result hmem ↦ ?_⟩, ht'.queued.forgotten, ht'.once, ht'.spaced, ht'.bounded⟩
  · rw [hr.evidence, hevidence]
  · obtain ⟨c, hc, hdigest⟩ := hr.digests result hmem
    refine ⟨c, hc, ?_⟩
    cases hquery : event.query with
    | some query =>
      rw [hquery] at hdigest
      exact hdigest
    | none =>
      rw [hquery, hqueries] at hdigest
      obtain ⟨i, hi⟩ := ht.queued.current _ _ hdigest
      exact ⟨eventId, i, hid, hi⟩
  · obtain ⟨c, hc, hrun⟩ := hr.runs result hmem
    exact ⟨c, hc, by rw [hrun, hid], by rw [hrun, hfresh]⟩

/-- What is known stays right over a new event that leaves the correlation of others alone. -/
theorem tracks_next (ht : Tracks limit t) {eventId : Text} (hid : event.id = some eventId)
    (hnew : (t.handler.firstEvent limit eventId).1 = true)
    (hu : Undisturbed limit sink t (event, now)) {h : EventHandler σ}
    (hmoved : Moved limit sink event now (event.key eventId)
      (t.handler.firstEvent limit eventId).2 h) {contracts observations}
    (hr : Records event eventId (t.handler.firstEvent limit eventId).2 h contracts observations) :
    Tracks limit (t.next limit event now eventId h) := by
  obtain ⟨hfar, htables⟩ := tables_firstEvent ht hnew
  have hspaced := ht.spaced.append_singleton hfar
  have hevidence : (t.handler.firstEvent limit eventId).2.evidence = t.handler.evidence := by
    rw [EventHandler.firstEvent]
    split <;> rfl
  have hsink : (t.handler.firstEvent limit eventId).2.sink = t.handler.sink := by
    rw [EventHandler.firstEvent]
    split <;> rfl
  have honce := hr.once fun id ↦ (hevidence ▸ ht.once id : countObserved id
    (t.handler.firstEvent limit eventId).2.evidence ≤ t.fresh.count id)
  have hcondition := hu eventId hid hnew
  rw [Moved, hsink] at hmoved
  generalize (t.handler.firstEvent limit eventId).2 = h₁ at hmoved htables
  simp only [EventHandler.tables, Prod.mk.injEq] at htables
  obtain ⟨hqueries, horder, hids, hseen⟩ := htables
  have hsame : h₁.tables = (t.handler.retrievalQueries, t.queued.map Prod.fst,
      Window.latest limit (t.fresh ++ [eventId]), Window.latest limit (t.fresh ++ [eventId])) := by
    rw [EventHandler.tables, hqueries, horder, hids, hseen, ht.order]
  have hforgot : (h₁.forget (event.key eventId)).tables =
      (t.handler.retrievalQueries.erase (event.key eventId), t.queued.map Prod.fst,
        Window.latest limit (t.fresh ++ [eventId]),
        Window.latest limit (t.fresh ++ [eventId])) := by
    rw [EventHandler.tables, EventHandler.forget, hqueries, horder, hids, hseen, ht.order]
  rw [Tracked.next]
  cases hkind : event.kind with
  | start =>
    rw [hkind] at hmoved hcondition
    cases hremembered : event.remembered now with
    | none =>
      rw [hremembered] at hmoved hcondition
      exact tracks_of_tables (hmoved.trans hsame) (ht.queued.eraseOpened hcondition) hspaced honce
    | some digest =>
      rw [hremembered] at hmoved hcondition
      have htables := tables_rememberQuery limit h₁ (horder.trans ht.order) (event.key eventId)
        digest t.starts
      rw [hqueries, hids, hseen] at htables
      exact tracks_of_tables (hmoved.trans htables) (ht.queued.remember digest hcondition) hspaced
        honce
  | finish =>
    rw [hkind] at hmoved hcondition
    cases hmoved with
    | inl htaken => exact tracks_of_tables (htaken.trans hforgot) (ht.queued.erase _) hspaced honce
    | inr hleft =>
      have habsent := hcondition.resolve_right hleft.2
      exact tracks_of_tables (hleft.1.trans hsame) (ht.queued.eraseOpened habsent) hspaced honce
  | neither =>
    rw [hkind] at hmoved
    exact tracks_of_tables (hmoved.trans hsame) ht.queued hspaced honce

/-- An event that leaves the correlation of others alone does what it may, and what is known stays
right. -/
theorem tracks_watch (ht : Tracks limit t) (hu : Undisturbed limit sink t (event, now)) :
    Correlates limit event t (watch limit sink options isPrintable t (event, now)).2 ∧
      Tracks limit (watch limit sink options isPrintable t (event, now)).2 := by
  have hold (hseen : ∀ eventId, event.id = some eventId →
        (t.handler.firstEvent limit eventId).1 = false) {t' : Tracked σ}
      (ht' : t' = { t with
        handler := (handleEvent limit sink options isPrintable event now t.handler).2 }) :
      Correlates limit event t t' ∧ Tracks limit t' := by
    obtain ⟨hevidence, htables⟩ := handleEvent_of_old sink options isPrintable now
      hseen
    have hkept : Tracks limit t' := by
      rw [ht']
      refine tracks_of_tables (htables.trans ht.tables) ht.queued ht.spaced fun id ↦ ?_
      rw [hevidence]
      exact ht.once id
    refine ⟨⟨⟨[], [], ?_, Nat.zero_le _, Nat.zero_le _, by simp, by simp⟩, hkept.queued.forgotten,
      hkept.once, hkept.spaced, hkept.bounded⟩, hkept⟩
    rw [ht', hevidence, List.append_nil, List.append_nil]
  rw [watch]
  cases hid : event.id with
  | none =>
    refine hold ?_ rfl
    intro eventId h
    rw [hid] at h
    cases h
  | some eventId =>
    cases hnew : (t.handler.firstEvent limit eventId).1 with
    | false =>
      refine hold ?_ (if_neg (Bool.eq_false_iff.mp hnew))
      intro id h
      rw [hid, Option.some.injEq] at h
      rw [← h]
      exact hnew
    | true =>
      obtain ⟨hmoved, contracts, observations, hrecords⟩ := handleEvent_of_new sink options
        isPrintable now hid hnew
      have hnext := tracks_next ht hid hnew hu hmoved hrecords
      have hevidence : (t.handler.firstEvent limit eventId).2.evidence = t.handler.evidence := by
        rw [EventHandler.firstEvent]
        split <;> rfl
      have hqueries : (t.handler.firstEvent limit eventId).2.retrievalQueries =
          t.handler.retrievalQueries := by
        rw [EventHandler.firstEvent]
        split <;> rfl
      dsimp only
      rw [if_pos hnew]
      refine ⟨correlates_of_records ht hnext hid hevidence hqueries
        (Tracked.fresh_next _ _ _ _ _ _) (?_ : Records _ _ _ _ contracts observations), hnext⟩
      rw [Tracked.handler_next]
      exact hrecords

end Runs

/-! ### A span that is started again -/

section Restarted

variable {σ : Type} {limit : Nat} {sink : Sink σ} {options : EventHandlerOptions}
  {isPrintable : Text → Bool} {t : Tracked σ} {event : InstrumentationEvent} {now : Datetime}

theorem firstEvent_of_not_mem (ht : Tracks limit t) {eventId : Text} (h : eventId ∉ t.fresh) :
    (t.handler.firstEvent limit eventId).1 = true := by
  rw [EventHandler.firstEvent, ht.seenEventIds, ht.seenOrder, if_neg]
  intro hseen
  exact h (Window.latest_subset _ _ (List.contains_iff_mem.mp hseen))

/-- What is known after a start that is remembered. -/
theorem watch_of_start (ht : Tracks limit t) {eventId digest : Text} (hid : event.id = some eventId)
    (hfresh : eventId ∉ t.fresh) (hkind : event.kind = .start)
    (hremembered : event.remembered now = some digest) :
    (watch limit sink options isPrintable t (event, now)).2 =
      ⟨(handleEvent limit sink options isPrintable event now t.handler).2, t.fresh ++ [eventId],
        t.starts + 1, Window.latest limit (t.pending (event.key eventId)),
        t.opened.set (event.key eventId) (t.starts, digest)⟩ := by
  rw [watch]
  dsimp only
  rw [hid]
  dsimp only
  rw [if_pos (firstEvent_of_not_mem ht hfresh), Tracked.next, hkind, hremembered]

/-- The table after a start that is remembered. -/
theorem queries_of_start (ht : Tracks limit t) {eventId digest : Text}
    (hid : event.id = some eventId) (hfresh : eventId ∉ t.fresh) (hkind : event.kind = .start)
    (hremembered : event.remembered now = some digest) :
    (handleEvent limit sink options isPrintable event now t.handler).2.retrievalQueries =
      ((Window.expired limit (t.pending (event.key eventId))).map Prod.fst).foldl Dict.erase
        (t.handler.retrievalQueries.set (event.key eventId) digest) := by
  have hnew := firstEvent_of_not_mem ht hfresh
  have htables := (tables_firstEvent ht hnew).2
  have hmoved := (handleEvent_of_new sink options isPrintable now hid hnew).1
  rw [Moved, hkind, hremembered] at hmoved
  simp only [EventHandler.tables, Prod.mk.injEq] at htables
  have hremember := tables_rememberQuery limit (t.handler.firstEvent limit eventId).2
    (htables.2.1.trans ht.order) (event.key eventId) digest t.starts
  rw [htables.1] at hremember
  exact congrArg Prod.fst (hmoved.trans hremember)

/-- A start that pushes nothing out leaves the correlation of others alone. -/
theorem undisturbed_of_start {eventId digest : Text} (hid : event.id = some eventId)
    (hkind : event.kind = .start) (hremembered : event.remembered now = some digest)
    (hroom : (t.pending (event.key eventId)).length ≤ limit) :
    Undisturbed limit sink t (event, now) := by
  intro id h _
  rw [hid, Option.some.injEq] at h
  rw [← h]
  dsimp only
  rw [hkind, hremembered]
  dsimp only
  rw [Window.expired_of_le hroom]
  intro entry hentry
  exact absurd hentry List.not_mem_nil

/-- The name of an event or a span by its number. -/
private def numbered (n : Nat) : Text := List.replicate (n + 1) 0

private theorem numbered_injective : Function.Injective numbered := by
  intro n m h
  have hlength := congrArg List.length h
  rw [numbered, numbered, List.length_replicate, List.length_replicate] at hlength
  exact Nat.succ_injective hlength

/-- The start of a retrieval with an empty query. -/
private def startEvent (eventId : Text) (spanId : Option Text) : InstrumentationEvent × Datetime :=
  (⟨some eventId, .ok (lit "RetrievalStartEvent"), some .naive, spanId, some [], none⟩,
    RetentionAdapter.epoch)

private theorem kind_startEvent (eventId : Text) (spanId : Option Text) :
    (startEvent eventId spanId).1.kind = .start := by
  change retrievalOf (lit "RetrievalStartEvent") = .start
  rw [retrievalOf, if_pos rfl]

private theorem remembered_startEvent {digest : Text} (hdigest : digestText [] = .ok digest)
    (eventId : Text) (spanId : Option Text) :
    (startEvent eventId spanId).1.remembered RetentionAdapter.epoch = some digest := by
  change (digestText []).toOption = some digest
  rw [hdigest]
  rfl

/-- Starts of as many spans as there is room for. -/
private theorem run_starts {digest : Text} (hdigest : digestText [] = .ok digest) (s : σ)
    {k : Nat} (hk : k ≤ limit) :
    let t := Calls.run (watch limit sink options isPrintable) (.init s)
      ((List.range k).map fun n ↦ startEvent (numbered n) none)
    Tracks limit t ∧ t.fresh = (List.range k).map numbered ∧ t.starts = k ∧
      t.queued = (List.range k).map (fun n ↦ (numbered n, n)) ∧
        ∀ n, n < k → t.opened.get? (numbered n) = some (n, digest) := by
  induction k with
  | zero => exact ⟨tracks_init limit s, rfl, rfl, rfl, fun n hn ↦ absurd hn (Nat.not_lt_zero n)⟩
  | succ k ih =>
    obtain ⟨ht, hfresh, hstarts, hqueued, hopened⟩ := ih (Nat.le_of_succ_le hk)
    rw [List.range_succ, List.map_append, List.map_singleton, Calls.run_append, Calls.run_cons,
      Calls.run_nil]
    generalize Calls.run _ (Tracked.init s) _ = t at ht hfresh hstarts hqueued hopened
    have hnew : numbered k ∉ t.fresh := by
      rw [hfresh, List.mem_map_of_injective numbered_injective]
      exact List.not_mem_range_self
    have hpending : t.pending (numbered k) = t.queued ++ [(numbered k, k)] := by
      have habsent : t.handler.retrievalQueries.get? (numbered k) = none := by
        rw [Option.eq_none_iff_forall_ne_some]
        intro d hd
        have hmem := ht.queued.mem _ d hd
        rw [hqueued, List.map_map] at hmem
        rw [hfresh] at hnew
        exact hnew hmem
      rw [Tracked.pending, pending, habsent, hstarts]
      rfl
    have hroom : (t.pending (numbered k)).length ≤ limit := by
      rw [hpending, hqueued, List.length_append, List.length_map, List.length_range]
      exact hk
    have hu : Undisturbed limit sink t (startEvent (numbered k) none) :=
      undisturbed_of_start rfl (kind_startEvent _ _) (remembered_startEvent hdigest _ _) hroom
    have hwatch : (watch limit sink options isPrintable t (startEvent (numbered k) none)).2 =
        ⟨_, t.fresh ++ [numbered k], t.starts + 1, Window.latest limit (t.pending (numbered k)),
          t.opened.set (numbered k) (t.starts, digest)⟩ :=
      watch_of_start ht rfl hnew (kind_startEvent _ _) (remembered_startEvent hdigest _ _)
    refine ⟨(tracks_watch ht hu).2, ?_⟩
    rw [hwatch]
    dsimp only
    rw [Window.latest_of_le hroom, hpending, hfresh, hstarts, hqueued, List.map_append,
      List.map_append, List.map_singleton, List.map_singleton]
    refine ⟨rfl, rfl, rfl, fun n hn ↦ ?_⟩
    rw [Dict.get?_set]
    by_cases hlast : n = k
    · rw [hlast, if_pos rfl]
    · rw [if_neg fun heq ↦ hlast (numbered_injective heq)]
      exact hopened n (by omega)

/-- The start of a first span, the starts of as many as there is room for, the start of the first
once more, and one of another. -/
private def restarted (limit : Nat) : List (InstrumentationEvent × Datetime) :=
  (List.range limit).map (fun n ↦ startEvent (numbered n) none) ++
    [startEvent (numbered limit) (some (numbered 0)), startEvent (numbered (limit + 1)) none]

/-- After as many starts as there is room for and a second one of the first span, the start of
another span forgets the second one. -/
private theorem not_correlates_restarted (hlimit : 2 ≤ limit) {digest : Text}
    (hdigest : digestText [] = .ok digest) (ht : Tracks limit t)
    (hfresh : t.fresh = (List.range limit).map numbered) (hstarts : t.starts = limit)
    (hqueued : t.queued = (List.range limit).map fun n ↦ (numbered n, n))
    (hopened : t.opened.get? (numbered 0) = some (0, digest)) :
    let t' := (watch limit sink options isPrintable t
      (startEvent (numbered limit) (some (numbered 0)))).2
    let last := startEvent (numbered (limit + 1)) none
    ¬Correlates limit last.1 t' (watch limit sink options isPrintable t' last).2 := by
  have hnot (m : Nat) (hm : limit ≤ m) : numbered m ∉ t.fresh := by
    rw [hfresh, List.mem_map_of_injective numbered_injective, List.mem_range]
    omega
  have hpending : t.pending (numbered 0) = t.queued := by
    have hkept := (ht.queued.forgotten _ _ _ hopened).resolve_right (by omega)
    rw [Tracked.pending, pending, hkept]
    rfl
  have hroom : (t.pending (numbered 0)).length ≤ limit := by
    rw [hpending]
    exact ht.queued.length
  have hagain : (watch limit sink options isPrintable t
      (startEvent (numbered limit) (some (numbered 0)))).2 =
        ⟨_, t.fresh ++ [numbered limit], t.starts + 1, Window.latest limit (t.pending (numbered 0)),
          t.opened.set (numbered 0) (t.starts, digest)⟩ :=
    watch_of_start ht rfl (hnot limit le_rfl) (kind_startEvent _ _)
      (remembered_startEvent hdigest _ _)
  have hu : Undisturbed limit sink t (startEvent (numbered limit) (some (numbered 0))) :=
    undisturbed_of_start rfl (kind_startEvent _ _) (remembered_startEvent hdigest _ _) hroom
  have hkept : Tracks limit (watch limit sink options isPrintable t
      (startEvent (numbered limit) (some (numbered 0)))).2 :=
    (tracks_watch ht hu).2
  rw [Window.latest_of_le hroom, hpending] at hagain
  intro t' last hlast
  change Tracks limit t' at hkept
  change t' = _ at hagain
  generalize t' = t₂ at hkept hagain hlast
  have hnew : numbered (limit + 1) ∉ t₂.fresh := by
    rw [hagain, List.mem_append, List.mem_singleton]
    intro hmem
    cases hmem with
    | inl hold => exact hnot (limit + 1) (Nat.le_succ _) hold
    | inr hsame => exact absurd (numbered_injective hsame) (Nat.succ_ne_self limit)
  have habsent : t₂.handler.retrievalQueries.get? (numbered (limit + 1)) = none := by
    rw [Option.eq_none_iff_forall_ne_some]
    intro d hd
    have hmem := hkept.queued.mem _ d hd
    rw [hagain, hqueued, List.map_map] at hmem
    apply hnot (limit + 1) (Nat.le_succ _)
    rw [hfresh]
    exact hmem
  have hpushed : numbered 0 ∈
      (Window.expired limit (t₂.pending (numbered (limit + 1)))).map Prod.fst := by
    rw [Tracked.pending, pending, habsent, hagain, hqueued, Window.expired]
    obtain ⟨k, rfl⟩ : ∃ k, limit = k + 1 := ⟨limit - 1, by omega⟩
    simp [List.range_succ_eq_map]
  have hqueries : (handleEvent limit sink options isPrintable last.1 last.2
      t₂.handler).2.retrievalQueries =
        ((Window.expired limit (t₂.pending (numbered (limit + 1)))).map Prod.fst).foldl Dict.erase
          (t₂.handler.retrievalQueries.set (numbered (limit + 1)) digest) :=
    queries_of_start hkept rfl hnew (kind_startEvent _ _) (remembered_startEvent hdigest _ _)
  have hwatch : (watch limit sink options isPrintable t₂ last).2 =
      ⟨_, t₂.fresh ++ [numbered (limit + 1)], t₂.starts + 1,
        Window.latest limit (t₂.pending (numbered (limit + 1))),
        t₂.opened.set (numbered (limit + 1)) (t₂.starts, digest)⟩ :=
    watch_of_start hkept rfl hnew (kind_startEvent _ _) (remembered_startEvent hdigest _ _)
  have hforgotten := hlast.forgotten (numbered 0) limit digest (by
    rw [hwatch, Dict.get?_set, if_neg fun heq ↦ Nat.succ_ne_zero _ (numbered_injective heq).symm,
      hagain, Dict.get?_set, if_pos rfl, hstarts])
  rw [hwatch] at hforgotten
  cases hforgotten with
  | inl htable =>
    have hgone : (handleEvent limit sink options isPrintable last.1 last.2
        t₂.handler).2.retrievalQueries.get? (numbered 0) = none := by
      rw [hqueries, get?_foldl_erase, if_pos hpushed]
    exact Option.some_ne_none _ (htable.symm.trans hgone)
  | inr hfar =>
    dsimp only at hfar
    rw [hagain, hstarts] at hfar
    dsimp only at hfar
    omega

/-- So not every event does what it may. -/
private theorem not_along_restarted (s : σ) (hlimit : 2 ≤ limit) :
    ¬Calls.Along (watch limit sink options isPrintable)
      (fun t e ↦ Correlates limit e.1 t (watch limit sink options isPrintable t e).2) (.init s)
      (restarted limit) := by
  intro h
  obtain ⟨digest, hdigest⟩ : ∃ digest, digestText [] = .ok digest := ⟨_, rfl⟩
  obtain ⟨ht, hfresh, hstarts, hqueued, hopened⟩ := @run_starts σ limit sink options isPrintable
    digest hdigest s limit le_rfl
  have hlast := Calls.along_iff_forall_split.mp h
    ((List.range limit).map (fun n ↦ startEvent (numbered n) none) ++
      [startEvent (numbered limit) (some (numbered 0))])
    (startEvent (numbered (limit + 1)) none) [] (by rw [restarted, List.append_assoc]; rfl)
  rw [Calls.run_append] at hlast
  exact not_correlates_restarted hlimit hdigest ht hfresh hstarts hqueued (hopened 0 (by omega))
    hlast

end Restarted

/-! ### Every run -/

/-- A sink that takes and notes everything. -/
private def acceptingSink : Sink Unit := ⟨0, fun _ ↦ pure (), fun _ _ ↦ pure ()⟩

private def noCorpus : EventHandlerOptions := ⟨none, none, none⟩

/-- The end of a retrieval without a query of its own. -/
private def endEvent (eventId spanId : Text) : InstrumentationEvent × Datetime :=
  (⟨some eventId, .ok (lit "RetrievalEndEvent"), some .naive, some spanId, none, none⟩,
    RetentionAdapter.epoch)

/-- Along events that leave the correlation of others alone, every event does what it may: a
recorded retrieval has the digest of its own query or that of its span's open start, an open start is
forgotten only after as many starts as the limit, an event is observed once in as many new events,
and the buffers stay within the limit. -/
theorem retrieval_correlated {σ : Type} {sink : Sink σ} {options : EventHandlerOptions}
    {isPrintable : Text → Bool} {s : σ} {events : List (InstrumentationEvent × Datetime)}
    (h : Calls.Along (watch stateLimit sink options isPrintable)
      (Undisturbed stateLimit sink) (.init s) events) :
    Calls.Along (watch stateLimit sink options isPrintable)
      (fun t e ↦ Correlates stateLimit e.1 t (watch stateLimit sink options isPrintable t e).2)
      (.init s) events :=
  h.imp (fun _ _ ht hu ↦ tracks_watch ht hu) (tracks_init _ s)

/-- A retrieval that starts and ends. -/
theorem started_correlated : ∃ events : List (InstrumentationEvent × Datetime),
    events.length = 2 ∧ Calls.Along (watch stateLimit acceptingSink noCorpus fun _ ↦ true)
      (fun t e ↦ Correlates stateLimit e.1 t
        (watch stateLimit acceptingSink noCorpus (fun _ ↦ true) t e).2) (.init ()) events := by
  obtain ⟨digest, hdigest⟩ : ∃ digest, digestText [] = .ok digest := ⟨_, rfl⟩
  refine ⟨[startEvent (numbered 0) none, endEvent (numbered 1) (numbered 0)], rfl,
    retrieval_correlated ⟨?_, ?_, trivial⟩⟩
  · apply undisturbed_of_start rfl (kind_startEvent _ _) (remembered_startEvent hdigest _ _)
    exact Nat.le_add_left 1 4095
  · intro eventId _ _
    have hkind : (endEvent (numbered 1) (numbered 0)).1.kind = .finish := by decide
    dsimp only
    rw [hkind]
    exact .inr ⟨rfl, fun query hquery ↦ by cases hquery⟩

/-- A span that is started again while the entry of its first start is the oldest of a full queue is
forgotten at the next start. -/
theorem not_correlated : ¬Calls.Along (watch stateLimit acceptingSink noCorpus fun _ ↦ true)
    (fun t e ↦ Correlates stateLimit e.1 t
      (watch stateLimit acceptingSink noCorpus (fun _ ↦ true) t e).2) (.init ())
        (restarted stateLimit) :=
  not_along_restarted () (by rw [stateLimit]; omega)

end StateWake.Integrations
