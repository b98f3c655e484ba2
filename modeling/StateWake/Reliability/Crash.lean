import StateWake.Reliability.Equivalence

/-!
# Interrupted writes of the JSONL store

`_recover_partial_tail`, `adapters/reliability_state.py:157–186`, after a crash that left
the first bytes of a line at the end of the file. A torn line is dropped and a whole one
is kept. A line that lacks only its line feed is kept as well, but the next append writes
behind it on the same line, and the file is unreadable from then on.
-/

namespace StateWake.Reliability

open StateWake.Base Text KeyedHistory ReliabilityStateTransition

namespace Jsonl

/-- The file a crash leaves after `k` bytes of a transition's line. -/
def crash (file : Option Bytes) (t : ReliabilityStateTransition) (k : Nat) : Option Bytes :=
  some (file.getD [] ++ (encode [t]).take k)

/-- The store recovers from a crash: every read gives the old history, or the one extended
by the transition where its whole record was written, and every valid append after it
succeeds and is read back. -/
def Recovers (file : Option Bytes) (h : List ReliabilityStateTransition)
    (t : ReliabilityStateTransition) (k : Nat) : Prop :=
  ∃ l file', (l = h ∨ l = h ++ [t] ∧ (encode [t]).length ≤ k + 1) ∧
    (∀ subjectId, (store true).read (crash file t k) subjectId = (.ok (select subjectId l), file')) ∧
    ∀ u l', accepts l u = some l' → ∃ file'', (store true).append file' u = (.ok u, file'') ∧
      ∀ subjectId, ((store true).read file'' subjectId).1 = .ok (select subjectId l')

/-! ### Splitting off the tail -/

private theorem length_encode_singleton (t : ReliabilityStateTransition) :
    (encode [t]).length = (lineOf t).length + 1 := by
  simp [encode_singleton, Utf8.ascii]

private theorem take_encode_singleton (t : ReliabilityStateTransition) {k : Nat}
    (hk : k ≤ (lineOf t).length) : (encode [t]).take k = Utf8.ascii ((lineOf t).take k) := by
  rw [encode_singleton, Utf8.ascii, ← List.map_take, List.take_append_of_le_length hk, Utf8.ascii]

/-- A line holds no line feed byte. -/
private theorem ne_newlineByte_of_mem {t : ReliabilityStateTransition} {k : Nat} {b : UInt8}
    (hb : b ∈ Utf8.ascii ((lineOf t).take k)) : b ≠ newlineByte := by
  obtain ⟨c, hc, rfl⟩ := List.mem_map.mp hb
  have hmem := List.mem_of_mem_take hc
  have hlt : c.val < 0x80 := isAscii_lineOf t c hmem
  have hboundary := unbroken_lineOf t c hmem
  intro he
  have hval : c.val = 10 := by
    have := congrArg UInt8.toNat he
    simp only [UInt8.toNat_ofNat', newlineByte] at this
    rw [Nat.mod_eq_of_lt (by omega)] at this
    exact this
  simp [Lines.isBoundary, hval] at hboundary

private theorem dropWhile_reverse_encode (h : List ReliabilityStateTransition) :
    (encode h).reverse.dropWhile (· ≠ newlineByte) = (encode h).reverse := by
  rcases encode_ends h with he | he
  · rw [he]
    rfl
  · rw [← List.head?_reverse] at he
    cases hr : (encode h).reverse with
    | nil => rfl
    | cons b bs =>
      rw [hr] at he
      cases he
      rfl

/-- Without line feeds in the tail, the file is cut at the end of the history. -/
private theorem rdropWhile_encode_append (h : List ReliabilityStateTransition) {p : Bytes}
    (hp : ∀ b ∈ p, b ≠ newlineByte) :
    (encode h ++ p).rdropWhile (· ≠ newlineByte) = encode h := by
  rw [List.rdropWhile, List.reverse_append, List.dropWhile_append_of_pos
    (by simpa using hp), dropWhile_reverse_encode, List.reverse_reverse]

private theorem rtakeWhile_encode_append (h : List ReliabilityStateTransition) {p : Bytes}
    (hp : ∀ b ∈ p, b ≠ newlineByte) :
    (encode h ++ p).rtakeWhile (· ≠ newlineByte) = p := by
  have happ : (encode h ++ p).rdropWhile (· ≠ newlineByte) ++
      (encode h ++ p).rtakeWhile (· ≠ newlineByte) = encode h ++ p := by
    rw [List.rdropWhile, List.rtakeWhile, ← List.reverse_append, List.takeWhile_append_dropWhile,
      List.reverse_reverse]
  rw [rdropWhile_encode_append h hp] at happ
  exact List.append_cancel_left happ

/-- Recovery of a nonempty tail without line feeds. -/
private theorem recoverPartialTail_append (h : List ReliabilityStateTransition) {p : Bytes}
    (hp : ∀ b ∈ p, b ≠ newlineByte) (hne : p ≠ []) {complete : Bool}
    (hc : completeTail p = .ok complete) :
    recoverPartialTail (encode h ++ p) = .ok (if complete then encode h ++ p else encode h) := by
  have hlast : ¬((encode h ++ p = [] ∨ (encode h ++ p).getLast? = some newlineByte)) := by
    rw [List.getLast?_append_of_ne_nil _ hne]
    rintro (hn | hl)
    · exact hne (List.append_eq_nil_iff.mp hn).2
    · exact hp _ (List.mem_of_getLast? hl) rfl
  rw [recoverPartialTail, if_neg hlast, rtakeWhile_encode_append h hp,
    rdropWhile_encode_append h hp, hc, ok_bind]
  rfl

/-! ### The three kinds of tail -/

private theorem completeTail_torn (t : ReliabilityStateTransition) {k : Nat}
    (hk : k < (lineOf t).length) :
    completeTail (Utf8.ascii ((lineOf t).take k)) = .ok false := by
  have hascii : Utf8.IsAscii ((lineOf t).take k) := fun c hc ↦
    isAscii_lineOf t c (List.mem_of_mem_take hc)
  have hsplit : lineOf t = (lineOf t).take k ++ (lineOf t).drop k := (List.take_append_drop ..).symm
  have hparse : Json.parse ((lineOf t).take k) = none :=
    Json.parse_truncated Json.compact (t.writable_toDict t.digestText) hsplit (by simpa using hk)
  rw [completeTail, Utf8.ofBytes_ascii hascii, ok_bind, Json.loads, hparse]
  rfl

private theorem completeTail_lineOf {t : ReliabilityStateTransition} (he : t.Encodable) :
    completeTail (Utf8.ascii (lineOf t)) = .ok true := by
  rw [completeTail, Utf8.ofBytes_ascii (isAscii_lineOf t), ok_bind, lineOf,
    Json.loads_dumps_obj Json.compact (t.writable_toDict _), ok_bind]
  simp only [Json.asObject_obj, fromDict_readMembers he.toDict Json.compact, ok_bind]
  rfl

private theorem isAscii_history (h : List ReliabilityStateTransition) :
    Utf8.IsAscii (Lines.terminated (h.map lineOf)) := by
  intro c hc
  rcases Lines.mem_terminated hc with rfl | ⟨l, hl, hc⟩
  · decide
  · obtain ⟨t, -, rfl⟩ := List.mem_map.mp hl
    exact isAscii_lineOf t c hc

/-- A file whose last line lacks only its line feed reads as the whole history. -/
private theorem parseHistory_unterminated {h : List ReliabilityStateTransition}
    {t : ReliabilityStateTransition} (hv : Valid (h ++ [t])) (subjectId : Option Text) :
    parseHistory (encode h ++ Utf8.ascii (lineOf t)) subjectId =
      .ok (select subjectId (h ++ [t])) := by
  have hne : lineOf t ≠ [] := by
    intro hn
    have := Json.not_blank_dumps_obj Json.compact (t.payload ++ [(lit "digest", .str t.digestText)])
    rw [← lineOf, hn] at this
    cases this
  have hascii : Utf8.IsAscii (Lines.terminated (h.map lineOf) ++ lineOf t) := by
    intro c hc
    rcases List.mem_append.mp hc with hc | hc
    · exact isAscii_history h c hc
    · exact isAscii_lineOf t c hc
  have hbytes : encode h ++ Utf8.ascii (lineOf t) =
      Utf8.ascii (Lines.terminated (h.map lineOf) ++ lineOf t) := by
    simp [encode, Utf8.ascii]
  have hsplit : Lines.splitlines (Lines.terminated (h.map lineOf) ++ lineOf t) =
      (h ++ [t]).map lineOf := by
    rw [Lines.splitlines_terminated_append _ _ fun l hl ↦ by
      obtain ⟨u, -, rfl⟩ := List.mem_map.mp hl
      exact unbroken_lineOf u, Lines.splitlines_unbroken (unbroken_lineOf t) hne]
    simp
  rw [hbytes, parseHistory, if_neg (by simp [Utf8.ascii, hne]), Utf8.decode_ascii hascii]
  simp only [hsplit]
  obtain ⟨tips, -, hparse⟩ := parseLines_map_lineOf_append subjectId
    ((Utf8.ascii (Lines.terminated (h.map lineOf) ++ lineOf t)).getLast? != some newlineByte)
    1 [] [] (h ++ [t]) [] hv fun s ↦ rfl
  rw [List.append_nil] at hparse
  rw [hparse, parseLines]
  simp only [Except.map, List.append_nil]

/-- Two records on one line cannot be read. -/
private theorem parseHistory_glued {h : List ReliabilityStateTransition} (hv : Valid h)
    (t u : ReliabilityStateTransition) :
    ∃ e, parseHistory (encode h ++ Utf8.ascii (lineOf t) ++ encode [u]) none = .error e := by
  have hhead : ∃ r, lineOf u = 0x7B :: r := Json.dumps_obj_head ..
  obtain ⟨r, hr⟩ := hhead
  have hunbroken : Lines.Unbroken (lineOf t ++ lineOf u) := by
    intro c hc
    rcases List.mem_append.mp hc with hc | hc
    · exact unbroken_lineOf t c hc
    · exact unbroken_lineOf u c hc
  have hascii : Utf8.IsAscii (Lines.terminated (h.map lineOf ++ [lineOf t ++ lineOf u])) := by
    intro c hc
    rcases Lines.mem_terminated hc with rfl | ⟨l, hl, hc⟩
    · decide
    · rcases List.mem_append.mp hl with hl | hl
      · obtain ⟨v, -, rfl⟩ := List.mem_map.mp hl
        exact isAscii_lineOf v c hc
      · rw [List.mem_singleton.mp hl] at hc
        rcases List.mem_append.mp hc with hc | hc
        · exact isAscii_lineOf t c hc
        · exact isAscii_lineOf u c hc
  have hbytes : encode h ++ Utf8.ascii (lineOf t) ++ encode [u] =
      Utf8.ascii (Lines.terminated (h.map lineOf ++ [lineOf t ++ lineOf u])) := by
    simp [encode, Utf8.ascii]
  have hsplit : Lines.splitlines (Lines.terminated (h.map lineOf ++ [lineOf t ++ lineOf u])) =
      h.map lineOf ++ [lineOf t ++ lineOf u] :=
    Lines.splitlines_terminated _ fun l hl ↦ by
      rcases List.mem_append.mp hl with hl | hl
      · obtain ⟨v, -, rfl⟩ := List.mem_map.mp hl
        exact unbroken_lineOf v
      · rw [List.mem_singleton.mp hl]
        exact hunbroken
  have hstops : Json.Stops (lineOf u) := by
    rw [hr]
    intro c hc
    cases hc
    decide
  have hblank : Json.skipBlank (lineOf u) ≠ [] := by
    rw [hr]
    exact List.cons_ne_nil _ _
  have hparse : Json.parse (lineOf t ++ lineOf u) = none :=
    Json.parse_glued Json.compact (t.writable_toDict _) hstops hblank
  have hline : ∀ tips, ∃ e, parseLine tips (lineOf t ++ lineOf u) = .error e ∧
      e.kind.isRecordError = true := fun tips ↦
    ⟨⟨.jsonDecodeError, []⟩, by rw [parseLine, Json.loads, hparse]; rfl, rfl⟩
  have hnotblank : blank (lineOf t ++ lineOf u) = false := by
    obtain ⟨r', hr'⟩ : ∃ r', lineOf t = 0x7B :: r' := Json.dumps_obj_head ..
    rw [hr']
    exact Bool.eq_false_iff.mpr fun hb ↦
      absurd ((blank_iff _).mp hb 0x7B List.mem_cons_self) (by decide)
  have hne : encode h ++ Utf8.ascii (lineOf t) ++ encode [u] ≠ [] := by
    simp [encode_singleton, Utf8.ascii]
  rw [parseHistory, if_neg hne, hbytes, Utf8.decode_ascii hascii]
  simp only [hsplit]
  obtain ⟨tips, -, hhead⟩ := parseLines_map_lineOf_append none
    ((Utf8.ascii (Lines.terminated (h.map lineOf ++ [lineOf t ++ lineOf u]))).getLast? !=
      some newlineByte) 1 [] [] h [lineOf t ++ lineOf u] hv fun s ↦ rfl
  obtain ⟨e, he, hkind⟩ := hline tips
  rw [hhead, parseLines, hnotblank]
  simp only [Bool.false_eq_true, ↓reduceIte, he, hkind, Bool.not_true]
  split <;> exact ⟨_, rfl⟩

/-! ### Recovery -/

/-- A file that represents a valid history after the read recovers. -/
private theorem recovers_of_represents {file : Option Bytes} {h l : List ReliabilityStateTransition}
    {t : ReliabilityStateTransition} {k : Nat} {raw : Bytes} (hv : Valid l)
    (hl : l = h ∨ l = h ++ [t] ∧ (encode [t]).length ≤ k + 1) (hraw : raw = encode l)
    (hrecover : recoverPartialTail ((crash file t k).getD []) = .ok raw) :
    Recovers file h t k := by
  subst hraw
  refine ⟨l, some (encode l), hl, fun subjectId ↦ ?_, fun u l' ha ↦ ?_⟩
  · have hfile : crash file t k = some ((crash file t k).getD []) := rfl
    rw [hfile, store_read]
    simp only [readUnlocked, ↓reduceIte, hrecover, parseHistory_encode hv]
  · obtain ⟨file'', happ, hr⟩ := append_of_accepts true hv
      (show Represents (some (encode l)) l from rfl) ha
    exact ⟨file'', happ, fun subjectId ↦ by
      rw [store_read, readUnlocked_represents (hv.accepts ha) hr]⟩

/-- A state a subject in a given state can be moved to, with the decision it requires. -/
private theorem exists_reviewed (s : ReliabilityState) : ∃ s' ∈ s.allowedTransitions, ∃ d : Decision,
    d ≠ .undecided ∧ (s' = .reliable ∨ s' = .recovered → d = .accept) ∧
      (s' = .degraded → d = .review) ∧ (s' = .unreliable → d = .reject) := by
  cases s with
  | degraded => exact ⟨.reliable, by decide, .accept, by decide⟩
  | unknown => exact ⟨.degraded, by decide, .review, by decide⟩
  | reliable => exact ⟨.degraded, by decide, .review, by decide⟩
  | unreliable => exact ⟨.degraded, by decide, .review, by decide⟩
  | recovered => exact ⟨.degraded, by decide, .review, by decide⟩

/-- Every valid history that ends with a transition can be extended. -/
private theorem exists_successor {h : List ReliabilityStateTransition}
    {t : ReliabilityStateTransition} (hv : Valid (h ++ [t])) :
    ∃ u, accepts (h ++ [t]) u = some (h ++ [t] ++ [u]) := by
  have he : t.Encodable := hv.encodable t (by simp)
  obtain ⟨s', hallowed, d, hd, haccepts, hreviews, hrejects⟩ := exists_reviewed t.toState
  -- an identifier longer than all stored ones is new
  let ids := (h ++ [t]).map transitionId
  let id : Text := List.replicate (ids.flatten.length + 1) (ofChar 'a')
  have hblank : blank id = false := by
    refine Bool.eq_false_iff.mpr fun hb ↦ ?_
    exact absurd ((blank_iff _).mp hb (ofChar 'a') (by simp [id])) (by decide)
  have hnew : id ∉ ids := by
    intro hmem
    have hle : id.length ≤ ids.flatten.length := (List.sublist_flatten_of_mem hmem).length_le
    simp [id] at hle
  have hnamed := t.named
  refine ⟨⟨id, t.subjectId, t.toState, s', t.occurredAt, t.actor, t.evidenceChainId,
    t.evidenceChainDigest, d, [], t.digestText, ?_, hallowed, t.chainNamed, t.chainDigest,
    .inr he.isSha256, hd, haccepts, hreviews, hrejects⟩, ?_⟩
  · rw [hblank]
    tauto
  · apply accepts_of_extends
    · have htexts := (encodable_iff_surrogateFree t).mp he
      refine (encodable_iff_surrogateFree _).mpr
        ⟨?_, htexts.2.1, htexts.2.2.1, htexts.2.2.2.1, fun s hs ↦ by cases hs⟩
      intro c hc
      rw [List.eq_of_mem_replicate hc]
      decide
    · exact hnew
    · rw [tip?_append_singleton, if_pos rfl]
      exact ⟨rfl, fun p hp ↦ by cases hp; rfl⟩

/-- A crash within a record, or after its line feed, is recovered from. -/
private theorem recovers_of_ne {file : Option Bytes} {h : List ReliabilityStateTransition}
    {t : ReliabilityStateTransition} {k : Nat} (hv : Valid (h ++ [t])) (hr : Represents file h)
    (hk : k ≤ (encode [t]).length) (hne : k + 1 ≠ (encode [t]).length) : Recovers file h t k := by
  have hfile : (crash file t k).getD [] = encode h ++ (encode [t]).take k := by
    rw [crash, Option.getD_some, hr]
  rw [length_encode_singleton] at hk hne
  rcases Nat.lt_or_ge k (lineOf t).length with hlt | hge
  · refine recovers_of_represents hv.of_append (.inl rfl) rfl ?_
    rw [hfile, take_encode_singleton t hlt.le]
    cases k with
    | zero =>
      rw [List.take_zero, Utf8.ascii, List.map_nil, List.append_nil, recoverPartialTail_encode]
    | succ k =>
      have hcut : Utf8.ascii ((lineOf t).take (k + 1)) ≠ [] := by
        rw [← List.length_pos_iff, Utf8.ascii, List.length_map, List.length_take]
        omega
      rw [recoverPartialTail_append h (fun b hb ↦ ne_newlineByte_of_mem hb) hcut
        (completeTail_torn t hlt)]
      rfl
  · have hfull : (encode [t]).take k = encode [t] := by
      rw [List.take_of_length_le]
      rw [length_encode_singleton]
      omega
    refine recovers_of_represents hv (.inr ⟨rfl, ?_⟩) rfl ?_
    · rw [length_encode_singleton]
      omega
    · rw [hfile, hfull, ← encode_append, recoverPartialTail_encode]

/-- A crash between a record and its line feed loses the file at the next append. -/
private theorem not_recovers {file : Option Bytes} {h : List ReliabilityStateTransition}
    {t : ReliabilityStateTransition} {k : Nat} (hv : Valid (h ++ [t])) (hr : Represents file h)
    (hk : k + 1 = (encode [t]).length) : ¬Recovers file h t k := by
  have he : t.Encodable := hv.encodable t (by simp)
  obtain ⟨u, hu⟩ := exists_successor hv
  have hlen : k = (lineOf t).length := by
    rw [length_encode_singleton] at hk
    omega
  have hcrash : crash file t k = some (encode h ++ Utf8.ascii (lineOf t)) := by
    rw [crash, hr, take_encode_singleton t hlen.le, hlen, List.take_length]
  have hne : Utf8.ascii (lineOf t) ≠ [] := by
    obtain ⟨r, hr⟩ : ∃ r, lineOf t = 0x7B :: r := Json.dumps_obj_head ..
    rw [hr]
    exact List.cons_ne_nil _ _
  have hrecover : recoverPartialTail (encode h ++ Utf8.ascii (lineOf t)) =
      .ok (encode h ++ Utf8.ascii (lineOf t)) := by
    have hwhole : (lineOf t).take (lineOf t).length = lineOf t := List.take_length
    rw [recoverPartialTail_append h (fun b hb ↦ ne_newlineByte_of_mem
      (k := (lineOf t).length) (by rwa [hwhole])) hne (completeTail_lineOf he)]
    rfl
  have hread : readUnlocked true (crash file t k) none =
      (.ok (h ++ [t]), some (encode h ++ Utf8.ascii (lineOf t))) := by
    rw [hcrash]
    simp only [readUnlocked, ↓reduceIte, hrecover, parseHistory_unterminated hv, select]
  rintro ⟨l, file', -, hreads, hlater⟩
  have hfirst := hreads none
  rw [store_read] at hfirst
  simp only [hread, select, Prod.mk.injEq, Except.ok.injEq] at hfirst
  obtain ⟨rfl, rfl⟩ := hfirst
  have hkept : readUnlocked true (some (encode h ++ Utf8.ascii (lineOf t))) none =
      (.ok (h ++ [t]), some (encode h ++ Utf8.ascii (lineOf t))) := hcrash ▸ hread
  obtain ⟨file'', happ, hafter⟩ := hlater u _ hu
  rw [store_append] at happ
  rw [store_read] at hafter
  simp only [append_of_readUnlocked hv hkept hu, Option.getD_some, Prod.mk.injEq, true_and] at happ
  subst happ
  obtain ⟨e, hglued⟩ := parseHistory_glued hv.of_append t u
  have hends : recoverPartialTail (encode h ++ Utf8.ascii (lineOf t) ++ encode [u]) =
      .ok (encode h ++ Utf8.ascii (lineOf t) ++ encode [u]) := by
    have hlast : (encode h ++ Utf8.ascii (lineOf t) ++ encode [u]).getLast? =
        some newlineByte := by
      rw [encode_singleton u, Utf8.ascii, Utf8.ascii, List.map_append, ← List.append_assoc,
        List.map_singleton, List.getLast?_append]
      rfl
    rw [recoverPartialTail, if_pos (.inr hlast)]
  have hlost := hafter none
  simp only [readUnlocked, ↓reduceIte, hends, hglued] at hlost
  cases hlost

/-- The first transition of a subject, under review at the start of the calendar. -/
def firstDegradation : ReliabilityStateTransition where
  transitionId := lit "t"
  subjectId := lit "s"
  fromState := .unknown
  toState := .degraded
  occurredAt := .of (.of 1 1 1) 0
  actor := lit "a"
  evidenceChainId := lit "c"
  evidenceChainDigest := List.replicate 64 (ofChar '0')
  decision := .review
  rationale := []
  previousTransitionDigest := []
  named := by decide
  allowed := by decide
  chainNamed := by decide
  chainDigest := by decide
  previousDigest := .inl rfl
  decided := by decide
  accepts := by decide
  reviews := by decide
  rejects := by decide

theorem accepts_firstDegradation : accepts [] firstDegradation = some [firstDegradation] :=
  accepts_of_extends ((encodable_iff_surrogateFree _).mpr ⟨surrogateFree_lit _, surrogateFree_lit _,
    surrogateFree_lit _, surrogateFree_lit _, fun s hs ↦ by cases hs⟩) (by decide)
    ⟨rfl, fun p hp ↦ by cases hp⟩

theorem append_firstDegradation : (store true).append none firstDegradation =
    (.ok firstDegradation, some (encode [firstDegradation])) :=
  append_new true valid_nil represents_empty accepts_firstDegradation

end Jsonl
end StateWake.Reliability
