import StateWake.Base.JsonRoundTrip

/-!
# Truncated and glued JSON

A successful scan is not changed by text appended after what it consumed. So no strict
prefix of a written object can be read: the scan would consume all of it, and reading the
whole text would leave the rest over. Nor can an object with another one glued to it.
-/

namespace StateWake.Base

open Text

namespace Json

/-- A text whose first element exists and ends a number. -/
private def Ended (s : Text) : Prop :=
  ∃ c rest, s = c :: rest ∧ Decimal.isDigit c = false ∧ c.val ≠ 0x2E ∧ c.val ≠ 0x65 ∧
    c.val ≠ 0x45 ∧ c.val ≠ 0x2B ∧ c.val ≠ 0x2D

private theorem Ended.ne_nil {s : Text} (h : Ended s) : s ≠ [] := by
  obtain ⟨c, rest, rfl, -⟩ := h
  simp

private theorem scanString_append {s t rest : Text} {elements : List (Bool × CodePoint)}
    (h : scanString s = some (elements, rest)) :
    scanString (s ++ t) = some (elements, rest ++ t) := by
  fun_induction scanString s generalizing elements rest with
  | case1 => cases h
  | case2 c s hc =>
    cases h
    rw [List.cons_append, scanString.eq_def]
    dsimp only
    rw [if_pos hc]
  | case3 => cases h
  | case4 c hc hb e he a b c' d s ih =>
    simp only [Option.bind_eq_bind, Option.bind_eq_some_iff, Option.pure_def,
      Option.some.injEq] at h
    obtain ⟨v, hv, p, hp, h⟩ := h
    cases h
    rw [List.cons_append, scanString.eq_def]
    dsimp only [List.cons_append]
    rw [if_neg hc, if_pos hb, if_pos he, hv, ih hp]
    rfl
  | case5 => cases h
  | case6 c hc hb e s he ih =>
    simp only [Option.bind_eq_bind, Option.bind_eq_some_iff, Option.pure_def,
      Option.some.injEq] at h
    obtain ⟨v, hv, p, hp, h⟩ := h
    cases h
    rw [List.cons_append, scanString.eq_def]
    dsimp only [List.cons_append]
    rw [if_neg hc, if_pos hb, if_neg he, hv, ih hp]
    rfl
  | case7 => cases h
  | case8 c s hc hb hl ih =>
    simp only [Option.bind_eq_bind, Option.bind_eq_some_iff, Option.pure_def,
      Option.some.injEq] at h
    obtain ⟨p, hp, h⟩ := h
    cases h
    rw [List.cons_append, scanString.eq_def]
    dsimp only
    rw [if_neg hc, if_neg hb, if_neg hl, ih hp]
    rfl

/-! ### Numbers -/

private theorem takeWhile_append_of_drop {p : CodePoint → Bool} {s t : Text}
    (h : s.dropWhile p ≠ []) :
    (s ++ t).takeWhile p = s.takeWhile p ∧ (s ++ t).dropWhile p = s.dropWhile p ++ t := by
  induction s with
  | nil => exact absurd rfl h
  | cons c s ih =>
    cases hc : p c with
    | true =>
      simp only [List.dropWhile_cons, hc, ↓reduceIte] at h
      simp [hc, ih h]
    | false => simp [hc]

private theorem scanDigits_append {s t digits rest : Text}
    (h : scanDigits s = some (digits, rest)) (hr : rest ≠ []) :
    scanDigits (s ++ t) = some (digits, rest ++ t) := by
  unfold scanDigits at h ⊢
  cases s with
  | nil => cases h
  | cons c s =>
    simp only [List.cons_append] at h ⊢
    split at h
    · cases h
      rw [if_pos ‹_›]
    · split at h
      · cases h
        obtain ⟨ht, hd⟩ := takeWhile_append_of_drop (t := t) hr
        rw [if_neg ‹_›, if_pos ‹_›]
        simp only [List.cons_append] at ht hd
        rw [ht, hd]
      · cases h

private theorem scanFraction_append_rest {s t fraction rest : Text}
    (h : scanFraction s = (fraction, rest)) (hne : rest ≠ [])
    (hr : rest.head? ≠ some 0x2E) : scanFraction (s ++ t) = (fraction, rest ++ t) := by
  match s with
  | [] =>
    cases h
    exact absurd rfl hne
  | [c] =>
    cases h
    have hc : c.val ≠ 0x2E := fun hc ↦ hr (congrArg some (Fin.ext hc))
    cases t with
    | nil => rfl
    | cons d t =>
      simp only [List.cons_append, List.nil_append, scanFraction]
      rw [if_neg fun h ↦ hc h.1]
  | c :: d :: s =>
    simp only [scanFraction] at h
    split at h
    · next hcd =>
      cases h
      obtain ⟨ht, hd⟩ := takeWhile_append_of_drop (t := t) hne
      simp only [List.cons_append, scanFraction] at ht hd ⊢
      rw [if_pos hcd, ht, hd]
    · next hcd =>
      cases h
      simp only [List.cons_append, scanFraction]
      rw [if_neg hcd]

private theorem scanExponent_append_rest {s t exponent rest : Text}
    (h : scanExponent s = (exponent, rest)) (hr : Ended rest) :
    scanExponent (s ++ t) = (exponent, rest ++ t) := by
  obtain ⟨x, xs, hx, hxd, -, hxe, hxE, hxp, hxm⟩ := hr
  match s with
  | [] =>
    cases h
    cases hx
  | [c] =>
    have hc : ¬(c.val = 0x65 ∨ c.val = 0x45) := by
      intro hc
      simp only [scanExponent, hc, ↓reduceIte, List.takeWhile_nil, List.isEmpty_nil] at h
      cases h
      cases hx
      exact hc.elim hxe hxE
    simp only [scanExponent, hc, ↓reduceIte] at h
    cases h
    simp only [List.cons_append, scanExponent, hc, ↓reduceIte]
  | c :: d :: s =>
    by_cases hc : c.val = 0x65 ∨ c.val = 0x45
    · simp only [scanExponent, hc, ↓reduceIte, List.cons_append] at h ⊢
      by_cases hd : d.val = 0x2B ∨ d.val = 0x2D
      · simp only [hd, ↓reduceIte] at h ⊢
        split at h
        · cases h
          cases hx
          exact absurd hc fun hc ↦ hc.elim hxe hxE
        · next he =>
          cases h
          have hne : s.dropWhile Decimal.isDigit ≠ [] := by
            rw [hx]
            simp
          obtain ⟨ht, hdrop⟩ := takeWhile_append_of_drop (t := t) hne
          rw [ht, hdrop, if_neg he]
      · simp only [hd, ↓reduceIte] at h ⊢
        split at h
        · cases h
          cases hx
          exact absurd hc fun hc ↦ hc.elim hxe hxE
        · next he =>
          cases h
          have hne : (d :: s).dropWhile Decimal.isDigit ≠ [] := by
            rw [hx]
            simp
          obtain ⟨ht, hdrop⟩ := takeWhile_append_of_drop (t := t) hne
          simp only [List.cons_append] at ht hdrop
          rw [ht, hdrop, if_neg he]
    · simp only [scanExponent, hc, ↓reduceIte] at h
      cases h
      simp only [List.cons_append, scanExponent, hc, ↓reduceIte]

private theorem scanExponent_rest {s exponent rest : Text}
    (h : scanExponent s = (exponent, rest)) (hr : Ended rest) :
    s ≠ [] ∧ s.head? ≠ some 0x2E := by
  obtain ⟨x, xs, hx, -, hxd, -⟩ := hr
  cases s with
  | nil =>
    cases h
    cases hx
  | cons c s =>
    refine ⟨by simp, fun hc ↦ ?_⟩
    cases hc
    simp only [scanExponent] at h
    rw [if_neg (by decide)] at h
    cases h
    cases hx
    exact hxd rfl

private theorem scanFraction_rest {s fraction rest : Text}
    (h : scanFraction s = (fraction, rest)) (hne : rest ≠ []) : s ≠ [] := by
  rintro rfl
  cases h
  exact hne rfl

private theorem scanUnsigned_append {sign s t rest : Text} {v : Json}
    (h : scanUnsigned sign s = some (v, rest)) (hr : Ended rest) :
    scanUnsigned sign (s ++ t) = some (v, rest ++ t) := by
  unfold scanUnsigned at h ⊢
  cases hd : scanDigits s with
  | none =>
    rw [hd] at h
    cases h
  | some p =>
    obtain ⟨digits, r1⟩ := p
    rw [hd] at h
    cases hf : scanFraction r1 with
    | mk fraction r2 =>
      cases he : scanExponent r2 with
      | mk exponent r3 =>
        simp only [hf, he] at h
        have hr3 : r3 = rest := by
          split at h
          all_goals
            cases h
            rfl
        subst hr3
        obtain ⟨hne, hdot⟩ := scanExponent_rest he hr
        rw [scanDigits_append hd (scanFraction_rest hf hne)]
        simp only [scanFraction_append_rest hf hne hdot, scanExponent_append_rest he hr]
        split at h
        · cases h
          rw [if_pos ‹_›]
        · cases h
          rw [if_neg ‹_›]

private theorem scanNumber_append {s t rest : Text} {v : Json}
    (h : scanNumber s = some (v, rest)) (hr : Ended rest) :
    scanNumber (s ++ t) = some (v, rest ++ t) := by
  cases s with
  | nil => cases h
  | cons c s =>
    simp only [scanNumber, List.cons_append] at h ⊢
    split at h
    · rw [if_pos ‹_›]
      exact scanUnsigned_append h hr
    · rw [if_neg ‹_›]
      exact scanUnsigned_append h hr

/-- A number starts with a digit, possibly after a sign. -/
private theorem scanNumber_head {c : CodePoint} {s rest : Text} {v : Json}
    (h : scanNumber (c :: s) = some (v, rest)) :
    Decimal.isDigit c = true ∨ (c.val = 0x2D ∧ ∃ d s', s = d :: s' ∧ Decimal.isDigit d = true) := by
  have hdig : ∀ sign d s', scanUnsigned sign (d :: s') = some (v, rest) →
      Decimal.isDigit d = true := by
    intro sign d s' hu
    unfold scanUnsigned scanDigits at hu
    by_cases h0 : d.val = 0x30
    · simp [Decimal.isDigit, h0]
    · cases hd : Decimal.isDigit d with
      | true => rfl
      | false => simp [h0, hd] at hu
  simp only [scanNumber] at h
  split at h
  · next hc =>
    cases s with
    | nil => cases h
    | cons d s => exact .inr ⟨hc, d, s, rfl, hdig _ d s h⟩
  · exact .inl (hdig _ c s h)

private theorem scanAtom_append {s t rest : Text} {v : Json}
    (h : scanAtom s = some (v, rest)) (hr : Ended rest) :
    scanAtom (s ++ t) = some (v, rest ++ t) := by
  cases s with
  | nil => cases h
  | cons c s =>
    simp only [scanAtom, List.cons_append] at h ⊢
    cases hw : wordOf c with
    | none =>
      rw [hw] at h
      simpa only [List.cons_append] using scanNumber_append (t := t) h hr
    | some w =>
      obtain ⟨word, u⟩ := w
      rw [hw] at h
      simp only at h ⊢
      cases hp : afterPrefix word (c :: s) with
      | some r =>
        simp only [hp, Option.some.injEq, Prod.mk.injEq] at h
        obtain ⟨rfl, rfl⟩ := h
        unfold afterPrefix at hp
        split at hp
        · next hpre =>
          cases hp
          have hle := (List.isPrefixOf_iff_prefix.mp hpre).length_le
          have : word.isPrefixOf (c :: (s ++ t)) = true :=
            List.isPrefixOf_iff_prefix.mpr
              ((List.isPrefixOf_iff_prefix.mp hpre).trans (List.prefix_append (c :: s) t))
          rw [afterPrefix, if_pos this, ← List.cons_append, List.drop_append_of_le_length hle]
        · cases hp
      | none =>
        simp only [hp] at h
        have hnone : afterPrefix word (c :: (s ++ t)) = none := by
          rcases scanNumber_head h with hd | ⟨hc, d, s', rfl, hd⟩
          · -- a digit starts no word
            simp only [Decimal.isDigit, Bool.and_eq_true, decide_eq_true_eq] at hd
            unfold wordOf at hw
            rw [if_neg (by omega), if_neg (by omega), if_neg (by omega), if_neg (by omega),
              if_neg (by omega), if_neg (by omega)] at hw
            cases hw
          · have hcw : c = 0x2D := Fin.ext hc
            subst hcw
            cases hw
            have hne : ((73 : CodePoint) == d) = false := by
              rw [beq_eq_false_iff_ne]
              rintro rfl
              simp [Decimal.isDigit] at hd
            simp [afterPrefix,
              show lit "-Infinity" = [45, 73, 110, 102, 105, 110, 105, 116, 121] from rfl,
              List.isPrefixOf, hne]
        rw [hnone]
        simpa only [List.cons_append] using scanNumber_append (t := t) h hr

/-! ### Values -/

private theorem skipBlank_append {s t : Text} (h : skipBlank s ≠ []) :
    skipBlank (s ++ t) = skipBlank s ++ t := (takeWhile_append_of_drop h).2

private theorem ended_of_skipBlank {s rest : Text} {d : CodePoint} (h : skipBlank s = d :: rest)
    (hd : d.val = 0x5D ∨ d.val = 0x7D ∨ d.val = 0x2C) : Ended s := by
  cases s with
  | nil => cases h
  | cons c s =>
    rw [skipBlank, List.dropWhile_cons] at h
    split at h
    · next hb =>
      refine ⟨c, s, rfl, ?_⟩
      simp only [isBlank, Bool.or_eq_true, beq_iff_eq] at hb
      simp only [Decimal.isDigit, Bool.and_eq_false_iff, decide_eq_false_iff_not]
      omega
    · cases h
      refine ⟨d, rest, rfl, ?_⟩
      simp only [Decimal.isDigit, Bool.and_eq_false_iff, decide_eq_false_iff_not]
      omega

/-- Whether a text starts a string, an object or an array, whose end needs no look-ahead. -/
private def Enclosed (s : Text) : Prop :=
  ∃ c rest, s = c :: rest ∧ (c.val = 0x22 ∨ c.val = 0x7B ∨ c.val = 0x5B)

private theorem scanValue_nil (fuel : Nat) : scanValue fuel [] = none := by
  cases fuel <;> rfl

private theorem scanItems_nil (fuel : Nat) : scanItems fuel [] = none := by
  cases fuel with
  | zero => rfl
  | succ fuel => rw [scanItems, scanValue_nil]; rfl

private theorem scanMembers_nil (fuel : Nat) : scanMembers fuel [] = none := by
  cases fuel <;> rfl

/-- More text after a scanned value, and more fuel, change neither the value nor what was
consumed. -/
private theorem scan_append (fuel : Nat) (t : Text) :
    (∀ m s v rest, fuel ≤ m → scanValue fuel s = some (v, rest) → Ended rest ∨ Enclosed s →
      scanValue m (s ++ t) = some (v, rest ++ t)) ∧
    (∀ m s items rest, fuel ≤ m → scanItems fuel s = some (items, rest) →
      scanItems m (s ++ t) = some (items, rest ++ t)) ∧
    (∀ m s members rest, fuel ≤ m → scanMembers fuel s = some (members, rest) →
      scanMembers m (s ++ t) = some (members, rest ++ t)) := by
  induction fuel with
  | zero => exact ⟨fun _ _ _ _ _ h ↦ (by cases h), fun _ _ _ _ _ h ↦ (by cases h),
      fun _ _ _ _ _ h ↦ (by cases h)⟩
  | succ fuel ih =>
    obtain ⟨ihv, ihi, ihm⟩ := ih
    have hmember : ∀ s d r, skipBlank s = d :: r → skipBlank (s ++ t) = d :: (r ++ t) := by
      intro s d r h
      rw [skipBlank_append (by rw [h]; simp), h, List.cons_append]
    refine ⟨fun m s v rest hm h hend ↦ ?_, fun m s items rest hm h ↦ ?_,
      fun m s members rest hm h ↦ ?_⟩ <;> obtain ⟨m, rfl⟩ : ∃ n, m = n + 1 := ⟨m - 1, by omega⟩
    · cases s with
      | nil => cases h
      | cons c s =>
        simp only [scanValue, List.cons_append] at h ⊢
        split at h
        · -- a string
          simp only [Option.bind_eq_bind, Option.bind_eq_some_iff, Option.pure_def,
            Option.some.injEq, Prod.exists, Prod.mk.injEq] at h
          obtain ⟨elements, r, hs, rfl, rfl⟩ := h
          rw [if_pos ‹_›, scanString_append hs]
          rfl
        · split at h
          · -- an object
            rw [if_neg ‹_›, if_pos ‹_›]
            cases hb : skipBlank s with
            | nil =>
              rw [hb] at h
              cases h
            | cons d r =>
              simp only [hb, hmember s d r hb] at h ⊢
              split at h
              · cases h
                rw [if_pos ‹_›]
              · simp only [Option.bind_eq_bind, Option.bind_eq_some_iff, Option.pure_def,
                  Option.some.injEq, Prod.exists, Prod.mk.injEq] at h
                obtain ⟨members, r', hs, rfl, rfl⟩ := h
                have := ihm m _ _ _ (by omega) hs
                rw [List.cons_append] at this
                rw [if_neg ‹_›, this]
                rfl
          · split at h
            · -- an array
              rw [if_neg ‹_›, if_neg ‹_›, if_pos ‹_›]
              cases hb : skipBlank s with
              | nil =>
                rw [hb] at h
                cases h
              | cons d r =>
                simp only [hb, hmember s d r hb] at h ⊢
                split at h
                · cases h
                  rw [if_pos ‹_›]
                · simp only [Option.bind_eq_bind, Option.bind_eq_some_iff, Option.pure_def,
                    Option.some.injEq, Prod.exists, Prod.mk.injEq] at h
                  obtain ⟨items, r', hs, rfl, rfl⟩ := h
                  have := ihi m _ _ _ (by omega) hs
                  rw [List.cons_append] at this
                  rw [if_neg ‹_›, this]
                  rfl
            · rw [if_neg ‹_›, if_neg ‹_›, if_neg ‹_›]
              have he : Ended rest := hend.resolve_right (by
                rintro ⟨d, r, hd, hc⟩
                cases hd
                omega)
              simpa only [List.cons_append] using scanAtom_append (t := t) h he
    · simp only [scanItems, Option.bind_eq_bind, Option.bind_eq_some_iff, Prod.exists] at h ⊢
      obtain ⟨v, r, hv, h⟩ := h
      cases hb : skipBlank r with
      | nil =>
        rw [hb] at h
        cases h
      | cons d r' =>
        simp only [hb] at h
        split at h
        · next hd =>
          cases h
          refine ⟨v, r ++ t, ihv m _ _ _ (by omega) hv (.inl (ended_of_skipBlank hb (.inl hd))), ?_⟩
          simp only [hmember r d rest hb]
          rw [if_pos hd]
        · next hnd =>
          split at h
          · next hd =>
            simp only [Option.bind_eq_some_iff, Option.pure_def, Option.some.injEq,
              Prod.exists, Prod.mk.injEq] at h
            obtain ⟨items', r'', hs, rfl, rfl⟩ := h
            have hne : skipBlank r' ≠ [] := by
              intro he
              rw [he, scanItems_nil] at hs
              cases hs
            refine ⟨v, r ++ t,
              ihv m _ _ _ (by omega) hv (.inl (ended_of_skipBlank hb (.inr (.inr hd)))), ?_⟩
            simp only [hmember r d r' hb]
            rw [if_neg hnd, if_pos hd, skipBlank_append hne, ihi m _ _ _ (by omega) hs]
            rfl
          · cases h
    · cases s with
      | nil => cases h
      | cons c s =>
        simp only [scanMembers, List.cons_append] at h ⊢
        split at h
        · rw [if_pos ‹_›]
          simp only [Option.bind_eq_bind, Option.bind_eq_some_iff, Prod.exists] at h ⊢
          obtain ⟨elements, r, hs, h⟩ := h
          refine ⟨elements, r ++ t, scanString_append hs, ?_⟩
          cases hb : skipBlank r with
          | nil =>
            rw [hb] at h
            cases h
          | cons d r' =>
            simp only [hb, hmember r d r' hb] at h ⊢
            split at h
            · rw [if_pos ‹_›]
              simp only [Option.bind_eq_some_iff, Prod.exists] at h ⊢
              obtain ⟨v, r2, hv, h⟩ := h
              have hne : skipBlank r' ≠ [] := by
                intro he
                rw [he, scanValue_nil] at hv
                cases hv
              rw [skipBlank_append hne]
              cases hb2 : skipBlank r2 with
              | nil =>
                rw [hb2] at h
                cases h
              | cons e r3 =>
                simp only [hb2] at h
                split at h
                · next hd =>
                  cases h
                  refine ⟨v, r2 ++ t, ihv m _ _ _ (by omega) hv
                    (.inl (ended_of_skipBlank hb2 (.inr (.inl hd)))), ?_⟩
                  simp only [hmember r2 e rest hb2]
                  rw [if_pos hd]
                · next hnd =>
                  split at h
                  · next hd =>
                    simp only [Option.bind_eq_some_iff, Option.pure_def, Option.some.injEq,
                      Prod.exists, Prod.mk.injEq] at h
                    obtain ⟨members', r4, hs', rfl, rfl⟩ := h
                    have hne' : skipBlank r3 ≠ [] := by
                      intro he
                      rw [he, scanMembers_nil] at hs'
                      cases hs'
                    refine ⟨v, r2 ++ t, ihv m _ _ _ (by omega) hv
                      (.inl (ended_of_skipBlank hb2 (.inr (.inr hd)))), ?_⟩
                    simp only [hmember r2 e r3 hb2]
                    rw [if_neg hnd, if_pos hd, skipBlank_append hne', ihm m _ _ _ (by omega) hs']
                    rfl
                  · cases h
            · cases h
        · cases h

/-- No strict prefix of a written object can be read. -/
theorem parse_truncated (style : Style) {members : Dict Json} (hw : Writable (.obj members))
    {p q : Text} (hpq : dumps style (.obj members) = p ++ q) (hq : q ≠ []) : parse p = none := by
  obtain ⟨s, hs⟩ := dumps_obj_head style members
  cases p with
  | nil => rfl
  | cons c p =>
    have hc : c = 0x7B := by
      rw [hs, List.cons_append] at hpq
      cases hpq
      rfl
    subst hc
    unfold parse
    rw [if_neg (show (0x7B :: p : Text).head? ≠ some 0xFEFF by simp)]
    have hskip : ∀ r : Text, skipBlank (0x7B :: r) = 0x7B :: r := fun _ ↦ rfl
    cases h : scanValue ((0x7B :: p : Text).length + 1) (skipBlank (0x7B :: p)) with
    | none => rfl
    | some r =>
      obtain ⟨v, rest⟩ := r
      exfalso
      rw [hskip] at h
      -- the scan of the prefix is also the scan of the whole text, which leaves nothing over
      have happ := (scan_append _ q).1 ((0x7B :: p ++ q : Text).length + 1) _ v rest
        (by simp) h (.inr ⟨_, _, rfl, .inr (.inl rfl)⟩)
      have hfull := scanValue_dumps style hw (Nat.lt_succ_self _)
      rw [hpq, happ] at hfull
      simp only [Option.some.injEq, Prod.mk.injEq, List.append_eq_nil_iff] at hfull
      exact hq hfull.2.2

/-- A written object followed by more than white space cannot be read. -/
theorem parse_glued (style : Style) {members : Dict Json} (hw : Writable (.obj members))
    {s : Text} (hs : Stops s) (hne : skipBlank s ≠ []) :
    parse (dumps style (.obj members) ++ s) = none := by
  obtain ⟨r, hr⟩ := dumps_obj_head style members
  have hlen : (dumps style (.obj members)).length < (dumps style (.obj members) ++ s).length + 1 := by
    rw [List.length_append]
    omega
  have hscan := scanValue_dumps_append style hw hs hlen
  have hskip : skipBlank (dumps style (.obj members) ++ s) = dumps style (.obj members) ++ s := by
    rw [hr]
    rfl
  unfold parse
  rw [if_neg (by rw [hr]; simp), hskip, hscan]
  simp [hne]

end Json
end StateWake.Base
