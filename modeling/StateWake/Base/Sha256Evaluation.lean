import StateWake.Base.Sha256

/-!
# Evaluating SHA-256

The compression function over a window of sixteen words, every new word and every chaining
word evaluated before the next round. It is the function of the preceding module; what
differs is the work of evaluating it, which does not grow with the rounds already done.
-/

namespace StateWake.Base

namespace Sha256

/-- The continuation is given the value of the number, not the expression for it. -/
def evaluated {α : Type} (n : Nat) (k : Nat → α) : α := n.rec (k 0) fun m _ ↦ k m.succ

theorem evaluated_eq {α : Type} (n : Nat) (k : Nat → α) : evaluated n k = k n := by
  cases n <;> rfl

/-- The continuation is given a state of evaluated words. -/
def State.evaluated {α : Type} (s : State) (k : State → α) : α :=
  Sha256.evaluated s.a fun a ↦ Sha256.evaluated s.b fun b ↦ Sha256.evaluated s.c fun c ↦
  Sha256.evaluated s.d fun d ↦ Sha256.evaluated s.e fun e ↦ Sha256.evaluated s.f fun f ↦
  Sha256.evaluated s.g fun g ↦ Sha256.evaluated s.h fun h ↦ k ⟨a, b, c, d, e, f, g, h⟩

theorem State.evaluated_eq {α : Type} (s : State) (k : State → α) : s.evaluated k = k s := by
  simp only [State.evaluated, Sha256.evaluated_eq]

/-- `rounds`, from the sixteen words of the window. -/
def roundsOn : List Nat → Nat → Nat → Nat → Nat → Nat → Nat → Nat → Nat → Nat → Nat → Nat → Nat →
    Nat → Nat → Nat → Nat → State → State
  | [], _, _, _, _, _, _, _, _, _, _, _, _, _, _, _, _, s => s
  | k :: ks, w0, w1, w2, w3, w4, w5, w6, w7, w8, w9, w10, w11, w12, w13, w14, w15, s =>
    let s0 := rotr 7 w1 ^^^ rotr 18 w1 ^^^ (w1 >>> 3)
    let s1 := rotr 17 w14 ^^^ rotr 19 w14 ^^^ (w14 >>> 10)
    evaluated ((s1 + w9 + s0 + w0) % modulus) fun w ↦
    (round s k w0).evaluated fun t ↦
    roundsOn ks w1 w2 w3 w4 w5 w6 w7 w8 w9 w10 w11 w12 w13 w14 w15 w t

theorem roundsOn_eq (ks : List Nat) (w0 w1 w2 w3 w4 w5 w6 w7 w8 w9 w10 w11 w12 w13 w14 w15 : Nat)
    (s : State) :
    roundsOn ks w0 w1 w2 w3 w4 w5 w6 w7 w8 w9 w10 w11 w12 w13 w14 w15 s =
      rounds ks [w0, w1, w2, w3, w4, w5, w6, w7, w8, w9, w10, w11, w12, w13, w14, w15] s := by
  induction ks generalizing w0 w1 w2 w3 w4 w5 w6 w7 w8 w9 w10 w11 w12 w13 w14 w15 s with
  | nil => rfl
  | cons k ks ih =>
    simp only [roundsOn, evaluated_eq, State.evaluated_eq, ih]
    rfl

/-- `blocks`, each from the words of its window. -/
def blocksOn : Nat → List Nat → State → State
  | 0, _, s => s
  | n + 1, ws, s =>
    (add s (match ws.take 16 with
      | [w0, w1, w2, w3, w4, w5, w6, w7, w8, w9, w10, w11, w12, w13, w14, w15] =>
        roundsOn roundConstants w0 w1 w2 w3 w4 w5 w6 w7 w8 w9 w10 w11 w12 w13 w14 w15 s
      | window => rounds roundConstants window s)).evaluated fun t ↦
    blocksOn n (ws.drop 16) t

theorem blocksOn_eq (n : Nat) (ws : List Nat) (s : State) : blocksOn n ws s = blocks n ws s := by
  induction n generalizing ws s with
  | zero => rfl
  | succ n ih =>
    rw [blocksOn, State.evaluated_eq, ih, blocks]
    congr 2
    split
    · next h => rw [roundsOn_eq, h]
    · rfl

end Sha256

open Sha256 in
/-- The digest, evaluated word by word. -/
theorem sha256_eq_evaluated (content : Bytes) : sha256 content =
    (blocksOn ((pad content).length / 64) (words (pad content)) initial).evaluated fun s ↦
      ofWords [s.a, s.b, s.c, s.d, s.e, s.f, s.g, s.h] := by
  rw [State.evaluated_eq, blocksOn_eq]
  simp only [sha256, ofWords, List.flatMap_cons, List.flatMap_nil, List.append_nil,
    List.append_assoc]

end StateWake.Base
