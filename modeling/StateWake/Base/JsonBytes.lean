import StateWake.Base.JsonScan
import StateWake.Base.Utf8

/-!
# Reading JSON from bytes

`json.loads` of bytes: the encoding is told from the first bytes, and the text is decoded with
`surrogatepass`, so that encoded surrogates stand for themselves.

Library support; no repository notion occurs here.
-/

namespace StateWake.Base

open Text

namespace Json

/-- `b.decode("utf-8", "surrogatepass")`. -/
def decodePassing : Bytes → Option Text
  | [] => some []
  | a :: rest =>
    if a.toNat < 0x80 then (decodePassing rest).map (Fin.ofNat 0x110000 a.toNat :: ·)
    else if a.toNat < 0xC2 then none
    else if a.toNat < 0xE0 then
      match rest with
      | b :: rest =>
        if Utf8.isTail b then
          (decodePassing rest).map
            (Fin.ofNat 0x110000 ((a.toNat - 0xC0) * 0x40 + (b.toNat - 0x80)) :: ·)
        else none
      | [] => none
    else if a.toNat < 0xF0 then
      match rest with
      | b :: c :: rest =>
        let v := (a.toNat - 0xE0) * 0x1000 + (b.toNat - 0x80) * 0x40 + (c.toNat - 0x80)
        if Utf8.isTail b && Utf8.isTail c && 0x800 ≤ v then
          (decodePassing rest).map (Fin.ofNat 0x110000 v :: ·)
        else none
      | _ => none
    else if a.toNat < 0xF5 then
      match rest with
      | b :: c :: d :: rest =>
        let v := (a.toNat - 0xF0) * 0x40000 + (b.toNat - 0x80) * 0x1000 +
          (c.toNat - 0x80) * 0x40 + (d.toNat - 0x80)
        if Utf8.isTail b && Utf8.isTail c && Utf8.isTail d && 0x10000 ≤ v && v < 0x110000 then
          (decodePassing rest).map (Fin.ofNat 0x110000 v :: ·)
        else none
      | _ => none
    else none

/-- The 16-bit units of bytes, where none is left over. -/
def units16 (big : Bool) : Bytes → Option Text
  | [] => some []
  | [_] => none
  | a :: b :: rest =>
    let v := if big then a.toNat * 0x100 + b.toNat else b.toNat * 0x100 + a.toNat
    (units16 big rest).map (Fin.ofNat 0x110000 v :: ·)

/-- The 32-bit units of bytes, where none is left over and all are code points. -/
def units32 (big : Bool) : Bytes → Option Text
  | [] => some []
  | a :: b :: c :: d :: rest =>
    let (a, b, c, d) := if big then (a, b, c, d) else (d, c, b, a)
    let v := ((a.toNat * 0x100 + b.toNat) * 0x100 + c.toNat) * 0x100 + d.toNat
    if v < 0x110000 then (units32 big rest).map (Fin.ofNat 0x110000 v :: ·) else none
  | _ => none

/-- The encodings of JSON. -/
inductive Encoding where
  | utf8
  | utf16 (big : Bool)
  | utf32 (big : Bool)
  deriving DecidableEq

/-- `json.detect_encoding`, and how many bytes of a byte order mark there are. -/
def detectEncoding (b : Bytes) : Encoding × Nat :=
  if [0x00, 0x00, 0xFE, 0xFF].isPrefixOf b then (.utf32 true, 4)
  else if [0xFF, 0xFE, 0x00, 0x00].isPrefixOf b then (.utf32 false, 4)
  else if [0xFE, 0xFF].isPrefixOf b then (.utf16 true, 2)
  else if [0xFF, 0xFE].isPrefixOf b then (.utf16 false, 2)
  else if [0xEF, 0xBB, 0xBF].isPrefixOf b then (.utf8, 3)
  else match b with
  | a₀ :: a₁ :: a₂ :: a₃ :: _ =>
    if a₀ = 0 then (if a₁ = 0 then .utf32 true else .utf16 true, 0)
    else if a₁ = 0 then (if a₂ = 0 ∧ a₃ = 0 then .utf32 false else .utf16 false, 0)
    else (.utf8, 0)
  | [a₀, a₁] =>
    if a₀ = 0 then (.utf16 true, 0) else if a₁ = 0 then (.utf16 false, 0) else (.utf8, 0)
  | _ => (.utf8, 0)

/-- The text of bytes in their encoding; `none` stands for `UnicodeDecodeError`. -/
def decodeBytes (b : Bytes) : Option Text :=
  match detectEncoding b with
  | (.utf8, mark) => decodePassing (b.drop mark)
  | (.utf16 big, mark) => (units16 big (b.drop mark)).map joinSurrogates
  | (.utf32 big, mark) => units32 big (b.drop mark)

end Json
end StateWake.Base
