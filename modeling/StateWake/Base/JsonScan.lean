import StateWake.Base.JsonText

/-!
# Reading JSON

`json.loads` of a text, after the scanner of the standard library. Its errors are all
`JSONDecodeError`. Reading what `dumps` wrote gives the ordered value back, with
surrogate pairs joined when the text was escaped to ASCII.
-/

namespace StateWake.Base

open Text

namespace Json

/-! ### Strings -/

/-- The value of a hexadecimal digit. -/
def hexValue (c : CodePoint) : Option Nat :=
  if 0x30 ≤ c.val ∧ c.val ≤ 0x39 then some (c.val - 0x30)
  else if 0x61 ≤ c.val ∧ c.val ≤ 0x66 then some (c.val - 0x57)
  else if 0x41 ≤ c.val ∧ c.val ≤ 0x46 then some (c.val - 0x37)
  else none

/-- Four hexadecimal digits. -/
def hexUnit (a b c d : CodePoint) : Option CodePoint := do
  let a ← hexValue a
  let b ← hexValue b
  let c ← hexValue c
  let d ← hexValue d
  pure (Fin.ofNat 0x110000 (((a * 16 + b) * 16 + c) * 16 + d))

/-- The code point of a two-character escape. -/
def unescape (c : CodePoint) : Option CodePoint :=
  if c.val = 0x22 then some 0x22
  else if c.val = 0x5C then some 0x5C
  else if c.val = 0x2F then some 0x2F
  else if c.val = 0x62 then some 0x08
  else if c.val = 0x66 then some 0x0C
  else if c.val = 0x6E then some 0x0A
  else if c.val = 0x72 then some 0x0D
  else if c.val = 0x74 then some 0x09
  else none

/-- The elements of a string literal after its opening quote, each marked when it was
written `\uXXXX`, and the text after the closing quote. Control characters are rejected. -/
def scanString : Text → Option (List (Bool × CodePoint) × Text)
  | [] => none
  | c :: s =>
    if c.val = 0x22 then some ([], s)
    else if c.val = 0x5C then
      match s with
      | [] => none
      | e :: s =>
        if e.val = 0x75 then
          match s with
          | a :: b :: c :: d :: s => do
            let v ← hexUnit a b c d
            let (elements, s) ← scanString s
            pure ((true, v) :: elements, s)
          | _ => none
        else do
          let v ← unescape e
          let (elements, s) ← scanString s
          pure ((false, v) :: elements, s)
    else if c.val < 0x20 then none
    else do
      let (elements, s) ← scanString s
      pure ((false, c) :: elements, s)

/-- Join each escaped high surrogate with an escaped low one right after it. -/
def joinElements : List (Bool × CodePoint) → Text
  | [] => []
  | [(_, c)] => [c]
  | (e, h) :: (f, l) :: rest =>
    if e && f && isHigh h && isLow l then joinPair h l :: joinElements rest
    else h :: joinElements ((f, l) :: rest)

/-! ### Numbers and words -/

/-- The text after a prefix. -/
def afterPrefix (word s : Text) : Option Text :=
  if word.isPrefixOf s then some (s.drop word.length) else none

/-- The integer part of a number without its sign: `0|[1-9]\d*`. -/
def scanDigits (s : Text) : Option (Text × Text) :=
  match s with
  | [] => none
  | c :: rest =>
    if c.val = 0x30 then some ([c], rest)
    else if Decimal.isDigit c then some (s.takeWhile Decimal.isDigit, s.dropWhile Decimal.isDigit)
    else none

/-- The fraction `\.\d+`, empty when absent. -/
def scanFraction (s : Text) : Text × Text :=
  match s with
  | c :: d :: rest =>
    if c.val = 0x2E ∧ Decimal.isDigit d = true then
      (c :: (d :: rest).takeWhile Decimal.isDigit, (d :: rest).dropWhile Decimal.isDigit)
    else ([], s)
  | _ => ([], s)

/-- The exponent `[eE][+-]?\d+`, empty when absent. -/
def scanExponent (s : Text) : Text × Text :=
  match s with
  | c :: rest =>
    if c.val = 0x65 ∨ c.val = 0x45 then
      let (sign, rest) := match rest with
        | d :: rest' => if d.val = 0x2B ∨ d.val = 0x2D then ([d], rest') else ([], rest)
        | [] => ([], [])
      let digits := rest.takeWhile Decimal.isDigit
      if digits.isEmpty then ([], s) else (c :: sign ++ digits, rest.dropWhile Decimal.isDigit)
    else ([], s)
  | [] => ([], s)

/-- A number after its sign: an integer, or a float kept as its literal. -/
def scanUnsigned (sign s : Text) : Option (Json × Text) :=
  match scanDigits s with
  | none => none
  | some (digits, rest) =>
    let (fraction, rest) := scanFraction rest
    let (exponent, rest) := scanExponent rest
    if fraction.isEmpty && exponent.isEmpty then
      let n : Int := Decimal.value digits
      some (.int (if sign.isEmpty then n else -n), rest)
    else some (.float (sign ++ digits ++ fraction ++ exponent), rest)

/-- A number. -/
def scanNumber (s : Text) : Option (Json × Text) :=
  match s with
  | [] => none
  | c :: rest => if c.val = 0x2D then scanUnsigned [c] rest else scanUnsigned [] s

/-- The word of JSON or of its Python extension that starts with a letter. -/
def wordOf (c : CodePoint) : Option (Text × Json) :=
  if c.val = 0x6E then some (lit "null", .null)
  else if c.val = 0x74 then some (lit "true", .bool true)
  else if c.val = 0x66 then some (lit "false", .bool false)
  else if c.val = 0x4E then some (lit "NaN", .float (lit "NaN"))
  else if c.val = 0x49 then some (lit "Infinity", .float (lit "Infinity"))
  else if c.val = 0x2D then some (lit "-Infinity", .float (lit "-Infinity"))
  else none

/-- A word or a number. -/
def scanAtom (s : Text) : Option (Json × Text) :=
  match s with
  | [] => none
  | c :: _ =>
    match wordOf c with
    | none => scanNumber s
    | some (word, v) =>
      match afterPrefix word s with
      | some rest => some (v, rest)
      | none => scanNumber s

/-! ### Values -/

/-- JSON white space. -/
def isBlank (c : CodePoint) : Bool :=
  c.val == 0x20 || c.val == 0x09 || c.val == 0x0A || c.val == 0x0D

/-- The text after leading white space. -/
def skipBlank (s : Text) : Text := s.dropWhile isBlank

mutual
/-- A value at the head of a text, and the text after it. The fuel bounds the nesting. -/
def scanValue : Nat → Text → Option (Json × Text)
  | 0, _ => none
  | _ + 1, [] => none
  | fuel + 1, c :: s =>
    if c.val = 0x22 then do
      let (elements, s) ← scanString s
      pure (.str (joinElements elements), s)
    else if c.val = 0x7B then
      match skipBlank s with
      | [] => none
      | d :: s =>
        if d.val = 0x7D then some (.obj [], s)
        else do
          let (members, s) ← scanMembers fuel (d :: s)
          pure (.obj (Dict.ofPairs members), s)
    else if c.val = 0x5B then
      match skipBlank s with
      | [] => none
      | d :: s =>
        if d.val = 0x5D then some (.arr [], s)
        else do
          let (items, s) ← scanItems fuel (d :: s)
          pure (.arr items, s)
    else scanAtom (c :: s)

/-- Array elements up to and past the closing bracket. -/
def scanItems : Nat → Text → Option (List Json × Text)
  | 0, _ => none
  | fuel + 1, s => do
    let (v, s) ← scanValue fuel s
    match skipBlank s with
    | [] => none
    | d :: s =>
      if d.val = 0x5D then some ([v], s)
      else if d.val = 0x2C then do
        let (items, s) ← scanItems fuel (skipBlank s)
        pure (v :: items, s)
      else none

/-- Object members up to and past the closing brace. -/
def scanMembers : Nat → Text → Option (List (Text × Json) × Text)
  | 0, _ => none
  | _ + 1, [] => none
  | fuel + 1, c :: s =>
    if c.val = 0x22 then do
      let (elements, s) ← scanString s
      match skipBlank s with
      | [] => none
      | d :: s =>
        if d.val = 0x3A then do
          let (v, s) ← scanValue fuel (skipBlank s)
          match skipBlank s with
          | [] => none
          | d :: s =>
            if d.val = 0x7D then some ([(joinElements elements, v)], s)
            else if d.val = 0x2C then do
              let (members, s) ← scanMembers fuel (skipBlank s)
              pure ((joinElements elements, v) :: members, s)
            else none
        else none
    else none
end

/-- The value a text denotes, when it is one value between white space. -/
def parse (s : Text) : Option Json :=
  if s.head? = some 0xFEFF then none
  else
    match scanValue (s.length + 1) (skipBlank s) with
    | some (v, rest) => if (skipBlank rest).isEmpty then some v else none
    | none => none

/-- `json.loads(text)`. -/
def loads (s : Text) : Except PyError Json := orRaise ⟨.jsonDecodeError, []⟩ (parse s)

end Json
end StateWake.Base
