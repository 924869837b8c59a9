/-
  Reading JSON: `json.loads` of bytes.

  1. **Decoding** — the encoding is guessed from the first bytes (`detectEncoding`), and the bytes are
     decoded with `surrogatepass`: lone surrogates come through.
  2. **Scanning** — `scanOnce` reads one value and leaves the rest.  Its recursion is bounded by fuel;
     every two levels take a character, so `loads` gives twice the length of the text and never runs
     out.
  3. **Strings** — a string is scanned to its units first, an escaped one marked as such, and then
     adjacent escaped surrogates are joined.  A pair that stands in the text unescaped stays a pair.

  A failure is one exception here: `JSONDecodeError`, `UnicodeDecodeError`, or the `ValueError` of an
  integer with too many digits.
-/
import T2TouchId.Python.Json.Write

namespace T2TouchId.Python.Json

/-! ## Decoding -/

inductive Encoding
  | utf8
  | utf8Sig
  | utf16
  | utf16be
  | utf16le
  | utf32
  | utf32be
  | utf32le
  deriving DecidableEq

/-- `json.detect_encoding`. -/
def detectEncoding (b : Bytes) : Encoding :=
  if [0x00, 0x00, 0xFE, 0xFF].isPrefixOf b || [0xFF, 0xFE, 0x00, 0x00].isPrefixOf b then .utf32
  else if [0xFE, 0xFF].isPrefixOf b || [0xFF, 0xFE].isPrefixOf b then .utf16
  else if [0xEF, 0xBB, 0xBF].isPrefixOf b then .utf8Sig
  else
    match b with
    | b0 :: b1 :: b2 :: b3 :: _ =>
      if b0 = 0 then if b1 = 0 then .utf32be else .utf16be
      else if b1 = 0 then if b2 = 0 ∧ b3 = 0 then .utf32le else .utf16le
      else .utf8
    | [b0, b1] => if b0 = 0 then .utf16be else if b1 = 0 then .utf16le else .utf8
    | _ => .utf8

def isContinuation (b : UInt8) : Bool := 0x80 ≤ b.toNat ∧ b.toNat ≤ 0xBF

/-- UTF-8 with `surrogatepass`: no overlong form, nothing above `0x10FFFF`. -/
def utf8Decode : Bytes → Option PyStr
  | [] => some []
  | b0 :: rest =>
    if b0.toNat < 0x80 then do return Fin.ofNat _ b0.toNat :: (← utf8Decode rest)
    else if b0.toNat < 0xC2 then none
    else if b0.toNat < 0xE0 then
      match rest with
      | b1 :: rest =>
        let n := (b0.toNat - 0xC0) * 0x40 + (b1.toNat - 0x80)
        if isContinuation b1 then do return Fin.ofNat _ n :: (← utf8Decode rest) else none
      | _ => none
    else if b0.toNat < 0xF0 then
      match rest with
      | b1 :: b2 :: rest =>
        let n := (b0.toNat - 0xE0) * 0x1000 + (b1.toNat - 0x80) * 0x40 + (b2.toNat - 0x80)
        if isContinuation b1 ∧ isContinuation b2 ∧ 0x800 ≤ n then do
          return Fin.ofNat _ n :: (← utf8Decode rest)
        else none
      | _ => none
    else
      match rest with
      | b1 :: b2 :: b3 :: rest =>
        let n := (b0.toNat - 0xF0) * 0x40000 + (b1.toNat - 0x80) * 0x1000
          + (b2.toNat - 0x80) * 0x40 + (b3.toNat - 0x80)
        if isContinuation b1 ∧ isContinuation b2 ∧ isContinuation b3
            ∧ 0x10000 ≤ n ∧ n < 0x110000 then do
          return Fin.ofNat _ n :: (← utf8Decode rest)
        else none
      | _ => none

def isHighSurrogate (c : CodePoint) : Bool := 0xD800 ≤ c.val ∧ c.val ≤ 0xDBFF

def isLowSurrogate (c : CodePoint) : Bool := 0xDC00 ≤ c.val ∧ c.val ≤ 0xDFFF

/-- The character a surrogate pair stands for. -/
def joinPair (high low : CodePoint) : CodePoint :=
  Fin.ofNat _ (0x10000 + (high.val - 0xD800) * 0x400 + (low.val - 0xDC00))

/-- Joins every adjacent pair of marked surrogates. -/
def joinSurrogates : List (CodePoint × Bool) → PyStr
  | [] => []
  | [(u, _)] => [u]
  | (u, m) :: (v, n) :: rest =>
    if m ∧ n ∧ isHighSurrogate u ∧ isLowSurrogate v then joinPair u v :: joinSurrogates rest
    else u :: joinSurrogates ((v, n) :: rest)

/-- The code units of UTF-16; the last byte must not stand alone. -/
def utf16Units (bigEndian : Bool) : Bytes → Option (List (CodePoint × Bool))
  | [] => some []
  | [_] => none
  | a :: b :: rest => do
    let n := if bigEndian then a.toNat * 0x100 + b.toNat else b.toNat * 0x100 + a.toNat
    return (Fin.ofNat _ n, true) :: (← utf16Units bigEndian rest)

def utf16Decode (bigEndian : Bool) (b : Bytes) : Option PyStr :=
  (utf16Units bigEndian b).map joinSurrogates

def utf32Decode (bigEndian : Bool) : Bytes → Option PyStr
  | [] => some []
  | b0 :: b1 :: b2 :: b3 :: rest =>
    let n := if bigEndian then Bytes.beNat [b0, b1, b2, b3] else Bytes.leNat [b0, b1, b2, b3]
    if n < 0x110000 then do return Fin.ofNat _ n :: (← utf32Decode bigEndian rest) else none
  | _ => none

/-- `s.decode(encoding, "surrogatepass")`; without an endianness the byte order mark gives it. -/
def decode (b : Bytes) : Encoding → Option PyStr
  | .utf8 => utf8Decode b
  | .utf8Sig => utf8Decode (b.drop 3)
  | .utf16 => utf16Decode (b.head? = some 0xFE) (b.drop 2)
  | .utf16be => utf16Decode true b
  | .utf16le => utf16Decode false b
  | .utf32 => utf32Decode (b.head? = some 0x00) (b.drop 4)
  | .utf32be => utf32Decode true b
  | .utf32le => utf32Decode false b

/-! ## Scanning -/

def isSpace (c : CodePoint) : Bool := c = 0x20 ∨ c = 0x09 ∨ c = 0x0A ∨ c = 0x0D

def skipSpace (s : PyStr) : PyStr := s.dropWhile isSpace

/-- Takes one character off the text. -/
def expect (c : CodePoint) : PyStr → Option PyStr
  | [] => none
  | d :: rest => if d = c then some rest else none

theorem skipSpace_cons {c : CodePoint} {rest : PyStr} (h : isSpace c = false) :
    skipSpace (c :: rest) = c :: rest :=
  List.dropWhile_cons_of_neg (by simp [h])

theorem expect_cons_ne {c d : CodePoint} {rest : PyStr} (h : d ≠ c) :
    expect c (d :: rest) = none :=
  if_neg h

def hexValue (c : CodePoint) : Option Nat :=
  if isDigit c then some (c.val - 0x30)
  else if 0x61 ≤ c.val ∧ c.val ≤ 0x66 then some (c.val - 0x57)
  else if 0x41 ≤ c.val ∧ c.val ≤ 0x46 then some (c.val - 0x37)
  else none

/-- Four hexadecimal digits. -/
def readHex (d3 d2 d1 d0 : CodePoint) : Option CodePoint := do
  let n3 ← hexValue d3
  let n2 ← hexValue d2
  let n1 ← hexValue d1
  let n0 ← hexValue d0
  return Fin.ofNat _ (n3 * 0x1000 + n2 * 0x100 + n1 * 0x10 + n0)

/-- `BACKSLASH`. -/
def shortEscape (c : CodePoint) : Option CodePoint :=
  if c = quote then some quote
  else if c = backslash then some backslash
  else if c = 0x2F then some 0x2F
  else if c = 0x62 then some 0x08
  else if c = 0x66 then some 0x0C
  else if c = 0x6E then some 0x0A
  else if c = 0x72 then some 0x0D
  else if c = 0x74 then some 0x09
  else none

/-- The units of a string up to the closing quote, those from `\uXXXX` marked. -/
def scanUnits : PyStr → Option (List (CodePoint × Bool) × PyStr)
  | [] => none
  | c :: rest =>
    if c = quote then some ([], rest)
    else if c = backslash then
      match rest with
      | [] => none
      | e :: rest =>
        if e = 0x75 then
          match rest with
          | d3 :: d2 :: d1 :: d0 :: rest => do
            let unit ← readHex d3 d2 d1 d0
            let (units, rest) ← scanUnits rest
            return ((unit, true) :: units, rest)
          | _ => none
        else do
          let unit ← shortEscape e
          let (units, rest) ← scanUnits rest
          return ((unit, false) :: units, rest)
    else if c.val < 0x20 then none
    else do
      let (units, rest) ← scanUnits rest
      return ((c, false) :: units, rest)

/-- `scanstring`, after the opening quote. -/
def scanString (s : PyStr) : Option (PyStr × PyStr) :=
  (scanUnits s).map fun (units, rest) => (joinSurrogates units, rest)

/-- The number that decimal digits spell. -/
def readNat (digits : PyStr) : Nat := Nat.ofDigits 10 (digits.reverse.map fun c => c.val - 0x30)

/-- `int()` of the digits of a number. -/
def readInt (text : PyStr) : Option Int :=
  let (negative, digits) := match text with
    | [] => (false, [])
    | c :: rest => if c = minus then (true, rest) else (false, c :: rest)
  if maxStrDigits < digits.length then none
  else some (if negative then -(readNat digits : Int) else readNat digits)

section Scan

variable {φ : Type} [JsonFloat φ]

def constants : List (PyStr × Value φ) :=
  [(py "null", .none), (py "true", .bool true), (py "false", .bool false)]
    ++ floatConstants.map fun text => (text, .float (JsonFloat.parse text))

def scanNumber (s : PyStr) : Option (Value φ × PyStr) := do
  let (integer, fraction, rest) ← matchNumber s
  if fraction = [] then return (.int (← readInt integer), rest)
  else return (.float (JsonFloat.parse (integer ++ fraction)), rest)

/-- A constant or a number. -/
def scanAtom (s : PyStr) : Option (Value φ × PyStr) :=
  match constants.find? fun e => e.1.isPrefixOf s with
  | some (text, v) => some (v, s.drop text.length)
  | none => scanNumber s

mutual

def scanOnce : Nat → PyStr → Option (Value φ × PyStr)
  | 0, _ => none
  | _ + 1, [] => none
  | fuel + 1, c :: rest =>
    if c = quote then do
      let (s, rest) ← scanString rest
      return (.str s, rest)
    else if c = openBrace then
      match expect closeBrace (skipSpace rest) with
      | some rest => some (.dict [], rest)
      | none => scanMembers fuel [] (skipSpace rest)
    else if c = openBracket then
      match expect closeBracket (skipSpace rest) with
      | some rest => some (.list [], rest)
      | none => do
        let (items, rest) ← scanElements fuel (skipSpace rest)
        return (.list items, rest)
    else scanAtom (c :: rest)

/-- The elements of an array, from the first character of one. -/
def scanElements : Nat → PyStr → Option (List (Value φ) × PyStr)
  | 0, _ => none
  | fuel + 1, s => do
    let (v, rest) ← scanOnce fuel s
    let rest := skipSpace rest
    match expect closeBracket rest with
    | some rest => return ([v], rest)
    | none => do
      let rest ← expect comma rest
      let (items, rest) ← scanElements fuel (skipSpace rest)
      return (v :: items, rest)

/-- The members of an object, from the quote of a key; a later value of a key replaces an earlier. -/
def scanMembers : Nat → List (Key φ × Value φ) → PyStr → Option (Value φ × PyStr)
  | 0, _, _ => none
  | fuel + 1, items, s => do
    let rest ← expect quote s
    let (key, rest) ← scanString rest
    let rest ← expect colon (skipSpace rest)
    let (v, rest) ← scanOnce fuel (skipSpace rest)
    let items := Value.insertItem key v items
    let rest := skipSpace rest
    match expect closeBrace rest with
    | some rest => return (.dict items, rest)
    | none => do
      let rest ← expect comma rest
      scanMembers fuel items (skipSpace rest)

end

/-- `json.loads` of decoded text: one value, and white space around it. -/
def loadsText (text : PyStr) : Option (Value φ) := do
  let (v, rest) ← scanOnce (2 * text.length + 2) (skipSpace text)
  if skipSpace rest = [] then return v else none

/-- `json.loads`. -/
def loads (b : Bytes) : Option (Value φ) := do
  loadsText (← decode b (detectEncoding b))

end Scan

end T2TouchId.Python.Json
