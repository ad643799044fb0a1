import Yatagarasu.Library.Points

/-! URL-safe base64, lowercase hex, and the text decodings that `json.loads` applies to bytes. -/

namespace Encodings

open PyStr

def alphabet : List Char :=
  "ABCDEFGHIJKLMNOPQRSTUVWXYZabcdefghijklmnopqrstuvwxyz0123456789-_".toList

def digit (n : Nat) : Char := alphabet.getD n 'A'

/-- The reader also takes the two digits of the standard alphabet. -/
def digitVal (c : Char) : Option Nat :=
  if 'A' ≤ c ∧ c ≤ 'Z' then some (c.toNat - 65)
  else if 'a' ≤ c ∧ c ≤ 'z' then some (c.toNat - 71)
  else if '0' ≤ c ∧ c ≤ '9' then some (c.toNat + 4)
  else if c = '-' ∨ c = '+' then some 62
  else if c = '_' ∨ c = '/' then some 63
  else none

/-- `urlsafe_b64encode(bytes).rstrip(b"=")`. -/
def encode64 : List UInt8 → List Char
  | [] => []
  | [a] => [digit (a.toNat / 4), digit (a.toNat % 4 * 16)]
  | [a, b] =>
    [digit (a.toNat / 4), digit (a.toNat % 4 * 16 + b.toNat / 16), digit (b.toNat % 16 * 4)]
  | a :: b :: c :: rest =>
    digit (a.toNat / 4) :: digit (a.toNat % 4 * 16 + b.toNat / 16) ::
      digit (b.toNat % 16 * 4 + c.toNat / 64) :: digit (c.toNat % 64) :: encode64 rest

/-- `binascii.a2b_base64`, with the number of digits since the last whole group and the bits of them
that no byte holds yet. Other characters are passed over, and padding that completes a group ends the
text. -/
def scan64 (quad left pads : Nat) : List Char → Option (List UInt8)
  | [] => if quad = 0 then some [] else none
  | c :: cs =>
    if c = '=' then
      if 2 ≤ quad ∧ 4 ≤ quad + pads + 1 then some []
      else scan64 quad left (if 2 ≤ quad then pads + 1 else pads) cs
    else match digitVal c with
      | none => scan64 quad left pads cs
      | some v =>
        if quad = 0 then scan64 1 v 0 cs
        else if quad = 1 then (scan64 2 (v % 16) 0 cs).map (UInt8.ofNat (left * 4 + v / 16) :: ·)
        else if quad = 2 then (scan64 3 (v % 4) 0 cs).map (UInt8.ofNat (left * 16 + v / 4) :: ·)
        else (scan64 0 0 0 cs).map (UInt8.ofNat (left * 64 + v) :: ·)

/-- `"=" * (-length % 4)` -/
def padding (length : Nat) : List Char := List.replicate ((4 - length % 4) % 4) '='

/-- `urlsafe_b64decode` of a text after its padding is restored. The unused low bits of the last
digit are ignored. -/
def decode64 (text : List Char) : Option (List UInt8) :=
  if text.all (·.toNat < 0x80) then scan64 0 0 0 (text ++ padding text.length) else none

/-- `bytes.hex()`. -/
def hex (bytes : List UInt8) : List Char :=
  bytes.flatMap fun b => [Nat.digitChar (b.toNat / 16), Nat.digitChar (b.toNat % 16)]

def nibble (c : Char) : Option Nat :=
  if '0' ≤ c ∧ c ≤ '9' then some (c.toNat - 48)
  else if 'a' ≤ c ∧ c ≤ 'f' then some (c.toNat - 87)
  else if 'A' ≤ c ∧ c ≤ 'F' then some (c.toNat - 55)
  else none

/-- `bytes.fromhex` of a text without spaces. -/
def unhex : List Char → Option (List UInt8)
  | [] => some []
  | [_] => none
  | a :: b :: rest =>
    match nibble a, nibble b, unhex rest with
    | some a, some b, some bytes => some (UInt8.ofNat (a * 16 + b) :: bytes)
    | _, _, _ => none

def consPoint (p : Option Point) (ps : Option (List Point)) : Option (List Point) :=
  match p, ps with
  | some p, some ps => some (p :: ps)
  | _, _ => none

def isContinuation (b : UInt8) : Bool := 0x80 ≤ b.toNat && b.toNat < 0xc0

def utf8 : List UInt8 → Option (List Point)
  | [] => some []
  | a :: rest =>
    if a.toNat < 0x80 then consPoint (Point.ofNat? a.toNat) (utf8 rest)
    else if a.toNat < 0xc2 then none
    else if a.toNat < 0xe0 then
      match rest with
      | b :: rest =>
        if isContinuation b then
          consPoint (Point.ofNat? ((a.toNat - 0xc0) * 0x40 + (b.toNat - 0x80))) (utf8 rest)
        else none
      | _ => none
    else if a.toNat < 0xf0 then
      match rest with
      | b :: c :: rest =>
        let n := (a.toNat - 0xe0) * 0x1000 + (b.toNat - 0x80) * 0x40 + (c.toNat - 0x80)
        if isContinuation b ∧ isContinuation c ∧ 0x800 ≤ n then consPoint (Point.ofNat? n) (utf8 rest)
        else none
      | _ => none
    else if a.toNat < 0xf5 then
      match rest with
      | b :: c :: d :: rest =>
        let n := (a.toNat - 0xf0) * 0x40000 + (b.toNat - 0x80) * 0x1000 +
          (c.toNat - 0x80) * 0x40 + (d.toNat - 0x80)
        if isContinuation b ∧ isContinuation c ∧ isContinuation d ∧ 0x10000 ≤ n then
          consPoint (Point.ofNat? n) (utf8 rest)
        else none
      | _ => none
    else none

/-- Code units of two bytes; `none` for an odd number of bytes. -/
def units16 (bigEndian : Bool) : List UInt8 → Option (List Nat)
  | [] => some []
  | [_] => none
  | a :: b :: rest =>
    (units16 bigEndian rest).map fun us =>
      (if bigEndian then a.toNat * 256 + b.toNat else b.toNat * 256 + a.toNat) :: us

def utf16 : List Nat → Option (List Point)
  | [] => some []
  | u :: rest =>
    match rest with
    | v :: rest =>
      if (0xd800 ≤ u ∧ u ≤ 0xdbff) ∧ 0xdc00 ≤ v ∧ v ≤ 0xdfff then
        consPoint (Point.ofNat? (pairNat u v)) (utf16 rest)
      else consPoint (Point.ofNat? u) (utf16 (v :: rest))
    | [] => consPoint (Point.ofNat? u) (utf16 [])

def utf32 (bigEndian : Bool) : List UInt8 → Option (List Point)
  | [] => some []
  | a :: b :: c :: d :: rest =>
    let n := if bigEndian then a.toNat * 0x1000000 + b.toNat * 0x10000 + c.toNat * 0x100 + d.toNat
      else d.toNat * 0x1000000 + c.toNat * 0x10000 + b.toNat * 0x100 + a.toNat
    consPoint (Point.ofNat? n) (utf32 bigEndian rest)
  | _ => none

/-- `b.decode(json.detect_encoding(b), "surrogatepass")`. -/
def decodeJsonBytes (bytes : List UInt8) : Option (List Point) :=
  if List.isPrefixOf [0xff, 0xfe, 0, 0] bytes then utf32 false (bytes.drop 4)
  else if List.isPrefixOf [0, 0, 0xfe, 0xff] bytes then utf32 true (bytes.drop 4)
  else if List.isPrefixOf [0xff, 0xfe] bytes then (units16 false (bytes.drop 2)).bind utf16
  else if List.isPrefixOf [0xfe, 0xff] bytes then (units16 true (bytes.drop 2)).bind utf16
  else if List.isPrefixOf [0xef, 0xbb, 0xbf] bytes then utf8 (bytes.drop 3)
  else match bytes with
    | a :: b :: c :: d :: _ =>
      if a = 0 then
        if b = 0 then utf32 true bytes else (units16 true bytes).bind utf16
      else if b = 0 then
        if c = 0 ∧ d = 0 then utf32 false bytes else (units16 false bytes).bind utf16
      else utf8 bytes
    | [a, b] =>
      if a = 0 then (units16 true bytes).bind utf16
      else if b = 0 then (units16 false bytes).bind utf16
      else utf8 bytes
    | _ => utf8 bytes

end Encodings
