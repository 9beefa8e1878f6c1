import QueryWatch.Text.Basic

/-!
# UTF-16 that may be damaged

A code point above U+FFFF is written as a high and a low surrogate. Reading
never fails: a surrogate without its partner becomes one U+FFFD and what
follows it is read on its own.
-/
namespace QueryWatch.Utf16

def encodeChar (c : Char) : List UInt16 :=
  if c.toNat < 0x10000 then [UInt16.ofNat c.toNat]
  else
    let above := c.toNat - 0x10000
    [UInt16.ofNat (0xD800 + above / 0x400), UInt16.ofNat (0xDC00 + above % 0x400)]

def encode (t : Text) : List UInt16 :=
  t.flatMap encodeChar

def isHigh (u : UInt16) : Bool :=
  0xD800 ≤ u && u ≤ 0xDBFF

def isLow (u : UInt16) : Bool :=
  0xDC00 ≤ u && u ≤ 0xDFFF

def combine (high low : UInt16) : Char :=
  Char.ofNat (0x10000 + (high.toNat - 0xD800) * 0x400 + (low.toNat - 0xDC00))

def decodeLossy : List UInt16 → Text
  | [] => []
  | u :: rest =>
    if isHigh u then
      match rest with
      | [] => ['\uFFFD']
      | v :: after =>
        if isLow v then combine u v :: decodeLossy after
        else '\uFFFD' :: decodeLossy (v :: after)
    else if isLow u then '\uFFFD' :: decodeLossy rest
    else Char.ofNat u.toNat :: decodeLossy rest

end QueryWatch.Utf16
