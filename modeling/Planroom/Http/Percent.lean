import Planroom.Json.Token

/-!
# Percent-escapes

In a path, `%` and two hexadecimal digits stand for a byte. A `%` without two such digits stands for
itself. The bytes of a part of a path must be a text in UTF-8.
-/

namespace Planroom.Http

/-- The value of a byte that is a hexadecimal digit of either case. Beyond ASCII there is none. -/
def hexByte? (b : UInt8) : Option Nat :=
  Json.hexValue? (Char.ofNat b.toNat)

/-- The byte of an escape with these two digits. -/
def escapedByte? (high low : UInt8) : Option UInt8 := do
  let high ← hexByte? high
  let low ← hexByte? low
  return UInt8.ofNat (high * 16 + low)

/-- The byte that marks an escape. -/
def percentSign : UInt8 := 0x25

/-- The bytes with their escapes replaced. A byte that came from an escape begins no other one. -/
def percentDecodeBytes : List UInt8 → List UInt8
  | [] => []
  | b :: high :: low :: rest =>
    if b = percentSign then
      match escapedByte? high low with
      | some byte => byte :: percentDecodeBytes rest
      | none => b :: percentDecodeBytes (high :: low :: rest)
    else b :: percentDecodeBytes (high :: low :: rest)
  | b :: rest => b :: percentDecodeBytes rest

/-- **The text of a part of a path**, if it is one. An escaped slash is a character like others
here: the path has been split before. -/
def percentDecode? (part : String) : Option String :=
  String.fromUTF8? ⟨(percentDecodeBytes part.toUTF8.toList).toArray⟩

end Planroom.Http
