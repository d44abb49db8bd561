/-!
# Positions in a text

A text has two coordinates: the number of characters in front of a place, and the number of bytes of
its UTF-8 encoding in front of it.

* **Offsets** — `byteOffset` takes a character position to its byte offset.
* **Slices** — `slice` cuts the bytes between two character positions out of the encoding.
* **Occurrences** — `occurrences` lists the character positions at which the bytes of a needle stand,
  overlapping ones included.

All three work on the bytes, so that a long text is walked once and never copied per position.
-/

namespace Planroom.Text

/-- The byte offset of character position `i`, defined up to the end of the text. The end itself has
an offset, too: a slice may reach to it. -/
def byteOffset : List Char → Nat → Option Nat
  | _, 0 => some 0
  | [], _ + 1 => none
  | c :: cs, i + 1 => (byteOffset cs i).map (c.utf8Size + ·)

/-- The bytes from offset `start` up to offset `stop`, if they are in order and are UTF-8. That
offsets of characters never cut one in two is not presupposed here; it is proved of `slice`. -/
def decodeRange (bytes : ByteArray) (start stop : Nat) : Option String :=
  if start ≤ stop then String.fromUTF8? (bytes.extract start stop) else none

/-- **The characters from position `start` up to position `stop`**, if both are positions of the
text and in order. Nothing is cut to size: a range that reaches beyond the text gives nothing at
all. -/
def slice (body : String) (start stop : Nat) : Option String := do
  let first ← byteOffset body.toList start
  let last ← byteOffset body.toList stop
  decodeRange body.toUTF8 first last

/-- The positions, counted from `position`, of the remaining characters at which the needle's bytes
stand; `offset` is the byte offset of the first of them. Both numbers are carried along, so that no
prefix is ever measured again. -/
def occurrencesFrom (bytes needle : ByteArray) (offset position : Nat) : List Char → List Nat
  | [] => []
  | c :: cs =>
    let later := occurrencesFrom bytes needle (offset + c.utf8Size) (position + 1) cs
    if bytes.extract offset (offset + needle.size) = needle then position :: later else later

/-- **The character positions at which the needle stands**, in ascending order. An empty needle
stands nowhere, although one could say that it stands everywhere: nobody looks for it. -/
def occurrences (body needle : String) : List Nat :=
  if needle.isEmpty then []
  else occurrencesFrom body.toUTF8 needle.toUTF8 0 0 body.toList

@[simp] theorem byteOffset_zero (cs : List Char) : byteOffset cs 0 = some 0 := by
  cases cs <;> rfl

@[simp] theorem byteOffset_nil_succ (i : Nat) : byteOffset [] (i + 1) = none := rfl

@[simp] theorem byteOffset_cons_succ (c : Char) (cs : List Char) (i : Nat) :
    byteOffset (c :: cs) (i + 1) = (byteOffset cs i).map (c.utf8Size + ·) := rfl

@[simp] theorem occurrencesFrom_nil (bytes needle : ByteArray) (offset position : Nat) :
    occurrencesFrom bytes needle offset position [] = [] := rfl

/-- The needle stands in front of the first character. -/
theorem occurrencesFrom_cons_of_eq {bytes needle : ByteArray} {offset : Nat}
    (h : bytes.extract offset (offset + needle.size) = needle) (position : Nat) (c : Char)
    (cs : List Char) :
    occurrencesFrom bytes needle offset position (c :: cs) =
      position :: occurrencesFrom bytes needle (offset + c.utf8Size) (position + 1) cs :=
  if_pos h

/-- The needle does not stand in front of the first character. -/
theorem occurrencesFrom_cons_of_ne {bytes needle : ByteArray} {offset : Nat}
    (h : bytes.extract offset (offset + needle.size) ≠ needle) (position : Nat) (c : Char)
    (cs : List Char) :
    occurrencesFrom bytes needle offset position (c :: cs) =
      occurrencesFrom bytes needle (offset + c.utf8Size) (position + 1) cs :=
  if_neg h

end Planroom.Text
