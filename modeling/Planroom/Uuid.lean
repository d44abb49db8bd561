import Planroom.Json.Token
import Planroom.Json.Printer

/-!
# Universally unique identifiers

An identifier is 32 hexadecimal digits. It is written in groups of 8, 4, 4, 4 and 12 with hyphens
between them, in lower case; it is read in four forms and either case:

* **simple** — the digits alone;
* **hyphenated** — as written;
* **braced** — hyphenated, in curly brackets;
* **urn** — hyphenated, after `urn:uuid:`, which is read in either case too.

`canonical?` reads the hyphenated form only. Reading what was written gives the identifier back
(`canonical?_text`).
-/

namespace Planroom

/-- **An identifier**: 32 hexadecimal digits. The four forms in which it may be written, and the
case of the letters, are not part of it, so that two spellings of one identifier are equal once they
are read. -/
structure Uuid where
  digits : List (Fin 16)
  length_eq : digits.length = 32
  deriving DecidableEq, Repr

namespace Uuid

/-- The identifier whose digits are all zero. -/
def zero : Uuid :=
  ⟨List.replicate 32 0, by simp⟩

instance : Inhabited Uuid := ⟨zero⟩

/-- The identifier with these digits, if they are 32. -/
def ofDigits? (ds : List (Fin 16)) : Option Uuid :=
  if h : ds.length = 32 then some ⟨ds, h⟩ else none

/-- A digit as a character, in lower case. -/
def digitChar (d : Fin 16) : Char :=
  Json.hexDigit d

/-- The digit that a character of either case stands for. What is written has lower case, but what
is read need not. -/
def digit? (c : Char) : Option (Fin 16) :=
  (Json.hexValue? c).map (Fin.ofNat 16)

/-- The sizes of the groups of digits between the hyphens. -/
def groups : List Nat := [8, 4, 4, 4, 12]

/-- The characters of a hyphenated text: groups of digits with hyphens between them, and none at the
end. -/
def hyphenate : List Nat → List (Fin 16) → List Char
  | [], _ => []
  | [n], ds => (ds.take n).map digitChar
  | n :: ns, ds => (ds.take n).map digitChar ++ '-' :: hyphenate ns (ds.drop n)

/-- **The text of an identifier**, hyphenated and in lower case. It is the only form in which one
ever leaves the program. -/
def text (id : Uuid) : String :=
  String.ofList (hyphenate groups id.digits)

/-- The digits of a text of exactly `n` hexadecimal digits followed by something, and that. -/
def readGroup : Nat → List Char → Option (List (Fin 16) × List Char)
  | 0, cs => some ([], cs)
  | _ + 1, [] => none
  | n + 1, c :: cs => do
    let d ← digit? c
    let (ds, rest) ← readGroup n cs
    return (d :: ds, rest)

/-- The digits of groups with hyphens between them, with nothing after the last one. The hyphens
must stand just there; nothing is skipped. -/
def readGroups : List Nat → List Char → Option (List (Fin 16))
  | [], [] => some []
  | [], _ :: _ => none
  | [n], cs => do
    let (ds, rest) ← readGroup n cs
    if rest.isEmpty then return ds else none
  | n :: ns, cs => do
    let (ds, rest) ← readGroup n cs
    match rest with
    | '-' :: rest => return ds ++ (← readGroups ns rest)
    | _ => none

/-- The identifier of a hyphenated text. -/
def ofHyphenated? (cs : List Char) : Option Uuid :=
  (readGroups groups cs).bind ofDigits?

/-- The identifier of a text of digits alone. -/
def ofSimple? (cs : List Char) : Option Uuid :=
  (readGroups [32] cs).bind ofDigits?

/-- **The canonical form**: hyphenated, in either case. Blanks around it are not taken off here. -/
def canonical? (s : String) : Option Uuid :=
  ofHyphenated? s.toList

/-- The characters between two curly brackets, if there is one at either end. -/
def unbrace? (cs : List Char) : Option (List Char) :=
  match cs with
  | '\x7b' :: rest =>
    match rest.reverse with
    | '\x7d' :: inner => some inner.reverse
    | _ => none
  | _ => none

/-- The characters in front of the hyphenated text in the urn form, in lower case. -/
def urnHead : List Char := ['u', 'r', 'n', ':', 'u', 'u', 'i', 'd', ':']

/-- The characters after the head of the urn form, which is read in either case. -/
def unurn? (cs : List Char) : Option (List Char) :=
  if (cs.take urnHead.length).map Char.toLower = urnHead then some (cs.drop urnHead.length)
  else none

/-- **Any of the four forms.** No text has two of them, so that the order in which they are tried
does not matter. -/
def parse? (s : String) : Option Uuid :=
  let cs := s.toList
  match ofSimple? cs with
  | some id => some id
  | none =>
    match ofHyphenated? cs with
    | some id => some id
    | none =>
      match (unbrace? cs).bind ofHyphenated? with
      | some id => some id
      | none => (unurn? cs).bind ofHyphenated?

/-- The digits of a number to the base 16, the last `n` of them. -/
def digitsOfNat : Nat → Nat → List (Fin 16)
  | 0, _ => []
  | n + 1, value => digitsOfNat n (value / 16) ++ [Fin.ofNat 16 value]

theorem length_digitsOfNat (n value : Nat) : (digitsOfNat n value).length = n := by
  induction n generalizing value with
  | zero => rfl
  | succ n ih => simp [digitsOfNat, ih]

/-- The identifier that a number below `2 ^ 128` is written as. -/
def ofNat (value : Nat) : Uuid :=
  ⟨digitsOfNat 32 value, length_digitsOfNat 32 value⟩

/-! ## Writing, then reading -/

@[simp] theorem digit?_digitChar (d : Fin 16) : digit? (digitChar d) = some d := by
  revert d; decide

theorem readGroup_map (ds : List (Fin 16)) (rest : List Char) :
    readGroup ds.length (ds.map digitChar ++ rest) = some (ds, rest) := by
  induction ds with
  | nil => rfl
  | cons d ds ih => simp [readGroup, ih]

/-- The number of digits in groups of these sizes. -/
def total : List Nat → Nat
  | [] => 0
  | n :: ns => n + total ns

/-- Groups that were written with hyphens between them are read back. The induction is on the
groups: each takes its digits off the front and leaves the others to the rest. -/
theorem readGroups_hyphenate (ns : List Nat) (ds : List (Fin 16)) (h : ds.length = total ns) :
    readGroups ns (hyphenate ns ds) = some ds := by
  induction ns generalizing ds with
  | nil =>
    have : ds = [] := List.length_eq_zero_iff.1 h
    simp [this, hyphenate, readGroups]
  | cons n ns ih =>
    rw [total] at h
    have hn : (ds.take n).length = n := by simp; omega
    have hread := readGroup_map (ds.take n)
    rw [hn] at hread
    -- the last group has no hyphen behind it, and nothing may follow it
    cases ns with
    | nil =>
      have hall : ds.take n = ds := List.take_of_length_le (by rw [total] at h; omega)
      have hone := hread []
      rw [List.append_nil, hall] at hone
      simp only [hyphenate, readGroups, hall]
      rw [hone]
      rfl
    | cons m ms =>
      have hrest := ih (ds.drop n) (by rw [List.length_drop]; omega)
      simp only [hyphenate, readGroups]
      rw [hread]
      simp [hrest]

/-- **Writing, then reading** gives the identifier back. So two identifiers with the same text are
the same. -/
theorem canonical?_text (id : Uuid) : canonical? id.text = some id := by
  have h := readGroups_hyphenate groups id.digits (by rw [id.length_eq]; rfl)
  simp [canonical?, ofHyphenated?, text, h, ofDigits?, id.length_eq]

end Uuid

end Planroom
