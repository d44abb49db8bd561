import Planroom.Text.CaseTables

/-!
# Lower case

* **ASCII** — `asciiLower` moves `A` to `Z` and nothing else: names of states, roles and schemes are
  compared under it.
* **Unicode** — `lowercase` applies the full mapping: a dotted capital I becomes two characters, and
  a capital sigma becomes `ς` at the end of a word and `σ` elsewhere. Searches compare under it.
-/

namespace Planroom.Text

/-- The text with the letters `A` to `Z` in lower case. -/
def asciiLower (s : String) : String :=
  String.ofList (s.toList.map Char.toLower)

/-- Do two texts differ at most in the case of ASCII letters? -/
def equalIgnoringCase (s t : String) : Bool :=
  asciiLower s == asciiLower t

/-- Does the character lie in one of the inclusive ranges? -/
def inRanges (ranges : List (Nat × Nat)) (c : Char) : Bool :=
  ranges.any fun range => range.1 ≤ c.toNat && c.toNat ≤ range.2

/-- Is the code point `n` one of the run's? -/
def CaseRun.contains (run : CaseRun) (n : Nat) : Bool :=
  run.first ≤ n && n ≤ run.last && (n - run.first) % run.stride == 0

/-- The one-character lower-case form, the character itself where there is none. -/
def lowerChar (c : Char) : Char :=
  if c.toNat < 0x80 then c.toLower
  else match lowerRuns.find? (·.contains c.toNat) with
    | some run => Char.ofNat (c.toNat + run.offset).toNat
    | none => c

/-- Upper-case, lower-case and title-case characters. -/
def isCased (c : Char) : Bool :=
  inRanges casedRanges c

/-- Marks and signs that neither start nor end a word. -/
def isCaseIgnorable (c : Char) : Bool :=
  inRanges caseIgnorableRanges c

/-- Is the first character that counts, going outwards, a cased one? -/
def touchesWord (cs : List Char) : Bool :=
  match cs.dropWhile isCaseIgnorable with
  | [] => false
  | c :: _ => isCased c

/-- The form of a capital sigma between the characters `before` it, nearest first, and those
`after` it. -/
def lowerSigma (before after : List Char) : Char :=
  if touchesWord before && !touchesWord after then 'ς' else 'σ'

/-- The full lower-case form of a text whose earlier characters, nearest first, are `before`. -/
def lowercaseFrom (before : List Char) : List Char → List Char
  | [] => []
  | c :: after =>
    (if c = 'Σ' then [lowerSigma before after]
      else if c = 'İ' then ['i', '\u0307']
      else [lowerChar c]) ++ lowercaseFrom (c :: before) after

/-- **Full lower-casing.** -/
def lowercase (s : String) : String :=
  String.ofList (lowercaseFrom [] s.toList)

end Planroom.Text
