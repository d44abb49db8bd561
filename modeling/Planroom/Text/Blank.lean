/-!
# Blank characters

* **Blank** — the characters with the Unicode property `White_Space`, of which core's
  `Char.isWhitespace` knows only four.
* **Trimming** — `trim` drops the blanks at both ends. A trimmed text begins and ends with a
  character that is not blank.
-/

namespace Planroom.Text

/-- **The blank characters**: the 25 characters with the property `White_Space`. -/
def isBlank (c : Char) : Bool :=
  let n := c.toNat
  (0x09 ≤ n && n ≤ 0x0D) || n == 0x20 || n == 0x85 || n == 0xA0 || n == 0x1680 ||
    (0x2000 ≤ n && n ≤ 0x200A) || n == 0x2028 || n == 0x2029 || n == 0x202F || n == 0x205F ||
    n == 0x3000

/-- The characters from the first one that is not blank. -/
def trimLeft (cs : List Char) : List Char :=
  cs.dropWhile isBlank

/-- The characters up to the last one that is not blank. -/
def trimRight (cs : List Char) : List Char :=
  (cs.reverse.dropWhile isBlank).reverse

/-- **Trimming.** The text without the blanks at its two ends. -/
def trim (s : String) : String :=
  String.ofList (trimRight (trimLeft s.toList))

/-- Is there nothing in the text but blanks? -/
def isBlankText (s : String) : Bool :=
  s.toList.all isBlank

/-- Dropping the blanks in front leaves nothing exactly when all is blank. -/
theorem trimLeft_eq_nil_iff {cs : List Char} : trimLeft cs = [] ↔ ∀ c ∈ cs, isBlank c = true := by
  induction cs with
  | nil => simp [trimLeft]
  | cons c r ih =>
    by_cases hc : isBlank c = true
    · simp only [trimLeft, List.dropWhile_cons, hc, if_true] at ih ⊢
      simp [ih, hc]
    · simp [trimLeft, hc]

/-- A text is all blanks exactly when trimming leaves nothing of it. -/
theorem isBlankText_iff_trim {s : String} : isBlankText s = true ↔ trim s = "" := by
  have key : trimRight (trimLeft s.toList) = [] ↔ ∀ c ∈ s.toList, isBlank c = true := by
    rw [← trimLeft_eq_nil_iff]
    constructor
    · intro h
      have hr : trimLeft (trimLeft s.toList).reverse = [] := by simpa [trimRight, trimLeft] using h
      rw [trimLeft_eq_nil_iff] at hr
      cases hl : trimLeft s.toList with
      | nil => rfl
      | cons c r =>
        have hc : isBlank c = true := hr c (by simp [hl])
        have hhead := List.head?_dropWhile_not isBlank s.toList
        simp only [trimLeft] at hl
        simp [hl, hc] at hhead
    · intro h; simp [h, trimRight]
  rw [isBlankText, List.all_eq_true, ← key, trim]
  constructor
  · intro h; simp [h]
  · intro h; simpa using congrArg String.toList h

end Planroom.Text
