/-!
# Decimal numerals

* **Writing** — `digits` has no leading zero, `padded` fills up with zeros on the left.
* **Reading** — `value?` reads a non-empty run of ASCII digits, `readUnsigned` a bounded number that
  may start with a plus sign.

Reading what was written gives the number back (`valueFrom_digits`).
-/

namespace Planroom.Text

/-- The digit `n` as a character, for `n` below ten. -/
def digitChar (n : Nat) : Char :=
  Char.ofNat (0x30 + n)

/-- The number that an ASCII digit stands for. Digits of other scripts are none here, as they are
none in references and in identifiers. -/
def digitValue? (c : Char) : Option Nat :=
  if '0' ≤ c ∧ c ≤ '9' then some (c.toNat - 0x30) else none

/-- Is the character one of `0` to `9`? -/
def isDigit (c : Char) : Bool :=
  (digitValue? c).isSome

/-- **The decimal digits of a number**, most significant first. Zero has one digit, and any other
number has no zero in front. -/
def digits (n : Nat) : List Char :=
  if n < 10 then [digitChar n] else digits (n / 10) ++ [digitChar (n % 10)]

/-- The decimal text of a number. -/
def decimal (n : Nat) : String :=
  String.ofList (digits n)

/-- The decimal text of a signed number. -/
def signedDecimal (n : Int) : String :=
  if n < 0 then "-" ++ decimal n.natAbs else decimal n.natAbs

/-- The digits of a number with zeros in front up to the given width. A number that is wider than
that keeps all its digits. -/
def padded (width n : Nat) : String :=
  let ds := digits n
  String.ofList (List.replicate (width - ds.length) '0' ++ ds)

/-- The number read so far, continued by further digits. One character that is none spoils the whole
number. -/
def valueFrom (read : Nat) : List Char → Option Nat
  | [] => some read
  | c :: cs =>
    match digitValue? c with
    | some d => valueFrom (10 * read + d) cs
    | none => none

/-- **The number that a run of digits stands for**, leading zeros allowed; nothing for an empty run.
There is no bound: what a number may be at most is said by `readUnsigned`. -/
def value? (cs : List Char) : Option Nat :=
  if cs.isEmpty then none else valueFrom 0 cs

/-- **A number of at most `bound`**: digits, with at most one plus sign in front. There may be any
number of zeros, since it is the value that is bounded and not the length. -/
def readUnsigned (bound : Nat) (s : String) : Option Nat :=
  let unsigned := match s.toList with
    | '+' :: cs => cs
    | cs => cs
  (value? unsigned).filter (· ≤ bound)

theorem digitValue?_digitChar {n : Nat} (h : n < 10) : digitValue? (digitChar n) = some n := by
  have : ∀ m : Fin 10, digitValue? (digitChar m.val) = some m.val := by decide
  exact this ⟨n, h⟩

theorem isDigit_digitChar {n : Nat} (h : n < 10) : isDigit (digitChar n) = true := by
  simp [isDigit, digitValue?_digitChar h]

theorem digits_ne_nil (n : Nat) : digits n ≠ [] := by
  rw [digits]
  split <;> simp

theorem isDigit_of_mem_digits {n : Nat} {c : Char} (h : c ∈ digits n) : isDigit c = true := by
  induction n using Nat.strongRecOn with
  | ind n ih =>
    rw [digits] at h
    split at h
    · next hn => rw [List.mem_singleton.1 h]; exact isDigit_digitChar hn
    · next hn =>
      rcases List.mem_append.1 h with h | h
      · exact ih (n / 10) (by omega) h
      · rw [List.mem_singleton.1 h]; exact isDigit_digitChar (Nat.mod_lt _ (by decide))

/-- Reading on over an appended run is reading it after the first. This is how a number is read as
it was written: the digits but for the last one, and then that. -/
theorem valueFrom_append (read : Nat) (as bs : List Char) :
    valueFrom read (as ++ bs) = (valueFrom read as).bind fun n => valueFrom n bs := by
  induction as generalizing read with
  | nil => rfl
  | cons a as ih =>
    simp only [List.cons_append, valueFrom]
    cases digitValue? a with
    | none => rfl
    | some d => exact ih _

/-- Zeros in front change nothing. -/
theorem valueFrom_replicate_zero (k : Nat) (cs : List Char) :
    valueFrom 0 (List.replicate k '0' ++ cs) = valueFrom 0 cs := by
  induction k with
  | zero => rfl
  | succ k ih =>
    rw [List.replicate_succ, List.cons_append, valueFrom]
    have : digitValue? '0' = some 0 := by decide
    rw [this]
    exact ih

/-- **Writing, then reading** gives the number back, whatever its size. -/
theorem valueFrom_digits (n : Nat) : valueFrom 0 (digits n) = some n := by
  induction n using Nat.strongRecOn with
  | ind n ih =>
    rw [digits]
    split
    · next h => simp [valueFrom, digitValue?_digitChar h]
    · next h =>
      rw [valueFrom_append, ih (n / 10) (by omega)]
      have hd := digitValue?_digitChar (n := n % 10) (Nat.mod_lt _ (by decide))
      simp only [Option.bind_some, valueFrom, hd]
      congr 1
      omega

end Planroom.Text
