import Planroom.Artifact.Basic

/-!
# Tables

A table files records under identifiers, in the order in which they came.

* **Filing** — `insert` puts a record in place of the one with the same identifier, or at the end.
* **Finding** — by identifier, or by the reference of the record.
* **Listing** — `sorted` lists the records by the numbers of their references, whatever the order in
  which they are filed.
-/

namespace Planroom

/-- Records that have a reference. That is all a table must know of them to find and to list them.
-/
class Referenced (α : Type) where
  reference : α → String

instance : Referenced Epic := ⟨(·.card.reference)⟩
instance : Referenced UserStory := ⟨(·.card.reference)⟩
instance : Referenced Criteria := ⟨(·.reference)⟩
instance : Referenced Requirement := ⟨(·.card.reference)⟩
instance : Referenced SteeringDocument := ⟨(·.reference)⟩

/-- **A table** of records, each under an identifier. The table does not see to it that a record has
the identifier it is filed under; those who file do. -/
structure Table (α : Type) where
  entries : List (Uuid × α)
  deriving DecidableEq, Repr

namespace Table

variable {α : Type}

/-- The table without records, which every kind begins with. -/
def empty : Table α := ⟨[]⟩

instance : Inhabited (Table α) := ⟨empty⟩

/-- All records, in the order in which they came. A record that was changed keeps its place. -/
def values (table : Table α) : List α :=
  table.entries.map (·.2)

/-- The record under an identifier, of which there is at most one where all were filed by `insert`.
-/
def get? (table : Table α) (id : Uuid) : Option α :=
  (table.entries.find? (·.1 == id)).map (·.2)

/-- Is there a record under this identifier? -/
def contains (table : Table α) (id : Uuid) : Bool :=
  (table.get? id).isSome

/-- Entries with one put in its place: that of the entry with its identifier, else the last one. -/
def insertEntry (id : Uuid) (value : α) : List (Uuid × α) → List (Uuid × α)
  | [] => [(id, value)]
  | entry :: rest =>
    if entry.1 = id then (id, value) :: rest else entry :: insertEntry id value rest

/-- **File a record** under an identifier. This is how a record is added, and also how it is
changed. -/
def insert (table : Table α) (id : Uuid) (value : α) : Table α :=
  ⟨insertEntry id value table.entries⟩

variable [Referenced α]

/-- **Find a record** by identifier or reference. A reference is compared as a text: `EP-1` does not
find `EP-001`. -/
def find? (table : Table α) : Lookup → Option α
  | .byId id => table.get? id
  | .byReference reference => table.values.find? (Referenced.reference · == reference)

/-- Does one record come before another, or have they the same number? By number and not by text,
since `EP-1000` comes after `EP-999`. -/
def inOrder (a b : α) : Bool :=
  Reference.number (Referenced.reference a) ≤ Reference.number (Referenced.reference b)

/-- **All records, by the numbers of their references.** Records of one number stay in the order in
which they came. -/
def sorted (table : Table α) : List α :=
  table.values.mergeSort inOrder

/-! ## Filing, then finding -/

omit [Referenced α] in
@[simp] theorem get?_empty (id : Uuid) : (empty : Table α).get? id = none := rfl

omit [Referenced α] in
/-- What was filed is found; everything else is found as before. Most of what is said of stores
comes down to this. -/
theorem get?_insert (table : Table α) (id other : Uuid) (value : α) :
    (table.insert id value).get? other = if id = other then some value else table.get? other := by
  obtain ⟨entries⟩ := table
  simp only [get?, insert]
  induction entries with
  | nil =>
    by_cases h : id = other <;> simp [insertEntry, h]
  | cons entry rest ih =>
    by_cases he : entry.1 = id
    · by_cases h : id = other
      · simp [insertEntry, he, h]
      · have : ¬ entry.1 = other := fun h' => h (he ▸ h')
        simp [insertEntry, he, h]
    · by_cases h : entry.1 = other
      · subst h
        have : ¬ id = entry.1 := fun h' => he h'.symm
        simp [insertEntry, he, this]
      · have hb : (entry.1 == other) = false := by simpa using h
        simp only [insertEntry, he, if_false, List.find?_cons, hb]
        exact ih

end Table

end Planroom
