/-!
# Cutting texts

* **At a separator** — `cut` splits at the first place where a separator stands, `afterLast` keeps
  what follows the last place where a character stands.
* **At the front** — `dropStart?` removes a known beginning.
* **Inside** — `containsText` asks whether one text stands somewhere in another.
-/

namespace Planroom.Text

/-- The characters before and after the first place where `separator` stands. An empty separator
stands in front of everything, and so it stands in an empty text, too. -/
def cutChars (separator : List Char) : List Char → Option (List Char × List Char)
  | [] => if separator.isEmpty then some ([], []) else none
  | c :: cs =>
    if separator.isPrefixOf (c :: cs) then some ([], (c :: cs).drop separator.length)
    else (cutChars separator cs).map fun halves => (c :: halves.1, halves.2)

/-- **The two halves around the first separator.** Later ones stay where they are, in the second
half: whatever is cut off a text is cut off in front. -/
def cut (separator s : String) : Option (String × String) :=
  (cutChars separator.toList s.toList).map fun halves =>
    (String.ofList halves.1, String.ofList halves.2)

/-- What follows the given beginning, if the text begins so. It is compared letter by letter:
whether a scheme counts in another case is for the caller to say. -/
def dropStart? (start s : String) : Option String :=
  if start.toList.isPrefixOf s.toList then some (String.ofList (s.toList.drop start.length))
  else none

/-- What follows the last `separator`, the whole text where there is none. So the number of a
reference is read off even where there is no label in front of it. -/
def afterLast (separator : Char) (s : String) : String :=
  String.ofList (s.toList.reverse.takeWhile (· != separator)).reverse

/-- The parts between the separators, at least one. The last equation has an empty list only for the
sake of the match; `splitChars` never gives one. -/
def splitChars (separator : Char) : List Char → List (List Char)
  | [] => [[]]
  | c :: cs =>
    if c = separator then [] :: splitChars separator cs
    else match splitChars separator cs with
      | [] => [[c]]
      | part :: parts => (c :: part) :: parts

/-- **All parts between the separators**, empty ones included. Between two separators that touch
there is a part as well, and it is for whoever reads the parts to pass over it. -/
def split (separator : Char) (s : String) : List String :=
  (splitChars separator s.toList).map String.ofList

/-- Does `needle` stand somewhere in the list? -/
def containsChars (needle : List Char) : List Char → Bool
  | [] => needle.isEmpty
  | c :: cs => needle.isPrefixOf (c :: cs) || containsChars needle cs

/-- **Does one text stand inside another?** The empty text stands in every one, which is why an
empty query finds everything. -/
def containsText (needle s : String) : Bool :=
  containsChars needle.toList s.toList

/-- The texts joined by a separator, with none in front and none behind. -/
def join (separator : String) (parts : List String) : String :=
  String.intercalate separator parts

end Planroom.Text
