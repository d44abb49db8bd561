import Planroom.Http.Message
import Planroom.Text.Blank
import Planroom.Text.Cut

/-!
# Media types

A content type names a media type and parameters. Two readings of it are in use.

* **Loose** — what stands before the first `;`, without blanks around it, is the media type;
  nothing else is looked at.
* **Strict** — the whole content type is read. A media type is JSON if its subtype is, or if the
  subtype ends in `+json`; of a subtype with a `+`, what stands before the last one counts too. The
  parameters come straight after it: spaces may stand before the name of a parameter and after a
  quoted value, and nowhere else. The last `;` need not be followed by a parameter.
-/

namespace Planroom.Http.Media

/-- **Loosely JSON.** Parameters may be anything here, even what is not a parameter at all. -/
def isJson (contentType : String) : Bool :=
  Text.equalIgnoringCase (Text.trim (String.ofList (contentType.toList.takeWhile (· != ';'))))
    "application/json"

/-- May the character stand in a name? These are also the characters of a value without quotes. -/
def isToken (c : Char) : Bool :=
  c.isAlphanum || "!#$%&'*+-.^_|~".toList.contains c || c.toNat == 0x60

/-- May the character stand between quotes? Control characters may not, and neither may a tab. -/
def isQuotable (c : Char) : Bool :=
  ' ' ≤ c && c != '\x7f'

/-- **Where a reader of parameters stands.** -/
inductive Place where
  /-- Before a parameter. -/
  | between
  /-- In the name of a parameter. -/
  | name
  /-- After the `=`. -/
  | value
  /-- In a value without quotes. -/
  | plain
  /-- After the first quote: one character must come, even if it is a quote. -/
  | opened
  /-- In a value between quotes. -/
  | quoted
  /-- After the second quote. -/
  | closed
  deriving DecidableEq, Repr

namespace Place

/-- Take one character. There is at most one place to go from each, so reading needs no looking
back. -/
def step : Place → Char → Option Place
  | .between, c =>
    if c = ' ' then some .between else if isToken c then some .name else none
  | .name, c => if c = '=' then some .value else if isToken c then some .name else none
  | .value, c => if c = '"' then some .opened else if isToken c then some .plain else none
  | .plain, c => if c = ';' then some .between else if isToken c then some .plain else none
  | .opened, c => if isQuotable c then some .quoted else none
  | .quoted, c => if c = '"' then some .closed else if isQuotable c then some .quoted else none
  | .closed, c => if c = ';' then some .between else if c = ' ' then some .closed else none

/-- May the parameters end here? Not in a name, which wants a value, nor between quotes. -/
def isEnd : Place → Bool
  | .between | .value | .plain | .closed => true
  | .name | .opened | .quoted => false

end Place

/-- Are these the parameters of a content type? No parameter at all is allowed, after the `;` too.
-/
def areParameters (cs : List Char) : Bool :=
  match cs.foldlM Place.step .between with
  | some place => place.isEnd
  | none => false

/-- What follows the media type: nothing, or `;` and parameters. A blank in front of the `;` is
neither. -/
def isTail : List Char → Bool
  | [] => true
  | c :: rest => c = ';' && areParameters rest

/-- A subtype before and after its last `+`; one at the front does not count, for nothing would be
left before it. -/
def splitSuffix (subtype : List Char) : List Char × Option (List Char) :=
  let suffix := subtype.reverse.takeWhile (· != '+')
  -- The length of the subtype up to the last `+` and with it; zero if there is none.
  let kept := subtype.length - suffix.length
  if 1 < kept then (subtype.take (kept - 1), some suffix.reverse) else (subtype, none)

/-- Is this a name of JSON, in either case? -/
def isJsonName (cs : List Char) : Bool :=
  cs.map Char.toLower == "json".toList

/-- **Strictly JSON.** It is not the case that whatever is strictly JSON is so loosely: a subtype
with a suffix is not. -/
def isJsonStrictly (contentType : String) : Bool :=
  let cs := contentType.toList
  match cs.dropWhile isToken with
  | '/' :: rest =>
    let (main, suffix) := splitSuffix (rest.takeWhile isToken)
    (cs.takeWhile isToken).map Char.toLower == "application".toList &&
      (isJsonName main || (suffix.map isJsonName).getD false) &&
      isTail (rest.dropWhile isToken)
  | _ => false

end Planroom.Http.Media
