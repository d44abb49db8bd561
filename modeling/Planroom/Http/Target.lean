import Planroom.Text.Cut

/-!
# Targets

What a request is for, in one of four forms; each of them has a path. Targets are taken to be well
formed.

* **Origin** — it begins with a slash. A query begins at `?` and a fragment at `#`, and the path ends
  there.
* **Absolute** — a scheme, `://` and an authority stand before such a path. Where none follows, the path
  is a slash.
* **Authority** — a host alone, whose path is empty.
* **Asterisk** — `*` is its own path.
-/

namespace Planroom.Http.Target

/-- Does a query or a fragment begin with this character? Nothing after it belongs to the path. -/
def endsPath (c : Char) : Bool :=
  c == '?' || c == '#'

/-- Does something else than an authority begin with this character? -/
def endsAuthority (c : Char) : Bool :=
  c == '/' || endsPath c

/-- The path at the front of a text. -/
def pathChars (cs : List Char) : List Char :=
  cs.takeWhile fun c => !endsPath c

/-- The path after an authority. Where there is none it is a slash, as though one had been written.
-/
def pathAfterAuthority (cs : List Char) : List Char :=
  match pathChars (cs.dropWhile fun c => !endsAuthority c) with
  | [] => ['/']
  | path => path

/-- **The path of a target**, as written. It is not normalized: dots and double slashes stay. -/
def path (target : String) : String :=
  match target.toList with
  | '/' :: rest => String.ofList (pathChars ('/' :: rest))
  | ['*'] => "*"
  | cs =>
    match Text.cutChars "://".toList cs with
    | some (_, rest) => String.ofList (pathAfterAuthority rest)
    | none => ""

end Planroom.Http.Target
