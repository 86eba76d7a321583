import GridQuery.Json.Basic

/-!
# Dotted paths

A path names a value inside nested objects by the keys on the way, with a point between them; a
segment may be empty.

* `segments`: the keys of a path.
* `Json.resolve?`: the value at a path, if every key on the way is there.
* `Json.setPath`: puts a value at a path, making the objects on the way.
-/

namespace GridQuery

/-- Splits at every point: the first segment and those after it. -/
def splitPoints : List Char → List Char × List (List Char)
  | [] => ([], [])
  | c :: rest =>
    let (first, more) := splitPoints rest
    if c = '.' then ([], first :: more) else (c :: first, more)

/-- The keys of a path, in order; there is always at least one. -/
def segments (path : String) : List String :=
  let (first, more) := splitPoints path.toList
  (first :: more).map String.ofList

namespace Json

/-- Follows keys into nested objects. -/
def descend : List String → Json → Option Json
  | [], value => some value
  | key :: rest, value => (value.get? key).bind (descend rest)

/-- The value at a dotted path (`resolve_field`). -/
def resolve? (value : Json) (path : String) : Option Json :=
  value.descend (segments path)

end Json

/-- The entries after a value is put at the end of the given keys; what stands on the way and is no
    object is replaced by an empty one. -/
def Entries.setAlong (value : Json) : List String → Entries → Entries
  | [], entries => entries
  | [key], entries => entries.insert key value
  | key :: next :: rest, entries =>
    let inner :=
      match entries.get? key with
      | some (.object inner) => inner
      | _ => []
    entries.insert key (.object (setAlong value (next :: rest) inner))

/-- Puts a value at a dotted path; a value that is no object stays as it is (`set_field`). -/
def Json.setPath (value : Json) (path : String) (new : Json) : Json :=
  match value with
  | object entries => object (Entries.setAlong new (segments path) entries)
  | other => other

end GridQuery
