import ChunkCodecs.Fault

/-!
# Properties

Properties are a dictionary: entries in the order in which their keys were first
inserted, no two with the same key. Giving a key another value keeps its place.
Looking a name up after an insertion gives the inserted value for the inserted
name and leaves every other name alone.
-/

namespace ChunkCodecs

/-- The entries of a dictionary. -/
abbrev Properties := List (Value × Value)

namespace Properties

/-- The value under a key. -/
def get? : Properties → Value → Option Value
  | [], _ => none
  | (key, value) :: rest, sought => if key.sameKey sought then some value else get? rest sought

/-- The value under a name. -/
def lookup (properties : Properties) (name : String) : Option Value :=
  properties.get? (.text name)

/-- The value under a name, unless it is the absent value. -/
def given? (properties : Properties) (name : String) : Option Value :=
  match properties.lookup name with
  | some .none => none
  | found => found

/-- Bind a key to a value: in its place if the key is present, else at the end. -/
def insert : Properties → Value → Value → Properties
  | [], key, value => [(key, value)]
  | (present, old) :: rest, key, value =>
    if present.sameKey key then (present, value) :: rest
    else (present, old) :: insert rest key value

/-- Bind the keys of further entries one after another. -/
def update (properties : Properties) (further : Properties) : Properties :=
  further.foldl (fun bound entry => bound.insert entry.1 entry.2) properties

/-- The dictionary of the given entries. -/
def ofEntries (entries : List (Value × Value)) : Properties := update [] entries

/-- The keys in their order. -/
def keys (properties : Properties) : List Value := properties.map Prod.fst

end Properties

end ChunkCodecs
