/-!
# Shapes

An array of elements has an extent along each of its axes. How many elements it
has is the product of its extents; without axes there is one element.
-/

namespace ChunkCodecs

/-- The extents of an array, axis by axis. -/
abbrev Shape := List Nat

namespace Shape

/-- How many elements an array of a shape has. -/
def volume : Shape → Nat
  | [] => 1
  | extent :: rest => extent * volume rest

end Shape

end ChunkCodecs
