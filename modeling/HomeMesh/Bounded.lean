/-!
# Lists of bounded length

`Bounded α n` is a list of at most `n` items: the shape of every queue, table and address list of
the mesh.  The bound is part of the type, so no operation can exceed it: adding to a full list
answers `none`, and building from a longer list either refuses (`ofList?`) or keeps the first `n`
items (`truncate`).
-/

namespace HomeMesh

/-- A list of at most `capacity` items. -/
structure Bounded (α : Type) (capacity : Nat) where
  /-- The items, first to last. -/
  items : List α
  /-- The list keeps within its capacity. -/
  length_le : items.length ≤ capacity
deriving DecidableEq

namespace Bounded

variable {α : Type} {n : Nat}

def empty : Bounded α n := ⟨[], Nat.zero_le n⟩

instance : EmptyCollection (Bounded α n) := ⟨empty⟩

instance : Inhabited (Bounded α n) := ⟨empty⟩

instance : Membership α (Bounded α n) := ⟨fun xs a => a ∈ xs.items⟩

def length (xs : Bounded α n) : Nat := xs.items.length

def isEmpty (xs : Bounded α n) : Bool := xs.items.isEmpty

/-- Whether the list has no room left. -/
def isFull (xs : Bounded α n) : Bool := xs.length == n

/-- The list with these items, unless they are too many. -/
def ofList? (xs : List α) : Option (Bounded α n) :=
  if h : xs.length ≤ n then some ⟨xs, h⟩ else none

/-- The list of the first `n` items; the others are left out. -/
def truncate (xs : List α) : Bounded α n := ⟨xs.take n, List.length_take_le n xs⟩

/-- Adds an item in front, if there is room. -/
def cons? (a : α) (xs : Bounded α n) : Option (Bounded α n) := ofList? (a :: xs.items)

/-- Adds an item at the end, if there is room. -/
def concat? (xs : Bounded α n) (a : α) : Option (Bounded α n) := ofList? (xs.items ++ [a])

/-- Adds items at the end, if there is room for all of them. -/
def append? (xs : Bounded α n) (as : List α) : Option (Bounded α n) := ofList? (xs.items ++ as)

/-- The first item and the list of the others. -/
def uncons? : Bounded α n → Option (α × Bounded α n)
  | ⟨[], _⟩ => none
  | ⟨a :: rest, h⟩ => some (a, ⟨rest, Nat.le_of_succ_le h⟩)

/-- Replaces the item at a place by its image, if the list has such a place. -/
def modify (xs : Bounded α n) (i : Nat) (f : α → α) : Bounded α n :=
  ⟨xs.items.modify i f, by simpa using xs.length_le⟩

end Bounded

end HomeMesh
