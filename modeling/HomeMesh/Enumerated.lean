/-!
# Finite domains in a fixed order

Node ids, commands, channels and movement inputs are finite domains whose values have a place and
a label.  The place is what travels on the wire, the label is what stands in profile texts and log
lines.  `Enumerated` holds both, together with the facts that make them identify a value: the
listing is complete and without repetition, and no two values share a label.
-/

namespace HomeMesh

/-- A finite domain with an order and labels. -/
class Enumerated (α : Type) where
  /-- Every value, in order. -/
  all : List α
  /-- The label of a value. -/
  label : α → String
  /-- No value is missing from the listing. -/
  mem_all : ∀ a, a ∈ all
  /-- No value is listed twice. -/
  nodup_all : all.Nodup
  /-- A label belongs to one value only. -/
  label_injective : ∀ a b, label a = label b → a = b

namespace Enumerated

variable {α : Type} [Enumerated α]

/-- The place of a value in the order, counted from zero. -/
def index [DecidableEq α] (a : α) : Nat := (all : List α).idxOf a

/-- The value at a place. -/
def ofIndex? (i : Nat) : Option α := (all : List α)[i]?

/-- The value with a label. -/
def ofLabel? (s : String) : Option α := (all : List α).find? fun a => label a == s

end Enumerated

end HomeMesh
