import HomeMesh.Bounded
import HomeMesh.Enumerated
import HomeMesh.Fault
import HomeMesh.Single

/-!
# The wire format: its parts

Values travel as bytes without any marks between them.  This module holds the parts of that format;
for each there is a writer, which gives the bytes of a value, and a reader, which takes the bytes
of one value off the front of a list and leaves the rest.

* A natural number is written in groups of seven bits, the lowest first; all groups but the last
  carry the high bit (`putNat`, `readNat`).  A reader is given the width of the number.  It accepts
  a number with needless groups at its end, but never more groups than the width has room for, and
  in the last possible group no bit beyond the width.
* A 32-bit integer is folded to a natural number, so that small integers of either sign have few
  groups.
* A value of a finite domain is its place in the order of the domain.
* A truth value is one byte, 0 or 1.  An optional value is such a byte and, after 1, the value.
* A list is its length and its items.
* A number of the 32-bit binary format is its four bytes, the lowest first.

The parts of a message are written one after the other into a buffer of a fixed size (`write`).
-/

namespace HomeMesh.Wire

/-- The bytes of a message. -/
abbrev Bytes := List UInt8

/-- A reader takes what it needs off the front of the bytes and leaves the rest, or refuses. -/
abbrev Reader (α : Type) := StateT Bytes Option α

/-- Refuses. -/
def refuse {α : Type} : Reader α := fun _ => none

/-- Takes one byte. -/
def readByte : Reader UInt8
  | [] => none
  | b :: rest => some (b, rest)

/-- Writes a part behind what the buffer holds.  A part is written as a whole or not at all. -/
def write {size : Nat} (buffer : Bounded UInt8 size) (part : Bytes) :
    Except WireFault (Bounded UInt8 size) :=
  match buffer.append? part with
  | some longer => .ok longer
  | none => .error .bufferFull

/-! ## Natural numbers -/

/-- The groups of a number, the lowest first. -/
def putNat (n : Nat) : Bytes :=
  if n < 128 then [UInt8.ofNat n] else UInt8.ofNat (n % 128 + 128) :: putNat (n / 128)
termination_by n
decreasing_by omega

/-- Takes a number of at most `width` bits. -/
def readNat (width : Nat) : Reader Nat := do
  let b ← readByte
  if width ≤ 7 then
    if b.toNat < 1 <<< width then pure b.toNat else refuse
  else if b.toNat < 128 then pure b.toNat
  else
    let high ← readNat (width - 7)
    pure (b.toNat % 128 + 128 * high)
termination_by width
decreasing_by omega

/-- The bytes of a 32-bit word. -/
def putUInt32 (w : UInt32) : Bytes := putNat w.toNat

/-- Takes a 32-bit word. -/
def readUInt32 : Reader UInt32 := do
  let n ← readNat 32
  pure (UInt32.ofNat n)

/-! ## Integers -/

/-- Folds the integers to the natural numbers: 0, -1, 1, -2, 2, … -/
def foldInt : Int → Nat
  | .ofNat n => 2 * n
  | .negSucc n => 2 * n + 1

/-- The integer at a place of that sequence. -/
def unfoldInt (n : Nat) : Int :=
  if n % 2 = 0 then .ofNat (n / 2) else .negSucc (n / 2)

/-- The bytes of a 32-bit integer. -/
def putInt32 (v : Int32) : Bytes := putNat (foldInt v.toInt)

/-- Takes a 32-bit integer. -/
def readInt32 : Reader Int32 := do
  let n ← readNat 32
  pure (Int32.ofInt (unfoldInt n))

/-! ## Finite domains, truth values, optional values -/

/-- The bytes of a value of a finite domain. -/
def putChoice {α : Type} [Enumerated α] [DecidableEq α] (a : α) : Bytes :=
  putNat (Enumerated.index a)

/-- Takes a value of a finite domain. -/
def readChoice {α : Type} [Enumerated α] : Reader α := do
  let i ← readNat 32
  match Enumerated.ofIndex? i with
  | some a => pure a
  | none => refuse

/-- The byte of a truth value. -/
def putBool (b : Bool) : Bytes := [if b then 1 else 0]

/-- Takes a truth value. -/
def readBool : Reader Bool := do
  let b ← readByte
  if b = 0 then pure false else if b = 1 then pure true else refuse

/-- The bytes of an optional value. -/
def putOption {α : Type} (put : α → Bytes) : Option α → Bytes
  | none => putBool false
  | some a => putBool true ++ put a

/-- Takes an optional value. -/
def readOption {α : Type} (read : Reader α) : Reader (Option α) := do
  if ← readBool then some <$> read else pure none

/-! ## Lists -/

/-- Takes `n` values. -/
def readMany {α : Type} (read : Reader α) : Nat → Reader (List α)
  | 0 => pure []
  | n + 1 => do
    let a ← read
    let as ← readMany read n
    pure (a :: as)

/-- The bytes of a list. -/
def putList {α : Type} {capacity : Nat} (put : α → Bytes) (xs : Bounded α capacity) : Bytes :=
  putNat xs.length ++ xs.items.flatMap put

/-- Takes a list; one beyond the capacity is refused. -/
def readList {α : Type} (capacity : Nat) (read : Reader α) : Reader (Bounded α capacity) := do
  let n ← readNat 64
  if n ≤ capacity then
    let items ← readMany read n
    match Bounded.ofList? items with
    | some xs => pure xs
    | none => refuse
  else refuse

/-! ## Numbers of the 32-bit binary format -/

/-- The four bytes of a value. -/
def putSingle (x : Single) : Bytes :=
  let n := x.bits.toNat
  [UInt8.ofNat n, UInt8.ofNat (n / 0x100), UInt8.ofNat (n / 0x10000), UInt8.ofNat (n / 0x1000000)]

/-- Takes four bytes. -/
def readSingle : Reader Single := do
  let b0 ← readByte
  let b1 ← readByte
  let b2 ← readByte
  let b3 ← readByte
  pure ⟨UInt32.ofNat
    (b0.toNat + 0x100 * b1.toNat + 0x10000 * b2.toNat + 0x1000000 * b3.toNat)⟩

end HomeMesh.Wire
