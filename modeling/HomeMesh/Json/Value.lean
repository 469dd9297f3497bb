import HomeMesh.Json.Numeral

/-!
# JSON values

A `Json` value keeps a text's strings and numbers as they are spelled.  That matters because a
reader of profiles looks into the fields that it knows and passes over the others: an escape that
stands for half of a character is a fault in a name (`Text.decode?`), and none in a value that is
passed over.
-/

namespace HomeMesh

namespace Json

/-- A piece of a string: a character, or an escape that gives one 16-bit unit of a character. -/
inductive TextUnit where
  /-- A character, written plainly or by a short escape. -/
  | char (c : Char)
  /-- An escape of four hexadecimal digits. -/
  | escape (unit : UInt16)
deriving DecidableEq

/-- A string as it is spelled. -/
abbrev Text := List TextUnit

end Json

/-- A JSON value as it is spelled. -/
inductive Json where
  | null
  | bool (b : Bool)
  | number (n : Json.Numeral)
  | string (t : Json.Text)
  /-- An array of items, in order. -/
  | array (items : List Json)
  /-- An object of named members, in order. -/
  | object (members : List (Json.Text × Json))

namespace Json

namespace Text

/-- The first unit of a character that takes two. -/
def isHighHalf (u : Nat) : Bool := 0xD800 ≤ u && u < 0xDC00

/-- The second unit of a character that takes two. -/
def isLowHalf (u : Nat) : Bool := 0xDC00 ≤ u && u < 0xE000

/-- The character of two halves. -/
def join (high low : Nat) : Char :=
  Char.ofNat (0x10000 + (high - 0xD800) * 0x400 + (low - 0xDC00))

/-- The characters of a string.  Two halves of a character have to stand side by side. -/
def decode? : Text → Option (List Char)
  | [] => some []
  | .char c :: rest => (c :: ·) <$> decode? rest
  | .escape u :: rest =>
    if isHighHalf u.toNat then
      match rest with
      | .escape v :: rest =>
        if isLowHalf v.toNat then (join u.toNat v.toNat :: ·) <$> decode? rest else none
      | _ => none
    else if isLowHalf u.toNat then none
    else (Char.ofNat u.toNat :: ·) <$> decode? rest

/-- The string of these characters, none of them escaped. -/
def ofString (s : String) : Text := s.toList.map .char

end Text

end Json

end HomeMesh
