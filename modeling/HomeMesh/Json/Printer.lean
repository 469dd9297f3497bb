import HomeMesh.Json.Value

/-!
# Writing JSON

`Json.print` writes a value without any blanks, its members and items in their order.
-/

namespace HomeMesh.Json

/-- A hexadecimal digit, in lower case. -/
def hexChar (n : Nat) : Char := Char.ofNat (if n < 10 then '0'.toNat + n else 'a'.toNat + (n - 10))

/-- An escape of four hexadecimal digits. -/
def printUnit (u : Nat) : List Char :=
  ['\\', 'u', hexChar (u / 0x1000 % 16), hexChar (u / 0x100 % 16), hexChar (u / 0x10 % 16),
    hexChar (u % 16)]

/-- A piece of a string.  A character that may not stand plainly is escaped. -/
def TextUnit.print : TextUnit → List Char
  | .char c =>
    if c = '"' then ['\\', '"']
    else if c = '\\' then ['\\', '\\']
    else if c.toNat < 0x20 then printUnit c.toNat
    else [c]
  | .escape u => printUnit u.toNat

/-- A string in quotation marks. -/
def Text.print (t : Text) : List Char := '"' :: t.flatMap TextUnit.print ++ ['"']

mutual

/-- The text of a value. -/
def print : Json → List Char
  | .null => ['n', 'u', 'l', 'l']
  | .bool true => ['t', 'r', 'u', 'e']
  | .bool false => ['f', 'a', 'l', 's', 'e']
  | .number n => n.toChars
  | .string t => t.print
  | .array items => '[' :: [','].intercalate (printItems items) ++ [']']
  | .object members => '{' :: [','].intercalate (printMembers members) ++ ['}']

/-- The texts of the items of an array. -/
def printItems : List Json → List (List Char)
  | [] => []
  | v :: rest => print v :: printItems rest

/-- The texts of the members of an object. -/
def printMembers : List (Text × Json) → List (List Char)
  | [] => []
  | (name, v) :: rest => (name.print ++ ':' :: print v) :: printMembers rest

end

end HomeMesh.Json
