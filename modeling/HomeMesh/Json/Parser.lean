import HomeMesh.Json.Value

/-!
# Reading JSON

`Json.parse?` reads a text as one JSON value.  It is a machine that takes the characters one at a
time (`State.step`): a stack of the arrays and objects that are still open, and a `Focus`, which
says what may come next.  So reading a text that consists of two parts is reading the second from
the state after the first, and nesting is bounded by nothing but the text.

Between its tokens a text may hold spaces, tabs, line feeds and carriage returns.  Numbers and the
words `null`, `true` and `false` are collected as a whole and judged when they end.
-/

namespace HomeMesh.Json

/-! ## The state of the machine -/

/-- An array or object that is still open. -/
inductive Container where
  /-- An array with the items so far, the last one first. -/
  | array (items : List Json)
  /-- An object with the members so far, the last one first. -/
  | object (members : List (Text × Json))
  /-- An object that waits for the value of a member. -/
  | member (members : List (Text × Json)) (name : Text)

/-- Whether a string is the name of a member or a value. -/
inductive Role where
  | name
  | value
deriving DecidableEq

/-- What the machine is about to take. -/
inductive Focus where
  | value
  /-- The first item of an array, or its end. -/
  | firstItem
  /-- The first name of an object, or its end. -/
  | firstName
  /-- A further name of an object. -/
  | nextName
  | colon
  /-- More of a string, of which the units so far are kept, the last one first. -/
  | string (role : Role) (units : Text)
  /-- What follows a backslash in a string. -/
  | escape (role : Role) (units : Text)
  /-- More hexadecimal digits of an escape: how many are missing, and what the others amount to. -/
  | hex (role : Role) (units : Text) (missing : Nat) (unit : Nat)
  /-- More of a number or word, of which the characters so far are kept, the last one first. -/
  | bare (lexeme : List Char)
  | after (v : Json)

/-- The machine: what is open, the innermost first, and what comes next. -/
structure State where
  stack : List Container
  /-- What the machine is about to take. -/
  focus : Focus

/-! ## Characters -/

/-- Whether a character may stand between tokens. -/
def isBlank (c : Char) : Bool := c == ' ' || c == '\t' || c == '\n' || c == '\r'

/-- Whether a character may be part of a number or word. -/
def isBare (c : Char) : Bool := c.isAlphanum || c == '+' || c == '-' || c == '.'

/-- The number or word that a lexeme spells. -/
def ofBare? (lexeme : List Char) : Option Json :=
  if lexeme = ['n', 'u', 'l', 'l'] then some .null
  else if lexeme = ['t', 'r', 'u', 'e'] then some (.bool true)
  else if lexeme = ['f', 'a', 'l', 's', 'e'] then some (.bool false)
  else .number <$> Numeral.ofChars? lexeme

/-- The character that a short escape stands for. -/
def shortEscape? : Char → Option Char
  | '"' => some '"'
  | '\\' => some '\\'
  | '/' => some '/'
  | 'b' => some '\x08'
  | 'f' => some '\x0c'
  | 'n' => some '\n'
  | 'r' => some '\r'
  | 't' => some '\t'
  | _ => none

def hexDigit? (c : Char) : Option Nat :=
  if '0' ≤ c ∧ c ≤ '9' then some (c.toNat - '0'.toNat)
  else if 'a' ≤ c ∧ c ≤ 'f' then some (c.toNat - 'a'.toNat + 10)
  else if 'A' ≤ c ∧ c ≤ 'F' then some (c.toNat - 'A'.toNat + 10)
  else none

namespace State

/-! ## Steps -/

/-- The state in which a text begins. -/
def start : State := ⟨[], .value⟩

/-- Takes the first character of a value. -/
def stepValue (stack : List Container) (c : Char) : Option State :=
  if isBlank c then some ⟨stack, .value⟩
  else if c = '"' then some ⟨stack, .string .value []⟩
  else if c = '[' then some ⟨.array [] :: stack, .firstItem⟩
  else if c = '{' then some ⟨.object [] :: stack, .firstName⟩
  else if isBare c then some ⟨stack, .bare [c]⟩
  else none

/-- Takes the quotation mark of a name. -/
def stepName (stack : List Container) (focus : Focus) (c : Char) : Option State :=
  if isBlank c then some ⟨stack, focus⟩
  else if c = '"' then some ⟨stack, .string .name []⟩
  else none

/-- Takes a character after a complete value, which then belongs to the innermost container. -/
def stepAfter (stack : List Container) (v : Json) (c : Char) : Option State :=
  if isBlank c then some ⟨stack, .after v⟩
  else
    match stack with
    | .array items :: outer =>
      if c = ',' then some ⟨.array (v :: items) :: outer, .value⟩
      else if c = ']' then some ⟨outer, .after (.array (v :: items).reverse)⟩
      else none
    | .member members name :: outer =>
      if c = ',' then some ⟨.object ((name, v) :: members) :: outer, .nextName⟩
      else if c = '}' then some ⟨outer, .after (.object ((name, v) :: members).reverse)⟩
      else none
    | _ => none

/-- The state after the closing quotation mark of a string. -/
def closeString (stack : List Container) (role : Role) (units : Text) : Option State :=
  match role, stack with
  | .value, _ => some ⟨stack, .after (.string units.reverse)⟩
  | .name, .object members :: outer => some ⟨.member members units.reverse :: outer, .colon⟩
  | .name, _ => none

def step (s : State) (c : Char) : Option State :=
  match s.focus with
  | .value => stepValue s.stack c
  | .firstItem =>
    match s.stack with
    | .array _ :: outer =>
      if c = ']' then some ⟨outer, .after (.array [])⟩
      else if isBlank c then some s
      else stepValue s.stack c
    | _ => none
  | .firstName =>
    match s.stack with
    | .object _ :: outer =>
      if c = '}' then some ⟨outer, .after (.object [])⟩ else stepName s.stack .firstName c
    | _ => none
  | .nextName => stepName s.stack .nextName c
  | .colon =>
    if isBlank c then some s else if c = ':' then some ⟨s.stack, .value⟩ else none
  | .string role units =>
    if c = '"' then closeString s.stack role units
    else if c = '\\' then some ⟨s.stack, .escape role units⟩
    else if c.toNat < 0x20 then none
    else some ⟨s.stack, .string role (.char c :: units)⟩
  | .escape role units =>
    if c = 'u' then some ⟨s.stack, .hex role units 4 0⟩
    else (shortEscape? c).map fun d => ⟨s.stack, .string role (.char d :: units)⟩
  | .hex role units missing unit =>
    (hexDigit? c).map fun d =>
      let unit := unit * 16 + d
      if missing ≤ 1 then ⟨s.stack, .string role (.escape (UInt16.ofNat unit) :: units)⟩
      else ⟨s.stack, .hex role units (missing - 1) unit⟩
  | .bare lexeme =>
    if isBare c then some ⟨s.stack, .bare (c :: lexeme)⟩
    else (ofBare? lexeme.reverse).bind fun v => stepAfter s.stack v c
  | .after v => stepAfter s.stack v c

/-- Takes the characters of a text, one after the other. -/
def run (s : State) (text : List Char) : Option State := text.foldlM step s

/-- The value, if the text may end here. -/
def finish? (s : State) : Option Json :=
  match s with
  | ⟨[], .after v⟩ => some v
  | ⟨[], .bare lexeme⟩ => ofBare? lexeme.reverse
  | _ => none

end State

/-- The value that a text spells. -/
def parse? (text : List Char) : Option Json := (State.start.run text).bind State.finish?

end HomeMesh.Json
