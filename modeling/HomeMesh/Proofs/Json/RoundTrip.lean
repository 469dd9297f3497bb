import HomeMesh.Json.Printer
import HomeMesh.Proofs.Json.Grammar

/-!
# Reading what was written

`Json.parse?` gives back every value that `Json.print` writes, provided that it can be written at
all (`IsPrintable`): its numerals are well formed, and no string holds a bare control character,
for which only an escape can be written.  What is printed of such a value is one of the texts that
spell it (`spelledBy_print`), and the reader finds the value of every such text.
-/

namespace HomeMesh.Json

/-! ## Values that can be written -/

/-- A piece of a string that is read as it is written. -/
def TextUnit.IsPrintable : TextUnit → Prop
  | .char c => 0x20 ≤ c.toNat
  | .escape _ => True

def Text.IsPrintable (t : Text) : Prop := ∀ u ∈ t, TextUnit.IsPrintable u

/-- A value that is read as it is written. -/
inductive IsPrintable : Json → Prop
  | null : IsPrintable .null
  | bool (b : Bool) : IsPrintable (.bool b)
  | number {n : Numeral} : n.IsWellFormed → IsPrintable (.number n)
  | string {t : Text} : t.IsPrintable → IsPrintable (.string t)
  | array {items : List Json} : (∀ v ∈ items, IsPrintable v) → IsPrintable (.array items)
  | object {members : List (Text × Json)} :
    (∀ m ∈ members, Text.IsPrintable m.1) → (∀ m ∈ members, IsPrintable m.2) →
      IsPrintable (.object members)

theorem print_array (items : List Json) : print (.array items) = arrayText (items.map print) := by
  have hitems : printItems items = items.map print := by
    induction items with
    | nil => rfl
    | cons v items ih => rw [printItems, ih, List.map_cons]
  rw [print, hitems, arrayText]

/-- A member of an object, printed. -/
def printMember (m : Text × Json) : Member := ⟨m.1.print, m.2.print⟩

theorem print_object (members : List (Text × Json)) :
    print (.object members) = objectText (members.map printMember) := by
  have hmembers : printMembers members = (members.map printMember).map Member.text := by
    induction members with
    | nil => rfl
    | cons m members ih => rw [printMembers, ih]; rfl
  rw [print, hmembers, objectText]

/-! ## Strings -/

theorem hexDigit?_hexChar : ∀ d, d < 16 → hexDigit? (hexChar d) = some d := by decide

/-- Four digits spell a unit. -/
theorem spelledBy_printUnit {u : Nat} (hu : u < 0x10000) :
    TextUnit.SpelledBy (.escape (UInt16.ofNat u)) (printUnit u) := by
  have hdigit (k : Nat) : hexDigit? (hexChar (u / k % 16)) = some (u / k % 16) :=
    hexDigit?_hexChar _ (Nat.mod_lt _ (by decide))
  have hlast : hexDigit? (hexChar (u % 16)) = some (u % 16) :=
    hexDigit?_hexChar _ (Nat.mod_lt _ (by decide))
  have hunit : ((u / 0x1000 % 16 * 16 + u / 0x100 % 16) * 16 + u / 0x10 % 16) * 16 + u % 16 = u := by
    omega
  have hspelled := TextUnit.SpelledBy.unit (hdigit 0x1000) (hdigit 0x100) (hdigit 0x10) hlast
  rwa [hunit] at hspelled

theorem TextUnit.spelledBy_print {u : TextUnit} (h : u.IsPrintable) : u.SpelledBy u.print := by
  cases u with
  | escape unit =>
    have hspelled := spelledBy_printUnit unit.toNat_lt
    rwa [UInt16.ofNat_toNat] at hspelled
  | char c =>
    have hplain : ¬ c.toNat < 0x20 := Nat.not_lt.mpr h
    by_cases hquote : c = '"'
    · subst hquote
      exact .short rfl
    by_cases hbackslash : c = '\\'
    · subst hbackslash
      exact .short rfl
    simpa [TextUnit.print, hquote, hbackslash, hplain] using
      SpelledBy.plain hquote hbackslash h

theorem spelledBy_flatMap_print {t : Text} (h : t.IsPrintable) :
    t.SpelledBy (t.flatMap TextUnit.print) := by
  induction t with
  | nil => exact .nil
  | cons u t ih =>
    obtain ⟨hu, hrest⟩ := List.forall_mem_cons.mp h
    exact .cons (TextUnit.spelledBy_print hu) (ih hrest)

theorem Text.spelledBy_print {t : Text} (h : t.IsPrintable) :
    Json.SpelledBy (.string t) t.print :=
  .string (spelledBy_flatMap_print h)

/-! ## The main result -/

/-- What is printed of a value spells it. -/
theorem spelledBy_print {v : Json} (h : v.IsPrintable) : v.SpelledBy v.print := by
  induction h with
  | null => exact .null
  | bool b =>
    cases b with
    | true => exact .true
    | false => exact .false
  | number hn => exact .number (Numeral.spelledBy_toChars hn)
  | string ht => exact Text.spelledBy_print ht
  | @array items _ ih =>
    have hspelled : SpelledBy (.array ((items.map fun v => (v, v.print)).map Prod.fst))
        (arrayText ((items.map fun v => (v, v.print)).map Prod.snd)) :=
      .array (List.forall_mem_map.mpr ih)
    simpa [print_array, Function.comp_def] using hspelled
  | @object members hnames _ ih =>
    have hspelled : SpelledBy (.object ((members.map fun m => (m, printMember m)).map Prod.fst))
        (objectText ((members.map fun m => (m, printMember m)).map Prod.snd)) :=
      .object (List.forall_mem_map.mpr fun m hm => Text.spelledBy_print (hnames m hm))
        (List.forall_mem_map.mpr ih)
    simpa [print_object, Function.comp_def] using hspelled

/-- Reading gives back what was written. -/
theorem parse?_print {v : Json} (h : v.IsPrintable) : parse? v.print = some v :=
  parse?_of_spelledBy (spelledBy_print h)

end HomeMesh.Json
