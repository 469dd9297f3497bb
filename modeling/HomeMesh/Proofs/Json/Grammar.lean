import HomeMesh.Json.Parser
import HomeMesh.Proofs.Json.Numeral

/-!
# Texts of JSON values

A value has many texts: blanks may stand between the tokens, a character may be escaped, an
exponent has a mark of either case.  `Json.SpelledBy` says which texts spell a value, one rule for
each form of JSON, without saying how a text is read.  The main result is that the reader finds the
value of every such text (`parse?_of_spelledBy`); so no text spells two values.

The reader is a machine, so reading two texts one after the other is composing two runs
(`run_append`).  After the text of a value the machine *holds* that value (`Holds`): either it has
finished it, or, after a number or word, it has collected a lexeme that spells it.  What comes next
is the same in both cases (`Holds.step`).  That the text of a value leads there (`Reads`) is shown
along the rules; for the items of an array and the members of an object the induction is on those
that are still to be read, with the ones so far on the stack.
-/

namespace HomeMesh.Json

/-! ## Texts -/

/-- Text that may stand between tokens. -/
def IsBlankText (text : List Char) : Prop := ∀ c ∈ text, isBlank c = true

/-- The texts of a piece of a string.  Every escape of four digits is one, whether the unit that it
gives is a character or half of one. -/
inductive TextUnit.SpelledBy : TextUnit → List Char → Prop
  | plain {c : Char} : c ≠ '"' → c ≠ '\\' → 0x20 ≤ c.toNat → SpelledBy (.char c) [c]
  | short {c d : Char} : shortEscape? c = some d → SpelledBy (.char d) ['\\', c]
  | unit {c₁ c₂ c₃ c₄ : Char} {d₁ d₂ d₃ d₄ : Nat} :
    hexDigit? c₁ = some d₁ → hexDigit? c₂ = some d₂ → hexDigit? c₃ = some d₃ →
      hexDigit? c₄ = some d₄ →
        SpelledBy (.escape (UInt16.ofNat (((d₁ * 16 + d₂) * 16 + d₃) * 16 + d₄)))
          ['\\', 'u', c₁, c₂, c₃, c₄]

/-- The texts of the pieces of a string, without quotation marks. -/
inductive Text.SpelledBy : Text → List Char → Prop
  | nil : SpelledBy [] []
  | cons {u : TextUnit} {t : Text} {piece text : List Char} :
    u.SpelledBy piece → SpelledBy t text → SpelledBy (u :: t) (piece ++ text)

/-- The text of an array whose items have these texts. -/
def arrayText (items : List (List Char)) : List Char := '[' :: [','].intercalate items ++ [']']

/-- A member of an object, as it is written: its name, in quotation marks, and its value. -/
structure Member where
  name : List Char
  value : List Char

def Member.text (m : Member) : List Char := m.name ++ ':' :: m.value

/-- The text of an object that has these members. -/
def objectText (members : List Member) : List Char :=
  '{' :: [','].intercalate (members.map Member.text) ++ ['}']

/-- The texts of a value. -/
inductive SpelledBy : Json → List Char → Prop
  | null : SpelledBy .null ['n', 'u', 'l', 'l']
  | true : SpelledBy (.bool Bool.true) ['t', 'r', 'u', 'e']
  | false : SpelledBy (.bool Bool.false) ['f', 'a', 'l', 's', 'e']
  | number {n : Numeral} {text : List Char} : n.SpelledBy text → SpelledBy (.number n) text
  | string {t : Text} {text : List Char} :
    t.SpelledBy text → SpelledBy (.string t) ('"' :: text ++ ['"'])
  | emptyArray {blanks : List Char} :
    IsBlankText blanks → SpelledBy (.array []) ('[' :: blanks ++ [']'])
  /-- An array of items, each with its text. -/
  | array {items : List (Json × List Char)} :
    (∀ i ∈ items, SpelledBy i.1 i.2) →
      SpelledBy (.array (items.map Prod.fst)) (arrayText (items.map Prod.snd))
  | emptyObject {blanks : List Char} :
    IsBlankText blanks → SpelledBy (.object []) ('{' :: blanks ++ ['}'])
  /-- An object of members, each with the text of its name and that of its value. -/
  | object {members : List ((Text × Json) × Member)} :
    (∀ m ∈ members, SpelledBy (.string m.1.1) m.2.name) →
      (∀ m ∈ members, SpelledBy m.1.2 m.2.value) →
        SpelledBy (.object (members.map Prod.fst)) (objectText (members.map Prod.snd))
  /-- Blanks may stand around every value, and around the name of a member. -/
  | padded {v : Json} {before text after : List Char} :
    IsBlankText before → IsBlankText after → SpelledBy v text →
      SpelledBy v (before ++ (text ++ after))

/-! ## Characters -/

/-- A character of a number or word begins nothing else. -/
theorem isBlank_of_isBare {c : Char} (h : isBare c = true) :
    isBlank c = false ∧ c ≠ '"' ∧ c ≠ '[' ∧ c ≠ '{' ∧ c ≠ ']' := by
  refine ⟨?_, ?_, ?_, ?_, ?_⟩
  · rw [Bool.eq_false_iff]
    intro hblank
    simp only [isBlank, Bool.or_eq_true, beq_iff_eq] at hblank
    obtain ((rfl | rfl) | rfl) | rfl := hblank <;> revert h <;> decide
  all_goals
    rintro rfl
    revert h
    decide

theorem isBare_of_isBlank {c : Char} (h : isBlank c = true) : isBare c = false := by
  rw [Bool.eq_false_iff]
  intro hbare
  rw [(isBlank_of_isBare hbare).1] at h
  cases h

theorem isBare_toChar (d : Digit) : isBare d.toChar = true := by
  revert d
  decide

theorem isBare_of_mem_digits {ds : List Digit} {c : Char} (hc : c ∈ Decimal.toChars ds) :
    isBare c = true := by
  obtain ⟨d, -, rfl⟩ := List.mem_map.mp hc
  exact isBare_toChar d

theorem isBare_of_mem_exponent {e : Option Exponent} {text : List Char}
    (h : Numeral.ExponentSpelledBy e text) {c : Char} (hc : c ∈ text) : isBare c = true := by
  cases h with
  | none => cases hc
  | @signed _ negative _ hmark _ =>
    obtain rfl | hc := List.mem_cons.mp hc
    · obtain rfl | rfl := hmark <;> rfl
    obtain rfl | hc := List.mem_cons.mp hc
    · cases negative <;> rfl
    · exact isBare_of_mem_digits hc
  | unsigned hmark _ =>
    obtain rfl | hc := List.mem_cons.mp hc
    · obtain rfl | rfl := hmark <;> rfl
    · exact isBare_of_mem_digits hc

/-- The characters of a numeral may all be part of a number. -/
theorem isBare_of_mem_numeral {n : Numeral} {text : List Char} (h : n.SpelledBy text) {c : Char}
    (hc : c ∈ text) : isBare c = true := by
  obtain ⟨-, hexponent⟩ := h
  simp only [List.mem_append] at hc
  obtain hsign | hwhole | hfraction | hlast := hc
  · unfold Numeral.signChars at hsign
    split at hsign
    · rw [List.mem_singleton.mp hsign]
      rfl
    · cases hsign
  · exact isBare_of_mem_digits hwhole
  · unfold Numeral.fractionChars at hfraction
    split at hfraction
    · cases hfraction
    · obtain rfl | hdigit := List.mem_cons.mp hfraction
      · rfl
      · exact isBare_of_mem_digits hdigit
  · exact isBare_of_mem_exponent hexponent hlast

/-- A numeral is not one of the three words, so its text spells it. -/
theorem ofBare?_of_spelledBy {n : Numeral} {text : List Char} (h : n.SpelledBy text) :
    ofBare? text = some (.number n) := by
  obtain ⟨c, rest, rfl, hfirst⟩ := Numeral.exists_cons_of_spelledBy h
  have hword : c ≠ 'n' ∧ c ≠ 't' ∧ c ≠ 'f' := by
    obtain rfl | ⟨d, rfl⟩ := hfirst
    · decide
    · exact d.toChar_ne_word
  simp [ofBare?, hword, Numeral.ofChars?_of_spelledBy h]

namespace State

variable {stack : List Container} {role : Role} {units : Text}

/-! ## Runs -/

@[simp] theorem run_nil (s : State) : s.run [] = some s := rfl

theorem run_cons (s : State) (c : Char) (text : List Char) :
    s.run (c :: text) = (s.step c).bind fun s' => s'.run text := rfl

theorem run_append (s : State) (text rest : List Char) :
    s.run (text ++ rest) = (s.run text).bind fun s' => s'.run rest :=
  List.foldlM_append

theorem run_append_of_run {s s' : State} {text : List Char} (h : s.run text = some s')
    (rest : List Char) : s.run (text ++ rest) = s'.run rest := by
  rw [run_append, h, Option.bind_some]

/-! ## Strings -/

theorem step_hex {c : Char} {k unit d : Nat} (hc : hexDigit? c = some d) :
    step ⟨stack, .hex role units (k + 2) unit⟩ c =
      some ⟨stack, .hex role units (k + 1) (unit * 16 + d)⟩ := by
  simp [step, hc]

theorem step_hex_last {c : Char} {unit d : Nat} (hc : hexDigit? c = some d) :
    step ⟨stack, .hex role units 1 unit⟩ c =
      some ⟨stack, .string role (.escape (UInt16.ofNat (unit * 16 + d)) :: units)⟩ := by
  simp [step, hc]

/-- A piece of a string is read. -/
theorem run_unit {u : TextUnit} {piece : List Char} (h : u.SpelledBy piece) :
    run ⟨stack, .string role units⟩ piece = some ⟨stack, .string role (u :: units)⟩ := by
  cases h with
  | plain hquote hbackslash hplain =>
    simp [run_cons, step, hquote, hbackslash, Nat.not_lt.mpr hplain]
  | @short c d hc =>
    have hne : c ≠ 'u' := by
      rintro rfl
      cases hc
    simp [run_cons, step, hne, hc]
  | unit h₁ h₂ h₃ h₄ =>
    have hbackslash : step ⟨stack, .string role units⟩ '\\' = some ⟨stack, .escape role units⟩ := rfl
    have hescape : step ⟨stack, .escape role units⟩ 'u' = some ⟨stack, .hex role units 4 0⟩ := rfl
    simp only [run_cons, run_nil, hbackslash, hescape, Option.bind_some, step_hex h₁, step_hex h₂,
      step_hex h₃, step_hex_last h₄, Nat.zero_mul, Nat.zero_add]

theorem run_units {t : Text} {text : List Char} (h : t.SpelledBy text) :
    run ⟨stack, .string role units⟩ text = some ⟨stack, .string role (t.reverse ++ units)⟩ := by
  induction h generalizing units with
  | nil => rfl
  | cons hu _ ih =>
    rw [run_append_of_run (run_unit hu), ih, List.reverse_cons, List.append_assoc,
      List.singleton_append]

/-- A string, from behind its first quotation mark. -/
theorem run_string {t : Text} {text : List Char} (h : t.SpelledBy text) :
    run ⟨stack, .string role []⟩ (text ++ ['"']) = closeString stack role t.reverse := by
  rw [run_append_of_run (run_units h), List.append_nil, run_cons]
  simp [step]

/-! ## Values -/

/-- The machine has just taken the value `v`; a number or word may still go on. -/
inductive Holds (stack : List Container) (v : Json) : State → Prop
  | after : Holds stack v ⟨stack, .after v⟩
  | bare {lexeme : List Char} : ofBare? lexeme.reverse = some v → Holds stack v ⟨stack, .bare lexeme⟩

variable {v : Json} {s : State} {text : List Char}

theorem Holds.step (h : Holds stack v s) {c : Char} (hc : isBare c = false) :
    s.step c = stepAfter stack v c := by
  cases h with
  | after => rfl
  | bare hv => simp [State.step, hc, hv]

theorem Holds.finish?_eq (h : Holds [] v s) : s.finish? = some v := by
  cases h with
  | after => rfl
  | bare hv => exact hv

/-- The text is read as the value, whatever is open around it. -/
def Reads (v : Json) (text : List Char) : Prop :=
  ∀ stack, ∃ s, run ⟨stack, .value⟩ text = some s ∧ Holds stack v s

/-- The characters of a number or word are collected. -/
theorem run_lexeme {lexeme : List Char} (hbare : ∀ c ∈ lexeme, isBare c = true)
    (soFar : List Char) :
    run ⟨stack, .bare soFar⟩ lexeme = some ⟨stack, .bare (lexeme.reverse ++ soFar)⟩ := by
  induction lexeme generalizing soFar with
  | nil => rfl
  | cons c lexeme ih =>
    obtain ⟨hc, hrest⟩ := List.forall_mem_cons.mp hbare
    have hstep : step ⟨stack, .bare soFar⟩ c = some ⟨stack, .bare (c :: soFar)⟩ := by
      simp [State.step, hc]
    rw [run_cons, hstep, Option.bind_some, ih hrest, List.reverse_cons, List.append_assoc,
      List.singleton_append]

theorem reads_lexeme {c : Char} {lexeme : List Char} (hbare : ∀ d ∈ c :: lexeme, isBare d = true)
    (hv : ofBare? (c :: lexeme) = some v) : Reads v (c :: lexeme) := by
  intro stack
  obtain ⟨hc, hrest⟩ := List.forall_mem_cons.mp hbare
  obtain ⟨hblank, hquote, hbracket, hbrace, -⟩ := isBlank_of_isBare hc
  have hstep : step ⟨stack, .value⟩ c = some ⟨stack, .bare [c]⟩ := by
    simp [State.step, stepValue, hblank, hquote, hbracket, hbrace, hc]
  refine ⟨⟨stack, .bare (lexeme.reverse ++ [c])⟩, ?_, .bare ?_⟩
  · rw [run_cons, hstep, Option.bind_some, run_lexeme hrest]
  · rwa [← List.reverse_cons, List.reverse_reverse]

theorem reads_number {n : Numeral} (h : n.SpelledBy text) : Reads (.number n) text := by
  obtain ⟨c, rest, rfl, -⟩ := Numeral.exists_cons_of_spelledBy h
  exact reads_lexeme (fun d hd => isBare_of_mem_numeral h hd) (ofBare?_of_spelledBy h)

theorem reads_string {t : Text} (h : t.SpelledBy text) :
    Reads (.string t) ('"' :: text ++ ['"']) := by
  intro stack
  refine ⟨⟨stack, .after (.string t)⟩, ?_, .after⟩
  rw [List.cons_append, run_cons]
  exact (run_string h).trans (by simp [closeString])

/-! ## Blanks -/

/-- Blanks change nothing in a state that does not mind them. -/
theorem run_blanks (hs : ∀ c, isBlank c = true → s.step c = some s) {blanks : List Char}
    (h : IsBlankText blanks) : s.run blanks = some s := by
  induction blanks with
  | nil => rfl
  | cons c blanks ih =>
    obtain ⟨hc, hrest⟩ := List.forall_mem_cons.mp h
    rw [run_cons, hs c hc, Option.bind_some, ih hrest]

theorem step_value_blank {c : Char} (hc : isBlank c = true) :
    step ⟨stack, .value⟩ c = some ⟨stack, .value⟩ := by
  simp [State.step, stepValue, hc]

theorem Holds.run_blanks (h : Holds stack v s) {blanks : List Char} (hblanks : IsBlankText blanks) :
    ∃ s', s.run blanks = some s' ∧ Holds stack v s' := by
  cases blanks with
  | nil => exact ⟨s, rfl, h⟩
  | cons c blanks =>
    obtain ⟨hc, hrest⟩ := List.forall_mem_cons.mp hblanks
    have hstay : ∀ c, isBlank c = true →
        State.step ⟨stack, .after v⟩ c = some ⟨stack, .after v⟩ := by
      intro c hc
      simp [State.step, stepAfter, hc]
    have hfirst : s.step c = some ⟨stack, .after v⟩ :=
      (h.step (isBare_of_isBlank hc)).trans (hstay c hc)
    refine ⟨⟨stack, .after v⟩, ?_, .after⟩
    rw [run_cons, hfirst, Option.bind_some, State.run_blanks hstay hrest]

theorem Reads.padded (h : Reads v text) {before after : List Char} (hbefore : IsBlankText before)
    (hafter : IsBlankText after) : Reads v (before ++ (text ++ after)) := by
  intro stack
  obtain ⟨s, hrun, hholds⟩ := h stack
  obtain ⟨s', hrun', hholds'⟩ := hholds.run_blanks hafter
  refine ⟨s', ?_, hholds'⟩
  rw [run_append_of_run (run_blanks (fun _ hc => step_value_blank hc) hbefore),
    run_append_of_run hrun, hrun']

/-! ## Arrays -/

/-- The items of an array from some item on, up to the end of the array. -/
theorem run_items {first : Json × List Char} (hfirst : Reads first.1 first.2)
    {rest : List (Json × List Char)} (hrest : ∀ i ∈ rest, Reads i.1 i.2) (soFar : List Json) :
    run ⟨.array soFar :: stack, .value⟩
        ([','].intercalate ((first :: rest).map Prod.snd) ++ [']']) =
      some ⟨stack, .after (.array (soFar.reverse ++ (first :: rest).map Prod.fst))⟩ := by
  induction rest generalizing first soFar with
  | nil =>
    obtain ⟨s, hrun, hholds⟩ := hfirst (.array soFar :: stack)
    have hend : s.step ']' = some ⟨stack, .after (.array (first.1 :: soFar).reverse)⟩ :=
      hholds.step rfl
    rw [List.map_singleton, List.intercalate_singleton, run_append_of_run hrun, run_cons, hend]
    simp
  | cons second rest ih =>
    obtain ⟨hsecond, hrest⟩ := List.forall_mem_cons.mp hrest
    obtain ⟨s, hrun, hholds⟩ := hfirst (.array soFar :: stack)
    have hcomma : s.step ',' = some ⟨.array (first.1 :: soFar) :: stack, .value⟩ := hholds.step rfl
    have hlater := ih hsecond hrest (first.1 :: soFar)
    rw [List.map_cons, List.map_cons, List.intercalate_cons_cons, List.append_assoc,
      List.append_assoc, run_append_of_run hrun, List.singleton_append, run_cons, hcomma,
      Option.bind_some, ← List.map_cons, hlater]
    simp

theorem step_firstItem_blank {items : List Json} {c : Char} (hc : isBlank c = true) :
    step ⟨.array items :: stack, .firstItem⟩ c = some ⟨.array items :: stack, .firstItem⟩ := by
  have hne : c ≠ ']' := by
    rintro rfl
    cases hc
  simp [State.step, hne, hc]

/-- A value that may follow a comma may follow the opening bracket. -/
theorem run_firstItem {items : List Json}
    (h : run ⟨.array items :: stack, .value⟩ text = some s) (hs : s.focus ≠ .value) :
    run ⟨.array items :: stack, .firstItem⟩ text = some s := by
  induction text with
  | nil =>
    cases h
    exact absurd rfl hs
  | cons c text ih =>
    rw [run_cons] at h ⊢
    cases hc : isBlank c with
    | true =>
      rw [step_value_blank hc, Option.bind_some] at h
      rw [step_firstItem_blank hc, Option.bind_some, ih h]
    | false =>
      have hne : c ≠ ']' := by
        rintro rfl
        cases h
      have hstep : step ⟨.array items :: stack, .firstItem⟩ c =
          step ⟨.array items :: stack, .value⟩ c := by
        simp [State.step, hne, hc]
      rw [hstep, h]

theorem reads_array {items : List (Json × List Char)} (hitems : ∀ i ∈ items, Reads i.1 i.2) :
    Reads (.array (items.map Prod.fst)) (arrayText (items.map Prod.snd)) := by
  intro stack
  refine ⟨⟨stack, .after (.array (items.map Prod.fst))⟩, ?_, .after⟩
  have hopen : step ⟨stack, .value⟩ '[' = some ⟨.array [] :: stack, .firstItem⟩ := rfl
  rw [arrayText, List.cons_append, run_cons, hopen, Option.bind_some]
  cases items with
  | nil => rfl
  | cons first rest =>
    obtain ⟨hfirst, hrest⟩ := List.forall_mem_cons.mp hitems
    exact run_firstItem (run_items hfirst hrest []) (fun h => Focus.noConfusion h)

theorem reads_emptyArray {blanks : List Char} (h : IsBlankText blanks) :
    Reads (.array []) ('[' :: blanks ++ [']']) := by
  intro stack
  refine ⟨⟨stack, .after (.array [])⟩, ?_, .after⟩
  have hopen : step ⟨stack, .value⟩ '[' = some ⟨.array [] :: stack, .firstItem⟩ := rfl
  rw [List.cons_append, run_cons, hopen, Option.bind_some,
    run_append_of_run (run_blanks (fun _ hc => step_firstItem_blank hc) h)]
  rfl

/-! ## Objects -/

/-- The focus where a member may begin. -/
def IsNameFocus (focus : Focus) : Prop := focus = .firstName ∨ focus = .nextName

/-- The text is read as a name, whatever members come before it. -/
def ReadsName (name : Text) (text : List Char) : Prop :=
  ∀ stack members focus, IsNameFocus focus →
    run ⟨.object members :: stack, focus⟩ text = some ⟨.member members name :: stack, .colon⟩

variable {members : List (Text × Json)}

theorem step_name_blank {focus : Focus} (hfocus : IsNameFocus focus) {c : Char}
    (hc : isBlank c = true) :
    step ⟨.object members :: stack, focus⟩ c = some ⟨.object members :: stack, focus⟩ := by
  have hne : c ≠ '}' := by
    rintro rfl
    cases hc
  obtain rfl | rfl := hfocus <;> simp [State.step, stepName, hne, hc]

/-- The text of a string is read as a name where one is due. -/
theorem readsName_of_spelledBy {name : Text} (h : SpelledBy (.string name) text) :
    ReadsName name text := by
  intro stack members focus hfocus
  generalize hv : Json.string name = v at h
  induction h with
  | string ht =>
    cases hv
    have hopen : step ⟨.object members :: stack, focus⟩ '"' =
        some ⟨.object members :: stack, .string .name []⟩ := by
      obtain rfl | rfl := hfocus <;> rfl
    rw [List.cons_append, run_cons, hopen, Option.bind_some, run_string ht]
    simp [closeString]
  | padded hbefore hafter _ ih =>
    have hstay : ∀ c, isBlank c = true →
        step ⟨.member members name :: stack, .colon⟩ c =
          some ⟨.member members name :: stack, .colon⟩ := by
      intro c hc
      simp [State.step, hc]
    rw [run_append_of_run (run_blanks (fun _ hc => step_name_blank hfocus hc) hbefore),
      run_append_of_run (ih hv), run_blanks hstay hafter]
  | _ => cases hv

/-- The texts of a member are read as its name and its value. -/
def ReadsMember (m : (Text × Json) × Member) : Prop :=
  ReadsName m.1.1 m.2.name ∧ Reads m.1.2 m.2.value

theorem run_member (stack : List Container) {m : (Text × Json) × Member} (hm : ReadsMember m)
    {focus : Focus} (hfocus : IsNameFocus focus) (soFar : List (Text × Json)) :
    ∃ s, run ⟨.object soFar :: stack, focus⟩ m.2.text = some s ∧
      Holds (.member soFar m.1.1 :: stack) m.1.2 s := by
  obtain ⟨s, hrun, hholds⟩ := hm.2 (.member soFar m.1.1 :: stack)
  have hcolon : step ⟨.member soFar m.1.1 :: stack, .colon⟩ ':' =
      some ⟨.member soFar m.1.1 :: stack, .value⟩ := rfl
  refine ⟨s, ?_, hholds⟩
  rw [Member.text, run_append_of_run (hm.1 stack soFar focus hfocus), run_cons, hcolon,
    Option.bind_some, hrun]

/-- The members of an object from some member on, up to the end of the object. -/
theorem run_members {first : (Text × Json) × Member} (hfirst : ReadsMember first)
    {rest : List ((Text × Json) × Member)} (hrest : ∀ m ∈ rest, ReadsMember m) {focus : Focus}
    (hfocus : IsNameFocus focus) (soFar : List (Text × Json)) :
    run ⟨.object soFar :: stack, focus⟩
        ([','].intercalate (((first :: rest).map Prod.snd).map Member.text) ++ ['}']) =
      some ⟨stack, .after (.object (soFar.reverse ++ (first :: rest).map Prod.fst))⟩ := by
  induction rest generalizing first soFar focus with
  | nil =>
    obtain ⟨s, hrun, hholds⟩ := run_member stack hfirst hfocus soFar
    have hend : s.step '}' = some ⟨stack, .after (.object (first.1 :: soFar).reverse)⟩ :=
      hholds.step rfl
    rw [List.map_singleton, List.map_singleton, List.intercalate_singleton, run_append_of_run hrun,
      run_cons, hend]
    simp
  | cons second rest ih =>
    obtain ⟨hsecond, hrest⟩ := List.forall_mem_cons.mp hrest
    obtain ⟨s, hrun, hholds⟩ := run_member stack hfirst hfocus soFar
    have hcomma : s.step ',' = some ⟨.object (first.1 :: soFar) :: stack, .nextName⟩ :=
      hholds.step rfl
    have hlater := ih hsecond hrest (.inr rfl) (first.1 :: soFar)
    simp only [List.map_cons] at hlater ⊢
    rw [List.intercalate_cons_cons, List.append_assoc, List.append_assoc, run_append_of_run hrun,
      List.singleton_append, run_cons, hcomma, Option.bind_some, hlater]
    simp

theorem reads_object {members : List ((Text × Json) × Member)}
    (hmembers : ∀ m ∈ members, ReadsMember m) :
    Reads (.object (members.map Prod.fst)) (objectText (members.map Prod.snd)) := by
  intro stack
  refine ⟨⟨stack, .after (.object (members.map Prod.fst))⟩, ?_, .after⟩
  have hopen : step ⟨stack, .value⟩ '{' = some ⟨.object [] :: stack, .firstName⟩ := rfl
  rw [objectText, List.cons_append, run_cons, hopen, Option.bind_some]
  cases members with
  | nil => rfl
  | cons first rest =>
    obtain ⟨hfirst, hrest⟩ := List.forall_mem_cons.mp hmembers
    exact run_members hfirst hrest (.inl rfl) []

theorem reads_emptyObject {blanks : List Char} (h : IsBlankText blanks) :
    Reads (.object []) ('{' :: blanks ++ ['}']) := by
  intro stack
  refine ⟨⟨stack, .after (.object [])⟩, ?_, .after⟩
  have hopen : step ⟨stack, .value⟩ '{' = some ⟨.object [] :: stack, .firstName⟩ := rfl
  rw [List.cons_append, run_cons, hopen, Option.bind_some,
    run_append_of_run (run_blanks (fun _ hc => step_name_blank (.inl rfl) hc) h)]
  rfl

/-! ## The main result -/

theorem reads_of_spelledBy (h : v.SpelledBy text) : Reads v text := by
  induction h with
  | null | true | false => exact reads_lexeme (List.all_eq_true.mp rfl) rfl
  | number hn => exact reads_number hn
  | string ht => exact reads_string ht
  | emptyArray hblanks => exact reads_emptyArray hblanks
  | array _ ih => exact reads_array ih
  | emptyObject hblanks => exact reads_emptyObject hblanks
  | object hnames _ _ ih =>
    exact reads_object fun m hm => ⟨readsName_of_spelledBy (hnames m hm), ih m hm⟩
  | padded hbefore hafter _ ih => exact ih.padded hbefore hafter

end State

/-- The reader finds the value of every text that spells one. -/
theorem parse?_of_spelledBy {v : Json} {text : List Char} (h : v.SpelledBy text) :
    parse? text = some v := by
  obtain ⟨s, hrun, hholds⟩ := State.reads_of_spelledBy h []
  rw [parse?, State.start, hrun, Option.bind_some, hholds.finish?_eq]

end HomeMesh.Json
