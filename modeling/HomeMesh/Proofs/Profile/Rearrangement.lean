import Mathlib.Data.List.Nodup
import HomeMesh.Proofs.Profile.RoundTrip

/-!
# The order of members

The text of a profile consists of objects within objects: the profile itself, its timing, its
comfort band, and the movement sensors with their actions.  What is read of such a text does not
hang on the order in which an object lists its members, nor on members that the record does not
know, whether the text is accepted or refused.

A `JsonText` is a text together with the value that it spells, and an `Entry` is one member of an
object; so only well-formed texts are considered, but their names and values are arbitrary.
`Rearranged` says what may be changed in the text of one part of a profile: the order of its
members, the members that are unknown, and the parts within it.

The reader of a record looks at nothing but the values of the fields that it knows, and it refuses
an object in which one of their names is repeated.  Two objects therefore agree if the same names
are known in them and the fields of these names agree (`Part.FieldsAgree`, `Part.rel_ofMembers`).
A field that is itself a part need not have the same value in both: it is enough that both values
are read as the same, and this is what the induction on the rearrangement provides
(`Rearranged.read?_eq`).
-/

namespace HomeMesh

open Json (Fields SpelledBy IsBlankText objectText arrayText named?)

/-! ## Well-formed texts -/

/-- A text of a JSON value, with the value that it spells. -/
structure JsonText where
  text : List Char
  value : Json
  spelled : value.SpelledBy text

/-- A well-formed member of an object: how it is written, and the name and value that this spells.
The name is one that can be decoded. -/
structure Entry where
  label : Json.Text
  labelText : List Char
  spelled : (Json.string label).SpelledBy labelText
  name : String
  decoded : label.decode? = some name.toList
  value : JsonText

/-- Blanks before and after a text. -/
structure Margins where
  before : List Char
  after : List Char
  isBlank_before : IsBlankText before
  isBlank_after : IsBlankText after

namespace Entry

def member (m : Entry) : Json.Member := ⟨m.labelText, m.value.text⟩

/-- The decoded name of a member and its value. -/
def pair (m : Entry) : String × Json := (m.name, m.value.value)

end Entry

namespace JsonText

/-- The text as the reader of profiles is given it. -/
def toString (t : JsonText) : String := String.ofList t.text

/-- The array of some items. -/
def array (items : List JsonText) : JsonText where
  text := arrayText (items.map text)
  value := .array (items.map value)
  spelled := by
    have hspelled : SpelledBy
        (.array ((items.map fun t => (t.value, t.text)).map Prod.fst))
        (arrayText ((items.map fun t => (t.value, t.text)).map Prod.snd)) :=
      .array (List.forall_mem_map.mpr fun t _ => t.spelled)
    simpa [Function.comp_def] using hspelled

/-- The object of some members. -/
def object (members : List Entry) : JsonText where
  text := objectText (members.map Entry.member)
  value := .object (members.map fun m => (m.label, m.value.value))
  spelled := by
    have hspelled : SpelledBy
        (.object ((members.map fun m => ((m.label, m.value.value), m.member)).map Prod.fst))
        (objectText ((members.map fun m => ((m.label, m.value.value), m.member)).map Prod.snd)) :=
      .object (List.forall_mem_map.mpr fun m _ => m.spelled)
        (List.forall_mem_map.mpr fun m _ => m.value.spelled)
    simpa [Function.comp_def] using hspelled

/-- The same value with blanks around it. -/
def padded (margins : Margins) (t : JsonText) : JsonText where
  text := margins.before ++ (t.text ++ margins.after)
  value := t.value
  spelled := .padded margins.isBlank_before margins.isBlank_after t.spelled

end JsonText

/-! ## The parts of a profile -/

/-- The records that a profile is made of, and its list of movement sensors. -/
inductive Part where
  | profile
  | timing
  | comfort
  | movement
  | binding
  | action
deriving DecidableEq

namespace Part

/-- The names of the fields of a record. -/
def fieldNames : Part → List String
  | .profile => Profile.fieldNames
  | .timing => Timing.fieldNames
  | .comfort => ["low_c", "high_c"]
  | .movement => []
  | .binding => ["channel", "action"]
  | .action => ["notify_light_peer", "wake_display"]

/-- The part that a field of a record holds; the other fields hold plain values. -/
def field? : Part → String → Option Part
  | .profile, name =>
    if name = "movement" then some .movement
    else if name = "timing" then some .timing
    else if name = "comfort" then some .comfort
    else none
  | .binding, name => if name = "action" then some .action else none
  | _, _ => none

/-- The part that an item of an array is.  A record may also be given as the array of its fields. -/
def item? (p : Part) (i : Nat) : Option Part :=
  if p = .movement then some .binding else (p.fieldNames[i]?).bind p.field?

/-- What a part is read as. -/
def Value : Part → Type
  | .profile => Profile
  | .timing => Timing
  | .comfort => Option ComfortBand
  | .movement => Bounded MovementBinding maxMovementInputs
  | .binding => MovementBinding
  | .action => MovementAction

/-- A value that may be `null`. -/
def readOptional {α : Type} (read : Json → Option α) : Json → Option (Option α)
  | .null => some none
  | v => some <$> read v

theorem readOptional_eq {α : Type} (read : Json → Option α) {v : Json} (hv : v ≠ .null) :
    readOptional read v = some <$> read v := by
  cases v with
  | null => exact absurd rfl hv
  | _ => rfl

def read? : (p : Part) → Json → Option p.Value
  | .profile => Profile.ofJson?
  | .timing => Timing.ofJson?
  | .comfort => readOptional ComfortBand.ofJson?
  | .movement => Json.toList? maxMovementInputs MovementBinding.ofJson?
  | .binding => MovementBinding.ofJson?
  | .action => MovementAction.ofJson?

end Part

/-- A text becomes another one for the same part by changing the order of members, by leaving out or
adding members that are unknown, and by doing so within the parts of this part. -/
inductive Rearranged : Part → JsonText → JsonText → Prop
  | refl (p : Part) (t : JsonText) : Rearranged p t t
  | symm {p : Part} {t t' : JsonText} : Rearranged p t t' → Rearranged p t' t
  | trans {p : Part} {t t' t'' : JsonText} :
    Rearranged p t t' → Rearranged p t' t'' → Rearranged p t t''
  | permuted {p : Part} {ms ms' : List Entry} :
    ms.Perm ms' → Rearranged p (.object ms) (.object ms')
  | unknown {p : Part} {m : Entry} {ms : List Entry} :
    m.name ∉ p.fieldNames → Rearranged p (.object (m :: ms)) (.object ms)
  | field {p q : Part} {m : Entry} {value : JsonText} {ms : List Entry} :
    p.field? m.name = some q → Rearranged q m.value value →
      Rearranged p (.object (m :: ms)) (.object ({ m with value } :: ms))
  | item {p q : Part} {t t' : JsonText} {before after : List JsonText} :
    p.item? before.length = some q → Rearranged q t t' →
      Rearranged p (.array (before ++ t :: after)) (.array (before ++ t' :: after))
  | padded {p : Part} {t t' : JsonText} (margins margins' : Margins) :
    Rearranged p t t' → Rearranged p (t.padded margins) (t'.padded margins')

/-! ## Fields of a record -/

namespace Part

/-- The plain fields of two records are the same, and their parts are read alike. -/
structure FieldsAgree (p : Part) (f f' : Fields) : Prop where
  plain : ∀ name ∈ p.fieldNames, p.field? name = none → f name = f' name
  part : ∀ name ∈ p.fieldNames, ∀ q, p.field? name = some q →
    (f name).map q.read? = (f' name).map q.read?

variable {p q : Part} {f f' : Fields} {name : String} {v v' : Json}

theorem FieldsAgree.get_plain (h : p.FieldsAgree f f') (hname : name ∈ p.fieldNames)
    (hfield : p.field? name = none) {α : Type} (read : Json → Option α) :
    f.get name read = f'.get name read := by
  rw [Fields.get, Fields.get, h.plain name hname hfield]

theorem FieldsAgree.getOptional_plain (h : p.FieldsAgree f f') (hname : name ∈ p.fieldNames)
    (hfield : p.field? name = none) {α : Type} (read : Json → Option α) :
    f.getOptional name read = f'.getOptional name read := by
  rw [Fields.getOptional, Fields.getOptional, h.plain name hname hfield]

theorem FieldsAgree.get_part (h : p.FieldsAgree f f') (hname : name ∈ p.fieldNames)
    (hfield : p.field? name = some q) : f.get name q.read? = f'.get name q.read? := by
  have hread := h.part name hname q hfield
  simpa only [Option.bind_map, Function.id_comp, Fields.get] using
    congrArg (fun o => o.bind id) hread

theorem getOptional_eq (f : Fields) (name : String) {α : Type} (read : Json → Option α) :
    f.getOptional name read = ((f name).map (readOptional read)).getD (some none) := by
  unfold Fields.getOptional
  cases f name with
  | none => rfl
  | some v => cases v <;> rfl

/-- Records that agree are read alike. -/
theorem bind_fields_congr {β : Type} {o o' : Option Fields} {next : Fields → Option β}
    (h : Option.Rel p.FieldsAgree o o')
    (hnext : ∀ f f', p.FieldsAgree f f' → next f = next f') : (o >>= next) = (o' >>= next) := by
  cases h with
  | none => rfl
  | some hagree => exact hnext _ _ hagree

theorem read?_congr (hp : p ≠ .movement) (hv : v ≠ .null) (hv' : v' ≠ .null)
    (h : Option.Rel p.FieldsAgree (v.fields? p.fieldNames) (v'.fields? p.fieldNames)) :
    p.read? v = p.read? v' := by
  cases p with
  | profile =>
    refine bind_fields_congr h fun f f' hf => ?_
    have hmovement : f.get "movement" (Json.toList? _ MovementBinding.ofJson?) =
        f'.get "movement" (Json.toList? _ MovementBinding.ofJson?) :=
      hf.get_part (q := .movement) (by decide) (by decide)
    have htiming : f.get "timing" Timing.ofJson? = f'.get "timing" Timing.ofJson? :=
      hf.get_part (q := .timing) (by decide) (by decide)
    have hcomfort : f.getOptional "comfort" ComfortBand.ofJson? =
        f'.getOptional "comfort" ComfortBand.ofJson? := by
      rw [getOptional_eq, getOptional_eq]
      exact congrArg (fun o => o.getD (some none))
        (hf.part "comfort" (by decide) .comfort (by decide))
    simp (disch := decide) only [hf.get_plain, hmovement, htiming, hcomfort]
  | timing =>
    refine bind_fields_congr h fun f f' hf => ?_
    simp (disch := decide) only [hf.get_plain, hf.getOptional_plain]
  | comfort =>
    have hband : ComfortBand.ofJson? v = ComfortBand.ofJson? v' := by
      refine bind_fields_congr h fun f f' hf => ?_
      simp (disch := decide) only [hf.get_plain]
    change readOptional _ v = readOptional _ v'
    rw [readOptional_eq _ hv, readOptional_eq _ hv', hband]
  | movement => exact absurd rfl hp
  | binding =>
    refine bind_fields_congr h fun f f' hf => ?_
    have haction : f.get "action" MovementAction.ofJson? = f'.get "action" MovementAction.ofJson? :=
      hf.get_part (q := .action) (by decide) (by decide)
    simp (disch := decide) only [hf.get_plain, haction]
  | action =>
    refine bind_fields_congr h fun f f' hf => ?_
    simp (disch := decide) only [hf.get_plain]

/-! ## Objects -/

/-- The names that a record knows, as often as they are given. -/
def knownNames (names : List String) (members : List (String × Json)) : List String :=
  (members.map Prod.fst).filter names.contains

/-- The fields of an object with these decoded members. -/
def ofMembers (names : List String) (members : List (String × Json)) : Option Fields :=
  if (knownNames names members).Nodup then some fun name => members.lookup name else none

theorem fields?_object (names : List String) (members : List Entry) :
    (JsonText.object members).value.fields? names = ofMembers names (members.map Entry.pair) := by
  have hnamed : named? (members.map fun m => (m.label, m.value.value)) =
      some (members.map Entry.pair) := by
    induction members with
    | nil => rfl
    | cons m members ih =>
      rw [named?] at ih
      simp [named?, ih, m.decoded, Entry.pair, String.ofList_toList]
  rw [JsonText.object, Json.fields?, hnamed]
  rfl

variable {members members' : List (String × Json)}

/-- Objects with the same known names agree if their fields do. -/
theorem rel_ofMembers
    (hknown : (knownNames p.fieldNames members).Perm (knownNames p.fieldNames members'))
    (hagree : (knownNames p.fieldNames members).Nodup →
      p.FieldsAgree (fun name => members.lookup name) fun name => members'.lookup name) :
    Option.Rel p.FieldsAgree (ofMembers p.fieldNames members) (ofMembers p.fieldNames members') := by
  have hnodup := hknown.nodup_iff
  unfold ofMembers
  by_cases h : (knownNames p.fieldNames members).Nodup
  · rw [if_pos h, if_pos (hnodup.mp h)]
    exact .some (hagree h)
  · rw [if_neg h, if_neg fun h' => h (hnodup.mpr h')]
    exact .none

theorem FieldsAgree.of_eq (h : ∀ name ∈ p.fieldNames, f name = f' name) : p.FieldsAgree f f' where
  plain name hname _ := h name hname
  part name hname _ _ := congrArg _ (h name hname)

theorem lookup_cons_of_ne {m : String × Json} (h : name ≠ m.1) :
    (m :: members).lookup name = members.lookup name := by
  rw [List.lookup_cons, beq_eq_false_iff_ne.mpr h]

/-- A name that occurs once is found wherever it stands. -/
theorem lookup_eq_of_perm (h : members.Perm members')
    (hcount : (members.map Prod.fst).count name ≤ 1) :
    members.lookup name = members'.lookup name := by
  induction h with
  | nil => rfl
  | cons m _ ih =>
    by_cases hm : name = m.1
    · rw [List.lookup_cons, List.lookup_cons, beq_iff_eq.mpr hm]
    · rw [List.map_cons, List.count_cons_of_ne (Ne.symm hm)] at hcount
      rw [lookup_cons_of_ne hm, lookup_cons_of_ne hm, ih hcount]
  | swap m m' members =>
    by_cases hm : name = m.1
    · have hm' : name ≠ m'.1 := by
        rintro rfl
        simp [← hm] at hcount
      rw [lookup_cons_of_ne hm', List.lookup_cons, List.lookup_cons, beq_iff_eq.mpr hm]
    · rw [lookup_cons_of_ne hm, List.lookup_cons, lookup_cons_of_ne hm, List.lookup_cons]
  | trans h _ ih ih' =>
    exact (ih hcount).trans (ih' ((h.map Prod.fst).count_eq name ▸ hcount))

theorem rel_ofMembers_of_perm (h : members.Perm members') :
    Option.Rel p.FieldsAgree (ofMembers p.fieldNames members) (ofMembers p.fieldNames members') := by
  refine rel_ofMembers ((h.map Prod.fst).filter _) fun hnodup => .of_eq fun name hname => ?_
  refine lookup_eq_of_perm h ?_
  have hcontains : p.fieldNames.contains name = true := List.contains_iff_mem.mpr hname
  rw [← List.count_filter hcontains]
  exact List.nodup_iff_count_le_one.mp hnodup name

theorem rel_ofMembers_unknown (hname : name ∉ p.fieldNames) :
    Option.Rel p.FieldsAgree (ofMembers p.fieldNames ((name, v) :: members))
      (ofMembers p.fieldNames members) := by
  refine rel_ofMembers ?_ fun _ => .of_eq fun known hknown => ?_
  · rw [knownNames, List.map_cons, List.filter_cons_of_neg (by simpa using hname)]
    exact .refl _
  · have hne : known ≠ name := by
      rintro rfl
      exact hname hknown
    exact lookup_cons_of_ne hne

theorem rel_ofMembers_part (hfield : p.field? name = some q) (hread : q.read? v = q.read? v') :
    Option.Rel p.FieldsAgree (ofMembers p.fieldNames ((name, v) :: members))
      (ofMembers p.fieldNames ((name, v') :: members)) := by
  refine rel_ofMembers (.refl _) fun _ => ⟨fun known _ hplain => ?_, fun known _ r hpart => ?_⟩
  · have hne : known ≠ name := by
      rintro rfl
      rw [hfield] at hplain
      cases hplain
    exact (lookup_cons_of_ne hne).trans (lookup_cons_of_ne hne).symm
  · by_cases hk : known = name
    · subst hk
      obtain rfl : q = r := Option.some.inj (hfield.symm.trans hpart)
      simp [hread]
    · rw [lookup_cons_of_ne hk, lookup_cons_of_ne hk]

/-- Objects whose fields agree are read alike; in the place of a list, no object can be read. -/
theorem read?_object {ms ms' : List Entry}
    (h : Option.Rel p.FieldsAgree (ofMembers p.fieldNames (ms.map Entry.pair))
      (ofMembers p.fieldNames (ms'.map Entry.pair))) :
    p.read? (JsonText.object ms).value = p.read? (JsonText.object ms').value := by
  by_cases hp : p = .movement
  · subst hp
    rfl
  · rw [← fields?_object, ← fields?_object] at h
    exact read?_congr hp Json.noConfusion Json.noConfusion h

/-! ## Arrays -/

/-- Two arrays that differ in one item have the others in common. -/
theorem getElem?_middle_of_ne {α : Type} {before after : List α} {a a' : α} {i : Nat}
    (hi : i ≠ before.length) : (before ++ a :: after)[i]? = (before ++ a' :: after)[i]? := by
  obtain hlt | hgt := Nat.lt_or_gt_of_ne hi
  · rw [List.getElem?_append_left hlt, List.getElem?_append_left hlt]
  · have hindex : i - before.length = i - before.length - 1 + 1 := by omega
    rw [List.getElem?_append_right (Nat.le_of_lt hgt),
      List.getElem?_append_right (Nat.le_of_lt hgt), hindex, List.getElem?_cons_succ,
      List.getElem?_cons_succ]

variable {before after : List Json}

theorem fields?_array (names : List String) (items : List Json) :
    (Json.array items).fields? names =
      if items.length = names.length then some fun name => items[names.idxOf name]? else none :=
  rfl

/-- A record that is given as an array, with another text for one of its parts. -/
theorem rel_fields?_array (hpart : (p.fieldNames[before.length]?).bind p.field? = some q)
    (hread : q.read? v = q.read? v') :
    Option.Rel p.FieldsAgree ((Json.array (before ++ v :: after)).fields? p.fieldNames)
      ((Json.array (before ++ v' :: after)).fields? p.fieldNames) := by
  have hlength : (before ++ v :: after).length = (before ++ v' :: after).length := by simp
  rw [fields?_array, fields?_array, hlength]
  split
  case isFalse => exact .none
  -- The item that differs belongs to a field of a part, and to no other field.
  have hsame : ∀ name ∈ p.fieldNames, p.fieldNames.idxOf name = before.length →
      p.field? name = some q := by
    intro name hname hindex
    have hget : p.fieldNames[before.length]? = some name := by
      rw [← hindex, List.getElem?_eq_getElem (List.idxOf_lt_length_of_mem hname),
        List.getElem_idxOf]
    rwa [hget] at hpart
  refine .some ⟨fun name hname hplain => ?_, fun name hname r hfield => ?_⟩
  · refine getElem?_middle_of_ne fun hindex => ?_
    rw [hsame name hname hindex] at hplain
    cases hplain
  · by_cases hindex : p.fieldNames.idxOf name = before.length
    · obtain rfl : q = r := Option.some.inj ((hsame name hname hindex).symm.trans hfield)
      simp [hindex, hread]
    · rw [getElem?_middle_of_ne hindex]

/-- A list is read item by item. -/
theorem toList?_middle {α : Type} {capacity : Nat} {read : Json → Option α}
    (hread : read v = read v') :
    Json.toList? capacity read (.array (before ++ v :: after)) =
      Json.toList? capacity read (.array (before ++ v' :: after)) := by
  simp only [Json.toList?, List.mapM_append, List.mapM_cons, hread]

theorem read?_array (hitem : p.item? before.length = some q) (hread : q.read? v = q.read? v') :
    p.read? (.array (before ++ v :: after)) = p.read? (.array (before ++ v' :: after)) := by
  by_cases hp : p = .movement
  · subst hp
    obtain rfl : binding = q := Option.some.inj hitem
    exact toList?_middle hread
  · rw [item?, if_neg hp] at hitem
    exact read?_congr hp Json.noConfusion Json.noConfusion (rel_fields?_array hitem hread)

end Part

/-! ## The main result -/

/-- However the members of a part are rearranged, it is read as the same. -/
theorem Rearranged.read?_eq {p : Part} {t t' : JsonText} (h : Rearranged p t t') :
    p.read? t.value = p.read? t'.value := by
  induction h with
  | refl => rfl
  | symm _ ih => exact ih.symm
  | trans _ _ ih ih' => exact ih.trans ih'
  | permuted hperm => exact Part.read?_object (Part.rel_ofMembers_of_perm (hperm.map Entry.pair))
  | unknown hname => exact Part.read?_object (Part.rel_ofMembers_unknown hname)
  | field hfield _ ih => exact Part.read?_object (Part.rel_ofMembers_part hfield ih)
  | @item p q t t' before after hitem _ ih =>
    simp only [JsonText.array, List.map_append, List.map_cons]
    refine Part.read?_array ?_ ih
    rwa [List.length_map]
  | padded _ _ _ ih => exact ih

namespace Rearranged

/-- A part may be rearranged wherever its field stands. -/
theorem field_middle {p q : Part} (before : List Entry) {m : Entry} {value : JsonText}
    {after : List Entry} (hfield : p.field? m.name = some q) (h : Rearranged q m.value value) :
    Rearranged p (.object (before ++ m :: after)) (.object (before ++ { m with value } :: after)) :=
  .trans (.permuted List.perm_middle) (.trans (.field hfield h) (.permuted List.perm_middle.symm))

end Rearranged

namespace Profile

/-- What a text is read as hangs on the value that it spells. -/
theorem ofText_toString (t : JsonText) :
    ofText t.toString =
      match ofJson? t.value with
      | none => .error .malformed
      | some p => p.validate.map fun _ => p := by
  rw [ofText, JsonText.toString, String.toList_ofList, Json.parse?_of_spelledBy t.spelled,
    Option.bind_some]
  cases ofJson? t.value with
  | none => rfl
  | some p => cases hp : p.validate <;> simp [hp, Except.map]

/-- **The order of members is of no account.**  If the text of a profile is rearranged, the same
comes of it: the same profile, or the same fault. -/
theorem ofText_eq_of_rearranged {t t' : JsonText} (h : Rearranged .profile t t') :
    ofText t.toString = ofText t'.toString := by
  have hread : ofJson? t.value = ofJson? t'.value := h.read?_eq
  rw [ofText_toString, ofText_toString, hread]

end Profile

/-! ## The profile of the hall node -/

/-- A member whose name needs no escapes. -/
def Entry.plain (name : String) (h : isPlain name = true) (value : JsonText) : Entry where
  label := .ofString name
  labelText := (Json.Text.ofString name).print
  spelled := Json.Text.spelledBy_print (Json.isPrintable_ofString h)
  name := name
  decoded := Json.Text.decode?_ofString name
  value := value

namespace JsonText

/-- A value as it is printed. -/
def printed {v : Json} (h : v.IsPrintable) : JsonText := ⟨v.print, v, Json.spelledBy_print h⟩

def ofBool (b : Bool) : JsonText := printed (.bool b)

def ofNat (k : Nat) : JsonText := printed (Json.isPrintable_ofNat k)

def ofSingle (x : Single) : JsonText := printed (Json.isPrintable_ofSingle x)

def ofNode (a : NodeId) : JsonText := printed (Json.isPrintable_ofChoice NodeId.isPlain_label a)

def ofChannel (c : Channel) : JsonText :=
  printed (Json.isPrintable_ofChoice Channel.isPlain_label c)

def ofInput (a : MovementInput) : JsonText :=
  printed (Json.isPrintable_ofChoice MovementInput.isPlain_label a)

end JsonText

namespace Profile

section Hall

-- The order in which each object lists its members.
variable (order : List Entry → List Entry)

def hallAction : JsonText :=
  .object (order
    [.plain "notify_light_peer" rfl (.ofBool true), .plain "wake_display" rfl (.ofBool true)])

def hallBinding : JsonText :=
  .object (order
    [.plain "channel" rfl (.ofInput .front), .plain "action" rfl (hallAction order)])

def hallTiming : JsonText :=
  .object (order
    [.plain "light_duration_ms" rfl (.ofNat 120000),
      .plain "display_duration_ms" rfl (.ofNat 20000),
      .plain "intrusion_duration_ms" rfl (.ofNat 30000),
      .plain "luminosity_poll_ms" rfl (.ofNat 1000),
      .plain "environment_poll_ms" rfl (.ofNat 30000), .plain "door_poll_ms" rfl (.ofNat 500)])

def hallComfort : JsonText :=
  .object (order
    [.plain "low_c" rfl (.ofSingle (.ofQuotient false 15 1)),
      .plain "high_c" rfl (.ofSingle (.ofQuotient false 25 1))])

/-- The members of the profile, given the texts of its parts. -/
def hallMembers (movement timing comfort : JsonText) : List Entry :=
  [.plain "movement" rfl movement, .plain "timing" rfl timing, .plain "comfort" rfl comfort,
    .plain "id" rfl (.ofNode .t01), .plain "hub" rfl (.ofNode .hub),
    .plain "light_peer" rfl (.ofNode .b02),
    .plain "intrusion_targets" rfl (.array [.ofNode .b01, .ofNode .b02]),
    .plain "accepts_broadcast" rfl (.ofBool false),
    .plain "channels" rfl (.ofNat t01.channels.bits.toNat),
    .plain "primary_light" rfl (.ofChannel .frontLight),
    .plain "alert" rfl (.ofChannel .warningLed),
    .plain "darkness_threshold_lux" rfl (.ofSingle (.ofQuotient false 10 1))]

def hallText : JsonText :=
  .object (order (hallMembers (.array [hallBinding order]) (hallTiming order) (hallComfort order)))

end Hall

/-- The parts of the profile may be rearranged in their places. -/
theorem rearranged_hallMembers {movement movement' timing timing' comfort comfort' : JsonText}
    (hmovement : Rearranged .movement movement movement')
    (htiming : Rearranged .timing timing timing')
    (hcomfort : Rearranged .comfort comfort comfort') :
    Rearranged .profile (.object (hallMembers movement timing comfort))
      (.object (hallMembers movement' timing' comfort')) :=
  .trans (.field rfl hmovement)
    (.trans (.field_middle [.plain "movement" rfl movement'] rfl htiming)
      (.field_middle [.plain "movement" rfl movement', .plain "timing" rfl timing'] rfl hcomfort))

theorem rearranged_hallText :
    Rearranged .profile (hallText List.reverse) (hallText fun ms => ms) := by
  have haction : Rearranged .action (hallAction List.reverse) (hallAction fun ms => ms) :=
    .permuted (List.reverse_perm _)
  have hbinding : Rearranged .binding (hallBinding List.reverse) (hallBinding fun ms => ms) :=
    .trans (.permuted (List.reverse_perm _)) (.field_middle [_] rfl haction)
  have hmovement : Rearranged .movement (.array ([] ++ hallBinding List.reverse :: []))
      (.array ([] ++ hallBinding (fun ms => ms) :: [])) := .item rfl hbinding
  exact .trans (.permuted (List.reverse_perm _))
    (rearranged_hallMembers hmovement (.permuted (List.reverse_perm _))
      (.permuted (List.reverse_perm _)))

/-- The hall node's profile is read although each of its objects lists its members backwards and one
has a comment.  If the hub is named a second time, at the beginning or at the end, the text is
malformed. -/
theorem ofText_eq_of_rearranged_hall :
    let commented : JsonText :=
      .object (.plain "comment" rfl (.ofBool true) ::
        (hallMembers (.array [hallBinding List.reverse]) (hallTiming List.reverse)
          (hallComfort List.reverse)).reverse)
    let forwards := hallText fun ms => ms
    let again : Entry := .plain "hub" rfl (.ofNode .hub)
    let members := hallMembers (.array [hallBinding fun ms => ms]) (hallTiming fun ms => ms)
      (hallComfort fun ms => ms)
    Rearranged .profile commented forwards ∧
      ofText commented.toString = ofText forwards.toString ∧
      ofText commented.toString = .ok t01 ∧
      Rearranged .profile (.object (again :: members)) (.object (members ++ [again])) ∧
      ofText (JsonText.object (again :: members)).toString =
        ofText (JsonText.object (members ++ [again])).toString ∧
      ofText (JsonText.object (again :: members)).toString = .error .malformed := by
  intro commented forwards again members
  have hrearranged : Rearranged .profile commented forwards :=
    .trans (.unknown (by decide)) rearranged_hallText
  have hread : ofJson? forwards.value = some t01 := by decide +kernel
  have hforwards : ofText forwards.toString = .ok t01 := by
    rw [ofText_toString, hread]
    rfl
  have hmoved : Rearranged .profile (.object (again :: members)) (.object (members ++ [again])) :=
    .permuted (List.perm_append_singleton _ _).symm
  have hrefused : ofJson? (JsonText.object (again :: members)).value = none := by decide +kernel
  have hmalformed : ofText (JsonText.object (again :: members)).toString = .error .malformed := by
    rw [ofText_toString, hrefused]
  have hsame := ofText_eq_of_rearranged hrearranged
  exact ⟨hrearranged, hsame, hsame.trans hforwards, hmoved, ofText_eq_of_rearranged hmoved,
    hmalformed⟩

end Profile

end HomeMesh
