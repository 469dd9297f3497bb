import HomeMesh.Profile.Json
import HomeMesh.Proofs.Enumerated
import HomeMesh.Proofs.Json.RoundTrip
import HomeMesh.Proofs.Profile.Validation
import HomeMesh.Proofs.Single.Spelling

/-!
# Profiles that are written and read again

The text of a profile is always well-formed JSON, and it is read as the same JSON value
(`parse?_toText`).  Every field of that value is read as it was, apart from the numbers of the
32-bit format: such a number becomes what its spelling is read as, and one that is not finite is
written as `null` and cannot be read at all.  So `ofJson?_toJson` gives the outcome for every profile
whatsoever: it is the profile with its three numbers read again, if they can be.

Two results follow.  `ofText_toText` is about profiles whose numbers are read back, which is to be
expected of all finite ones: nothing but validation decides about them.  `ofText_toText_iff` is about
profiles that were themselves read from a text.  Validation asks for a finite threshold of darkness,
but an infinite bound of comfort passes; it comes from a number that is too great for the format
(`reload_fails`).
-/

namespace HomeMesh

namespace Json

/-! ## Records -/

@[simp] theorem Text.decode?_ofString (s : String) :
    Text.decode? (Text.ofString s) = some s.toList := by
  rw [Text.ofString]
  induction s.toList with
  | nil => rfl
  | cons c cs ih => rw [List.map_cons, Text.decode?, ih]; rfl

theorem named?_map (fs : List (String × Json)) :
    named? (fs.map fun (name, v) => (Text.ofString name, v)) = some fs := by
  induction fs with
  | nil => rfl
  | cons f fs ih =>
    rw [named?] at ih
    simp [named?, ih]

/-! ## Values of fields -/

@[simp] theorem toBool?_bool (b : Bool) : toBool? (.bool b) = some b := rfl

theorem toNat?_ofNat {bits k : Nat} (h : k < 1 <<< bits) : toNat? bits (ofNat k) = some k := by
  rw [ofNat, toNat?, Numeral.toNat?_ofNat]
  exact Option.filter_some_pos (decide_eq_true h)

@[simp] theorem toDuration?_ofNat (d : Duration) : toDuration? (ofNat d.toNat) = some d := by
  rw [toDuration?, toNat?_ofNat d.toNat_lt, Option.map_some, UInt32.ofNat_toNat]

@[simp] theorem toChannelSet?_ofNat (s : ChannelSet) :
    toChannelSet? (ofNat s.bits.toNat) = some s := by
  rw [toChannelSet?, toNat?_ofNat s.bits.toNat_lt, Option.map_some, UInt16.ofNat_toNat]

@[simp] theorem toSingle?_ofSingle (x : Single) : toSingle? (ofSingle x) = x.reread? := by
  unfold ofSingle Single.reread?
  cases x.toNumeral? <;> rfl

@[simp] theorem toChoice?_ofChoice {α : Type} [Enumerated α] (a : α) :
    toChoice? (ofChoice a) = some a := by
  simp [toChoice?, ofChoice, ofLabelText?, String.ofList_toList]

theorem mapM_map_eq_some {α : Type} {read : Json → Option α} {write : α → Json}
    (h : ∀ a, read (write a) = some a) (xs : List α) : (xs.map write).mapM read = some xs := by
  induction xs with
  | nil => rfl
  | cons a xs ih => simp [h a, ih]

theorem toList?_ofList {α : Type} {capacity : Nat} {read : Json → Option α} {write : α → Json}
    (h : ∀ a, read (write a) = some a) (xs : Bounded α capacity) :
    toList? capacity read (ofList write xs.items) = some xs := by
  rw [ofList, toList?, mapM_map_eq_some h, Option.bind_some, Bounded.ofList?,
    dif_pos xs.length_le]

/-! ## Steps of a reader

A record is read field after field, so each lemma of this section takes one step of a reader and
leaves the rest of it, `next`, to do. -/

variable {α β γ : Type}

/-- A record that was written is read by the names of its fields. -/
theorem bind_fields? {names : List String} {fs : List (String × Json)} {next : Fields → Option β}
    (h : (fs.map Prod.fst).Nodup) :
    ((ofFields fs).fields? names >>= next) = next fun name => fs.lookup name := by
  have hknown : ((fs.map Prod.fst).filter names.contains).Nodup := h.filter _
  have hfields : (ofFields fs).fields? names = some fun name => fs.lookup name := by
    simp [ofFields, fields?, named?_map, hknown]
  rw [hfields]
  rfl

variable {fields : Fields} {name : String}

/-- A field with a value that can be read. -/
theorem bind_get {read : Json → Option α} {v : Json} {a : α} {next : α → Option β}
    (hfield : fields name = some v) (hread : read v = some a) :
    (fields.get name read >>= next) = next a := by
  rw [Fields.get, hfield, Option.bind_some, hread]
  rfl

/-- A number becomes what its spelling is read as. -/
theorem bind_getSingle {x : Single} {next : Single → Option β}
    (hfield : fields name = some (ofSingle x)) :
    (fields.get name toSingle? >>= next) = x.reread? >>= next := by
  rw [Fields.get, hfield, Option.bind_some, toSingle?_ofSingle]

/-- An optional field that was written: nothing is read where there was nothing, and the value is
read where there was one, since no value is written as `null`. -/
theorem bind_getOptional {write : α → Json} {read : Json → Option γ} {o : Option α}
    {next : Option γ → Option β} (hfield : fields name = some (ofOption write o))
    (hnull : ∀ a, write a ≠ .null) :
    (fields.getOptional name read >>= next) =
      (o.elim (some none) fun a => some <$> read (write a)) >>= next := by
  rw [Fields.getOptional, hfield]
  cases o with
  | none => rfl
  | some a =>
    simp only [ofOption, Option.elim_some]
    split
    next heq => cases heq
    next heq => exact absurd (Option.some.inj heq) (hnull a)
    next heq => rw [Option.some.inj heq]

end Json

open Json

/-! ## The parts of a profile -/

theorem MovementAction.ofJson?_toJson (a : MovementAction) : ofJson? a.toJson = some a := by
  rw [ofJson?, toJson]
  refine (bind_fields? (by simp)).trans ?_
  refine (bind_get rfl (toBool?_bool _)).trans ?_
  exact bind_get rfl (toBool?_bool _)

theorem MovementBinding.ofJson?_toJson (b : MovementBinding) : ofJson? b.toJson = some b := by
  rw [ofJson?, toJson]
  refine (bind_fields? (by simp)).trans ?_
  refine (bind_get rfl (toChoice?_ofChoice _)).trans ?_
  exact bind_get rfl b.action.ofJson?_toJson

theorem Timing.ofJson?_toJson (t : Timing) : ofJson? t.toJson = some t := by
  have hdoor : (t.doorPoll.elim (some none) fun d => some <$> toDuration? (ofNat d.toNat)) =
      some t.doorPoll := by
    cases t.doorPoll <;> simp
  rw [ofJson?, toJson]
  refine (bind_fields? (by simp)).trans ?_
  refine (bind_get rfl (toDuration?_ofNat _)).trans ?_
  refine (bind_get rfl (toDuration?_ofNat _)).trans ?_
  refine (bind_get rfl (toDuration?_ofNat _)).trans ?_
  refine (bind_get rfl (toDuration?_ofNat _)).trans ?_
  refine (bind_get rfl (toDuration?_ofNat _)).trans ?_
  refine (bind_getOptional rfl fun _ => Json.noConfusion).trans ?_
  rw [hdoor]
  rfl

/-- A band of comfort whose bounds are spelled and read again. -/
def ComfortBand.reread? (band : ComfortBand) : Option ComfortBand := do
  let low ← band.low.reread?
  let high ← band.high.reread?
  pure ⟨low, high⟩

theorem ComfortBand.toJson_ne_null (band : ComfortBand) : band.toJson ≠ .null := Json.noConfusion

theorem ComfortBand.ofJson?_toJson (band : ComfortBand) : ofJson? band.toJson = band.reread? := by
  rw [ofJson?, toJson, reread?]
  refine (bind_fields? (by simp)).trans ?_
  refine (bind_getSingle rfl).trans (bind_congr fun low => ?_)
  exact bind_getSingle rfl

namespace Profile

/-! ## The profile -/

/-- The profile with its numbers spelled and read again, if they can be. -/
def reread? (p : Profile) : Option Profile := do
  let darknessThreshold ← p.darknessThreshold.reread?
  let comfort ← p.comfort.elim (some none) fun band => some <$> band.reread?
  pure { p with darknessThreshold, comfort }

/-- A profile that was written is read as it was, apart from its numbers. -/
theorem ofJson?_toJson (p : Profile) : ofJson? p.toJson = p.reread? := by
  have htargets : toList? maxDestinations toChoice? (ofList ofChoice p.intrusionTargets.items) =
      some p.intrusionTargets := toList?_ofList toChoice?_ofChoice _
  have hmovement : toList? maxMovementInputs MovementBinding.ofJson?
      (ofList MovementBinding.toJson p.movement.items) = some p.movement :=
    toList?_ofList MovementBinding.ofJson?_toJson _
  rw [ofJson?, toJson]
  refine (bind_fields? (by simp)).trans ?_
  refine (bind_get rfl (toChoice?_ofChoice _)).trans ?_
  refine (bind_get rfl (toChoice?_ofChoice _)).trans ?_
  refine (bind_get rfl (toChoice?_ofChoice _)).trans ?_
  refine (bind_get rfl htargets).trans ?_
  refine (bind_get rfl (toBool?_bool _)).trans ?_
  refine (bind_get rfl (toChannelSet?_ofNat _)).trans ?_
  refine (bind_get rfl (toChoice?_ofChoice _)).trans ?_
  refine (bind_get rfl (toChoice?_ofChoice _)).trans ?_
  refine (bind_get rfl hmovement).trans ?_
  refine (bind_get rfl p.timing.ofJson?_toJson).trans ?_
  refine (bind_getSingle rfl).trans (bind_congr fun darknessThreshold => ?_)
  refine (bind_getOptional rfl ComfortBand.toJson_ne_null).trans ?_
  simp only [ComfortBand.ofJson?_toJson]

/-- The numbers of the 32-bit format in a profile. -/
def numbers (p : Profile) : List Single :=
  p.darknessThreshold :: p.comfort.elim [] fun band => [band.low, band.high]

variable {p : Profile}

theorem reread?_eq_some (h : ∀ x ∈ p.numbers, x.ReadsBack) : p.reread? = some p := by
  obtain ⟨hdark, hband⟩ := List.forall_mem_cons.mp h
  have hthreshold : p.darknessThreshold.reread? = some p.darknessThreshold := hdark
  have hcomfort : (p.comfort.elim (some none) fun band => some <$> band.reread?) =
      some p.comfort := by
    cases hp : p.comfort with
    | none => rfl
    | some band =>
      rw [hp] at hband
      have hlow : band.low.reread? = some band.low := hband _ (by simp)
      have hhigh : band.high.reread? = some band.high := hband _ (by simp)
      simp [ComfortBand.reread?, hlow, hhigh]
  rw [reread?, hthreshold, hcomfort]
  rfl

/-- A bound of comfort that is not finite cannot be read again. -/
theorem reread?_eq_none {band : ComfortBand} (hcomfort : p.comfort = some band)
    (h : ¬ (band.low.isFinite = true ∧ band.high.isFinite = true)) : p.reread? = none := by
  have hband : band.reread? = none := by
    cases hlow : band.low.isFinite with
    | false => simp [ComfortBand.reread?, Single.reread?_eq_none hlow]
    | true =>
      have hhigh : band.high.isFinite = false := Bool.eq_false_iff.mpr fun hhigh => h ⟨hlow, hhigh⟩
      simp [ComfortBand.reread?, Single.reread?_eq_none hhigh]
  simp [reread?, hcomfort, hband]

end Profile

/-! ## The text of a profile -/

/-- Whether the string holds no control character. -/
def isPlain (s : String) : Bool := s.toList.all fun c => 0x20 ≤ c.toNat

namespace Json

theorem isPrintable_ofString {s : String} (h : isPlain s = true) :
    (Text.ofString s).IsPrintable := by
  intro u hu
  obtain ⟨c, hc, rfl⟩ := List.mem_map.mp hu
  have hplain : 0x20 ≤ c.toNat := of_decide_eq_true (List.all_eq_true.mp h c hc)
  exact hplain

theorem isPrintable_ofFields {fs : List (String × Json)}
    (hnames : ∀ name ∈ fs.map Prod.fst, isPlain name = true)
    (hvalues : ∀ v ∈ fs.map Prod.snd, v.IsPrintable) : (ofFields fs).IsPrintable := by
  refine .object (fun m hm => ?_) (fun m hm => ?_)
  · obtain ⟨f, hf, rfl⟩ := List.mem_map.mp hm
    exact isPrintable_ofString (hnames f.1 (List.mem_map_of_mem hf))
  · obtain ⟨f, hf, rfl⟩ := List.mem_map.mp hm
    exact hvalues f.2 (List.mem_map_of_mem hf)

theorem isPrintable_ofChoice {α : Type} [Enumerated α]
    (h : ∀ a : α, isPlain (Enumerated.label a) = true) (a : α) : (ofChoice a).IsPrintable :=
  .string (isPrintable_ofString (h a))

theorem isPrintable_ofNat (k : Nat) : (ofNat k).IsPrintable :=
  .number (Numeral.isWellFormed_ofNat k)

theorem isPrintable_ofSingle (x : Single) : (ofSingle x).IsPrintable := by
  unfold ofSingle
  cases hx : x.toNumeral? with
  | none => exact .null
  | some n => exact .number (Single.isWellFormed_of_toNumeral? hx)

theorem isPrintable_ofOption {α : Type} {write : α → Json} (h : ∀ a, (write a).IsPrintable)
    (o : Option α) : (ofOption write o).IsPrintable := by
  cases o with
  | none => exact .null
  | some a => exact h a

theorem isPrintable_ofList {α : Type} {write : α → Json} (h : ∀ a, (write a).IsPrintable)
    (xs : List α) : (ofList write xs).IsPrintable := by
  refine .array fun v hv => ?_
  obtain ⟨a, -, rfl⟩ := List.mem_map.mp hv
  exact h a

end Json

theorem NodeId.isPlain_label (a : NodeId) : isPlain (Enumerated.label a) = true := by
  cases a <;> decide

theorem Channel.isPlain_label (c : Channel) : isPlain (Enumerated.label c) = true := by
  cases c <;> decide

theorem MovementInput.isPlain_label (a : MovementInput) : isPlain (Enumerated.label a) = true := by
  cases a <;> decide

theorem MovementAction.isPrintable_toJson (a : MovementAction) : a.toJson.IsPrintable := by
  refine isPrintable_ofFields
    (show ∀ name ∈ ["notify_light_peer", "wake_display"], isPlain name = true by decide) ?_
  simp only [List.map_cons, List.map_nil, List.forall_mem_cons]
  exact ⟨.bool _, .bool _, List.forall_mem_nil _⟩

theorem MovementBinding.isPrintable_toJson (b : MovementBinding) : b.toJson.IsPrintable := by
  refine isPrintable_ofFields (show ∀ name ∈ ["channel", "action"], isPlain name = true by decide) ?_
  simp only [List.map_cons, List.map_nil, List.forall_mem_cons]
  exact ⟨isPrintable_ofChoice MovementInput.isPlain_label _, b.action.isPrintable_toJson,
    List.forall_mem_nil _⟩

theorem Timing.isPrintable_toJson (t : Timing) : t.toJson.IsPrintable := by
  refine isPrintable_ofFields (show ∀ name ∈ fieldNames, isPlain name = true by decide) ?_
  simp only [List.map_cons, List.map_nil, List.forall_mem_cons]
  exact ⟨isPrintable_ofNat _, isPrintable_ofNat _, isPrintable_ofNat _, isPrintable_ofNat _,
    isPrintable_ofNat _, isPrintable_ofOption (fun d : Duration => isPrintable_ofNat d.toNat) _,
    List.forall_mem_nil _⟩

theorem ComfortBand.isPrintable_toJson (band : ComfortBand) : band.toJson.IsPrintable := by
  refine isPrintable_ofFields (show ∀ name ∈ ["low_c", "high_c"], isPlain name = true by decide) ?_
  simp only [List.map_cons, List.map_nil, List.forall_mem_cons]
  exact ⟨isPrintable_ofSingle _, isPrintable_ofSingle _, List.forall_mem_nil _⟩

namespace Profile

theorem isPrintable_toJson (p : Profile) : p.toJson.IsPrintable := by
  refine isPrintable_ofFields (show ∀ name ∈ fieldNames, isPlain name = true by decide) ?_
  simp only [List.map_cons, List.map_nil, List.forall_mem_cons]
  exact ⟨isPrintable_ofChoice NodeId.isPlain_label _, isPrintable_ofChoice NodeId.isPlain_label _,
    isPrintable_ofChoice NodeId.isPlain_label _,
    isPrintable_ofList (isPrintable_ofChoice NodeId.isPlain_label) _, .bool _, isPrintable_ofNat _,
    isPrintable_ofChoice Channel.isPlain_label _, isPrintable_ofChoice Channel.isPlain_label _,
    isPrintable_ofList MovementBinding.isPrintable_toJson _, p.timing.isPrintable_toJson,
    isPrintable_ofSingle _, isPrintable_ofOption ComfortBand.isPrintable_toJson _,
    List.forall_mem_nil _⟩

/-- The text of a profile is read as the JSON value that it was written from. -/
theorem parse?_toText (p : Profile) : Json.parse? p.toText.toList = some p.toJson := by
  rw [toText, String.toList_ofList, parse?_print p.isPrintable_toJson]

/-! ## The main results -/

variable {p : Profile}

/-- A profile whose numbers can be read again is judged by its validation alone. -/
theorem ofText_toText_of_eq_some {q : Profile} (h : p.reread? = some q) :
    ofText p.toText = q.validate.map fun _ => q := by
  rw [ofText, parse?_toText, Option.bind_some, ofJson?_toJson, h]
  cases hq : q.validate <;> simp [hq, Except.map]

theorem ofText_toText_of_eq_none (h : p.reread? = none) :
    ofText p.toText = .error .malformed := by
  rw [ofText, parse?_toText, Option.bind_some, ofJson?_toJson, h]

/-- **A profile that was written is judged by its validation.**  If the numbers of the profile are
read back, and so are finite in particular, its text is read as the profile if it is accepted, and
refused for the fault that validation finds otherwise; never is the text found malformed. -/
theorem ofText_toText (h : ∀ x ∈ p.numbers, x.ReadsBack) :
    (p.validate = .ok () → ofText p.toText = .ok p) ∧
      ∀ fault, p.validate = .error fault →
        ofText p.toText = .error fault ∧ fault.message ≠ "profile JSON is malformed" := by
  have hread : ofText p.toText = p.validate.map fun _ => p :=
    ofText_toText_of_eq_some (reread?_eq_some h)
  refine ⟨fun hvalid => by rw [hread, hvalid]; rfl, fun fault hfault => ⟨?_, ?_⟩⟩
  · rw [hread, hfault]
    rfl
  · refine ProfileFault.message_ne_of_ne_malformed fun hmalformed => ?_
    exact p.validate_ne_malformed (hmalformed ▸ hfault)

theorem readsBack_hall : ∀ x ∈ t01.numbers, x.ReadsBack := by decide +kernel

/-- The profile of the hall node is read back.  Without intrusion targets, and with bits of channels
that no output has, its text is refused for the lack of targets. -/
theorem ofText_toText_hall :
    let lonely : Profile := { t01 with intrusionTargets := .truncate [], channels := ⟨0xFFFF⟩ }
    (∀ x ∈ t01.numbers, x.ReadsBack) ∧ t01.validate = .ok () ∧ ofText t01.toText = .ok t01 ∧
      lonely.validate = .error .noIntrusionTargets ∧
      ofText lonely.toText = .error .noIntrusionTargets := by
  intro lonely
  have hvalid : t01.validate = .ok () := by rfl
  have hfault : lonely.validate = .error .noIntrusionTargets := by rfl
  exact ⟨readsBack_hall, hvalid, (ofText_toText readsBack_hall).1 hvalid, hfault,
    ((ofText_toText (p := lonely) readsBack_hall).2 _ hfault).1⟩

/-- A text that was read describes a profile that validation accepts. -/
theorem validate_of_ofText {text : String} (h : ofText text = .ok p) : p.validate = .ok () := by
  rw [ofText] at h
  split at h
  · cases h
  · split at h
    next hvalid => rwa [← Except.ok.inj h]
    next => cases h

/-- The numbers of an accepted profile are finite, if the bounds of comfort are. -/
theorem isFinite_numbers (h : p.validate = .ok ())
    (hband : ∀ band, p.comfort = some band →
      band.low.isFinite = true ∧ band.high.isFinite = true) :
    ∀ x ∈ p.numbers, x.isFinite = true := by
  refine List.forall_mem_cons.mpr ⟨isFinite_darknessThreshold h, ?_⟩
  cases hcomfort : p.comfort with
  | none => exact List.forall_mem_nil _
  | some band =>
    obtain ⟨hlow, hhigh⟩ := hband band hcomfort
    simp [hlow, hhigh]

/-- **Which profiles stay loadable.**  Let a profile have been read from some text, and let the
finite ones among its numbers be read back.  Then it comes back from its own text exactly if the
bounds of its comfort are finite.  If they are not, its own text is malformed. -/
theorem ofText_toText_iff {text : String} (h : ofText text = .ok p)
    (hreads : ∀ x ∈ p.numbers, x.isFinite = true → x.ReadsBack) :
    (ofText p.toText = .ok p ↔
        ∀ band, p.comfort = some band →
          band.low.isFinite = true ∧ band.high.isFinite = true) ∧
      (ofText p.toText = .ok p ∨ ofText p.toText = .error .malformed) := by
  have hvalid : p.validate = .ok () := validate_of_ofText h
  by_cases hband : ∀ band, p.comfort = some band →
      band.low.isFinite = true ∧ band.high.isFinite = true
  · have hback : ofText p.toText = .ok p := by
      have hnumbers : ∀ x ∈ p.numbers, x.ReadsBack :=
        fun x hx => hreads x hx (isFinite_numbers hvalid hband x hx)
      rw [ofText_toText_of_eq_some (reread?_eq_some hnumbers), hvalid]
      rfl
    exact ⟨iff_of_true hback hband, .inl hback⟩
  · have hlost : ofText p.toText = .error .malformed := by
      obtain ⟨band, hcomfort, hinfinite⟩ : ∃ band, p.comfort = some band ∧
          ¬ (band.low.isFinite = true ∧ band.high.isFinite = true) := by
        simpa only [Classical.not_forall, exists_prop] using hband
      exact ofText_toText_of_eq_none (reread?_eq_none hcomfort hinfinite)
    refine ⟨iff_of_false (fun hback => ?_) hband, .inr hlost⟩
    rw [hlost] at hback
    cases hback

/-- The profile of the hall node, read from its text, is one that stays loadable. -/
theorem ofText_toText_iff_hall :
    ofText t01.toText = .ok t01 ∧ (∀ x ∈ t01.numbers, x.isFinite = true → x.ReadsBack) ∧
      ∀ band, t01.comfort = some band →
        band.low.isFinite = true ∧ band.high.isFinite = true := by
  have htext : ofText t01.toText = .ok t01 :=
    ofText_toText_of_eq_some (reread?_eq_some readsBack_hall)
  have hfinite : ∀ x ∈ t01.numbers, x.isFinite = true → x.ReadsBack :=
    fun x hx _ => readsBack_hall x hx
  exact ⟨htext, hfinite, (ofText_toText_iff htext hfinite).1.mp htext⟩

/-- The hall node without an upper bound of comfort. -/
def neverTooWarm : Profile := { t01 with comfort := some ⟨.ofQuotient false 15 1, ⟨0x7F800000⟩⟩ }

/-- A text of that profile, given as the array of its fields.  Its last number is too great for the
format. -/
def neverTooWarmText : String :=
  "[\"T01\",\"B01\",\"B02\",[\"B01\",\"B02\"],false,450,\"FrontLight\",\"WarningLed\"," ++
    "[[\"Front\",[true,true]]],[120000,20000,30000,1000,30000,500],10.0,[15.0,1e39]]"

/-- An accepted text may describe a profile whose own text is malformed: an upper bound of comfort
that is too great for the format is read as infinite, and passes validation, but it is written as
`null`. -/
theorem reload_fails :
    ofText neverTooWarmText = .ok neverTooWarm ∧
      (∀ x ∈ neverTooWarm.numbers, x.isFinite = true → x.ReadsBack) ∧
      ofText neverTooWarm.toText = .error .malformed := by
  have hread : (ofText neverTooWarmText).toOption = some neverTooWarm := by decide +kernel
  refine ⟨?_, by decide +kernel, ?_⟩
  · cases htext : ofText neverTooWarmText with
    | ok p =>
      rw [htext] at hread
      rw [Option.some.inj hread]
    | error fault =>
      rw [htext] at hread
      cases hread
  · have hinfinite : ¬ ((Single.ofQuotient false 15 1).isFinite = true ∧
        (Single.mk 0x7F800000).isFinite = true) := by decide +kernel
    exact ofText_toText_of_eq_none (reread?_eq_none (p := neverTooWarm) rfl hinfinite)

end Profile

end HomeMesh
