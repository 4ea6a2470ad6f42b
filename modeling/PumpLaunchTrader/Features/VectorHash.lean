import PumpLaunchTrader.Model.Features
import PumpLaunchTrader.Features.DecimalText

/-! # The input of the vector hash

The input of the hash is a concatenation without separators. It determines the feature values
exactly if at most one feature of the registry is a text. -/

namespace PumpLaunchTrader

inductive DatumKind where
  | numeric | text | boolean
  deriving DecidableEq, Repr

def FeatureDatum.kind : FeatureDatum → DatumKind
  | .numeric _ => .numeric
  | .text _ => .text
  | .boolean _ => .boolean

/-- A datum that can be built: a number is a decimal. -/
def FeatureDatum.IsDecimal : FeatureDatum → Prop
  | .numeric value => value.Representable
  | _ => True

/-- A value is filed under its id. -/
def IsFiled (entry : String × FeatureValue) : Prop := entry.2.featureId = entry.1

/-- An entry as the code builds it, with a datum of the kind of its feature. -/
def IsBuilt (kind : String → DatumKind) (entry : String × FeatureValue) : Prop :=
  (∃ datum, entry.2 = .available entry.1 datum ∧ datum.kind = kind entry.1 ∧ datum.IsDecimal) ∨
    entry.2 = .missing entry.1 ∨ entry.2 = .unavailable entry.1

/-- Two maps with the ids of a registry and entries of a kind have different inputs unless
they are the same. -/
def HashIdentifies (ids : List String) (entryOk : String × FeatureValue → Prop) : Prop :=
  ∀ values values' : List (String × FeatureValue), values.map Prod.fst = ids →
    values'.map Prod.fst = ids → (∀ entry ∈ values, entryOk entry) →
    (∀ entry ∈ values', entryOk entry) → values ≠ values' →
    snapshotHashInput values ≠ snapshotHashInput values'

/-! ## The input as characters -/

/-- The characters of a datum; a boolean is the character of its byte. -/
def FeatureDatum.chars : FeatureDatum → List Char
  | .numeric value => value.display.toList
  | .text value => value.toList
  | .boolean value => [if value then Char.ofNat 1 else Char.ofNat 0]

def FeatureValue.valueChars (feature : FeatureValue) : List Char :=
  feature.value.elim [] FeatureDatum.chars

/-- The characters of an entry of a value map. -/
def entryChars (entry : String × FeatureValue) : List Char :=
  entry.1.toList ++ (entry.2.status.debugName.toList ++ entry.2.valueChars)

theorem FeatureDatum.hashBytes_eq (datum : FeatureDatum) :
    datum.hashBytes = (String.ofList datum.chars).toUTF8 := by
  cases datum with
  | numeric value => simp [hashBytes, chars, String.ofList_toList]
  | text value => simp [hashBytes, chars, String.ofList_toList]
  | boolean value => cases value <;> decide +kernel

theorem toUTF8_append (text text' : String) :
    text.toUTF8 ++ text'.toUTF8 = (text ++ text').toUTF8 :=
  String.toByteArray_append.symm

theorem hashFeature_eq (chars : List Char) (entry : String × FeatureValue) :
    hashFeature (String.ofList chars).toUTF8 entry =
      (String.ofList (chars ++ entryChars entry)).toUTF8 := by
  unfold hashFeature entryChars FeatureValue.valueChars
  rw [String.ofList_append, String.ofList_append, String.ofList_append, String.ofList_toList,
    String.ofList_toList]
  cases entry.2.value with
  | none =>
      simp only [Option.elim_none, String.ofList_nil, String.append_empty]
      rw [toUTF8_append, toUTF8_append, String.append_assoc]
  | some datum =>
      simp only [Option.elim_some]
      rw [FeatureDatum.hashBytes_eq, toUTF8_append, toUTF8_append, toUTF8_append,
        String.append_assoc, String.append_assoc]

theorem foldl_hashFeature (values : List (String × FeatureValue)) (chars : List Char) :
    values.foldl hashFeature (String.ofList chars).toUTF8 =
      (String.ofList (chars ++ values.flatMap entryChars)).toUTF8 := by
  induction values generalizing chars with
  | nil => simp
  | cons entry values ih =>
      rw [List.foldl_cons, hashFeature_eq, ih, List.flatMap_cons, List.append_assoc]

theorem snapshotHashInput_eq (values : List (String × FeatureValue)) :
    snapshotHashInput values = (String.ofList (values.flatMap entryChars)).toUTF8 :=
  foldl_hashFeature values []

theorem snapshotHashInput_inj {values values' : List (String × FeatureValue)} :
    snapshotHashInput values = snapshotHashInput values' ↔
      values.flatMap entryChars = values'.flatMap entryChars := by
  rw [snapshotHashInput_eq, snapshotHashInput_eq]
  constructor
  · intro h
    exact String.ofList_inj.mp (String.toByteArray_inj.mp h)
  · intro h
    rw [h]

/-! ## Reading one entry -/

/-- A character of a number or a boolean. -/
def IsValueChar (c : Char) : Prop :=
  Decimal.IsTextChar c ∨ c = Char.ofNat 0 ∨ c = Char.ofNat 1

instance : DecidablePred IsValueChar := fun c =>
  inferInstanceAs (Decidable (Decimal.IsTextChar c ∨ c = Char.ofNat 0 ∨ c = Char.ofNat 1))

/-- An id that does not read as the end of the value before it. -/
def IsPlainId (featureId : String) : Prop :=
  featureId.toList ≠ [] ∧ Delimited.StartsOutside IsValueChar featureId.toList

instance : DecidablePred IsPlainId := fun featureId => inferInstanceAs
  (Decidable (featureId.toList ≠ [] ∧ Delimited.StartsOutside IsValueChar featureId.toList))

/-- No name of a status is the beginning of another. -/
theorem debugName_append_inj {status status' : FeatureStatus} {rest rest' : List Char}
    (h : status.debugName.toList ++ rest = status'.debugName.toList ++ rest') :
    status = status' ∧ rest = rest' := by
  cases status <;> cases status' <;> simp [FeatureStatus.debugName] at h ⊢ <;> exact h

/-- No name of a status is the end of another. -/
theorem append_debugName_inj {status status' : FeatureStatus} {rest rest' : List Char}
    (h : rest ++ status.debugName.toList = rest' ++ status'.debugName.toList) :
    rest = rest' ∧ status = status' := by
  have hreverse : status.debugName.toList.reverse ++ rest.reverse =
      status'.debugName.toList.reverse ++ rest'.reverse := by
    rw [← List.reverse_append, h, List.reverse_append]
  cases status <;> cases status' <;> simp [FeatureStatus.debugName] at hreverse ⊢ <;>
    exact hreverse

theorem FeatureDatum.chars_injective {datum datum' : FeatureDatum}
    (hkind : datum.kind = datum'.kind) (hdatum : datum.IsDecimal) (hdatum' : datum'.IsDecimal)
    (h : datum.chars = datum'.chars) : datum = datum' := by
  cases datum with
  | numeric value =>
      cases datum' with
      | numeric value' =>
          rw [Decimal.display_injective hdatum hdatum' (String.ext_iff.mpr h)]
      | text value' => cases hkind
      | boolean value' => cases hkind
  | text value =>
      cases datum' with
      | numeric value' => cases hkind
      | text value' => rw [String.ext_iff.mpr h]
      | boolean value' => cases hkind
  | boolean value =>
      cases datum' with
      | numeric value' => cases hkind
      | text value' => cases hkind
      | boolean value' =>
          revert h
          cases value <;> cases value' <;> decide

theorem FeatureDatum.isValueChar_of_mem {datum : FeatureDatum} {c : Char}
    (hkind : datum.kind ≠ .text) (h : c ∈ datum.chars) : IsValueChar c := by
  cases datum with
  | numeric value => exact Or.inl (Decimal.isTextChar_of_mem_display h)
  | text value => exact absurd rfl hkind
  | boolean value =>
      have hc := List.mem_singleton.mp h
      cases value with
      | false => exact Or.inr (Or.inl hc)
      | true => exact Or.inr (Or.inr hc)

theorem debugName_endsOutside (status : FeatureStatus) :
    Delimited.EndsOutside IsValueChar status.debugName.toList ∧
      status.debugName.toList ≠ [] := by
  constructor
  · intro c hc
    have hlast : c = 'e' ∨ c = 'g' := by
      cases status <;> simp [FeatureStatus.debugName] at hc <;> subst hc <;> decide
    rcases hlast with rfl | rfl <;> decide
  · cases status <;> decide

/-! ## Reading a map -/

section Maps

variable {kind : String → DatumKind}

theorem IsBuilt.value_cases {entry : String × FeatureValue} (h : IsBuilt kind entry) :
    (entry.2.status = .available ∧ ∃ datum, entry.2.value = some datum ∧
        datum.kind = kind entry.1 ∧ datum.IsDecimal) ∨
      (entry.2.status ≠ .available ∧ entry.2.value = none) := by
  rcases h with ⟨datum, hvalue, hkind, hdecimal⟩ | hvalue | hvalue <;> rw [hvalue]
  · exact Or.inl ⟨rfl, datum, rfl, hkind, hdecimal⟩
  · exact Or.inr ⟨FeatureStatus.noConfusion, rfl⟩
  · exact Or.inr ⟨FeatureStatus.noConfusion, rfl⟩

theorem IsBuilt.isFiled {entry : String × FeatureValue} (h : IsBuilt kind entry) :
    IsFiled entry := by
  unfold IsFiled
  rcases h with ⟨datum, hvalue, -⟩ | hvalue | hvalue <;> rw [hvalue] <;> rfl

theorem IsBuilt.isValueChar {entry : String × FeatureValue} (h : IsBuilt kind entry)
    (hkind : kind entry.1 ≠ .text) : ∀ c ∈ entry.2.valueChars, IsValueChar c := by
  intro c hc
  unfold FeatureValue.valueChars at hc
  rcases h.value_cases with ⟨-, datum, hvalue, hsame, -⟩ | ⟨-, hvalue⟩
  · rw [hvalue] at hc
    exact FeatureDatum.isValueChar_of_mem (hsame ▸ hkind) hc
  · rw [hvalue] at hc
    exact absurd hc List.not_mem_nil

theorem IsBuilt.value_eq {entry entry' : String × FeatureValue} (h : IsBuilt kind entry)
    (h' : IsBuilt kind entry') (hid : entry.1 = entry'.1)
    (hstatus : entry.2.status = entry'.2.status)
    (hchars : entry.2.valueChars = entry'.2.valueChars) : entry.2.value = entry'.2.value := by
  rcases h.value_cases with ⟨havailable, datum, hvalue, hkind, hdecimal⟩ | ⟨hnot, hvalue⟩
  · rcases h'.value_cases with ⟨-, datum', hvalue', hkind', hdecimal'⟩ | ⟨hnot', -⟩
    · unfold FeatureValue.valueChars at hchars
      rw [hvalue, hvalue'] at hchars ⊢
      rw [FeatureDatum.chars_injective (hkind.trans (hid ▸ hkind'.symm)) hdecimal hdecimal'
        hchars]
    · exact absurd (hstatus ▸ havailable) hnot'
  · rcases h'.value_cases with ⟨havailable', -⟩ | ⟨-, hvalue'⟩
    · exact absurd (hstatus.trans havailable') hnot
    · rw [hvalue, hvalue']

theorem IsBuilt.entry_eq {entry entry' : String × FeatureValue} (h : IsBuilt kind entry)
    (h' : IsBuilt kind entry') (hid : entry.1 = entry'.1)
    (hstatus : entry.2.status = entry'.2.status)
    (hchars : entry.2.valueChars = entry'.2.valueChars) : entry = entry' := by
  have hfiled : entry.2.featureId = entry'.2.featureId :=
    h.isFiled.trans (hid.trans h'.isFiled.symm)
  have hfeature : entry.2 = entry'.2 :=
    FeatureValue.ext hfiled hstatus (h.value_eq h' hid hstatus hchars)
  exact Prod.ext hid hfeature

/-- Up to its value an entry is read from the left, whatever the value is. -/
theorem entryChars_append_cases {entry entry' : String × FeatureValue} {rest rest' : List Char}
    (hid : entry.1 = entry'.1) (h : entryChars entry ++ rest = entryChars entry' ++ rest') :
    entry.2.status = entry'.2.status ∧
      entry.2.valueChars ++ rest = entry'.2.valueChars ++ rest' := by
  unfold entryChars at h
  rw [hid] at h
  simp only [List.append_assoc, List.append_cancel_left_eq] at h
  exact debugName_append_inj h

/-- Entries of a feature that is no text are read from the left. -/
theorem entryChars_append_inj {entry entry' : String × FeatureValue} {rest rest' : List Char}
    (hbuilt : IsBuilt kind entry) (hbuilt' : IsBuilt kind entry')
    (hid : entry.1 = entry'.1) (hkind : kind entry.1 ≠ .text)
    (hrest : Delimited.StartsOutside IsValueChar rest)
    (hrest' : Delimited.StartsOutside IsValueChar rest')
    (h : entryChars entry ++ rest = entryChars entry' ++ rest') :
    entry = entry' ∧ rest = rest' := by
  obtain ⟨hstatus, h⟩ := entryChars_append_cases hid h
  obtain ⟨hchars, h⟩ := Delimited.append_inj_left (hbuilt.isValueChar hkind)
    (hbuilt'.isValueChar (hid ▸ hkind)) hrest hrest' h
  exact ⟨hbuilt.entry_eq hbuilt' hid hstatus hchars, h⟩

/-- Entries of a feature that is no text are read from the right. -/
theorem append_entryChars_inj {entry entry' : String × FeatureValue} {rest rest' : List Char}
    (hbuilt : IsBuilt kind entry) (hbuilt' : IsBuilt kind entry')
    (hid : entry.1 = entry'.1) (hkind : kind entry.1 ≠ .text)
    (h : rest ++ entryChars entry = rest' ++ entryChars entry') :
    rest = rest' ∧ entry = entry' := by
  unfold entryChars at h
  rw [← List.append_assoc, ← List.append_assoc, ← List.append_assoc, ← List.append_assoc] at h
  have hends : ∀ (before : List Char) (status : FeatureStatus),
      Delimited.EndsOutside IsValueChar (before ++ status.debugName.toList) :=
    fun before status => (debugName_endsOutside status).1.append (debugName_endsOutside status).2
  obtain ⟨h, hchars⟩ := Delimited.append_inj_right (hbuilt.isValueChar hkind)
    (hbuilt'.isValueChar (hid ▸ hkind)) (hends _ _) (hends _ _) h
  obtain ⟨h, hstatus⟩ := append_debugName_inj h
  rw [hid, List.append_cancel_right_eq] at h
  exact ⟨h, hbuilt.entry_eq hbuilt' hid hstatus hchars⟩

theorem entries_startsOutside {values : List (String × FeatureValue)}
    (hplain : ∀ entry ∈ values, IsPlainId entry.1) :
    Delimited.StartsOutside IsValueChar (values.flatMap entryChars) := by
  cases values with
  | nil => intro c hc; cases hc
  | cons entry values =>
      obtain ⟨hne, hstarts⟩ := hplain entry List.mem_cons_self
      rw [List.flatMap_cons, entryChars, List.append_assoc]
      exact hstarts.append hne

/-- Without texts a map is read from the right, behind anything. -/
theorem append_entries_inj {values values' : List (String × FeatureValue)}
    {rest rest' : List Char} (hids : values.map Prod.fst = values'.map Prod.fst)
    (hbuilt : ∀ entry ∈ values, IsBuilt kind entry)
    (hbuilt' : ∀ entry ∈ values', IsBuilt kind entry)
    (hkind : ∀ entry ∈ values, kind entry.1 ≠ .text)
    (h : rest ++ values.flatMap entryChars = rest' ++ values'.flatMap entryChars) :
    rest = rest' ∧ values = values' := by
  induction values using List.reverseRecOn generalizing values' with
  | nil =>
      obtain rfl : values' = [] := List.map_eq_nil_iff.mp hids.symm
      exact ⟨by simpa using h, rfl⟩
  | append_singleton values entry ih =>
      rw [List.map_append, List.map_singleton] at hids
      obtain ⟨init', last', rfl, hinit, hlast⟩ := List.map_eq_append_iff.mp hids.symm
      obtain ⟨entry', rfl, hentry⟩ := List.map_eq_singleton_iff.mp hlast
      rw [List.flatMap_append, List.flatMap_append, List.flatMap_singleton,
        List.flatMap_singleton, ← List.append_assoc, ← List.append_assoc] at h
      obtain ⟨hbefore, rfl⟩ := append_entryChars_inj
        (hbuilt entry (by simp)) (hbuilt' entry' (by simp)) hentry.symm
        (hkind entry (by simp)) h
      obtain ⟨hrest, rfl⟩ := ih hinit.symm (fun e he => hbuilt e (by simp [he]))
        (fun e he => hbuilt' e (by simp [he])) (fun e he => hkind e (by simp [he])) hbefore
      exact ⟨hrest, rfl⟩

/-- With at most one text a map is read from the left up to the text, and the rest of it from
the right. -/
theorem entries_inj {values values' : List (String × FeatureValue)}
    (hids : values.map Prod.fst = values'.map Prod.fst)
    (hbuilt : ∀ entry ∈ values, IsBuilt kind entry)
    (hbuilt' : ∀ entry ∈ values', IsBuilt kind entry)
    (hplain : ∀ entry ∈ values, IsPlainId entry.1)
    (htexts : values.countP (fun entry => kind entry.1 = .text) ≤ 1)
    (h : values.flatMap entryChars = values'.flatMap entryChars) : values = values' := by
  induction values generalizing values' with
  | nil => exact (List.map_eq_nil_iff.mp hids.symm).symm
  | cons entry values ih =>
      cases values' with
      | nil => cases hids
      | cons entry' values' =>
          rw [List.map_cons, List.map_cons, List.cons.injEq] at hids
          obtain ⟨hid, hids⟩ := hids
          have hentry := hbuilt entry List.mem_cons_self
          have hentry' := hbuilt' entry' List.mem_cons_self
          have htail : ∀ e ∈ values, IsBuilt kind e :=
            fun e he => hbuilt e (List.mem_cons_of_mem _ he)
          have htail' : ∀ e ∈ values', IsBuilt kind e :=
            fun e he => hbuilt' e (List.mem_cons_of_mem _ he)
          have hplainTail : ∀ e ∈ values, IsPlainId e.1 :=
            fun e he => hplain e (List.mem_cons_of_mem _ he)
          rw [List.flatMap_cons, List.flatMap_cons] at h
          by_cases hkind : kind entry.1 = .text
          · rw [List.countP_cons_of_pos (by simpa using hkind)] at htexts
            have hnone : ∀ e ∈ values, kind e.1 ≠ .text := by
              have hzero := List.countP_eq_zero.mp (Nat.le_zero.mp (Nat.le_of_succ_le_succ htexts))
              intro e he
              simpa using hzero e he
            obtain ⟨hstatus, h⟩ := entryChars_append_cases hid h
            obtain ⟨hchars, rfl⟩ := append_entries_inj hids htail htail' hnone h
            rw [hentry.entry_eq hentry' hid hstatus hchars]
          · rw [List.countP_cons_of_neg (by simpa using hkind)] at htexts
            have hplain' : ∀ e ∈ values', IsPlainId e.1 := by
              intro e he
              have hmem : e.1 ∈ values.map Prod.fst := hids ▸ List.mem_map_of_mem he
              obtain ⟨e', he', hsame⟩ := List.mem_map.mp hmem
              exact hsame ▸ hplainTail e' he'
            obtain ⟨rfl, hafter⟩ := entryChars_append_inj hentry hentry' hid hkind
              (entries_startsOutside hplainTail) (entries_startsOutside hplain') h
            rw [ih hids htail htail' hplainTail htexts hafter]

end Maps

/-! ## Two texts -/

def missingValues (ids : List String) : List (String × FeatureValue) :=
  ids.map fun id => (id, .missing id)

theorem missingValues_ids (ids : List String) : (missingValues ids).map Prod.fst = ids := by
  unfold missingValues
  rw [List.map_map]
  exact List.map_id ids

theorem missingValues_built (kind : String → DatumKind) (ids : List String) :
    ∀ entry ∈ missingValues ids, IsBuilt kind entry := by
  intro entry hentry
  obtain ⟨id, -, rfl⟩ := List.mem_map.mp hentry
  exact Or.inr (Or.inl rfl)

/-- A map in which two text features are available and all others missing. -/
def twoTexts (before between after : List String) (id id' text text' : String) :
    List (String × FeatureValue) :=
  missingValues before ++ (id, .available id (.text text)) :: missingValues between ++
    (id', .available id' (.text text')) :: missingValues after

/-- What stands between the texts of two features. -/
def textBetween (between : List String) (id' : String) : String :=
  String.ofList ((missingValues between).flatMap entryChars ++ id'.toList ++ "Available".toList)

/-- What stands between two texts can be moved from the first one to the second. -/
theorem twoTexts_input (before between after : List String) (id id' : String) :
    snapshotHashInput (twoTexts before between after id id' (textBetween between id') "") =
      snapshotHashInput (twoTexts before between after id id' "" (textBetween between id')) := by
  rw [snapshotHashInput_inj]
  simp [twoTexts, textBetween, entryChars, FeatureValue.valueChars, FeatureDatum.chars,
    FeatureValue.available, FeatureStatus.debugName]

theorem textBetween_ne (between : List String) (id' : String) : textBetween between id' ≠ "" := by
  intro h
  have := congrArg String.toList h
  simp [textBetween] at this

theorem twoTexts_built {kind : String → DatumKind} {before between after : List String}
    {id id' text text' : String} (hkind : kind id = .text) (hkind' : kind id' = .text) :
    ∀ entry ∈ twoTexts before between after id id' text text', IsBuilt kind entry := by
  intro entry hentry
  unfold twoTexts at hentry
  rw [List.append_assoc, List.mem_append, List.cons_append, List.mem_cons, List.mem_append,
    List.mem_cons] at hentry
  rcases hentry with h | rfl | h | rfl | h
  · exact missingValues_built kind before entry h
  · exact Or.inl ⟨_, rfl, hkind.symm, trivial⟩
  · exact missingValues_built kind between entry h
  · exact Or.inl ⟨_, rfl, hkind'.symm, trivial⟩
  · exact missingValues_built kind after entry h

theorem exists_two_of_countP {ids : List String} {p : String → Bool} (h : 1 < ids.countP p) :
    ∃ before id between id' after,
      ids = before ++ id :: between ++ id' :: after ∧ p id ∧ p id' := by
  induction ids with
  | nil => exact absurd h (Nat.not_lt_zero 1)
  | cons first ids ih =>
      by_cases hfirst : p first
      · rw [List.countP_cons_of_pos hfirst] at h
        obtain ⟨second, hmem, hsecond⟩ := List.countP_pos_iff.mp (Nat.lt_of_succ_lt_succ h)
        obtain ⟨between, after, rfl⟩ := List.append_of_mem hmem
        exact ⟨[], first, between, second, after, rfl, hfirst, hsecond⟩
      · rw [List.countP_cons_of_neg hfirst] at h
        obtain ⟨before, id, between, id', after, rfl, hid, hid'⟩ := ih h
        exact ⟨first :: before, id, between, id', after, rfl, hid, hid'⟩

theorem not_hashIdentifies_of_two_texts {ids : List String} {kind : String → DatumKind}
    (h : 1 < ids.countP fun id => kind id = .text) : ¬ HashIdentifies ids (IsBuilt kind) := by
  obtain ⟨before, id, between, id', after, rfl, hkind, hkind'⟩ := exists_two_of_countP h
  intro hidentifies
  refine hidentifies _ _ ?_ ?_ (twoTexts_built (of_decide_eq_true hkind)
    (of_decide_eq_true hkind')) (twoTexts_built (of_decide_eq_true hkind)
    (of_decide_eq_true hkind')) ?_ (twoTexts_input before between after id id')
  · simp [twoTexts, missingValues_ids]
  · simp [twoTexts, missingValues_ids]
  · intro hsame
    simp [twoTexts, FeatureValue.available, textBetween_ne] at hsame

/-! ## When the hash identifies the vector -/

/-- The number one and its text are the same input. -/
theorem not_hashIdentifies_of_mixed_kinds (id : String) (ids : List String) :
    ¬ HashIdentifies (id :: ids) IsFiled := by
  have hone : Decimal.display 1 = "1" := by decide +kernel
  have hfiled : ∀ datum : FeatureDatum,
      ∀ entry ∈ (id, .available id datum) :: missingValues ids, IsFiled entry := by
    intro datum entry hentry
    rcases List.mem_cons.mp hentry with rfl | h
    · rfl
    · exact (missingValues_built (fun _ => .text) ids entry h).isFiled
  intro hidentifies
  refine hidentifies ((id, .available id (.numeric 1)) :: missingValues ids)
    ((id, .available id (.text "1")) :: missingValues ids) ?_ ?_ (hfiled _) (hfiled _) ?_ ?_
  · rw [List.map_cons, missingValues_ids]
  · rw [List.map_cons, missingValues_ids]
  · simp [FeatureValue.available]
  · rw [snapshotHashInput_inj]
    simp [entryChars, FeatureValue.valueChars, FeatureDatum.chars, FeatureValue.available, hone]

/-- Any value map with an entry shares its input with another one if a number may stand where
a text stands. With a fixed kind for each feature, the input identifies the values exactly if
at most one feature is a text. -/
theorem hashIdentifies_iff (ids : List String) :
    (HashIdentifies ids IsFiled ↔ ids = []) ∧
      ((∀ id ∈ ids, IsPlainId id) → ∀ kind : String → DatumKind,
        (HashIdentifies ids (IsBuilt kind) ↔
          (ids.countP fun id => kind id = .text) ≤ 1)) := by
  constructor
  · constructor
    · intro h
      cases ids with
      | nil => rfl
      | cons id ids => exact absurd h (not_hashIdentifies_of_mixed_kinds id ids)
    · rintro rfl values values' hids hids' - - hne
      rw [List.map_eq_nil_iff.mp hids, List.map_eq_nil_iff.mp hids'] at hne
      exact absurd rfl hne
  · intro hplain kind
    constructor
    · intro h
      by_contra htwo
      exact not_hashIdentifies_of_two_texts (not_le.mp htwo) h
    · rintro htexts values values' rfl hids hbuilt hbuilt' hne hsame
      refine hne (entries_inj hids.symm hbuilt hbuilt' ?_ ?_ (snapshotHashInput_inj.mp hsame))
      · intro entry hentry
        exact hplain entry.1 (List.mem_map_of_mem hentry)
      · rwa [List.countP_map] at htexts

theorem hashIdentifies_iff_sample :
    HashIdentifies ["curve_complete_flag", "mint", "price_current"] (IsBuilt fun id =>
      if id = "mint" then .text else if id = "curve_complete_flag" then .boolean else .numeric) :=
  ((hashIdentifies_iff _).2 (by decide +kernel) _).mpr (by decide)

/-- The characters that end the input may belong to either of two texts. -/
theorem text_moved_to_the_next_feature :
    [("creator_wallet", FeatureValue.available "creator_wallet" (.text "mintAvailable")),
        ("mint", .available "mint" (.text ""))] ≠
      [("creator_wallet", FeatureValue.available "creator_wallet" (.text "")),
        ("mint", .available "mint" (.text "mintAvailable"))] ∧
    snapshotHashInput
        [("creator_wallet", .available "creator_wallet" (.text "mintAvailable")),
          ("mint", .available "mint" (.text ""))] =
      snapshotHashInput
        [("creator_wallet", .available "creator_wallet" (.text "")),
          ("mint", .available "mint" (.text "mintAvailable"))] := by
  decide +kernel

end PumpLaunchTrader
