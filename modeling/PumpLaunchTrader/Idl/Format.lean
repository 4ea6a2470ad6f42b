import PumpLaunchTrader.Lib.TopDown
import PumpLaunchTrader.Model.IdlCursor

/-! # The format that an IDL describes

A type says how the head of its values is read and which types follow it: the count of a vec
and as many items, the tag of an option and what it holds, the fields of a struct. Decoding
over a cursor reads this format. -/

namespace PumpLaunchTrader

open SelfDelimiting TopDown

/-! ## Readers -/

namespace Reader

theorem delimits_fixed (len : ℕ) : Delimits (ofReader (fixed len)) := by
  intro input value rest h
  simp only [ofReader, fixed] at h
  by_cases hshort : input.length < len
  · rw [if_pos hshort] at h
    cases h
  · rw [if_neg hshort] at h
    cases h
    refine ⟨input.take len, (List.take_append_drop len input).symm, fun tail => ?_,
      fun cut hcut hne => ⟨.decode "buffer underflow", if_pos ?_⟩⟩
    · have hlength : (input.take len).length = len := List.length_take_of_le (by omega)
      simp only [ofReader, fixed]
      rw [if_neg (by rw [List.length_append]; omega), List.take_left' hlength,
        List.drop_left' hlength]
    · have hlength : (input.take len).length = len := List.length_take_of_le (by omega)
      rcases Nat.lt_or_ge cut.length len with hlt | hge
      · exact hlt
      · exact absurd (hcut.eq_of_length_le (by omega)) hne

variable {α β : Type}

/-- One reader after the other. -/
theorem Delimits.bind {reader : Reader α} (h : Delimits (ofReader reader)) {next : α → Reader β}
    (hnext : ∀ value, Delimits (ofReader (next value))) :
    Delimits (ofReader fun bytes => do
      let (value, rest) ← reader bytes
      next value rest) := by
  have hbind := h.andThen hnext
  rwa [← ofReader_bind] at hbind

/-- A reader that takes nothing. -/
theorem Delimits.done (value : α) :
    Delimits (ofReader fun bytes : List UInt8 => (.ok (value, bytes) : Except IdlError _)) := by
  rw [ofReader_ok]
  exact delimits_done value

/-- A reader whose result is turned into another. -/
theorem Delimits.map {reader : Reader α} (h : Delimits (ofReader reader)) (f : α → β) :
    Delimits (ofReader fun bytes => do
      let (value, rest) ← reader bytes
      .ok (f value, rest)) :=
  Delimits.bind h fun value => Delimits.done (f value)

theorem delimits_unsigned (width : ℕ) : Delimits (ofReader (unsigned width)) :=
  Delimits.map (delimits_fixed width) Encoding.littleEndian

theorem delimits_i64 : Delimits (ofReader i64) :=
  Delimits.map (delimits_unsigned 8) fun n => if n < 2 ^ 63 then (n : ℤ) else (n : ℤ) - 2 ^ 64

theorem delimits_vec : Delimits (ofReader vec) :=
  Delimits.bind (delimits_unsigned 4) delimits_fixed

/-- The text behind a length. -/
theorem string_eq : string = (fun bytes => do
    let (raw, rest) ← vec bytes
    (String.fromUTF8? ⟨raw.toArray⟩).elim (.error (.decode "invalid utf8 string"))
      fun text => .ok (text, rest)) := by
  funext bytes
  rw [string]
  cases vec bytes with
  | error e => rfl
  | ok out =>
      simp only [bind, Except.bind]
      cases String.fromUTF8? ⟨out.1.toArray⟩ with
      | none => rfl
      | some text => rfl

theorem delimits_string : Delimits (ofReader string) := by
  have hnext : ∀ raw : List UInt8, Delimits (ofReader fun rest : List UInt8 =>
      (String.fromUTF8? ⟨raw.toArray⟩).elim (.error (.decode "invalid utf8 string"))
        fun text => (.ok (text, rest) : Except IdlError _)) := by
    intro raw
    cases String.fromUTF8? ⟨raw.toArray⟩ with
    | none => exact delimits_error _
    | some text => exact Delimits.done text
  rw [string_eq]
  exact Delimits.bind delimits_vec hnext

end Reader

/-! ## Cursors -/

namespace Cursor

/-- The cursor in front of the last bytes of its data. -/
def before (data rest : List UInt8) : Cursor :=
  { data := data, offset := data.length - rest.length }

/-- The cursor has not run past its data. -/
def Inside (self : Cursor) : Prop := self.offset ≤ self.data.length

instance (self : Cursor) : Decidable self.Inside := Nat.decLe self.offset self.data.length

/-- The bytes that are left. -/
def rest (self : Cursor) : List UInt8 := self.data.drop self.offset

theorem before_rest {self : Cursor} (h : self.Inside) : before self.data self.rest = self := by
  have hoffset : self.data.length - self.rest.length = self.offset := by
    rw [rest, List.length_drop]
    unfold Inside at h
    omega
  rw [before, hoffset]

theorem drop_of_suffix {data rest : List UInt8} (h : rest <:+ data) :
    data.drop (data.length - rest.length) = rest := by
  obtain ⟨front, rfl⟩ := h
  rw [List.length_append, Nat.add_sub_cancel, List.drop_left]

theorem expectEof_before {data rest : List UInt8} (h : rest <:+ data) :
    (before data rest).expectEof = Reader.expectEof rest := by
  have hle := h.length_le
  have hleft : data.length - (data.length - rest.length) = rest.length := by omega
  rw [expectEof, Reader.expectEof, before, hleft]
  by_cases hrest : rest = []
  · rw [if_pos hrest, if_pos]
    simp [hrest]
  · have hpos := List.length_pos_iff.mpr hrest
    rw [if_neg hrest, if_neg]
    simp only
    omega

/-- A read of the cursor is a reader of the bytes that are left. -/
def Follows {α : Type} (step : Cursor → Except IdlError (α × Cursor)) (reader : Reader α) :
    Prop :=
  ∀ data rest, rest <:+ data →
    step (before data rest) = (reader rest).map fun out => (out.1, before data out.2)

theorem follows_fixed (len : ℕ) : Follows (·.readFixed len) (Reader.fixed len) := by
  intro data rest h
  have hlength := h.length_le
  have hshape : (before data rest).readFixed len =
      if data.length < data.length - rest.length + len then
        .error (.decode "buffer underflow")
      else .ok ((data.drop (data.length - rest.length)).take len,
        { data := data, offset := data.length - rest.length + len }) := rfl
  change (before data rest).readFixed len = _
  by_cases hshort : rest.length < len
  · rw [hshape, if_pos (by omega), Reader.fixed, if_pos hshort]
    rfl
  · have hoffset : data.length - rest.length + len = data.length - (rest.drop len).length := by
      rw [List.length_drop]
      omega
    rw [hshape, if_neg (by omega), Reader.fixed, if_neg hshort, drop_of_suffix h, hoffset]
    rfl

variable {α β : Type}

theorem suffix_of_read {reader : Reader α} (hreader : Delimits (ofReader reader))
    {input rest : List UInt8} {value : α} (h : reader input = .ok (value, rest)) :
    rest <:+ input := by
  obtain ⟨taken, rfl, -⟩ := hreader input value rest h
  exact List.suffix_append taken rest

theorem Follows.andThen {step : Cursor → Except IdlError (α × Cursor)} {reader : Reader α}
    (h : Follows step reader) (hreader : Delimits (ofReader reader))
    {next : α → Cursor → Except IdlError (β × Cursor)} {nextReader : α → Reader β}
    (hnext : ∀ value, Follows (next value) (nextReader value)) :
    Follows (fun cursor => do
      let (value, cursor) ← step cursor
      next value cursor) (fun bytes => do
      let (value, rest) ← reader bytes
      nextReader value rest) := by
  intro data rest hrest
  simp only [h data rest hrest]
  cases hread : reader rest with
  | error e => rfl
  | ok out =>
      exact hnext out.1 data out.2 ((suffix_of_read hreader hread).trans hrest)

theorem Follows.map {step : Cursor → Except IdlError (α × Cursor)} {reader : Reader α}
    (h : Follows step reader) (hreader : Delimits (ofReader reader)) (f : α → β) :
    Follows (fun cursor => do
      let (value, cursor) ← step cursor
      .ok (f value, cursor)) (fun bytes => do
      let (value, rest) ← reader bytes
      .ok (f value, rest)) := by
  have hnext : ∀ value, Follows (fun cursor => .ok (f value, cursor))
      (fun rest => .ok (f value, rest)) := fun _ _ _ _ => rfl
  exact h.andThen hreader hnext

theorem follows_unsigned (width : ℕ) :
    Follows (·.readUnsigned width) (Reader.unsigned width) :=
  (follows_fixed width).map (Reader.delimits_fixed width) Encoding.littleEndian

theorem follows_i64 : Follows readI64 Reader.i64 :=
  (follows_unsigned 8).map (Reader.delimits_unsigned 8) fun n =>
    if n < 2 ^ 63 then (n : ℤ) else (n : ℤ) - 2 ^ 64

theorem follows_vec : Follows readVec Reader.vec :=
  (follows_unsigned 4).andThen (Reader.delimits_unsigned 4) follows_fixed

theorem readString_eq : readString = (fun cursor => do
    let (raw, cursor) ← cursor.readVec
    (String.fromUTF8? ⟨raw.toArray⟩).elim (.error (.decode "invalid utf8 string"))
      fun text => .ok (text, cursor)) := by
  funext cursor
  rw [readString]
  cases cursor.readVec with
  | error e => rfl
  | ok out =>
      simp only [bind, Except.bind]
      cases String.fromUTF8? ⟨out.1.toArray⟩ with
      | none => rfl
      | some text => rfl

theorem follows_string : Follows readString Reader.string := by
  have hnext : ∀ raw : List UInt8, Follows
      (fun cursor => (String.fromUTF8? ⟨raw.toArray⟩).elim
        (.error (.decode "invalid utf8 string")) fun text => .ok (text, cursor))
      (fun rest => (String.fromUTF8? ⟨raw.toArray⟩).elim
        (.error (.decode "invalid utf8 string")) fun text => .ok (text, rest)) := by
    intro raw data rest hrest
    cases String.fromUTF8? ⟨raw.toArray⟩ with
    | none => rfl
    | some text => rfl
  rw [readString_eq, Reader.string_eq]
  exact follows_vec.andThen Reader.delimits_vec hnext

end Cursor

/-! ## The grammar of an IDL -/

/-- What stands in the bytes: a value of a type, whose descriptor may fail to parse, or the
fields of a layout. -/
inductive IdlNode where
  | type (ty : Except IdlError TypeRef)
  | layout (fields : List (String × TypeRef))

abbrev IdlHead := TopDown.Head IdlNode JsonValue

namespace IdlHead

/-- A value that is all head. -/
def leaf (value : JsonValue) : IdlHead := { parts := [], build := fun _ => value }

/-- A number of items of a type. -/
def items (len : ℕ) (inner : TypeRef) : IdlHead :=
  { parts := List.replicate len (.type (.ok inner)), build := .array }

/-- The types of fields, in the order in which they are read. -/
def fieldNodes (fields : List IdlFieldEntry) : List IdlNode :=
  fields.zipIdx.map fun entry => .type (normalizedField entry.1 entry.2).ty

def fieldNames (fields : List IdlFieldEntry) : List String :=
  fields.zipIdx.map fun entry => (normalizedField entry.1 entry.2).name

/-- The fields of a struct. -/
def struct (fields : List IdlFieldEntry) : IdlHead :=
  { parts := fieldNodes fields
    build := fun values => .object ((fieldNames fields).zip values) }

/-- A variant with its fields. -/
def variant (layout : IdlVariant) : IdlHead :=
  if layout.fields.isEmpty then leaf (.string layout.name)
  else
    { parts := fieldNodes layout.fields
      build := fun values =>
        .object [("variant", .string layout.name), ("fields", .array values)] }

end IdlHead

/-- A reader of a head. -/
def headBy {α : Type} (reader : Reader α) (head : α → IdlHead) : Reader IdlHead := fun bytes => do
  let (value, rest) ← reader bytes
  .ok (head value, rest)

namespace LoadedIdl

/-- The head of an enum: the index of a variant. -/
def enumHead (name : String) (variants : List IdlVariant) : Reader IdlHead := fun bytes => do
  let (index, rest) ← Reader.unsigned 1 bytes
  match variants[index]? with
  | none =>
    .error (.decode ("enum variant index " ++ toString index ++ " out of bounds for " ++ name))
  | some variant => .ok (IdlHead.variant variant, rest)

/-- The head of a value of a type. -/
def typeHead (self : LoadedIdl) : TypeRef → Reader IdlHead
  | .bool => headBy (Reader.unsigned 1) fun n => .leaf (.bool (n ≠ 0))
  | .u8 => headBy (Reader.unsigned 1) fun n => .leaf (.number n)
  | .u16 => headBy (Reader.unsigned 2) fun n => .leaf (.number n)
  | .u32 => headBy (Reader.unsigned 4) fun n => .leaf (.number n)
  | .u64 => headBy (Reader.unsigned 8) fun n => .leaf (.number n)
  | .u128 => headBy (Reader.unsigned 16) fun n => .leaf (.string (toString n))
  | .i64 => headBy Reader.i64 fun n => .leaf (.number n)
  | .string => headBy Reader.string fun text => .leaf (.string text)
  | .publicKey => headBy (Reader.fixed 32) fun raw => .leaf (.string (Encoding.base58Encode raw))
  | .bytes => headBy Reader.vec fun raw => .leaf (.string (Sha256.hex raw))
  | .vec inner => headBy (Reader.unsigned 4) fun len => .items len inner
  | .option inner => headBy (Reader.unsigned 1) fun tag =>
    if tag = 0 then .leaf .null
    else { parts := [.type (.ok inner)], build := fun values => values.headD .null }
  | .array inner len => fun bytes => .ok (.items len inner, bytes)
  | .defined name =>
    match self.definedTypes.lookup name with
    | none => fun _ => .error (.invalid ("unknown defined type " ++ name))
    | some layout =>
      if layout.kind = "struct" then fun bytes => .ok (.struct layout.fields, bytes)
      else if layout.kind = "enum" then enumHead name layout.variants
      else fun _ =>
        .error (.invalid ("defined type " ++ name ++ " uses unsupported kind " ++ layout.kind))

/-- The format of the values that an IDL describes. -/
def grammar (self : LoadedIdl) : Grammar IdlNode UInt8 IdlError JsonValue where
  head
    | .type (.ok ty), bytes => self.typeHead ty bytes
    | .type (.error e), _ => .error e
    | .layout fields, bytes =>
      .ok ({ parts := fields.map fun field => .type (.ok field.2)
             build := fun values => .object ((fields.map Prod.fst).zip values) }, bytes)

theorem delimits_headBy {α : Type} {reader : Reader α} (h : Delimits (ofReader reader))
    (head : α → IdlHead) : Delimits (ofReader (headBy reader head)) :=
  Reader.Delimits.map h head

theorem delimits_enumHead (name : String) (variants : List IdlVariant) :
    Delimits (ofReader (enumHead name variants)) := by
  have hnext : ∀ index : ℕ, Delimits (ofReader fun rest : List UInt8 =>
      match variants[index]? with
      | none => .error (.decode ("enum variant index " ++ toString index ++
          " out of bounds for " ++ name))
      | some variant => (.ok (IdlHead.variant variant, rest) : Except IdlError _)) := by
    intro index
    cases variants[index]? with
    | none => exact delimits_error _
    | some variant => exact Reader.Delimits.done (IdlHead.variant variant)
  exact Reader.Delimits.bind (Reader.delimits_unsigned 1) hnext

theorem delimits_typeHead (self : LoadedIdl) (ty : TypeRef) :
    Delimits (ofReader (self.typeHead ty)) := by
  unfold typeHead
  cases ty with
  | bool => exact delimits_headBy (Reader.delimits_unsigned 1) _
  | u8 => exact delimits_headBy (Reader.delimits_unsigned 1) _
  | u16 => exact delimits_headBy (Reader.delimits_unsigned 2) _
  | u32 => exact delimits_headBy (Reader.delimits_unsigned 4) _
  | u64 => exact delimits_headBy (Reader.delimits_unsigned 8) _
  | u128 => exact delimits_headBy (Reader.delimits_unsigned 16) _
  | i64 => exact delimits_headBy Reader.delimits_i64 _
  | string => exact delimits_headBy Reader.delimits_string _
  | publicKey => exact delimits_headBy (Reader.delimits_fixed 32) _
  | bytes => exact delimits_headBy Reader.delimits_vec _
  | vec inner => exact delimits_headBy (Reader.delimits_unsigned 4) _
  | option inner => exact delimits_headBy (Reader.delimits_unsigned 1) _
  | array inner len => exact Reader.Delimits.done (IdlHead.items len inner)
  | defined name =>
      simp only
      cases self.definedTypes.lookup name with
      | none => exact delimits_error _
      | some layout =>
          by_cases hstruct : layout.kind = "struct"
          · simp only [if_pos hstruct]
            exact Reader.Delimits.done (IdlHead.struct layout.fields)
          · by_cases henum : layout.kind = "enum"
            · simp only [if_neg hstruct, if_pos henum]
              exact delimits_enumHead name layout.variants
            · simp only [if_neg hstruct, if_neg henum]
              exact delimits_error _

theorem delimited_grammar (self : LoadedIdl) : self.grammar.Delimited := by
  intro node
  cases node with
  | type ty =>
      cases ty with
      | error e => exact delimits_error e
      | ok ty => exact self.delimits_typeHead ty
  | layout fields => exact Reader.Delimits.done _

end LoadedIdl

end PumpLaunchTrader
