import PumpLaunchTrader.Model.Idl

/-! # Decoding over a cursor (`idl`)

`decode_type` moves a cursor over the bytes and calls itself for the types inside a type. The
code's recursion has no bound, so the functions here follow it to a given depth and return
nothing when it goes deeper. Beside its result a decoding says what it asked for: the capacity
of every `Vec` that it made for the items of a vec. An allocation is taken to succeed. -/

namespace PumpLaunchTrader

/-! ## Cursor -/

structure Cursor where
  data : List UInt8
  offset : ℕ
  deriving DecidableEq, Repr

namespace Cursor

def new (data : List UInt8) : Cursor := { data := data, offset := 0 }

/-- `read_fixed`. -/
def readFixed (self : Cursor) (len : ℕ) : Except IdlError (List UInt8 × Cursor) :=
  let stop := self.offset + len
  if self.data.length < stop then .error (.decode "buffer underflow")
  else .ok ((self.data.drop self.offset).take len, { self with offset := stop })

/-- `read_u8`, `read_u16`, `read_u32`, `read_u64` and `read_u128`, by their width. -/
def readUnsigned (self : Cursor) (width : ℕ) : Except IdlError (ℕ × Cursor) := do
  let (raw, cursor) ← self.readFixed width
  .ok (Encoding.littleEndian raw, cursor)

/-- `read_i64`. -/
def readI64 (self : Cursor) : Except IdlError (ℤ × Cursor) := do
  let (n, cursor) ← self.readUnsigned 8
  .ok (if n < 2 ^ 63 then (n : ℤ) else (n : ℤ) - 2 ^ 64, cursor)

/-- `read_vec`. -/
def readVec (self : Cursor) : Except IdlError (List UInt8 × Cursor) := do
  let (len, cursor) ← self.readUnsigned 4
  cursor.readFixed len

/-- `read_string`. -/
def readString (self : Cursor) : Except IdlError (String × Cursor) := do
  let (raw, cursor) ← self.readVec
  match String.fromUTF8? ⟨raw.toArray⟩ with
  | some text => .ok (text, cursor)
  | none => .error (.decode "invalid utf8 string")

/-- `expect_eof`. -/
def expectEof (self : Cursor) : Except IdlError Unit :=
  if self.offset = self.data.length then .ok ()
  else
    .error (.decode ("expected eof, " ++ toString (self.data.length - self.offset) ++
      " trailing bytes remain"))

end Cursor

/-! ## Decoders -/

/-- A call of `Vec::with_capacity` for the items of a vec, with the number of bytes that were
left in the cursor. -/
structure VecRequest where
  capacity : ℕ
  remaining : ℕ
  deriving DecidableEq, Repr

/-- A decoding from a cursor: the requests that it makes, and its result. It is nothing when
the recursion is not followed to its end. -/
def Decoder (α : Type) := Cursor → Option (List VecRequest × Except IdlError (α × Cursor))

namespace Decoder

variable {α β : Type}

/-- An error ends the decoding: the `?` operator. -/
def andThen (first : Decoder α) (next : α → Decoder β) : Decoder β := fun cursor =>
  match first cursor with
  | none => none
  | some (requests, .error e) => some (requests, .error e)
  | some (requests, .ok (value, cursor)) =>
    (next value cursor).map fun out => (requests ++ out.1, out.2)

instance : Monad Decoder where
  pure value := fun cursor => some ([], .ok (value, cursor))
  bind := andThen

/-- A read of the cursor. -/
def read (step : Cursor → Except IdlError (α × Cursor)) : Decoder α := fun cursor =>
  some ([], step cursor)

def fail (e : IdlError) : Decoder α := fun _ => some ([], .error e)

/-- `Vec::with_capacity`. -/
def withCapacity (len : ℕ) : Decoder Unit := fun cursor =>
  some ([{ capacity := len, remaining := cursor.data.length - cursor.offset }], .ok ((), cursor))

/-- A loop that pushes one value in each round. -/
def forEach {ι : Type} (body : ι → Decoder α) : List ι → Decoder (List α)
  | [] => pure []
  | item :: items => do
    let value ← body item
    let values ← forEach body items
    pure (value :: values)

end Decoder

namespace LoadedIdl

/-- A field of a struct or of a variant: its type descriptor is parsed when it is reached. No
field is looked at when the recursion is not followed into the fields. -/
def decodeField (depth : ℕ) (decode : TypeRef → Decoder JsonValue) (entry : IdlFieldEntry × ℕ) :
    Decoder (String × JsonValue) :=
  let field := normalizedField entry.1 entry.2
  match depth, field.ty with
  | 0, _ => fun _ => none
  | _ + 1, .error e => Decoder.fail e
  | _ + 1, .ok ty => do
    let value ← decode ty
    pure (field.name, value)

/-- `decode_type`, followed `depth` calls deep. An object is kept as the list of what is
inserted into its map. -/
def decodeTypeWithin (self : LoadedIdl) : ℕ → TypeRef → Decoder JsonValue
  | 0, _ => fun _ => none
  | depth + 1, ty =>
    match ty with
    | .bool => do
      let n ← Decoder.read (·.readUnsigned 1)
      pure (.bool (n ≠ 0))
    | .u8 => do
      let n ← Decoder.read (·.readUnsigned 1)
      pure (.number n)
    | .u16 => do
      let n ← Decoder.read (·.readUnsigned 2)
      pure (.number n)
    | .u32 => do
      let n ← Decoder.read (·.readUnsigned 4)
      pure (.number n)
    | .u64 => do
      let n ← Decoder.read (·.readUnsigned 8)
      pure (.number n)
    | .u128 => do
      let n ← Decoder.read (·.readUnsigned 16)
      pure (.string (toString n))
    | .i64 => do
      let n ← Decoder.read Cursor.readI64
      pure (.number n)
    | .string => do
      let text ← Decoder.read Cursor.readString
      pure (.string text)
    | .publicKey => do
      let bytes ← Decoder.read (·.readFixed 32)
      pure (.string (Encoding.base58Encode bytes))
    | .bytes => do
      let bytes ← Decoder.read Cursor.readVec
      pure (.string (Sha256.hex bytes))
    | .vec inner => do
      let len ← Decoder.read (·.readUnsigned 4)
      Decoder.withCapacity len
      let out ← Decoder.forEach (fun _ => self.decodeTypeWithin depth inner) (List.range len)
      pure (.array out)
    | .option inner => do
      let tag ← Decoder.read (·.readUnsigned 1)
      if tag = 0 then pure .null else self.decodeTypeWithin depth inner
    | .array inner len => do
      let out ← Decoder.forEach (fun _ => self.decodeTypeWithin depth inner) (List.range len)
      pure (.array out)
    | .defined name =>
      match self.definedTypes.lookup name with
      | none => Decoder.fail (.invalid ("unknown defined type " ++ name))
      | some layout =>
        if layout.kind = "struct" then do
          let map ← Decoder.forEach (decodeField depth (self.decodeTypeWithin depth))
            layout.fields.zipIdx
          pure (.object map)
        else if layout.kind = "enum" then do
          let variantIndex ← Decoder.read (·.readUnsigned 1)
          match layout.variants[variantIndex]? with
          | none =>
            Decoder.fail (.decode ("enum variant index " ++ toString variantIndex ++
              " out of bounds for " ++ name))
          | some variant =>
            if variant.fields.isEmpty then pure (.string variant.name)
            else do
              let fields ← Decoder.forEach (decodeField depth (self.decodeTypeWithin depth))
                variant.fields.zipIdx
              pure (.object [("variant", .string variant.name),
                ("fields", .array (fields.map Prod.snd))])
        else
          Decoder.fail
            (.invalid ("defined type " ++ name ++ " uses unsupported kind " ++ layout.kind))

/-- The loop over the fields of a layout. -/
def decodeLayoutWithin (self : LoadedIdl) (depth : ℕ) (fields : List (String × TypeRef)) :
    Decoder (List (String × JsonValue)) :=
  Decoder.forEach (fun field : String × TypeRef => do
    let value ← self.decodeTypeWithin depth field.2
    pure (field.1, value)) fields

/-- The named fields of a layout, up to the end of the bytes. -/
def decodeFieldsWithin (self : LoadedIdl) (depth : ℕ) (fields : List (String × TypeRef))
    (bytes : List UInt8) :
    Option (List VecRequest × Except IdlError (KeyedMap String JsonValue)) :=
  (self.decodeLayoutWithin depth fields (Cursor.new bytes)).map fun out =>
    (out.1, do
      let (values, cursor) ← out.2
      cursor.expectEof
      .ok (values.foldl (fun (map : KeyedMap String JsonValue) v => map.insert v.1 v.2) ∅))

/-- `decode_instruction`, followed to a depth. -/
def decodeInstructionWithin (self : LoadedIdl) (depth : ℕ) (data : List UInt8) :
    Option (List VecRequest × Except IdlError InstructionDecode) :=
  if data.length < 8 then some ([], .ok (.unknown (Sha256.hex data) data.length))
  else
    match self.instructionMap.lookup (data.take 8) with
    | none => some ([], .ok (.unknown (Sha256.hex (data.take 8)) data.length))
    | some layout =>
      (self.decodeFieldsWithin depth layout.args (data.drop 8)).map fun out =>
        (out.1, out.2.map fun args =>
          .known { name := layout.name, accounts := layout.accounts, args })

/-- `decode_account`, followed to a depth. -/
def decodeAccountWithin (self : LoadedIdl) (depth : ℕ) (data : List UInt8) :
    Option (List VecRequest × Except IdlError AccountDecode) :=
  if data.length < 8 then some ([], .ok (.unknown (Sha256.hex data) data.length))
  else
    match self.accountMap.lookup (data.take 8) with
    | none => some ([], .ok (.unknown (Sha256.hex (data.take 8)) data.length))
    | some layout =>
      (self.decodeFieldsWithin depth layout.fields (data.drop 8)).map fun out =>
        (out.1, out.2.map fun fields => .known { name := layout.name, fields })

/-! ## Calls

A call returns when its recursion ends, at whatever depth. -/

/-- What a call returns. -/
def Returns {α : Type} (within : ℕ → Option (List VecRequest × Except IdlError α))
    (result : Except IdlError α) : Prop :=
  ∃ depth requests, within depth = some (requests, result)

/-- `decode_instruction`. -/
def InstructionReturns (self : LoadedIdl) (data : List UInt8)
    (result : Except IdlError InstructionDecode) : Prop :=
  Returns (fun depth => self.decodeInstructionWithin depth data) result

/-- `decode_account`. -/
def AccountReturns (self : LoadedIdl) (data : List UInt8)
    (result : Except IdlError AccountDecode) : Prop :=
  Returns (fun depth => self.decodeAccountWithin depth data) result

/-- `decode_type`, with the cursor after it. -/
def TypeReturns (self : LoadedIdl) (ty : TypeRef) (cursor : Cursor)
    (result : Except IdlError (JsonValue × Cursor)) : Prop :=
  Returns (fun depth => self.decodeTypeWithin depth ty cursor) result

end LoadedIdl

end PumpLaunchTrader
