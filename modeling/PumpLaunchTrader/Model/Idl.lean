import PumpLaunchTrader.Lib.Encoding
import PumpLaunchTrader.Lib.KeyedMap
import PumpLaunchTrader.Model.Math

/-! # Interface descriptions and their decoders (`idl`)

A loaded IDL maps the eight-byte discriminators of a program's instructions and accounts to
their layouts, and decodes the bytes behind a discriminator by the types of the layout. -/

namespace PumpLaunchTrader

inductive IdlError where
  | invalid (message : String)
  | decode (message : String)
  deriving DecidableEq, Repr

inductive TypeRef where
  | bool | u8 | u16 | u32 | u64 | u128 | i64 | string | publicKey | bytes
  | vec (inner : TypeRef)
  | option (inner : TypeRef)
  | array (inner : TypeRef) (len : ℕ)
  | defined (name : String)
  deriving DecidableEq, Repr

/-- `serde_json::Value`, with integer numbers. -/
inductive JsonValue where
  | null
  | bool (value : Bool)
  | number (value : ℤ)
  | string (value : String)
  | array (items : List JsonValue)
  | object (fields : List (String × JsonValue))

namespace JsonValue

/-- `Value::as_str`. -/
def asStr : JsonValue → Option String
  | string value => some value
  | _ => none

/-- `Value::as_bool`. -/
def asBool : JsonValue → Option Bool
  | bool value => some value
  | _ => none

/-- The integer behind `as_u64` or `as_i64`. -/
def asInt : JsonValue → Option ℤ
  | number value => some value
  | _ => none

end JsonValue

/-! ## Layouts -/

/-- A field with its type descriptor as `TypeRef::parse` reads it. -/
structure IdlField where
  name : String
  ty : Except IdlError TypeRef

/-- `IdlFieldEntry`: a field without a name gets one from its index. -/
inductive IdlFieldEntry where
  | named (field : IdlField)
  | unnamed (ty : Except IdlError TypeRef)

structure IdlVariant where
  name : String
  fields : List IdlFieldEntry

structure IdlTypeLayout where
  kind : String
  fields : List IdlFieldEntry := []
  variants : List IdlVariant := []

structure LoadedInstruction where
  name : String
  accounts : List String
  args : List (String × TypeRef)
  deriving DecidableEq, Repr

structure LoadedAccount where
  name : String
  fields : List (String × TypeRef)
  deriving DecidableEq, Repr

/-- A loaded IDL. `depth` bounds the nesting of types that a decoding follows: the code's
recursion is bounded by its stack only. -/
structure LoadedIdl where
  instructionMap : KeyedMap (List UInt8) LoadedInstruction
  accountMap : KeyedMap (List UInt8) LoadedAccount
  definedTypes : KeyedMap String IdlTypeLayout := ∅
  depth : ℕ

structure DecodedInstruction where
  name : String
  accounts : List String
  args : KeyedMap String JsonValue

structure DecodedAccount where
  name : String
  fields : KeyedMap String JsonValue

inductive InstructionDecode where
  | known (decoded : DecodedInstruction)
  | unknown (discriminatorHex : String) (dataLen : ℕ)

inductive AccountDecode where
  | known (decoded : DecodedAccount)
  | unknown (discriminatorHex : String) (dataLen : ℕ)

/-- `normalized_field`. -/
def normalizedField (entry : IdlFieldEntry) (index : ℕ) : IdlField :=
  match entry with
  | .named field => field
  | .unnamed ty => { name := "field" ++ toString index, ty }

/-- `anchor_discriminator`. -/
def anchorDiscriminator (space name : String) : List UInt8 :=
  (Sha256.digest (space ++ ":" ++ name).toUTF8.toList).take 8

/-! ## Cursor

A reader takes the bytes that are left and returns its value with the bytes after it. -/

/-- A reader over the bytes that are left. -/
abbrev Reader (α : Type) := List UInt8 → Except IdlError (α × List UInt8)

namespace Reader

def fixed (len : ℕ) : Reader (List UInt8) := fun bytes =>
  if bytes.length < len then .error (.decode "buffer underflow")
  else .ok (bytes.take len, bytes.drop len)

/-- An unsigned little-endian integer of `width` bytes. -/
def unsigned (width : ℕ) : Reader ℕ := fun bytes => do
  let (raw, rest) ← fixed width bytes
  .ok (Encoding.littleEndian raw, rest)

/-- `read_i64`. -/
def i64 : Reader ℤ := fun bytes => do
  let (n, rest) ← unsigned 8 bytes
  .ok (if n < 2 ^ 63 then (n : ℤ) else (n : ℤ) - 2 ^ 64, rest)

/-- `read_vec`: a length of four bytes and as many bytes. -/
def vec : Reader (List UInt8) := fun bytes => do
  let (len, rest) ← unsigned 4 bytes
  fixed len rest

/-- `read_string`. -/
def string : Reader String := fun bytes => do
  let (raw, rest) ← vec bytes
  match String.fromUTF8? ⟨raw.toArray⟩ with
  | some text => .ok (text, rest)
  | none => .error (.decode "invalid utf8 string")

/-- `count` values of one reader. -/
def repeated {α : Type} (reader : Reader α) : ℕ → Reader (List α)
  | 0, bytes => .ok ([], bytes)
  | count + 1, bytes => do
    let (value, rest) ← reader bytes
    let (values, rest) ← repeated reader count rest
    .ok (value :: values, rest)

/-- The values of a list of readers, each under its name. -/
def named {α : Type} : List (String × Reader α) → Reader (List (String × α))
  | [], bytes => .ok ([], bytes)
  | (name, reader) :: readers, bytes => do
    let (value, rest) ← reader bytes
    let (values, rest) ← named readers rest
    .ok ((name, value) :: values, rest)

/-- `expect_eof`. -/
def expectEof (bytes : List UInt8) : Except IdlError Unit :=
  if bytes = [] then .ok ()
  else .error (.decode ("expected eof, " ++ toString bytes.length ++ " trailing bytes remain"))

end Reader

/-! ## Decoding -/

namespace LoadedIdl

/-- The readers of a layout's fields, with `decode` for the type of each. -/
def fieldReaders (decode : TypeRef → Reader JsonValue) (fields : List IdlFieldEntry) :
    List (String × Reader JsonValue) :=
  fields.zipIdx.map fun entry =>
    let field := normalizedField entry.1 entry.2
    (field.name, fun bytes =>
      match field.ty with
      | .ok ty => decode ty bytes
      | .error e => .error e)

/-- `decode_type`. -/
def decodeType (self : LoadedIdl) : ℕ → TypeRef → Reader JsonValue
  | 0, _, _ => .error (.invalid "type nesting is too deep")
  | depth + 1, ty, bytes =>
    match ty with
    | .bool => do
      let (n, rest) ← Reader.unsigned 1 bytes
      .ok (.bool (n ≠ 0), rest)
    | .u8 => do
      let (n, rest) ← Reader.unsigned 1 bytes
      .ok (.number n, rest)
    | .u16 => do
      let (n, rest) ← Reader.unsigned 2 bytes
      .ok (.number n, rest)
    | .u32 => do
      let (n, rest) ← Reader.unsigned 4 bytes
      .ok (.number n, rest)
    | .u64 => do
      let (n, rest) ← Reader.unsigned 8 bytes
      .ok (.number n, rest)
    | .u128 => do
      let (n, rest) ← Reader.unsigned 16 bytes
      .ok (.string (toString n), rest)
    | .i64 => do
      let (n, rest) ← Reader.i64 bytes
      .ok (.number n, rest)
    | .string => do
      let (text, rest) ← Reader.string bytes
      .ok (.string text, rest)
    | .publicKey => do
      let (raw, rest) ← Reader.fixed 32 bytes
      .ok (.string (Encoding.base58Encode raw), rest)
    | .bytes => do
      let (raw, rest) ← Reader.vec bytes
      .ok (.string (Sha256.hex raw), rest)
    | .vec inner => do
      let (len, rest) ← Reader.unsigned 4 bytes
      let (items, rest) ← Reader.repeated (self.decodeType depth inner) len rest
      .ok (.array items, rest)
    | .option inner => do
      let (tag, rest) ← Reader.unsigned 1 bytes
      if tag = 0 then .ok (.null, rest) else self.decodeType depth inner rest
    | .array inner len => do
      let (items, rest) ← Reader.repeated (self.decodeType depth inner) len bytes
      .ok (.array items, rest)
    | .defined name =>
      match self.definedTypes.lookup name with
      | none => .error (.invalid ("unknown defined type " ++ name))
      | some layout =>
        if layout.kind = "struct" then do
          let (fields, rest) ←
            Reader.named (fieldReaders (self.decodeType depth) layout.fields) bytes
          .ok (.object fields, rest)
        else if layout.kind = "enum" then do
          let (index, rest) ← Reader.unsigned 1 bytes
          match layout.variants[index]? with
          | none =>
            .error (.decode ("enum variant index " ++ toString index ++
              " out of bounds for " ++ name))
          | some variant =>
            if variant.fields.isEmpty then .ok (.string variant.name, rest)
            else do
              let (fields, rest) ←
                Reader.named (fieldReaders (self.decodeType depth) variant.fields) rest
              .ok (.object [("variant", .string variant.name),
                ("fields", .array (fields.map Prod.snd))], rest)
        else
          .error (.invalid ("defined type " ++ name ++ " uses unsupported kind " ++ layout.kind))

/-- Decode named fields up to the end of the bytes. A later field of the same name replaces
an earlier one. -/
def decodeFields (self : LoadedIdl) (fields : List (String × TypeRef)) (bytes : List UInt8) :
    Except IdlError (KeyedMap String JsonValue) := do
  let (values, rest) ←
    Reader.named (fields.map fun f => (f.1, self.decodeType self.depth f.2)) bytes
  Reader.expectEof rest
  .ok (values.foldl (fun (map : KeyedMap String JsonValue) v => map.insert v.1 v.2) ∅)

/-- `decode_instruction`: by the discriminator only. -/
def decodeInstruction (self : LoadedIdl) (data : List UInt8) :
    Except IdlError InstructionDecode :=
  if data.length < 8 then .ok (.unknown (Sha256.hex data) data.length)
  else
    match self.instructionMap.lookup (data.take 8) with
    | none => .ok (.unknown (Sha256.hex (data.take 8)) data.length)
    | some layout => do
      let args ← self.decodeFields layout.args (data.drop 8)
      .ok (.known { name := layout.name, accounts := layout.accounts, args })

/-- `decode_account`. -/
def decodeAccount (self : LoadedIdl) (data : List UInt8) : Except IdlError AccountDecode :=
  if data.length < 8 then .ok (.unknown (Sha256.hex data) data.length)
  else
    match self.accountMap.lookup (data.take 8) with
    | none => .ok (.unknown (Sha256.hex (data.take 8)) data.length)
    | some layout => do
      let fields ← self.decodeFields layout.fields (data.drop 8)
      .ok (.known { name := layout.name, fields })

end LoadedIdl

end PumpLaunchTrader
