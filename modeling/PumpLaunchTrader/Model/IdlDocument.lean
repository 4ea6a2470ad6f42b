import PumpLaunchTrader.Model.Idl

/-! # Loading an interface description (`idl`)

`LoadedIdl::load` turns a parsed document into the maps that decoding looks things up in. It
parses the types of arguments and of account fields, while the types inside a defined type stay
descriptors until a decoding reaches them. -/

namespace PumpLaunchTrader

/-! ## The document -/

namespace IdlDocument

/-- `IdlMetadata`, as far as loading reads it. -/
structure Metadata where
  name : Option String := none
  version : Option String := none

/-- `IdlField`: a type descriptor that has not been parsed. -/
structure Field where
  name : String
  ty : JsonValue

/-- `IdlFieldEntry`. -/
inductive FieldEntry where
  | named (field : Field)
  | unnamed (ty : JsonValue)

/-- `IdlVariant`. -/
structure Variant where
  name : String
  fields : List FieldEntry := []

/-- `IdlTypeLayout`. -/
structure TypeLayout where
  kind : String
  fields : List FieldEntry := []
  variants : List Variant := []

/-- `IdlInstruction`, with the names of its accounts. -/
structure Instruction where
  name : String
  discriminator : Option (List UInt8) := none
  accounts : List String := []
  args : List Field := []

/-- `IdlAccount`. -/
structure Account where
  name : String
  discriminator : Option (List UInt8) := none
  ty : Option TypeLayout := none

/-- `IdlTypeDefinition`. -/
structure TypeDefinition where
  name : String
  ty : TypeLayout

end IdlDocument

structure IdlDocument where
  name : String := ""
  version : Option String := none
  metadata : Option IdlDocument.Metadata := none
  instructions : List IdlDocument.Instruction := []
  accounts : List IdlDocument.Account := []
  types : List IdlDocument.TypeDefinition := []

/-! ## Type descriptors -/

/-- `Value::as_u64`. -/
def JsonValue.asU64 : JsonValue → Option ℕ
  | number value => if 0 ≤ value ∧ value < 2 ^ 64 then some value.toNat else none
  | _ => none

theorem sizeOf_lookup_lt {key : String} {fields : List (String × JsonValue)} {value : JsonValue}
    (h : fields.lookup key = some value) : sizeOf value < sizeOf fields := by
  induction fields with
  | nil => simp at h
  | cons field fields ih =>
      obtain ⟨name, first⟩ := field
      rw [List.lookup_cons] at h
      simp only [List.cons.sizeOf_spec, Prod.mk.sizeOf_spec]
      by_cases hkey : key == name
      · simp only [hkey] at h
        cases h
        omega
      · simp only [hkey] at h
        have hlt := ih h
        omega

namespace TypeRef

/-- A primitive type by its name. -/
def primitive : String → Except IdlError TypeRef
  | "bool" => .ok .bool
  | "u8" => .ok .u8
  | "u16" => .ok .u16
  | "u32" => .ok .u32
  | "u64" => .ok .u64
  | "u128" => .ok .u128
  | "i64" => .ok .i64
  | "string" => .ok .string
  | "publicKey" => .ok .publicKey
  | "pubkey" => .ok .publicKey
  | "bytes" => .ok .bytes
  | other => .error (.invalid ("unsupported primitive type " ++ other))

/-- What stands under `defined`: a name, or an object with one. -/
def definedName : JsonValue → Except IdlError TypeRef
  | .string name => .ok (.defined name)
  | .object fields =>
    match (fields.lookup "name").bind JsonValue.asStr with
    | some name => .ok (.defined name)
    | none => .error (.invalid "defined type name must be a string")
  | _ => .error (.invalid "defined type name must be a string")

/-- `TypeRef::parse`. -/
def parse : JsonValue → Except IdlError TypeRef
  | .string name => primitive name
  | .object map =>
    match _hvec : map.lookup "vec" with
    | some inner => (parse inner).map .vec
    | none =>
      match _hoption : map.lookup "option" with
      | some inner => (parse inner).map .option
      | none =>
        match map.lookup "defined" with
        | some inner => definedName inner
        | none =>
          match _harray : map.lookup "array" with
          | some (.array [element, len]) => do
            let inner ← parse element
            match len.asU64 with
            | some len => .ok (.array inner len)
            | none => .error (.invalid "array length must be u64")
          | some (.array _) => .error (.invalid "array type must have two elements")
          | some _ => .error (.invalid "array type must be [inner, len]")
          | none => .error (.invalid "unsupported complex type")
  | _ => .error (.invalid "unsupported type descriptor")
termination_by value => sizeOf value
decreasing_by
  · have hlt := sizeOf_lookup_lt _hvec
    rw [JsonValue.object.sizeOf_spec]
    omega
  · have hlt := sizeOf_lookup_lt _hoption
    rw [JsonValue.object.sizeOf_spec]
    omega
  · have hlt := sizeOf_lookup_lt _harray
    rw [JsonValue.array.sizeOf_spec, List.cons.sizeOf_spec] at hlt
    rw [JsonValue.object.sizeOf_spec]
    omega

end TypeRef

namespace IdlDocument

/-! ## Layouts with parsed descriptors -/

def Field.parsed (self : Field) : IdlField :=
  { name := self.name, ty := TypeRef.parse self.ty }

def FieldEntry.parsed : FieldEntry → IdlFieldEntry
  | .named field => .named field.parsed
  | .unnamed ty => .unnamed (TypeRef.parse ty)

def Variant.parsed (self : Variant) : IdlVariant :=
  { name := self.name, fields := self.fields.map FieldEntry.parsed }

def TypeLayout.parsed (self : TypeLayout) : IdlTypeLayout :=
  { kind := self.kind
    fields := self.fields.map FieldEntry.parsed
    variants := self.variants.map Variant.parsed }

/-! ## Loading -/

/-- The name and the version that the metadata stand in for. -/
def withMetadata (self : IdlDocument) : IdlDocument :=
  { self with
    name :=
      if trimText self.name = "" then (self.metadata.bind Metadata.name).getD self.name
      else self.name
    version := self.version.or (self.metadata.bind Metadata.version) }

/-- `discriminator_vec_to_array`. -/
def discriminatorVecToArray (value : List UInt8) : Except IdlError (List UInt8) :=
  if value.length ≠ 8 then
    .error (.invalid ("discriminator must be 8 bytes, got " ++ toString value.length))
  else .ok value

/-- The discriminator of a document, or the one that is made of a name. -/
def discriminatorOr (discriminator : Option (List UInt8)) (space name : String) :
    Except IdlError (List UInt8) :=
  match discriminator with
  | some value => discriminatorVecToArray value
  | none => .ok (anchorDiscriminator space name)

/-- The layouts of the types by their names. -/
def definedTypes (types : List TypeDefinition) : KeyedMap String IdlTypeLayout :=
  types.foldl (fun map defined => map.insert defined.name defined.ty.parsed) ∅

/-- One round of the loop over the instructions. -/
def loadInstruction (map : KeyedMap (List UInt8) LoadedInstruction) (instruction : Instruction) :
    Except IdlError (KeyedMap (List UInt8) LoadedInstruction) := do
  let disc ← discriminatorOr instruction.discriminator "global" instruction.name
  let args ← instruction.args.mapM fun field => do
    let ty ← TypeRef.parse field.ty
    .ok (field.name, ty)
  .ok (map.insert disc { name := instruction.name, accounts := instruction.accounts, args })

/-- One round of the loop over the accounts. -/
def loadAccount (definedTypes : KeyedMap String IdlTypeLayout)
    (map : KeyedMap (List UInt8) LoadedAccount) (account : Account) :
    Except IdlError (KeyedMap (List UInt8) LoadedAccount) := do
  let disc ← discriminatorOr account.discriminator "account" account.name
  match (account.ty.map TypeLayout.parsed).or (definedTypes.lookup account.name) with
  | none =>
    .error (.invalid ("account " ++ account.name ++
      " is missing an inline layout and no matching type definition exists"))
  | some layout =>
    if layout.kind ≠ "struct" then
      .error (.invalid
        ("account " ++ account.name ++ " uses unsupported layout kind " ++ layout.kind))
    else do
      let fields ← layout.fields.zipIdx.mapM fun entry => do
        let field := normalizedField entry.1 entry.2
        let ty ← field.ty
        .ok (field.name, ty)
      .ok (map.insert disc { name := account.name, fields })

end IdlDocument

/-- `load`, from the document that the file at `path` holds. -/
def LoadedIdl.load (path : String) (depth : ℕ) (parsed : IdlDocument) :
    Except IdlError LoadedIdl := do
  let document := parsed.withMetadata
  if trimText document.name = "" then
    .error (.invalid ("idl " ++ path ++ " is missing a program name"))
  else do
    let definedTypes := IdlDocument.definedTypes document.types
    let instructionMap ← document.instructions.foldlM IdlDocument.loadInstruction ∅
    let accountMap ← document.accounts.foldlM (IdlDocument.loadAccount definedTypes) ∅
    .ok { instructionMap, accountMap, definedTypes, depth }

end PumpLaunchTrader
