import PumpLaunchTrader.Idl.Decoding
import PumpLaunchTrader.Model.IdlDocument

/-! # When decoding ends, and what it allocates

A type may contain itself, and the count of a vec comes from the data. Decoding ends unless a
value is entered again where it stands, and it asks for no more than is left unless the data
give a vec a larger count. -/

namespace PumpLaunchTrader

open TopDown

/-! ## The kinds of values of an IDL -/

namespace TypeRef

/-- A type with the types inside it. -/
def subtypes : TypeRef → List TypeRef
  | .vec inner => .vec inner :: inner.subtypes
  | .option inner => .option inner :: inner.subtypes
  | .array inner len => .array inner len :: inner.subtypes
  | ty => [ty]

theorem mem_subtypes_self (ty : TypeRef) : ty ∈ ty.subtypes := by
  cases ty <;> simp [subtypes]

theorem subtypes_trans {a b c : TypeRef} (h : a ∈ b.subtypes) (h' : b ∈ c.subtypes) :
    a ∈ c.subtypes := by
  induction c with
  | vec inner ih =>
      rcases List.mem_cons.mp h' with rfl | hinner
      · exact h
      · exact List.mem_cons_of_mem _ (ih hinner)
  | option inner ih =>
      rcases List.mem_cons.mp h' with rfl | hinner
      · exact h
      · exact List.mem_cons_of_mem _ (ih hinner)
  | array inner len ih =>
      rcases List.mem_cons.mp h' with rfl | hinner
      · exact h
      · exact List.mem_cons_of_mem _ (ih hinner)
  | _ =>
      rw [List.mem_singleton.mp h'] at h
      exact h

end TypeRef

/-- A kind of value with those inside its type. -/
def IdlNode.inside : IdlNode → List IdlNode
  | .type (.ok ty) => ty.subtypes.map fun ty => .type (.ok ty)
  | node => [node]

theorem IdlNode.mem_inside_self (node : IdlNode) : node ∈ node.inside := by
  cases node with
  | layout fields => exact List.mem_singleton_self _
  | type ty =>
      cases ty with
      | error e => exact List.mem_singleton_self _
      | ok ty => exact List.mem_map_of_mem ty.mem_subtypes_self

namespace IdlTypeLayout

/-- The kinds of the fields of a layout. -/
def nodes (self : IdlTypeLayout) : List IdlNode :=
  IdlHead.fieldNodes self.fields ++
    self.variants.flatMap fun variant => IdlHead.fieldNodes variant.fields

end IdlTypeLayout

namespace LoadedIdl

variable (self : LoadedIdl)

/-- The kinds of values that a layout leads to. -/
def kinds (fields : List (String × TypeRef)) : List IdlNode :=
  .layout fields :: (layoutNodes fields ++
    self.definedTypes.values.flatMap IdlTypeLayout.nodes).flatMap IdlNode.inside

variable {self}

theorem exists_type_of_mem_fieldNodes {fields : List IdlFieldEntry} {node : IdlNode}
    (h : node ∈ IdlHead.fieldNodes fields) : ∃ ty, node = .type ty := by
  obtain ⟨entry, -, rfl⟩ := List.mem_map.mp h
  exact ⟨_, rfl⟩

theorem exists_type_of_mem_roots {fields : List (String × TypeRef)} {node : IdlNode}
    (h : node ∈ layoutNodes fields ++ self.definedTypes.values.flatMap IdlTypeLayout.nodes) :
    ∃ ty, node = .type ty := by
  rcases List.mem_append.mp h with hfield | hdefined
  · obtain ⟨field, -, rfl⟩ := List.mem_map.mp hfield
    exact ⟨_, rfl⟩
  · obtain ⟨layout, -, hnode⟩ := List.mem_flatMap.mp hdefined
    rcases List.mem_append.mp hnode with hstruct | hvariant
    · exact exists_type_of_mem_fieldNodes hstruct
    · obtain ⟨variant, -, hnode⟩ := List.mem_flatMap.mp hvariant
      exact exists_type_of_mem_fieldNodes hnode

theorem mem_kinds_of_root {fields : List (String × TypeRef)} {node : IdlNode}
    (h : node ∈ layoutNodes fields ++ self.definedTypes.values.flatMap IdlTypeLayout.nodes) :
    node ∈ self.kinds fields :=
  List.mem_cons_of_mem _ (List.mem_flatMap.mpr ⟨node, h, node.mem_inside_self⟩)

theorem mem_kinds_of_defined {fields : List (String × TypeRef)} {name : String}
    {layout : IdlTypeLayout} (hlayout : self.definedTypes.lookup name = some layout)
    {node : IdlNode} (h : node ∈ layout.nodes) : node ∈ self.kinds fields := by
  refine mem_kinds_of_root (List.mem_append_right _ (List.mem_flatMap.mpr ⟨layout, ?_, h⟩))
  exact (KeyedMap.mem_values_iff _ _).mpr ⟨name, hlayout⟩

/-- The types inside a kind are kinds. -/
theorem mem_kinds_of_subtype {fields : List (String × TypeRef)} {ty inner : TypeRef}
    (h : IdlNode.type (.ok ty) ∈ self.kinds fields) (hinner : inner ∈ ty.subtypes) :
    IdlNode.type (.ok inner) ∈ self.kinds fields := by
  rcases List.mem_cons.mp h with heq | hmem
  · cases heq
  · refine List.mem_cons_of_mem _ ?_
    obtain ⟨root, hroot, hinside⟩ := List.mem_flatMap.mp hmem
    refine List.mem_flatMap.mpr ⟨root, hroot, ?_⟩
    cases root with
    | layout fields => cases List.mem_singleton.mp hinside
    | type root =>
        cases root with
        | error e => cases List.mem_singleton.mp hinside
        | ok root =>
            obtain ⟨ty', hty, heq⟩ := List.mem_map.mp hinside
            cases heq
            exact List.mem_map_of_mem (TypeRef.subtypes_trans hinner hty)

/-- What a reader makes of its value is the head. -/
theorem exists_of_headBy {α : Type} {reader : Reader α} {make : α → IdlHead}
    {bytes rest : List UInt8} {head : IdlHead} (h : headBy reader make bytes = .ok (head, rest)) :
    ∃ value, head = make value := by
  rw [headBy] at h
  cases hread : reader bytes with
  | error e =>
      rw [hread] at h
      cases h
  | ok out =>
      rw [hread] at h
      cases h
      exact ⟨out.1, rfl⟩

theorem exists_of_enumHead {name : String} {variants : List IdlVariant}
    {bytes rest : List UInt8} {head : IdlHead}
    (h : enumHead name variants bytes = .ok (head, rest)) :
    ∃ variant ∈ variants, head = IdlHead.variant variant := by
  rw [enumHead] at h
  cases hread : Reader.unsigned 1 bytes with
  | error e =>
      rw [hread] at h
      cases h
  | ok out =>
      simp only [hread, bind, Except.bind] at h
      cases hvariant : variants[out.1]? with
      | none => simp [hvariant] at h
      | some variant =>
          simp only [hvariant, Except.ok.injEq, Prod.mk.injEq] at h
          exact ⟨variant, List.mem_of_getElem? hvariant, h.1.symm⟩

theorem parts_variant (variant : IdlVariant) {node : IdlNode}
    (h : node ∈ (IdlHead.variant variant).parts) : node ∈ IdlHead.fieldNodes variant.fields := by
  unfold IdlHead.variant at h
  by_cases hempty : variant.fields.isEmpty
  · simp [hempty, IdlHead.leaf] at h
  · simpa [hempty] using h

/-- The parts of a value of a type: the types inside it, or the fields of a named type. -/
theorem mem_parts_typeHead {ty : TypeRef} {bytes rest : List UInt8} {head : IdlHead}
    (h : self.typeHead ty bytes = .ok (head, rest)) {part : IdlNode} (hpart : part ∈ head.parts) :
    (∃ inner ∈ ty.subtypes, part = .type (.ok inner)) ∨
      ∃ name layout, self.definedTypes.lookup name = some layout ∧ part ∈ layout.nodes := by
  cases ty with
  | vec inner =>
      rw [typeHead] at h
      obtain ⟨len, rfl⟩ := exists_of_headBy h
      refine .inl ⟨inner, List.mem_cons_of_mem _ inner.mem_subtypes_self, ?_⟩
      exact List.eq_of_mem_replicate hpart
  | option inner =>
      rw [typeHead] at h
      obtain ⟨tag, rfl⟩ := exists_of_headBy h
      refine .inl ⟨inner, List.mem_cons_of_mem _ inner.mem_subtypes_self, ?_⟩
      by_cases htag : tag = 0
      · simp [htag, IdlHead.leaf] at hpart
      · simpa [htag] using hpart
  | array inner len =>
      cases h
      refine .inl ⟨inner, List.mem_cons_of_mem _ inner.mem_subtypes_self, ?_⟩
      exact List.eq_of_mem_replicate hpart
  | defined name =>
      simp only [typeHead] at h
      cases hlayout : self.definedTypes.lookup name with
      | none => simp [hlayout] at h
      | some layout =>
          refine .inr ⟨name, layout, hlayout, ?_⟩
          simp only [hlayout] at h
          by_cases hstruct : layout.kind = "struct"
          · rw [if_pos hstruct] at h
            cases h
            exact List.mem_append_left _ hpart
          · rw [if_neg hstruct] at h
            by_cases henum : layout.kind = "enum"
            · rw [if_pos henum] at h
              obtain ⟨variant, hvariant, rfl⟩ := exists_of_enumHead h
              exact List.mem_append_right _
                (List.mem_flatMap.mpr ⟨variant, hvariant, parts_variant variant hpart⟩)
            · rw [if_neg henum] at h
              cases h
  | _ =>
      rw [typeHead] at h
      obtain ⟨value, rfl⟩ := exists_of_headBy h
      cases hpart

theorem closedUnder_kinds (fields : List (String × TypeRef)) :
    self.grammar.ClosedUnder {node | node ∈ self.kinds fields} := by
  intro node hnode bytes head rest hhead part hpart
  change node ∈ self.kinds fields at hnode
  change part ∈ self.kinds fields
  cases node with
  | layout fields' =>
      rcases List.mem_cons.mp hnode with heq | hmem
      · cases heq
        cases hhead
        exact mem_kinds_of_root (List.mem_append_left _ hpart)
      · obtain ⟨root, hroot, hinside⟩ := List.mem_flatMap.mp hmem
        obtain ⟨ty, rfl⟩ := exists_type_of_mem_roots hroot
        cases ty with
        | error e => cases List.mem_singleton.mp hinside
        | ok ty =>
            obtain ⟨inner, -, heq⟩ := List.mem_map.mp hinside
            cases heq
  | type ty =>
      cases ty with
      | error e => cases hhead
      | ok ty =>
          rcases mem_parts_typeHead hhead hpart with ⟨inner, hinner, rfl⟩ | ⟨name, layout, h, hin⟩
          · exact mem_kinds_of_subtype hnode hinner
          · exact mem_kinds_of_defined h hin

/-! ## What a reading asks for -/

theorem unsigned_four (bytes : List UInt8) :
    Reader.unsigned 4 bytes =
      if bytes.length < 4 then .error (.decode "buffer underflow")
      else .ok (Encoding.littleEndian (bytes.take 4), bytes.drop 4) := by
  unfold Reader.unsigned Reader.fixed
  by_cases hshort : bytes.length < 4
  · rw [if_pos hshort, if_pos hshort]
    rfl
  · rw [if_neg hshort, if_neg hshort]
    rfl

/-- The count of a vec is asked for once it has been read. -/
theorem requestsAt_vec (inner : TypeRef) (bytes : List UInt8) :
    requestsAt (.type (.ok (.vec inner)), bytes) =
      if bytes.length < 4 then []
      else [{ capacity := Encoding.littleEndian (bytes.take 4)
              remaining := bytes.length - 4 }] := by
  rw [requestsAt, unsigned_four]
  by_cases hshort : bytes.length < 4
  · simp only [if_pos hshort]
  · simp only [if_neg hshort, List.length_drop]

theorem eq_vec_of_mem_requestsAt {place : IdlNode × List UInt8} {request : VecRequest}
    (h : request ∈ requestsAt place) : ∃ inner, place.1 = .type (.ok (.vec inner)) := by
  obtain ⟨node, bytes⟩ := place
  cases node with
  | layout fields => cases h
  | type ty =>
      cases ty with
      | error e => cases h
      | ok ty =>
          cases ty with
          | vec inner => exact ⟨inner, rfl⟩
          | _ => cases h

/-- The vecs at some places ask for no more than is left when their counts are covered. -/
theorem requests_covered_iff (visits : List (IdlNode × List UInt8)) :
    (∀ request ∈ visits.flatMap requestsAt, request.capacity ≤ request.remaining) ↔
      ∀ inner bytes, (IdlNode.type (.ok (.vec inner)), bytes) ∈ visits → 4 ≤ bytes.length →
        Encoding.littleEndian (bytes.take 4) ≤ bytes.length - 4 := by
  constructor
  · intro h inner bytes hvisit hlength
    refine h ⟨_, _⟩ (List.mem_flatMap.mpr ⟨_, hvisit, ?_⟩)
    rw [requestsAt_vec, if_neg hlength.not_gt]
    exact List.mem_singleton_self _
  · intro h request hrequest
    obtain ⟨⟨node, bytes⟩, hvisit, hmem⟩ := List.mem_flatMap.mp hrequest
    obtain ⟨inner, hnode⟩ := eq_vec_of_mem_requestsAt hmem
    obtain rfl : node = .type (.ok (.vec inner)) := hnode
    rw [requestsAt_vec] at hmem
    by_cases hshort : bytes.length < 4
    · rw [if_pos hshort] at hmem
      cases hmem
    · rw [if_neg hshort] at hmem
      rw [List.mem_singleton.mp hmem]
      exact h inner bytes hvisit (by omega)

/-! ## Layouts -/

theorem read_layout (depth : ℕ) (fields : List (String × TypeRef)) (bytes : List UInt8) :
    self.grammar.read (depth + 1) (.layout fields) bytes =
      (readList (self.grammar.read depth) (layoutNodes fields) bytes).map fun out =>
        ((.layout fields, bytes) :: out.1, out.2.map fun read =>
          (JsonValue.object ((fields.map Prod.fst).zip read.1), read.2)) := by
  have hhead : self.grammar.head (.layout fields) bytes =
      .ok ({ parts := layoutNodes fields
             build := fun values => .object ((fields.map Prod.fst).zip values) }, bytes) := rfl
  exact self.grammar.read_of_ok hhead depth

/-- Decoding the fields of a layout returns when reading the layout ends, and it asks for what
the places of that reading ask for. -/
theorem exists_decodeFieldsWithin_iff (fields : List (String × TypeRef)) (bytes : List UInt8)
    (depth : ℕ) (requests : List VecRequest) :
    (∃ result, self.decodeFieldsWithin depth fields bytes = some (requests, result)) ↔
      ∃ visits result, self.grammar.read (depth + 1) (.layout fields) bytes =
        some (visits, result) ∧ requests = visits.flatMap requestsAt := by
  rw [decodeFieldsWithin, decodeLayoutWithin_eq, read_layout]
  cases readList (self.grammar.read depth) (layoutNodes fields) bytes with
  | none => simp [placed]
  | some out =>
      obtain ⟨visits, result⟩ := out
      constructor
      · rintro ⟨result', h⟩
        simp only [placed, Option.map_some, Option.some.injEq, Prod.mk.injEq] at h
        exact ⟨_, _, rfl, h.1.symm⟩
      · rintro ⟨visits', result', h, rfl⟩
        simp only [Option.map_some, Option.some.injEq, Prod.mk.injEq] at h
        obtain ⟨rfl, -⟩ := h
        exact ⟨_, rfl⟩

/-- Nothing that a place leads to is entered again where it stands, and every vec there has a
count of no more than the bytes behind it. -/
structure Guarded (idl : LoadedIdl) (place : IdlNode × List UInt8) : Prop where
  descends : ∀ place', Relation.ReflTransGen idl.grammar.Enters place place' →
    ¬ Relation.TransGen idl.grammar.Enters place' place'
  covered : ∀ inner bytes, Relation.ReflTransGen idl.grammar.Enters place
    (.type (.ok (.vec inner)), bytes) → 4 ≤ bytes.length →
      Encoding.littleEndian (bytes.take 4) ≤ bytes.length - 4

/-- A call returns, and it asks for no more than is left. -/
def Bounded {α : Type} (within : ℕ → Option (List VecRequest × Except IdlError α)) : Prop :=
  ∃ depth requests result, within depth = some (requests, result) ∧
    ∀ request ∈ requests, request.capacity ≤ request.remaining

theorem bounded_fields_iff (fields : List (String × TypeRef)) (bytes : List UInt8) :
    Bounded (fun depth => self.decodeFieldsWithin depth fields bytes) ↔
      self.Guarded (.layout fields, bytes) := by
  have hplace : (IdlNode.layout fields, bytes).1 ∈ {node | node ∈ self.kinds fields} :=
    List.mem_cons_self
  have hends := self.delimited_grammar.ends_iff (List.finite_toSet (self.kinds fields))
    (closedUnder_kinds fields) hplace
  constructor
  · rintro ⟨depth, requests, result, hreturn, hcovered⟩
    obtain ⟨visits, read, hread, rfl⟩ :=
      (exists_decodeFieldsWithin_iff fields bytes depth requests).mp ⟨result, hreturn⟩
    refine ⟨hends.mp ⟨depth + 1, by simp only [hread, Option.isSome_some]⟩,
      fun inner bytes' hreach => ?_⟩
    refine (requests_covered_iff visits).mp hcovered inner bytes' ?_
    exact (self.delimited_grammar.mem_visits_iff hread _).mpr hreach
  · intro hguarded
    obtain ⟨depth, hdepth⟩ := hends.mpr hguarded.descends
    obtain ⟨⟨visits, read⟩, hread⟩ := Option.isSome_iff_exists.mp hdepth
    cases depth with
    | zero => cases hread
    | succ depth =>
        obtain ⟨result, hreturn⟩ :=
          (exists_decodeFieldsWithin_iff fields bytes depth _).mpr ⟨visits, read, hread, rfl⟩
        refine ⟨depth, _, result, hreturn, (requests_covered_iff visits).mpr ?_⟩
        intro inner bytes' hvisit
        exact hguarded.covered inner bytes'
          ((self.delimited_grammar.mem_visits_iff hread _).mp hvisit)

/-! ## Instructions and accounts -/

/-- `decode_instruction` returns, and it asks for no more than is left. -/
def InstructionBounded (self : LoadedIdl) (data : List UInt8) : Prop :=
  Bounded fun depth => self.decodeInstructionWithin depth data

/-- `decode_account` returns, and it asks for no more than is left. -/
def AccountBounded (self : LoadedIdl) (data : List UInt8) : Prop :=
  Bounded fun depth => self.decodeAccountWithin depth data

/-- The arguments that stand behind a known discriminator are guarded. -/
def InstructionGuarded (self : LoadedIdl) (data : List UInt8) : Prop :=
  ∀ layout, 8 ≤ data.length → self.instructionMap.lookup (data.take 8) = some layout →
    self.Guarded (.layout layout.args, data.drop 8)

/-- The fields that stand behind a known discriminator are guarded. -/
def AccountGuarded (self : LoadedIdl) (data : List UInt8) : Prop :=
  ∀ layout, 8 ≤ data.length → self.accountMap.lookup (data.take 8) = some layout →
    self.Guarded (.layout layout.fields, data.drop 8)

/-- What is made of the result changes nothing about what is asked for. -/
theorem bounded_map_iff {α β : Type} {within : ℕ → Option (List VecRequest × Except IdlError α)}
    (f : Except IdlError α → Except IdlError β) :
    Bounded (fun depth => (within depth).map fun out => (out.1, f out.2)) ↔ Bounded within := by
  constructor
  · rintro ⟨depth, requests, result, hreturn, hcovered⟩
    obtain ⟨⟨requests', result'⟩, hwithin, heq⟩ := Option.map_eq_some_iff.mp hreturn
    cases heq
    exact ⟨depth, _, result', hwithin, hcovered⟩
  · rintro ⟨depth, requests, result, hreturn, hcovered⟩
    exact ⟨depth, requests, f result, by simp only [hreturn, Option.map_some], hcovered⟩

theorem instructionBounded_iff (data : List UInt8) :
    self.InstructionBounded data ↔ self.InstructionGuarded data := by
  by_cases hknown : data.length < 8 ∨ self.instructionMap.lookup (data.take 8) = none
  · obtain ⟨decoded, hreturn, -⟩ := decodeInstructionWithin_of_unknown hknown
    refine ⟨fun _ layout hlength hlayout => ?_, fun _ => ⟨0, [], _, hreturn 0, by simp⟩⟩
    rcases hknown with hshort | hnone
    · omega
    · rw [hnone] at hlayout
      cases hlayout
  · rw [not_or, not_lt] at hknown
    obtain ⟨hlength, hlayout⟩ := hknown
    obtain ⟨layout, hlayout⟩ := Option.ne_none_iff_exists'.mp hlayout
    unfold InstructionBounded InstructionGuarded
    simp only [decodeInstructionWithin_of_layout hlength hlayout, bounded_map_iff,
      bounded_fields_iff]
    simp [hlength, hlayout]

theorem accountBounded_iff (data : List UInt8) :
    self.AccountBounded data ↔ self.AccountGuarded data := by
  by_cases hknown : data.length < 8 ∨ self.accountMap.lookup (data.take 8) = none
  · obtain ⟨decoded, hreturn, -⟩ := decodeAccountWithin_of_unknown hknown
    refine ⟨fun _ layout hlength hlayout => ?_, fun _ => ⟨0, [], _, hreturn 0, by simp⟩⟩
    rcases hknown with hshort | hnone
    · omega
    · rw [hnone] at hlayout
      cases hlayout
  · rw [not_or, not_lt] at hknown
    obtain ⟨hlength, hlayout⟩ := hknown
    obtain ⟨layout, hlayout⟩ := Option.ne_none_iff_exists'.mp hlayout
    unfold AccountBounded AccountGuarded
    simp only [decodeAccountWithin_of_layout hlength hlayout, bounded_map_iff,
      bounded_fields_iff]
    simp [hlength, hlayout]

/-- Decoding returns and asks for no more than is left exactly when no type is entered again
where it stands and no vec has a larger count than the bytes behind it. -/
theorem decoding_bounded_iff (self : LoadedIdl) (data : List UInt8) :
    (self.InstructionBounded data ↔ self.InstructionGuarded data) ∧
      (self.AccountBounded data ↔ self.AccountGuarded data) :=
  ⟨instructionBounded_iff data, accountBounded_iff data⟩

/-! ## A type that contains itself, and a count without items -/

/-- An instruction with one argument. -/
def oneArgument (ty : JsonValue) (types : List IdlDocument.TypeDefinition) : IdlDocument where
  name := "pump"
  instructions := [{ name := "ping", discriminator := some [1, 2, 3, 4, 5, 6, 7, 8]
                     args := [{ name := "arg", ty }] }]
  types := types

/-- The argument is a struct whose one field is the struct again. -/
def loopDocument : IdlDocument :=
  oneArgument (.object [("defined", .string "A")])
    [{ name := "A", ty := { kind := "struct", fields := [.named
      { name := "a", ty := .object [("defined", .string "A")] }] } }]

/-- The argument is a vec of bytes. -/
def countDocument : IdlDocument := oneArgument (.object [("vec", .string "u8")]) []

def oneArgumentIdl (ty : TypeRef) (definedTypes : KeyedMap String IdlTypeLayout) : LoadedIdl where
  instructionMap := (∅ : KeyedMap (List UInt8) LoadedInstruction).insert [1, 2, 3, 4, 5, 6, 7, 8]
    { name := "ping", accounts := [], args := [("arg", ty)] }
  accountMap := ∅
  definedTypes := definedTypes
  depth := 0

def loopIdl : LoadedIdl :=
  oneArgumentIdl (.defined "A") ((∅ : KeyedMap String IdlTypeLayout).insert "A"
    { kind := "struct", fields := [.named { name := "a", ty := .ok (.defined "A") }] })

def countIdl : LoadedIdl := oneArgumentIdl (.vec .u8) ∅

theorem parse_loop : TypeRef.parse (.object [("defined", .string "A")]) = .ok (.defined "A") := by
  simp [TypeRef.parse, TypeRef.definedName, List.lookup_cons]

theorem parse_count : TypeRef.parse (.object [("vec", .string "u8")]) = .ok (.vec .u8) := by
  simp [TypeRef.parse, TypeRef.primitive, List.lookup_cons, Except.map]

theorem load_oneArgument {ty : JsonValue} {parsed : TypeRef} (h : TypeRef.parse ty = .ok parsed)
    (types : List IdlDocument.TypeDefinition) :
    LoadedIdl.load "pump.json" 0 (oneArgument ty types) =
      .ok (oneArgumentIdl parsed (IdlDocument.definedTypes types)) := by
  have hpump : ¬ trimText (oneArgument ty types).name = "" := by
    change ¬ trimText "pump" = ""
    decide
  have hname : ¬ trimText (oneArgument ty types).withMetadata.name = "" := by
    rw [IdlDocument.withMetadata]
    simpa only [if_neg hpump] using hpump
  have hargs : [({ name := "arg", ty } : IdlDocument.Field)].mapM (fun field => do
      let ty ← TypeRef.parse field.ty
      (.ok (field.name, ty) : Except IdlError _)) = .ok [("arg", parsed)] := by
    simp [h, bind, Except.bind, pure, Except.pure]
  have hround : (oneArgument ty types).instructions.foldlM IdlDocument.loadInstruction ∅ =
      .ok (oneArgumentIdl parsed ∅).instructionMap := by
    simp only [oneArgument, List.foldlM_cons, List.foldlM_nil, IdlDocument.loadInstruction, hargs]
    rfl
  rw [LoadedIdl.load]
  simp only [if_neg hname]
  change (do
    let instructionMap ← (oneArgument ty types).instructions.foldlM IdlDocument.loadInstruction ∅
    .ok { oneArgumentIdl parsed (IdlDocument.definedTypes types) with instructionMap }) = _
  rw [hround]
  rfl

theorem load_loop : LoadedIdl.load "pump.json" 0 loopDocument = .ok loopIdl := by
  rw [loopDocument, load_oneArgument parse_loop]
  simp only [IdlDocument.definedTypes, List.foldl, IdlDocument.TypeLayout.parsed, List.map,
    IdlDocument.FieldEntry.parsed, IdlDocument.Field.parsed, parse_loop]
  rfl

theorem load_count : LoadedIdl.load "pump.json" 0 countDocument = .ok countIdl :=
  load_oneArgument parse_count []

/-- The struct is entered at every depth, and it never ends. -/
theorem decodeTypeWithin_loop (depth : ℕ) (cursor : Cursor) :
    loopIdl.decodeTypeWithin depth (.defined "A") cursor = none := by
  induction depth with
  | zero => rfl
  | succ depth ih =>
      change (Decoder.forEach (decodeField depth (loopIdl.decodeTypeWithin depth))
        [(.named { name := "a", ty := .ok (.defined "A") }, 0)] >>=
          fun map => pure (JsonValue.object map)) cursor = none
      cases depth with
      | zero => rfl
      | succ depth =>
          have hfield : (decodeField (depth + 1) (loopIdl.decodeTypeWithin (depth + 1)))
              (.named { name := "a", ty := .ok (.defined "A") }, 0) cursor = none := by
            change (loopIdl.decodeTypeWithin (depth + 1) (.defined "A") >>=
              fun value => pure ("a", value)) cursor = none
            rw [Decoder.andThen_pure, ih]
            rfl
          rw [Decoder.andThen_pure, Decoder.forEach, Decoder.bind_eq, Decoder.andThen, hfield]
          rfl

theorem decodeInstructionWithin_loop (depth : ℕ) :
    loopIdl.decodeInstructionWithin depth [1, 2, 3, 4, 5, 6, 7, 8] = none := by
  change ((((loopIdl.decodeTypeWithin depth (.defined "A") >>= fun value => pure ("arg", value)) >>=
    fun value => Decoder.forEach _ [] >>= fun values => pure (value :: values))
      (Cursor.new [])).map _).map _ = none
  have hfield : (loopIdl.decodeTypeWithin depth (.defined "A") >>=
      fun value => pure ("arg", value)) (Cursor.new []) = none := by
    rw [Decoder.andThen_pure, decodeTypeWithin_loop]
    rfl
  rw [Decoder.bind_eq, Decoder.andThen, hfield]
  rfl

/-- A vec whose first item does not decode, after its count has been asked for. -/
theorem decode_vec_of_error {idl : LoadedIdl} {depth count : ℕ} {inner : TypeRef}
    {cursor middle : Cursor} {e : IdlError}
    (hcount : cursor.readUnsigned 4 = .ok (count + 1, middle))
    (hitem : idl.decodeTypeWithin depth inner middle = some ([], .error e)) :
    idl.decodeTypeWithin (depth + 1) (.vec inner) cursor =
      some ([{ capacity := count + 1, remaining := middle.data.length - middle.offset }],
        .error e) := by
  have hread : Decoder.read (·.readUnsigned 4) cursor = some ([], .ok (count + 1, middle)) :=
    congrArg (fun result => some ([], result)) hcount
  have hitems : Decoder.forEach (fun _ => idl.decodeTypeWithin depth inner)
      (List.range (count + 1)) middle = some ([], .error e) := by
    rw [List.range_succ_eq_map]
    exact Decoder.andThen_of_error hitem _
  change (Decoder.read (·.readUnsigned 4) >>= fun len => Decoder.withCapacity len >>= fun _ =>
    Decoder.forEach (fun _ => idl.decodeTypeWithin depth inner) (List.range len) >>=
      fun out => pure (JsonValue.array out)) cursor = _
  rw [Decoder.andThen_of_ok hread, Decoder.bind_eq, Decoder.andThen, Decoder.withCapacity]
  simp only
  rw [Decoder.andThen_of_error hitems]
  rfl

/-- Four bytes make the code ask for room for four billion items. -/
theorem decodeInstructionWithin_count :
    countIdl.decodeInstructionWithin 2 [1, 2, 3, 4, 5, 6, 7, 8, 255, 255, 255, 255] =
      some ([{ capacity := 4294967295, remaining := 0 }],
        .error (.decode "buffer underflow")) := by
  have hcount : (Cursor.new [255, 255, 255, 255]).readUnsigned 4 =
      .ok (4294967294 + 1, { data := [255, 255, 255, 255], offset := 4 }) := rfl
  have hvec : countIdl.decodeTypeWithin 2 (.vec .u8) (Cursor.new [255, 255, 255, 255]) =
      some ([{ capacity := 4294967294 + 1, remaining := 0 }],
        .error (.decode "buffer underflow")) :=
    decode_vec_of_error hcount rfl
  have hfield : (countIdl.decodeTypeWithin 2 (.vec .u8) >>= fun value => pure ("arg", value))
      (Cursor.new [255, 255, 255, 255]) =
        some ([{ capacity := 4294967294 + 1, remaining := 0 }],
          .error (.decode "buffer underflow")) :=
    Decoder.andThen_of_error hvec _
  have hfields : countIdl.decodeFieldsWithin 2 [("arg", .vec .u8)] [255, 255, 255, 255] =
      some ([{ capacity := 4294967294 + 1, remaining := 0 }],
        .error (.decode "buffer underflow")) := by
    rw [decodeFieldsWithin, decodeLayoutWithin, Decoder.forEach, Decoder.andThen_of_error hfield]
    rfl
  have hlayout : countIdl.instructionMap.lookup
      ([1, 2, 3, 4, 5, 6, 7, 8, 255, 255, 255, 255].take 8) =
        some { name := "ping", accounts := [], args := [("arg", .vec .u8)] } := rfl
  rw [decodeInstructionWithin_of_layout (by decide) hlayout]
  change (countIdl.decodeFieldsWithin 2 [("arg", .vec .u8)] [255, 255, 255, 255]).map _ = _
  rw [hfields]
  rfl

/-- Two documents that load: the decoding of one never ends, and that of the other asks for more
than is left. -/
theorem decoding_unbounded :
    LoadedIdl.load "pump.json" 0 loopDocument = .ok loopIdl ∧
      ¬ loopIdl.InstructionBounded [1, 2, 3, 4, 5, 6, 7, 8] ∧
    LoadedIdl.load "pump.json" 0 countDocument = .ok countIdl ∧
      ¬ countIdl.InstructionBounded [1, 2, 3, 4, 5, 6, 7, 8, 255, 255, 255, 255] := by
  refine ⟨load_loop, ?_, load_count, ?_⟩
  · rintro ⟨depth, requests, result, hreturn, -⟩
    simp only [decodeInstructionWithin_loop] at hreturn
    cases hreturn
  · rintro ⟨depth, requests, result, hreturn, hcovered⟩
    have hsame := (decodeInstructionWithin_mono (le_max_left depth 2) hreturn).symm.trans
      (decodeInstructionWithin_mono (le_max_right depth 2) decodeInstructionWithin_count)
    rw [Option.some.injEq, Prod.mk.injEq] at hsame
    obtain ⟨rfl, -⟩ := hsame
    have hle := hcovered _ (List.mem_singleton_self _)
    simp at hle

end LoadedIdl

end PumpLaunchTrader
