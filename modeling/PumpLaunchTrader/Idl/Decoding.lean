import PumpLaunchTrader.Idl.Format

/-! # Decoding reads the format

`decode_type`, followed to a depth, returns what a reading of the format returns at the same
depth, with the cursor behind what was read, and it asks for the count of every vec that the
reading visits. -/

namespace PumpLaunchTrader

open SelfDelimiting TopDown

/-- What is asked for at a place: at a vec, its count. -/
def requestsAt : IdlNode × List UInt8 → List VecRequest
  | (.type (.ok (.vec _)), bytes) =>
    match Reader.unsigned 4 bytes with
    | .ok (len, rest) => [{ capacity := len, remaining := rest.length }]
    | .error _ => []
  | _ => []

/-- A reading of the format, as a decoding of data. -/
def placed {α β : Type} (data : List UInt8) (f : α → β)
    (out : Outcome IdlNode UInt8 IdlError α) :
    Option (List VecRequest × Except IdlError (β × Cursor)) :=
  out.map fun out =>
    (out.1.flatMap requestsAt, out.2.map fun read => (f read.1, Cursor.before data read.2))

theorem Cursor.new_eq_before (data : List UInt8) : Cursor.new data = Cursor.before data data := by
  simp [Cursor.new, Cursor.before]

namespace Decoder

variable {α β : Type}

theorem pure_eq (value : α) (cursor : Cursor) :
    (pure value : Decoder α) cursor = some ([], .ok (value, cursor)) := rfl

theorem bind_eq (first : Decoder α) (next : α → Decoder β) (cursor : Cursor) :
    (first >>= next) cursor = first.andThen next cursor := rfl

theorem read_eq (step : Cursor → Except IdlError (α × Cursor)) (cursor : Cursor) :
    read step cursor = some ([], step cursor) := rfl

theorem andThen_of_ok {first : Decoder α} {cursor middle : Cursor} {value : α}
    (h : first cursor = some ([], .ok (value, middle))) (next : α → Decoder β) :
    (first >>= next) cursor = next value middle := by
  rw [bind_eq, andThen, h]
  simp

theorem andThen_of_error {first : Decoder α} {cursor : Cursor} {requests : List VecRequest}
    {e : IdlError} (h : first cursor = some (requests, .error e)) (next : α → Decoder β) :
    (first >>= next) cursor = some (requests, .error e) := by
  rw [bind_eq, andThen, h]

theorem andThen_pure (first : Decoder α) (f : α → β) (cursor : Cursor) :
    (first >>= fun value => pure (f value)) cursor =
      (first cursor).map fun out => (out.1, out.2.map fun read => (f read.1, read.2)) := by
  rw [bind_eq, andThen]
  cases first cursor with
  | none => rfl
  | some out =>
      obtain ⟨requests, result⟩ := out
      cases result with
      | error e => rfl
      | ok read => simp [pure_eq, Except.map]

end Decoder

/-- The value of a reading of the format may be turned into another. -/
theorem map_placed {α β γ : Type} (data : List UInt8) (f : α → β) (g : β → γ)
    (out : Outcome IdlNode UInt8 IdlError α) :
    ((placed data f out).map fun out => (out.1, out.2.map fun read => (g read.1, read.2))) =
      placed data (g ∘ f) out := by
  cases out with
  | none => rfl
  | some out =>
      obtain ⟨visits, result⟩ := out
      cases result with
      | error e => rfl
      | ok read => rfl

/-- What a reading makes of data stays when it is followed deeper. -/
theorem placed_mono {α β : Type} {data : List UInt8} {f : α → β}
    {out out' : Outcome IdlNode UInt8 IdlError α} (h : ∀ r, out = some r → out' = some r)
    {result : List VecRequest × Except IdlError (β × Cursor)}
    (hresult : placed data f out = some result) : placed data f out' = some result := by
  cases hout : out with
  | none =>
      rw [hout] at hresult
      cases hresult
  | some r =>
      rw [h r hout]
      rwa [hout] at hresult

theorem placed_congr {α β : Type} (data : List UInt8) {f g : α → β}
    {out : Outcome IdlNode UInt8 IdlError α}
    (h : ∀ visits value rest, out = some (visits, .ok (value, rest)) → f value = g value) :
    placed data f out = placed data g out := by
  cases out with
  | none => rfl
  | some out =>
      obtain ⟨visits, result⟩ := out
      cases result with
      | error e => rfl
      | ok read => simp [placed, Except.map, h visits read.1 read.2 rfl]

/-- Loops read lists: what one round makes of each item is what the reading makes of its node. -/
theorem forEach_eq {ι α : Type} {body : ι → Decoder α} {node : ι → IdlNode}
    {f : ι → JsonValue → α} {read : IdlNode → List UInt8 → Outcome IdlNode UInt8 IdlError JsonValue}
    (hread : ∀ node, Delimits (ofOutcome (read node))) {data : List UInt8}
    (hbody : ∀ item rest, rest <:+ data →
      body item (Cursor.before data rest) = placed data (f item) (read (node item) rest))
    (items : List ι) {rest : List UInt8} (hrest : rest <:+ data) :
    Decoder.forEach body items (Cursor.before data rest) =
      placed data (List.zipWith f items) (readList read (items.map node) rest) := by
  induction items generalizing rest with
  | nil => rfl
  | cons item items ih =>
      rw [Decoder.forEach, List.map_cons, readList_cons, Decoder.bind_eq, Decoder.andThen,
        hbody item rest hrest]
      cases hout : read (node item) rest with
      | none => rfl
      | some out =>
          obtain ⟨visits, result⟩ := out
          cases result with
          | error e => rfl
          | ok out =>
              obtain ⟨value, middle⟩ := out
              obtain ⟨taken, rfl, -⟩ := hread (node item) rest value middle ⟨visits, hout⟩
              have hmiddle := (List.suffix_append taken middle).trans hrest
              simp only [placed, Option.map_some, Except.map, Outcome.some_andThen]
              rw [Decoder.andThen_pure, ih hmiddle]
              cases readList read (items.map node) middle with
              | none => rfl
              | some more =>
                  obtain ⟨others, last⟩ := more
                  cases last with
                  | error e => simp [placed, Except.map]
                  | ok read => simp [placed, Except.map]

namespace LoadedIdl

variable (self : LoadedIdl)

/-- Decoding a value that is all head. -/
theorem decode_leaf {α : Type} {step : Cursor → Except IdlError (α × Cursor)} {reader : Reader α}
    (hstep : Cursor.Follows step reader) {ty : TypeRef} {f : α → JsonValue}
    (hhead : self.typeHead ty = headBy reader fun value => IdlHead.leaf (f value))
    (hnone : ∀ bytes, requestsAt (.type (.ok ty), bytes) = []) (depth : ℕ)
    {data rest : List UInt8} (hrest : rest <:+ data) :
    (Decoder.read step >>= fun value => pure (f value)) (Cursor.before data rest) =
      placed data id (self.grammar.read (depth + 1) (.type (.ok ty)) rest) := by
  rw [Decoder.andThen_pure, Decoder.read_eq, hstep data rest hrest]
  cases hread : reader rest with
  | error e =>
      have herror : self.grammar.head (.type (.ok ty)) rest = .error e := by
        change self.typeHead ty rest = _
        rw [hhead, headBy, hread]
        rfl
      rw [self.grammar.read_of_error herror]
      simp [placed, hnone, Except.map]
  | ok out =>
      have hok : self.grammar.head (.type (.ok ty)) rest = .ok (IdlHead.leaf (f out.1), out.2) := by
        change self.typeHead ty rest = _
        rw [hhead, headBy, hread]
        rfl
      rw [self.grammar.read_of_ok hok]
      simp [placed, hnone, Except.map, IdlHead.leaf, readList, Outcome.done]

/-- Reading a value whose head has been read: its parts are left. -/
theorem placed_read_of_ok {node : IdlNode} {rest rest' : List UInt8} {head : IdlHead}
    (h : self.grammar.head node rest = .ok (head, rest')) (depth : ℕ) (data : List UInt8) :
    placed data id (self.grammar.read (depth + 1) node rest) =
      (placed data head.build (readList (self.grammar.read depth) head.parts rest')).map fun out =>
        (requestsAt (node, rest) ++ out.1, out.2) := by
  rw [self.grammar.read_of_ok h]
  cases readList (self.grammar.read depth) head.parts rest' with
  | none => rfl
  | some out =>
      obtain ⟨visits, result⟩ := out
      cases result with
      | error e => rfl
      | ok read => rfl

theorem zipWith_snd {α β : Type} {xs : List α} {ys : List β} (h : ys.length = xs.length) :
    List.zipWith (fun _ y => y) xs ys = ys := by
  induction xs generalizing ys with
  | nil => exact (List.length_eq_zero_iff.mp h).symm
  | cons x xs ih =>
      cases ys with
      | nil => simp at h
      | cons y ys =>
          rw [List.zipWith_cons_cons, ih (by simpa using h)]

theorem read_before {α : Type} {step : Cursor → Except IdlError (α × Cursor)}
    {reader : Reader α} (hstep : Cursor.Follows step reader) {data rest : List UInt8}
    (hrest : rest <:+ data) {result : Except IdlError (α × List UInt8)}
    (hread : reader rest = result) :
    Decoder.read step (Cursor.before data rest) =
      some ([], result.map fun out => (out.1, Cursor.before data out.2)) := by
  rw [Decoder.read_eq, hstep data rest hrest, hread]

theorem remaining_before {data rest : List UInt8} (h : rest <:+ data) :
    (Cursor.before data rest).data.length - (Cursor.before data rest).offset = rest.length := by
  have hle := h.length_le
  simp only [Cursor.before]
  omega

theorem map_append_nil {α : Type}
    (out : Option (List VecRequest × Except IdlError (α × Cursor))) :
    (out.map fun out => ([] ++ out.1, out.2)) = out := by
  cases out with
  | none => rfl
  | some out => rfl

/-- A list of one value. -/
theorem placed_singleton {depth : ℕ} (node : IdlNode) (data rest : List UInt8)
    (default : JsonValue) :
    placed data (fun values => values.headD default)
      (readList (self.grammar.read depth) [node] rest) =
      placed data id (self.grammar.read depth node rest) := by
  rw [readList_cons]
  cases self.grammar.read depth node rest with
  | none => rfl
  | some out =>
      obtain ⟨visits, result⟩ := out
      cases result with
      | error e => rfl
      | ok read => simp [placed, readList, Outcome.done, Outcome.andThen, Except.map]

theorem fieldNames_length (fields : List IdlFieldEntry) :
    (IdlHead.fieldNames fields).length = (IdlHead.fieldNodes fields).length := by
  simp [IdlHead.fieldNames, IdlHead.fieldNodes]

/-- `decode_type`, followed to a depth, reads the format at that depth. -/
def Decodes (depth : ℕ) (data : List UInt8) : Prop :=
  ∀ ty rest, rest <:+ data → self.decodeTypeWithin depth ty (Cursor.before data rest) =
    placed data id (self.grammar.read depth (.type (.ok ty)) rest)

section Step

variable {self} {depth : ℕ} {data : List UInt8} (h : self.Decodes depth data)
include h

/-- The loop over the items of a vec or an array. -/
theorem Decodes.forEach_items (inner : TypeRef) (len : ℕ) {rest : List UInt8}
    (hrest : rest <:+ data) :
    Decoder.forEach (fun _ => self.decodeTypeWithin depth inner) (List.range len)
      (Cursor.before data rest) =
      placed data id (readList (self.grammar.read depth)
        (List.replicate len (.type (.ok inner))) rest) := by
  have hnodes : (List.range len).map (fun _ => IdlNode.type (.ok inner)) =
      List.replicate len (.type (.ok inner)) := by simp
  rw [forEach_eq (f := fun _ value => value) (self.delimited_grammar.read depth)
    (fun _ rest hrest => h inner rest hrest) (List.range len) hrest, hnodes]
  refine placed_congr data fun visits values rest hread => ?_
  exact zipWith_snd ((length_of_readList hread).trans (by simp))

/-- The loop over the fields of a struct or a variant. -/
theorem Decodes.forEach_fields (fields : List IdlFieldEntry) {rest : List UInt8}
    (hrest : rest <:+ data) :
    Decoder.forEach (decodeField depth (self.decodeTypeWithin depth)) fields.zipIdx
      (Cursor.before data rest) =
      placed data (fun values => (IdlHead.fieldNames fields).zip values)
        (readList (self.grammar.read depth) (IdlHead.fieldNodes fields) rest) := by
  have hbody : ∀ (entry : IdlFieldEntry × ℕ) (rest : List UInt8), rest <:+ data →
      decodeField depth (self.decodeTypeWithin depth) entry (Cursor.before data rest) =
        placed data (fun value => ((normalizedField entry.1 entry.2).name, value))
          (self.grammar.read depth (.type (normalizedField entry.1 entry.2).ty) rest) := by
    intro entry rest hrest
    cases depth with
    | zero => rfl
    | succ depth =>
        simp only [decodeField]
        cases hty : (normalizedField entry.1 entry.2).ty with
        | error e =>
            have herror : self.grammar.head (.type (.error e)) rest = .error e := rfl
            rw [self.grammar.read_of_error herror]
            rfl
        | ok ty =>
            simp only
            rw [Decoder.andThen_pure, h ty rest hrest, map_placed]
            rfl
  rw [forEach_eq (self.delimited_grammar.read depth) hbody fields.zipIdx hrest]
  congr 1
  funext values
  rw [IdlHead.fieldNames, List.zip_map_left, List.zip, List.map_zipWith]
  rfl

/-- A vec asks for its count before it reads its items. -/
theorem Decodes.vec (inner : TypeRef) {rest : List UInt8} (hrest : rest <:+ data) :
    self.decodeTypeWithin (depth + 1) (.vec inner) (Cursor.before data rest) =
      placed data id (self.grammar.read (depth + 1) (.type (.ok (.vec inner))) rest) := by
  change (Decoder.read (·.readUnsigned 4) >>= fun len => Decoder.withCapacity len >>= fun _ =>
    Decoder.forEach (fun _ => self.decodeTypeWithin depth inner) (List.range len) >>=
      fun out => pure (JsonValue.array out)) _ = _
  cases hread : Reader.unsigned 4 rest with
  | error e =>
      have herror : self.grammar.head (.type (.ok (.vec inner))) rest = .error e := by
        change self.typeHead (.vec inner) rest = _
        rw [typeHead, headBy, hread]
        rfl
      rw [Decoder.andThen_of_error (read_before (Cursor.follows_unsigned 4) hrest hread),
        self.grammar.read_of_error herror]
      simp [placed, requestsAt, hread, Except.map]
  | ok out =>
      obtain ⟨len, middle⟩ := out
      have hmiddle := (Cursor.suffix_of_read (Reader.delimits_unsigned 4) hread).trans hrest
      have hhead : self.grammar.head (.type (.ok (.vec inner))) rest =
          .ok (IdlHead.items len inner, middle) := by
        change self.typeHead (.vec inner) rest = _
        rw [typeHead, headBy, hread]
        rfl
      rw [Decoder.andThen_of_ok (read_before (Cursor.follows_unsigned 4) hrest hread),
        self.placed_read_of_ok hhead, Decoder.bind_eq, Decoder.andThen, Decoder.withCapacity]
      simp only [remaining_before hmiddle]
      rw [Decoder.andThen_pure, h.forEach_items inner len hmiddle, map_placed]
      simp only [requestsAt, hread]
      rfl

/-- An option is its tag, and what it holds behind a tag that is not zero. -/
theorem Decodes.option (inner : TypeRef) {rest : List UInt8} (hrest : rest <:+ data) :
    self.decodeTypeWithin (depth + 1) (.option inner) (Cursor.before data rest) =
      placed data id (self.grammar.read (depth + 1) (.type (.ok (.option inner))) rest) := by
  change (Decoder.read (·.readUnsigned 1) >>= fun tag =>
    if tag = 0 then pure JsonValue.null else self.decodeTypeWithin depth inner) _ = _
  cases hread : Reader.unsigned 1 rest with
  | error e =>
      have herror : self.grammar.head (.type (.ok (.option inner))) rest = .error e := by
        change self.typeHead (.option inner) rest = _
        rw [typeHead, headBy, hread]
        rfl
      rw [Decoder.andThen_of_error (read_before (Cursor.follows_unsigned 1) hrest hread),
        self.grammar.read_of_error herror]
      rfl
  | ok out =>
      obtain ⟨tag, middle⟩ := out
      have hmiddle := (Cursor.suffix_of_read (Reader.delimits_unsigned 1) hread).trans hrest
      rw [Decoder.andThen_of_ok (read_before (Cursor.follows_unsigned 1) hrest hread)]
      by_cases htag : tag = 0
      · have hhead : self.grammar.head (.type (.ok (.option inner))) rest =
            .ok (IdlHead.leaf .null, middle) := by
          change self.typeHead (.option inner) rest = _
          rw [typeHead, headBy, hread]
          simp [htag, bind, Except.bind]
        rw [if_pos htag, self.placed_read_of_ok hhead]
        rfl
      · have hhead : self.grammar.head (.type (.ok (.option inner))) rest =
            .ok ({ parts := [.type (.ok inner)], build := fun values => values.headD .null },
              middle) := by
          change self.typeHead (.option inner) rest = _
          rw [typeHead, headBy, hread]
          simp [htag, bind, Except.bind]
        rw [if_neg htag, self.placed_read_of_ok hhead, self.placed_singleton,
          h inner middle hmiddle]
        exact (map_append_nil _).symm

/-- An array has as many items as its type says. -/
theorem Decodes.array (inner : TypeRef) (len : ℕ) {rest : List UInt8} (hrest : rest <:+ data) :
    self.decodeTypeWithin (depth + 1) (.array inner len) (Cursor.before data rest) =
      placed data id (self.grammar.read (depth + 1) (.type (.ok (.array inner len))) rest) := by
  have hhead : self.grammar.head (.type (.ok (.array inner len))) rest =
      .ok (IdlHead.items len inner, rest) := rfl
  rw [self.placed_read_of_ok hhead]
  change (Decoder.forEach _ (List.range len) >>= fun out => pure (JsonValue.array out)) _ = _
  rw [Decoder.andThen_pure, h.forEach_items inner len hrest, map_placed]
  exact (map_append_nil _).symm

/-- The fields of a variant, once its index has been read. -/
theorem Decodes.variant {rest middle : List UInt8}
    (variant : IdlVariant) {name : String} (hmiddle : middle <:+ data)
    (hhead : self.grammar.head (.type (.ok (.defined name))) rest =
      .ok (IdlHead.variant variant, middle)) :
    (if variant.fields.isEmpty then (pure (.string variant.name) : Decoder JsonValue)
      else do
        let fields ← Decoder.forEach (decodeField depth (self.decodeTypeWithin depth))
          variant.fields.zipIdx
        pure (.object [("variant", .string variant.name),
          ("fields", .array (fields.map Prod.snd))])) (Cursor.before data middle) =
      placed data id (self.grammar.read (depth + 1) (.type (.ok (.defined name))) rest) := by
  rw [self.placed_read_of_ok hhead]
  by_cases hempty : variant.fields.isEmpty
  · rw [if_pos hempty, IdlHead.variant, if_pos hempty]
    rfl
  · rw [if_neg hempty, IdlHead.variant, if_neg hempty]
    rw [Decoder.andThen_pure, h.forEach_fields variant.fields hmiddle,
      map_placed data _ fun fields : List (String × JsonValue) => JsonValue.object
        [("variant", .string variant.name), ("fields", .array (fields.map Prod.snd))]]
    refine Eq.trans ?_ (map_append_nil _).symm
    refine placed_congr data fun visits values last hread => ?_
    have hlength : (IdlHead.fieldNames variant.fields).length = values.length := by
      rw [fieldNames_length, length_of_readList hread]
    simp only [Function.comp_apply, List.map_snd_zip hlength.ge]

/-- The variant of an enum stands behind its index. -/
theorem Decodes.enum {rest : List UInt8}
    (name : String) {variants : List IdlVariant} (hrest : rest <:+ data)
    (hhead : self.typeHead (.defined name) = enumHead name variants) :
    (Decoder.read (·.readUnsigned 1) >>= fun index =>
      match variants[index]? with
      | none =>
        Decoder.fail (.decode ("enum variant index " ++ toString index ++
          " out of bounds for " ++ name))
      | some variant =>
        if variant.fields.isEmpty then (pure (.string variant.name) : Decoder JsonValue)
        else do
          let fields ← Decoder.forEach (decodeField depth (self.decodeTypeWithin depth))
            variant.fields.zipIdx
          pure (.object [("variant", .string variant.name),
            ("fields", .array (fields.map Prod.snd))])) (Cursor.before data rest) =
      placed data id (self.grammar.read (depth + 1) (.type (.ok (.defined name))) rest) := by
  cases hread : Reader.unsigned 1 rest with
  | error e =>
      have herror : self.grammar.head (.type (.ok (.defined name))) rest = .error e := by
        change self.typeHead (.defined name) rest = _
        rw [hhead, enumHead, hread]
        rfl
      rw [Decoder.andThen_of_error (read_before (Cursor.follows_unsigned 1) hrest hread),
        self.grammar.read_of_error herror]
      rfl
  | ok out =>
      obtain ⟨index, middle⟩ := out
      have hmiddle := (Cursor.suffix_of_read (Reader.delimits_unsigned 1) hread).trans hrest
      rw [Decoder.andThen_of_ok (read_before (Cursor.follows_unsigned 1) hrest hread)]
      cases hvariant : variants[index]? with
      | none =>
          have herror : self.grammar.head (.type (.ok (.defined name))) rest =
              .error (.decode ("enum variant index " ++ toString index ++
                " out of bounds for " ++ name)) := by
            change self.typeHead (.defined name) rest = _
            rw [hhead, enumHead, hread]
            simp [hvariant, bind, Except.bind]
          rw [self.grammar.read_of_error herror]
          rfl
      | some variant =>
          refine h.variant variant hmiddle ?_
          change self.typeHead (.defined name) rest = _
          rw [hhead, enumHead, hread]
          simp [hvariant, bind, Except.bind]

/-- A named type is its fields, or a variant with its fields. -/
theorem Decodes.defined {rest : List UInt8}
    (name : String) (hrest : rest <:+ data) :
    self.decodeTypeWithin (depth + 1) (.defined name) (Cursor.before data rest) =
      placed data id (self.grammar.read (depth + 1) (.type (.ok (.defined name))) rest) := by
  cases hlayout : self.definedTypes.lookup name with
  | none =>
      have herror : self.grammar.head (.type (.ok (.defined name))) rest =
          .error (.invalid ("unknown defined type " ++ name)) := by
        change self.typeHead (.defined name) rest = _
        simp only [typeHead, hlayout]
      rw [self.grammar.read_of_error herror]
      simp only [decodeTypeWithin, hlayout]
      rfl
  | some layout =>
      by_cases hstruct : layout.kind = "struct"
      · have hhead : self.grammar.head (.type (.ok (.defined name))) rest =
            .ok (IdlHead.struct layout.fields, rest) := by
          change self.typeHead (.defined name) rest = _
          simp only [typeHead, hlayout, if_pos hstruct]
        rw [self.placed_read_of_ok hhead]
        simp only [decodeTypeWithin, hlayout, if_pos hstruct]
        rw [Decoder.andThen_pure, h.forEach_fields layout.fields hrest, map_placed]
        exact (map_append_nil _).symm
      · by_cases henum : layout.kind = "enum"
        · simp only [decodeTypeWithin, hlayout, if_neg hstruct, if_pos henum]
          exact h.enum name hrest
            (by simp only [typeHead, hlayout, if_neg hstruct, if_pos henum])
        · have herror : self.grammar.head (.type (.ok (.defined name))) rest =
              .error (.invalid
                ("defined type " ++ name ++ " uses unsupported kind " ++ layout.kind)) := by
            change self.typeHead (.defined name) rest = _
            simp only [typeHead, hlayout, if_neg hstruct, if_neg henum]
          rw [self.grammar.read_of_error herror]
          simp only [decodeTypeWithin, hlayout, if_neg hstruct, if_neg henum]
          rfl

end Step

/-- `decode_type` reads the format, and asks for the counts of the vecs that it visits. -/
theorem decodes (depth : ℕ) (data : List UInt8) : self.Decodes depth data := by
  induction depth with
  | zero => exact fun _ _ _ => rfl
  | succ depth ih =>
      intro ty rest hrest
      cases ty with
      | bool => exact self.decode_leaf (Cursor.follows_unsigned 1) rfl (fun _ => rfl) depth hrest
      | u8 => exact self.decode_leaf (Cursor.follows_unsigned 1) rfl (fun _ => rfl) depth hrest
      | u16 => exact self.decode_leaf (Cursor.follows_unsigned 2) rfl (fun _ => rfl) depth hrest
      | u32 => exact self.decode_leaf (Cursor.follows_unsigned 4) rfl (fun _ => rfl) depth hrest
      | u64 => exact self.decode_leaf (Cursor.follows_unsigned 8) rfl (fun _ => rfl) depth hrest
      | u128 => exact self.decode_leaf (Cursor.follows_unsigned 16) rfl (fun _ => rfl) depth hrest
      | i64 => exact self.decode_leaf Cursor.follows_i64 rfl (fun _ => rfl) depth hrest
      | string => exact self.decode_leaf Cursor.follows_string rfl (fun _ => rfl) depth hrest
      | publicKey => exact self.decode_leaf (Cursor.follows_fixed 32) rfl (fun _ => rfl) depth hrest
      | bytes => exact self.decode_leaf Cursor.follows_vec rfl (fun _ => rfl) depth hrest
      | vec inner => exact ih.vec inner hrest
      | option inner => exact ih.option inner hrest
      | array inner len => exact ih.array inner len hrest
      | defined name => exact ih.defined name hrest

/-! ## Layouts -/

/-- The types of the fields of a layout. -/
def layoutNodes (fields : List (String × TypeRef)) : List IdlNode :=
  fields.map fun field => .type (.ok field.2)

theorem decodeLayoutWithin_eq (depth : ℕ) (fields : List (String × TypeRef))
    (bytes : List UInt8) :
    self.decodeLayoutWithin depth fields (Cursor.new bytes) =
      placed bytes (fun values => (fields.map Prod.fst).zip values)
        (readList (self.grammar.read depth) (layoutNodes fields) bytes) := by
  have hbody : ∀ (field : String × TypeRef) (rest : List UInt8), rest <:+ bytes →
      (self.decodeTypeWithin depth field.2 >>= fun value => pure (field.1, value))
        (Cursor.before bytes rest) =
        placed bytes (fun value => (field.1, value))
          (self.grammar.read depth (.type (.ok field.2)) rest) := by
    intro field rest hrest
    rw [Decoder.andThen_pure, self.decodes depth bytes field.2 rest hrest, map_placed]
    rfl
  rw [Cursor.new_eq_before, decodeLayoutWithin,
    forEach_eq (self.delimited_grammar.read depth) hbody fields List.suffix_rfl]
  congr 1
  funext values
  rw [List.zip_map_left, List.zip, List.map_zipWith]
  rfl

variable {self}

theorem decodeInstructionWithin_of_layout {data : List UInt8} {layout : LoadedInstruction}
    (hlength : 8 ≤ data.length) (hlayout : self.instructionMap.lookup (data.take 8) = some layout)
    (depth : ℕ) :
    self.decodeInstructionWithin depth data =
      (self.decodeFieldsWithin depth layout.args (data.drop 8)).map fun out =>
        (out.1, out.2.map fun args =>
          .known { name := layout.name, accounts := layout.accounts, args }) := by
  simp only [decodeInstructionWithin, if_neg hlength.not_gt, hlayout]

theorem decodeInstructionWithin_of_unknown {data : List UInt8}
    (h : data.length < 8 ∨ self.instructionMap.lookup (data.take 8) = none) :
    ∃ decoded, (∀ depth, self.decodeInstructionWithin depth data = some ([], .ok decoded)) ∧
      ∀ known, decoded ≠ .known known := by
  by_cases hlength : data.length < 8
  · exact ⟨_, fun _ => if_pos hlength, fun _ => by simp⟩
  · have hlayout := h.resolve_left hlength
    simp only [decodeInstructionWithin, if_neg hlength, hlayout]
    exact ⟨_, fun _ => rfl, fun _ => by simp⟩

theorem decodeAccountWithin_of_layout {data : List UInt8} {layout : LoadedAccount}
    (hlength : 8 ≤ data.length) (hlayout : self.accountMap.lookup (data.take 8) = some layout)
    (depth : ℕ) :
    self.decodeAccountWithin depth data =
      (self.decodeFieldsWithin depth layout.fields (data.drop 8)).map fun out =>
        (out.1, out.2.map fun fields =>
          .known { name := layout.name, fields }) := by
  simp only [decodeAccountWithin, if_neg hlength.not_gt, hlayout]

theorem decodeAccountWithin_of_unknown {data : List UInt8}
    (h : data.length < 8 ∨ self.accountMap.lookup (data.take 8) = none) :
    ∃ decoded, (∀ depth, self.decodeAccountWithin depth data = some ([], .ok decoded)) ∧
      ∀ known, decoded ≠ .known known := by
  by_cases hlength : data.length < 8
  · exact ⟨_, fun _ => if_pos hlength, fun _ => by simp⟩
  · have hlayout := h.resolve_left hlength
    simp only [decodeAccountWithin, if_neg hlength, hlayout]
    exact ⟨_, fun _ => rfl, fun _ => by simp⟩

/-! ## Calls -/

theorem decodeFieldsWithin_mono {fields : List (String × TypeRef)} {bytes : List UInt8}
    {depth deeper : ℕ} {out : List VecRequest × Except IdlError (KeyedMap String JsonValue)}
    (hle : depth ≤ deeper) (h : self.decodeFieldsWithin depth fields bytes = some out) :
    self.decodeFieldsWithin deeper fields bytes = some out := by
  rw [decodeFieldsWithin, Option.map_eq_some_iff] at h ⊢
  obtain ⟨read, hread, hout⟩ := h
  rw [decodeLayoutWithin_eq] at hread
  refine ⟨read, ?_, hout⟩
  rw [decodeLayoutWithin_eq]
  exact placed_mono (fun r => self.grammar.readList_read_mono hle) hread

theorem decodeInstructionWithin_mono {data : List UInt8} {depth deeper : ℕ}
    {out : List VecRequest × Except IdlError InstructionDecode} (hle : depth ≤ deeper)
    (h : self.decodeInstructionWithin depth data = some out) :
    self.decodeInstructionWithin deeper data = some out := by
  by_cases hknown : data.length < 8 ∨ self.instructionMap.lookup (data.take 8) = none
  · obtain ⟨decoded, hreturn, -⟩ := decodeInstructionWithin_of_unknown hknown
    rwa [hreturn] at h ⊢
  · rw [not_or, not_lt] at hknown
    obtain ⟨layout, hlayout⟩ := Option.ne_none_iff_exists'.mp hknown.2
    rw [decodeInstructionWithin_of_layout hknown.1 hlayout, Option.map_eq_some_iff] at h ⊢
    obtain ⟨fields, hfields, hout⟩ := h
    exact ⟨fields, decodeFieldsWithin_mono hle hfields, hout⟩

end LoadedIdl

end PumpLaunchTrader
