import PumpLaunchTrader.Idl.Decoding

/-! # Decoding is prefix-free

A value takes its own bytes from the cursor and no others, whatever type it has. The decoding
of an instruction or an account must stop at the end of the data, so no more and no fewer bytes
decode as well. -/

namespace PumpLaunchTrader

open SelfDelimiting TopDown

namespace Cursor

/-- The bytes from one offset up to another. -/
def consumed (self stop : Cursor) : List UInt8 := self.rest.take (stop.offset - self.offset)

theorem inside_new (data : List UInt8) : (new data).Inside := Nat.zero_le _

theorem expectEof_of_ne_nil {data rest : List UInt8} (h : rest <:+ data) (hrest : rest ≠ []) :
    ∃ e, (before data rest).expectEof = .error e := by
  rw [expectEof_before h]
  exact ⟨_, if_neg hrest⟩

/-- A cursor that moves over bytes in front of it. -/
theorem before_append {self : Cursor} (hinside : self.Inside) {taken tail : List UInt8}
    (h : self.rest = taken ++ tail) :
    before self.data tail = { self with offset := self.offset + taken.length } := by
  have hlength : self.data.length - self.offset = taken.length + tail.length := by
    rw [← List.length_drop, ← List.length_append, ← h, rest]
  unfold Inside at hinside
  simp only [before, mk.injEq, true_and]
  omega

end Cursor

namespace LoadedIdl

variable (self : LoadedIdl)

/-! ## Types -/

theorem returns_of_read {ty : TypeRef} {cursor : Cursor} (hinside : cursor.Inside) {depth : ℕ}
    {visits : List (IdlNode × List UInt8)} {value : JsonValue} {tail : List UInt8}
    (h : self.grammar.read depth (.type (.ok ty)) cursor.rest = some (visits, .ok (value, tail))) :
    self.TypeReturns ty cursor (.ok (value, Cursor.before cursor.data tail)) := by
  refine ⟨depth, visits.flatMap requestsAt, ?_⟩
  have hdecode := self.decodes depth cursor.data ty cursor.rest (List.drop_suffix _ _)
  rw [Cursor.before_rest hinside] at hdecode
  simp only [hdecode, h]
  rfl

/-- What `decode_type` returns was read from the bytes in front of the cursor. -/
theorem read_of_returns {ty : TypeRef} {cursor stop : Cursor} (hinside : cursor.Inside)
    {value : JsonValue} (h : self.TypeReturns ty cursor (.ok (value, stop))) :
    ∃ depth visits tail, stop = Cursor.before cursor.data tail ∧
      self.grammar.read depth (.type (.ok ty)) cursor.rest =
        some (visits, .ok (value, tail)) := by
  obtain ⟨depth, requests, hreturn⟩ := h
  have hdecode := self.decodes depth cursor.data ty cursor.rest (List.drop_suffix _ _)
  rw [Cursor.before_rest hinside] at hdecode
  simp only [hdecode] at hreturn
  cases hread : self.grammar.read depth (.type (.ok ty)) cursor.rest with
  | none =>
      rw [hread] at hreturn
      cases hreturn
  | some out =>
      obtain ⟨visits, result⟩ := out
      rw [hread] at hreturn
      cases result with
      | error e => simp [placed, Except.map] at hreturn
      | ok read =>
          obtain ⟨value', tail⟩ := read
          simp only [placed, Option.map_some, Except.map, id, Option.some.injEq, Prod.mk.injEq,
            Except.ok.injEq] at hreturn
          obtain ⟨-, rfl, rfl⟩ := hreturn
          exact ⟨depth, visits, tail, rfl, hread⟩

/-- `decode_type` stays in the data, and wherever the bytes that it takes stand in front of a
cursor, it takes them as the same value. -/
theorem returns_local {ty : TypeRef} {cursor stop : Cursor} {value : JsonValue}
    (hinside : cursor.Inside) (h : self.TypeReturns ty cursor (.ok (value, stop))) :
    stop.data = cursor.data ∧ cursor.offset ≤ stop.offset ∧ stop.Inside ∧
      ∀ other : Cursor, other.Inside → cursor.consumed stop <+: other.rest →
        self.TypeReturns ty other (.ok (value,
          { other with offset := other.offset + (stop.offset - cursor.offset) })) := by
  obtain ⟨depth, visits, tail, rfl, hread⟩ := self.read_of_returns hinside h
  obtain ⟨taken, htaken, hlocal, -⟩ :=
    self.delimited_grammar.read depth (.type (.ok ty)) cursor.rest value tail ⟨visits, hread⟩
  have hstop := Cursor.before_append hinside htaken
  have hlength : cursor.data.length - cursor.offset = taken.length + tail.length := by
    rw [← List.length_drop, ← List.length_append, ← htaken, Cursor.rest]
  have hconsumed : cursor.consumed (Cursor.before cursor.data tail) = taken := by
    rw [hstop, Cursor.consumed, htaken, Nat.add_sub_cancel_left, List.take_left]
  rw [hconsumed, hstop]
  unfold Cursor.Inside at hinside ⊢
  refine ⟨rfl, Nat.le_add_right _ _, ?_, fun other hother hprefix => ?_⟩
  · simp only
    omega
  · obtain ⟨more, hmore⟩ := hprefix
    obtain ⟨visits', hread'⟩ := hlocal more
    rw [hmore] at hread'
    rw [Nat.add_sub_cancel_left, ← Cursor.before_append hother hmore.symm]
    exact self.returns_of_read hother hread'

/-! ## Layouts -/

variable {self}

/-- A layout that decodes was read to the end of the bytes. -/
theorem readList_of_decodeFieldsWithin {depth : ℕ} {fields : List (String × TypeRef)}
    {bytes : List UInt8} {requests : List VecRequest} {map : KeyedMap String JsonValue}
    (h : self.decodeFieldsWithin depth fields bytes = some (requests, .ok map)) :
    ∃ visits values, readList (self.grammar.read depth) (layoutNodes fields) bytes =
      some (visits, .ok (values, [])) := by
  rw [decodeFieldsWithin, decodeLayoutWithin_eq] at h
  cases hread : readList (self.grammar.read depth) (layoutNodes fields) bytes with
  | none =>
      rw [hread] at h
      cases h
  | some out =>
      obtain ⟨visits, result⟩ := out
      rw [hread] at h
      cases result with
      | error e => simp [placed, Except.map, bind, Except.bind] at h
      | ok read =>
          obtain ⟨values, rest⟩ := read
          refine ⟨visits, values, ?_⟩
          by_cases hrest : rest = []
          · rw [hrest]
          · obtain ⟨taken, htaken, -⟩ := delimits_readList (self.delimited_grammar.read depth)
              (layoutNodes fields) bytes values rest ⟨visits, hread⟩
            have hsuffix : rest <:+ bytes := ⟨taken, htaken.symm⟩
            obtain ⟨e, he⟩ := Cursor.expectEof_of_ne_nil hsuffix hrest
            simp [placed, Except.map, bind, Except.bind, he] at h

/-- A layout that is not read to the end of the bytes does not decode. -/
theorem decodeFieldsWithin_of_reads {depth : ℕ} {fields : List (String × TypeRef)}
    {bytes rest : List UInt8} {visits : List (IdlNode × List UInt8)} {values : List JsonValue}
    (h : readList (self.grammar.read depth) (layoutNodes fields) bytes =
      some (visits, .ok (values, rest))) (hsuffix : rest <:+ bytes) (hrest : rest ≠ []) :
    ∃ requests e, self.decodeFieldsWithin depth fields bytes = some (requests, .error e) := by
  obtain ⟨e, he⟩ := Cursor.expectEof_of_ne_nil hsuffix hrest
  refine ⟨visits.flatMap requestsAt, e, ?_⟩
  rw [decodeFieldsWithin, decodeLayoutWithin_eq, h]
  simp [placed, Except.map, bind, Except.bind, he]

theorem decodeFieldsWithin_of_refuses {depth : ℕ} {fields : List (String × TypeRef)}
    {bytes : List UInt8} {visits : List (IdlNode × List UInt8)} {e : IdlError}
    (h : readList (self.grammar.read depth) (layoutNodes fields) bytes =
      some (visits, .error e)) :
    self.decodeFieldsWithin depth fields bytes =
      some (visits.flatMap requestsAt, .error e) := by
  rw [decodeFieldsWithin, decodeLayoutWithin_eq, h]
  rfl

/-- The fields that decode from some bytes decode from no more and from no fewer. -/
theorem decodeFieldsWithin_exact {depth : ℕ} {fields : List (String × TypeRef)}
    {bytes : List UInt8} {requests : List VecRequest} {map : KeyedMap String JsonValue}
    (h : self.decodeFieldsWithin depth fields bytes = some (requests, .ok map))
    {bytes' : List UInt8} (hne : bytes' ≠ bytes) (hnested : bytes <+: bytes' ∨ bytes' <+: bytes) :
    ∃ requests e, self.decodeFieldsWithin depth fields bytes' = some (requests, .error e) := by
  obtain ⟨visits, values, hread⟩ := readList_of_decodeFieldsWithin h
  obtain ⟨hmore, hless⟩ := (delimits_readList (self.delimited_grammar.read depth)
    (layoutNodes fields)).of_reads_nil ⟨visits, hread⟩
  rcases hnested with ⟨tail, rfl⟩ | hcut
  · obtain ⟨visits', hread'⟩ := hmore tail
    refine decodeFieldsWithin_of_reads hread' (List.suffix_append bytes tail) ?_
    rintro rfl
    exact hne (List.append_nil bytes)
  · obtain ⟨visits', e, hrefused⟩ := hless bytes' hcut hne
    exact ⟨_, e, decodeFieldsWithin_of_refuses hrefused⟩

/-- The same holds of a call that decodes fields and makes something of them. -/
theorem returns_exact {α : Type} {f : KeyedMap String JsonValue → α}
    {fields : List (String × TypeRef)} {bytes bytes' : List UInt8} {value : α}
    (h : Returns (fun depth => (self.decodeFieldsWithin depth fields bytes).map fun out =>
      (out.1, out.2.map f)) (.ok value))
    (hne : bytes' ≠ bytes) (hnested : bytes <+: bytes' ∨ bytes' <+: bytes) :
    ∃ e, Returns (fun depth => (self.decodeFieldsWithin depth fields bytes').map fun out =>
      (out.1, out.2.map f)) (.error e) := by
  obtain ⟨depth, requests, hreturn⟩ := h
  obtain ⟨⟨log, result⟩, hfields, heq⟩ := Option.map_eq_some_iff.mp hreturn
  cases result with
  | error e => cases heq
  | ok map =>
      obtain ⟨log', e, hfail⟩ := decodeFieldsWithin_exact hfields hne hnested
      exact ⟨e, depth, log', by simp only [hfail, Option.map_some, Except.map]⟩

/-! ## Instructions and accounts -/

/-- Data that share their first eight bytes, one a front of the other, have their fields nested
in the same way. -/
theorem drop_nested {data data' : List UInt8} (hlength : 8 ≤ data.length)
    (hlength' : 8 ≤ data'.length) (hne : data' ≠ data)
    (hnested : data <+: data' ∨ data' <+: data) :
    data'.take 8 = data.take 8 ∧ data'.drop 8 ≠ data.drop 8 ∧
      (data.drop 8 <+: data'.drop 8 ∨ data'.drop 8 <+: data.drop 8) := by
  have htake : data'.take 8 = data.take 8 := by
    rcases hnested with ⟨tail, rfl⟩ | ⟨tail, rfl⟩
    · exact List.take_append_of_le_length hlength
    · exact (List.take_append_of_le_length hlength').symm
  refine ⟨htake, fun hdrop => hne ?_, ?_⟩
  · rw [← List.take_append_drop 8 data', htake, hdrop, List.take_append_drop]
  · exact hnested.imp (fun h => h.drop 8) fun h => h.drop 8

theorem instruction_exact {data data' : List UInt8} {decoded : DecodedInstruction}
    (hlength : 8 ≤ data.length) (h : self.InstructionReturns data (.ok (.known decoded)))
    (hlength' : 8 ≤ data'.length) (hne : data' ≠ data)
    (hnested : data <+: data' ∨ data' <+: data) :
    ∃ e, self.InstructionReturns data' (.error e) := by
  obtain ⟨htake, hdrop, hnested⟩ := drop_nested hlength hlength' hne hnested
  cases hlayout : self.instructionMap.lookup (data.take 8) with
  | none =>
      obtain ⟨unknown, hunknown, hnot⟩ := decodeInstructionWithin_of_unknown (.inr hlayout)
      obtain ⟨depth, requests, hreturn⟩ := h
      cases (hunknown depth).symm.trans hreturn
      exact absurd rfl (hnot decoded)
  | some layout =>
      have hlayout' := hlayout
      rw [← htake] at hlayout'
      unfold InstructionReturns at h ⊢
      simp only [decodeInstructionWithin_of_layout hlength hlayout] at h
      simp only [decodeInstructionWithin_of_layout hlength' hlayout']
      exact returns_exact h hdrop hnested

theorem account_exact {data data' : List UInt8} {decoded : DecodedAccount}
    (hlength : 8 ≤ data.length) (h : self.AccountReturns data (.ok (.known decoded)))
    (hlength' : 8 ≤ data'.length) (hne : data' ≠ data)
    (hnested : data <+: data' ∨ data' <+: data) :
    ∃ e, self.AccountReturns data' (.error e) := by
  obtain ⟨htake, hdrop, hnested⟩ := drop_nested hlength hlength' hne hnested
  cases hlayout : self.accountMap.lookup (data.take 8) with
  | none =>
      obtain ⟨unknown, hunknown, hnot⟩ := decodeAccountWithin_of_unknown (.inr hlayout)
      obtain ⟨depth, requests, hreturn⟩ := h
      cases (hunknown depth).symm.trans hreturn
      exact absurd rfl (hnot decoded)
  | some layout =>
      have hlayout' := hlayout
      rw [← htake] at hlayout'
      unfold AccountReturns at h ⊢
      simp only [decodeAccountWithin_of_layout hlength hlayout] at h
      simp only [decodeAccountWithin_of_layout hlength' hlayout']
      exact returns_exact h hdrop hnested

/-- Decoding is prefix-free: when an instruction or an account decodes, no longer data and no
shorter data of at least eight bytes does, and each value is read within the data and by the
bytes that it takes. -/
theorem decoding_prefixFree (self : LoadedIdl) :
    (∀ data decoded, 8 ≤ data.length → self.InstructionReturns data (.ok (.known decoded)) →
      (∀ tail, tail ≠ [] → ∃ e, self.InstructionReturns (data ++ tail) (.error e)) ∧
      ∀ cut, cut <+: data → cut ≠ data → 8 ≤ cut.length →
        ∃ e, self.InstructionReturns cut (.error e)) ∧
    (∀ data decoded, 8 ≤ data.length → self.AccountReturns data (.ok (.known decoded)) →
      (∀ tail, tail ≠ [] → ∃ e, self.AccountReturns (data ++ tail) (.error e)) ∧
      ∀ cut, cut <+: data → cut ≠ data → 8 ≤ cut.length →
        ∃ e, self.AccountReturns cut (.error e)) ∧
    ∀ ty cursor value stop, cursor.Inside → self.TypeReturns ty cursor (.ok (value, stop)) →
      stop.data = cursor.data ∧ cursor.offset ≤ stop.offset ∧ stop.offset ≤ cursor.data.length ∧
      ∀ other : Cursor, other.Inside → cursor.consumed stop <+: other.rest →
        self.TypeReturns ty other (.ok (value,
          { other with offset := other.offset + (stop.offset - cursor.offset) })) := by
  refine ⟨fun data decoded hlength h => ?_, fun data decoded hlength h => ?_,
    fun ty cursor value stop hinside h => ?_⟩
  · refine ⟨fun tail htail => ?_, fun cut hcut hne hlength' => ?_⟩
    · exact instruction_exact hlength h (by rw [List.length_append]; omega) (by simpa using htail)
        (.inl (List.prefix_append data tail))
    · exact instruction_exact hlength h hlength' hne (.inr hcut)
  · refine ⟨fun tail htail => ?_, fun cut hcut hne hlength' => ?_⟩
    · exact account_exact hlength h (by rw [List.length_append]; omega) (by simpa using htail)
        (.inl (List.prefix_append data tail))
    · exact account_exact hlength h hlength' hne (.inr hcut)
  · obtain ⟨hdata, hle, hstop, hlocal⟩ := self.returns_local hinside h
    exact ⟨hdata, hle, hdata ▸ hstop, hlocal⟩

/-- An instruction over a vec of structs that hold an enum, an array and an option. -/
def legsIdl : LoadedIdl where
  instructionMap := (∅ : KeyedMap (List UInt8) LoadedInstruction).insert [1, 2, 3, 4, 5, 6, 7, 8]
    { name := "trade", accounts := ["user"], args := [("legs", .vec (.defined "Leg"))] }
  accountMap := (∅ : KeyedMap (List UInt8) LoadedAccount).insert [8, 7, 6, 5, 4, 3, 2, 1]
    { name := "State", fields := [("leg", .option (.defined "Leg"))] }
  definedTypes := ((∅ : KeyedMap String IdlTypeLayout).insert "Leg"
    { kind := "struct"
      fields := [.named { name := "side", ty := .ok (.defined "Side") },
        .unnamed (.ok (.array .u16 2)), .named { name := "tip", ty := .ok (.option .u8) }] }).insert
    "Side" { kind := "enum"
             variants := [{ name := "Buy", fields := [] },
               { name := "Sell", fields := [.unnamed (.ok .bool)] }] }
  depth := 8

/-- One leg: a sell, two sizes and a tip. -/
def legBytes : List UInt8 := [1, 1, 5, 0, 6, 0, 1, 9]

def legValue : JsonValue :=
  .object [("side", .object [("variant", .string "Sell"), ("fields", .array [.bool true])]),
    ("field1", .array [.number 5, .number 6]), ("tip", .number 9)]

def legsData : List UInt8 := [1, 2, 3, 4, 5, 6, 7, 8, 1, 0, 0, 0] ++ legBytes

/-- An account whose field holds a leg. -/
def stateData : List UInt8 := [8, 7, 6, 5, 4, 3, 2, 1, 1] ++ legBytes

theorem legsData_returns : legsIdl.InstructionReturns legsData (.ok (.known
    { name := "trade", accounts := ["user"]
      args := (∅ : KeyedMap String JsonValue).insert "legs" (.array [legValue]) })) :=
  ⟨5, [{ capacity := 1, remaining := 8 }], rfl⟩

theorem stateData_returns : legsIdl.AccountReturns stateData (.ok (.known
    { name := "State", fields := (∅ : KeyedMap String JsonValue).insert "leg" legValue })) :=
  ⟨5, [], rfl⟩

theorem legBytes_returns : legsIdl.TypeReturns (.defined "Leg") (Cursor.new legBytes)
    (.ok (legValue, { data := legBytes, offset := 8 })) :=
  ⟨4, [], rfl⟩

/-- One byte more or less, and the same leg between other bytes. -/
theorem decoding_prefixFree_legs :
    (∃ e, legsIdl.InstructionReturns (legsData ++ [0]) (.error e)) ∧
    (∃ e, legsIdl.InstructionReturns legsData.dropLast (.error e)) ∧
    (∃ e, legsIdl.AccountReturns (stateData ++ [0]) (.error e)) ∧
    (∃ e, legsIdl.AccountReturns stateData.dropLast (.error e)) ∧
    legsIdl.TypeReturns (.defined "Leg") { data := [7, 7] ++ legBytes ++ [4], offset := 2 }
      (.ok (legValue, { data := [7, 7] ++ legBytes ++ [4], offset := 10 })) := by
  obtain ⟨hinstruction, haccount, htype⟩ := decoding_prefixFree legsIdl
  obtain ⟨hlonger, hshorter⟩ := hinstruction legsData _ (by decide) legsData_returns
  obtain ⟨hlonger', hshorter'⟩ := haccount stateData _ (by decide) stateData_returns
  obtain ⟨-, -, -, hlocal⟩ := htype _ _ _ _ (Cursor.inside_new legBytes) legBytes_returns
  exact ⟨hlonger [0] (by decide),
    hshorter legsData.dropLast (List.dropLast_prefix legsData) (by decide) (by decide),
    hlonger' [0] (by decide),
    hshorter' stateData.dropLast (List.dropLast_prefix stateData) (by decide) (by decide),
    hlocal { data := [7, 7] ++ legBytes ++ [4], offset := 2 } (by decide) (by decide)⟩

end LoadedIdl

end PumpLaunchTrader
