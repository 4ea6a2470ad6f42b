import PumpLaunchTrader.Lib.Runs
import PumpLaunchTrader.Model.Relay

/-! # The order of relay frames

The verifier takes the frames of a stream in the order of their numbers, each once, until the
number reaches the largest one: the sum saturates there, and a frame of this number is taken
again whenever it arrives. -/

namespace PumpLaunchTrader

namespace RelayReceiver

/-- The verifier holds the numbers of the last frames accepted, and these were intact. -/
structure Consistent (state : RelayReceiver) : Prop where
  last : ∀ streamId, state.verifier.lastSequenceByStream.lookup streamId =
    (state.acceptedOf streamId).getLast?.map RelayFrame.sequence
  verified : ∀ frame ∈ state.accepted, frame.verifyPayloadHash = true

/-- The frames accepted of every stream are numbered one, two, three and so on. -/
def Numbered (state : RelayReceiver) : Prop :=
  ∀ streamId, (state.acceptedOf streamId).map (fun frame => frame.sequence.toNat) =
    List.range' 1 (state.acceptedOf streamId).length

/-- The frame is intact and repeats the largest number, after which there is no other. -/
def RepeatsLargest (state : RelayReceiver) (frame : RelayFrame) : Prop :=
  frame.verifyPayloadHash = true ∧ frame.sequence.toNat = 2 ^ 64 - 1 ∧
    state.verifier.lastSequenceByStream.lookup frame.streamId = some frame.sequence

/-! ## One frame -/

theorem receive_of_next {state : RelayReceiver} {frame : RelayFrame}
    (hverified : frame.verifyPayloadHash = true)
    (hnext : frame.sequence.toNat = state.verifier.nextSequence frame.streamId) :
    state.receive frame = {
      verifier := { lastSequenceByStream :=
        state.verifier.lastSequenceByStream.insert frame.streamId frame.sequence }
      accepted := state.accepted ++ [frame] } := by
  simp [receive, RelaySequenceVerifier.observe_of_next hverified hnext, Except.isOk,
    Except.toBool]

theorem receive_of_not_next {state : RelayReceiver} {frame : RelayFrame}
    (h : ¬ (frame.verifyPayloadHash = true ∧
      frame.sequence.toNat = state.verifier.nextSequence frame.streamId)) :
    state.receive frame = state := by
  obtain ⟨error, herror⟩ := RelaySequenceVerifier.observe_of_not_next h
  simp [receive, herror, Except.isOk, Except.toBool]

theorem acceptedOf_append (state : RelayReceiver) (verifier : RelaySequenceVerifier)
    (frame : RelayFrame) (streamId : String) :
    acceptedOf { verifier, accepted := state.accepted ++ [frame] } streamId =
      state.acceptedOf streamId ++ if frame.streamId = streamId then [frame] else [] := by
  rw [acceptedOf, acceptedOf, List.filter_append]
  by_cases h : frame.streamId = streamId <;> simp [h]

theorem consistent_receive {state : RelayReceiver} (hstate : Consistent state)
    (frame : RelayFrame) : Consistent (state.receive frame) := by
  by_cases h : frame.verifyPayloadHash = true ∧
      frame.sequence.toNat = state.verifier.nextSequence frame.streamId
  · rw [receive_of_next h.1 h.2]
    constructor
    · intro streamId
      rw [acceptedOf_append]
      by_cases hstream : frame.streamId = streamId
      · subst hstream
        simp
      · rw [if_neg hstream, List.append_nil, AList.lookup_insert_ne (Ne.symm hstream),
          hstate.last]
    · intro other hother
      rcases List.mem_append.mp hother with hold | hnew
      · exact hstate.verified other hold
      · obtain rfl := List.mem_singleton.mp hnew
        exact h.1
  · rw [receive_of_not_next h]
    exact hstate

/-- While the frames are numbered in order, the number of the last is their count. -/
theorem lookup_toNat {state : RelayReceiver} (hstate : Consistent state)
    (hnumbered : Numbered state) (streamId : String) :
    ((state.verifier.lastSequenceByStream.lookup streamId).map UInt64.toNat).getD 0 =
      (state.acceptedOf streamId).length := by
  have hlast := congrArg List.getLast? (hnumbered streamId)
  rw [List.getLast?_map, List.getLast?_range'] at hlast
  rw [hstate.last]
  cases hframe : (state.acceptedOf streamId).getLast? with
  | none =>
      rw [List.getLast?_eq_none_iff.mp hframe]
      rfl
  | some frame =>
      have hpos : (state.acceptedOf streamId).length ≠ 0 := by
        intro hzero
        rw [List.eq_nil_of_length_eq_zero hzero] at hframe
        cases hframe
      rw [hframe, if_neg hpos] at hlast
      have hcount : frame.sequence.toNat = 1 + (state.acceptedOf streamId).length - 1 := by
        simpa using hlast
      change frame.sequence.toNat = _
      omega

theorem nextSequence_eq {state : RelayReceiver} (hstate : Consistent state)
    (hnumbered : Numbered state) (streamId : String) :
    state.verifier.nextSequence streamId =
      saturatingAdd (state.acceptedOf streamId).length 1 := by
  rw [← lookup_toNat hstate hnumbered, RelaySequenceVerifier.nextSequence]
  cases state.verifier.lastSequenceByStream.lookup streamId with
  | none => rfl
  | some last => rfl

theorem length_acceptedOf_lt {state : RelayReceiver} (hnumbered : Numbered state)
    (streamId : String) : (state.acceptedOf streamId).length < 2 ^ 64 := by
  by_contra hlength
  have hmem : 2 ^ 64 ∈ List.range' 1 (state.acceptedOf streamId).length := by
    rw [List.mem_range'_1]
    omega
  rw [← hnumbered streamId] at hmem
  obtain ⟨frame, -, hframe⟩ := List.mem_map.mp hmem
  exact absurd hframe (Nat.ne_of_lt frame.sequence.toNat_lt)

/-- The largest number is repeated where all numbers of the stream are used up. -/
theorem repeatsLargest_iff {state : RelayReceiver} (hstate : Consistent state)
    (hnumbered : Numbered state) {frame : RelayFrame} (hverified : frame.verifyPayloadHash = true)
    (hnext : frame.sequence.toNat = state.verifier.nextSequence frame.streamId) :
    state.RepeatsLargest frame ↔ (state.acceptedOf frame.streamId).length = 2 ^ 64 - 1 := by
  have hlast := lookup_toNat hstate hnumbered frame.streamId
  constructor
  · rintro ⟨-, hlargest, hlookup⟩
    rw [hlookup] at hlast
    exact hlast.symm.trans hlargest
  · intro hfull
    have hlargest : frame.sequence.toNat = 2 ^ 64 - 1 := by
      rw [hnext, nextSequence_eq hstate hnumbered, hfull]
      rfl
    refine ⟨hverified, hlargest, ?_⟩
    rw [hfull] at hlast
    cases hlookup : state.verifier.lastSequenceByStream.lookup frame.streamId with
    | none =>
        rw [hlookup] at hlast
        cases hlast
    | some last =>
        rw [hlookup] at hlast
        exact congrArg some (UInt64.toNat_inj.mp (hlast.trans hlargest.symm))

/-- A frame keeps the numbers in order unless it repeats the largest one. -/
theorem numbered_receive_iff {state : RelayReceiver} (hstate : Consistent state)
    (hnumbered : Numbered state) (frame : RelayFrame) :
    Numbered (state.receive frame) ↔ ¬ state.RepeatsLargest frame := by
  by_cases h : frame.verifyPayloadHash = true ∧
      frame.sequence.toNat = state.verifier.nextSequence frame.streamId
  · rw [repeatsLargest_iff hstate hnumbered h.1 h.2, receive_of_next h.1 h.2]
    have hlength := length_acceptedOf_lt hnumbered frame.streamId
    have hsequence := h.2
    rw [nextSequence_eq hstate hnumbered, saturatingAdd] at hsequence
    constructor
    · intro hnew hfull
      have hthis := hnew frame.streamId
      rw [acceptedOf_append, if_pos rfl, List.map_append, hnumbered, List.length_append,
        List.length_singleton, List.range'_1_concat, List.append_cancel_left_eq] at hthis
      have hcount : frame.sequence.toNat = 1 + (state.acceptedOf frame.streamId).length :=
        List.singleton_injective hthis
      omega
    · intro hroom streamId
      rw [acceptedOf_append]
      by_cases hstream : frame.streamId = streamId
      · subst hstream
        rw [if_pos rfl, List.map_append, hnumbered, List.length_append, List.length_singleton,
          List.range'_1_concat, List.map_singleton]
        have hcount : frame.sequence.toNat = 1 + (state.acceptedOf frame.streamId).length := by
          omega
        rw [hcount]
      · rw [if_neg hstream, List.append_nil, hnumbered]
  · rw [receive_of_not_next h]
    refine iff_of_true hnumbered fun hrepeats => h ⟨hrepeats.1, ?_⟩
    rw [RelaySequenceVerifier.nextSequence, hrepeats.2.2]
    simp [hrepeats.2.1, saturatingAdd]

/-! ## Runs -/

/-- What a receiver has taken is each stream's frames in order, each once and intact; what it
has not taken it still takes when its turn comes. -/
structure ReceivesInOrder (state : RelayReceiver) : Prop where
  numbered : Numbered state
  verified : ∀ frame ∈ state.accepted, frame.verifyPayloadHash = true
  rejected : ∀ frame error, (state.verifier.observe frame).1 = .error error →
    (state.verifier.observe frame).2 = state.verifier
  missing : ∀ frame, frame.verifyPayloadHash = true →
    frame.sequence.toNat = (state.acceptedOf frame.streamId).length + 1 →
      (state.verifier.observe frame).1.isOk = true
  ofSender : ∀ streamId (sent : List (List UInt8)),
    (∀ frame ∈ state.acceptedOf streamId, ∀ n, frame.sequence.toNat = n + 1 →
      sent[n]? = some frame.payloadBytes) →
    (state.acceptedOf streamId).map RelayFrame.payloadBytes <+: sent

theorem observe_rejected {verifier : RelaySequenceVerifier} {frame : RelayFrame} {error : String}
    (h : (verifier.observe frame).1 = .error error) : (verifier.observe frame).2 = verifier := by
  have hnot : ¬ (frame.verifyPayloadHash = true ∧
      frame.sequence.toNat = verifier.nextSequence frame.streamId) := by
    rintro ⟨hverified, hnext⟩
    rw [RelaySequenceVerifier.observe_of_next hverified hnext] at h
    cases h
  obtain ⟨other, hother⟩ := RelaySequenceVerifier.observe_of_not_next hnot
  rw [hother]

/-- Frames numbered in order carry the first payloads of their sender. -/
theorem payloads_prefix {frames : List RelayFrame} {sent : List (List UInt8)}
    (hnumbered : frames.map (fun frame => frame.sequence.toNat) = List.range' 1 frames.length)
    (hsent : ∀ frame ∈ frames, ∀ n, frame.sequence.toNat = n + 1 →
      sent[n]? = some frame.payloadBytes) :
    frames.map RelayFrame.payloadBytes <+: sent := by
  rw [List.prefix_iff_getElem?]
  intro i hi
  have hlength : i < frames.length := by simpa using hi
  have hat := congrArg (fun l => l[i]?) hnumbered
  have hsequence : frames[i].sequence.toNat = i + 1 := by
    simpa [List.getElem?_eq_getElem hlength, List.getElem?_range', hlength, Nat.add_comm]
      using hat
  rw [List.getElem_map]
  exact hsent _ (List.getElem_mem hlength) i hsequence

theorem receivesInOrder_iff {state : RelayReceiver} (hstate : Consistent state) :
    ReceivesInOrder state ↔ Numbered state := by
  refine ⟨ReceivesInOrder.numbered, fun hnumbered => ⟨hnumbered, hstate.verified, ?_, ?_, ?_⟩⟩
  · exact fun frame error => observe_rejected
  · intro frame hverified hsequence
    refine RelaySequenceVerifier.observe_ok_iff.mpr ⟨hverified, ?_⟩
    have := frame.sequence.toNat_lt
    rw [nextSequence_eq hstate hnumbered, saturatingAdd]
    omega
  · exact fun streamId sent => payloads_prefix (hnumbered streamId)

theorem consistent_init : Consistent {} :=
  ⟨fun _ => rfl, fun frame hframe => by cases hframe⟩

theorem consistent_run (frames : List RelayFrame) : Consistent (run frames) :=
  List.foldlRecOn frames receive consistent_init fun _ hstate frame _ =>
    consistent_receive hstate frame

end RelayReceiver

open RelayReceiver in
/-- In every run the frames of each stream are taken once and in order, in all states reached,
exactly if no intact frame repeats the largest number of its stream. -/
theorem relayFrames_inOrder_iff (frames : List RelayFrame) :
    (∀ before after, frames = before ++ after → ReceivesInOrder (run before)) ↔
      Runs.Along receive (fun state frame => ¬ state.RepeatsLargest frame) {} frames := by
  have hinit : Numbered {} := fun _ => rfl
  have hall : Runs.Along receive (fun _ _ => True) {} frames := by
    rw [Runs.along_iff]
    exact fun _ _ _ _ => trivial
  rw [← Runs.forall_reached_iff_along_of_kept (I := Numbered) (Q := fun _ _ => True)
    (fun state frame hstate _ => consistent_receive hstate frame)
    (fun state frame hstate hnumbered _ => numbered_receive_iff hstate hnumbered frame)
    consistent_init hinit hall]
  exact forall₃_congr fun before after _ => receivesInOrder_iff (consistent_run before)

/-! ## The largest number -/

/-- The frames of one sender, in order. -/
def numberedFrames (streamId : String) (n : ℕ) : List RelayFrame :=
  (List.range' 1 n).map fun k => .data streamId (.ofNat k) []

theorem numberedFrames_succ (streamId : String) (n : ℕ) :
    numberedFrames streamId (n + 1) =
      numberedFrames streamId n ++ [.data streamId (.ofNat (n + 1)) []] := by
  rw [numberedFrames, List.range'_1_concat, List.map_append, numberedFrames, Nat.add_comm 1 n]
  rfl

namespace RelayReceiver

/-- All frames of a sender are taken. -/
theorem run_numberedFrames (streamId : String) {n : ℕ} (hn : n < 2 ^ 64) :
    (run (numberedFrames streamId n)).accepted = numberedFrames streamId n ∧
      (run (numberedFrames streamId n)).verifier.nextSequence streamId = saturatingAdd n 1 := by
  induction n with
  | zero => exact ⟨rfl, rfl⟩
  | succ n ih =>
      obtain ⟨haccepted, hsequence⟩ := ih (by omega)
      have hnext : (RelayFrame.data streamId (.ofNat (n + 1)) []).sequence.toNat =
          (run (numberedFrames streamId n)).verifier.nextSequence streamId := by
        rw [hsequence, saturatingAdd, RelayFrame.data, UInt64.toNat_ofNat_of_lt' hn]
        omega
      have hrun : run (numberedFrames streamId (n + 1)) =
          (run (numberedFrames streamId n)).receive (.data streamId (.ofNat (n + 1)) []) := by
        rw [run, numberedFrames_succ, List.foldl_append]
        rfl
      rw [hrun, receive_of_next (RelayFrame.verifyPayloadHash_data _ _ _) hnext, haccepted,
        numberedFrames_succ]
      refine ⟨rfl, ?_⟩
      simp only [RelaySequenceVerifier.nextSequence, RelayFrame.data, AList.lookup_insert,
        UInt64.toNat_ofNat_of_lt' hn]

end RelayReceiver

open RelayReceiver in
/-- After the frame of the largest number comes a frame of the same number. -/
theorem relayFrames_repeated_largest :
    ¬ ∀ frames : List RelayFrame, ReceivesInOrder (run frames) := by
  intro h
  obtain ⟨n, hn⟩ : ∃ n : ℕ, n + 1 = 2 ^ 64 - 1 := ⟨2 ^ 64 - 2, rfl⟩
  have hlt : n + 1 < 2 ^ 64 := by omega
  obtain ⟨haccepted, hsequence⟩ := run_numberedFrames "geyser-0" hlt
  let frame : RelayFrame := .data "geyser-0" (.ofNat (n + 1)) []
  have hnext : frame.sequence.toNat =
      (run (numberedFrames "geyser-0" (n + 1))).verifier.nextSequence "geyser-0" := by
    rw [hsequence, saturatingAdd]
    change (UInt64.ofNat (n + 1)).toNat = _
    rw [UInt64.toNat_ofNat_of_lt' hlt]
    omega
  have hrun : run (numberedFrames "geyser-0" (n + 1) ++ [frame]) =
      (run (numberedFrames "geyser-0" (n + 1))).receive frame := by
    rw [run, List.foldl_append]
    rfl
  have hnumbered := (h (numberedFrames "geyser-0" (n + 1) ++ [frame])).numbered "geyser-0"
  have htwice : (numberedFrames "geyser-0" (n + 1) ++ [frame]).filter
      (fun frame => frame.streamId = "geyser-0") =
        numberedFrames "geyser-0" n ++ [frame, frame] := by
    rw [List.filter_eq_self.mpr, numberedFrames_succ, List.append_assoc]
    · rfl
    · intro other hother
      rcases List.mem_append.mp hother with hold | hnew
      · obtain ⟨k, -, rfl⟩ := List.mem_map.mp hold
        rfl
      · rw [List.mem_singleton.mp hnew]
        rfl
  rw [hrun, receive_of_next (RelayFrame.verifyPayloadHash_data _ _ _) hnext, haccepted,
    acceptedOf, htwice, List.map_append] at hnumbered
  have hnodup : (List.map (fun frame : RelayFrame => frame.sequence.toNat) [frame, frame]).Nodup :=
    (List.nodup_append.mp (hnumbered ▸ List.nodup_range')).2.1
  simp at hnodup

end PumpLaunchTrader
