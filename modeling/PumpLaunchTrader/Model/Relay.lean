import PumpLaunchTrader.Lib.KeyedMap
import PumpLaunchTrader.Lib.Encoding
import PumpLaunchTrader.Model.Math

/-! # Relay frames (`runtime::live_source`)

Frames of several streams arrive at the collector over one connection. Each names its stream
and its number in it, and carries the length and the hash of its payload. -/

namespace PumpLaunchTrader

def relayPayloadSha256 (payload : List UInt8) : String := Sha256.hex (Sha256.digest payload)

/-- The fields of `RelayFrame` that its check and the verifier read. -/
structure RelayFrame where
  streamId : String
  sequence : UInt64
  payloadHash : String
  payloadLen : ℕ
  payloadBytes : List UInt8
  deriving DecidableEq, Repr

namespace RelayFrame

/-- A data frame as the relay numbers it. -/
def data (streamId : String) (sequence : UInt64) (payloadBytes : List UInt8) : RelayFrame where
  streamId
  sequence
  payloadHash := relayPayloadSha256 payloadBytes
  payloadLen := payloadBytes.length
  payloadBytes

def verifyPayloadHash (self : RelayFrame) : Bool :=
  self.payloadLen == self.payloadBytes.length &&
    self.payloadHash == relayPayloadSha256 self.payloadBytes

@[simp] theorem verifyPayloadHash_data (streamId : String) (sequence : UInt64)
    (payloadBytes : List UInt8) : (data streamId sequence payloadBytes).verifyPayloadHash := by
  simp [verifyPayloadHash, data]

end RelayFrame

structure RelaySequenceVerifier where
  lastSequenceByStream : KeyedMap String UInt64 := ∅

namespace RelaySequenceVerifier

/-- `observe`: what it returns, and the verifier afterwards. -/
def observe (self : RelaySequenceVerifier) (frame : RelayFrame) :
    Except String Unit × RelaySequenceVerifier :=
  let accepted : RelaySequenceVerifier :=
    { lastSequenceByStream := self.lastSequenceByStream.insert frame.streamId frame.sequence }
  if !frame.verifyPayloadHash then (.error "relay_payload_hash_mismatch", self)
  else
    match self.lastSequenceByStream.lookup frame.streamId with
    | none =>
      if frame.sequence.toNat ≠ 1 then
        (.error ("relay_sequence_gap:" ++ frame.streamId ++ ":" ++
          toString frame.sequence.toNat), self)
      else (.ok (), accepted)
    | some last =>
      if frame.sequence.toNat ≠ saturatingAdd last.toNat 1 then
        (.error ("relay_sequence_gap:" ++ frame.streamId ++ ":" ++ toString last.toNat ++ ">" ++
          toString frame.sequence.toNat), self)
      else (.ok (), accepted)

/-- The number that the next frame of a stream has to carry. -/
def nextSequence (self : RelaySequenceVerifier) (streamId : String) : ℕ :=
  match self.lastSequenceByStream.lookup streamId with
  | none => 1
  | some last => saturatingAdd last.toNat 1

theorem observe_of_next {self : RelaySequenceVerifier} {frame : RelayFrame}
    (hverified : frame.verifyPayloadHash = true)
    (hnext : frame.sequence.toNat = self.nextSequence frame.streamId) :
    self.observe frame = (.ok (), { lastSequenceByStream :=
      self.lastSequenceByStream.insert frame.streamId frame.sequence }) := by
  unfold nextSequence at hnext
  cases hlast : self.lastSequenceByStream.lookup frame.streamId with
  | none => simp_all [observe]
  | some last => simp_all [observe]

/-- Any other frame is rejected and leaves the verifier as it was. -/
theorem observe_of_not_next {self : RelaySequenceVerifier} {frame : RelayFrame}
    (h : ¬ (frame.verifyPayloadHash = true ∧
      frame.sequence.toNat = self.nextSequence frame.streamId)) :
    ∃ error, self.observe frame = (.error error, self) := by
  unfold nextSequence at h
  by_cases hverified : frame.verifyPayloadHash = true
  · cases hlast : self.lastSequenceByStream.lookup frame.streamId with
    | none => simp_all [observe]
    | some last => simp_all [observe]
  · exact ⟨"relay_payload_hash_mismatch", by simp [observe, hverified]⟩

theorem observe_ok_iff {self : RelaySequenceVerifier} {frame : RelayFrame} :
    (self.observe frame).1.isOk = true ↔ frame.verifyPayloadHash = true ∧
      frame.sequence.toNat = self.nextSequence frame.streamId := by
  by_cases h : frame.verifyPayloadHash = true ∧
      frame.sequence.toNat = self.nextSequence frame.streamId
  · simp [observe_of_next h.1 h.2, h, Except.isOk, Except.toBool]
  · obtain ⟨error, herror⟩ := observe_of_not_next h
    simp [herror, h, Except.isOk, Except.toBool]

end RelaySequenceVerifier

/-- A receiver of frames: its verifier, and the frames accepted so far. -/
structure RelayReceiver where
  verifier : RelaySequenceVerifier := {}
  accepted : List RelayFrame := []

namespace RelayReceiver

def receive (self : RelayReceiver) (frame : RelayFrame) : RelayReceiver where
  verifier := (self.verifier.observe frame).2
  accepted :=
    if (self.verifier.observe frame).1.isOk then self.accepted ++ [frame] else self.accepted

def acceptedOf (self : RelayReceiver) (streamId : String) : List RelayFrame :=
  self.accepted.filter fun frame => frame.streamId = streamId

/-- The receiver after the frames of a run. -/
def run (frames : List RelayFrame) : RelayReceiver :=
  frames.foldl receive {}

end RelayReceiver

end PumpLaunchTrader
