import PumpLaunchTrader.Lib.Windows
import PumpLaunchTrader.Segments.Files

/-! # Safe manifests

Only verified entries are pruned, and above each of them as many verified ones of its type as
are to be kept. Closes, uploads and pruning each change a manifest in a way that keeps this. -/

namespace PumpLaunchTrader

/-- The number of verified entries of a type with higher sequence numbers. -/
def verifiedAbove (segments : List RunSegmentEntry) (entry : RunSegmentEntry) : ℕ :=
  segments.countP fun other => decide (other.verified = true ∧
    other.artifactType = entry.artifactType ∧ entry.sequenceNumber < other.sequenceNumber)

/-- The type and the number of an entry, which no other entry has. -/
def RunSegmentEntry.key (self : RunSegmentEntry) : String × ℕ :=
  (self.artifactType, self.sequenceNumber)

structure SafeManifest (runId reportRoot : String) (keep : ℕ) (segments : List RunSegmentEntry) :
    Prop where
  segmentId : ∀ entry ∈ segments,
    entry.segmentId = segmentIdOf runId entry.artifactType entry.sequenceNumber
  localPath : ∀ entry ∈ segments, ∃ compressed, entry.localPath =
    joinPath reportRoot (segmentFileName entry.artifactType entry.sequenceNumber compressed)
  distinct : (segments.map RunSegmentEntry.key).Nodup
  uploaded : ∀ entry ∈ segments, entry.verified = true → entry.uploaded = true
  verified : ∀ entry ∈ segments, entry.prunedLocal = true → entry.verified = true
  preserved : ∀ entry ∈ segments, entry.prunedLocal = true → keep ≤ verifiedAbove segments entry

namespace SafeManifest

variable {runId reportRoot : String} {keep : ℕ} {segments : List RunSegmentEntry}

theorem nil : SafeManifest runId reportRoot keep [] := by
  refine ⟨?_, ?_, List.nodup_nil, ?_, ?_, ?_⟩ <;> simp

/-- Different entries have different files. -/
theorem eq_of_localPath (h : SafeManifest runId reportRoot keep segments)
    {entry entry' : RunSegmentEntry} (hmem : entry ∈ segments) (hmem' : entry' ∈ segments)
    (hpath : entry.localPath = entry'.localPath) : entry = entry' := by
  obtain ⟨compressed, hname⟩ := h.localPath entry hmem
  obtain ⟨compressed', hname'⟩ := h.localPath entry' hmem'
  rw [hname, hname'] at hpath
  obtain ⟨htype, hnumber⟩ := segmentFileName_inj (joinPath_inj hpath)
  exact List.inj_on_of_nodup_map h.distinct hmem hmem' (Prod.ext htype hnumber)

/-! ## A new entry -/

/-- An entry that has been neither uploaded nor pruned, under its own names. -/
structure Fresh (runId reportRoot : String) (entry : RunSegmentEntry) : Prop where
  segmentId : entry.segmentId = segmentIdOf runId entry.artifactType entry.sequenceNumber
  localPath : ∃ compressed, entry.localPath =
    joinPath reportRoot (segmentFileName entry.artifactType entry.sequenceNumber compressed)
  verified : entry.verified = false
  prunedLocal : entry.prunedLocal = false

theorem concat (h : SafeManifest runId reportRoot keep segments) {entry : RunSegmentEntry}
    (hentry : Fresh runId reportRoot entry)
    (hnew : ∀ other ∈ segments, other.artifactType = entry.artifactType →
      other.sequenceNumber ≠ entry.sequenceNumber) :
    SafeManifest runId reportRoot keep (segments ++ [entry]) := by
  have hentries : ∀ {Q : RunSegmentEntry → Prop}, (∀ other ∈ segments, Q other) → Q entry →
      ∀ other ∈ segments ++ [entry], Q other := by
    intro Q hold hentry
    exact List.forall_mem_append.mpr ⟨hold, List.forall_mem_singleton.mpr hentry⟩
  refine ⟨hentries h.segmentId hentry.segmentId, hentries h.localPath hentry.localPath, ?_,
    hentries h.uploaded ?_, hentries h.verified ?_, hentries (fun other hmem hpruned => ?_) ?_⟩
  · rw [List.map_append, List.nodup_append]
    refine ⟨h.distinct, by simp, ?_⟩
    intro key hkey key' hkey' heq
    obtain ⟨other, hmem, rfl⟩ := List.mem_map.mp hkey
    rw [List.map_singleton, List.mem_singleton] at hkey'
    have hsame := Prod.ext_iff.mp (heq.trans hkey')
    exact hnew other hmem hsame.1 hsame.2
  · simp [hentry.verified]
  · simp [hentry.prunedLocal]
  · refine (h.preserved other hmem hpruned).trans ?_
    exact (List.sublist_append_left segments [entry]).countP_le
  · simp [hentry.prunedLocal]

/-! ## An entry that changes -/

/-- A change of flags that does not take a verification back. -/
structure Revises (entry entry' : RunSegmentEntry) : Prop where
  segmentId : entry'.segmentId = entry.segmentId
  localPath : entry'.localPath = entry.localPath
  key : entry'.key = entry.key
  uploaded : entry'.verified = true → entry'.uploaded = true
  verified : entry.verified = true → entry'.verified = true
  prunedLocal : entry'.prunedLocal = true → entry'.verified = true

section Revised

variable {idx : ℕ} {f : RunSegmentEntry → RunSegmentEntry}
  (hrevises : ∀ entry, segments[idx]? = some entry → Revises entry (f entry))

include hrevises

theorem key_revised {entry : RunSegmentEntry} (hentry : segments[idx]? = some entry) :
    (f entry).artifactType = entry.artifactType ∧
      (f entry).sequenceNumber = entry.sequenceNumber :=
  Prod.ext_iff.mp (hrevises entry hentry).key

theorem map_key_modify :
    (segments.modify idx f).map RunSegmentEntry.key = segments.map RunSegmentEntry.key := by
  refine List.ext_getElem? fun i => ?_
  rw [List.getElem?_map, List.getElem?_map, List.getElem?_modify]
  cases hentry : segments[i]? with
  | none => rfl
  | some entry =>
      by_cases hi : idx = i
      · subst hi
        simp [(hrevises entry hentry).key]
      · simp [hi]

/-- The entries above an entry that were verified still are. -/
theorem verifiedAbove_le_modify (entry : RunSegmentEntry) :
    verifiedAbove segments entry ≤ verifiedAbove (segments.modify idx f) entry := by
  refine Windows.countP_le_countP_modify _ fun other hother htest => ?_
  obtain ⟨hverified, htype, hnumber⟩ := of_decide_eq_true htest
  obtain ⟨htype', hnumber'⟩ := key_revised hrevises hother
  refine decide_eq_true ⟨(hrevises other hother).verified hverified, ?_, ?_⟩
  · rw [htype', htype]
  · rw [hnumber']
    exact hnumber

theorem modify (h : SafeManifest runId reportRoot keep segments)
    (hpruned : ∀ entry, segments[idx]? = some entry → (f entry).prunedLocal = true →
      entry.prunedLocal = true ∨ keep ≤ verifiedAbove segments entry) :
    SafeManifest runId reportRoot keep (segments.modify idx f) := by
  have hentries : ∀ {Q : RunSegmentEntry → Prop}, (∀ entry ∈ segments, Q entry) →
      (∀ entry, segments[idx]? = some entry → Q (f entry)) →
        ∀ entry ∈ segments.modify idx f, Q entry := by
    intro Q hold hnew entry hmem
    rcases Windows.mem_modify hmem with hmem | ⟨other, hother, rfl⟩
    · exact hold entry hmem
    · exact hnew other hother
  have habove := verifiedAbove_le_modify hrevises
  refine ⟨hentries h.segmentId ?_, hentries h.localPath ?_, ?_, hentries h.uploaded ?_,
    hentries h.verified ?_, hentries (fun entry hmem hflag => ?_) ?_⟩
  · intro entry hentry
    obtain ⟨htype, hnumber⟩ := key_revised hrevises hentry
    rw [(hrevises entry hentry).segmentId, htype, hnumber]
    exact h.segmentId entry (List.mem_of_getElem? hentry)
  · intro entry hentry
    obtain ⟨htype, hnumber⟩ := key_revised hrevises hentry
    rw [(hrevises entry hentry).localPath, htype, hnumber]
    exact h.localPath entry (List.mem_of_getElem? hentry)
  · rw [map_key_modify hrevises]
    exact h.distinct
  · exact fun entry hentry => (hrevises entry hentry).uploaded
  · exact fun entry hentry => (hrevises entry hentry).prunedLocal
  · exact (h.preserved entry hmem hflag).trans (habove entry)
  · intro entry hentry hflag
    obtain ⟨htype, hnumber⟩ := key_revised hrevises hentry
    have hsame : verifiedAbove (segments.modify idx f) (f entry) =
        verifiedAbove (segments.modify idx f) entry := by
      unfold verifiedAbove
      rw [htype, hnumber]
    rw [hsame]
    refine le_trans ?_ (habove entry)
    rcases hpruned entry hentry hflag with hold | hkeep
    · exact h.preserved entry (List.mem_of_getElem? hentry) hold
    · exact hkeep

end Revised

end SafeManifest

/-! ## Entries that may go -/

theorem mem_verifiedIndexes {segments : List RunSegmentEntry} {artifactType : String} {idx : ℕ}
    (h : idx ∈ verifiedIndexes segments artifactType) :
    ∃ entry, segments[idx]? = some entry ∧ entry.verified = true ∧
      entry.artifactType = artifactType := by
  unfold verifiedIndexes at h
  rw [List.mem_insertionSort] at h
  obtain ⟨⟨entry, i⟩, hmem, rfl⟩ := List.mem_map.mp h
  obtain ⟨hentry, hkeep⟩ := List.mem_filter.mp hmem
  exact ⟨entry, List.mk_mem_zipIdx_iff_getElem?.mp hentry, of_decide_eq_true hkeep⟩

theorem sequenceAt_of_getElem? {segments : List RunSegmentEntry} {idx : ℕ}
    {entry : RunSegmentEntry} (h : segments[idx]? = some entry) :
    sequenceAt segments idx = entry.sequenceNumber := by
  rw [sequenceAt, h]
  rfl

/-- The verified entries of a type, by strictly increasing number. -/
theorem pairwise_verifiedIndexes {segments : List RunSegmentEntry}
    (h : (segments.map RunSegmentEntry.key).Nodup) (artifactType : String) :
    (verifiedIndexes segments artifactType).Pairwise fun i j =>
      sequenceAt segments i < sequenceAt segments j := by
  have hsorted : (verifiedIndexes segments artifactType).Pairwise fun i j =>
      sequenceAt segments i ≤ sequenceAt segments j :=
    List.pairwise_insertionSort _ _
  have hnodup : (verifiedIndexes segments artifactType).Nodup := by
    unfold verifiedIndexes
    rw [List.Perm.nodup_iff (List.perm_insertionSort _ _)]
    exact (Windows.pairwise_filter_zipIdx (fun segment : RunSegmentEntry =>
      decide (segment.verified ∧ segment.artifactType = artifactType)) segments).nodup
  refine (hsorted.and hnodup).imp_of_mem fun {i j} hi hj hij => lt_of_le_of_ne hij.1 fun heq => ?_
  obtain ⟨entry, hentry, -, htype⟩ := mem_verifiedIndexes hi
  obtain ⟨entry', hentry', -, htype'⟩ := mem_verifiedIndexes hj
  rw [sequenceAt_of_getElem? hentry, sequenceAt_of_getElem? hentry'] at heq
  -- entries of one type and one number have one index
  have hkey : (segments.map RunSegmentEntry.key)[i]? = (segments.map RunSegmentEntry.key)[j]? := by
    rw [List.getElem?_map, List.getElem?_map, hentry, hentry']
    exact congrArg some (Prod.ext (htype.trans htype'.symm) heq)
  have hi' : i < (segments.map RunSegmentEntry.key).length := by
    rw [List.length_map]
    exact (List.getElem?_eq_some_iff.mp hentry).1
  exact hij.2 ((List.getElem?_inj hi' h).mp hkey)

/-- An entry that may go is verified and has enough verified ones above it. -/
theorem SegmentManager.prunable {self : SegmentManager}
    (h : (self.segments.map RunSegmentEntry.key).Nodup) {artifactType : String} {idx : ℕ}
    (hmem : idx ∈ self.prunableIndexes artifactType) :
    ∃ entry, self.segments[idx]? = some entry ∧ entry.verified = true ∧
      self.keepLastN ≤ verifiedAbove self.segments entry := by
  obtain ⟨hidx, hlast⟩ := List.mem_filter.mp hmem
  obtain ⟨entry, hentry, hverified, htype⟩ := mem_verifiedIndexes hidx
  refine ⟨entry, hentry, hverified, ?_⟩
  refine (Windows.le_countP_of_not_mem_last (pairwise_verifiedIndexes h artifactType) hidx
    (by simpa using hlast)).trans_eq ?_
  have htest : ∀ pair ∈ self.segments.zipIdx.filter fun pair =>
      decide (pair.1.verified ∧ pair.1.artifactType = artifactType),
      (decide (sequenceAt self.segments idx < sequenceAt self.segments pair.2) = true ↔
        decide (entry.sequenceNumber < pair.1.sequenceNumber) = true) := by
    intro pair hpair
    have hother := List.mem_zipIdx_iff_getElem?.mp (List.mem_of_mem_filter hpair)
    rw [sequenceAt_of_getElem? hentry, sequenceAt_of_getElem? hother]
  calc (verifiedIndexes self.segments artifactType).countP (fun j =>
        decide (sequenceAt self.segments idx < sequenceAt self.segments j))
      = ((self.segments.zipIdx.filter fun pair =>
          decide (pair.1.verified ∧ pair.1.artifactType = artifactType)).map Prod.snd).countP
            (fun j => decide (sequenceAt self.segments idx < sequenceAt self.segments j)) :=
        (List.perm_insertionSort _ _).countP_eq _
    _ = (self.segments.zipIdx.filter fun pair =>
          decide (pair.1.verified ∧ pair.1.artifactType = artifactType)).countP
            (fun pair => decide (entry.sequenceNumber < pair.1.sequenceNumber)) := by
        rw [List.countP_map]
        exact List.countP_congr htest
    _ = verifiedAbove self.segments entry := by
        rw [Windows.countP_filter_zipIdx (fun segment : RunSegmentEntry =>
          decide (segment.verified ∧ segment.artifactType = artifactType))
          (fun segment => decide (entry.sequenceNumber < segment.sequenceNumber))]
        refine List.countP_congr fun segment _ => ?_
        simp [htype, and_assoc]

end PumpLaunchTrader
