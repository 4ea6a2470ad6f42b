import PumpLaunchTrader.Ingest.Deduplication

/-! # Reported slot gaps

A gap is measured from the slot that was received last, which late slots move backwards. It
is genuine when no slot that it covers was received before. -/

namespace PumpLaunchTrader

/-- The numbers of an update are of the source's type `u64`. -/
def SlotUpdate.InRange (update : SlotUpdate) : Prop :=
  update.slot < 2 ^ 64 ∧ ∀ parent, update.parent = some parent → parent < 2 ^ 64

def GeyserEnvelope.slotUpdate (envelope : GeyserEnvelope) : Option SlotUpdate :=
  match envelope.message with
  | .slot update => some update
  | _ => none

/-- The slots that arrive, in order. -/
def receivedSlots (envelopes : List (GeyserEnvelope × Stamp)) : List ℕ :=
  envelopes.filterMap fun item => item.1.slotUpdate.map SlotUpdate.slot

/-- A gap has an end that is not before its start, and covers no slot that was seen. -/
def CoversUnseen (seen : List ℕ) (gap : DataGapEvent) : Prop :=
  ∃ endSlot, gap.endSlot = some endSlot ∧ gap.startSlot ≤ endSlot ∧
    ∀ slot ∈ seen, ¬ (gap.startSlot ≤ slot ∧ slot ≤ endSlot)

/-- The gaps that are reported with an update cover no slot that was seen before it, and a
jump of the highest slot is reported with the slots that it leaves out. -/
structure GapsGenuine (tolerance : ℕ) (seen : List ℕ) (update : SlotUpdate)
    (outputs : List IngestOutput) : Prop where
  unseen : ∀ info gap, .dataGap info gap ∈ outputs → CoversUnseen seen gap
  covering : ∀ highest, seen.max? = some highest → highest + tolerance + 1 < update.slot →
    ∃ info gap, .dataGap info gap ∈ outputs ∧ gap.startSlot = highest + 1 ∧
      gap.endSlot = some (update.slot - 1)

/-- No slot seen before lies between the last one and the update, or up to the parent where
the parent is what is ahead of the last one. -/
def NoneSkipped (tolerance : ℕ) (seen : List ℕ) (update : SlotUpdate) : Prop :=
  ∀ last, seen.getLast? = some last →
    if last + tolerance + 1 < update.slot then
      ∀ slot ∈ seen, ¬ (last < slot ∧ slot < update.slot)
    else
      ∀ parent, update.parent = some parent → last + tolerance < parent →
        ∀ slot ∈ seen, ¬ (last < slot ∧ slot ≤ parent)

namespace GeyserIngestService

/-! ## The last slot -/

/-- An envelope leaves the configuration; of the tracker it changes what a slot update reports. -/
theorem processEnvelope_tracker (service : GeyserIngestService)
    (item : GeyserEnvelope × Stamp) :
    (service.processEnvelope item.1 item.2).1.config = service.config ∧
      (service.processEnvelope item.1 item.2).1.health.lastSlotSeen =
        ((item.1.slotUpdate.map SlotUpdate.slot).orElse fun _ =>
          service.health.lastSlotSeen) := by
  unfold processEnvelope GeyserEnvelope.slotUpdate
  cases item.1.message with
  | slot update =>
      simp only [processSlot]
      split <;> exact ⟨rfl, rfl⟩
  | transaction update =>
      simp only [processTransaction]
      split <;> exact ⟨rfl, rfl⟩
  | account update =>
      simp only [processAccount]
      split
      · split <;> exact ⟨rfl, rfl⟩
      · exact ⟨rfl, rfl⟩
  | block update => exact ⟨rfl, rfl⟩

theorem lastSlotSeen_runStream (config : GeyserConfig)
    (envelopes : List (GeyserEnvelope × Stamp)) :
    ((new config).runStream envelopes).1.health.lastSlotSeen =
      (receivedSlots envelopes).getLast? := by
  induction envelopes using List.reverseRecOn with
  | nil => rfl
  | append_singleton envelopes item ih =>
      rw [runStream_concat, (processEnvelope_tracker _ item).2, ih]
      unfold receivedSlots
      rw [List.filterMap_append]
      cases h : item.1.slotUpdate.map SlotUpdate.slot with
      | none => simp [h]
      | some slot => simp [h]

theorem config_runStream (config : GeyserConfig) (envelopes : List (GeyserEnvelope × Stamp)) :
    ((new config).runStream envelopes).1.config = config := by
  induction envelopes using List.reverseRecOn with
  | nil => rfl
  | append_singleton envelopes item ih =>
      rw [runStream_concat, (processEnvelope_tracker _ item).1, ih]

/-! ## One update -/

/-- What the gap of an update covers. -/
theorem map_detectGap {service : GeyserIngestService} {last : ℕ}
    (hlast : service.health.lastSlotSeen = some last) {update : SlotUpdate}
    (hrange : update.InRange) :
    (service.detectGap update.slot update.parent).map
        (fun gap => (gap.startSlot, gap.endSlot)) =
      if last + service.config.slotGapTolerance + 1 < update.slot then
        some (last + 1, some (update.slot - 1))
      else
        (update.parent.filter fun parent => last + service.config.slotGapTolerance < parent).map
          fun parent => (last + 1, some parent) := by
  obtain ⟨hslot, hparent⟩ := hrange
  -- below the bound of the type the saturating sums are exact
  have hjump : saturatingAdd (saturatingAdd last service.config.slotGapTolerance) 1 <
      update.slot ↔ last + service.config.slotGapTolerance + 1 < update.slot := by
    unfold saturatingAdd
    omega
  unfold detectGap
  rw [hlast]
  simp only [hjump]
  split
  · rfl
  · cases hcase : update.parent with
    | none => rfl
    | some parent =>
        have hbound := hparent parent hcase
        have hahead : saturatingAdd last service.config.slotGapTolerance < parent ↔
            last + service.config.slotGapTolerance < parent := by
          unfold saturatingAdd
          omega
        simp only [hahead, Option.filter_some, decide_eq_true_eq]
        split <;> rfl

theorem mem_processEnvelope_dataGap {service : GeyserIngestService}
    {item : GeyserEnvelope × Stamp} {update : SlotUpdate}
    (hupdate : item.1.slotUpdate = some update) (gap : DataGapEvent) :
    (∃ info, .dataGap info gap ∈ (service.processEnvelope item.1 item.2).2) ↔
      service.detectGap update.slot update.parent = some gap := by
  have hmessage : item.1.message = .slot update := by
    unfold GeyserEnvelope.slotUpdate at hupdate
    cases h : item.1.message with
    | slot other =>
        rw [h] at hupdate
        cases hupdate
        rfl
    | transaction other | account other | block other =>
        rw [h] at hupdate
        cases hupdate
  -- the connection flag is not read
  have hdetect : detectGap { service with health := { service.health with connected := true } }
      update.slot update.parent = service.detectGap update.slot update.parent := rfl
  simp only [processEnvelope, hmessage, processSlot, hdetect]
  cases service.detectGap update.slot update.parent with
  | none => simp
  | some found =>
      simp only [List.mem_cons, IngestOutput.dataGap.injEq, reduceCtorEq, List.not_mem_nil,
        or_false, Option.some.injEq]
      constructor
      · rintro ⟨info, -, rfl⟩
        rfl
      · rintro rfl
        exact ⟨_, rfl, rfl⟩

/-- The gaps of an update by what `detect_gap` makes of it. -/
theorem gapsGenuine_iff_detectGap {service : GeyserIngestService} {seen : List ℕ}
    {item : GeyserEnvelope × Stamp} {update : SlotUpdate}
    (hupdate : item.1.slotUpdate = some update) (tolerance : ℕ) :
    GapsGenuine tolerance seen update (service.processEnvelope item.1 item.2).2 ↔
      (∀ gap, service.detectGap update.slot update.parent = some gap → CoversUnseen seen gap) ∧
      ∀ highest, seen.max? = some highest → highest + tolerance + 1 < update.slot →
        ∃ gap, service.detectGap update.slot update.parent = some gap ∧
          gap.startSlot = highest + 1 ∧ gap.endSlot = some (update.slot - 1) := by
  simp only [← mem_processEnvelope_dataGap hupdate]
  constructor
  · rintro ⟨hunseen, hcovering⟩
    refine ⟨fun gap ⟨info, hgap⟩ => hunseen info gap hgap, fun highest hhighest hfar => ?_⟩
    obtain ⟨info, gap, hgap, hbounds⟩ := hcovering highest hhighest hfar
    exact ⟨gap, ⟨info, hgap⟩, hbounds⟩
  · rintro ⟨hunseen, hcovering⟩
    refine ⟨fun info gap hgap => hunseen gap ⟨info, hgap⟩, fun highest hhighest hfar => ?_⟩
    obtain ⟨gap, ⟨info, hgap⟩, hbounds⟩ := hcovering highest hhighest hfar
    exact ⟨info, gap, hgap, hbounds⟩

variable {service : GeyserIngestService} {seen : List ℕ} {last : ℕ} {update : SlotUpdate}

/-- After a jump the gap covers what lies between the last slot and the new one. -/
theorem gapsGenuine_iff_of_jump (hseen : service.health.lastSlotSeen = some last)
    (hmem : last ∈ seen) {item : GeyserEnvelope × Stamp}
    (hupdate : item.1.slotUpdate = some update) (hrange : update.InRange)
    (hjump : last + service.config.slotGapTolerance + 1 < update.slot) :
    GapsGenuine service.config.slotGapTolerance seen update
        (service.processEnvelope item.1 item.2).2 ↔
      ∀ slot ∈ seen, ¬ (last < slot ∧ slot < update.slot) := by
  have hmap := map_detectGap hseen hrange
  rw [if_pos hjump, Option.map_eq_some_iff] at hmap
  obtain ⟨gap, hdetect, hbounds⟩ := hmap
  obtain ⟨hstart, hend⟩ : gap.startSlot = last + 1 ∧ gap.endSlot = some (update.slot - 1) :=
    Prod.mk.inj hbounds
  rw [gapsGenuine_iff_detectGap hupdate]
  simp only [hdetect, Option.some.injEq, forall_eq', exists_eq_left']
  constructor
  · rintro ⟨⟨endSlot, hendSlot, -, hnot⟩, -⟩ slot hslot ⟨hafter, hbefore⟩
    rw [hend, Option.some.injEq] at hendSlot
    exact hnot slot hslot ⟨by omega, by omega⟩
  · intro hnot
    refine ⟨⟨update.slot - 1, hend, by omega, ?_⟩, ?_⟩
    · rintro slot hslot ⟨hafter, hbefore⟩
      exact hnot slot hslot ⟨by omega, by omega⟩
    · -- the highest slot lies below the new one, so it is the last one
      intro highest hhighest hfar
      obtain ⟨hin, hmax⟩ := List.max?_eq_some_iff.mp hhighest
      have hle := hmax last hmem
      have hhigh := hnot highest hin
      exact ⟨by omega, hend⟩

/-- Without a jump a gap is reported for a parent that is ahead. -/
theorem gapsGenuine_iff_of_no_jump (hseen : service.health.lastSlotSeen = some last)
    (hmem : last ∈ seen) {item : GeyserEnvelope × Stamp}
    (hupdate : item.1.slotUpdate = some update) (hrange : update.InRange)
    (hjump : ¬ last + service.config.slotGapTolerance + 1 < update.slot) :
    GapsGenuine service.config.slotGapTolerance seen update
        (service.processEnvelope item.1 item.2).2 ↔
      ∀ parent, update.parent = some parent →
        last + service.config.slotGapTolerance < parent →
          ∀ slot ∈ seen, ¬ (last < slot ∧ slot ≤ parent) := by
  have hmap := map_detectGap hseen hrange
  rw [if_neg hjump] at hmap
  rw [gapsGenuine_iff_detectGap hupdate]
  constructor
  · rintro ⟨hunseen, -⟩ parent hparent hahead slot hslot ⟨hafter, hbefore⟩
    have hfilter : (update.parent.filter fun parent =>
        last + service.config.slotGapTolerance < parent) = some parent := by
      rw [Option.filter_eq_some_iff]
      exact ⟨hparent, by simpa using hahead⟩
    rw [hfilter, Option.map_some, Option.map_eq_some_iff] at hmap
    obtain ⟨gap, hdetect, hbounds⟩ := hmap
    obtain ⟨hstart, hend⟩ : gap.startSlot = last + 1 ∧ gap.endSlot = some parent :=
      Prod.mk.inj hbounds
    obtain ⟨endSlot, hendSlot, -, hnot⟩ := hunseen gap hdetect
    rw [hend, Option.some.injEq] at hendSlot
    exact hnot slot hslot ⟨by omega, by omega⟩
  · intro hnot
    refine ⟨?_, ?_⟩
    · intro gap hdetect
      rw [hdetect, Option.map_some, eq_comm, Option.map_eq_some_iff] at hmap
      obtain ⟨parent, hfilter, hbounds⟩ := hmap
      obtain ⟨hstart, hend⟩ : last + 1 = gap.startSlot ∧ some parent = gap.endSlot :=
        Prod.mk.inj hbounds
      obtain ⟨hparent, hahead⟩ := Option.filter_eq_some_iff.mp hfilter
      rw [decide_eq_true_eq] at hahead
      refine ⟨parent, hend.symm, by omega, ?_⟩
      rintro slot hslot ⟨hafter, hbefore⟩
      exact hnot parent hparent hahead slot hslot ⟨by omega, hbefore⟩
    · intro highest hhighest hfar
      have hle := (List.max?_eq_some_iff.mp hhighest).2 last hmem
      omega

/-- The gaps of an update are genuine exactly when no slot seen before is skipped. -/
theorem gapsGenuine_iff (hseen : service.health.lastSlotSeen = seen.getLast?)
    {item : GeyserEnvelope × Stamp} (hupdate : item.1.slotUpdate = some update)
    (hrange : update.InRange) :
    GapsGenuine service.config.slotGapTolerance seen update
        (service.processEnvelope item.1 item.2).2 ↔
      NoneSkipped service.config.slotGapTolerance seen update := by
  unfold NoneSkipped
  cases hlast : seen.getLast? with
  | none =>
      rw [hlast] at hseen
      obtain rfl := List.getLast?_eq_none_iff.mp hlast
      have hnone : service.detectGap update.slot update.parent = none := by
        unfold detectGap
        rw [hseen]
      rw [gapsGenuine_iff_detectGap hupdate, hnone]
      simp
  | some last =>
      rw [hlast] at hseen
      have hmem : last ∈ seen := List.mem_of_getLast? hlast
      simp only [Option.some.injEq, forall_eq']
      split
      next hjump => exact gapsGenuine_iff_of_jump hseen hmem hupdate hrange hjump
      next hjump => exact gapsGenuine_iff_of_no_jump hseen hmem hupdate hrange hjump

/-! ## Runs -/

/-- Every gap that a run of envelopes reports is genuine, and no jump of the highest slot is
missed, exactly when no update skips a slot that was received before it. -/
theorem gaps_genuine_iff (config : GeyserConfig) (envelopes : List (GeyserEnvelope × Stamp))
    (hrange : ∀ item ∈ envelopes, ∀ update, item.1.slotUpdate = some update → update.InRange) :
    (∀ before item after, envelopes = before ++ item :: after →
      ∀ update, item.1.slotUpdate = some update →
        GapsGenuine config.slotGapTolerance (receivedSlots before) update
          (((new config).runStream before).1.processEnvelope item.1 item.2).2) ↔
    ∀ before item after, envelopes = before ++ item :: after →
      ∀ update, item.1.slotUpdate = some update →
        NoneSkipped config.slotGapTolerance (receivedSlots before) update := by
  have hstep : ∀ before item after, envelopes = before ++ item :: after →
      ∀ update, item.1.slotUpdate = some update →
        (GapsGenuine config.slotGapTolerance (receivedSlots before) update
            (((new config).runStream before).1.processEnvelope item.1 item.2).2 ↔
          NoneSkipped config.slotGapTolerance (receivedSlots before) update) := by
    intro before item after henvelopes update hupdate
    have hmem : item ∈ envelopes := by rw [henvelopes]; simp
    have h := gapsGenuine_iff (lastSlotSeen_runStream config before) hupdate
      (hrange item hmem update hupdate)
    rwa [config_runStream] at h
  constructor
  · intro h before item after henvelopes update hupdate
    exact (hstep before item after henvelopes update hupdate).mp
      (h before item after henvelopes update hupdate)
  · intro h before item after henvelopes update hupdate
    exact (hstep before item after henvelopes update hupdate).mpr
      (h before item after henvelopes update hupdate)

/-- While the slots rise, none of them is skipped. -/
theorem noneSkipped_of_sorted {tolerance : ℕ} {seen : List ℕ} (h : seen.Pairwise (· ≤ ·))
    (update : SlotUpdate) : NoneSkipped tolerance seen update := by
  intro last hlast
  have hle : ∀ slot ∈ seen, slot ≤ last := by
    obtain ⟨front, rfl⟩ := List.getLast?_eq_some_iff.mp hlast
    intro slot hslot
    rcases List.mem_append.mp hslot with hfront | hself
    · exact (List.pairwise_append.mp h).2.2 slot hfront last (by simp)
    · exact le_of_eq (List.mem_singleton.mp hself)
  split
  · exact fun slot hslot hafter => absurd hafter.1 (not_lt.mpr (hle slot hslot))
  · exact fun parent _ _ slot hslot hafter => absurd hafter.1 (not_lt.mpr (hle slot hslot))

/-! ### A late slot -/

/-- An update of a slot whose parent is the slot before it. -/
def slotEnvelope (slot : ℕ) : GeyserEnvelope × Stamp :=
  ({ receivedAt := 0
     observedAtMonotonicNs := 0
     sourceLatencyMs := none
     message := .slot { slot := slot, parent := some (slot - 1), status := .processed } },
    { eventId := ⟨"slot"⟩, gapEventId := ⟨"gap"⟩, now := 0, observedNs := 0 })

theorem slotEnvelope_inRange {slot : ℕ} (h : slot < 2 ^ 64) {update : SlotUpdate}
    (hupdate : (slotEnvelope slot).1.slotUpdate = some update) : update.InRange := by
  cases hupdate
  refine ⟨h, ?_⟩
  rintro _ ⟨⟩
  exact lt_of_le_of_lt (Nat.sub_le slot 1) h

/-- The gap between two rising slots is genuine. -/
theorem gaps_genuine_iff_rising :
    GapsGenuine 1 (receivedSlots [slotEnvelope 10])
      { slot := 20, parent := some 19, status := .processed }
      (((new {}).runStream [slotEnvelope 10]).1.processEnvelope (slotEnvelope 20).1
        (slotEnvelope 20).2).2 := by
  refine (gaps_genuine_iff {} [slotEnvelope 10, slotEnvelope 20] ?_).mpr ?_
    [slotEnvelope 10] (slotEnvelope 20) [] rfl _ rfl
  · intro item hitem update hupdate
    simp only [List.mem_cons, List.not_mem_nil, or_false] at hitem
    rcases hitem with rfl | rfl
    · exact slotEnvelope_inRange (by decide) hupdate
    · exact slotEnvelope_inRange (by decide) hupdate
  · intro before item after henvelopes update _
    apply noneSkipped_of_sorted
    have hsorted : (receivedSlots [slotEnvelope 10, slotEnvelope 20]).Pairwise (· ≤ ·) := by
      decide
    rw [henvelopes] at hsorted
    unfold receivedSlots at hsorted
    rw [List.filterMap_append] at hsorted
    exact (List.pairwise_append.mp hsorted).1

/-- The gap reported with slot 20 after slots 10 and 5. -/
def lateGap : DataGapEvent :=
  { gapType := .slotGap
    source := .geyserProcessed
    startSlot := 6
    endSlot := some 19
    affectedTokens := []
    severity := .high
    tradeAllowed := false
    recoveryAction := "pause trading until gap is reconciled" }

/-- Slot 10 was received, and is reported missing after a late slot. -/
theorem late_slot_reported :
    ¬ ∀ (config : GeyserConfig) (envelopes : List (GeyserEnvelope × Stamp)),
      (∀ item ∈ envelopes, ∀ update, item.1.slotUpdate = some update → update.InRange) →
        ∀ before item after, envelopes = before ++ item :: after →
          ∀ update, item.1.slotUpdate = some update →
            GapsGenuine config.slotGapTolerance (receivedSlots before) update
              (((new config).runStream before).1.processEnvelope item.1 item.2).2 := by
  intro h
  have hrange : ∀ item ∈ [slotEnvelope 10, slotEnvelope 5, slotEnvelope 20], ∀ update,
      item.1.slotUpdate = some update → update.InRange := by
    intro item hitem update hupdate
    simp only [List.mem_cons, List.not_mem_nil, or_false] at hitem
    rcases hitem with rfl | rfl | rfl
    · exact slotEnvelope_inRange (by decide) hupdate
    · exact slotEnvelope_inRange (by decide) hupdate
    · exact slotEnvelope_inRange (by decide) hupdate
  have hgenuine := h {} _ hrange [slotEnvelope 10, slotEnvelope 5] (slotEnvelope 20) [] rfl _ rfl
  have hmem : .dataGap ((slotEnvelope 20).1.metaForGap (slotEnvelope 20).2 20) lateGap ∈
      (((new {}).runStream [slotEnvelope 10, slotEnvelope 5]).1.processEnvelope
        (slotEnvelope 20).1 (slotEnvelope 20).2).2 := by
    decide +kernel
  obtain ⟨endSlot, hend, -, hunseen⟩ := hgenuine.unseen _ lateGap hmem
  cases hend
  exact hunseen 10 (by decide) (by decide)

end GeyserIngestService

end PumpLaunchTrader
