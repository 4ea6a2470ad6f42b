import PumpLaunchTrader.Lib.Runs
import PumpLaunchTrader.Model.DatasetIndex

/-! # Merging the dataset index

The merge of entries is associative, so that the entry of a run is the merge of all entries that
came in for it, however they were grouped. It keeps the evidence of the entry that is there. An
upload that nobody else's upload overtakes therefore keeps what the bucket knew. -/

namespace PumpLaunchTrader

/-! ## The laws of the parts -/

theorem strongerRunStatus_assoc (a b c : String) :
    strongerRunStatus c (strongerRunStatus b a) = strongerRunStatus (strongerRunStatus c b) a :=
  Registry.stronger_assoc fun _ => Nat.zero_le _

theorem strongerFinalizationStatus_assoc (a b c : String) :
    strongerFinalizationStatus c (strongerFinalizationStatus b a) =
      strongerFinalizationStatus (strongerFinalizationStatus c b) a :=
  Registry.stronger_assoc fun _ => Nat.zero_le _

theorem mathCount_assoc (first second : Bool) (a b c : ℕ) :
    mathCount second c (mathCount first b a) =
      mathCount (second || first) (mathCount second c b) a := by
  cases first <;> cases second <;> simp [mathCount, preferNonzero, Registry.prefer_assoc]

/-- Tuning is allowed by an entry that allows it, if it was or if the entry brings new math. -/
theorem tuning_assoc (first second a b c : Bool) :
    (c && ((b && (a || first)) || second)) =
      ((c && (b || second)) && (a || (second || first))) := by
  revert first second a b c
  decide

theorem fallback_assoc (first second a b c : Bool) :
    (c || (!second && (b || (!first && a)))) =
      ((c || (!second && b)) || (!(second || first) && a)) := by
  revert first second a b c
  decide

theorem ManifestEvidence.merge_assoc (a b c : ManifestEvidence) :
    (a.merge b).merge c = a.merge (b.merge c) := by
  simp [merge, strongerRunStatus_assoc, strongerFinalizationStatus_assoc,
    preferNonemptyString, Registry.prefer_assoc]

theorem EdgeEvidence.merge_assoc (a b c : EdgeEvidence) :
    (a.merge b).merge c = a.merge (b.merge c) := by
  simp [merge, preferNonzero, Registry.prefer_assoc, Bool.or_assoc]

theorem ResearchEvidence.merge_assoc (a b c : ResearchEvidence) :
    (a.merge b).merge c = a.merge (b.merge c) := by
  simp [merge, preferNonzero, preferNonzeroDecimal, preferNondefaultReadinessLevel, preferSome,
    Registry.prefer_assoc, Option.or_assoc, Bool.or_assoc]

@[simp] theorem isSome_preferSome {α : Type} (incoming existing : Option α) :
    (preferSome incoming existing).isSome = (incoming.isSome || existing.isSome) := by
  simp [preferSome]

theorem ResearchEvidence.hasResearchSemantics_merge (a b : ResearchEvidence) :
    (a.merge b).hasResearchSemantics = (b.hasResearchSemantics || a.hasResearchSemantics) := by
  simp only [hasResearchSemantics, merge, isSome_preferSome]
  ac_rfl

theorem MathEvidence.hasMathSemantics_merge (a b : MathEvidence) :
    (a.merge b).hasMathSemantics = (b.hasMathSemantics || a.hasMathSemantics) := by
  simp only [hasMathSemantics, merge, isSome_preferSome]
  ac_rfl

theorem MathEvidence.merge_assoc (a b c : MathEvidence) :
    (a.merge b).merge c = a.merge (b.merge c) := by
  have hmath := hasMathSemantics_merge b c
  simp only [merge, mk.injEq] at hmath ⊢
  simp only [hmath]
  simp [mathCount_assoc, tuning_assoc, preferSome, Option.or_assoc, Bool.or_assoc]

theorem ReplayWarnings.merge_assoc (a b c : ReplayWarnings) (first second : Bool) :
    (a.merge b first).merge c second = a.merge (b.merge c second) (second || first) := by
  simp [merge, fallback_assoc, preferNonzero, preferSome, unionStringLists,
    Registry.prefer_assoc, Registry.union_assoc, Option.or_assoc, Bool.or_assoc, max_assoc]

/-! ## Entries -/

variable {ρ : Type}

theorem mergeDatasetIndexEntry_assoc (a b c : DatasetIndexRunEntry ρ) :
    mergeDatasetIndexEntry (mergeDatasetIndexEntry a b) c =
      mergeDatasetIndexEntry a (mergeDatasetIndexEntry b c) := by
  simp [mergeDatasetIndexEntry, ManifestEvidence.merge_assoc, EdgeEvidence.merge_assoc,
    ResearchEvidence.merge_assoc, MathEvidence.merge_assoc, ReplayWarnings.merge_assoc,
    ResearchEvidence.hasResearchSemantics_merge]

/-- A field of which an entry may say nothing. -/
structure EntryField (ρ : Type) where
  Value : Type
  blank : Value
  read : DatasetIndexRunEntry ρ → Value

/-- The flags that an entry may have. -/
def flags : List (DatasetIndexRunEntry ρ → Bool) :=
  [(·.edgeMode), (·.edgeSourceReady), (·.edgeSourceComplete), (·.edgeDatasetComplete),
    (·.researchOutputsAvailable), (·.researchWorkerProcessed), (·.researchR2Verified),
    (·.researchDerivedReady), (·.diagnosticBacktestingAllowed), (·.hypothesisShortlistAvailable),
    (·.fallbackUsed), (·.normalizedEventsMissing), (·.normalizedReplayWarning),
    (·.normalizedReplayAffected)]

/-- The texts that an entry may tell. -/
def texts : List (DatasetIndexRunEntry ρ → String) :=
  [(·.localManifestPath), (·.remoteManifestKey), (·.r2FullVerificationStatus),
    (·.r2ObjectVerificationStatus), (·.r2FullConsistencyStatus)]

def counts : List (DatasetIndexRunEntry ρ → ℕ) :=
  [(·.edgeSegmentsCount), (·.edgeSegmentsVerified), (·.edgeSegmentsRemoteBytes),
    (·.edgeSegmentsLocalBytes), (·.normalizedEventsSegmentsCount),
    (·.normalizedEventsSegmentsVerified), (·.sourceEventsSegmentsCount),
    (·.sourceEventsSegmentsVerified), (·.edgeEventsSegmentsCount),
    (·.edgeTransactionsSegmentsCount), (·.edgeAccountsSegmentsCount), (·.edgeSlotsSegmentsCount),
    (·.edgeDataGapsSegmentsCount), (·.researchR2VerifiedCount), (·.researchR2FailedCount),
    (·.segmentWarningCount)]

/-- The fields that may be missing. -/
def optionals : List (EntryField ρ) :=
  [⟨_, none, (·.researchLatestDerivedRunId)⟩, ⟨_, none, (·.researchOutputsRemotePrefix)⟩,
    ⟨_, none, (·.featureOutputsRemoteKey)⟩, ⟨_, none, (·.backtestOutputsRemoteKey)⟩,
    ⟨_, none, (·.calibrationOutputsRemoteKey)⟩, ⟨_, none, (·.decisionOutputsRemoteKey)⟩,
    ⟨_, none, (·.fillOutputsRemoteKey)⟩, ⟨_, none, (·.researchManifestRemoteKey)⟩,
    ⟨_, none, (·.mathVersion)⟩, ⟨_, none, (·.holderMathVersion)⟩,
    ⟨_, none, (·.mathCorrectnessStatus)⟩, ⟨_, none, (·.holderParityStatus)⟩,
    ⟨_, none, (·.topHolderParityStatus)⟩, ⟨_, none, (·.devHoldingParityStatus)⟩,
    ⟨_, none, (·.holderInvariantStatus)⟩, ⟨_, none, (·.executablePnlTotal)⟩,
    ⟨_, none, (·.rawPnlTotal)⟩, ⟨_, none, (·.artifactExcludedPnlTotal)⟩,
    ⟨_, none, (·.metricParityV2)⟩, ⟨_, none, (·.readinessV2)⟩,
    ⟨_, none, (·.labelGeneratorVersion)⟩, ⟨_, none, (·.canonicalLabelStatus)⟩,
    ⟨_, none, (·.priceCoverageStatus)⟩, ⟨_, none, (·.marketCapCoverageStatus)⟩,
    ⟨_, none, (·.curveProgressCoverageStatus)⟩, ⟨_, none, (·.mfeMaeLabelStatus)⟩,
    ⟨_, none, (·.diagnosticBacktestPackStatus)⟩, ⟨_, none, (·.canonicalPricePathVersion)⟩,
    ⟨_, none, (·.curveCoverageStatus)⟩, ⟨_, none, (·.labelCoverageStatus)⟩,
    ⟨_, none, (·.diagnosticBacktestInterpretationStatus)⟩,
    ⟨_, none, (·.diagnosticBacktestPhase)⟩, ⟨_, none, (·.diagnosticBacktestStatus)⟩,
    ⟨_, none, (·.fallbackReason)⟩, ⟨_, none, (·.fallbackSource)⟩]

/-- The fields that an entry leaves to the one that is there where it says nothing of them. -/
def fields : List (EntryField ρ) :=
  flags.map (EntryField.mk Bool false) ++ texts.map (EntryField.mk String "") ++
    counts.map (EntryField.mk ℕ 0) ++ optionals ++
    [⟨_, default, (·.researchDerivedReadinessLevel)⟩, ⟨_, 0, (·.researchReplayConfidence)⟩]

/-- How far a run and its upload got. -/
def statuses : List ((String → ℕ) × (DatasetIndexRunEntry ρ → String)) :=
  [(runStatusRank, (·.runStatus)), (finalizationStatusRank, (·.finalizationStatus))]

def invalidCounts : List (DatasetIndexRunEntry ρ → ℕ) :=
  [(·.invalidSegmentCount), (·.normalizedInvalidSegmentCount)]

/-- How far a run got, and the highest counts of its invalid segments. -/
def progress : List (DatasetIndexRunEntry ρ → ℕ) :=
  statuses.map (fun status entry => status.1 (status.2 entry)) ++ invalidCounts

/-- The lists of warnings. -/
def warnings : List (DatasetIndexRunEntry ρ → List String) :=
  [(·.invalidSegments), (·.unresolvedSegmentWarnings)]

/-- The counts that an entry with math semantics overwrites. -/
def parityCounts : List (DatasetIndexRunEntry ρ → ℕ) :=
  [(·.holderParityPassed), (·.holderParityFailed), (·.holderParityUnavailable),
    (·.topHolderParityPassed), (·.topHolderParityFailed), (·.topHolderParityUnavailable),
    (·.devHoldingParityPassed), (·.devHoldingParityFailed)]

/-- The flags that an entry with research semantics overwrites. -/
def fallbackFlags : List (DatasetIndexRunEntry ρ → Bool) :=
  [(·.fallbackReplayAffected), (·.sourceFallbackWarning), (·.sourceFallbackAffected)]

/-- Nothing that an entry knew of its run is forgotten by another. -/
structure Retains (x y : DatasetIndexRunEntry ρ) : Prop where
  known : ∀ field ∈ fields, field.read x ≠ field.blank → field.read y ≠ field.blank
  reached : ∀ reach ∈ progress, reach x ≤ reach y
  warned : ∀ list ∈ warnings, ∀ text ∈ list x, trimText text ≠ "" → text ∈ list y

theorem Retains.refl (x : DatasetIndexRunEntry ρ) : Retains x x :=
  ⟨fun _ _ => id, fun _ _ => le_rfl, fun _ _ _ h _ => h⟩

theorem Retains.trans (x y z : DatasetIndexRunEntry ρ) (h : Retains x y) (h' : Retains y z) :
    Retains x z where
  known := fun field hmem hx => h'.known field hmem (h.known field hmem hx)
  reached := fun reach hmem => (h.reached reach hmem).trans (h'.reached reach hmem)
  warned := fun list hmem text hx hblank =>
    h'.warned list hmem text (h.warned list hmem text hx hblank) hblank

/-- Where each field of a merged entry comes from. A field that the incoming entry tells is the
incoming one, and else it keeps its value. A status yields to one that is no lower, invalid
segments are counted as the entry that counts more has them, and warnings are united. The parity
counts and the fallback flags are those of an entry with semantics of its own, and what the merge
does not name is that of the incoming entry. -/
structure MergedFrom (existing incoming merged : DatasetIndexRunEntry ρ) : Prop where
  kept : ∀ field ∈ fields, field.read incoming = field.blank →
    field.read merged = field.read existing
  told : ∀ field ∈ fields, field.read incoming ≠ field.blank →
    field.read merged = field.read incoming
  status : ∀ status ∈ statuses, status.2 merged =
    if status.1 (status.2 incoming) < status.1 (status.2 existing) ∨ status.2 incoming = "" then
      status.2 existing
    else status.2 incoming
  invalid : ∀ count ∈ invalidCounts, count merged = max (count incoming) (count existing)
  warned : ∀ list ∈ warnings, ∀ text, text ∈ list merged ↔
    (text ∈ list existing ∨ text ∈ list incoming) ∧ trimText text ≠ ""
  parity : ∀ count ∈ parityCounts, count merged =
    if incoming.hasMathSemantics ∨ count incoming ≠ 0 then count incoming else count existing
  fallback : ∀ flag ∈ fallbackFlags, flag merged =
    (flag incoming || (!incoming.hasResearchSemantics && flag existing))
  tuning : merged.thresholdTuningAllowed = (incoming.thresholdTuningAllowed &&
    (existing.thresholdTuningAllowed || incoming.hasMathSemantics))
  runId : merged.runId = incoming.runId
  rest : merged.rest = incoming.rest

@[simp] theorem preferSome_none {α : Type} (existing : Option α) :
    preferSome none existing = existing := Option.none_or

theorem preferSome_of_ne {α : Type} {incoming : Option α} (h : incoming ≠ none)
    (existing : Option α) : preferSome incoming existing = incoming := by
  obtain ⟨value, rfl⟩ := Option.ne_none_iff_exists'.mp h
  exact Option.some_or

theorem mathCount_eq (hasMath : Bool) (incoming existing : ℕ) :
    mathCount hasMath incoming existing =
      if hasMath ∨ incoming ≠ 0 then incoming else existing := by
  cases hasMath with
  | true => simp [mathCount]
  | false =>
      by_cases hzero : incoming = 0
      · simp [mathCount, preferNonzero, hzero, Registry.prefer]
      · simp [mathCount, preferNonzero, hzero, Registry.prefer]

theorem kept_merge (existing incoming : DatasetIndexRunEntry ρ) :
    ∀ field ∈ fields, field.read incoming = field.blank →
      field.read (mergeDatasetIndexEntry existing incoming) = field.read existing := by
  simp only [fields, List.forall_mem_append]
  refine ⟨⟨⟨⟨?_, ?_⟩, ?_⟩, ?_⟩, ?_⟩
  · simp +contextual [flags, mergeDatasetIndexEntry, EdgeEvidence.merge,
      ResearchEvidence.merge, MathEvidence.merge, ReplayWarnings.merge]
  · simp +contextual [texts, mergeDatasetIndexEntry, ManifestEvidence.merge,
      preferNonemptyString, Registry.prefer_of_blank]
  · simp +contextual [counts, mergeDatasetIndexEntry, EdgeEvidence.merge,
      ResearchEvidence.merge, ReplayWarnings.merge, preferNonzero, Registry.prefer_of_blank]
  · simp +contextual [optionals, mergeDatasetIndexEntry, ResearchEvidence.merge,
      MathEvidence.merge, ReplayWarnings.merge]
  · simp +contextual [mergeDatasetIndexEntry, ResearchEvidence.merge,
      preferNonzeroDecimal, preferNondefaultReadinessLevel, Registry.prefer_of_blank]

theorem told_merge (existing incoming : DatasetIndexRunEntry ρ) :
    ∀ field ∈ fields, field.read incoming ≠ field.blank →
      field.read (mergeDatasetIndexEntry existing incoming) = field.read incoming := by
  simp only [fields, List.forall_mem_append]
  refine ⟨⟨⟨⟨?_, ?_⟩, ?_⟩, ?_⟩, ?_⟩
  · simp +contextual [flags, mergeDatasetIndexEntry, EdgeEvidence.merge,
      ResearchEvidence.merge, MathEvidence.merge, ReplayWarnings.merge]
  · simp +contextual [texts, mergeDatasetIndexEntry, ManifestEvidence.merge,
      preferNonemptyString, Registry.prefer_of_ne]
  · simp +contextual [counts, mergeDatasetIndexEntry, EdgeEvidence.merge,
      ResearchEvidence.merge, ReplayWarnings.merge, preferNonzero, Registry.prefer_of_ne]
  · simp +contextual [optionals, mergeDatasetIndexEntry, ResearchEvidence.merge,
      MathEvidence.merge, ReplayWarnings.merge, preferSome_of_ne]
  · simp +contextual [mergeDatasetIndexEntry, ResearchEvidence.merge,
      preferNonzeroDecimal, preferNondefaultReadinessLevel, Registry.prefer_of_ne]

theorem mergedFrom_merge (existing incoming : DatasetIndexRunEntry ρ) :
    MergedFrom existing incoming (mergeDatasetIndexEntry existing incoming) where
  kept := kept_merge existing incoming
  told := told_merge existing incoming
  status := by
    simp [statuses, mergeDatasetIndexEntry, ManifestEvidence.merge, strongerRunStatus,
      strongerFinalizationStatus, Registry.stronger_eq]
  invalid := by
    simp [invalidCounts, mergeDatasetIndexEntry, ReplayWarnings.merge]
  warned := by
    simp [warnings, mergeDatasetIndexEntry, ReplayWarnings.merge, unionStringLists,
      Registry.mem_union]
  parity := by
    simp [parityCounts, mergeDatasetIndexEntry, MathEvidence.merge, mathCount_eq]
  fallback := by
    simp [fallbackFlags, mergeDatasetIndexEntry, ReplayWarnings.merge]
  tuning := rfl
  runId := rfl
  rest := rfl

/-- The merge keeps what the entry that is there knew. -/
theorem MergedFrom.retains {existing incoming merged : DatasetIndexRunEntry ρ}
    (h : MergedFrom existing incoming merged) : Retains existing merged where
  known := by
    intro field hfield hexisting
    by_cases hblank : field.read incoming = field.blank
    · rw [h.kept field hfield hblank]
      exact hexisting
    · rw [h.told field hfield hblank]
      exact hblank
  reached := by
    simp only [progress, List.forall_mem_append, List.forall_mem_map]
    constructor
    · intro status hstatus
      rw [h.status status hstatus]
      split
      · exact le_rfl
      · rename_i hstands
        exact not_lt.mp fun hlt => hstands (Or.inl hlt)
    · intro count hcount
      rw [h.invalid count hcount]
      exact le_max_right _ _
  warned := fun list hlist text htext hblank =>
    (h.warned list hlist text).mpr ⟨Or.inl htext, hblank⟩

theorem retains_merge (existing incoming : DatasetIndexRunEntry ρ) :
    Retains existing (mergeDatasetIndexEntry existing incoming) :=
  (mergedFrom_merge existing incoming).retains

/-! ## Merging again -/

theorem strongerRunStatus_again (a b : String) :
    strongerRunStatus b (strongerRunStatus b a) = strongerRunStatus b a :=
  Registry.stronger_again fun _ => Nat.zero_le _

theorem strongerFinalizationStatus_again (a b : String) :
    strongerFinalizationStatus b (strongerFinalizationStatus b a) =
      strongerFinalizationStatus b a :=
  Registry.stronger_again fun _ => Nat.zero_le _

theorem mathCount_again (hasMath : Bool) (a b : ℕ) :
    mathCount hasMath b (mathCount hasMath b a) = mathCount hasMath b a := by
  cases hasMath <;> simp [mathCount, preferNonzero, Registry.prefer_again]

theorem tuning_again (hasMath a b : Bool) :
    (b && ((b && (a || hasMath)) || hasMath)) = (b && (a || hasMath)) := by
  revert hasMath a b
  decide

theorem fallback_again (hasResearch a b : Bool) :
    (b || (!hasResearch && (b || (!hasResearch && a)))) = (b || (!hasResearch && a)) := by
  revert hasResearch a b
  decide

/-- An entry that is merged once more changes nothing. -/
theorem mergeDatasetIndexEntry_again (a b : DatasetIndexRunEntry ρ) :
    mergeDatasetIndexEntry (mergeDatasetIndexEntry a b) b = mergeDatasetIndexEntry a b := by
  have hmanifest : (a.toManifestEvidence.merge b.toManifestEvidence).merge b.toManifestEvidence =
      a.toManifestEvidence.merge b.toManifestEvidence := by
    simp [ManifestEvidence.merge, preferNonemptyString, Registry.prefer_again,
      strongerRunStatus_again, strongerFinalizationStatus_again]
  have hedge : (a.toEdgeEvidence.merge b.toEdgeEvidence).merge b.toEdgeEvidence =
      a.toEdgeEvidence.merge b.toEdgeEvidence := by
    simp [EdgeEvidence.merge, preferNonzero, Registry.prefer_again]
  have hresearch : (a.toResearchEvidence.merge b.toResearchEvidence).merge b.toResearchEvidence =
      a.toResearchEvidence.merge b.toResearchEvidence := by
    simp [ResearchEvidence.merge, preferNonzero, preferNonzeroDecimal,
      preferNondefaultReadinessLevel, preferSome, Registry.prefer_again, ← Option.or_assoc]
  have hmath : (a.toMathEvidence.merge b.toMathEvidence).merge b.toMathEvidence =
      a.toMathEvidence.merge b.toMathEvidence := by
    simp [MathEvidence.merge, mathCount_again, tuning_again, preferSome, ← Option.or_assoc]
  have hreplay : ∀ hasResearch, (a.toReplayWarnings.merge b.toReplayWarnings hasResearch).merge
        b.toReplayWarnings hasResearch =
      a.toReplayWarnings.merge b.toReplayWarnings hasResearch := by
    intro hasResearch
    simp [ReplayWarnings.merge, fallback_again, preferNonzero, preferSome, unionStringLists,
      Registry.prefer_again, Registry.union_again, ← Option.or_assoc]
  simp [mergeDatasetIndexEntry, hmanifest, hedge, hresearch, hmath, hreplay]

/-- The merge of the entries of a run: they may be merged in any grouping, each field comes from
the entry that tells it, and merging the last one once more changes nothing. -/
theorem entry_merged (a b c : DatasetIndexRunEntry ρ) :
    mergeDatasetIndexEntry (mergeDatasetIndexEntry a b) c =
        mergeDatasetIndexEntry a (mergeDatasetIndexEntry b c) ∧
      MergedFrom a b (mergeDatasetIndexEntry a b) ∧
      mergeDatasetIndexEntry (mergeDatasetIndexEntry a b) b = mergeDatasetIndexEntry a b :=
  ⟨mergeDatasetIndexEntry_assoc a b c, mergedFrom_merge a b, mergeDatasetIndexEntry_again a b⟩

/-- The entries of a run allow the tuning of thresholds from one on that brings new math, or
from the first one. -/
def AllowsTuning (entries : List (DatasetIndexRunEntry ρ)) : Prop :=
  ∃ before latest, entries = before ++ latest ∧ latest ≠ [] ∧
    (∀ entry ∈ latest, entry.thresholdTuningAllowed) ∧
    (before = [] ∨ ∃ entry ∈ latest.head?, entry.hasMathSemantics)

theorem allowsTuning_concat {entries : List (DatasetIndexRunEntry ρ)} (hne : entries ≠ [])
    (entry : DatasetIndexRunEntry ρ) :
    AllowsTuning (entries ++ [entry]) ↔
      entry.thresholdTuningAllowed ∧ (AllowsTuning entries ∨ entry.hasMathSemantics) := by
  constructor
  · rintro ⟨before, latest, heq, hlatest, hallowed, hfirst⟩
    induction latest using List.reverseRecOn with
    | nil => exact absurd rfl hlatest
    | append_singleton rest last _ =>
        rw [← List.append_assoc] at heq
        obtain ⟨rfl, hlast⟩ := List.append_inj' heq rfl
        obtain rfl : entry = last := by simpa using hlast
        refine ⟨hallowed entry (by simp), ?_⟩
        cases rest with
        | nil => exact Or.inr (by simpa using hfirst.resolve_left (by simpa using hne))
        | cons first rest =>
            refine Or.inl ⟨before, first :: rest, rfl, by simp, ?_, by simpa using hfirst⟩
            exact fun other hother => hallowed other (List.mem_append_left _ hother)
  · rintro ⟨hentry, ⟨before, latest, rfl, hlatest, hallowed, hfirst⟩ | hmath⟩
    · refine ⟨before, latest ++ [entry], by simp, by simp, ?_, ?_⟩
      · simp only [List.forall_mem_append, List.forall_mem_singleton]
        exact ⟨hallowed, hentry⟩
      · obtain ⟨first, latest, rfl⟩ := List.exists_cons_of_ne_nil hlatest
        simpa using hfirst
    · exact ⟨entries, [entry], rfl, by simp, by simpa using hentry, Or.inr (by simpa using hmath)⟩

theorem allowsTuning_singleton (entry : DatasetIndexRunEntry ρ) :
    AllowsTuning [entry] ↔ entry.thresholdTuningAllowed := by
  constructor
  · rintro ⟨before, latest, heq, hlatest, hallowed, -⟩
    cases before with
    | nil =>
        obtain rfl : [entry] = latest := heq
        exact hallowed entry (List.mem_singleton_self entry)
    | cons first before =>
        have hrest : [] = before ++ latest := (List.cons.inj heq).2
        exact absurd (List.append_eq_nil_iff.mp hrest.symm).2 hlatest
  · intro hentry
    exact ⟨[], [entry], rfl, by simp, by simpa using hentry, Or.inl rfl⟩

/-- Entries that are merged one after the other allow tuning as `AllowsTuning` says. -/
theorem thresholdTuningAllowed_foldl (first : DatasetIndexRunEntry ρ)
    (entries : List (DatasetIndexRunEntry ρ)) :
    (entries.foldl mergeDatasetIndexEntry first).thresholdTuningAllowed ↔
      AllowsTuning (first :: entries) := by
  induction entries using List.reverseRecOn with
  | nil => exact (allowsTuning_singleton first).symm
  | append_singleton entries entry ih =>
      rw [← List.cons_append, allowsTuning_concat (List.cons_ne_nil _ _), ← ih, List.foldl_append]
      simp [mergeDatasetIndexEntry, MathEvidence.merge]

/-! ## The index -/

namespace DatasetIndex

/-- One entry for each run, in order. -/
def Ordered (index : DatasetIndex ρ) : Prop :=
  Registry.Ordered DatasetIndexRunEntry.runId index.runs

/-- The entry of a run. -/
def entryAt (index : DatasetIndex ρ) (runId : String) : Option (DatasetIndexRunEntry ρ) :=
  Registry.entryAt DatasetIndexRunEntry.runId runId index.runs

end DatasetIndex

theorem runId_merge (x y : DatasetIndexRunEntry ρ) (_ : x.runId = y.runId) :
    (mergeDatasetIndexEntry x y).runId = y.runId := rfl

theorem runs_foldl_upsert (now : OffsetDateTime) (index : DatasetIndex ρ)
    (entries : List (DatasetIndexRunEntry ρ)) :
    (entries.foldl (upsertDatasetIndexEntry now) index).runs =
      Registry.absorb DatasetIndexRunEntry.runId mergeDatasetIndexEntry index.runs entries := by
  induction entries generalizing index with
  | nil => rfl
  | cons first entries ih => exact ih _

/-- The found entry, with entries that are merged into it, is their merge in order. -/
theorem foldl_merge_some (first : DatasetIndexRunEntry ρ)
    (entries : List (DatasetIndexRunEntry ρ)) :
    entries.foldl (fun found entry => Option.merge mergeDatasetIndexEntry found (some entry))
      (some first) = some (entries.foldl mergeDatasetIndexEntry first) := by
  induction entries generalizing first with
  | nil => rfl
  | cons entry entries ih => exact ih _

/-- Whatever entries come in, and in whatever order: the index allows the tuning of thresholds
for a run exactly if each entry of the run allowed it from one on that brought new math, or
from the first. -/
theorem tuning_allowed_iff (now : OffsetDateTime) {index : DatasetIndex ρ} (h : index.Ordered)
    (entries : List (DatasetIndexRunEntry ρ)) (runId : String) :
    (∃ entry, (entries.foldl (upsertDatasetIndexEntry now) index).entryAt runId = some entry ∧
        entry.thresholdTuningAllowed) ↔
      AllowsTuning ((index.entryAt runId).toList ++
        entries.filter fun entry => entry.runId = runId) := by
  have hnil : ¬AllowsTuning ([] : List (DatasetIndexRunEntry ρ)) := by
    rintro ⟨before, latest, heq, hlatest, -⟩
    exact hlatest (List.append_eq_nil_iff.mp heq.symm).2
  unfold DatasetIndex.entryAt
  rw [runs_foldl_upsert, Registry.entryAt_absorb runId_merge h]
  cases Registry.entryAt DatasetIndexRunEntry.runId runId index.runs with
  | some first =>
      rw [foldl_merge_some]
      simp [← thresholdTuningAllowed_foldl]
  | none =>
      cases entries.filter fun entry => entry.runId = runId with
      | nil => simpa using hnil
      | cons first rest =>
          rw [List.foldl_cons, Option.merge_none_left, foldl_merge_some]
          simp [← thresholdTuningAllowed_foldl]

def emptyIndex : DatasetIndex Unit where
  schemaVersion := 1
  generatedAt := unixEpoch
  runs := []

theorem ordered_emptyIndex : emptyIndex.Ordered := List.Pairwise.nil

/-- An entry that allows tuning without new math, behind one that blocks it. -/
def blockedEntries : List (DatasetIndexRunEntry Unit) :=
  [{ runId := "run", rest := () }, { runId := "run", rest := (), thresholdTuningAllowed := true }]

theorem tuning_allowed_iff_blocked :
    (∃ entry, (blockedEntries.foldl (upsertDatasetIndexEntry unixEpoch) emptyIndex).entryAt "run" =
        some entry ∧ entry.thresholdTuningAllowed) ↔
      AllowsTuning ((emptyIndex.entryAt "run").toList ++
        blockedEntries.filter fun entry => entry.runId = "run") :=
  tuning_allowed_iff unixEpoch ordered_emptyIndex blockedEntries "run"

/-! ## Uploads -/

namespace IndexUpload

/-- The entries that an upload merges into the index that it downloaded. -/
def incoming (self : IndexUpload ρ) : List (DatasetIndexRunEntry ρ) :=
  if self.mergeAuthoritative then self.localIndex.runs else []

theorem runs_mergedIndex (self : IndexUpload ρ) (now : OffsetDateTime) :
    (self.mergedIndex now).runs =
      Registry.absorb DatasetIndexRunEntry.runId mergeDatasetIndexEntry
        self.authoritativeIndex.runs self.incoming := by
  unfold mergedIndex incoming
  split
  · exact runs_foldl_upsert now self.authoritativeIndex self.localIndex.runs
  · rfl

end IndexUpload

namespace IndexBucket

variable {Machine : Type} [DecidableEq Machine]

/-- The indices in the bucket and of the uploads have one entry for each run, in order. -/
structure Ok (bucket : IndexBucket Machine ρ) : Prop where
  remote : ∀ index ∈ bucket.remote, index.Ordered
  begun : ∀ machine, ∀ upload ∈ bucket.begun machine,
    upload.localIndex.Ordered ∧ upload.authoritativeIndex.Ordered

/-- A machine has an index of its own runs in order, and puts an index that it merged into the
one that still is in the bucket. -/
def Uncontended (bucket : IndexBucket Machine ρ) : IndexStep Machine ρ → Prop
  | .begin _ localIndex _ _ => localIndex.Ordered
  | .put machine _ => ∀ upload ∈ bucket.begun machine, ∀ index ∈ bucket.remote,
      upload.authoritativeIndex.runs = index.runs
  | .abandon _ => True

/-- The entries that a step merges into the index in the bucket. -/
def puts (bucket : IndexBucket Machine ρ) : IndexStep Machine ρ →
    List (List (DatasetIndexRunEntry ρ))
  | .put machine _ => (bucket.begun machine).toList.map IndexUpload.incoming
  | _ => []

omit [DecidableEq Machine] in
theorem Ok.ordered_incoming {bucket : IndexBucket Machine ρ} (h : bucket.Ok)
    (step : IndexStep Machine ρ) : ∀ entries ∈ bucket.puts step,
      Registry.Ordered DatasetIndexRunEntry.runId entries := by
  cases step with
  | begin machine localIndex mergeAuthoritative downloadFails => simp [puts]
  | put machine now =>
      intro entries hentries
      obtain ⟨upload, hupload, rfl⟩ := List.mem_map.mp hentries
      unfold IndexUpload.incoming
      split
      · exact (h.begun machine upload (Option.mem_toList.mp hupload)).1
      · exact List.Pairwise.nil
  | abandon machine => simp [puts]

/-- A step of a machine whose index is in order keeps the indices in order. -/
theorem Ok.step {bucket : IndexBucket Machine ρ} (h : bucket.Ok) {step : IndexStep Machine ρ}
    (hstep : bucket.Uncontended step) : (bucket.step step).Ok := by
  cases step with
  | begin machine localIndex mergeAuthoritative downloadFails =>
      refine ⟨h.remote, fun other upload hupload => ?_⟩
      by_cases hother : other = machine
      · subst hother
        simp only [IndexBucket.step, Function.update_self, Option.mem_some_iff] at hupload
        subst hupload
        refine ⟨hstep, ?_⟩
        unfold authoritativeFor
        split
        · cases hremote : bucket.remote with
          | none => exact hstep
          | some index => exact h.remote index hremote
        · exact hstep
      · simp only [IndexBucket.step, Function.update_of_ne hother] at hupload
        exact h.begun other upload hupload
  | put machine now =>
      unfold IndexBucket.step
      simp only
      split
      · exact h
      · rename_i upload hupload
        obtain ⟨hlocal, hauthoritative⟩ := h.begun machine upload hupload
        constructor
        · rintro index ⟨⟩
          unfold DatasetIndex.Ordered
          rw [upload.runs_mergedIndex]
          exact Registry.ordered_absorb runId_merge hauthoritative
        · intro other upload' hupload'
          by_cases hother : other = machine
          · simp [hother] at hupload'
          · simp only [Function.update_of_ne hother] at hupload'
            exact h.begun other upload' hupload'
  | abandon machine =>
      refine ⟨h.remote, fun other upload hupload => ?_⟩
      by_cases hother : other = machine
      · simp [IndexBucket.step, hother] at hupload
      · simp only [IndexBucket.step, Function.update_of_ne hother] at hupload
        exact h.begun other upload hupload

/-- An uncontended step merges what it puts into the index in the bucket. -/
theorem runs_step {bucket : IndexBucket Machine ρ} {index : DatasetIndex ρ}
    (hremote : bucket.remote = some index) {step : IndexStep Machine ρ}
    (hstep : bucket.Uncontended step) :
    ∃ next, (bucket.step step).remote = some next ∧
      next.runs = (bucket.puts step).foldl
        (Registry.absorb DatasetIndexRunEntry.runId mergeDatasetIndexEntry) index.runs := by
  cases step with
  | begin machine localIndex mergeAuthoritative downloadFails => exact ⟨index, hremote, rfl⟩
  | put machine now =>
      cases hupload : bucket.begun machine with
      | none => exact ⟨index, by simpa [IndexBucket.step, hupload], by simp [puts, hupload]⟩
      | some upload =>
          refine ⟨upload.mergedIndex now, by simp [IndexBucket.step, hupload], ?_⟩
          rw [upload.runs_mergedIndex, hstep upload hupload index hremote]
          simp [puts, hupload]
  | abandon machine => exact ⟨index, hremote, rfl⟩

/-- What is in the bucket after uncontended steps. -/
structure Merged (start : DatasetIndex ρ) (puts : List (List (DatasetIndexRunEntry ρ)))
    (index : DatasetIndex ρ) : Prop where
  ordered : index.Ordered
  entry : ∀ runId, index.entryAt runId =
    (puts.map (Registry.entryAt DatasetIndexRunEntry.runId runId)).foldl
      (Option.merge mergeDatasetIndexEntry) (start.entryAt runId)
  retained : ∀ runId, ∀ known ∈ start.entryAt runId,
    ∃ entry ∈ index.entryAt runId, Retains known entry

theorem Merged.step {bucket : IndexBucket Machine ρ} (h : bucket.Ok)
    {start index : DatasetIndex ρ} {parts : List (List (DatasetIndexRunEntry ρ))}
    (hmerged : Merged start parts index) (hremote : bucket.remote = some index)
    {step : IndexStep Machine ρ} (hstep : bucket.Uncontended step) :
    ∃ next, (bucket.step step).remote = some next ∧
      Merged start (parts ++ bucket.puts step) next := by
  obtain ⟨next, hnext, hruns⟩ := runs_step hremote hstep
  have hincoming := h.ordered_incoming step
  refine ⟨next, hnext, (h.step hstep).remote next hnext, fun runId => ?_, ?_⟩
  · rw [List.map_append, List.foldl_append, ← hmerged.entry, DatasetIndex.entryAt, hruns]
    exact Registry.entryAt_foldl_absorb runId_merge hmerged.ordered hincoming runId
  · intro runId known hknown
    obtain ⟨entry, hentry, hretains⟩ := hmerged.retained runId known hknown
    have hextends : Registry.Extends DatasetIndexRunEntry.runId Retains index.runs next.runs := by
      rw [hruns]
      exact Registry.extends_foldl_absorb runId_merge Retains.refl Retains.trans retains_merge
        hmerged.ordered
    obtain ⟨later, hlater, hkept⟩ := hextends runId entry hentry
    exact ⟨later, hlater, hretains.trans _ _ _ hkept⟩

/-- The index in the bucket, however the uploads of the machines overlap: as long as each of them
puts an index that it merged into the one that still is there, the entry of a run is the merge
of the entries that were uploaded for it, and nothing that the bucket knew of a run is lost. -/
theorem uploads_merged {bucket : IndexBucket Machine ρ} (h : bucket.Ok)
    {start : DatasetIndex ρ} (hremote : bucket.remote = some start)
    {steps : List (IndexStep Machine ρ)}
    (hsteps : Runs.Along (IndexBucket.step (ρ := ρ)) Uncontended bucket steps) :
    ∃ index, (steps.foldl IndexBucket.step bucket).remote = some index ∧
      Merged start (Runs.emitted IndexBucket.step puts bucket steps) index := by
  induction steps using List.reverseRecOn with
  | nil =>
      refine ⟨start, hremote, h.remote start hremote, fun _ => rfl, ?_⟩
      exact fun runId known hknown => ⟨known, hknown, Retains.refl known⟩
  | append_singleton steps last ih =>
      obtain ⟨hbefore, hlast⟩ := hsteps.append
      obtain ⟨index, hindex, hmerged⟩ := ih hbefore
      have hok : (steps.foldl IndexBucket.step bucket).Ok :=
        Runs.Along.invariant (fun _ _ hok hstep => hok.step hstep) h hbefore
      have hnext := hmerged.step hok hindex hlast.1
      rw [Runs.emitted_append, List.foldl_append]
      simpa [Runs.emitted] using hnext

/-- The index of a machine with one run. -/
def indexOf (runId : String) : DatasetIndex Unit :=
  { emptyIndex with runs := [{ runId := runId, rest := () }] }

def emptyBucket : IndexBucket Bool Unit where
  remote := some emptyIndex

theorem ok_emptyBucket : emptyBucket.Ok where
  remote := by
    rintro index ⟨⟩
    exact ordered_emptyIndex
  begun := by
    rintro machine upload ⟨⟩

/-- Two machines that upload one after the other. -/
def inTurn : List (IndexStep Bool Unit) :=
  [.begin true (indexOf "b") true false, .put true unixEpoch,
    .begin false (indexOf "a") true false, .put false unixEpoch]

theorem along_inTurn : Runs.Along IndexBucket.step Uncontended emptyBucket inTurn := by
  have hone : ∀ runId, (indexOf runId).Ordered := fun runId => List.pairwise_singleton _ _
  refine ⟨hone "b", ?_, hone "a", ?_, trivial⟩
  · rintro upload ⟨⟩ index ⟨⟩
    rfl
  · rintro upload ⟨⟩ index ⟨⟩
    rfl

theorem uploads_merged_inTurn :
    ∃ index, (inTurn.foldl IndexBucket.step emptyBucket).remote = some index ∧
      Merged emptyIndex (Runs.emitted IndexBucket.step puts emptyBucket inTurn) index :=
  uploads_merged ok_emptyBucket rfl along_inTurn

/-- Where both machines download before they put, what the first one put is lost. -/
example :
    (([.begin true (indexOf "b") true false, .begin false (indexOf "a") true false,
      .put true unixEpoch, .put false unixEpoch].foldl IndexBucket.step emptyBucket).remote.bind
        (·.entryAt "b")).isNone := by
  decide +kernel

end IndexBucket

end PumpLaunchTrader
