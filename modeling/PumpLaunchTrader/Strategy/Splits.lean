import PumpLaunchTrader.Model.Splits

/-! # Walk-forward splits do not leak

The mints of the unique rows come in the strict order of their earliest rows, whatever the
order of the labels. Train, validation and test are slices of this list. -/

namespace PumpLaunchTrader.StrategyPipeline

open WalkForward

/-! ## Earliest rows -/

/-- The earliest row of a mint, by its time and its mint. -/
def earliest (labels : List LabelRow) (mint : String) : Option (String ×ₗ String) :=
  ((labels.filter fun row => row.mintText = mint).map LabelRow.key).min?

/-- One mint is first seen before another. -/
def SeenBefore (labels : List LabelRow) (mint other : String) : Prop :=
  ∃ first second, earliest labels mint = some first ∧ earliest labels other = some second ∧
    first < second

theorem ordered_perm (labels : List LabelRow) : (ordered labels).Perm labels :=
  List.perm_insertionSort _ _

theorem pairwise_ordered (labels : List LabelRow) :
    (ordered labels).Pairwise fun left right => left.key ≤ right.key := by
  have : Std.Total fun left right : LabelRow => left.key ≤ right.key :=
    ⟨fun left right => le_total left.key right.key⟩
  have : IsTrans LabelRow fun left right => left.key ≤ right.key :=
    ⟨fun _ _ _ hab hbc => hab.trans hbc⟩
  exact List.pairwise_insertionSort _ _

theorem earliest_of_mem_uniqueRows {labels : List LabelRow} {row : LabelRow}
    (h : row ∈ uniqueRows labels) : earliest labels row.mintText = some row.key := by
  have hmem : row ∈ labels :=
    (ordered_perm labels).mem_iff.mp ((firsts_sublist _ _).subset h)
  refine List.min?_eq_some_iff.mpr ⟨?_, ?_⟩
  · exact List.mem_map_of_mem (List.mem_filter.mpr ⟨hmem, by simp⟩)
  · intro key hkey
    obtain ⟨other, hother, rfl⟩ := List.mem_map.mp hkey
    obtain ⟨hother, hname⟩ := List.mem_filter.mp hother
    exact key_le_of_mem_firsts (pairwise_ordered labels) h
      ((ordered_perm labels).mem_iff.mpr hother) (of_decide_eq_true hname)

/-- The mints of the unique rows. -/
def uniqueMints (labels : List LabelRow) : List String := (uniqueRows labels).map LabelRow.mintText

theorem nodup_uniqueMints (labels : List LabelRow) : (uniqueMints labels).Nodup :=
  nodup_firsts _ _

/-- The unique mints come in the order of their earliest rows. -/
theorem pairwise_uniqueMints (labels : List LabelRow) :
    (uniqueMints labels).Pairwise (SeenBefore labels) := by
  have hsorted : (uniqueRows labels).Pairwise fun left right => left.key ≤ right.key :=
    (pairwise_ordered labels).sublist (firsts_sublist _ _)
  have hnodup : (uniqueRows labels).Pairwise fun left right => left.mintText ≠ right.mintText :=
    List.pairwise_map.mp (nodup_uniqueMints labels)
  refine List.pairwise_map.mpr ((hsorted.and hnodup).imp_of_mem ?_)
  rintro left right hleft hright ⟨hle, hne⟩
  refine ⟨left.key, right.key, earliest_of_mem_uniqueRows hleft,
    earliest_of_mem_uniqueRows hright, lt_of_le_of_ne hle ?_⟩
  intro hkey
  exact hne (congrArg (fun key => (ofLex key).2) hkey)

/-- The unique mints do not depend on the order of the labels. -/
theorem uniqueMints_eq_of_perm {labels other : List LabelRow} (h : labels.Perm other) :
    uniqueMints labels = uniqueMints other := by
  have hkeys : (ordered labels).map LabelRow.key = (ordered other).map LabelRow.key := by
    refine List.Perm.eq_of_pairwise (fun _ _ _ _ hle hge => le_antisymm hle hge)
      (List.pairwise_map.mpr (pairwise_ordered labels))
      (List.pairwise_map.mpr (pairwise_ordered other)) ?_
    exact ((ordered_perm labels).trans (h.trans (ordered_perm other).symm)).map _
  have hname : ∀ row : LabelRow, (ofLex row.key).2 = row.mintText := fun row => rfl
  have hunique : (uniqueRows labels).map LabelRow.key = (uniqueRows other).map LabelRow.key := by
    simp only [uniqueRows, map_firsts LabelRow.key (fun key => (ofLex key).2) hname, hkeys]
  have hmints := congrArg (List.map fun key => (ofLex key).2) hunique
  rwa [List.map_map, List.map_map] at hmints

/-! ## The splits as slices -/

def trainEnd (labels : List LabelRow) : ℕ := scaled (uniqueMints labels).length 0.6

def validationStart (labels : List LabelRow) (embargoRows : ℕ) : ℕ :=
  min (uniqueMints labels).length (trainEnd labels + embargoRows)

def validationEnd (labels : List LabelRow) (embargoRows : ℕ) : ℕ :=
  min (uniqueMints labels).length
    (validationStart labels embargoRows + scaled (uniqueMints labels).length 0.2)

def testStart (labels : List LabelRow) (embargoRows : ℕ) : ℕ :=
  min (uniqueMints labels).length (validationEnd labels embargoRows + embargoRows)

section Slices

variable (labels : List LabelRow) (embargoRows : ℕ)

theorem train_eq : (buildWalkForwardSplits labels embargoRows).train =
    (uniqueMints labels).take (trainEnd labels) := by
  simp [buildWalkForwardSplits, uniqueMints, trainEnd, List.map_take]

theorem validation_eq : (buildWalkForwardSplits labels embargoRows).validation =
    slice (validationStart labels embargoRows) (validationEnd labels embargoRows)
      (uniqueMints labels) := by
  simp [buildWalkForwardSplits, slice, uniqueMints, trainEnd, validationStart, validationEnd,
    List.map_take, List.map_drop]

theorem test_eq : (buildWalkForwardSplits labels embargoRows).test =
    (uniqueMints labels).drop (testStart labels embargoRows) := by
  simp [buildWalkForwardSplits, uniqueMints, trainEnd, validationStart, validationEnd, testStart,
    List.map_drop]

/-- The unique mints are the splits with what is left out between them. -/
theorem uniqueMints_eq_parts : uniqueMints labels =
    (buildWalkForwardSplits labels embargoRows).train ++
      slice (trainEnd labels) (validationStart labels embargoRows) (uniqueMints labels) ++
      (buildWalkForwardSplits labels embargoRows).validation ++
      slice (validationEnd labels embargoRows) (testStart labels embargoRows)
        (uniqueMints labels) ++
      (buildWalkForwardSplits labels embargoRows).test := by
  rw [train_eq, validation_eq, test_eq, take_append_slice (by simp only [validationStart]; omega),
    take_append_slice (by simp only [validationStart, validationEnd]; omega),
    take_append_slice (by simp only [validationEnd, testStart]; omega), List.take_append_drop]

theorem length_validation_gap
    (h : (buildWalkForwardSplits labels embargoRows).validation ≠ []) :
    (slice (trainEnd labels) (validationStart labels embargoRows) (uniqueMints labels)).length =
      embargoRows := by
  rw [validation_eq] at h
  exact length_slice_gap rfl (lt_length_of_slice_ne_nil h)

theorem length_test_gap (h : (buildWalkForwardSplits labels embargoRows).test ≠ []) :
    (slice (validationEnd labels embargoRows) (testStart labels embargoRows)
      (uniqueMints labels)).length = embargoRows := by
  rw [test_eq] at h
  exact length_slice_gap rfl (by simpa using h)

end Slices

/-- The splits depend on the labels through the unique mints alone. -/
theorem buildWalkForwardSplits_congr {labels other : List LabelRow}
    (h : uniqueMints labels = uniqueMints other) (embargoRows : ℕ) :
    buildWalkForwardSplits labels embargoRows = buildWalkForwardSplits other embargoRows := by
  have hmap : ∀ rows : List LabelRow,
      (uniqueRows rows).map LabelRow.mintText = uniqueMints rows := fun rows => rfl
  have hlength : ∀ rows : List LabelRow,
      (uniqueRows rows).length = (uniqueMints rows).length := fun rows => (List.length_map _).symm
  simp only [buildWalkForwardSplits, List.map_take, List.map_drop, hmap, hlength, h]

/-! ## Validation -/

/-- Mints that are new and differ are added without a blocker. -/
theorem foldl_addMember (split : String) {mints : List String}
    (state : KeyedMap String String × List String) (hnodup : mints.Nodup)
    (hnew : ∀ mint ∈ mints, state.1.lookup mint = none) :
    (mints.foldl (addMember split) state).2 = state.2 ∧
      ∀ mint, (mints.foldl (addMember split) state).1.lookup mint =
        if mint ∈ mints then some split else state.1.lookup mint := by
  induction mints generalizing state with
  | nil => simp
  | cons mint mints ih =>
      obtain ⟨hmint, hnodup⟩ := List.nodup_cons.mp hnodup
      have hadd : addMember split state mint = (state.1.insert mint split, state.2) := by
        simp [addMember, hnew mint (by simp)]
      have hrest : ∀ other ∈ mints, (state.1.insert mint split).lookup other = none := by
        intro other hother
        have hne : other ≠ mint := fun heq => hmint (heq ▸ hother)
        rw [AList.lookup_insert_ne hne]
        exact hnew other (by simp [hother])
      obtain ⟨hblockers, hlookup⟩ := ih (state.1.insert mint split, state.2) hnodup hrest
      rw [List.foldl_cons, hadd]
      refine ⟨hblockers, fun other => ?_⟩
      rw [hlookup other]
      by_cases hother : other = mint
      · subst hother
        simp
      · simp [hother, AList.lookup_insert_ne hother]

theorem passed_validateSplits_iff {splits : SplitLists}
    (hmethod : splits.method = "chronological_walk_forward")
    (hnodup : (splits.train ++ splits.validation ++ splits.test).Nodup) :
    (validateSplits splits).passed = true ↔ 0 < splits.embargoRows := by
  obtain ⟨hleft, htest, hdisjoint⟩ := List.nodup_append.mp hnodup
  obtain ⟨htrain, hvalidation, hbetween⟩ := List.nodup_append.mp hleft
  obtain ⟨hfirst, hfirstMembers⟩ := foldl_addMember "train" (∅, []) htrain (by simp)
  obtain ⟨hsecond, hsecondMembers⟩ := foldl_addMember "validation" _ hvalidation (by
    intro mint hmint
    rw [hfirstMembers, if_neg (fun h => hbetween mint h mint hmint rfl)]
    simp)
  obtain ⟨hthird, -⟩ := foldl_addMember "test" _ htest (by
    intro mint hmint
    rw [hsecondMembers, if_neg (fun h => hdisjoint mint (by simp [h]) mint hmint rfl),
      hfirstMembers, if_neg (fun h => hdisjoint mint (by simp [h]) mint hmint rfl)]
    simp)
  simp only [validateSplits, hmethod, ne_eq, not_true_eq_false, if_false, List.foldl_cons,
    List.foldl_nil, hthird, hsecond, hfirst]
  by_cases h : splits.embargoRows = 0
  · simp [h]
  · simp [h, Nat.pos_of_ne_zero h]

/-! ## The splits do not leak -/

/-- Distinct mints of no split, as many as the embargo asks for, lie between two groups of
mints. -/
def Embargoed (labels : List LabelRow) (splits : SplitLists) (before after : List String) : Prop :=
  ∃ between : List String, between.Nodup ∧ splits.embargoRows ≤ between.length ∧
    (∀ mint ∈ between, mint ∉ splits.train ++ splits.validation ++ splits.test) ∧
    (∀ mint ∈ between, ∀ other ∈ before, SeenBefore labels other mint) ∧
    (∀ mint ∈ between, ∀ other ∈ after, SeenBefore labels mint other)

/-- Every mint is in one split at most, the splits follow each other in time, and the embargo
lies before each later one. -/
structure WalksForward (labels : List LabelRow) (splits : SplitLists) : Prop where
  once : (splits.train ++ splits.validation ++ splits.test).Nodup
  train_first : ∀ mint ∈ splits.train, ∀ other ∈ splits.validation ++ splits.test,
    SeenBefore labels mint other
  validation_first : ∀ mint ∈ splits.validation, ∀ other ∈ splits.test,
    SeenBefore labels mint other
  validation_embargo : splits.validation ≠ [] →
    Embargoed labels splits splits.train splits.validation
  test_embargo : splits.test ≠ [] →
    Embargoed labels splits (splits.train ++ splits.validation) splits.test

theorem SeenBefore.ne {labels : List LabelRow} {mint other : String}
    (h : SeenBefore labels mint other) : mint ≠ other := by
  rintro rfl
  obtain ⟨first, second, hfirst, hsecond, hlt⟩ := h
  rw [hfirst, Option.some.injEq] at hsecond
  exact absurd hlt (hsecond ▸ lt_irrefl first)

theorem walksForward_buildWalkForwardSplits (labels : List LabelRow) (embargoRows : ℕ) :
    WalksForward labels (buildWalkForwardSplits labels embargoRows).toSplitLists := by
  have hparts := uniqueMints_eq_parts labels embargoRows
  have hnodup := hparts ▸ nodup_uniqueMints labels
  obtain ⟨⟨htrain, hvalidation⟩, ⟨hgap, hgapLater⟩, hgap', hgapLater'⟩ :=
    parts_in_order (hparts ▸ pairwise_uniqueMints labels :
      List.Pairwise (SeenBefore labels) (_ ++ _ ++ _ ++ _ ++ _))
  refine ⟨?_, htrain, hvalidation, fun hne => ?_, fun hne => ?_⟩
  · refine hnodup.sublist (List.Sublist.append ?_ (List.Sublist.refl _))
    refine List.Sublist.trans ?_ (List.sublist_append_left _ _)
    exact List.Sublist.append (List.sublist_append_left _ _) (List.Sublist.refl _)
  · refine ⟨_, (nodup_uniqueMints labels).sublist (slice_sublist _ _ _),
      (length_validation_gap labels embargoRows hne).ge, ?_, hgap, ?_⟩
    · intro mint hmint hmem
      rw [List.append_assoc, List.mem_append] at hmem
      rcases hmem with hmem | hmem
      · exact (hgap mint hmint mint hmem).ne rfl
      · exact (hgapLater mint hmint mint hmem).ne rfl
    · exact fun mint hmint other hother => hgapLater mint hmint other (by simp [hother])
  · refine ⟨_, (nodup_uniqueMints labels).sublist (slice_sublist _ _ _),
      (length_test_gap labels embargoRows hne).ge, ?_, hgap', hgapLater'⟩
    intro mint hmint hmem
    rcases List.mem_append.mp hmem with hmem | hmem
    · exact (hgap' mint hmint mint hmem).ne rfl
    · exact (hgapLater' mint hmint mint hmem).ne rfl

/-- The version of `strategy/splits.py` makes the same three lists. -/
theorem toSplitLists_buildWalkForwardSplits (labels : List LabelRow) (embargoRows : ℕ) :
    (buildWalkForwardSplits labels embargoRows).toSplitLists =
      buildChronologicalSplits labels embargoRows := by
  simp [buildWalkForwardSplits, buildChronologicalSplits]

/-- Walk-forward splits take every mint once, in the order of the earliest rows and with the
embargo between them, whatever the order of the labels; they are accepted where there is an
embargo, and both versions make them alike. -/
theorem walk_forward_splits (labels : List LabelRow) (embargoRows : ℕ) :
    WalksForward labels (buildWalkForwardSplits labels embargoRows).toSplitLists ∧
    (∀ other, labels.Perm other →
      buildWalkForwardSplits other embargoRows = buildWalkForwardSplits labels embargoRows) ∧
    ((validateSplits (buildWalkForwardSplits labels embargoRows).toSplitLists).passed = true ↔
      0 < embargoRows) ∧
    (buildChronologicalSplits labels embargoRows).train =
      (buildWalkForwardSplits labels embargoRows).train ∧
    (buildChronologicalSplits labels embargoRows).validation =
      (buildWalkForwardSplits labels embargoRows).validation ∧
    (buildChronologicalSplits labels embargoRows).test =
      (buildWalkForwardSplits labels embargoRows).test := by
  have hforward := walksForward_buildWalkForwardSplits labels embargoRows
  refine ⟨hforward, ?_, passed_validateSplits_iff rfl hforward.once, ?_⟩
  · intro other hperm
    exact buildWalkForwardSplits_congr (uniqueMints_eq_of_perm hperm.symm) embargoRows
  · rw [← toSplitLists_buildWalkForwardSplits]
    exact ⟨rfl, rfl, rfl⟩

end PumpLaunchTrader.StrategyPipeline
