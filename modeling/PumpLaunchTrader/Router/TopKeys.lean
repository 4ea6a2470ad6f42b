import PumpLaunchTrader.Lib.BoundedCounters
import PumpLaunchTrader.Model.RouterStats

/-! # The counters of the top keys

The counters of mints and accounts hold 256 keys. A key that dominates the calls is counted,
and leads the summaries, as long as no key is called 256 times without being held. -/

namespace PumpLaunchTrader

/-- The counters after a list of calls of `increment_top_count`. -/
def topCounts (calls : List String) : KeyedMap String ℕ := calls.foldl incrementTopCount ∅

theorem topCounts_concat (calls : List String) (key : String) :
    topCounts (calls ++ [key]) = incrementTopCount (topCounts calls) key := by
  simp [topCounts]

theorem incrementTopCount_eq_step (map : KeyedMap String ℕ) {key : String}
    (hkey : trimText key ≠ "") :
    incrementTopCount map key = BoundedCounters.step 256 (2 ^ 64 - 1) map key := by
  rw [incrementTopCount, if_neg hkey]
  rfl

/-- Calls of keys that are not blank are those of bounded counters. -/
theorem topCounts_eq_run {calls : List String} (hcalls : ∀ key ∈ calls, trimText key ≠ "") :
    topCounts calls = BoundedCounters.run 256 (2 ^ 64 - 1) calls := by
  induction calls using List.reverseRecOn with
  | nil => rfl
  | append_singleton calls key ih =>
      rw [topCounts_concat, BoundedCounters.run_concat,
        ih fun other hother => hcalls other (List.mem_append_left _ hother),
        incrementTopCount_eq_step _ (hcalls key (by simp))]

/-- Every call names a key that the map holds, or one that has been called fewer than 256 times
before. -/
def AllRemembered (calls : List String) : Prop :=
  ∀ before key after, calls = before ++ key :: after →
    key ∈ topCounts before ∨ before.count key < 256

theorem AllRemembered.toRun {calls : List String} (h : AllRemembered calls)
    (hcalls : ∀ key ∈ calls, trimText key ≠ "") :
    BoundedCounters.AllRemembered 256 (2 ^ 64 - 1) calls := by
  rintro before key after rfl
  rw [BoundedCounters.Remembered,
    ← topCounts_eq_run fun other hother => hcalls other (List.mem_append_left _ hother)]
  exact h before key after rfl

/-! ## Summaries -/

/-- What no other entry comes before leads the sorted list. -/
theorem head?_mergeSort {α : Type*} {le : α → α → Bool}
    (htrans : ∀ a b c, le a b → le b c → le a c) (htotal : ∀ a b, le a b || le b a) {l : List α}
    {x : α} (hx : x ∈ l) (hfirst : ∀ y ∈ l, le y x → y = x) :
    (l.mergeSort le).head? = some x := by
  have hsorted := List.pairwise_mergeSort htrans htotal l
  have hmem : x ∈ l.mergeSort le := List.mem_mergeSort.mpr hx
  cases hsort : l.mergeSort le with
  | nil =>
      rw [hsort] at hmem
      cases hmem
  | cons y rest =>
      rw [hsort] at hmem hsorted
      rcases List.mem_cons.mp hmem with rfl | hrest
      · rfl
      · have hbefore := List.rel_of_pairwise_cons hsorted hrest
        have hy : y ∈ l := List.mem_mergeSort.mp (hsort ▸ List.mem_cons_self)
        rw [hfirst y hy hbefore]
        rfl

/-- The row with the largest count leads the summaries. -/
theorem head?_topKeySummaries {map : KeyedMap String ℕ} {key : String} {count : ℕ}
    (hkey : map.lookup key = some count)
    (hmost : ∀ other n, other ≠ key → map.lookup other = some n → n < count) {limit : ℕ}
    (hlimit : 0 < limit) :
    (topKeySummaries map limit).head? = some { key := key, count := count } := by
  obtain ⟨limit, rfl⟩ := Nat.exists_eq_succ_of_ne_zero hlimit.ne'
  rw [topKeySummaries, List.head?_take, if_neg (Nat.succ_ne_zero limit)]
  apply head?_mergeSort
  · intro a b c hab hbc
    simp only [decide_eq_true_eq] at hab hbc ⊢
    rcases hab with hab | ⟨hab, hkeys⟩
    · rcases hbc with hbc | ⟨hbc, -⟩
      · exact .inl (hbc.trans hab)
      · exact .inl (hbc ▸ hab)
    · rcases hbc with hbc | ⟨hbc, hmore⟩
      · exact .inl (hab ▸ hbc)
      · exact .inr ⟨hab.trans hbc, hkeys.trans hmore⟩
  · intro a b
    simp only [Bool.or_eq_true, decide_eq_true_eq]
    rcases Nat.lt_trichotomy a.count b.count with hlt | heq | hgt
    · exact .inr (.inl hlt)
    · rcases le_total a.key b.key with hle | hle
      · exact .inl (.inr ⟨heq, hle⟩)
      · exact .inr (.inr ⟨heq.symm, hle⟩)
    · exact .inl (.inl hgt)
  · exact List.mem_map.mpr ⟨⟨key, count⟩, (KeyedMap.mem_entries_iff map key count).mpr hkey, rfl⟩
  · intro row hrow hbefore
    obtain ⟨entry, hentry, rfl⟩ := List.mem_map.mp hrow
    have hlookup := (KeyedMap.mem_entries_iff map entry.1 entry.2).mp hentry
    by_cases hother : entry.1 = key
    · rw [hother, hkey, Option.some.injEq] at hlookup
      rw [hother, hlookup]
    · have hless := hmost entry.1 entry.2 hother hlookup
      simp only [decide_eq_true_eq] at hbefore
      omega

/-! ## Dominant keys -/

/-- The counters hold at most 256 keys and count none too often. As long as no key that has been
called 256 times is called without being held, a key that makes up more than half of the calls
is held, and leads the summaries. -/
theorem dominant_key_held (calls : List String) (hcalls : ∀ key ∈ calls, trimText key ≠ "") :
    (topCounts calls).entries.length ≤ 256 ∧
    (∀ key count, (topCounts calls).lookup key = some count → count ≤ calls.count key) ∧
    (AllRemembered calls → ∀ key, calls.length < 2 * calls.count key →
      key ∈ topCounts calls ∧
      (calls.length < 2 ^ 64 → ∀ limit, 0 < limit →
        (topKeySummaries (topCounts calls) limit).head?.map TopKeySummary.key = some key)) := by
  have htop : 1 < 2 ^ 64 - 1 := by norm_num
  have htracks : BoundedCounters.Tracks 256 (2 ^ 64 - 1) calls _ :=
    BoundedCounters.tracks_run (Nat.zero_lt_of_lt htop) calls
  rw [← topCounts_eq_run hcalls] at htracks
  refine ⟨htracks.bounded.length, htracks.le, fun hremembered key hmajority => ?_⟩
  have hall := hremembered.toRun hcalls
  obtain ⟨count, hkey⟩ := BoundedCounters.mem_run_of_majority htop hall hmajority
  have hrecalls := BoundedCounters.recalls_run htop hall
  rw [← topCounts_eq_run hcalls] at hkey hrecalls
  refine ⟨AList.lookup_isSome.mp (by rw [hkey]; rfl), fun hlength limit hlimit => ?_⟩
  have hfits : calls.length ≤ 2 ^ 64 - 1 := by omega
  have hlack : calls.count key < count + 256 := by
    have hle := calls.count_le_length (a := key)
    rcases hrecalls.held key count hkey with hlack | hfull
    · exact hlack
    · omega
  rw [head?_topKeySummaries hkey
    (fun other n hother hn => htracks.count_lt hfits hmajority hkey hlack hother hn) hlimit]
  rfl

/-- Few calls name no key 256 times. -/
theorem allRemembered_of_length_le {calls : List String} (h : calls.length ≤ 256) :
    AllRemembered calls := by
  rintro before key after rfl
  have hle := before.count_le_length (a := key)
  rw [List.length_append, List.length_cons] at h
  exact .inr (by omega)

theorem dominant_key_held_threeCalls :
    (topKeySummaries (topCounts ["mint", "other", "mint"]) 20).head?.map TopKeySummary.key =
      some "mint" :=
  ((dominant_key_held ["mint", "other", "mint"] (by decide +kernel)).2.2
    (allRemembered_of_length_le (by decide)) "mint" (by decide)).2 (by decide) 20 (by decide)

/-! ## A key that is called 257 times and not held -/

/-- A full map that counts no other key below `key` ignores every call of it. -/
theorem step_of_least {map : KeyedMap String ℕ} {key : String} (hkey : trimText key ≠ "")
    (habsent : map.lookup key = none) (hfull : map.entries.length = 256)
    (hlater : ∀ entry ∈ map.entries, 0 < entry.2 ∧ key < entry.1) :
    incrementTopCount map key = map := by
  have hlength := BoundedCounters.length_bump_of_not_mem (2 ^ 64 - 1) habsent
  have hentries : (BoundedCounters.bump (2 ^ 64 - 1) map key).entries =
      ⟨key, 1⟩ :: map.entries := by
    rw [BoundedCounters.bump, AList.entries_insert, habsent,
      List.kerase_of_notMem_keys (AList.lookup_eq_none.mp habsent)]
    rfl
  have hleast : BoundedCounters.least (BoundedCounters.bump (2 ^ 64 - 1) map key) = some key := by
    refine BoundedCounters.least_eq (hentries ▸ List.mem_cons_self) fun entry hentry => ?_
    rw [hentries] at hentry
    rcases List.mem_cons.mp hentry with rfl | hold
    · exact le_rfl
    · obtain ⟨hpos, hlt⟩ := hlater entry hold
      rw [Prod.Lex.toLex_le_toLex]
      rcases Nat.lt_or_ge 1 entry.2 with hmore | hone
      · exact .inl hmore
      · exact .inr ⟨by omega, hlt.le⟩
  rw [incrementTopCount_eq_step map hkey, BoundedCounters.step, if_pos (by omega), hleast]
  apply AList.ext
  change (BoundedCounters.bump (2 ^ 64 - 1) map key).entries.kerase key = map.entries
  rw [hentries]
  exact List.kerase_cons_eq (s := ⟨key, 1⟩) rfl

theorem foldl_replicate_of_least {map : KeyedMap String ℕ} {key : String}
    (hkey : trimText key ≠ "") (habsent : map.lookup key = none)
    (hfull : map.entries.length = 256)
    (hlater : ∀ entry ∈ map.entries, 0 < entry.2 ∧ key < entry.1) (n : ℕ) :
    (List.replicate n key).foldl incrementTopCount map = map := by
  induction n with
  | zero => rfl
  | succ n ih =>
      rw [List.replicate_succ, List.foldl_cons, step_of_least hkey habsent hfull hlater, ih]

/-- Keys of one character that come after `"a"`, as many as the counters hold. -/
def fillingKeys : List String :=
  (List.range 256).map fun n => String.singleton (Char.ofNat (n + 500))

theorem fillingKeys_spec :
    ("a" :: fillingKeys).IsChain (· < ·) ∧ ∀ key ∈ fillingKeys, trimText key ≠ "" := by
  decide +kernel

theorem fillingKeys_pairwise : ("a" :: fillingKeys).Pairwise (· < ·) :=
  List.isChain_iff_pairwise.mp fillingKeys_spec.1

theorem fillingKeys_nodup : fillingKeys.Nodup :=
  (List.pairwise_cons.mp fillingKeys_pairwise).2.imp ne_of_lt

theorem length_fillingKeys : fillingKeys.length = 256 := by
  simp [fillingKeys]

/-- The filling keys fill the counters. -/
theorem topCounts_fillingKeys :
    (topCounts fillingKeys).entries.length = 256 ∧
    (topCounts fillingKeys).lookup "a" = none ∧
    ∀ entry ∈ (topCounts fillingKeys).entries, 0 < entry.2 ∧ "a" < entry.1 := by
  have htracks : BoundedCounters.Tracks 256 (2 ^ 64 - 1) fillingKeys (topCounts fillingKeys) := by
    rw [topCounts_eq_run fillingKeys_spec.2]
    exact BoundedCounters.tracks_run (by norm_num) fillingKeys
  have hlater := (List.pairwise_cons.mp fillingKeys_pairwise).1
  have hheld : fillingKeys ⊆ (topCounts fillingKeys).keys := by
    intro key hkey
    exact (KeyedMap.mem_keys_iff _ key).mpr (htracks.exists_lookup_of_mem (by norm_num)
      (length_fillingKeys ▸ (List.dedup_sublist fillingKeys).length_le) hkey)
  refine ⟨le_antisymm htracks.bounded.length ?_, ?_, fun entry hentry => ?_⟩
  · have hle := (List.subperm_of_subset fillingKeys_nodup hheld).length_le
    rwa [length_fillingKeys, AList.keys, List.keys, List.length_map] at hle
  · cases hlookup : (topCounts fillingKeys).lookup "a" with
    | none => rfl
    | some count => exact absurd (hlater "a" (htracks.mem_calls hlookup)) (lt_irrefl "a")
  · have hentry := (KeyedMap.mem_entries_iff _ entry.1 entry.2).mp hentry
    exact ⟨htracks.bounded.pos entry.1 entry.2 hentry, hlater entry.1 (htracks.mem_calls hentry)⟩

/-- After 256 other keys, a key that is called 257 times makes up more than half of the calls
and is not held. -/
theorem dominant_key_forgotten :
    ¬ ∀ calls : List String, (∀ key ∈ calls, trimText key ≠ "") →
      ∀ key, calls.length < 2 * calls.count key → key ∈ topCounts calls := by
  intro hall
  obtain ⟨hfull, habsent, hlater⟩ := topCounts_fillingKeys
  have hblank : trimText "a" ≠ "" := by decide +kernel
  have hheld := hall (fillingKeys ++ List.replicate 257 "a") ?_ "a" ?_
  · rw [topCounts, List.foldl_append] at hheld
    change "a" ∈ (List.replicate 257 "a").foldl incrementTopCount (topCounts fillingKeys) at hheld
    rw [foldl_replicate_of_least hblank habsent hfull hlater, ← AList.lookup_isSome,
      habsent] at hheld
    cases hheld
  · intro key hkey
    rcases List.mem_append.mp hkey with hfilling | hrepeated
    · exact fillingKeys_spec.2 key hfilling
    · rw [List.eq_of_mem_replicate hrepeated]
      exact hblank
  · rw [List.length_append, length_fillingKeys, List.length_replicate, List.count_append,
      List.count_replicate_self]
    omega

end PumpLaunchTrader
