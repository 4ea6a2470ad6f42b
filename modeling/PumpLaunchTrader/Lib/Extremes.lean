import Mathlib.Data.Prod.Lex
import Mathlib.Data.Finset.Max

/-! # Extremes

## Running extremes with zero for nothing

A tracker keeps the latest value, the extremes of the values recorded so far and the first
opening value. Zero stands for an extreme that is not set, and values may be quoted without
being recorded. -/

namespace Extremes

/-- A maximum that is taken in turn is the least upper bound of its start and the values. -/
theorem foldl_max_le_iff {α : Type*} [LinearOrder α] {start bound : α} {values : List α} :
    values.foldl max start ≤ bound ↔ start ≤ bound ∧ ∀ value ∈ values, value ≤ bound := by
  induction values generalizing start with
  | nil => simp
  | cons value values ih =>
      rw [List.foldl_cons, ih, max_le_iff, List.forall_mem_cons, and_assoc]

variable {α : Type*} [LinearOrder α] [Zero α]

structure Tracker (α : Type*) where
  latest : α
  high : α
  low : α
  opening : Option α

/-- The recorded values and the opening value that was quoted first. -/
structure Log (α : Type*) where
  recorded : List α := []
  first : Option α := none

inductive Move (α : Type*) where
  | record (value : α)
  | quote (value opening : α)
  | reserve
  | idle

def Tracker.move (tracker : Tracker α) : Move α → Tracker α
  | .record value =>
    { tracker with
      latest := value
      high := if tracker.high < value ∨ tracker.high = 0 then value else tracker.high
      low := if value < tracker.low ∨ tracker.low = 0 then value else tracker.low }
  | .quote value opening =>
    { tracker with
      latest := value
      opening := some (tracker.opening.getD opening) }
  | .reserve => { tracker with opening := some (tracker.opening.getD 0) }
  | .idle => tracker

omit [LinearOrder α] [Zero α] in
def Log.move (log : Log α) : Move α → Log α
  | .record value => { log with recorded := log.recorded ++ [value] }
  | .quote _ opening => { log with first := some (log.first.getD opening) }
  | .reserve | .idle => log

/-- The extremes are those of the recorded values, the latest value lies between them, and
the opening value is the first one. -/
structure Faithful (tracker : Tracker α) (log : Log α) : Prop where
  bounded : log.recorded ≠ [] → tracker.low ≤ tracker.latest ∧ tracker.latest ≤ tracker.high
  high : log.recorded ≠ [] → IsGreatest {value | value ∈ log.recorded} tracker.high
  low : log.recorded ≠ [] → IsLeast {value | value ∈ log.recorded} tracker.low
  opening : ∀ value, log.first = some value → tracker.opening = some value

/-- Before the first record the extremes are zero, and no recorded value is below it. -/
structure Started (tracker : Tracker α) (log : Log α) : Prop where
  unset : log.recorded = [] → tracker.high = 0 ∧ tracker.low = 0
  nonneg : ∀ value ∈ log.recorded, 0 ≤ value

/-- A recorded value is not negative. -/
def Move.Nonneg : Move α → Prop
  | .record value => 0 ≤ value
  | .quote _ _ | .reserve | .idle => True

instance : DecidablePred (Move.Nonneg (α := α))
  | .record value => inferInstanceAs (Decidable (0 ≤ value))
  | .quote _ _ | .reserve | .idle => isTrue trivial

/-- The condition on a move: a low of zero is not taken for one that is not set, a quoted value
lies between the extremes, and the first opening value finds none in its place. -/
def Move.Keeps (tracker : Tracker α) (log : Log α) : Move α → Prop
  | .record value => log.recorded ≠ [] → tracker.low = 0 → value = 0
  | .quote value opening =>
    (log.recorded ≠ [] → tracker.low ≤ value ∧ value ≤ tracker.high) ∧
      (log.first = none → ∀ reserved, tracker.opening = some reserved → reserved = opening)
  | .reserve | .idle => True

instance (tracker : Tracker α) (log : Log α) : DecidablePred (Move.Keeps tracker log)
  | .record value =>
    inferInstanceAs (Decidable (log.recorded ≠ [] → tracker.low = 0 → value = 0))
  | .quote value opening =>
    inferInstanceAs (Decidable ((log.recorded ≠ [] → tracker.low ≤ value ∧ value ≤ tracker.high) ∧
      (log.first = none → ∀ reserved ∈ tracker.opening, reserved = opening)))
  | .reserve | .idle => isTrue trivial

variable {tracker : Tracker α} {log : Log α}

theorem Started.move (h : Started tracker log) {m : Move α} (hm : m.Nonneg) :
    Started (tracker.move m) (log.move m) := by
  cases m with
  | record value =>
      refine ⟨fun hnil => absurd hnil (List.append_ne_nil_of_right_ne_nil _ (by simp)), ?_⟩
      intro other hother
      rcases List.mem_append.mp hother with hold | hnew
      · exact h.nonneg other hold
      · exact (List.mem_singleton.mp hnew) ▸ hm
  | quote value opening => exact ⟨h.unset, h.nonneg⟩
  | reserve => exact ⟨h.unset, h.nonneg⟩
  | idle => exact h

/-! ## Records -/

/-- The high is right after a record of a value that is not negative. -/
theorem isGreatest_record (hstarted : Started tracker log)
    (hhigh : log.recorded ≠ [] → IsGreatest {value | value ∈ log.recorded} tracker.high)
    {value : α} (hvalue : 0 ≤ value) :
    IsGreatest {other | other ∈ (log.move (.record value)).recorded}
      (tracker.move (.record value)).high := by
  simp only [Log.move, Tracker.move, List.mem_append, List.mem_singleton]
  by_cases hnil : log.recorded = []
  · rw [if_pos (Or.inr (hstarted.unset hnil).1)]
    simp [hnil, IsGreatest, upperBounds]
  · obtain ⟨hmem, hmax⟩ := hhigh hnil
    by_cases hset : tracker.high < value ∨ tracker.high = 0
    · rw [if_pos hset]
      refine ⟨Or.inr rfl, ?_⟩
      rintro other (hother | rfl)
      · rcases hset with hlt | hzero
        · exact (hmax hother).trans hlt.le
        · exact (hmax hother).trans (hzero ▸ hvalue)
      · exact le_rfl
    · rw [if_neg hset]
      refine ⟨Or.inl hmem, ?_⟩
      rintro other (hother | rfl)
      · exact hmax hother
      · exact not_lt.mp fun hlt => hset (Or.inl hlt)

/-- The low is right after a record unless a low of zero was overwritten. -/
theorem isLeast_record_iff (hstarted : Started tracker log)
    (hlow : log.recorded ≠ [] → IsLeast {value | value ∈ log.recorded} tracker.low)
    {value : α} (hvalue : 0 ≤ value) :
    IsLeast {other | other ∈ (log.move (.record value)).recorded}
        (tracker.move (.record value)).low ↔
      (Move.record value).Keeps tracker log := by
  simp only [Log.move, Tracker.move, List.mem_append, List.mem_singleton, Move.Keeps]
  by_cases hnil : log.recorded = []
  · rw [if_pos (Or.inr (hstarted.unset hnil).2)]
    simp [hnil, IsLeast, lowerBounds]
  · obtain ⟨hmem, hmin⟩ := hlow hnil
    by_cases hzero : tracker.low = 0
    · rw [if_pos (Or.inr hzero)]
      constructor
      · rintro ⟨-, hleast⟩ _ _
        exact le_antisymm (hzero ▸ hleast (Or.inl hmem)) hvalue
      · intro hkeeps
        obtain rfl := hkeeps hnil hzero
        refine ⟨Or.inr rfl, ?_⟩
        rintro other (hother | rfl)
        · exact hstarted.nonneg other hother
        · exact le_rfl
    · refine ⟨fun _ _ h => absurd h hzero, fun _ => ?_⟩
      by_cases hlt : value < tracker.low
      · rw [if_pos (Or.inl hlt)]
        refine ⟨Or.inr rfl, ?_⟩
        rintro other (hother | rfl)
        · exact hlt.le.trans (hmin hother)
        · exact le_rfl
      · rw [if_neg (not_or.mpr ⟨hlt, hzero⟩)]
        refine ⟨Or.inl hmem, ?_⟩
        rintro other (hother | rfl)
        · exact hmin hother
        · exact not_lt.mp hlt

/-! ## Moves -/

/-- A move keeps the tracker faithful exactly under its condition. -/
theorem Faithful.move_iff (h : Faithful tracker log) (hstarted : Started tracker log)
    {m : Move α} (hm : m.Nonneg) :
    Faithful (tracker.move m) (log.move m) ↔ m.Keeps tracker log := by
  cases m with
  | record value =>
      have hhigh := isGreatest_record hstarted h.high hm
      rw [← isLeast_record_iff hstarted h.low hm]
      have hsome : (log.move (.record value)).recorded ≠ [] := by simp [Log.move]
      have hmem : value ∈ (log.move (.record value)).recorded := by simp [Log.move]
      constructor
      · exact fun hafter => hafter.low hsome
      · intro hlow
        exact ⟨fun _ => ⟨hlow.2 hmem, hhigh.2 hmem⟩, fun _ => hhigh, fun _ => hlow, h.opening⟩
  | quote value opening =>
      constructor
      · intro hafter
        refine ⟨hafter.bounded, ?_⟩
        intro hnone reserved hreserved
        have hopening := hafter.opening opening (by simp [Log.move, hnone])
        simpa [Tracker.move, hreserved] using hopening
      · rintro ⟨hbounded, hreserved⟩
        refine ⟨hbounded, h.high, h.low, ?_⟩
        intro first hfirst
        simp only [Log.move, Option.some.injEq] at hfirst
        simp only [Tracker.move, Option.some.injEq]
        cases hlog : log.first with
        | some old =>
            rw [hlog, Option.getD_some] at hfirst
            rw [h.opening old hlog, Option.getD_some, hfirst]
        | none =>
            rw [hlog, Option.getD_none] at hfirst
            cases hold : tracker.opening with
            | none => rw [Option.getD_none, hfirst]
            | some reserved =>
                rw [Option.getD_some, ← hfirst]
                exact hreserved hlog reserved hold
  | reserve =>
      refine ⟨fun _ => trivial, fun _ => ⟨h.bounded, h.high, h.low, ?_⟩⟩
      intro first hfirst
      simp only [Tracker.move]
      rw [h.opening first hfirst, Option.getD_some]
  | idle => exact ⟨fun _ => trivial, fun _ => h⟩

end Extremes

/-! ## The best entries of a list

Entries have keys in a linear order, and a best entry is one of a greatest key. A fold that
keeps an entry until a greater key comes finds one, and so does a fold that gives it up for an
equal key too. When no two entries have one key, it does not depend on the order of the list.
A choice among the entries of a tier, if there are any, and among all otherwise is the best by
the tier first. -/

namespace Best

variable {α K : Type*} [LinearOrder K]

/-- An entry of the list that no other one is better than. -/
structure IsBest (key : α → K) (xs : List α) (x : α) : Prop where
  mem : x ∈ xs
  le : ∀ y ∈ xs, key y ≤ key x

/-- No two entries of the list have the same key. -/
def Distinct (key : α → K) (xs : List α) : Prop :=
  ∀ x ∈ xs, ∀ y ∈ xs, key x = key y → x = y

variable {key : α → K} {xs : List α}

theorem isBest_singleton (x : α) : IsBest key [x] x :=
  ⟨List.mem_singleton_self x, fun y hy => by rw [List.mem_singleton.mp hy]⟩

theorem IsBest.unique {x y : α} (hdistinct : Distinct key xs) (hx : IsBest key xs x)
    (hy : IsBest key xs y) : x = y :=
  hdistinct x hx.mem y hy.mem (le_antisymm (hy.le x hx.mem) (hx.le y hy.mem))

/-- A best entry stays one when the keys are replaced in their order. -/
theorem IsBest.rekey {L : Type*} [LinearOrder L] {other : α → L} {x : α}
    (hmono : ∀ y ∈ xs, key y ≤ key x → other y ≤ other x) (h : IsBest key xs x) :
    IsBest other xs x :=
  ⟨h.mem, fun y hy => hmono y hy (h.le y hy)⟩

/-! ## Folds -/

/-- The best entry so far and the next one give the best entry. -/
theorem IsBest.append {x kept : α} (h : IsBest key xs kept) {best : α}
    (hbest : best = kept ∨ best = x) (hkept : key kept ≤ key best) (hx : key x ≤ key best) :
    IsBest key (xs ++ [x]) best := by
  constructor
  · rw [List.mem_append, List.mem_singleton]
    rcases hbest with rfl | rfl
    · exact Or.inl h.mem
    · exact Or.inr rfl
  · intro y hy
    rw [List.mem_append, List.mem_singleton] at hy
    rcases hy with hy | rfl
    · exact (h.le y hy).trans hkept
    · exact hx

/-- A fold that keeps one of two entries, never one of a smaller key, finds a best one. -/
theorem isBest_foldl {choose : α → α → α}
    (hchoose : ∀ kept x, choose kept x = kept ∨ choose kept x = x)
    (hkept : ∀ kept x, key kept ≤ key (choose kept x))
    (hnext : ∀ kept x, key x ≤ key (choose kept x)) (first : α) (rest : List α) :
    IsBest key (first :: rest) (rest.foldl choose first) := by
  induction rest using List.reverseRecOn with
  | nil => exact isBest_singleton first
  | append_singleton rest x ih =>
      rw [List.foldl_append, ← List.cons_append]
      exact ih.append (hchoose _ x) (hkept _ x) (hnext _ x)

/-! ## Tiers -/

/-- The best of a tier is the best of all by the tier first. -/
theorem IsBest.of_filter {tier : α → Bool} {x : α} (h : IsBest key (xs.filter tier) x) :
    IsBest (fun y => toLex (tier y, key y)) xs x := by
  have hx := List.mem_filter.mp h.mem
  refine ⟨hx.1, fun y hy => ?_⟩
  rw [Prod.Lex.toLex_le_toLex, hx.2]
  cases htier : tier y with
  | false => exact Or.inl Bool.false_lt_true
  | true => exact Or.inr ⟨rfl, h.le y (List.mem_filter.mpr ⟨hy, htier⟩)⟩

/-- Where the tier is empty, the best of all is the best by the tier first. -/
theorem IsBest.of_empty {tier : α → Bool} (hempty : xs.filter tier = []) {x : α}
    (h : IsBest key xs x) : IsBest (fun y => toLex (tier y, key y)) xs x := by
  have hnone : ∀ y ∈ xs, tier y = false := by
    intro y hy
    simpa using List.filter_eq_nil_iff.mp hempty y hy
  refine h.rekey fun y hy hle => ?_
  rw [Prod.Lex.toLex_le_toLex, hnone y hy, hnone x h.mem]
  exact Or.inr ⟨rfl, hle⟩

end Best

/-! ## Latest-wins registers

A register holds a value with a version stamp. An update that carries a smaller version
than the stamp is rejected; any other update overwrites the value and the stamp. Over a
set of updates with distinct versions, the final value does not depend on the order of
delivery: it is the one written by the greatest version. -/

/-- A register with state `σ` and updates `U`, versioned in the linear order `V`. -/
structure LatestWins (σ U V : Type*) [LinearOrder V] where
  stamp : σ → V
  version : U → V
  write : U → σ → σ
  stamp_write : ∀ u s, stamp (write u s) = version u

namespace LatestWins

variable {σ U V : Type*} [LinearOrder V] (r : LatestWins σ U V)

/-- Deliver one update. -/
def step (s : σ) (u : U) : σ :=
  if r.version u < r.stamp s then s else r.write u s

/-- Deliver updates in the given order. -/
def run (s : σ) (us : List U) : σ :=
  us.foldl r.step s

@[simp] theorem run_nil (s : σ) : r.run s [] = s := rfl

@[simp] theorem run_cons (s : σ) (u : U) (us : List U) :
    r.run s (u :: us) = r.run (r.step s u) us := rfl

theorem step_of_lt {s : σ} {u : U} (h : r.version u < r.stamp s) : r.step s u = s :=
  if_pos h

theorem step_of_le {s : σ} {u : U} (h : r.stamp s ≤ r.version u) :
    r.step s u = r.write u s :=
  if_neg (not_lt.mpr h)

/-! ## The stamp along a run -/

theorem stamp_step (s : σ) (u : U) : r.stamp (r.step s u) = max (r.stamp s) (r.version u) := by
  rcases lt_or_ge (r.version u) (r.stamp s) with h | h
  · rw [r.step_of_lt h, max_eq_left h.le]
  · rw [r.step_of_le h, r.stamp_write, max_eq_right h]

/-- No delivery lowers the stamp. -/
theorem stamp_le_run (s : σ) (us : List U) : r.stamp s ≤ r.stamp (r.run s us) := by
  induction us generalizing s with
  | nil => exact le_refl _
  | cons u us ih =>
      calc
        r.stamp s ≤ r.stamp (r.step s u) := by
          rw [r.stamp_step]
          exact le_max_left _ _
        _ ≤ r.stamp (r.run (r.step s u) us) := ih _

/-- A run of stale updates changes nothing. -/
theorem run_of_forall_lt {s : σ} {us : List U} (h : ∀ u ∈ us, r.version u < r.stamp s) :
    r.run s us = s := by
  induction us with
  | nil => rfl
  | cons u us ih =>
      rw [run_cons, r.step_of_lt (h u (by simp))]
      exact ih fun w hw => h w (List.mem_cons_of_mem u hw)

/-! ## Convergence

`view` is the part of the state that an accepted update determines, up to a `frame` that
no update touches. -/

section Convergence

variable {α β : Type*} {view : σ → α} {frame : σ → β}
  (hframe : ∀ u s, frame (r.write u s) = frame s)
  (hview : ∀ u s t, frame s = frame t → view (r.write u s) = view (r.write u t))

include hframe in
theorem frame_step (s : σ) (u : U) : frame (r.step s u) = frame s := by
  unfold step
  split
  · rfl
  · exact hframe u s

include hframe hview in
/-- After every update is delivered, the view is the one the greatest version writes. -/
theorem view_run_greatest {s : σ} {us : List U} {m : U}
    (hdistinct : us.Pairwise fun u w => r.version u ≠ r.version w)
    (hm : m ∈ us) (hgreatest : ∀ u ∈ us, r.version u ≤ r.version m)
    (hs : r.stamp s ≤ r.version m) :
    view (r.run s us) = view (r.write m s) := by
  induction us generalizing s with
  | nil => cases hm
  | cons u us ih =>
      rw [List.pairwise_cons] at hdistinct
      obtain ⟨hu, hus⟩ := hdistinct
      rcases List.mem_cons.mp hm with rfl | hm'
      · have hstale : ∀ w ∈ us, r.version w < r.stamp (r.write m s) := by
          intro w hw
          rw [r.stamp_write]
          exact lt_of_le_of_ne (hgreatest w (List.mem_cons_of_mem m hw)) (hu w hw).symm
        rw [run_cons, r.step_of_le hs, r.run_of_forall_lt hstale]
      · have hstep : r.stamp (r.step s u) ≤ r.version m := by
          rw [r.stamp_step]
          exact max_le hs (hgreatest u (by simp))
        have hrest := ih hus hm' (fun w hw => hgreatest w (List.mem_cons_of_mem u hw)) hstep
        rw [run_cons, hrest]
        exact hview m _ _ (r.frame_step hframe s u)

theorem exists_greatest {us : List U} (h : us ≠ []) :
    ∃ m ∈ us, ∀ u ∈ us, r.version u ≤ r.version m := by
  classical
  have hne : us.toFinset.Nonempty := (List.toFinset_nonempty_iff us).mpr h
  simpa using us.toFinset.exists_max_image r.version hne

include hframe hview in
/-- Two delivery orders of the same updates end with the same view. -/
theorem view_run_perm {s : σ} {us vs : List U} (hperm : us.Perm vs)
    (hdistinct : us.Pairwise fun u w => r.version u ≠ r.version w)
    (hs : ∀ u ∈ us, r.stamp s ≤ r.version u) :
    view (r.run s us) = view (r.run s vs) := by
  by_cases hus : us = []
  · subst hus
    rw [List.nil_perm.mp hperm]
  · obtain ⟨m, hm, hmax⟩ := r.exists_greatest hus
    have hdistinct' : vs.Pairwise fun u w => r.version u ≠ r.version w :=
      hperm.pairwise hdistinct fun h => h.symm
    rw [r.view_run_greatest hframe hview hdistinct hm hmax (hs m hm),
      r.view_run_greatest hframe hview hdistinct' (hperm.mem_iff.mp hm)
        (fun u hu => hmax u (hperm.mem_iff.mpr hu)) (hs m hm)]

end Convergence

end LatestWins
