import Mathlib.Algebra.BigOperators.Group.List.Basic

/-! # Conditions on the steps of a run

A run folds a step function over a list of inputs. A condition on steps reads the state
before the step and its input. It may hold along the whole run, or one may count the steps
that pass a test. -/

namespace Runs

variable {S E : Type*} (step : S → E → S)

/-! ## Readings that steps add to -/

/-- A reading to which each step adds what its input is worth totals the inputs of a run. -/
theorem reading_foldl {M : Type*} [AddCommMonoid M] (read : S → M) (worth : E → M)
    (hstep : ∀ s e, read (step s e) = read s + worth e) (s : S) (es : List E) :
    read (es.foldl step s) = read s + (es.map worth).sum := by
  induction es generalizing s with
  | nil => simp
  | cons e es ih => rw [List.foldl_cons, ih, hstep, List.map_cons, List.sum_cons, add_assoc]

/-- A reading that no step changes is the one that the run started with. -/
theorem reading_foldl_of_kept {M : Type*} (read : S → M)
    (hstep : ∀ s e, read (step s e) = read s) (s : S) (es : List E) :
    read (es.foldl step s) = read s := by
  induction es generalizing s with
  | nil => rfl
  | cons e es ih => rw [List.foldl_cons, ih, hstep]

/-- Steps that leave a state leave it one after the other. -/
theorem foldl_eq_self {s : S} {es : List E} (h : ∀ e ∈ es, step s e = s) :
    es.foldl step s = s := by
  induction es with
  | nil => rfl
  | cons e es ih =>
      obtain ⟨he, hes⟩ := List.forall_mem_cons.mp h
      rw [List.foldl_cons, he]
      exact ih hes

/-- Where one input alone moves a state, and none moves it on, the order is of no matter. -/
theorem foldl_eq_step {s : S} {e : E} {es : List E} (he : e ∈ es)
    (hothers : ∀ other ∈ es, other ≠ e → step s other = s)
    (hmoved : ∀ other ∈ es, step (step s e) other = step s e) : es.foldl step s = step s e := by
  induction es with
  | nil => cases he
  | cons first es ih =>
      obtain ⟨-, hrest⟩ := List.forall_mem_cons.mp hmoved
      by_cases hfirst : first = e
      · rw [List.foldl_cons, hfirst]
        exact foldl_eq_self step hrest
      · rw [List.foldl_cons, hothers first List.mem_cons_self hfirst]
        refine ih ((List.mem_cons.mp he).resolve_left fun h => hfirst h.symm) ?_ hrest
        exact fun other hother => hothers other (List.mem_cons_of_mem _ hother)

/-- A reading that no step takes back comes from the one step that gave it. -/
theorem reading_foldl_eq_some_iff {α : Type*} (read : S → Option α)
    (hstay : ∀ s e, read s ≠ none → step s e = s) {s : S} (hs : read s = none) (es : List E)
    (a : α) :
    read (es.foldl step s) = some a ↔ ∃ before e after, es = before ++ e :: after ∧
      read (before.foldl step s) = none ∧ read (step (before.foldl step s) e) = some a := by
  have hrest : ∀ (rest : List E) (t : S), read t ≠ none → rest.foldl step t = t := by
    intro rest
    induction rest with
    | nil => exact fun t _ => rfl
    | cons e rest ih =>
        intro t ht
        rw [List.foldl_cons, hstay t e ht]
        exact ih t ht
  induction es generalizing s with
  | nil => simp [hs]
  | cons e es ih =>
      rw [List.foldl_cons]
      by_cases hnext : read (step s e) = none
      · refine (ih hnext).trans ?_
        constructor
        · rintro ⟨before, last, after, rfl, hbefore, hlast⟩
          exact ⟨e :: before, last, after, rfl, hbefore, hlast⟩
        · rintro ⟨before, last, after, hes, hbefore, hlast⟩
          cases before with
          | nil =>
              cases hes
              rw [List.foldl_nil, hnext] at hlast
              cases hlast
          | cons first before =>
              cases hes
              exact ⟨before, last, after, rfl, hbefore, hlast⟩
      · rw [hrest es _ hnext]
        constructor
        · exact fun hread => ⟨[], e, es, rfl, hs, hread⟩
        · rintro ⟨before, last, after, hes, hbefore, hlast⟩
          cases before with
          | nil =>
              cases hes
              exact hlast
          | cons first before =>
              cases hes
              rw [List.foldl_cons, hrest before _ hnext] at hbefore
              exact absurd hbefore hnext

/-! ## What the steps of a run emit -/

variable {β : Type*}

/-- What the steps of a run emit, one after the other. -/
def emitted (emit : S → E → List β) : S → List E → List β
  | _, [] => []
  | s, e :: es => emit s e ++ emitted emit (step s e) es

theorem emitted_append (emit : S → E → List β) (s : S) (before after : List E) :
    emitted step emit s (before ++ after) =
      emitted step emit s before ++ emitted step emit (before.foldl step s) after := by
  induction before generalizing s with
  | nil => rfl
  | cons e before ih =>
      rw [List.cons_append, emitted, emitted, ih, List.append_assoc, List.foldl_cons]

theorem filterMap_emitted {γ : Type*} (f : β → Option γ) (emit : S → E → List β) (s : S)
    (es : List E) :
    (emitted step emit s es).filterMap f =
      emitted step (fun s e => (emit s e).filterMap f) s es := by
  induction es generalizing s with
  | nil => rfl
  | cons e es ih => rw [emitted, emitted, List.filterMap_append, ih]

theorem map_emitted {γ : Type*} (f : β → γ) (emit : S → E → List β) (s : S) (es : List E) :
    (emitted step emit s es).map f = emitted step (fun s e => (emit s e).map f) s es := by
  induction es generalizing s with
  | nil => rfl
  | cons e es ih => rw [emitted, emitted, List.map_append, ih]

/-- Steps that emit a part of what their inputs bring emit a part of what the run brings. -/
theorem emitted_sublist {emit : S → E → List β} {brings : E → List β}
    (h : ∀ s e, (emit s e).Sublist (brings e)) (s : S) (es : List E) :
    (emitted step emit s es).Sublist (es.flatMap brings) := by
  induction es generalizing s with
  | nil => exact List.Sublist.slnil
  | cons e es ih => exact (h s e).append (ih _)

/-- What a step takes under a condition is part of what there is. -/
theorem ite_sublist (c : Prop) [Decidable c] (l : List β) :
    (if c then l else []).Sublist l := by
  split
  · exact .refl _
  · exact List.nil_sublist _

/-- A step takes all there is or refuses it. -/
theorem ite_append_perm (c : Prop) [Decidable c] (l : List β) :
    ((if c then l else []) ++ if c then [] else l).Perm l := by
  split
  · rw [List.append_nil]
  · rw [List.nil_append]

/-- Steps that divide what their inputs bring divide what the run brings. -/
theorem emitted_append_perm {first second : S → E → List β} {brings : E → List β}
    (h : ∀ s e, (first s e ++ second s e).Perm (brings e)) (s : S) (es : List E) :
    (emitted step first s es ++ emitted step second s es).Perm (es.flatMap brings) := by
  induction es generalizing s with
  | nil => exact List.Perm.nil
  | cons e es ih =>
      have hparts := (h s e).append (ih (step s e))
      rw [List.append_assoc] at hparts
      rw [emitted, emitted, List.flatMap_cons, List.append_assoc]
      exact ((List.perm_append_comm_assoc _ _ _).append_left _).trans hparts

/-- Steps that append what they take to a queue, and remove what they give from its front, lead
to a run that does: what was queued or taken in is given out in order or still queued. -/
theorem queue_foldl (queue : S → List β) (taken given : S → E → List β)
    (hstep : ∀ s e, queue s ++ taken s e = given s e ++ queue (step s e)) (s : S) (es : List E) :
    queue s ++ emitted step taken s es =
      emitted step given s es ++ queue (es.foldl step s) := by
  induction es generalizing s with
  | nil => simp [emitted]
  | cons e es ih =>
      rw [emitted, emitted, List.foldl_cons, ← List.append_assoc, hstep, List.append_assoc, ih,
        List.append_assoc]

/-! ## Signals -/

/-- How often a signal goes up, from its first value on. -/
def rises : Bool → List Bool → ℕ
  | _, [] => 0
  | last, next :: signal => (if next && !last then 1 else 0) + rises next signal

/-- The last value of a signal. -/
def latest (first : Bool) (signal : List Bool) : Bool := signal.getLast?.getD first

@[simp] theorem latest_concat (first next : Bool) (signal : List Bool) :
    latest first (signal ++ [next]) = next := by
  simp [latest]

theorem rises_concat (first next : Bool) (signal : List Bool) :
    rises first (signal ++ [next]) =
      rises first signal + if next && !latest first signal then 1 else 0 := by
  induction signal generalizing first with
  | nil => simp [rises, latest]
  | cons value signal ih =>
      have hlatest : latest first (value :: signal) = latest value signal := by
        cases signal <;> simp [latest, List.getLast?_cons]
      rw [List.cons_append, rises, rises, ih, hlatest, Nat.add_assoc]

/-! ## Conditions along a run -/

/-- Every step of the run meets the condition in the state in which it is taken. -/
def Along (P : S → E → Prop) : S → List E → Prop
  | _, [] => True
  | s, e :: es => P s e ∧ Along P (step s e) es

instance decidableAlong (P : S → E → Prop) [∀ s e, Decidable (P s e)] :
    ∀ (s : S) (es : List E), Decidable (Along step P s es)
  | _, [] => .isTrue trivial
  | s, e :: es => @instDecidableAnd _ _ _ (decidableAlong P (step s e) es)

variable {step} {P : S → E → Prop}

/-- What a step keeps under the condition holds after a run of such steps. -/
theorem Along.invariant {I : S → Prop} (hstep : ∀ s e, I s → P s e → I (step s e))
    {s : S} (hs : I s) {es : List E} (h : Along step P s es) : I (es.foldl step s) := by
  induction es generalizing s with
  | nil => exact hs
  | cons e es ih => exact ih (hstep s e hs h.1) h.2

theorem along_iff {s : S} {es : List E} :
    Along step P s es ↔
      ∀ before e after, es = before ++ e :: after → P (before.foldl step s) e := by
  induction es generalizing s with
  | nil =>
      constructor
      · intro _ before e after h
        simp at h
      · exact fun _ => trivial
  | cons first es ih =>
      constructor
      · rintro ⟨hfirst, hrest⟩ before e after h
        cases before with
        | nil =>
            cases h
            exact hfirst
        | cons b before =>
            cases h
            exact ih.mp hrest before e after rfl
      · intro h
        refine ⟨h [] first es rfl, ih.mpr ?_⟩
        rintro before e after rfl
        exact h (first :: before) e after rfl

/-- A condition on the inputs alone holds along a run when it holds of every input. -/
theorem along_inputs_iff {P : E → Prop} {s : S} {es : List E} :
    Along step (fun _ e => P e) s es ↔ ∀ e ∈ es, P e := by
  induction es generalizing s with
  | nil => simp [Along]
  | cons e es ih => rw [Along, ih, List.forall_mem_cons]

/-- Steps that each keep a property exactly under the condition keep it in every state of a
run exactly when all of them meet the condition. -/
theorem forall_reached_iff_along {I : S → Prop} {Q : S → E → Prop}
    (hstep : ∀ s e, I s → Q s e → (I (step s e) ↔ P s e)) {s : S} (hs : I s)
    {es : List E} (hQ : Along step Q s es) :
    (∀ before after, es = before ++ after → I (before.foldl step s)) ↔ Along step P s es := by
  induction es generalizing s with
  | nil =>
      constructor
      · exact fun _ => trivial
      · intro _ before after h
        obtain ⟨rfl, rfl⟩ := List.append_eq_nil_iff.mp h.symm
        exact hs
  | cons e es ih =>
      constructor
      · intro h
        have hnext : I (step s e) := h [e] es rfl
        refine ⟨(hstep s e hs hQ.1).mp hnext, (ih hnext hQ.2).mp ?_⟩
        rintro before after rfl
        exact h (e :: before) after rfl
      · rintro ⟨hfirst, hrest⟩ before after h
        have hnext : I (step s e) := (hstep s e hs hQ.1).mpr hfirst
        cases before with
        | nil => exact hs
        | cons b before =>
            cases h
            exact (ih hnext hQ.2).mpr hrest before after rfl

variable (step) in
/-- A reading that no step lowers is at the end what it was at the start exactly when no step
raises it. -/
theorem reading_foldl_eq_iff_along {R : Type*} [PartialOrder R] (read : S → R) {I : S → Prop}
    {Q : E → Prop} (hI : ∀ s e, I s → I (step s e))
    (hle : ∀ s e, I s → Q e → read s ≤ read (step s e))
    (hstep : ∀ s e, I s → Q e → (read (step s e) = read s ↔ P s e)) {s : S} (hs : I s)
    {es : List E} (hes : ∀ e ∈ es, Q e) :
    read s ≤ read (es.foldl step s) ∧
      (read (es.foldl step s) = read s ↔ Along step P s es) := by
  induction es generalizing s with
  | nil => exact ⟨le_rfl, fun _ => trivial, fun _ => rfl⟩
  | cons e es ih =>
      have hQ : Q e := hes e (by simp)
      obtain ⟨hlater, hrest⟩ := ih (hI s e hs) fun x hx => hes x (List.mem_cons_of_mem e hx)
      have hfirst := hle s e hs hQ
      refine ⟨hfirst.trans hlater, ?_, ?_⟩
      · intro h
        rw [List.foldl_cons] at h
        have hkept : read (step s e) = read s := le_antisymm (h ▸ hlater) hfirst
        exact ⟨(hstep s e hs hQ).mp hkept, hrest.mp (h.trans hkept.symm)⟩
      · rintro ⟨he, halong⟩
        exact (hrest.mpr halong).trans ((hstep s e hs hQ).mpr he)

/-- A condition along a run holds along both of its parts. -/
theorem Along.append {s : S} {before after : List E} (h : Along step P s (before ++ after)) :
    Along step P s before ∧ Along step P (before.foldl step s) after := by
  induction before generalizing s with
  | nil => exact ⟨trivial, h⟩
  | cons e before ih => exact ⟨⟨h.1, (ih h.2).1⟩, (ih h.2).2⟩

theorem Along.concat {s : S} {before after : List E} (h : Along step P s before)
    (hafter : Along step P (before.foldl step s) after) : Along step P s (before ++ after) := by
  induction before generalizing s with
  | nil => exact hafter
  | cons e before ih => exact ⟨h.1, ih h.2 hafter⟩

/-- Beside a property that every step keeps, another one holds in every state of a run exactly
when all steps meet the condition under which they keep it. -/
theorem forall_reached_iff_along_of_kept {J I : S → Prop} {Q : S → E → Prop}
    (hkept : ∀ s e, J s → Q s e → J (step s e))
    (hstep : ∀ s e, J s → I s → Q s e → (I (step s e) ↔ P s e)) {s : S} (hJ : J s) (hI : I s)
    {es : List E} (hQ : Along step Q s es) :
    (∀ before after, es = before ++ after → I (before.foldl step s)) ↔ Along step P s es := by
  have hboth : ∀ s e, J s ∧ I s → Q s e → (J (step s e) ∧ I (step s e) ↔ P s e) := by
    rintro s e ⟨hJ, hI⟩ hQ
    rw [hstep s e hJ hI hQ]
    exact and_iff_right_of_imp fun _ => hkept s e hJ hQ
  rw [← forall_reached_iff_along hboth ⟨hJ, hI⟩ hQ]
  constructor
  · rintro h before after rfl
    exact ⟨hQ.append.1.invariant hkept hJ, h before after rfl⟩
  · exact fun h before after hes => (h before after hes).2

/-! ## Counting steps -/

variable (step) (test : S → E → Bool)

/-- The number of steps that pass the test in the state in which they are taken. -/
def occurrences : S → List E → ℕ
  | _, [] => 0
  | s, e :: es => occurrences (step s e) es + if test s e then 1 else 0

variable {step test}

theorem occurrences_eq_zero_iff {s : S} {es : List E} :
    occurrences step test s es = 0 ↔ Along step (fun s e => test s e = false) s es := by
  induction es generalizing s with
  | nil => simp [occurrences, Along]
  | cons e es ih =>
      rw [occurrences, Along, Nat.add_eq_zero_iff, ih, and_comm]
      simp

/-- A count that goes up by one with each step that passes the test. -/
theorem reading_foldl_occurrences (read : S → ℕ)
    (hstep : ∀ s e, read (step s e) = read s + if test s e then 1 else 0) (s : S) (es : List E) :
    read (es.foldl step s) = read s + occurrences step test s es := by
  induction es generalizing s with
  | nil => rfl
  | cons e es ih => rw [List.foldl_cons, ih, hstep, occurrences, add_assoc, add_comm (ite _ _ _)]

/-- A flag that is set by the steps that pass the test. -/
theorem flag_foldl_eq_false_iff (read : S → Bool)
    (hstep : ∀ s e, read (step s e) = (read s || test s e)) (s : S) (es : List E) :
    read (es.foldl step s) = false ↔
      read s = false ∧ Along step (fun s e => test s e = false) s es := by
  induction es generalizing s with
  | nil => exact iff_of_eq (and_true _).symm
  | cons e es ih => rw [List.foldl_cons, ih, hstep, Bool.or_eq_false_iff, and_assoc, Along]

/-- At most one step passes the test when no two do. -/
theorem occurrences_le_one_iff {s : S} {es : List E} :
    occurrences step test s es ≤ 1 ↔
      ∀ before first between late after, es = before ++ first :: (between ++ late :: after) →
        test (before.foldl step s) first = true →
          test ((before ++ first :: between).foldl step s) late = false := by
  induction es generalizing s with
  | nil => simp [occurrences]
  | cons e es ih =>
      rw [occurrences]
      have hhead : (∀ before first between late after,
          e :: es = before ++ first :: (between ++ late :: after) →
            test (before.foldl step s) first = true →
              test ((before ++ first :: between).foldl step s) late = false) ↔
          (test s e = true → Along step (fun s e => test s e = false) (step s e) es) ∧
            occurrences step test (step s e) es ≤ 1 := by
        rw [ih, along_iff]
        constructor
        · intro h
          refine ⟨fun he between late after hes => ?_,
            fun before first between late after hes => ?_⟩
          · exact h [] e between late after (by rw [hes]; rfl) he
          · exact h (e :: before) first between late after (by rw [hes]; rfl)
        · rintro ⟨hfirst, hrest⟩ before first between late after hes hpass
          cases before with
          | nil =>
              cases hes
              exact hfirst hpass between late after rfl
          | cons b before =>
              cases hes
              exact hrest before first between late after rfl hpass
      rw [hhead, ← occurrences_eq_zero_iff]
      cases test s e with
      | false => simp
      | true =>
          simp only [if_true, forall_const]
          omega

end Runs
