import Mathlib.Data.List.Nodup

/-! # Replay of a journal

A journaled system handles one input at a time. A step moves the state and journals the
input, followed by the entries that the step generates from it. What a step reads from
outside (fresh ids, clocks) reaches the journal but not the state. A filter that drops the
generated entries then recovers the inputs that it keeps, and a replay over the same inputs
reaches the state of the run. -/

/-- A system with states `S` and inputs `E`, whose steps read ambient values `A`. -/
structure Journaled (A S E : Type*) where
  step : A → S → E → S × List E
  isSource : E → Bool

namespace Journaled

variable {A S E : Type*} (m : Journaled A S E)

/-- The state after a sequence of inputs. -/
def run (s : S) (inputs : List (A × E)) : S :=
  inputs.foldl (fun s input => (m.step input.1 s input.2).1) s

/-- The entries that a sequence of inputs leaves in the journal. -/
def journal (s : S) : List (A × E) → List E
  | [] => []
  | input :: inputs =>
    (m.step input.1 s input.2).2 ++ journal (m.step input.1 s input.2).1 inputs

@[simp] theorem run_nil (s : S) : m.run s [] = s := rfl

@[simp] theorem run_cons (s : S) (input : A × E) (inputs : List (A × E)) :
    m.run s (input :: inputs) = m.run (m.step input.1 s input.2).1 inputs := rfl

/-- The ambient values of a step do not reach its state, and its journal is the input
followed by entries that are no source. -/
structure Lawful : Prop where
  steady : ∀ a b s e, (m.step a s e).1 = (m.step b s e).1
  generates : ∀ a s e, ∃ generated, (m.step a s e).2 = e :: generated ∧
    ∀ entry ∈ generated, m.isSource entry = false

variable {m}

/-- Runs over the same inputs reach the same state. -/
theorem Lawful.run_congr (h : m.Lawful) (s : S) {inputs others : List (A × E)}
    (hsame : inputs.map Prod.snd = others.map Prod.snd) : m.run s inputs = m.run s others := by
  induction inputs generalizing s others with
  | nil =>
      rw [List.map_nil, eq_comm, List.map_eq_nil_iff] at hsame
      rw [hsame]
  | cons input inputs ih =>
      cases others with
      | nil => simp at hsame
      | cons other others =>
          obtain ⟨hhead, htail⟩ := List.cons_eq_cons.mp hsame
          rw [run_cons, run_cons, hhead, h.steady input.1 other.1]
          exact ih _ htail

/-- The filter recovers the inputs that are sources. -/
theorem Lawful.filter_journal (h : m.Lawful) (s : S) (inputs : List (A × E)) :
    (m.journal s inputs).filter m.isSource = (inputs.map Prod.snd).filter m.isSource := by
  induction inputs generalizing s with
  | nil => rfl
  | cons input inputs ih =>
      obtain ⟨generated, hstep, hgenerated⟩ := h.generates input.1 s input.2
      have hnone : generated.filter m.isSource = [] := by
        rw [List.filter_eq_nil_iff]
        intro entry hentry
        simp [hgenerated entry hentry]
      rw [journal, List.filter_append, ih, hstep, List.map_cons, List.filter_cons,
        List.filter_cons, hnone]
      split
      · rfl
      · rfl

/-- A view of the state that every step respects is respected by a run. -/
theorem run_comm {f : S → S} (hf : ∀ a s e, (m.step a (f s) e).1 = f (m.step a s e).1) (s : S)
    (inputs : List (A × E)) : m.run (f s) inputs = f (m.run s inputs) := by
  induction inputs generalizing s with
  | nil => rfl
  | cons input inputs ih =>
      rw [run_cons, run_cons, hf]
      exact ih _

end Journaled

/-! ## Entries routed to two logs

Every entry is appended to the left log, to the right log, or to both, as a route says. When
no two entries leave the same record, the logs receive the same records exactly when every
entry goes to both or to neither. -/

namespace Routing

variable {X R : Type*} (left right : X → Bool) (view : X → R)

/-- The logs after the entries of a trace. -/
structure Routed (leftLog rightLog leftAfter rightAfter : List R) (trace : List X) : Prop where
  left : leftAfter = leftLog ++ (trace.filter left).map view
  right : rightAfter = rightLog ++ (trace.filter right).map view

variable {left right view}

theorem Routed.nil (leftLog rightLog : List R) :
    Routed left right view leftLog rightLog leftLog rightLog [] :=
  ⟨by simp, by simp⟩

/-- One more entry. -/
theorem Routed.append {leftLog rightLog leftAfter rightAfter : List R} {trace : List X}
    (h : Routed left right view leftLog rightLog leftAfter rightAfter trace) (x : X) :
    Routed left right view leftLog rightLog
      (if left x then leftAfter ++ [view x] else leftAfter)
      (if right x then rightAfter ++ [view x] else rightAfter) (trace ++ [x]) := by
  constructor
  · cases hleft : left x <;> simp [hleft, h.left]
  · cases hright : right x <;> simp [hright, h.right]

theorem map_filter_eq_iff {trace : List X} (h : (trace.map view).Nodup) :
    (trace.filter left).map view = (trace.filter right).map view ↔
      ∀ x ∈ trace, left x = right x := by
  have hmem : ∀ {route : X → Bool}, ∀ x ∈ trace,
      (view x ∈ (trace.filter route).map view ↔ route x = true) := by
    intro route x hx
    constructor
    · intro hview
      obtain ⟨y, hy, heq⟩ := List.mem_map.mp hview
      rw [List.mem_filter] at hy
      rw [← List.inj_on_of_nodup_map h hy.1 hx heq]
      exact hy.2
    · exact fun hroute => List.mem_map_of_mem (List.mem_filter.mpr ⟨hx, hroute⟩)
  constructor
  · intro hsame x hx
    rw [Bool.eq_iff_iff, ← hmem x hx, ← hmem x hx, hsame]
  · intro hroutes
    rw [List.filter_congr hroutes]

/-- Both logs receive the same records exactly when every entry is routed alike. -/
theorem Routed.same_iff {leftLog rightLog leftAfter rightAfter : List R} {trace : List X}
    (h : Routed left right view leftLog rightLog leftAfter rightAfter trace)
    (hnodup : (trace.map view).Nodup) :
    (∃ records, leftAfter = leftLog ++ records ∧ rightAfter = rightLog ++ records) ↔
      ∀ x ∈ trace, left x = right x := by
  rw [← map_filter_eq_iff hnodup, h.left, h.right]
  constructor
  · rintro ⟨records, hleft, hright⟩
    exact (List.append_cancel_left hleft).trans (List.append_cancel_left hright).symm
  · intro hsame
    exact ⟨_, rfl, by rw [hsame]⟩

end Routing
