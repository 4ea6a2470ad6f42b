import Mathlib.Data.List.Basic

/-! # Entries held back until a gate opens

Entries arrive in batches at a gate that is closed at first. A closed gate keeps all entries of
a batch; when it opens under a name it lets go what it kept. An open gate lets through the
first entry of a batch. -/

namespace HeldBack

variable {κ ε β : Type*}

/-- A gate opens under a name, or a batch of entries arrives. -/
inductive Arrival (κ ε : Type*) where
  | opened (name : κ)
  | batch (entries : List ε)
  deriving DecidableEq

/-- The entries of an arrival. -/
def Arrival.entries : Arrival κ ε → List ε
  | .opened _ => []
  | .batch entries => entries

/-- The name under which an arrival opens the gate. -/
def Arrival.name? : Arrival κ ε → Option κ
  | .opened name => some name
  | .batch _ => none

/-- The first entry of an arrival. -/
def Arrival.first (arrival : Arrival κ ε) : List ε := arrival.entries.head?.toList

/-- The name under which a gate is open, and what it holds back. -/
structure Gate (κ ε : Type*) where
  name : Option κ
  waiting : List ε

variable (emit : ε → κ → β)

def step (gate : Gate κ ε) : Arrival κ ε → Gate κ ε × List β
  | .opened name => (⟨some name, []⟩, gate.waiting.map (emit · name))
  | .batch entries =>
    match gate.name with
    | some name => (gate, entries.head?.toList.map (emit · name))
    | none => (⟨none, gate.waiting ++ entries⟩, [])

def run (gate : Gate κ ε) : List (Arrival κ ε) → Gate κ ε × List β
  | [] => (gate, [])
  | arrival :: rest =>
    let first := step emit gate arrival
    let others := run first.1 rest
    (others.1, first.2 ++ others.2)

theorem run_append (gate : Gate κ ε) (before after : List (Arrival κ ε)) :
    run emit gate (before ++ after) =
      ((run emit (run emit gate before).1 after).1,
        (run emit gate before).2 ++ (run emit (run emit gate before).1 after).2) := by
  induction before generalizing gate with
  | nil => rfl
  | cons arrival before ih => simp only [List.cons_append, run, ih, List.append_assoc]

@[simp] theorem run_batch_nil (gate : Gate κ ε) :
    run emit gate [.batch []] = (gate, []) := by
  obtain ⟨name, waiting⟩ := gate
  cases name with
  | none => simp [run, step]
  | some name => rfl

/-- A closed gate keeps all entries. -/
theorem run_closed {arrivals : List (Arrival κ ε)}
    (h : ∀ arrival ∈ arrivals, arrival.name? = none) (waiting : List ε) :
    run emit ⟨none, waiting⟩ arrivals =
      (⟨none, waiting ++ arrivals.flatMap Arrival.entries⟩, []) := by
  induction arrivals generalizing waiting with
  | nil => simp [run]
  | cons arrival arrivals ih =>
      obtain ⟨harrival, hrest⟩ := List.forall_mem_cons.mp h
      cases arrival with
      | opened name => cases harrival
      | batch entries =>
          have hstep : step emit (⟨none, waiting⟩ : Gate κ ε) (.batch entries) =
              (⟨none, waiting ++ entries⟩, []) := rfl
          simp only [run, hstep, ih hrest, List.nil_append, List.flatMap_cons, Arrival.entries,
            List.append_assoc]

/-- An open gate lets the first entry of each batch through. -/
theorem run_open {arrivals : List (Arrival κ ε)}
    (h : ∀ arrival ∈ arrivals, arrival.name? = none) (name : κ) (waiting : List ε) :
    run emit ⟨some name, waiting⟩ arrivals =
      (⟨some name, waiting⟩, (arrivals.flatMap Arrival.first).map (emit · name)) := by
  induction arrivals with
  | nil => rfl
  | cons arrival arrivals ih =>
      obtain ⟨harrival, hrest⟩ := List.forall_mem_cons.mp h
      cases arrival with
      | opened name => cases harrival
      | batch entries =>
          have hstep : step emit (⟨some name, waiting⟩ : Gate κ ε) (.batch entries) =
              (⟨some name, waiting⟩, entries.head?.toList.map (emit · name)) := rfl
          simp only [run, hstep, ih hrest, List.flatMap_cons, List.map_append, Arrival.first,
            Arrival.entries]

/-- What a gate that opens once lets through: all entries that came before, the first entries
of what came after. -/
theorem run_once {before after : List (Arrival κ ε)}
    (hbefore : ∀ arrival ∈ before, arrival.name? = none)
    (hafter : ∀ arrival ∈ after, arrival.name? = none) (name : κ) :
    (run emit ⟨none, []⟩ (before ++ .opened name :: after)).2 =
      (before.flatMap Arrival.entries ++ after.flatMap Arrival.first).map (emit · name) := by
  rw [run_append, run_closed emit hbefore, List.nil_append]
  have hstep : step emit (⟨none, before.flatMap Arrival.entries⟩ : Gate κ ε) (.opened name) =
      (⟨some name, []⟩, (before.flatMap Arrival.entries).map (emit · name)) := rfl
  simp only [run, hstep, run_open emit hafter, List.map_append, List.nil_append]

/-- An arrival brings one entry more than its first one when it has more than one. -/
theorem length_first_le (arrival : Arrival κ ε) :
    arrival.first.length ≤ arrival.entries.length := by
  unfold Arrival.first
  cases arrival.entries with
  | nil => exact Nat.le_refl 0
  | cons entry entries => simp

theorem length_flatMap_first_le (arrivals : List (Arrival κ ε)) :
    (arrivals.flatMap Arrival.first).length ≤ (arrivals.flatMap Arrival.entries).length := by
  induction arrivals with
  | nil => exact Nat.le_refl 0
  | cons arrival arrivals ih =>
      have hhead := length_first_le arrival
      rw [List.flatMap_cons, List.flatMap_cons, List.length_append, List.length_append]
      omega

/-- Arrivals that bring entries have one first entry each. -/
theorem length_flatMap_first {arrivals : List (Arrival κ ε)}
    (h : ∀ arrival ∈ arrivals, arrival.entries ≠ []) :
    (arrivals.flatMap Arrival.first).length = arrivals.length := by
  induction arrivals with
  | nil => rfl
  | cons arrival arrivals ih =>
      obtain ⟨harrival, hrest⟩ := List.forall_mem_cons.mp h
      obtain ⟨entry, entries, hentries⟩ := List.exists_cons_of_ne_nil harrival
      have hfirst : arrival.first = [entry] := by
        rw [Arrival.first, hentries]
        rfl
      rw [List.flatMap_cons, hfirst, List.length_append, ih hrest, List.length_singleton,
        List.length_cons, Nat.add_comm]

theorem entries_eq_first_iff (arrival : Arrival κ ε) :
    arrival.entries = arrival.first ↔ arrival.entries.length ≤ 1 := by
  unfold Arrival.first
  match arrival.entries with
  | [] => simp
  | [entry] => simp
  | entry :: next :: entries => simp

/-- Arrivals bring as many entries as first entries only when none brings two. -/
theorem length_flatMap_entries_eq_iff (arrivals : List (Arrival κ ε)) :
    (arrivals.flatMap Arrival.entries).length = (arrivals.flatMap Arrival.first).length ↔
      ∀ arrival ∈ arrivals, arrival.entries.length ≤ 1 := by
  induction arrivals with
  | nil => simp
  | cons arrival arrivals ih =>
      have hhead := length_first_le arrival
      have htail := length_flatMap_first_le arrivals
      have hequal : arrival.entries.length = arrival.first.length ↔
          arrival.entries.length ≤ 1 := by
        rw [← entries_eq_first_iff]
        constructor
        · intro hlength
          unfold Arrival.first at hlength ⊢
          match arrival.entries, hlength with
          | [], _ => rfl
          | [entry], _ => rfl
        · exact congrArg List.length
      rw [List.flatMap_cons, List.flatMap_cons, List.length_append, List.length_append,
        List.forall_mem_cons, ← ih, ← hequal]
      omega

theorem flatMap_entries_eq_first {arrivals : List (Arrival κ ε)}
    (h : ∀ arrival ∈ arrivals, arrival.entries.length ≤ 1) :
    arrivals.flatMap Arrival.entries = arrivals.flatMap Arrival.first :=
  List.flatMap_congr fun arrival harrival => (entries_eq_first_iff arrival).mpr (h arrival harrival)

end HeldBack
