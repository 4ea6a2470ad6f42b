import Mathlib.Algebra.Ring.Parity
import Mathlib.Data.Finset.Card

/-! # Logs of openings and closings -/

/-! ## Tracking logs

A tracker opens keys, closes them and logs both. The log determines which keys are open.
When only open keys are closed, openings and closings balance up to the openings of keys
that were open already, and no key is closed twice without an opening in between. -/

namespace Tracking

/-- An entry of a tracking log. -/
inductive Entry (κ : Type*) where
  | opened (key : κ)
  | closed (key : κ)
  deriving DecidableEq

variable {κ : Type*} [DecidableEq κ]

/-! ### Logs -/

/-- The open keys after an entry. -/
def step (keys : Finset κ) : Entry κ → Finset κ
  | .opened k => insert k keys
  | .closed k => keys.erase k

/-- The open keys after a log. -/
def replay (keys : Finset κ) (log : List (Entry κ)) : Finset κ :=
  log.foldl step keys

/-- Only open keys are closed. -/
def Sound (keys : Finset κ) : List (Entry κ) → Prop
  | [] => True
  | .opened k :: log => Sound (insert k keys) log
  | .closed k :: log => k ∈ keys ∧ Sound (keys.erase k) log

omit [DecidableEq κ] in
/-- The number of keys that a log opens. -/
def openings : List (Entry κ) → ℕ
  | [] => 0
  | .opened _ :: log => openings log + 1
  | .closed _ :: log => openings log

omit [DecidableEq κ] in
/-- The number of keys that a log closes. -/
def closings : List (Entry κ) → ℕ
  | [] => 0
  | .opened _ :: log => closings log
  | .closed _ :: log => closings log + 1

/-- The number of openings of a key that is open already. -/
def reopenings (keys : Finset κ) : List (Entry κ) → ℕ
  | [] => 0
  | .opened k :: log => reopenings (insert k keys) log + if k ∈ keys then 1 else 0
  | .closed k :: log => reopenings (keys.erase k) log

/-! ### Concatenation -/

theorem replay_append (keys : Finset κ) (log more : List (Entry κ)) :
    replay keys (log ++ more) = replay (replay keys log) more :=
  List.foldl_append

theorem sound_append (keys : Finset κ) (log more : List (Entry κ)) :
    Sound keys (log ++ more) ↔ Sound keys log ∧ Sound (replay keys log) more := by
  induction log generalizing keys with
  | nil => simp [Sound, replay]
  | cons entry log ih =>
      cases entry with
      | opened k => exact ih (insert k keys)
      | closed k =>
          have hrest := ih (keys.erase k)
          simp only [List.cons_append, Sound, hrest, and_assoc]
          rfl

omit [DecidableEq κ] in
theorem openings_append (log more : List (Entry κ)) :
    openings (log ++ more) = openings log + openings more := by
  induction log with
  | nil => simp [openings]
  | cons entry log ih =>
      cases entry with
      | opened k =>
          simp only [List.cons_append, openings, ih]
          omega
      | closed k => exact ih

omit [DecidableEq κ] in
theorem closings_append (log more : List (Entry κ)) :
    closings (log ++ more) = closings log + closings more := by
  induction log with
  | nil => simp [closings]
  | cons entry log ih =>
      cases entry with
      | opened k => exact ih
      | closed k =>
          simp only [List.cons_append, closings, ih]
          omega

theorem reopenings_append (keys : Finset κ) (log more : List (Entry κ)) :
    reopenings keys (log ++ more) = reopenings keys log + reopenings (replay keys log) more := by
  induction log generalizing keys with
  | nil => simp [reopenings, replay]
  | cons entry log ih =>
      cases entry with
      | opened k =>
          have hrest := ih (insert k keys)
          simp only [List.cons_append, reopenings, hrest]
          have hreplay : replay keys (Entry.opened k :: log) = replay (insert k keys) log := rfl
          rw [hreplay]
          omega
      | closed k => exact ih (keys.erase k)

/-! ### Balance -/

/-- What was open or is opened is still open, is closed, or was opened while open. -/
theorem openings_add_card {keys : Finset κ} {log : List (Entry κ)} (h : Sound keys log) :
    openings log + keys.card =
      (replay keys log).card + closings log + reopenings keys log := by
  induction log generalizing keys with
  | nil => simp [openings, closings, reopenings, replay]
  | cons entry log ih =>
      cases entry with
      | opened k =>
          have hopen : Sound (insert k keys) log := h
          have hrest := ih hopen
          have hreplay : replay keys (Entry.opened k :: log) = replay (insert k keys) log := rfl
          rw [hreplay]
          by_cases hk : k ∈ keys
          · rw [Finset.insert_eq_of_mem hk] at hrest ⊢
            simp only [openings, closings, reopenings, if_pos hk, Finset.insert_eq_of_mem hk]
            omega
          · rw [Finset.card_insert_of_notMem hk] at hrest
            simp only [openings, closings, reopenings, if_neg hk]
            omega
      | closed k =>
          have hrest := ih h.2
          have hreplay : replay keys (Entry.closed k :: log) = replay (keys.erase k) log := rfl
          have hcard := Finset.card_erase_add_one h.1
          rw [hreplay]
          simp only [openings, closings, reopenings]
          omega

/-- A key that is closed before a log and open after it is opened by the log. -/
theorem opened_of_mem_replay {keys : Finset κ} {log : List (Entry κ)} {k : κ} (hk : k ∉ keys)
    (h : k ∈ replay keys log) : Entry.opened k ∈ log := by
  induction log generalizing keys with
  | nil => exact absurd h hk
  | cons entry log ih =>
      cases entry with
      | opened j =>
          by_cases hj : k = j
          · subst hj
            exact List.mem_cons_self
          · have hrest : k ∉ insert j keys := by
              rw [Finset.mem_insert]
              exact fun hor => hor.elim hj hk
            exact List.mem_cons_of_mem _ (ih hrest h)
      | closed j =>
          have hrest : k ∉ keys.erase j := fun hmem => hk (Finset.mem_of_mem_erase hmem)
          exact List.mem_cons_of_mem _ (ih hrest h)

/-- Between two closings of a key it is opened. -/
theorem opened_between {keys : Finset κ} {before between after : List (Entry κ)} {k : κ}
    (h : Sound keys (before ++ .closed k :: between ++ .closed k :: after)) :
    Entry.opened k ∈ between := by
  rw [List.append_assoc, sound_append] at h
  have hrest : Sound ((replay keys before).erase k) (between ++ .closed k :: after) := h.2.2
  rw [sound_append] at hrest
  exact opened_of_mem_replay (Finset.notMem_erase k _) hrest.2.1

end Tracking

/-! ## Open entries

An event closes some of the entries on record and opens others. At the end of a run an
entry is on record when it was opened, or there from the start, and no later event closed
it. -/

namespace OpenEntries

variable {E X : Type*} (opens : E → List X) (closes : E → X → Bool)

/-- The entries on record after an event. -/
def record (entries : List X) (e : E) : List X :=
  entries.filter (fun x => !closes e x) ++ opens e

variable {opens closes}

theorem mem_record {entries : List X} {e : E} {x : X} :
    x ∈ record opens closes entries e ↔ (x ∈ entries ∧ closes e x = false) ∨ x ∈ opens e := by
  simp [record]

/-- Some entry with a property is on record after an event when the event opens one or leaves
one open. -/
theorem any_record (p : X → Bool) (entries : List X) (e : E) :
    (record opens closes entries e).any p =
      ((opens e).any p || entries.any fun x => p x && !closes e x) := by
  unfold record
  rw [List.any_append, List.any_filter, Bool.or_comm]
  simp only [Bool.and_comm]

/-- What is on record at the end: what nothing closed, and what was opened and not closed
since. -/
theorem mem_foldl_record {entries : List X} {events : List E} {x : X} :
    x ∈ events.foldl (record opens closes) entries ↔
      (x ∈ entries ∧ ∀ e ∈ events, closes e x = false) ∨
        ∃ before e after, events = before ++ e :: after ∧ x ∈ opens e ∧
          ∀ later ∈ after, closes later x = false := by
  induction events using List.reverseRecOn with
  | nil => simp
  | append_singleton events last ih =>
      rw [List.foldl_append, List.foldl_cons, List.foldl_nil, mem_record, ih]
      constructor
      · rintro (⟨⟨hmem, hnone⟩ | ⟨before, e, after, rfl, hopens, hnone⟩, hlast⟩ | hopens)
        · refine Or.inl ⟨hmem, ?_⟩
          intro e he
          rcases List.mem_append.mp he with h | h
          · exact hnone e h
          · rw [List.mem_singleton.mp h]
            exact hlast
        · refine Or.inr ⟨before, e, after ++ [last], by simp, hopens, ?_⟩
          intro later hlater
          rcases List.mem_append.mp hlater with h | h
          · exact hnone later h
          · rw [List.mem_singleton.mp h]
            exact hlast
        · exact Or.inr ⟨events, last, [], rfl, hopens, by simp⟩
      · rintro (⟨hmem, hnone⟩ | ⟨before, e, after, hsplit, hopens, hnone⟩)
        · exact Or.inl ⟨Or.inl ⟨hmem, fun e he => hnone e (by simp [he])⟩,
            hnone last (by simp)⟩
        · -- The opening event is the last one or comes before it.
          induction after using List.reverseRecOn with
          | nil =>
              obtain ⟨-, hlast⟩ := List.append_inj' hsplit rfl
              cases hlast
              exact Or.inr hopens
          | append_singleton after final _ =>
              rw [← List.cons_append, ← List.append_assoc] at hsplit
              obtain ⟨hevents, hlast⟩ := List.append_inj' hsplit rfl
              cases hlast
              refine Or.inl ⟨Or.inr ⟨before, e, after, hevents, hopens, ?_⟩,
                hnone last (by simp)⟩
              exact fun later hlater => hnone later (by simp [hlater])

end OpenEntries

/-! ## Bracketed logs

A log holds marks that open and close an interval by turns, and entries that have to stay
outside of the intervals. -/

namespace Brackets

variable {α : Type*}

/-- The marks of the log alternate, the first of them opening, and no entry that has to
stay outside stands behind an odd number of marks. -/
structure Bracketed (isMark closes outside : α → Bool) (log : List α) : Prop where
  alternate : ∀ before e after, log = before ++ e :: after → isMark e = true →
    (closes e = true ↔ Odd (before.countP isMark))
  quiet : ∀ before e after, log = before ++ e :: after → outside e = true →
    Even (before.countP isMark)

namespace Bracketed

variable {isMark closes outside : α → Bool} {log : List α}

theorem nil : Bracketed isMark closes outside [] := by
  constructor <;> intro before e after h <;> simp at h

/-- What the last entry of a log has to satisfy. -/
theorem snoc (h : Bracketed isMark closes outside log) {e : α}
    (hmark : isMark e = true → (closes e = true ↔ Odd (log.countP isMark)))
    (houtside : outside e = true → Even (log.countP isMark)) :
    Bracketed isMark closes outside (log ++ [e]) := by
  have split : ∀ before x after, log ++ [e] = before ++ x :: after →
      (before = log ∧ x = e) ∨ ∃ rest, log = before ++ x :: rest := by
    intro before x after hsplit
    rcases List.eq_nil_or_concat after with rfl | ⟨rest, last, rfl⟩
    · obtain ⟨rfl, rfl⟩ := List.append_inj' hsplit rfl |>.imp_right List.singleton_inj.mp
      exact .inl ⟨rfl, rfl⟩
    · have hcut : log ++ [e] = (before ++ x :: rest) ++ [last] := by
        simpa using hsplit
      exact .inr ⟨rest, (List.append_inj' hcut rfl).1⟩
  constructor
  · intro before x after hsplit hx
    rcases split before x after hsplit with ⟨rfl, rfl⟩ | ⟨rest, hlog⟩
    · exact hmark hx
    · exact h.alternate before x rest hlog hx
  · intro before x after hsplit hx
    rcases split before x after hsplit with ⟨rfl, rfl⟩ | ⟨rest, hlog⟩
    · exact houtside hx
    · exact h.quiet before x rest hlog hx

/-- Entries that are not marks extend a log behind an even number of marks. -/
theorem append_outside (h : Bracketed isMark closes outside log)
    (heven : Even (log.countP isMark)) {es : List α} (hes : ∀ e ∈ es, isMark e = false) :
    Bracketed isMark closes outside (log ++ es) ∧
      (log ++ es).countP isMark = log.countP isMark := by
  induction es using List.reverseRecOn with
  | nil => simpa using h
  | append_singleton es e ih =>
    obtain ⟨hes', hcount⟩ := ih fun x hx => hes x (by simp [hx])
    have he : isMark e = false := hes e (by simp)
    rw [← List.append_assoc]
    refine ⟨hes'.snoc (fun hmark => absurd hmark (by simp [he])) fun _ => hcount ▸ heven, ?_⟩
    rw [List.countP_append, hcount]
    simp [he]

/-- Marks told apart in another way, which agrees on the log. -/
theorem congr_mark (h : Bracketed isMark closes outside log) {isMark' : α → Bool}
    (hagree : ∀ e ∈ log, isMark' e = isMark e) : Bracketed isMark' closes outside log := by
  have hcount : ∀ before e after, log = before ++ e :: after →
      before.countP isMark' = before.countP isMark := by
    intro before e after hlog
    apply List.countP_congr
    intro x hx
    rw [hagree x (by simp [hlog, hx])]
  constructor
  · intro before e after hlog he
    rw [hcount before e after hlog]
    rw [hagree e (by simp [hlog])] at he
    exact h.alternate before e after hlog he
  · intro before e after hlog he
    rw [hcount before e after hlog]
    exact h.quiet before e after hlog he

end Bracketed

end Brackets
