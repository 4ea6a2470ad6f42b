import Mathlib.Data.List.Induction
import Mathlib.Data.List.Sort

/-! # Round-robin schedules

Items are filed into queues by key, and each round takes the front item of every queue in
the order of the keys. An item's turn is the number of earlier items of its key: a schedule
lists the items by turn, and within a turn by key. So it keeps the order of a class of items
exactly when turn and key grow along the class. -/

namespace RoundRobin

variable {α κ : Type*} [LinearOrder κ] (key : α → κ)

/-- Put an item into the queue of its key, in a list of queues sorted by key. -/
def file (item : α) : List (κ × List α) → List (κ × List α)
  | [] => [(key item, [item])]
  | (k, items) :: queues =>
    if key item < k then (key item, [item]) :: (k, items) :: queues
    else if key item = k then (k, items ++ [item]) :: queues
    else (k, items) :: file item queues

def queues (items : List α) : List (κ × List α) :=
  items.foldl (fun queues item => file key item queues) []

/-- At most so many rounds, until all queues are empty. -/
def rounds : ℕ → List (κ × List α) → List α
  | 0, _ => []
  | count + 1, queues =>
    if queues.all fun queue => queue.2.isEmpty then []
    else
      queues.filterMap (·.2.head?) ++
        rounds count (queues.map fun queue => (queue.1, queue.2.tail))

def schedule (items : List α) : List α := rounds items.length (queues key items)

/-! ## The queues -/

/-- What filing an item leaves: the queues of other keys, and the queue of its key with the item
at the end. -/
def IsFiled (item : α) (queues : List (κ × List α)) (queue : κ × List α) : Prop :=
  (queue ∈ queues ∧ queue.1 ≠ key item) ∨
    ∃ items, queue = (key item, items ++ [item]) ∧
      ((key item, items) ∈ queues ∨ items = [] ∧ ∀ q ∈ queues, q.1 ≠ key item)

omit [LinearOrder κ] in
/-- A queue for a key that has none. -/
theorem isFiled_new_iff {item : α} {queues : List (κ × List α)}
    (hnew : ∀ q ∈ queues, q.1 ≠ key item) (queue : κ × List α) :
    IsFiled key item queues queue ↔ queue ∈ (key item, [item]) :: queues := by
  constructor
  · rintro (⟨hmem, -⟩ | ⟨olds, rfl, hold | ⟨rfl, -⟩⟩)
    · exact List.mem_cons_of_mem _ hmem
    · exact absurd rfl (hnew _ hold)
    · exact List.mem_cons_self
  · intro hmem
    rcases List.mem_cons.mp hmem with rfl | hmem
    · exact .inr ⟨[], rfl, .inr ⟨rfl, hnew⟩⟩
    · exact .inl ⟨hmem, hnew queue hmem⟩

omit [LinearOrder κ] in
/-- The first queue is that of the key. -/
theorem isFiled_self_iff {item : α} {items : List α} {queues : List (κ × List α)}
    (hothers : ∀ q ∈ queues, q.1 ≠ key item) (queue : κ × List α) :
    IsFiled key item ((key item, items) :: queues) queue ↔
      queue ∈ (key item, items ++ [item]) :: queues := by
  constructor
  · rintro (⟨hmem, hne⟩ | ⟨olds, rfl, hold | ⟨-, hnone⟩⟩)
    · rcases List.mem_cons.mp hmem with rfl | hmem
      · exact absurd rfl hne
      · exact List.mem_cons_of_mem _ hmem
    · rcases List.mem_cons.mp hold with heq | hold
      · rw [(Prod.mk.inj heq).2]
        exact List.mem_cons_self
      · exact absurd rfl (hothers _ hold)
    · exact absurd rfl (hnone _ List.mem_cons_self)
  · intro hmem
    rcases List.mem_cons.mp hmem with rfl | hmem
    · exact .inr ⟨items, rfl, .inl List.mem_cons_self⟩
    · exact .inl ⟨List.mem_cons_of_mem _ hmem, hothers queue hmem⟩

omit [LinearOrder κ] in
/-- The first queue is that of another key. -/
theorem isFiled_other_iff {item : α} {k : κ} {items : List α} {queues : List (κ × List α)}
    (hk : k ≠ key item) (queue : κ × List α) :
    IsFiled key item ((k, items) :: queues) queue ↔
      queue = (k, items) ∨ IsFiled key item queues queue := by
  simp only [IsFiled, List.mem_cons, forall_eq_or_imp, Prod.mk.injEq]
  constructor
  · rintro (⟨rfl | hmem, hother⟩ | ⟨olds, rfl, (⟨hkey, -⟩ | hold) | ⟨rfl, -, hnone⟩⟩)
    · exact .inl rfl
    · exact .inr (.inl ⟨hmem, hother⟩)
    · exact absurd hkey.symm hk
    · exact .inr (.inr ⟨olds, rfl, .inl hold⟩)
    · exact .inr (.inr ⟨[], rfl, .inr ⟨rfl, hnone⟩⟩)
  · rintro (rfl | ⟨hmem, hother⟩ | ⟨olds, rfl, hold | ⟨rfl, hnone⟩⟩)
    · exact .inl ⟨.inl rfl, hk⟩
    · exact .inl ⟨.inr hmem, hother⟩
    · exact .inr ⟨olds, rfl, .inl (.inr hold)⟩
    · exact .inr ⟨[], rfl, .inr ⟨rfl, hk, hnone⟩⟩

theorem mem_file {item : α} {queues : List (κ × List α)}
    (h : queues.Pairwise fun a b => a.1 < b.1) (queue : κ × List α) :
    queue ∈ file key item queues ↔
      (queue ∈ queues ∧ queue.1 ≠ key item) ∨
        ∃ items, queue = (key item, items ++ [item]) ∧
          ((key item, items) ∈ queues ∨ items = [] ∧ ∀ q ∈ queues, q.1 ≠ key item) := by
  change _ ↔ IsFiled key item queues queue
  induction queues with
  | nil => simp [file, IsFiled]
  | cons first queues ih =>
    obtain ⟨k, items⟩ := first
    obtain ⟨hfirst, hrest⟩ := List.pairwise_cons.mp h
    simp only [file]
    split
    · rename_i hlt
      refine (isFiled_new_iff key (fun q hq => ?_) queue).symm
      rcases List.mem_cons.mp hq with rfl | hq
      · exact hlt.ne'
      · exact (hlt.trans (hfirst q hq)).ne'
    · split
      · rename_i hkey
        subst hkey
        exact (isFiled_self_iff key (fun q hq => (hfirst q hq).ne') queue).symm
      · rename_i hne
        rw [List.mem_cons, ih hrest, isFiled_other_iff key fun heq => hne heq.symm]

theorem file_sorted {item : α} {queues : List (κ × List α)}
    (h : queues.Pairwise fun a b => a.1 < b.1) :
    (file key item queues).Pairwise fun a b => a.1 < b.1 := by
  induction queues with
  | nil => simp [file]
  | cons first queues ih =>
    obtain ⟨k, items⟩ := first
    obtain ⟨hfirst, hrest⟩ := List.pairwise_cons.mp h
    simp only [file]
    split
    · rename_i hlt
      refine List.pairwise_cons.mpr ⟨fun q hq => ?_, h⟩
      rcases List.mem_cons.mp hq with rfl | hq
      · exact hlt
      · exact hlt.trans (hfirst q hq)
    · split
      · exact List.pairwise_cons.mpr ⟨hfirst, hrest⟩
      · rename_i hge hne
        refine List.pairwise_cons.mpr ⟨fun q hq => ?_, ih hrest⟩
        rcases (mem_file key hrest q).mp hq with ⟨hq, -⟩ | ⟨_, rfl, -⟩
        · exact hfirst q hq
        · exact lt_of_le_of_ne (not_lt.mp hge) fun h => hne h.symm

/-- The queues hold the items, each queue those of its key in their order. -/
structure Filed (items : List α) (queues : List (κ × List α)) : Prop where
  sorted : queues.Pairwise fun a b => a.1 < b.1
  holds : ∀ queue ∈ queues, queue.2 = items.filter (key · = queue.1)
  complete : ∀ item ∈ items, ∃ queue ∈ queues, queue.1 = key item

theorem Filed.snoc {items : List α} {queues : List (κ × List α)} (h : Filed key items queues)
    (item : α) : Filed key (items ++ [item]) (file key item queues) where
  sorted := file_sorted key h.sorted
  holds queue hqueue := by
    rcases (mem_file key h.sorted queue).mp hqueue with ⟨hmem, hne⟩ | ⟨olds, rfl, hold⟩
    · rw [h.holds queue hmem]
      simp [hne.symm]
    · have holds : olds = items.filter (key · = key item) := by
        rcases hold with hold | ⟨rfl, hnone⟩
        · exact h.holds _ hold
        · refine (List.filter_eq_nil_iff.mpr fun other hother => ?_).symm
          obtain ⟨q, hq, hkey⟩ := h.complete other hother
          simpa [← hkey] using hnone q hq
      simp [holds]
  complete other hother := by
    by_cases hkey : key other = key item
    · by_cases hsome : ∃ q ∈ queues, q.1 = key item
      · obtain ⟨q, hq, hqkey⟩ := hsome
        refine ⟨(key item, q.2 ++ [item]), (mem_file key h.sorted _).mpr
          (.inr ⟨q.2, rfl, .inl ?_⟩), hkey.symm⟩
        rwa [← hqkey]
      · exact ⟨(key item, [item]), (mem_file key h.sorted _).mpr
          (.inr ⟨[], rfl, .inr ⟨rfl, fun q hq hqkey => hsome ⟨q, hq, hqkey⟩⟩⟩), hkey.symm⟩
    · have hitems : other ∈ items := by
        rcases List.mem_append.mp hother with hother | hother
        · exact hother
        · exact absurd (congrArg key (List.mem_singleton.mp hother)) hkey
      obtain ⟨q, hq, hqkey⟩ := h.complete other hitems
      exact ⟨q, (mem_file key h.sorted _).mpr (.inl ⟨hq, by rwa [hqkey]⟩), hqkey⟩

theorem filed_queues (items : List α) : Filed key items (queues key items) := by
  induction items using List.reverseRecOn with
  | nil => exact ⟨.nil, by simp [queues], by simp⟩
  | append_singleton items item ih =>
    simp only [queues, List.foldl_append, List.foldl_cons, List.foldl_nil] at ih ⊢
    exact ih.snoc key item

/-! ## The schedule -/

omit [LinearOrder κ] in
/-- Round `r` takes the item at position `r` of every queue. -/
theorem rounds_eq (count : ℕ) (queues : List (κ × List α)) :
    rounds count queues = (List.range count).flatMap fun r => queues.filterMap (·.2[r]?) := by
  induction count generalizing queues with
  | zero => simp [rounds]
  | succ count ih =>
    simp only [rounds]
    split
    · rename_i hempty
      refine (List.flatMap_eq_nil_iff.mpr fun r _ => List.filterMap_eq_nil_iff.mpr ?_).symm
      intro queue hqueue
      have hnil := List.all_eq_true.mp hempty queue hqueue
      simp [List.isEmpty_iff.mp hnil]
    · rw [ih, List.range_succ_eq_map, List.flatMap_cons, List.flatMap_map]
      simp [List.filterMap_map, List.head?_eq_getElem?]

omit [LinearOrder κ] in
theorem flatMap_getElem?_toList (items : List α) (count : ℕ) :
    (List.range count).flatMap (fun r => items[r]?.toList) = items.take count := by
  induction count with
  | zero => rfl
  | succ count ih =>
    rw [List.range_succ, List.flatMap_append, ih, List.take_add_one]
    simp

/-- A round takes at most one item of each key, the next of its queue. -/
theorem filter_round {items : List α} {queues : List (κ × List α)}
    (h : Filed key items queues) (r : ℕ) (k : κ) :
    (queues.filterMap (·.2[r]?)).filter (key · = k) =
      (items.filter (key · = k))[r]?.toList := by
  have hkey : ∀ queue ∈ queues, ∀ item ∈ queue.2, key item = queue.1 := by
    intro queue hqueue item hitem
    rw [h.holds queue hqueue] at hitem
    simpa using (List.mem_filter.mp hitem).2
  have hother : ∀ others : List (κ × List α), (∀ queue ∈ others, queue ∈ queues ∧ queue.1 ≠ k) →
      (others.filterMap (·.2[r]?)).filter (key · = k) = [] := by
    intro others hothers
    refine List.filter_eq_nil_iff.mpr fun item hitem => ?_
    obtain ⟨queue, hqueue, hget⟩ := List.mem_filterMap.mp hitem
    obtain ⟨hmem, hne⟩ := hothers queue hqueue
    rw [hkey queue hmem item (List.mem_of_getElem? hget)]
    simpa using hne
  by_cases hsome : ∃ queue ∈ queues, queue.1 = k
  · obtain ⟨queue, hqueue, rfl⟩ := hsome
    obtain ⟨before, after, rfl⟩ := List.append_of_mem hqueue
    have hsorted := List.pairwise_append.mp h.sorted
    have hbefore := hother before fun other hmem => ⟨List.mem_append_left _ hmem,
      (hsorted.2.2 other hmem queue List.mem_cons_self).ne⟩
    have hafter := hother after fun other hmem =>
      ⟨List.mem_append_right _ (List.mem_cons_of_mem _ hmem),
        ((List.pairwise_cons.mp hsorted.2.1).1 other hmem).ne'⟩
    rw [List.filterMap_append, List.filter_append, hbefore, List.nil_append,
      ← h.holds queue hqueue]
    cases hget : queue.2[r]? with
    | none =>
      simp only [List.filterMap_cons, hget, hafter, Option.toList_none]
    | some item =>
      have hitem := hkey queue hqueue item (List.mem_of_getElem? hget)
      simp only [List.filterMap_cons, hget]
      rw [List.filter_cons_of_pos (by simpa using hitem), hafter]
      rfl
  · have hempty : items.filter (key · = k) = [] := by
      refine List.filter_eq_nil_iff.mpr fun item hitem hitemKey => hsome ?_
      obtain ⟨queue, hqueue, hqueueKey⟩ := h.complete item hitem
      exact ⟨queue, hqueue, hqueueKey.trans (by simpa using hitemKey)⟩
    rw [hempty, hother queues fun queue hqueue => ⟨hqueue, fun heq => hsome ⟨queue, hqueue, heq⟩⟩]
    rfl

/-- The first rounds take the first items of every key. -/
theorem filter_rounds (items : List α) (count : ℕ) (k : κ) :
    ((List.range count).flatMap fun r => (queues key items).filterMap (·.2[r]?)).filter
      (key · = k) = (items.filter (key · = k)).take count := by
  rw [← flatMap_getElem?_toList, List.filter_flatMap]
  exact congrArg (List.flatMap · _) (funext fun r => filter_round key (filed_queues key items) r k)

/-- A schedule keeps the order of the items of a key. -/
theorem filter_schedule (items : List α) (k : κ) :
    (schedule key items).filter (key · = k) = items.filter (key · = k) := by
  rw [schedule, rounds_eq, filter_rounds]
  exact List.take_of_length_le (List.length_filter_le _ _)

theorem schedule_perm (items : List α) : (schedule key items).Perm items := by
  classical
  refine List.perm_iff_count.mpr fun item => ?_
  have hcount : ∀ l : List α, List.count item (l.filter (key · = key item)) = List.count item l :=
    fun l => List.count_filter (by simp)
  rw [← hcount, filter_schedule, hcount]

/-- The next item of a key comes after the present one of every other key. -/
theorem schedule_fair (items : List α) {a b : κ} {j i i' : ℕ}
    (ha : ((schedule key items).findIdxs (key · = a))[j]? = some i)
    (hb : ((schedule key items).findIdxs (key · = b))[j + 1]? = some i') : i < i' := by
  obtain ⟨hcount, -⟩ := List.getElem?_eq_some_iff.mp ha
  rw [List.length_findIdxs, List.countP_eq_length_filter, filter_schedule] at hcount
  have hlength := List.length_filter_le (key · = a) items
  obtain ⟨more, hmore⟩ : ∃ more, items.length = j + 1 + more :=
    ⟨items.length - (j + 1), by omega⟩
  have hfirst := fun k => filter_rounds key items (j + 1) k
  rw [schedule, rounds_eq, hmore, List.range_add, List.flatMap_append, List.findIdxs_append]
    at ha hb
  generalize (List.range (j + 1)).flatMap
    (fun r => (queues key items).filterMap (·.2[r]?)) = first at ha hb hfirst
  have htaken : (first.findIdxs (key · = a)).length = j + 1 := by
    rw [List.length_findIdxs, List.countP_eq_length_filter, hfirst, List.length_take]
    omega
  have hleft : (first.findIdxs (key · = b)).length ≤ j + 1 := by
    rw [List.length_findIdxs, List.countP_eq_length_filter, hfirst]
    exact List.length_take_le _ _
  rw [List.getElem?_append_left (by omega)] at ha
  rw [List.getElem?_append_right hleft] at hb
  have hi := List.lt_add_of_mem_findIdxs i (List.mem_of_getElem? ha)
  have hi' := List.ge_of_mem_findIdxs i' (List.mem_of_getElem? hb)
  omega

/-- The first item of a key waits behind at most one item of every other key. -/
theorem schedule_waits {items before after : List α} {item : α}
    (hsplit : schedule key items = before ++ item :: after)
    (hfirst : ∀ other ∈ before, key other ≠ key item) (k : κ) :
    before.countP (key · = k) ≤ 1 := by
  by_contra hcount
  have hnone : before.findIdxs (key · = key item) = [] :=
    List.findIdxs_eq_nil_iff.mpr fun other hother => by simpa using hfirst other hother
  have hat : ((schedule key items).findIdxs (key · = key item))[0]? = some before.length := by
    rw [hsplit, List.findIdxs_append, hnone, List.findIdxs_cons]
    simp
  have hlength : 1 < (before.findIdxs (key · = k)).length := by
    rw [List.length_findIdxs]
    omega
  have hsecond : ((schedule key items).findIdxs (key · = k))[0 + 1]? =
      some (before.findIdxs (key · = k))[1] := by
    rw [hsplit, List.findIdxs_append, List.getElem?_append_left hlength,
      List.getElem?_eq_getElem hlength]
  have hlate := schedule_fair key items hat hsecond
  have hearly := List.lt_add_of_mem_findIdxs _ (List.getElem_mem hlength)
  omega

theorem schedule_of_length_le_one {items : List α} (h : items.length ≤ 1) :
    schedule key items = items := by
  cases items with
  | nil => rfl
  | cons item items =>
    obtain rfl : items = [] := List.eq_nil_of_length_eq_zero (by simpa using h)
    simp [schedule, queues, file, rounds]

section Turns

variable (number : α → ℕ)

/-- The number of earlier items of the same key. -/
def turn (items : List α) (item : α) : ℕ :=
  items.countP fun other => key other = key item ∧ number other < number item

/-- The order of a schedule: by turn, then by key. -/
def Before (items : List α) (a b : α) : Prop :=
  turn key number items a < turn key number items b ∨
    turn key number items a = turn key number items b ∧ key a < key b

variable {number} {items : List α} (hnumber : items.Pairwise fun a b => number a < number b)

theorem turn_eq_zero_iff (item : α) :
    turn key number items item = 0 ↔
      ∀ other ∈ items, number other < number item → key other ≠ key item := by
  simp only [turn, List.countP_eq_zero, decide_eq_true_eq, not_and]
  exact ⟨fun h other hother hlt hkey => h other hother hkey hlt,
    fun h other hother hkey hlt => h other hother hlt hkey⟩

/-- Items of one key have their turns in the order of the items. -/
theorem turn_lt_turn {a b : α} (ha : a ∈ items) (hkey : key a = key b)
    (hlt : number a < number b) : turn key number items a < turn key number items b := by
  obtain ⟨before, after, rfl⟩ := List.append_of_mem ha
  have hmono (l : List α) : turn key number l a ≤ turn key number l b := by
    apply List.countP_mono_left
    intro other _ hother
    simp only [decide_eq_true_eq] at hother ⊢
    exact ⟨hother.1.trans hkey, hother.2.trans hlt⟩
  have hbefore := hmono before
  have hafter := hmono after
  simp only [turn] at hbefore hafter ⊢
  simp only [List.countP_append, List.countP_cons, hkey, hlt, lt_irrefl, and_false, and_self,
    decide_true, decide_false, if_true, Bool.false_eq_true, if_false] at hbefore hafter ⊢
  omega

theorem countP_number_lt {l : List α} (h : l.Pairwise fun a b => number a < number b)
    {r : ℕ} {item : α} (hitem : l[r]? = some item) :
    l.countP (fun other => number other < number item) = r := by
  induction l generalizing r with
  | nil => simp at hitem
  | cons first l ih =>
    obtain ⟨hfirst, hrest⟩ := List.pairwise_cons.mp h
    cases r with
    | zero =>
      obtain rfl : first = item := by simpa using hitem
      simp only [List.countP_eq_zero, decide_eq_true_eq, not_lt]
      intro other hother
      rcases List.mem_cons.mp hother with rfl | hother
      · exact le_rfl
      · exact (hfirst other hother).le
    | succ r =>
      have hitem : l[r]? = some item := by simpa using hitem
      have hlt := hfirst item (List.mem_of_getElem? hitem)
      simp [ih hrest hitem, hlt]

include hnumber in
/-- The item at position `r` of its queue has turn `r`. -/
theorem turn_eq {queue : κ × List α} (hqueue : queue ∈ queues key items) {r : ℕ} {item : α}
    (hitem : queue.2[r]? = some item) :
    key item = queue.1 ∧ turn key number items item = r := by
  have hholds := (filed_queues key items).holds queue hqueue
  have hkey : key item = queue.1 := by
    have hmem := List.mem_of_getElem? hitem
    rw [hholds] at hmem
    simpa using (List.mem_filter.mp hmem).2
  refine ⟨hkey, ?_⟩
  rw [hholds] at hitem
  have hcount := countP_number_lt (hnumber.filter _) hitem
  rw [List.countP_filter] at hcount
  rw [turn, ← hcount]
  congr 1
  funext other
  rw [Bool.and_comm, hkey, Bool.decide_and]

include hnumber in
theorem schedule_sorted : (schedule key items).Pairwise (Before key number items) := by
  simp only [schedule, rounds_eq, List.pairwise_flatMap, List.pairwise_filterMap]
  constructor
  · intro r _
    refine (filed_queues key items).sorted.imp_of_mem fun hq hq' hlt a ha b hb => ?_
    have hturn := turn_eq key hnumber hq ha
    have hturn' := turn_eq key hnumber hq' hb
    exact .inr ⟨hturn.2.trans hturn'.2.symm, by rwa [hturn.1, hturn'.1]⟩
  · refine (List.pairwise_lt_range (n := items.length)).imp fun hlt a ha b hb => ?_
    obtain ⟨queue, hqueue, hget⟩ := List.mem_filterMap.mp ha
    obtain ⟨queue', hqueue', hget'⟩ := List.mem_filterMap.mp hb
    left
    rw [(turn_eq key hnumber hqueue hget).2, (turn_eq key hnumber hqueue' hget').2]
    exact hlt

theorem Before.asymm {a b : α} (h : Before key number items a b) :
    ¬ Before key number items b a := by
  rintro (hlt | ⟨heq, hlt⟩)
  · rcases h with hlt' | ⟨heq', -⟩ <;> omega
  · rcases h with hlt' | ⟨-, hlt'⟩
    · omega
    · exact lt_asymm hlt hlt'

include hnumber in
/-- A schedule keeps the order of a class of items exactly when turn and key grow along
it. -/
theorem filter_schedule_eq_iff (p : α → Bool) :
    (schedule key items).filter p = items.filter p ↔
      (items.filter p).Pairwise (Before key number items) := by
  constructor
  · intro heq
    rw [← heq]
    exact (schedule_sorted key hnumber).filter p
  · intro hsorted
    exact List.Perm.eq_of_pairwise (fun a b _ _ h h' => absurd h' (h.asymm key))
      ((schedule_sorted key hnumber).filter p) hsorted ((schedule_perm key items).filter p)

theorem pairwise_iff_of_number {l : List α} (h : l.Pairwise fun a b => number a < number b)
    (R : α → α → Prop) :
    l.Pairwise R ↔ ∀ a ∈ l, ∀ b ∈ l, number a < number b → R a b := by
  induction l with
  | nil => simp
  | cons first l ih =>
    obtain ⟨hfirst, hrest⟩ := List.pairwise_cons.mp h
    rw [List.pairwise_cons, ih hrest]
    constructor
    · rintro ⟨hhead, htail⟩ a ha b hb hlt
      rcases List.mem_cons.mp hb with rfl | hmem
      · rcases List.mem_cons.mp ha with rfl | hmem
        · exact absurd hlt (lt_irrefl _)
        · exact absurd hlt (hfirst a hmem).not_gt
      · rcases List.mem_cons.mp ha with rfl | hmem'
        · exact hhead b hmem
        · exact htail a hmem' b hmem hlt
    · intro hall
      exact ⟨fun b hb => hall _ List.mem_cons_self b (List.mem_cons_of_mem _ hb) (hfirst b hb),
        fun a ha b hb => hall a (List.mem_cons_of_mem _ ha) b (List.mem_cons_of_mem _ hb)⟩

end Turns

/-- Batches that are each permuted keep the order of a class over all of them exactly when
each batch keeps it. -/
theorem filter_flatMap_eq_iff {f : List α → List α} {batches : List (List α)}
    (h : ∀ batch ∈ batches, (f batch).Perm batch) (p : α → Bool) :
    (batches.flatMap f).filter p = batches.flatten.filter p ↔
      ∀ batch ∈ batches, (f batch).filter p = batch.filter p := by
  induction batches with
  | nil => simp
  | cons batch batches ih =>
    obtain ⟨hbatch, hrest⟩ := List.forall_mem_cons.mp h
    simp only [List.flatMap_cons, List.flatten_cons, List.filter_append, List.forall_mem_cons]
    rw [← ih hrest]
    constructor
    · exact fun heq => List.append_inj heq (hbatch.filter p).length_eq
    · rintro ⟨hhead, htail⟩
      rw [hhead, htail]

end RoundRobin
