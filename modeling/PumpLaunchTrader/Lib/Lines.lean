import Mathlib.Data.List.DropRight
import Mathlib.Algebra.BigOperators.Group.List.Basic

/-! # Texts made of lines

A text is a list of symbols, and a separator ends its lines. The records of a text are its
lines that are not empty. A text that breaks off within a line keeps a torn end, to which
whatever is written next is joined. -/

namespace Lines

variable {α : Type*} [DecidableEq α] (sep : α)

/-- The pieces of a text between separators, without the empty ones. -/
def records (text : List α) : List (List α) :=
  (text.splitOn sep).filter fun piece => !piece.isEmpty

/-- A line as a record: without the separator, and not empty. -/
def IsRecord (line : List α) : Prop := sep ∉ line ∧ line ≠ []

omit [DecidableEq α] in
/-- The text of some lines, each ended by the separator. -/
def unlines (lines : List (List α)) : List α :=
  lines.flatMap (· ++ [sep])

/-- The lines of a text that are complete. -/
def complete (text : List α) : List α := text.rdropWhile (· ≠ sep)

/-- What follows the last separator of a text. -/
def torn (text : List α) : List α := text.rtakeWhile (· ≠ sep)

/-! ## Records -/

@[simp] theorem records_nil : records sep [] = [] := rfl

theorem records_append_cons (text rest : List α) :
    records sep (text ++ sep :: rest) = records sep text ++ records sep rest := by
  rw [records, List.splitOn_append_cons_self, List.filter_append, ← records, ← records]

variable {sep}

theorem IsRecord.records {line : List α} (h : IsRecord sep line) :
    Lines.records sep line = [line] := by
  rw [Lines.records, List.splitOn_eq_singleton h.1]
  simp [h.2]

theorem records_unlines_append {lines : List (List α)} (h : ∀ line ∈ lines, IsRecord sep line)
    (rest : List α) : records sep (unlines sep lines ++ rest) = lines ++ records sep rest := by
  induction lines with
  | nil => rfl
  | cons line lines ih =>
      obtain ⟨hline, hlines⟩ := List.forall_mem_cons.mp h
      have htext : unlines sep (line :: lines) ++ rest =
          line ++ sep :: (unlines sep lines ++ rest) := by
        simp [unlines]
      rw [htext, records_append_cons, hline.records, ih hlines]
      rfl

/-- Lines are read back as they were written. -/
theorem records_unlines {lines : List (List α)} (h : ∀ line ∈ lines, IsRecord sep line) :
    records sep (unlines sep lines) = lines := by
  have hrecords := records_unlines_append h []
  rwa [List.append_nil, records_nil, List.append_nil] at hrecords

/-- A text without records does not start with another symbol than the separator. -/
theorem eq_sep_of_records_eq_nil {x : α} {text : List α} (h : records sep (x :: text) = []) :
    x = sep := by
  by_contra hx
  rw [records, List.splitOn_cons_eq_if_modifyHead, if_neg (by simpa using hx)] at h
  cases hpieces : text.splitOn sep with
  | nil => exact List.splitOn_ne_nil _ _ hpieces
  | cons piece pieces =>
      rw [hpieces] at h
      simp at h

omit [DecidableEq α] in
theorem unlines_concat (lines : List (List α)) (line : List α) :
    unlines sep (lines ++ [line]) = unlines sep lines ++ (line ++ [sep]) := by
  simp [unlines]

omit [DecidableEq α] in
theorem unlines_cons (line : List α) (lines : List (List α)) :
    unlines sep (line :: lines) = line ++ sep :: unlines sep lines := by
  simp [unlines]

omit [DecidableEq α] in
theorem getLast?_unlines_cons (line : List α) (lines : List (List α)) :
    (unlines sep (line :: lines)).getLast? = some sep := by
  induction lines generalizing line with
  | nil => simp [unlines]
  | cons next lines ih =>
      rw [unlines_cons, ← List.singleton_append, ← List.append_assoc,
        List.getLast?_append_of_ne_nil _ (by simp [unlines]), ih]

omit [DecidableEq α] in
theorem unlines_append (first second : List (List α)) :
    unlines sep (first ++ second) = unlines sep first ++ unlines sep second :=
  List.flatMap_append

/-! ## Cut texts -/

/-- What is left of a text of lines after a cut, if it ends with the separator, has lost a
record. -/
theorem length_records_lt_of_cut {lines : List (List α)}
    (h : ∀ line ∈ lines, IsRecord sep line) {cut : List α} (hcut : cut <+: unlines sep lines)
    (hne : cut ≠ unlines sep lines) (hend : cut.getLast? = some sep) :
    (records sep cut).length < lines.length := by
  induction lines generalizing cut with
  | nil =>
      obtain rfl : cut = [] := List.prefix_nil.mp hcut
      cases hend
  | cons line lines ih =>
      obtain ⟨hline, hlines⟩ := List.forall_mem_cons.mp h
      rw [unlines_cons] at hcut hne
      rcases List.prefix_or_prefix_of_prefix hcut (List.prefix_append line _) with hshort | hlong
      · -- a cut within the first line ends with no separator
        have hmem := hshort.mem (List.mem_of_getLast? hend)
        exact absurd hmem hline.1
      · obtain ⟨rest, rfl⟩ := hlong
        cases rest with
        | nil =>
            rw [List.append_nil] at hend
            exact absurd (List.mem_of_getLast? hend) hline.1
        | cons x rest =>
            rw [List.prefix_append_right_inj, List.cons_prefix_cons] at hcut
            obtain ⟨rfl, hrest⟩ := hcut
            have hne' : rest ≠ unlines x lines := fun heq => hne (by rw [heq])
            rw [records_append_cons, hline.records, List.singleton_append, List.length_cons,
              List.length_cons]
            cases rest with
            | nil =>
                have hlines' : lines ≠ [] := fun hnil => hne' (by rw [hnil]; rfl)
                have hpos := List.length_pos_iff.mpr hlines'
                simpa using hpos
            | cons y rest =>
                have hend' : (y :: rest).getLast? = some x := by
                  rwa [List.getLast?_append_of_ne_nil _ (by simp), List.getLast?_cons_cons] at hend
                have hless := ih hlines hrest hne' hend'
                omega

/-! ## Torn texts -/

variable (sep) in
theorem complete_append_torn (text : List α) : complete sep text ++ torn sep text = text :=
  List.rdropWhile_append_rtakeWhile

theorem not_mem_torn (text : List α) : sep ∉ torn sep text := by
  intro h
  simpa using List.mem_rtakeWhile_imp h

/-- The complete part of a text is empty or ends with the separator. -/
theorem complete_eq (text : List α) :
    complete sep text = [] ∨ ∃ before, complete sep text = before ++ [sep] := by
  by_cases hempty : complete sep text = []
  · exact Or.inl hempty
  · right
    have hlast := List.rdropWhile_last_not (fun x => decide (x ≠ sep)) text hempty
    simp only [decide_not, Bool.not_eq_true', decide_eq_false_iff_not, not_not] at hlast
    refine ⟨(complete sep text).dropLast, ?_⟩
    rw [← List.dropLast_append_getLast hempty]
    simp [complete, hlast]

/-- A line that is written after a torn text is joined to its torn end. -/
theorem records_resume (text : List α) {line : List α} (h : IsRecord sep line)
    (rest : List α) :
    records sep (text ++ (line ++ sep :: rest)) =
      records sep (complete sep text) ++ (torn sep text ++ line) :: records sep rest := by
  have hjoined : IsRecord sep (torn sep text ++ line) := by
    refine ⟨?_, by simp [h.2]⟩
    rw [List.mem_append]
    rintro (htorn | hline)
    · exact not_mem_torn text htorn
    · exact h.1 hline
  have hrest : records sep (torn sep text ++ line ++ sep :: rest) =
      (torn sep text ++ line) :: records sep rest := by
    rw [records_append_cons, hjoined.records]
    rfl
  rcases complete_eq text with hempty | ⟨before, hbefore⟩
  · have htext : text = torn sep text := by
      conv_lhs => rw [← complete_append_torn sep text, hempty]
      rfl
    rw [hempty, records_nil, List.nil_append, ← hrest, ← htext, List.append_assoc]
  · have htext : text ++ (line ++ sep :: rest) =
        before ++ sep :: (torn sep text ++ line ++ sep :: rest) := by
      conv_lhs => rw [← complete_append_torn sep text, hbefore]
      simp
    rw [htext, records_append_cons, hrest, hbefore, records_append_cons, records_nil,
      List.append_nil]

end Lines

/-! ## Words that delimit each other

Symbols are of two classes. A word of the first class ends where a symbol of the second one
follows, and begins where one precedes, so that the two parts of a text can be told apart from
either side. -/

namespace Delimited

variable {α : Type*} (p : α → Prop)

/-- A word starts with a symbol of the second class, if it has any. -/
def StartsOutside (word : List α) : Prop := ∀ x ∈ word.head?, ¬ p x

/-- A word ends with a symbol of the second class, if it has any. -/
def EndsOutside (word : List α) : Prop := ∀ x ∈ word.getLast?, ¬ p x

variable {p}

instance StartsOutside.decidable [DecidablePred p] :
    (word : List α) → Decidable (StartsOutside p word)
  | [] => .isTrue fun _ hx => by cases hx
  | first :: _ => decidable_of_iff (¬ p first)
      ⟨fun h _ hx => Option.some.inj hx ▸ h, fun h => h first rfl⟩

theorem StartsOutside.append {word rest : List α} (h : StartsOutside p word)
    (hne : word ≠ []) : StartsOutside p (word ++ rest) := by
  cases word with
  | nil => exact absurd rfl hne
  | cons x word => exact h

theorem EndsOutside.append {rest word : List α} (h : EndsOutside p word) (hne : word ≠ []) :
    EndsOutside p (rest ++ word) := by
  unfold EndsOutside
  rw [List.getLast?_append_of_ne_nil _ hne]
  exact h

/-- A word of the first class is determined by what starts outside after it. -/
theorem append_inj_left {word word' rest rest' : List α} (hword : ∀ x ∈ word, p x)
    (hword' : ∀ x ∈ word', p x) (hrest : StartsOutside p rest) (hrest' : StartsOutside p rest')
    (h : word ++ rest = word' ++ rest') : word = word' ∧ rest = rest' := by
  induction word generalizing word' with
  | nil =>
      cases word' with
      | nil => exact ⟨rfl, h⟩
      | cons x word' =>
          rw [List.nil_append] at h
          exact absurd (hword' x List.mem_cons_self) (hrest x (by rw [h]; rfl))
  | cons x word ih =>
      cases word' with
      | nil =>
          rw [List.nil_append] at h
          exact absurd (hword x List.mem_cons_self) (hrest' x (by rw [← h]; rfl))
      | cons y word' =>
          rw [List.cons_append, List.cons_append, List.cons.injEq] at h
          obtain ⟨rfl, h⟩ := h
          obtain ⟨rfl, hsame⟩ := ih (fun z hz => hword z (List.mem_cons_of_mem _ hz))
            (fun z hz => hword' z (List.mem_cons_of_mem _ hz)) h
          exact ⟨rfl, hsame⟩

/-- A word of the first class is determined by what ends outside before it. -/
theorem append_inj_right {word word' rest rest' : List α} (hword : ∀ x ∈ word, p x)
    (hword' : ∀ x ∈ word', p x) (hrest : EndsOutside p rest) (hrest' : EndsOutside p rest')
    (h : rest ++ word = rest' ++ word') : rest = rest' ∧ word = word' := by
  have hreverse : word.reverse ++ rest.reverse = word'.reverse ++ rest'.reverse := by
    rw [← List.reverse_append, h, List.reverse_append]
  have hstarts : ∀ {list : List α}, EndsOutside p list → StartsOutside p list.reverse := by
    intro list hlist
    unfold StartsOutside
    rw [List.head?_reverse]
    exact hlist
  obtain ⟨hwords, hrests⟩ := append_inj_left
    (fun x hx => hword x (List.mem_reverse.mp hx))
    (fun x hx => hword' x (List.mem_reverse.mp hx)) (hstarts hrest) (hstarts hrest') hreverse
  exact ⟨List.reverse_injective hrests, List.reverse_injective hwords⟩

end Delimited

/-! ## Lists read item by item

A list is read as a whole when each of its items is; the results then stand at the places of
the items. -/

namespace Traversal

variable {α β : Type} {f : α → Option β} {list : List α} {results : List β}

theorem mapM_eq_some_iff :
    list.mapM f = some results ↔ List.Forall₂ (fun a b => f a = some b) list results := by
  induction list generalizing results with
  | nil =>
      rw [List.forall₂_nil_left_iff]
      exact Option.some_inj.trans eq_comm
  | cons first list ih =>
      rw [List.mapM_cons, List.forall₂_cons_left_iff]
      constructor
      · intro h
        obtain ⟨b, hb, h⟩ := Option.bind_eq_some_iff.mp h
        obtain ⟨rest, hrest, h⟩ := Option.bind_eq_some_iff.mp h
        exact ⟨b, rest, hb, ih.mp hrest, (Option.some.inj h).symm⟩
      · rintro ⟨b, rest, hb, hrest, rfl⟩
        rw [hb, ih.mpr hrest]
        rfl

/-- Every result is that of an item. -/
theorem exists_of_mem_mapM (h : list.mapM f = some results) :
    ∀ result ∈ results, ∃ a ∈ list, f a = some result := by
  have hread := mapM_eq_some_iff.mp h
  intro result hmem
  obtain ⟨i, hi, rfl⟩ := List.getElem_of_mem hmem
  have hlist : i < list.length := hread.length_eq ▸ hi
  exact ⟨list[i], List.getElem_mem hlist, hread.get hlist hi⟩

/-- The result of every item is among the results. -/
theorem mem_of_mapM (h : list.mapM f = some results) {a : α} (ha : a ∈ list) {b : β}
    (hb : f a = some b) : b ∈ results := by
  have hread := mapM_eq_some_iff.mp h
  obtain ⟨i, hi, rfl⟩ := List.getElem_of_mem ha
  have hresults : i < results.length := hread.length_eq ▸ hi
  have hresult : f list[i] = some results[i] := hread.get hi hresults
  rw [hb, Option.some.injEq] at hresult
  exact hresult ▸ List.getElem_mem hresults

end Traversal
