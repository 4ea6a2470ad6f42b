import Mathlib.Data.List.DropRight

/-! # Comma-separated tables

A reader of comma-separated values as a machine over characters. Records end with a line feed
outside quotes; a carriage return right before it belongs to the end of the record. Each cell
of a text takes the machine from the start of a cell to the start of the next one. -/

namespace Csv

/-- Where a reader stands in a cell: at its start, within it, within quotes, after a quote that
may end it, or after a carriage return that follows the quotes. -/
inductive Mode where
  | start | plain | quoted | closing | ending
  deriving DecidableEq, Repr

/-- What a reader has read: the records, the cells of the current one and its current cell. -/
structure Reader where
  mode : Mode
  cell : List Char
  row : List (List Char)
  rows : List (List (List Char))
  deriving DecidableEq, Repr

namespace Reader

/-- A cell without the carriage return that its record ends with. -/
def stripReturn (cell : List Char) : List Char :=
  if cell.getLast? = some '\r' then cell.dropLast else cell

def endCell (r : Reader) : Reader :=
  { mode := .start, cell := [], row := r.row ++ [r.cell], rows := r.rows }

def endRecord (r : Reader) (cell : List Char) : Reader :=
  { mode := .start, cell := [], row := [], rows := r.rows ++ [r.row ++ [cell]] }

/-- One character. A quote within a cell without quotes, and text after the quotes, are no
comma-separated values. -/
def step (r : Reader) (c : Char) : Option Reader :=
  match r.mode with
  | .start =>
    if c = '"' then some { r with mode := .quoted }
    else if c = ',' then some r.endCell
    else if c = '\n' then some (r.endRecord r.cell)
    else some { r with mode := .plain, cell := r.cell ++ [c] }
  | .plain =>
    if c = '"' then none
    else if c = ',' then some r.endCell
    else if c = '\n' then some (r.endRecord (stripReturn r.cell))
    else some { r with cell := r.cell ++ [c] }
  | .quoted =>
    if c = '"' then some { r with mode := .closing }
    else some { r with cell := r.cell ++ [c] }
  | .closing =>
    if c = '"' then some { r with mode := .quoted, cell := r.cell ++ ['"'] }
    else if c = ',' then some r.endCell
    else if c = '\n' then some (r.endRecord r.cell)
    else if c = '\r' then some { r with mode := .ending }
    else none
  | .ending => if c = '\n' then some (r.endRecord r.cell) else none

/-- The records at the end of a text: the last one may have no line end. -/
def finish (r : Reader) : Option (List (List (List Char))) :=
  match r.mode with
  | .start => if r.row = [] then some r.rows else some (r.rows ++ [r.row ++ [r.cell]])
  | .plain | .closing => some (r.rows ++ [r.row ++ [r.cell]])
  | .quoted | .ending => none

def run (r : Reader) (text : List Char) : Option Reader := text.foldlM step r

theorem run_append (r : Reader) (left right : List Char) :
    r.run (left ++ right) = (r.run left).bind fun after => after.run right :=
  List.foldlM_append

theorem run_cons (r : Reader) (c : Char) (text : List Char) :
    r.run (c :: text) = (r.step c).bind fun after => after.run text := rfl

/-- A reader at the start of a record. -/
def atRecord (rows : List (List (List Char))) : Reader :=
  { mode := .start, cell := [], row := [], rows := rows }

/-- A reader at the start of a cell. -/
def atCell (row : List (List Char)) (rows : List (List (List Char))) : Reader :=
  { mode := .start, cell := [], row := row, rows := rows }

end Reader

/-- The records of a text. -/
def read (text : List Char) : Option (List (List (List Char))) :=
  ((Reader.atRecord []).run text).bind Reader.finish

/-- The characters of a table of texts. -/
def tableChars (rows : List (List String)) : List (List (List Char)) :=
  rows.map fun row => row.map String.toList

/-- The records of a text, as texts. -/
def readText (text : String) : Option (List (List String)) :=
  (read text.toList).map fun table => table.map fun row => row.map String.ofList

theorem readText_eq_some_iff {text : String} {rows : List (List String)} :
    readText text = some rows ↔ read text.toList = some (tableChars rows) := by
  unfold readText tableChars
  rw [Option.map_eq_some_iff]
  constructor
  · rintro ⟨table, hread, rfl⟩
    simp [hread, Function.comp_def]
  · intro hread
    exact ⟨_, hread, by simp [Function.comp_def]⟩

/-! ## Cells without quotes -/

/-- A text that needs no quotes: without quotes, commas and line feeds. -/
def Plain (cell : List Char) : Prop := '"' ∉ cell ∧ ',' ∉ cell ∧ '\n' ∉ cell

namespace Reader

theorem plain_cons {c : Char} {cell : List Char} (h : Plain (c :: cell)) :
    (c ≠ '"' ∧ c ≠ ',' ∧ c ≠ '\n') ∧ Plain cell := by
  unfold Plain at h ⊢
  simp only [List.mem_cons, not_or] at h
  obtain ⟨⟨hquote, hquotes⟩, ⟨hcomma, hcommas⟩, hline, hlines⟩ := h
  exact ⟨⟨fun h => hquote h.symm, fun h => hcomma h.symm, fun h => hline h.symm⟩,
    hquotes, hcommas, hlines⟩

theorem run_plain {cell : List Char} (h : Plain cell) (before : List Char)
    (row : List (List Char)) (rows : List (List (List Char))) :
    run ⟨.plain, before, row, rows⟩ cell = some ⟨.plain, before ++ cell, row, rows⟩ := by
  induction cell generalizing before with
  | nil => simp [run]
  | cons c cell ih =>
      obtain ⟨⟨hquote, hcomma, hline⟩, hrest⟩ := plain_cons h
      have hstep : step ⟨.plain, before, row, rows⟩ c =
          some ⟨.plain, before ++ [c], row, rows⟩ := by
        simp only [step, hquote, hcomma, hline, if_false]
      rw [run_cons, hstep, Option.bind_some, ih hrest, List.append_assoc]
      rfl

/-- Text from the start of a cell: the machine is within the cell, or still at its start. -/
theorem run_plain_start {cell : List Char} (h : Plain cell) (row : List (List Char))
    (rows : List (List (List Char))) :
    (atCell row rows).run cell = some
      { mode := if cell = [] then .start else .plain, cell := cell, row := row, rows := rows } := by
  cases cell with
  | nil => rfl
  | cons c cell =>
      obtain ⟨⟨hquote, hcomma, hline⟩, hrest⟩ := plain_cons h
      have hstep : (atCell row rows).step c =
          some { mode := .plain, cell := [c], row := row, rows := rows } := by
        simp only [step, atCell, hquote, hcomma, hline, if_false, List.nil_append]
      rw [run_cons, hstep, Option.bind_some, run_plain hrest, if_neg (List.cons_ne_nil _ _)]
      rfl

theorem run_plain_comma {cell : List Char} (h : Plain cell) (row : List (List Char))
    (rows : List (List (List Char))) :
    (atCell row rows).run (cell ++ [',']) = some (atCell (row ++ [cell]) rows) := by
  rw [run_append, run_plain_start h, Option.bind_some]
  cases cell with
  | nil => rfl
  | cons c cell => rfl

theorem run_plain_line {cell : List Char} (h : Plain cell) (row : List (List Char))
    (rows : List (List (List Char))) :
    (atCell row rows).run (cell ++ ['\n']) =
      some (atRecord (rows ++ [row ++ [stripReturn cell]])) := by
  rw [run_append, run_plain_start h, Option.bind_some]
  cases cell with
  | nil => rfl
  | cons c cell => rfl

/-! ## Cells with quotes -/

/-- A text with each quote doubled. -/
def doubled (cell : List Char) : List Char :=
  cell.flatMap fun c => if c = '"' then ['"', '"'] else [c]

theorem run_doubled (cell before : List Char) (row : List (List Char))
    (rows : List (List (List Char))) :
    run ⟨.quoted, before, row, rows⟩ (doubled cell) =
      some ⟨.quoted, before ++ cell, row, rows⟩ := by
  induction cell generalizing before with
  | nil => simp [run, doubled]
  | cons c cell ih =>
      have hdoubled : doubled (c :: cell) =
          (if c = '"' then ['"', '"'] else [c]) ++ doubled cell := rfl
      have hfirst : run ⟨.quoted, before, row, rows⟩ (if c = '"' then ['"', '"'] else [c]) =
          some ⟨.quoted, before ++ [c], row, rows⟩ := by
        by_cases hquote : c = '"'
        · rw [if_pos hquote, hquote]
          rfl
        · rw [if_neg hquote, run_cons]
          simp [step, run, hquote]
      rw [hdoubled, run_append, hfirst, Option.bind_some, ih, List.append_assoc]
      rfl

/-- A text within quotes, its own quotes doubled. -/
def enclosed (cell : List Char) : List Char := '"' :: (doubled cell ++ ['"'])

theorem run_enclosed (cell : List Char) (row : List (List Char))
    (rows : List (List (List Char))) :
    (atCell row rows).run (enclosed cell) = some
      { mode := .closing, cell := cell, row := row, rows := rows } := by
  have hopen : (atCell row rows).step '"' =
      some { mode := .quoted, cell := [], row := row, rows := rows } := rfl
  rw [enclosed, run_cons, hopen, Option.bind_some, run_append, run_doubled,
    Option.bind_some]
  rfl

theorem run_enclosed_comma (cell : List Char) (row : List (List Char))
    (rows : List (List (List Char))) :
    (atCell row rows).run (enclosed cell ++ [',']) = some (atCell (row ++ [cell]) rows) := by
  rw [run_append, run_enclosed, Option.bind_some]
  rfl

theorem run_enclosed_line (cell : List Char) (row : List (List Char))
    (rows : List (List (List Char))) :
    (atCell row rows).run (enclosed cell ++ ['\n']) =
      some (atRecord (rows ++ [row ++ [cell]])) := by
  rw [run_append, run_enclosed, Option.bind_some]
  rfl

/-! ## Tables -/

section Tables

variable (field readBack : List Char → List Char)

/-- A record: its cells with commas between them, and a line feed. -/
def record (row : List (List Char)) : List Char :=
  List.intercalate [','] (row.map field) ++ ['\n']

/-- A record whose last cell is changed by the reader. -/
def recordRead (row : List (List Char)) : List (List Char) :=
  row.dropLast ++ row.getLast?.toList.map readBack

variable {field readBack}
  (hcomma : ∀ cell row rows, (atCell row rows).run (field cell ++ [',']) =
    some (atCell (row ++ [cell]) rows))
  (hline : ∀ cell row rows, (atCell row rows).run (field cell ++ ['\n']) =
    some (atRecord (rows ++ [row ++ [readBack cell]])))
include hcomma hline

/-- A record is read cell by cell; its last cell is read with the end of the record. -/
theorem run_record {row : List (List Char)} (h : row ≠ []) (before : List (List Char))
    (rows : List (List (List Char))) :
    (atCell before rows).run (record field row) =
      some (atRecord (rows ++ [before ++ recordRead readBack row])) := by
  induction row generalizing before with
  | nil => exact absurd rfl h
  | cons cell row ih =>
      cases row with
      | nil =>
          have hrecord : record field [cell] = field cell ++ ['\n'] := by simp [record]
          rw [hrecord, hline]
          rfl
      | cons next row =>
          have hrecord : record field (cell :: next :: row) =
              (field cell ++ [',']) ++ record field (next :: row) := by
            simp [record, List.intercalate_cons_cons]
          have hread : before ++ recordRead readBack (cell :: next :: row) =
              (before ++ [cell]) ++ recordRead readBack (next :: row) := by
            simp [recordRead]
          rw [hrecord, run_append, hcomma, Option.bind_some, ih (List.cons_ne_nil _ _), hread]

theorem run_table {table : List (List (List Char))} (h : ∀ row ∈ table, row ≠ [])
    (rows : List (List (List Char))) :
    (atRecord rows).run (table.flatMap (record field)) =
      some (atRecord (rows ++ table.map (recordRead readBack))) := by
  induction table generalizing rows with
  | nil => simp [run]
  | cons row table ih =>
      obtain ⟨hrow, htable⟩ := List.forall_mem_cons.mp h
      have hfirst : (atRecord rows).run (record field row) =
          some (atRecord (rows ++ [recordRead readBack row])) :=
        run_record hcomma hline hrow [] rows
      rw [List.flatMap_cons, run_append, hfirst, Option.bind_some, ih htable]
      simp

end Tables

end Reader

/-- What is read back of a table, from what is read back of the last cell of a record. -/
theorem read_table {field readBack : List Char → List Char}
    (hcomma : ∀ cell row rows, (Reader.atCell row rows).run (field cell ++ [',']) =
      some (Reader.atCell (row ++ [cell]) rows))
    (hline : ∀ cell row rows, (Reader.atCell row rows).run (field cell ++ ['\n']) =
      some (Reader.atRecord (rows ++ [row ++ [readBack cell]])))
    {table : List (List (List Char))} (h : ∀ row ∈ table, row ≠ []) :
    read (table.flatMap (Reader.record field)) =
      some (table.map (Reader.recordRead readBack)) := by
  unfold read
  rw [Reader.run_table hcomma hline h, Option.bind_some, List.nil_append]
  rfl

/-- A record is read back unchanged exactly when its last cell is. -/
theorem recordRead_eq_self_iff {readBack : List Char → List Char} {row : List (List Char)} :
    Reader.recordRead readBack row = row ↔ ∀ cell ∈ row.getLast?, readBack cell = cell := by
  rcases List.eq_nil_or_concat row with rfl | ⟨before, last, rfl⟩
  · simp [Reader.recordRead]
  · simp [Reader.recordRead, eq_comm]

theorem map_recordRead_eq_self_iff {readBack : List Char → List Char}
    {table : List (List (List Char))} :
    table.map (Reader.recordRead readBack) = table ↔
      ∀ row ∈ table, ∀ cell ∈ row.getLast?, readBack cell = cell := by
  induction table with
  | nil => simp
  | cons row table ih =>
      rw [List.map_cons, List.cons_eq_cons, recordRead_eq_self_iff, ih, List.forall_mem_cons]

end Csv
