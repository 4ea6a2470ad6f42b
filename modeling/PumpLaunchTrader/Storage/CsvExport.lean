import PumpLaunchTrader.Model.Storage
import PumpLaunchTrader.Lib.Csv

/-! # Reading an export back

`csv_field` puts quotes around commas, quotes and line feeds, and not around a carriage
return. At the end of a row a reader takes it for a part of the line end. -/

namespace PumpLaunchTrader

open Csv

/-- `csv_field` on characters. -/
def fieldChars (cell : List Char) : List Char := (csvField (String.ofList cell)).toList

/-- What a reader reads at the end of a row. -/
def lastCellRead (cell : List Char) : List Char :=
  if needsQuotes (String.ofList cell) then cell else Reader.stripReturn cell

theorem fieldChars_of_plain {cell : List Char} (h : needsQuotes (String.ofList cell) = false) :
    fieldChars cell = cell := by
  simp [fieldChars, csvField, h]

theorem fieldChars_of_quoted {cell : List Char} (h : needsQuotes (String.ofList cell) = true) :
    fieldChars cell = Reader.enclosed cell := by
  simp [fieldChars, csvField, h, doubleQuotes, Reader.enclosed, Reader.doubled]

theorem plain_of_needsQuotes {cell : List Char}
    (h : needsQuotes (String.ofList cell) = false) : Plain cell := by
  simp only [needsQuotes, String.toList_ofList, decide_eq_false_iff_not, not_or] at h
  exact ⟨h.2.1, h.1, h.2.2⟩

theorem run_fieldChars_comma (cell : List Char) (row : List (List Char))
    (rows : List (List (List Char))) :
    (Reader.atCell row rows).run (fieldChars cell ++ [',']) =
      some (Reader.atCell (row ++ [cell]) rows) := by
  cases h : needsQuotes (String.ofList cell) with
  | true => rw [fieldChars_of_quoted h, Reader.run_enclosed_comma]
  | false => rw [fieldChars_of_plain h, Reader.run_plain_comma (plain_of_needsQuotes h)]

theorem run_fieldChars_line (cell : List Char) (row : List (List Char))
    (rows : List (List (List Char))) :
    (Reader.atCell row rows).run (fieldChars cell ++ ['\n']) =
      some (Reader.atRecord (rows ++ [row ++ [lastCellRead cell]])) := by
  unfold lastCellRead
  cases h : needsQuotes (String.ofList cell) with
  | true => rw [fieldChars_of_quoted h, Reader.run_enclosed_line, if_pos rfl]
  | false =>
      rw [fieldChars_of_plain h, Reader.run_plain_line (plain_of_needsQuotes h),
        if_neg Bool.false_ne_true]

/-! ## Rows and tables -/

theorem toList_writeCsvRow (row : List String) :
    (writeCsvRow row).toList = Reader.record fieldChars (row.map String.toList) := by
  have hfields : (row.map csvField).map String.toList =
      (row.map String.toList).map fieldChars := by
    simp [fieldChars, Function.comp_def]
  unfold writeCsvRow Reader.record
  rw [String.toList_append, String.toList_intercalate, hfields]
  rfl

theorem toList_csvText (rows : List (List String)) :
    (csvText rows).toList = (tableChars rows).flatMap (Reader.record fieldChars) := by
  unfold csvText tableChars
  rw [String.toList_join, List.flatMap_map, List.flatMap_map]
  exact congrArg (fun f => List.flatMap f rows) (funext toList_writeCsvRow)

theorem read_csvText {rows : List (List String)} (h : ∀ row ∈ rows, row ≠ []) :
    read (csvText rows).toList =
      some ((tableChars rows).map (Reader.recordRead lastCellRead)) := by
  rw [toList_csvText]
  refine read_table run_fieldChars_comma run_fieldChars_line ?_
  intro row hrow
  obtain ⟨cells, hcells, rfl⟩ := List.mem_map.mp hrow
  simpa using h cells hcells

/-- A cell that ends with a carriage return and stands without quotes. -/
def EndsWithBareReturn (cell : String) : Prop :=
  cell.toList.getLast? = some '\r' ∧ needsQuotes cell = false

theorem lastCellRead_eq_self_iff (cell : String) :
    lastCellRead cell.toList = cell.toList ↔ ¬ EndsWithBareReturn cell := by
  unfold lastCellRead EndsWithBareReturn Reader.stripReturn
  rw [String.ofList_toList]
  cases hquotes : needsQuotes cell with
  | true => simp
  | false =>
      rw [if_neg Bool.false_ne_true]
      by_cases hreturn : cell.toList.getLast? = some '\r'
      · have hne : cell.toList ≠ [] := by
          intro hnil
          rw [hnil] at hreturn
          cases hreturn
        have hlength := List.length_pos_iff.mpr hne
        rw [if_pos hreturn]
        refine iff_of_false (fun hdrop => ?_) (fun h => h ⟨hreturn, rfl⟩)
        have hshorter := congrArg List.length hdrop
        rw [List.length_dropLast] at hshorter
        omega
      · rw [if_neg hreturn]
        exact iff_of_true rfl fun h => hreturn h.1

/-- A table is read back exactly when no row ends with a bare carriage return. -/
theorem csv_round_trip_iff (rows : List (List String)) (h : ∀ row ∈ rows, 2 ≤ row.length) :
    readText (csvText rows) = some rows ↔
      ∀ row ∈ rows, ∀ cell ∈ row.getLast?, ¬ EndsWithBareReturn cell := by
  have hne : ∀ row ∈ rows, row ≠ [] := by
    intro row hrow hnil
    have hlength := h row hrow
    rw [hnil] at hlength
    exact absurd hlength (by decide)
  rw [readText_eq_some_iff, read_csvText hne, Option.some_inj, map_recordRead_eq_self_iff]
  unfold tableChars
  rw [List.forall_mem_map]
  refine forall₂_congr fun row _ => ?_
  rw [List.getLast?_map]
  simp only [Option.mem_def, Option.map_eq_some_iff, forall_exists_index, and_imp,
    forall_apply_eq_imp_iff₂, lastCellRead_eq_self_iff]

theorem csv_round_trip_iff_sample :
    readText (csvText [["a,b", "\"c\""], ["", "d\r\n"]]) =
        some [["a,b", "\"c\""], ["", "d\r\n"]] ↔
      ∀ row ∈ [["a,b", "\"c\""], ["", "d\r\n"]], ∀ cell ∈ row.getLast?,
        ¬ EndsWithBareReturn cell :=
  csv_round_trip_iff _ (by decide)

/-- A row that ends with a carriage return comes back without it. -/
theorem trailing_return_lost : ¬ ∀ rows : List (List String), rows ≠ [] →
    (∀ row ∈ rows, 2 ≤ row.length) → readText (csvText rows) = some rows := by
  intro h
  have hlost : readText (csvText [["a", "b\r"]]) = some [["a", "b"]] := by decide +kernel
  have hread := h [["a", "b\r"]] (by decide) (by decide)
  rw [hlost] at hread
  exact absurd hread (by decide)

end PumpLaunchTrader
