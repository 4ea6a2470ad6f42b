import PumpLaunchTrader.Lib.WalkForward
import PumpLaunchTrader.Model.Schemas
import Mathlib.Data.Prod.Lex

/-! # Walk-forward splits (`strategy_pipeline/splits.py`, `strategy/splits.py`)

The mints of the label rows in the order of their first appearance, cut into train, validation
and test with an embargo between them. -/

namespace PumpLaunchTrader.StrategyPipeline

/-- The columns of a label row that the splits read. -/
structure LabelRow where
  firstSeenAt : Option String
  mint : Option String
  deriving DecidableEq, Repr

namespace LabelRow

/-- `row.get("mint", "")`. -/
def mintText (row : LabelRow) : String := row.mint.getD ""

/-- The key of the sort. -/
def key (row : LabelRow) : String ×ₗ String := toLex (row.firstSeenAt.getD "", row.mintText)

end LabelRow

def ordered (labels : List LabelRow) : List LabelRow :=
  labels.insertionSort fun left right => left.key ≤ right.key

/-- The loop over the sorted rows: the first row of every mint. -/
def uniqueRows (labels : List LabelRow) : List LabelRow :=
  WalkForward.firsts LabelRow.mintText (fun mint => mint ≠ "") [] (ordered labels)

/-- `int(total * share)`. -/
def scaled (total : ℕ) (share : Float) : ℕ := (Float.ofNat total * share).toUInt64.toNat

/-- What both versions of the splits hold. -/
structure SplitLists where
  method : String
  embargoRows : ℕ
  train : List String
  validation : List String
  test : List String
  deriving DecidableEq, Repr

structure Splits extends SplitLists where
  splitId : String
  manifestHash : String
  deriving DecidableEq, Repr

def mintsToJson (mints : List String) : Json.Value := .array (mints.map .string)

def buildWalkForwardSplits (labels : List LabelRow) (embargoRows : ℕ) : Splits :=
  let unique := uniqueRows labels
  let total := unique.length
  let trainEnd := scaled total 0.6
  let validationStart := min total (trainEnd + embargoRows)
  let validationEnd := min total (validationStart + scaled total 0.2)
  let testStart := min total (validationEnd + embargoRows)
  let splitId := String.ofList ((stableHash (.object
    [("mints", mintsToJson (unique.map LabelRow.mintText)),
      ("embargo_rows", .number (.ofNat embargoRows))])).toList.take 16)
  let method := "chronological_walk_forward"
  let train := (unique.take trainEnd).map LabelRow.mintText
  let validation := ((unique.take validationEnd).drop validationStart).map LabelRow.mintText
  let test := (unique.drop testStart).map LabelRow.mintText
  { splitId, method, embargoRows, train, validation, test,
    manifestHash := stableHash (.object
      [("split_id", .string splitId),
        ("method", .string method),
        ("embargo_rows", .number (.ofNat embargoRows)),
        ("train", mintsToJson train),
        ("validation", mintsToJson validation),
        ("test", mintsToJson test)]) }

/-- The version of `strategy/splits.py`, without hashes. -/
def buildChronologicalSplits (labels : List LabelRow) (embargoRows : ℕ) : SplitLists :=
  let unique := uniqueRows labels
  let total := unique.length
  let trainEnd := max 0 (scaled total 0.6)
  let validationStart := min total (trainEnd + embargoRows)
  let validationEnd := min total (validationStart + scaled total 0.2)
  let testStart := min total (validationEnd + embargoRows)
  { method := "chronological_walk_forward"
    embargoRows
    train := (unique.take trainEnd).map LabelRow.mintText
    validation := ((unique.take validationEnd).drop validationStart).map LabelRow.mintText
    test := (unique.drop testStart).map LabelRow.mintText }

/-! ## Validation -/

structure SplitValidation where
  passed : Bool
  blockers : List String
  mintCount : ℕ
  deriving DecidableEq, Repr

/-- One mint of a split: it must not be a member of a split already. -/
def addMember (split : String) (state : KeyedMap String String × List String) (mint : String) :
    KeyedMap String String × List String :=
  match state.1.lookup mint with
  | some other => (state.1.insert mint split,
      state.2 ++ ["same_mint_multiple_splits:" ++ mint ++ ":" ++ other ++ ":" ++ split])
  | none => (state.1.insert mint split, state.2)

def validateSplits (splits : SplitLists) : SplitValidation :=
  let methodBlockers :=
    if splits.method ≠ "chronological_walk_forward" then ["random_split_rejected"] else []
  let (membership, memberBlockers) :=
    [("train", splits.train), ("validation", splits.validation), ("test", splits.test)].foldl
      (fun state (name, mints) => mints.foldl (addMember name) state) (∅, methodBlockers)
  let blockers :=
    memberBlockers ++ if splits.embargoRows = 0 then ["embargo_required"] else []
  { passed := blockers.isEmpty, blockers, mintCount := membership.keys.length }

end PumpLaunchTrader.StrategyPipeline
