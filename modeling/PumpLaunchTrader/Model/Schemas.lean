import PumpLaunchTrader.Lib.Json
import PumpLaunchTrader.Lib.KeyedMap
import PumpLaunchTrader.Lib.PythonText
import PumpLaunchTrader.Lib.Encoding
import Mathlib.Data.String.Basic

/-! # Rows and hashes of payloads (`strategy_pipeline/schemas.py`)

A row of a table maps the names of its columns to texts. A payload is written as JSON with
sorted keys, compact separators and ASCII letters only, as `json.dumps` does by default, and
hashed. -/

namespace PumpLaunchTrader.StrategyPipeline

/-! ## Rows -/

abbrev Row := KeyedMap String String

/-- `row.get(field, "")`. -/
def Row.text (row : Row) (field : String) : String := (row.lookup field).getD ""

def horizons : List ℤ := [5, 10, 30, 60, 120, 300, 900]

/-- `boolish(row.get(field))`, whose value is a text or absent. -/
def boolish : Option String → Bool
  | none => false
  | some text => ["true", "1", "yes", "y"].contains (Python.lower (Python.strip text))

/-! ## `json.dumps(payload, sort_keys=True, separators=(",", ":"))` -/

/-- Four lower-case hexadecimal digits. -/
def hexWord (n : ℕ) : List Char :=
  [n / 4096 % 16, n / 256 % 16, n / 16 % 16, n % 16].map Json.hexDigit

/-- A character in ASCII; one beyond the basic plane as two surrogates. -/
def escapeAscii (c : Char) : List Char :=
  if c = '"' then ['\\', '"']
  else if c = '\\' then ['\\', '\\']
  else if c.toNat = 8 then ['\\', 'b']
  else if c.toNat = 9 then ['\\', 't']
  else if c.toNat = 10 then ['\\', 'n']
  else if c.toNat = 12 then ['\\', 'f']
  else if c.toNat = 13 then ['\\', 'r']
  else if 32 ≤ c.toNat ∧ c.toNat < 127 then [c]
  else if c.toNat < 0x10000 then ['\\', 'u'] ++ hexWord c.toNat
  else ['\\', 'u'] ++ hexWord (0xd800 + (c.toNat - 0x10000) / 1024) ++
    (['\\', 'u'] ++ hexWord (0xdc00 + (c.toNat - 0x10000) % 1024))

def dumpsString (text : String) : List Char :=
  '"' :: (text.toList.flatMap escapeAscii ++ ['"'])

mutual

def dumps : Json.Value → List Char
  | .null => ['n', 'u', 'l', 'l']
  | .bool true => ['t', 'r', 'u', 'e']
  | .bool false => ['f', 'a', 'l', 's', 'e']
  | .number value => value.text
  | .string value => dumpsString value
  | .array items => '[' :: ([','].intercalate (dumpsItems items) ++ [']'])
  | .object fields => '{' :: ([','].intercalate
      (((dumpsFields fields).insertionSort fun left right => left.1 ≤ right.1).map Prod.snd) ++
        ['}'])

def dumpsItems : List Json.Value → List (List Char)
  | [] => []
  | item :: items => dumps item :: dumpsItems items

/-- The texts of the fields under their keys. -/
def dumpsFields : List (String × Json.Value) → List (String × List Char)
  | [] => []
  | (key, value) :: fields =>
      (key, dumpsString key ++ ':' :: dumps value) :: dumpsFields fields

end

def stableHash (payload : Json.Value) : String := Sha256.hexDigest (String.ofList (dumps payload))

end PumpLaunchTrader.StrategyPipeline
