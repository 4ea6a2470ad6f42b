import PumpLaunchTrader.Lib.Digits
import Mathlib.Data.List.TakeWhile

/-! # JSON texts

Values, their compact text, and a reader. Numbers keep their text; the fields of an object
keep their order and may repeat. A reader allows for a number of nested arrays and objects. -/

namespace Json

/-! ## Numbers -/

def isNumberChar (c : Char) : Bool :=
  c.isDigit || c = '-' || c = '+' || c = '.' || c = 'e' || c = 'E'

/-- A text of digits, without a leading zero unless it is the only one. -/
def isWhole (digits : List Char) : Bool :=
  digits = ['0'] || (digits ≠ [] && digits.head? ≠ some '0')

/-- The text after the digits of a fraction, which has at least one. -/
def skipFraction : List Char → Option (List Char)
  | '.' :: text => if (text.takeWhile Char.isDigit).isEmpty then none
      else some (text.dropWhile Char.isDigit)
  | text => some text

def skipSign : List Char → List Char
  | '+' :: text => text
  | '-' :: text => text
  | text => text

/-- The text after the digits of an exponent, which has at least one. -/
def skipExponent : List Char → Option (List Char)
  | [] => some []
  | c :: text => if c = 'e' ∨ c = 'E' then
        if ((skipSign text).takeWhile Char.isDigit).isEmpty then none
        else some ((skipSign text).dropWhile Char.isDigit)
      else some (c :: text)

/-- The grammar of a number: sign, whole part, fraction, exponent. -/
def isNumber (text : List Char) : Bool :=
  let unsigned := if text.head? = some '-' then text.tail else text
  text.all isNumberChar && isWhole (unsigned.takeWhile Char.isDigit) &&
    (skipFraction (unsigned.dropWhile Char.isDigit)).bind skipExponent = some []

/-- A number, by its text. -/
structure Number where
  text : List Char
  valid : isNumber text = true
  deriving DecidableEq, Repr

theorem isWhole_toDigits (n : ℕ) : isWhole (Nat.toDigits 10 n) = true := by
  unfold isWhole
  cases Nat.eq_zero_or_pos n with
  | inl hzero =>
      subst hzero
      decide
  | inr hpos => simp [Digits.head?_toDigits hpos, Nat.toDigits_ne_nil]

theorem isNumber_toDigits (n : ℕ) : isNumber (Nat.toDigits 10 n) = true := by
  have hdigit : ∀ c ∈ Nat.toDigits 10 n, c.isDigit = true := fun c => Digits.isDigit_of_mem
  have hunsigned : (Nat.toDigits 10 n).head? ≠ some '-' := by
    intro hsign
    exact absurd (hdigit _ (List.mem_of_mem_head? hsign)) (by decide)
  have htake : (Nat.toDigits 10 n).takeWhile Char.isDigit = Nat.toDigits 10 n :=
    List.takeWhile_eq_self_iff.mpr hdigit
  have hdrop : (Nat.toDigits 10 n).dropWhile Char.isDigit = [] :=
    List.dropWhile_eq_nil_iff.mpr hdigit
  have hchars : (Nat.toDigits 10 n).all isNumberChar = true := by
    rw [List.all_eq_true]
    intro c hc
    simp [isNumberChar, hdigit c hc]
  simp only [isNumber, if_neg hunsigned, htake, hdrop, hchars, isWhole_toDigits]
  decide

/-- The number with the decimal text of a natural number. -/
def Number.ofNat (n : ℕ) : Number := ⟨Nat.toDigits 10 n, isNumber_toDigits n⟩

/-- The value of a number without sign, fraction and exponent. -/
def Number.toNat? (value : Number) : Option ℕ :=
  if value.text.all Char.isDigit then some (Nat.ofDigitChars 10 value.text 0) else none

/-! ## Values -/

inductive Value where
  | null
  | bool (value : Bool)
  | number (value : Number)
  | string (value : String)
  | array (items : List Value)
  | object (fields : List (String × Value))

/-! ## Writing -/

def hexDigit (n : ℕ) : Char :=
  if n < 10 then Char.ofNat (n + 48) else Char.ofNat (n + 87)

/-- The text of a character within quotes. -/
def escapeChar (c : Char) : List Char :=
  if c = '"' then ['\\', '"']
  else if c = '\\' then ['\\', '\\']
  else if c.toNat = 8 then ['\\', 'b']
  else if c.toNat = 9 then ['\\', 't']
  else if c.toNat = 10 then ['\\', 'n']
  else if c.toNat = 12 then ['\\', 'f']
  else if c.toNat = 13 then ['\\', 'r']
  else if c.toNat < 32 then
    ['\\', 'u', '0', '0', hexDigit (c.toNat / 16), hexDigit (c.toNat % 16)]
  else [c]

def writeString (text : String) : List Char :=
  '"' :: (text.toList.flatMap escapeChar ++ ['"'])

mutual

def write : Value → List Char
  | .null => ['n', 'u', 'l', 'l']
  | .bool true => ['t', 'r', 'u', 'e']
  | .bool false => ['f', 'a', 'l', 's', 'e']
  | .number value => value.text
  | .string value => writeString value
  | .array [] => ['[', ']']
  | .array (item :: items) => '[' :: (write item ++ writeItems items)
  | .object [] => ['{', '}']
  | .object ((key, value) :: fields) =>
    '{' :: (writeString key ++ ':' :: (write value ++ writeFields fields))

/-- The text of an array after an item. -/
def writeItems : List Value → List Char
  | [] => [']']
  | item :: items => ',' :: (write item ++ writeItems items)

/-- The text of an object after a field. -/
def writeFields : List (String × Value) → List Char
  | [] => ['}']
  | (key, value) :: fields =>
    ',' :: (writeString key ++ ':' :: (write value ++ writeFields fields))

end

mutual

/-- How deep arrays and objects are nested. -/
def depth : Value → ℕ
  | .null => 0
  | .bool _ => 0
  | .number _ => 0
  | .string _ => 0
  | .array items => depthItems items + 1
  | .object fields => depthFields fields + 1

def depthItems : List Value → ℕ
  | [] => 0
  | item :: items => max (depth item) (depthItems items)

def depthFields : List (String × Value) → ℕ
  | [] => 0
  | (_, value) :: fields => max (depth value) (depthFields fields)

end

/-! ## Reading -/

def isSpace (c : Char) : Bool := c = ' ' || c = '\n' || c = '\t' || c = '\r'

def skipSpace (text : List Char) : List Char := text.dropWhile isSpace

def hexValue (c : Char) : Option ℕ :=
  if c.isDigit then some (c.toNat - 48)
  else if 'a' ≤ c ∧ c ≤ 'f' then some (c.toNat - 87)
  else if 'A' ≤ c ∧ c ≤ 'F' then some (c.toNat - 55)
  else none

def readHex4 : List Char → Option (ℕ × List Char)
  | a :: b :: c :: d :: text => do
    let a ← hexValue a
    let b ← hexValue b
    let c ← hexValue c
    let d ← hexValue d
    some (a * 4096 + b * 256 + c * 16 + d, text)
  | _ => none

/-- A character behind `\u`; one outside the basic plane is a pair of surrogates. -/
def readUnicode (text : List Char) : Option (Char × List Char) := do
  let (high, text) ← readHex4 text
  if 0xd800 ≤ high ∧ high < 0xdc00 then
    match text with
    | '\\' :: 'u' :: text => do
      let (low, text) ← readHex4 text
      if 0xdc00 ≤ low ∧ low < 0xe000 then
        some (Char.ofNat (0x10000 + (high - 0xd800) * 0x400 + (low - 0xdc00)), text)
      else none
    | _ => none
  else if 0xdc00 ≤ high ∧ high < 0xe000 then none
  else some (Char.ofNat high, text)

def readEscape : List Char → Option (Char × List Char)
  | [] => none
  | c :: text =>
    if c = '"' ∨ c = '\\' ∨ c = '/' then some (c, text)
    else if c = 'b' then some (Char.ofNat 8, text)
    else if c = 't' then some (Char.ofNat 9, text)
    else if c = 'n' then some (Char.ofNat 10, text)
    else if c = 'f' then some (Char.ofNat 12, text)
    else if c = 'r' then some (Char.ofNat 13, text)
    else if c = 'u' then readUnicode text
    else none

/-- A character within quotes; control characters must be escaped. -/
def readChar : List Char → Option (Char × List Char)
  | [] => none
  | c :: text =>
    if c = '\\' then readEscape text
    else if c.toNat < 32 then none
    else some (c, text)

def readChars : ℕ → List Char → Option (List Char × List Char)
  | 0, _ => none
  | _ + 1, [] => none
  | fuel + 1, c :: text =>
    if c = '"' then some ([], text)
    else do
      let (first, text) ← readChar (c :: text)
      let (chars, text) ← readChars fuel text
      some (first :: chars, text)

/-- A string behind its opening quote. -/
def readString (text : List Char) : Option (String × List Char) :=
  (readChars (text.length + 1) text).map fun result => (String.ofList result.1, result.2)

def readNumber (text : List Char) : Option (Value × List Char) :=
  if h : isNumber (text.takeWhile isNumberChar) = true then
    some (.number ⟨text.takeWhile isNumberChar, h⟩, text.dropWhile isNumberChar)
  else none

def readWord (word : List Char) (value : Value) (text : List Char) :
    Option (Value × List Char) :=
  if text.take word.length = word then some (value, text.drop word.length) else none

/-- The symbol that must come next. -/
def expect (symbol : Char) (text : List Char) : Option (List Char) :=
  match skipSpace text with
  | [] => none
  | c :: text => if c = symbol then some text else none

/-- Whether another entry follows, or the end of the list. -/
def readSeparator (close : Char) (text : List Char) : Option (Bool × List Char) :=
  match skipSpace text with
  | [] => none
  | c :: text =>
    if c = ',' then some (true, text) else if c = close then some (false, text) else none

mutual

def readValue : ℕ → ℕ → List Char → Option (Value × List Char)
  | 0, _, _ => none
  | fuel + 1, depth, text =>
    match skipSpace text with
    | [] => none
    | c :: rest =>
      if c = '"' then (readString rest).map fun result => (.string result.1, result.2)
      else if c = '[' then
        match depth with
        | 0 => none
        | depth + 1 =>
          match expect ']' rest with
          | some rest => some (.array [], rest)
          | none => (readItems fuel depth rest).map fun result => (.array result.1, result.2)
      else if c = '{' then
        match depth with
        | 0 => none
        | depth + 1 =>
          match expect '}' rest with
          | some rest => some (.object [], rest)
          | none => (readFields fuel depth rest).map fun result => (.object result.1, result.2)
      else if c = 'n' then readWord ['u', 'l', 'l'] .null rest
      else if c = 't' then readWord ['r', 'u', 'e'] (.bool true) rest
      else if c = 'f' then readWord ['a', 'l', 's', 'e'] (.bool false) rest
      else readNumber (c :: rest)

/-- The items of an array that is not empty. -/
def readItems : ℕ → ℕ → List Char → Option (List Value × List Char)
  | 0, _, _ => none
  | fuel + 1, depth, text => do
    let (item, text) ← readValue fuel depth text
    let (more, text) ← readSeparator ']' text
    if more then
      let (items, text) ← readItems fuel depth text
      some (item :: items, text)
    else some ([item], text)

/-- The fields of an object that is not empty. -/
def readFields : ℕ → ℕ → List Char → Option (List (String × Value) × List Char)
  | 0, _, _ => none
  | fuel + 1, depth, text => do
    let text ← expect '"' text
    let (key, text) ← readString text
    let text ← expect ':' text
    let (value, text) ← readValue fuel depth text
    let (more, text) ← readSeparator '}' text
    if more then
      let (fields, text) ← readFields fuel depth text
      some ((key, value) :: fields, text)
    else some ([(key, value)], text)

end

/-- The value of a text, with at most `nesting` arrays and objects within each other. -/
def parse (nesting : ℕ) (text : List Char) : Option Value := do
  let (value, rest) ← readValue (2 * text.length + 1) nesting text
  if (skipSpace rest).isEmpty then some value else none

/-! ## Strings are read back -/

theorem hexValue_hexDigit {n : ℕ} (h : n < 16) : hexValue (hexDigit n) = some n := by
  interval_cases n <;> decide

theorem readUnicode_control {c : Char} (h : c.toNat < 32) (rest : List Char) :
    readUnicode ('0' :: '0' :: hexDigit (c.toNat / 16) :: hexDigit (c.toNat % 16) :: rest) =
      some (c, rest) := by
  have hzero : hexValue '0' = some 0 := by decide
  have hhex : readHex4
      ('0' :: '0' :: hexDigit (c.toNat / 16) :: hexDigit (c.toNat % 16) :: rest) =
        some (c.toNat, rest) := by
    have hhigh := hexValue_hexDigit (show c.toNat / 16 < 16 by omega)
    have hlow := hexValue_hexDigit (show c.toNat % 16 < 16 by omega)
    simp only [readHex4, hzero, hhigh, hlow, Option.bind_eq_bind, Option.bind_some]
    rw [show 0 * 4096 + 0 * 256 + c.toNat / 16 * 16 + c.toNat % 16 = c.toNat by omega]
  unfold readUnicode
  rw [hhex]
  simp only [Option.bind_eq_bind, Option.bind_some]
  rw [if_neg (by omega), if_neg (by omega), Char.ofNat_toNat]

theorem readChar_escapeChar (c : Char) (rest : List Char) :
    readChar (escapeChar c ++ rest) = some (c, rest) := by
  have hcode : ∀ n : ℕ, c.toNat = n → c = Char.ofNat n := by
    intro n hn
    rw [← hn, Char.ofNat_toNat]
  unfold escapeChar
  split
  · next h => subst h; rfl
  split
  · next h => subst h; rfl
  split
  · next h => rw [hcode 8 h]; rfl
  split
  · next h => rw [hcode 9 h]; rfl
  split
  · next h => rw [hcode 10 h]; rfl
  split
  · next h => rw [hcode 12 h]; rfl
  split
  · next h => rw [hcode 13 h]; rfl
  split
  · next h => exact readUnicode_control h rest
  · next hquote hback _ _ _ _ _ hcontrol =>
      rw [List.singleton_append, readChar, if_neg hback, if_neg hcontrol]

/-- An escaped character does not end a string. -/
theorem head?_escapeChar (c : Char) (rest : List Char) :
    ∃ first more, escapeChar c ++ rest = first :: more ∧ first ≠ '"' := by
  unfold escapeChar
  split
  · exact ⟨_, _, rfl, by decide⟩
  · next hquote =>
      split_ifs
      all_goals first
        | exact ⟨_, _, rfl, by decide⟩
        | exact ⟨_, _, rfl, hquote⟩

theorem readChars_escape (chars rest : List Char) {fuel : ℕ} (h : chars.length < fuel) :
    readChars fuel (chars.flatMap escapeChar ++ '"' :: rest) = some (chars, rest) := by
  induction chars generalizing fuel with
  | nil =>
      obtain ⟨fuel, rfl⟩ := Nat.exists_eq_succ_of_ne_zero (Nat.ne_of_gt h)
      rfl
  | cons c chars ih =>
      obtain ⟨fuel, rfl⟩ := Nat.exists_eq_succ_of_ne_zero (Nat.ne_of_gt (Nat.zero_lt_of_lt h))
      rw [List.flatMap_cons, List.append_assoc]
      obtain ⟨first, more, htext, hfirst⟩ :=
        head?_escapeChar c (chars.flatMap escapeChar ++ '"' :: rest)
      rw [htext, readChars, if_neg hfirst, ← htext, readChar_escapeChar]
      simp only [Option.bind_eq_bind, Option.bind_some]
      rw [ih (Nat.lt_of_succ_lt_succ h)]
      rfl

theorem length_le_flatMap_escapeChar (chars : List Char) :
    chars.length ≤ (chars.flatMap escapeChar).length := by
  induction chars with
  | nil => exact Nat.le_refl 0
  | cons c chars ih =>
      have hpos : 0 < (escapeChar c).length := by
        obtain ⟨first, more, htext, -⟩ := head?_escapeChar c []
        rw [List.append_nil] at htext
        rw [htext]
        exact Nat.succ_pos _
      rw [List.flatMap_cons, List.length_append, List.length_cons]
      omega

/-- A string is read back, behind its opening quote. -/
theorem readString_escape (text : String) (rest : List Char) :
    readString (text.toList.flatMap escapeChar ++ '"' :: rest) = some (text, rest) := by
  have hlength := length_le_flatMap_escapeChar text.toList
  unfold readString
  rw [readChars_escape text.toList rest (by rw [List.length_append, List.length_cons]; omega)]
  simp [String.ofList_toList]

/-! ## Values are read back -/

/-- What ends a number. -/
def EndsNumber (rest : List Char) : Prop := ∀ c ∈ rest.head?, isNumberChar c = false

theorem ne_of_isNumberChar {c d : Char} (hc : isNumberChar c = true)
    (hd : isNumberChar d = false) : c ≠ d := by
  rintro rfl
  rw [hc] at hd
  cases hd

theorem Number.forall_isNumberChar (value : Number) : ∀ c ∈ value.text, isNumberChar c = true := by
  have hvalid := value.valid
  unfold isNumber at hvalid
  simp only [Bool.and_eq_true, List.all_eq_true] at hvalid
  exact hvalid.1.1

theorem Number.text_ne_nil (value : Number) : value.text ≠ [] := by
  intro h
  have hvalid := value.valid
  rw [h] at hvalid
  exact absurd hvalid (by decide)

theorem readNumber_write (value : Number) {rest : List Char} (hrest : EndsNumber rest) :
    readNumber (value.text ++ rest) = some (.number value, rest) := by
  have hstop : rest.takeWhile isNumberChar = [] ∧ rest.dropWhile isNumberChar = rest := by
    cases rest with
    | nil => exact ⟨rfl, rfl⟩
    | cons c rest =>
        have hc := hrest c rfl
        exact ⟨List.takeWhile_cons_of_neg (by simp [hc]),
          List.dropWhile_cons_of_neg (by simp [hc])⟩
  have htake : (value.text ++ rest).takeWhile isNumberChar = value.text := by
    rw [List.takeWhile_append_of_pos value.forall_isNumberChar, hstop.1, List.append_nil]
  have hdrop : (value.text ++ rest).dropWhile isNumberChar = rest := by
    rw [List.dropWhile_append_of_pos value.forall_isNumberChar, hstop.2]
  unfold readNumber
  simp only [htake, hdrop, value.valid, dif_pos]

/-- A written value begins with a symbol that is no space and closes no list. -/
theorem write_eq_cons (value : Value) :
    ∃ first more, write value = first :: more ∧ isSpace first = false ∧ first ≠ ']' := by
  cases value with
  | null => exact ⟨_, _, by rw [write], by decide, by decide⟩
  | bool value => cases value <;> exact ⟨_, _, by rw [write], by decide, by decide⟩
  | number value =>
      obtain ⟨first, more, htext⟩ := List.exists_cons_of_ne_nil value.text_ne_nil
      have hfirst := value.forall_isNumberChar first (by rw [htext]; exact List.mem_cons_self)
      refine ⟨first, more, by rw [write, htext], ?_, ne_of_isNumberChar hfirst (by decide)⟩
      unfold isSpace
      simp [ne_of_isNumberChar hfirst (show isNumberChar ' ' = false by decide),
        ne_of_isNumberChar hfirst (show isNumberChar '\n' = false by decide),
        ne_of_isNumberChar hfirst (show isNumberChar '\t' = false by decide),
        ne_of_isNumberChar hfirst (show isNumberChar '\r' = false by decide)]
  | string value => exact ⟨_, _, by rw [write, writeString], by decide, by decide⟩
  | array items => cases items <;> exact ⟨_, _, by rw [write], by decide, by decide⟩
  | object fields => cases fields <;> exact ⟨_, _, by rw [write], by decide, by decide⟩

theorem skipSpace_cons {c : Char} (h : isSpace c = false) (rest : List Char) :
    skipSpace (c :: rest) = c :: rest :=
  List.dropWhile_cons_of_neg (by simp [h])

theorem skipSpace_write (value : Value) (rest : List Char) :
    skipSpace (write value ++ rest) = write value ++ rest := by
  obtain ⟨first, more, hwrite, hspace, -⟩ := write_eq_cons value
  rw [hwrite, List.cons_append, skipSpace_cons hspace]

theorem expect_cons {symbol : Char} (h : isSpace symbol = false) (rest : List Char) :
    expect symbol (symbol :: rest) = some rest := by
  unfold expect
  rw [skipSpace_cons h]
  exact if_pos rfl

theorem expect_write (value : Value) (rest : List Char) :
    expect ']' (write value ++ rest) = none := by
  obtain ⟨first, more, hwrite, hspace, hclose⟩ := write_eq_cons value
  rw [hwrite, List.cons_append, expect, skipSpace_cons hspace]
  exact if_neg hclose

theorem readValue_number (value : Number) (fuel nesting : ℕ) {rest : List Char}
    (hrest : EndsNumber rest) :
    readValue (fuel + 1) nesting (value.text ++ rest) = some (.number value, rest) := by
  obtain ⟨first, more, htext⟩ := List.exists_cons_of_ne_nil value.text_ne_nil
  have hfirst := value.forall_isNumberChar first (by rw [htext]; exact List.mem_cons_self)
  have hskip : skipSpace (value.text ++ rest) = first :: (more ++ rest) := by
    have hspace := skipSpace_write (.number value) rest
    rw [write] at hspace
    rw [hspace, htext, List.cons_append]
  rw [readValue, hskip]
  simp only
  rw [if_neg (ne_of_isNumberChar hfirst (by decide)),
    if_neg (ne_of_isNumberChar hfirst (by decide)),
    if_neg (ne_of_isNumberChar hfirst (by decide)),
    if_neg (ne_of_isNumberChar hfirst (by decide)),
    if_neg (ne_of_isNumberChar hfirst (by decide)),
    if_neg (ne_of_isNumberChar hfirst (by decide)), ← List.cons_append, ← htext,
    readNumber_write value hrest]

section Lists

variable (fuel nesting : ℕ) (rest : List Char)

theorem readValue_array_zero : readValue (fuel + 1) 0 ('[' :: rest) = none := by
  rw [readValue, skipSpace_cons (by decide)]
  rfl

theorem readValue_array_nil :
    readValue (fuel + 1) (nesting + 1) ('[' :: ']' :: rest) = some (.array [], rest) := by
  rw [readValue, skipSpace_cons (by decide)]
  simp [expect_cons (show isSpace ']' = false by decide)]

theorem readValue_array_cons (item : Value) :
    readValue (fuel + 1) (nesting + 1) ('[' :: (write item ++ rest)) =
      (readItems fuel nesting (write item ++ rest)).map
        fun result => (.array result.1, result.2) := by
  rw [readValue, skipSpace_cons (by decide)]
  simp [expect_write]

theorem readValue_object_zero : readValue (fuel + 1) 0 ('{' :: rest) = none := by
  rw [readValue, skipSpace_cons (by decide)]
  rfl

theorem readValue_object_nil :
    readValue (fuel + 1) (nesting + 1) ('{' :: '}' :: rest) = some (.object [], rest) := by
  rw [readValue, skipSpace_cons (by decide)]
  simp [expect_cons (show isSpace '}' = false by decide)]

theorem readValue_object_cons (key : String) :
    readValue (fuel + 1) (nesting + 1) ('{' :: (writeString key ++ rest)) =
      (readFields fuel nesting (writeString key ++ rest)).map
        fun result => (.object result.1, result.2) := by
  have hexpect : expect '}' (writeString key ++ rest) = none := by
    rw [writeString, List.cons_append, expect, skipSpace_cons (by decide)]
    rfl
  rw [readValue, skipSpace_cons (by decide)]
  simp [hexpect]

variable {fuel nesting rest}

theorem readItems_last {text : List Char} {item : Value}
    (h : readValue fuel nesting text = some (item, ']' :: rest)) :
    readItems (fuel + 1) nesting text = some ([item], rest) := by
  rw [readItems, h]
  simp [readSeparator, skipSpace_cons (show isSpace ']' = false by decide)]

theorem readItems_more {text : List Char} {item : Value}
    (h : readValue fuel nesting text = some (item, ',' :: rest)) :
    readItems (fuel + 1) nesting text =
      (readItems fuel nesting rest).map fun result => (item :: result.1, result.2) := by
  rw [readItems, h]
  simp only [Option.bind_eq_bind, Option.bind_some, readSeparator,
    skipSpace_cons (show isSpace ',' = false by decide), if_true]
  cases readItems fuel nesting rest <;> rfl

theorem readItems_none {text : List Char} (h : readValue fuel nesting text = none) :
    readItems (fuel + 1) nesting text = none := by
  rw [readItems, h]
  rfl

/-- Reading a field up to what its value gives. -/
theorem readFields_key (key : String) (text : List Char) :
    readFields (fuel + 1) nesting (writeString key ++ ':' :: text) =
      (readValue fuel nesting text).bind fun parsed =>
        (readSeparator '}' parsed.2).bind fun separator =>
          if separator.1 then
            (readFields fuel nesting separator.2).map
              fun result => ((key, parsed.1) :: result.1, result.2)
          else some ([(key, parsed.1)], separator.2) := by
  rw [readFields, writeString, List.cons_append, List.append_assoc,
    expect_cons (by decide)]
  simp only [Option.bind_eq_bind, Option.bind_some, List.singleton_append]
  rw [readString_escape]
  simp only [Option.bind_some]
  rw [expect_cons (by decide)]
  simp only [Option.bind_some]
  cases readValue fuel nesting text with
  | none => rfl
  | some parsed =>
      simp only [Option.bind_some]
      cases readSeparator '}' parsed.2 with
      | none => rfl
      | some separator =>
          simp only [Option.bind_some]
          cases separator.1
          · rfl
          · cases readFields fuel nesting separator.2 <;> rfl

theorem readFields_last {key : String} {text : List Char} {value : Value}
    (h : readValue fuel nesting text = some (value, '}' :: rest)) :
    readFields (fuel + 1) nesting (writeString key ++ ':' :: text) =
      some ([(key, value)], rest) := by
  rw [readFields_key, h]
  simp [readSeparator, skipSpace_cons (show isSpace '}' = false by decide)]

theorem readFields_more {key : String} {text : List Char} {value : Value}
    (h : readValue fuel nesting text = some (value, ',' :: rest)) :
    readFields (fuel + 1) nesting (writeString key ++ ':' :: text) =
      (readFields fuel nesting rest).map
        fun result => ((key, value) :: result.1, result.2) := by
  rw [readFields_key, h]
  simp [readSeparator, skipSpace_cons (show isSpace ',' = false by decide)]

theorem readFields_none {key : String} {text : List Char}
    (h : readValue fuel nesting text = none) :
    readFields (fuel + 1) nesting (writeString key ++ ':' :: text) = none := by
  rw [readFields_key, h]
  rfl

end Lists

theorem endsNumber_writeItems (items : List Value) (rest : List Char) :
    EndsNumber (writeItems items ++ rest) := by
  intro c hc
  cases items <;>
    · rw [writeItems, List.cons_append, List.head?_cons, Option.mem_some_iff] at hc
      rw [← hc]
      decide

theorem endsNumber_writeFields (fields : List (String × Value)) (rest : List Char) :
    EndsNumber (writeFields fields ++ rest) := by
  intro c hc
  cases fields <;>
    · rw [writeFields, List.cons_append, List.head?_cons, Option.mem_some_iff] at hc
      rw [← hc]
      decide

/-- A reader that succeeds up to a depth, and what is made of its result. -/
theorem map_of_le {α β : Type} {inner outer nesting nesting' : ℕ} (f : α → β) (a : α)
    (h : outer ≤ nesting' ↔ inner ≤ nesting) :
    (if inner ≤ nesting then some a else none).map f =
      if outer ≤ nesting' then some (f a) else none := by
  by_cases hdepth : inner ≤ nesting
  · rw [if_pos hdepth, if_pos (h.mpr hdepth)]
    rfl
  · rw [if_neg hdepth, if_neg (mt h.mp hdepth)]
    rfl

theorem length_write_pos (value : Value) : 0 < (write value).length := by
  obtain ⟨first, more, hwrite, -⟩ := write_eq_cons value
  rw [hwrite]
  exact Nat.succ_pos _

/-- Values whose text fits the fuel are read back, unless they are nested too deep. -/
def ReadsValues (fuel : ℕ) : Prop :=
  ∀ (value : Value) (nesting : ℕ) (rest : List Char), 2 * (write value).length ≤ fuel →
    EndsNumber rest → readValue fuel nesting (write value ++ rest) =
      if depth value ≤ nesting then some (value, rest) else none

def ReadsItems (fuel : ℕ) : Prop :=
  ∀ (item : Value) (items : List Value) (nesting : ℕ) (rest : List Char),
    2 * ((write item).length + (writeItems items).length) ≤ fuel →
    readItems fuel nesting (write item ++ (writeItems items ++ rest)) =
      if depthItems (item :: items) ≤ nesting then some (item :: items, rest) else none

def ReadsFields (fuel : ℕ) : Prop :=
  ∀ (key : String) (value : Value) (fields : List (String × Value)) (nesting : ℕ)
    (rest : List Char), 2 * ((write value).length + (writeFields fields).length) ≤ fuel →
    readFields fuel nesting
        (writeString key ++ ':' :: (write value ++ (writeFields fields ++ rest))) =
      if depthFields ((key, value) :: fields) ≤ nesting then
        some ((key, value) :: fields, rest) else none

theorem readsValues_succ {fuel : ℕ} (hitems : ReadsItems fuel) (hfields : ReadsFields fuel) :
    ReadsValues (fuel + 1) := by
  intro value nesting rest hfuel hrest
  match value with
  | .null =>
      rw [write, depth, if_pos (Nat.zero_le _)]
      rfl
  | .bool true =>
      rw [write, depth, if_pos (Nat.zero_le _)]
      rfl
  | .bool false =>
      rw [write, depth, if_pos (Nat.zero_le _)]
      rfl
  | .number value =>
      rw [write, depth, if_pos (Nat.zero_le _), readValue_number value fuel nesting hrest]
  | .string value =>
      rw [write, depth, if_pos (Nat.zero_le _), writeString, List.cons_append, List.append_assoc,
        List.singleton_append, readValue, skipSpace_cons (by decide)]
      simp only [if_true]
      rw [readString_escape]
      rfl
  | .array [] =>
      rw [write, depth, depthItems]
      cases nesting with
      | zero => exact readValue_array_zero fuel _
      | succ nesting =>
          rw [if_pos (by omega)]
          exact readValue_array_nil fuel nesting rest
  | .array (item :: items) =>
      rw [write, List.length_cons, List.length_append] at hfuel
      rw [write, depth]
      cases nesting with
      | zero => exact readValue_array_zero fuel _
      | succ nesting =>
          rw [List.cons_append, List.append_assoc, readValue_array_cons,
            hitems item items nesting rest (by omega)]
          exact map_of_le _ _ (by omega)
  | .object [] =>
      rw [write, depth, depthFields]
      cases nesting with
      | zero => exact readValue_object_zero fuel _
      | succ nesting =>
          rw [if_pos (by omega)]
          exact readValue_object_nil fuel nesting rest
  | .object ((key, value) :: fields) =>
      rw [write, List.length_cons, List.length_append, List.length_cons,
        List.length_append] at hfuel
      rw [write, depth]
      cases nesting with
      | zero => exact readValue_object_zero fuel _
      | succ nesting =>
          rw [List.cons_append, List.append_assoc, readValue_object_cons, List.cons_append,
            List.append_assoc, hfields key value fields nesting rest (by omega)]
          exact map_of_le _ _ (by omega)

theorem readsItems_succ {fuel : ℕ} (hvalues : ReadsValues fuel) (hitems : ReadsItems fuel) :
    ReadsItems (fuel + 1) := by
  intro item items nesting rest hfuel
  have hpos := length_write_pos item
  have hclose : 0 < (writeItems items).length := by cases items <;> simp [writeItems]
  have hitem := hvalues item nesting (writeItems items ++ rest) (by omega)
    (endsNumber_writeItems items rest)
  rw [depthItems]
  by_cases hdepth : depth item ≤ nesting
  · rw [if_pos hdepth] at hitem
    cases items with
    | nil =>
        rw [writeItems, List.cons_append, List.nil_append] at hitem ⊢
        rw [readItems_last hitem, if_pos (by rw [depthItems]; omega)]
    | cons next items =>
        rw [writeItems, List.length_cons, List.length_append] at hfuel
        rw [writeItems, List.cons_append, List.append_assoc] at hitem ⊢
        rw [readItems_more hitem, hitems next items nesting rest (by omega)]
        exact map_of_le _ _ (by omega)
  · rw [if_neg hdepth] at hitem
    rw [readItems_none hitem, if_neg (by omega)]

theorem readsFields_succ {fuel : ℕ} (hvalues : ReadsValues fuel) (hfields : ReadsFields fuel) :
    ReadsFields (fuel + 1) := by
  intro key value fields nesting rest hfuel
  have hpos := length_write_pos value
  have hclose : 0 < (writeFields fields).length := by cases fields <;> simp [writeFields]
  have hvalue := hvalues value nesting (writeFields fields ++ rest) (by omega)
    (endsNumber_writeFields fields rest)
  rw [depthFields]
  by_cases hdepth : depth value ≤ nesting
  · rw [if_pos hdepth] at hvalue
    cases fields with
    | nil =>
        rw [writeFields, List.cons_append, List.nil_append] at hvalue ⊢
        rw [readFields_last hvalue, if_pos (by rw [depthFields]; omega)]
    | cons next fields =>
        obtain ⟨nextKey, next⟩ := next
        rw [writeFields, List.length_cons, List.length_append, List.length_cons,
          List.length_append] at hfuel
        rw [writeFields, List.cons_append, List.append_assoc, List.cons_append,
          List.append_assoc] at hvalue ⊢
        rw [readFields_more hvalue, hfields nextKey next fields nesting rest (by omega)]
        exact map_of_le _ _ (by omega)
  · rw [if_neg hdepth] at hvalue
    rw [readFields_none hvalue, if_neg (by omega)]

theorem reads_all (fuel : ℕ) : ReadsValues fuel ∧ ReadsItems fuel ∧ ReadsFields fuel := by
  induction fuel with
  | zero =>
      refine ⟨fun value _ _ hfuel => ?_, fun item _ _ _ hfuel => ?_,
        fun _ value _ _ _ hfuel => ?_⟩
      · exact absurd hfuel (by have := length_write_pos value; omega)
      · exact absurd hfuel (by have := length_write_pos item; omega)
      · exact absurd hfuel (by have := length_write_pos value; omega)
  | succ fuel ih =>
      obtain ⟨hvalues, hitems, hfields⟩ := ih
      exact ⟨readsValues_succ hitems hfields, readsItems_succ hvalues hitems,
        readsFields_succ hvalues hfields⟩

/-- A written value is read back exactly if it is not nested too deep. -/
theorem parse_write (nesting : ℕ) (value : Value) :
    parse nesting (write value) = if depth value ≤ nesting then some value else none := by
  have hread := (reads_all (2 * (write value).length + 1)).1 value nesting [] (by omega)
    (fun c hc => by cases hc)
  rw [List.append_nil] at hread
  unfold parse
  rw [hread]
  split
  · rfl
  · rfl

/-! ## The text of a value -/

/-- A character that is no control character. -/
def IsPrintable (c : Char) : Prop := 32 ≤ c.toNat

instance : DecidablePred IsPrintable := fun c => inferInstanceAs (Decidable (32 ≤ c.toNat))

/-- The characters of a fixed text are looked at one by one. -/
theorem isPrintable_of_all {text : List Char} (h : text.all (IsPrintable ·) = true) :
    ∀ c ∈ text, IsPrintable c :=
  fun c hc => of_decide_eq_true (List.all_eq_true.mp h c hc)

theorem isPrintable_of_isNumberChar {c : Char} (h : isNumberChar c = true) : IsPrintable c := by
  by_contra hcontrol
  have hlow : c.toNat < 32 := Nat.lt_of_not_le hcontrol
  obtain ⟨n, hn⟩ : ∃ n, c.toNat = n := ⟨_, rfl⟩
  have hc : c = Char.ofNat n := by rw [← hn, Char.ofNat_toNat]
  rw [hn] at hlow
  rw [hc] at h
  interval_cases n <;> exact absurd h (by decide)

theorem isPrintable_escapeChar (c : Char) : ∀ d ∈ escapeChar c, IsPrintable d := by
  have hhex : ∀ n < 16, IsPrintable (hexDigit n) := by
    intro n hn
    interval_cases n <;> decide
  unfold escapeChar
  split_ifs with h₁ h₂ h₃ h₄ h₅ h₆ h₇ h₈
  iterate 7 exact isPrintable_of_all (by decide)
  · intro d hd
    simp only [List.mem_cons, List.not_mem_nil, or_false] at hd
    rcases hd with rfl | rfl | rfl | rfl | rfl | rfl
    · decide
    · decide
    · decide
    · decide
    · exact hhex _ (by omega)
    · exact hhex _ (by omega)
  · intro d hd
    rw [List.mem_singleton.mp hd]
    exact Nat.le_of_not_lt h₈

theorem isPrintable_writeString (text : String) : ∀ c ∈ writeString text, IsPrintable c := by
  intro c hc
  rw [writeString, List.mem_cons, List.mem_append, List.mem_flatMap, List.mem_singleton] at hc
  rcases hc with rfl | ⟨d, -, hd⟩ | rfl
  · decide
  · exact isPrintable_escapeChar d c hd
  · decide

mutual

theorem isPrintable_write : ∀ (value : Value), ∀ c ∈ write value, IsPrintable c
  | .null => by rw [write]; exact isPrintable_of_all (by decide)
  | .bool true => by rw [write]; exact isPrintable_of_all (by decide)
  | .bool false => by rw [write]; exact isPrintable_of_all (by decide)
  | .number value => fun c hc =>
      isPrintable_of_isNumberChar (value.forall_isNumberChar c (by rwa [write] at hc))
  | .string value => by rw [write]; exact isPrintable_writeString value
  | .array [] => by rw [write]; exact isPrintable_of_all (by decide)
  | .array (item :: items) => by
      intro c hc
      rw [write, List.mem_cons, List.mem_append] at hc
      rcases hc with rfl | hc | hc
      · decide
      · exact isPrintable_write item c hc
      · exact isPrintable_writeItems items c hc
  | .object [] => by rw [write]; exact isPrintable_of_all (by decide)
  | .object ((key, value) :: fields) => by
      intro c hc
      rw [write, List.mem_cons, List.mem_append, List.mem_cons, List.mem_append] at hc
      rcases hc with rfl | hc | rfl | hc | hc
      · decide
      · exact isPrintable_writeString key c hc
      · decide
      · exact isPrintable_write value c hc
      · exact isPrintable_writeFields fields c hc

theorem isPrintable_writeItems : ∀ (items : List Value), ∀ c ∈ writeItems items, IsPrintable c
  | [] => by rw [writeItems]; exact isPrintable_of_all (by decide)
  | item :: items => by
      intro c hc
      rw [writeItems, List.mem_cons, List.mem_append] at hc
      rcases hc with rfl | hc | hc
      · decide
      · exact isPrintable_write item c hc
      · exact isPrintable_writeItems items c hc

theorem isPrintable_writeFields :
    ∀ (fields : List (String × Value)), ∀ c ∈ writeFields fields, IsPrintable c
  | [] => by rw [writeFields]; exact isPrintable_of_all (by decide)
  | (key, value) :: fields => by
      intro c hc
      rw [writeFields, List.mem_cons, List.mem_append, List.mem_cons, List.mem_append] at hc
      rcases hc with rfl | hc | rfl | hc | hc
      · decide
      · exact isPrintable_writeString key c hc
      · decide
      · exact isPrintable_write value c hc
      · exact isPrintable_writeFields fields c hc

end

/-- The text of a field. -/
def writeField (field : String × Value) : List Char :=
  writeString field.1 ++ ':' :: write field.2

theorem writeField_infix_writeFields {field : String × Value}
    {fields : List (String × Value)} (h : field ∈ fields) :
    writeField field <:+: writeFields fields := by
  induction fields with
  | nil => exact absurd h List.not_mem_nil
  | cons first fields ih =>
      rcases List.mem_cons.mp h with rfl | h
      · refine ⟨[','], writeFields fields, ?_⟩
        simp [writeFields, writeField]
      · refine (ih h).trans ⟨',' :: writeField first, [], ?_⟩
        simp [writeFields, writeField]

/-- The text of an object contains that of each of its fields. -/
theorem writeField_infix_write {field : String × Value} {fields : List (String × Value)}
    (h : field ∈ fields) : writeField field <:+: write (.object fields) := by
  cases fields with
  | nil => exact absurd h List.not_mem_nil
  | cons first fields =>
      rcases List.mem_cons.mp h with rfl | h
      · refine ⟨['{'], writeFields fields, ?_⟩
        simp [write, writeField]
      · refine (writeField_infix_writeFields h).trans ⟨'{' :: writeField first, [], ?_⟩
        simp [write, writeField]

end Json
