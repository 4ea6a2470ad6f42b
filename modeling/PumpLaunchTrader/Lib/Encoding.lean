import Mathlib.Data.List.TakeWhile
import Mathlib.Data.Nat.Digits.Lemmas

/-! # Hashes and text encodings of bytes

SHA-256, readers of hexadecimal and base64 text and the writers of base64 and base58 text. A
byte string is a list of bytes. -/

/-! ## SHA-256

The hash of a byte string, as a list of bytes, and its lower-case hexadecimal text. -/

namespace Sha256

def rotateRight (x n : UInt32) : UInt32 := (x >>> n) ||| (x <<< (32 - n))

/-! ### Constants -/

def initialState : List UInt32 :=
  [0x6a09e667, 0xbb67ae85, 0x3c6ef372, 0xa54ff53a, 0x510e527f, 0x9b05688c, 0x1f83d9ab,
    0x5be0cd19]

def roundConstants : List UInt32 :=
  [0x428a2f98, 0x71374491, 0xb5c0fbcf, 0xe9b5dba5, 0x3956c25b, 0x59f111f1, 0x923f82a4,
    0xab1c5ed5, 0xd807aa98, 0x12835b01, 0x243185be, 0x550c7dc3, 0x72be5d74, 0x80deb1fe,
    0x9bdc06a7, 0xc19bf174, 0xe49b69c1, 0xefbe4786, 0x0fc19dc6, 0x240ca1cc, 0x2de92c6f,
    0x4a7484aa, 0x5cb0a9dc, 0x76f988da, 0x983e5152, 0xa831c66d, 0xb00327c8, 0xbf597fc7,
    0xc6e00bf3, 0xd5a79147, 0x06ca6351, 0x14292967, 0x27b70a85, 0x2e1b2138, 0x4d2c6dfc,
    0x53380d13, 0x650a7354, 0x766a0abb, 0x81c2c92e, 0x92722c85, 0xa2bfe8a1, 0xa81a664b,
    0xc24b8b70, 0xc76c51a3, 0xd192e819, 0xd6990624, 0xf40e3585, 0x106aa070, 0x19a4c116,
    0x1e376c08, 0x2748774c, 0x34b0bcb5, 0x391c0cb3, 0x4ed8aa4a, 0x5b9cca4f, 0x682e6ff3,
    0x748f82ee, 0x78a5636f, 0x84c87814, 0x8cc70208, 0x90befffa, 0xa4506ceb, 0xbef9a3f7,
    0xc67178f2]

/-! ### Message preparation -/

/-- The `count` low-order bytes of `n`, most significant first. -/
def bigEndian (count n : ℕ) : List UInt8 :=
  (List.range count).reverse.map fun i => UInt8.ofNat (n >>> (8 * i))

def pad (message : List UInt8) : List UInt8 :=
  message ++ [0x80] ++ List.replicate ((119 - message.length % 64) % 64) 0 ++
    bigEndian 8 (8 * message.length)

/-- Split into chunks of `size`, at most `count` of them. -/
def chunks {α : Type*} (size : ℕ) : ℕ → List α → List (List α)
  | 0, _ => []
  | count + 1, l => l.take size :: chunks size count (l.drop size)

def wordOfBytes (bytes : List UInt8) : UInt32 :=
  bytes.foldl (fun w b => w * 256 + b.toUInt32) 0

/-- Extend a message schedule, newest word first. -/
def extendSchedule : ℕ → List UInt32 → List UInt32
  | 0, ws => ws
  | n + 1, ws =>
    let w15 := ws.getD 14 0
    let w2 := ws.getD 1 0
    let s0 := rotateRight w15 7 ^^^ rotateRight w15 18 ^^^ (w15 >>> 3)
    let s1 := rotateRight w2 17 ^^^ rotateRight w2 19 ^^^ (w2 >>> 10)
    extendSchedule n ((ws.getD 15 0 + s0 + ws.getD 6 0 + s1) :: ws)

def schedule (block : List UInt8) : List UInt32 :=
  (extendSchedule 48 ((chunks 4 16 block).map wordOfBytes).reverse).reverse

/-! ### Compression -/

def round (state : List UInt32) (kw : UInt32 × UInt32) : List UInt32 :=
  match state with
  | [a, b, c, d, e, f, g, h] =>
    let s1 := rotateRight e 6 ^^^ rotateRight e 11 ^^^ rotateRight e 25
    let ch := (e &&& f) ^^^ ((~~~ e) &&& g)
    let t1 := h + s1 + ch + kw.1 + kw.2
    let s0 := rotateRight a 2 ^^^ rotateRight a 13 ^^^ rotateRight a 22
    let maj := (a &&& b) ^^^ (a &&& c) ^^^ (b &&& c)
    [t1 + (s0 + maj), a, b, c, d + t1, e, f, g]
  | _ => state

def compress (state : List UInt32) (block : List UInt8) : List UInt32 :=
  List.zipWith (· + ·) state ((roundConstants.zip (schedule block)).foldl round state)

/-! ### Digest -/

def digest (message : List UInt8) : List UInt8 :=
  let padded := pad message
  let final := (chunks 64 (padded.length / 64) padded).foldl compress initialState
  final.flatMap fun w => bigEndian 4 w.toNat

def hexDigit (n : ℕ) : Char := "0123456789abcdef".toList.getD n '0'

def hex (bytes : List UInt8) : String :=
  String.ofList (bytes.flatMap fun b => [hexDigit (b.toNat / 16), hexDigit (b.toNat % 16)])

/-- The hexadecimal digest of a text. -/
def hexDigest (text : String) : String :=
  hex (digest text.toUTF8.toList)

example : hexDigest "abc" =
    "ba7816bf8f01cfea414140de5dae2223b00361a396177a9cb410ff61f20015ad" := by
  decide +kernel

end Sha256

namespace Encoding

/-! ## Integers from bytes -/

/-- The number that little-endian bytes spell. -/
def littleEndian (bytes : List UInt8) : ℕ :=
  bytes.foldr (fun byte acc => acc * 256 + byte.toNat) 0

/-- The number that big-endian bytes spell. -/
def bigEndian (bytes : List UInt8) : ℕ :=
  bytes.foldl (fun acc byte => acc * 256 + byte.toNat) 0

/-! ## Hexadecimal -/

def hexValue (c : Char) : Option ℕ :=
  if c.isDigit then some (c.toNat - '0'.toNat)
  else if 'a' ≤ c ∧ c ≤ 'f' then some (c.toNat - 'a'.toNat + 10)
  else if 'A' ≤ c ∧ c ≤ 'F' then some (c.toNat - 'A'.toNat + 10)
  else none

/-- Two digits for each byte, upper or lower case. -/
def hexDecodeChars : List Char → Option (List UInt8)
  | [] => some []
  | [_] => none
  | high :: low :: rest => do
    let h ← hexValue high
    let l ← hexValue low
    let bytes ← hexDecodeChars rest
    some (UInt8.ofNat (h * 16 + l) :: bytes)

def hexDecode (text : String) : Option (List UInt8) := hexDecodeChars text.toList

/-! ## Base64 -/

def base64Alphabet : List Char :=
  "ABCDEFGHIJKLMNOPQRSTUVWXYZabcdefghijklmnopqrstuvwxyz0123456789+/".toList

def base64Digit (n : ℕ) : Char := base64Alphabet.getD n 'A'

def base64Value (c : Char) : Option ℕ :=
  if 'A' ≤ c ∧ c ≤ 'Z' then some (c.toNat - 'A'.toNat)
  else if 'a' ≤ c ∧ c ≤ 'z' then some (c.toNat - 'a'.toNat + 26)
  else if c.isDigit then some (c.toNat - '0'.toNat + 52)
  else if c = '+' then some 62
  else if c = '/' then some 63
  else none

def base64EncodeBytes : List UInt8 → List Char
  | [] => []
  | [a] =>
    let n := a.toNat * 16
    [base64Digit (n / 64), base64Digit (n % 64), '=', '=']
  | [a, b] =>
    let n := (a.toNat * 256 + b.toNat) * 4
    [base64Digit (n / 4096), base64Digit (n / 64 % 64), base64Digit (n % 64), '=']
  | a :: b :: c :: rest =>
    let n := (a.toNat * 256 + b.toNat) * 256 + c.toNat
    base64Digit (n / 262144) :: base64Digit (n / 4096 % 64) :: base64Digit (n / 64 % 64) ::
      base64Digit (n % 64) :: base64EncodeBytes rest

def base64Encode (bytes : List UInt8) : String := String.ofList (base64EncodeBytes bytes)

/-- Padding is required, and the bits that it leaves over have to be zero. -/
def base64DecodeChars : List Char → Option (List UInt8)
  | [] => some []
  | [c₁, c₂, '=', '='] => do
    let a ← base64Value c₁
    let b ← base64Value c₂
    if b % 16 = 0 then some [UInt8.ofNat (a * 4 + b / 16)] else none
  | [c₁, c₂, c₃, '='] => do
    let a ← base64Value c₁
    let b ← base64Value c₂
    let c ← base64Value c₃
    if c % 4 = 0 then
      some [UInt8.ofNat (a * 4 + b / 16), UInt8.ofNat (b % 16 * 16 + c / 4)]
    else none
  | c₁ :: c₂ :: c₃ :: c₄ :: rest => do
    let a ← base64Value c₁
    let b ← base64Value c₂
    let c ← base64Value c₃
    let d ← base64Value c₄
    let bytes ← base64DecodeChars rest
    some (UInt8.ofNat (a * 4 + b / 16) :: UInt8.ofNat (b % 16 * 16 + c / 4) ::
      UInt8.ofNat (c % 4 * 64 + d) :: bytes)
  | _ => none

def base64Decode (text : String) : Option (List UInt8) := base64DecodeChars text.toList

/-! ## Base58 -/

def base58Alphabet : List Char :=
  "123456789ABCDEFGHJKLMNPQRSTUVWXYZabcdefghijkmnopqrstuvwxyz".toList

/-- A `1` for each leading zero byte, then the digits of the number the bytes spell. -/
def base58Encode (bytes : List UInt8) : String :=
  String.ofList (List.replicate (bytes.takeWhile (· = 0)).length '1' ++
    ((Nat.digits 58 (bigEndian bytes)).reverse.map fun d => base58Alphabet.getD d '1'))

/-- A zero byte for each leading `1`, then the bytes of the number the digits spell. -/
def base58Decode (text : String) : Option (List UInt8) := do
  let values ← text.toList.mapM fun c => base58Alphabet.idxOf? c
  let n := values.foldl (fun acc d => acc * 58 + d) 0
  some (List.replicate (text.toList.takeWhile (· = '1')).length 0 ++
    (Nat.digits 256 n).reverse.map UInt8.ofNat)

/-! ## Base58 texts are distinct -/

/-- A run of a symbol before a list that does not start with it can be told apart from the
list. -/
theorem takeWhile_replicate_append {α : Type*} [DecidableEq α] {c : α} {l : List α}
    (h : l.head? ≠ some c) (n : ℕ) :
    (List.replicate n c ++ l).takeWhile (· = c) = List.replicate n c := by
  rw [List.takeWhile_append_of_pos (by simp)]
  cases l with
  | nil => simp
  | cons a l =>
    have ha : a ≠ c := by simpa using h
    simp [ha]

theorem replicate_append_inj {α : Type*} [DecidableEq α] {c : α} {l l' : List α}
    (h : l.head? ≠ some c) (h' : l'.head? ≠ some c) {n n' : ℕ}
    (heq : List.replicate n c ++ l = List.replicate n' c ++ l') : n = n' ∧ l = l' := by
  have hrun := congrArg (fun l : List α => (l.takeWhile (· = c)).length) heq
  simp only [takeWhile_replicate_append h, takeWhile_replicate_append h',
    List.length_replicate] at hrun
  subst hrun
  exact ⟨rfl, List.append_cancel_left heq⟩

theorem eq_replicate_append_dropWhile (bytes : List UInt8) :
    bytes = List.replicate (bytes.takeWhile (· = 0)).length 0 ++ bytes.dropWhile (· = 0) := by
  have hrun : bytes.takeWhile (· = 0) = List.replicate (bytes.takeWhile (· = 0)).length 0 := by
    refine List.eq_replicate_iff.mpr ⟨rfl, fun byte hbyte => ?_⟩
    simpa using List.mem_takeWhile_imp hbyte
  rw [← hrun, List.takeWhile_append_dropWhile]

theorem bigEndian_append (bytes bytes' : List UInt8) :
    bigEndian (bytes ++ bytes') =
      bytes'.foldl (fun acc byte => acc * 256 + byte.toNat) (bigEndian bytes) := by
  rw [bigEndian, List.foldl_append, ← bigEndian]

theorem bigEndian_eq_ofDigits (bytes : List UInt8) :
    bigEndian bytes = Nat.ofDigits 256 (bytes.reverse.map UInt8.toNat) := by
  induction bytes using List.reverseRecOn with
  | nil => rfl
  | append_singleton bytes byte ih =>
    simp only [bigEndian_append, List.foldl_cons, List.foldl_nil, ih, List.reverse_append,
      List.reverse_singleton, List.singleton_append, List.map_cons, Nat.ofDigits_cons]
    ring

theorem bigEndian_replicate_append (n : ℕ) (bytes : List UInt8) :
    bigEndian (List.replicate n 0 ++ bytes) = bigEndian bytes := by
  have hzero : bigEndian (List.replicate n 0) = 0 := by
    induction n with
    | zero => rfl
    | succ n ih => simpa [List.replicate_succ', bigEndian_append] using ih
  rw [bigEndian_append, hzero, bigEndian]

theorem digits_bigEndian {bytes : List UInt8} (h : bytes.head? ≠ some 0) :
    Nat.digits 256 (bigEndian bytes) = bytes.reverse.map UInt8.toNat := by
  rw [bigEndian_eq_ofDigits]
  apply Nat.digits_ofDigits
  · omega
  · intro digit hdigit
    obtain ⟨byte, -, rfl⟩ := List.mem_map.mp hdigit
    exact byte.toNat_lt
  · intro hne
    cases bytes with
    | nil => simp at hne
    | cons byte bytes =>
      have hbyte : byte ≠ 0 := by simpa using h
      simpa [List.getLast_map] using fun hzero => hbyte (UInt8.toNat_inj.mp hzero)

theorem bigEndian_inj {bytes bytes' : List UInt8} (h : bytes.head? ≠ some 0)
    (h' : bytes'.head? ≠ some 0) (heq : bigEndian bytes = bigEndian bytes') :
    bytes = bytes' := by
  have hdigits := digits_bigEndian h
  rw [heq, digits_bigEndian h'] at hdigits
  have hreverse := List.map_injective_iff.mpr (fun _ _ => UInt8.toNat_inj.mp) hdigits
  exact (List.reverse_injective hreverse).symm

def base58Digit (d : ℕ) : Char := base58Alphabet.getD d '1'

theorem idxOf_base58Digit : ∀ d < 58, base58Alphabet.idxOf (base58Digit d) = d := by decide

/-- The digits of a number, the leading one first. -/
def base58Digits (n : ℕ) : List Char := (Nat.digits 58 n).reverse.map base58Digit

theorem base58Digits_head?_ne (n : ℕ) : (base58Digits n).head? ≠ some '1' := by
  simp only [base58Digits, List.head?_map, List.head?_reverse]
  by_cases hn : n = 0
  · simp [hn]
  · rw [List.getLast?_eq_getLast_of_ne_nil (Nat.digits_ne_nil_iff_ne_zero.mpr hn)]
    intro heq
    have hdigit := Nat.getLast_digit_ne_zero 58 hn
    have hlt : (Nat.digits 58 n).getLast (Nat.digits_ne_nil_iff_ne_zero.mpr hn) < 58 :=
      Nat.digits_lt_base (by omega) (List.getLast_mem _)
    have hidx := idxOf_base58Digit _ hlt
    rw [Option.some.inj heq] at hidx
    exact hdigit (hidx.symm.trans (by decide))

theorem base58Digits_inj {n n' : ℕ} (h : base58Digits n = base58Digits n') : n = n' := by
  have hindices (n : ℕ) :
      (base58Digits n).map base58Alphabet.idxOf = (Nat.digits 58 n).reverse := by
    rw [base58Digits, List.map_map]
    refine (List.map_congr_left fun d hd => ?_).trans (List.map_id _)
    exact idxOf_base58Digit d (Nat.digits_lt_base (by omega) (List.mem_reverse.mp hd))
  have hdigits := hindices n
  rw [h, hindices n'] at hdigits
  exact (Nat.digits_inj_iff.mp (List.reverse_injective hdigits)).symm

theorem base58Encode_injective : Function.Injective base58Encode := by
  intro bytes bytes' heq
  have hchars := String.ofList_injective heq
  obtain ⟨hrun, hdigits⟩ := replicate_append_inj (base58Digits_head?_ne (bigEndian bytes))
    (base58Digits_head?_ne (bigEndian bytes')) hchars
  have hvalue := base58Digits_inj hdigits
  have hrest (bytes : List UInt8) : (bytes.dropWhile (· = 0)).head? ≠ some 0 := by
    intro hhead
    have hnot := List.head?_dropWhile_not (· = (0 : UInt8)) bytes
    rw [hhead] at hnot
    simp at hnot
  have hbytes : bytes.dropWhile (· = 0) = bytes'.dropWhile (· = 0) := by
    apply bigEndian_inj (hrest bytes) (hrest bytes')
    rw [← bigEndian_replicate_append (bytes.takeWhile (· = 0)).length,
      ← eq_replicate_append_dropWhile, hvalue,
      ← bigEndian_replicate_append (bytes'.takeWhile (· = 0)).length (bytes'.dropWhile (· = 0)),
      ← eq_replicate_append_dropWhile]
  rw [eq_replicate_append_dropWhile bytes, eq_replicate_append_dropWhile bytes', hrun, hbytes]

end Encoding
