import Mathlib.Data.Nat.Digits.Lemmas
import Mathlib.Algebra.Order.Floor.Semifield
import Mathlib.Data.Rat.Floor

/-! # Decimal texts and numbered labels -/

/-! ## Decimal texts of natural numbers

The digits of a number determine it, also when zeros are put before them. -/

namespace Digits

theorem toList_toString (n : ℕ) : (toString n).toList = Nat.toDigits 10 n := by
  rw [Nat.toString_eq_repr, Nat.toList_repr]

theorem isDigit_of_mem {n : ℕ} {c : Char} (h : c ∈ Nat.toDigits 10 n) : c.isDigit = true :=
  Nat.isDigit_of_mem_toDigits (by decide) (by decide) h

theorem toDigits_injective {m n : ℕ} (h : Nat.toDigits 10 m = Nat.toDigits 10 n) : m = n := by
  rw [← Nat.ofDigitChars_ten_toDigits (n := m), h, Nat.ofDigitChars_ten_toDigits]

/-- A number has no more digits than its text. -/
theorem ofDigitChars_lt {digits : List Char} (h : ∀ c ∈ digits, c.isDigit = true) :
    Nat.ofDigitChars 10 digits 0 < 10 ^ digits.length := by
  induction digits with
  | nil => exact Nat.one_pos
  | cons c digits ih =>
      obtain ⟨hc, hdigits⟩ := List.forall_mem_cons.mp h
      have hrest := ih hdigits
      have hvalue : c.toNat - '0'.toNat ≤ 9 := by
        have hle : c.toNat ≤ '9'.toNat := by
          simp only [Char.isDigit, Bool.and_eq_true, decide_eq_true_eq] at hc
          exact hc.2
        have hnine : '9'.toNat = 57 := rfl
        have hzero : '0'.toNat = 48 := rfl
        omega
      rw [Nat.ofDigitChars_cons, Nat.ofDigitChars_eq_ofDigitChars_zero, List.length_cons]
      calc 10 ^ digits.length * (10 * 0 + (c.toNat - '0'.toNat)) + Nat.ofDigitChars 10 digits 0
          < 10 ^ digits.length * (10 * 0 + (c.toNat - '0'.toNat)) + 10 ^ digits.length :=
            Nat.add_lt_add_left hrest _
        _ = 10 ^ digits.length * ((c.toNat - '0'.toNat) + 1) := by ring
        _ ≤ 10 ^ digits.length * 10 := Nat.mul_le_mul_left _ (by omega)
        _ = 10 ^ (digits.length + 1) := (pow_succ _ _).symm

/-- A positive number has no leading zero. -/
theorem head?_toDigits {n : ℕ} (h : 0 < n) : (Nat.toDigits 10 n).head? ≠ some '0' := by
  induction n using Nat.strongRecOn with
  | ind n ih =>
      by_cases hsmall : n < 10
      · rw [Nat.toDigits_of_lt_base hsmall]
        interval_cases n <;> decide
      · have hdiv : 0 < n / 10 := Nat.div_pos (Nat.le_of_not_lt hsmall) (by decide)
        rw [Nat.toDigits_of_base_le (by decide) (Nat.le_of_not_lt hsmall),
          List.head?_append]
        obtain ⟨c, more, hdigits⟩ := List.exists_cons_of_ne_nil
          (Nat.toDigits_ne_nil : Nat.toDigits 10 (n / 10) ≠ [])
        have hhead := ih (n / 10) (Nat.div_lt_self h (by decide)) hdiv
        rw [hdigits] at hhead ⊢
        exact hhead

/-! ### Zeros before the digits -/

/-- The digits of a number, with zeros before them up to a width. -/
def padded (width n : ℕ) : List Char :=
  List.replicate (width - (Nat.toDigits 10 n).length) '0' ++ Nat.toDigits 10 n

theorem ofDigitChars_padded (width n : ℕ) : Nat.ofDigitChars 10 (padded width n) 0 = n := by
  unfold padded
  rw [Nat.ofDigitChars_append, Nat.ofDigitChars_replicate_zero, Nat.mul_zero,
    Nat.ofDigitChars_ten_toDigits]

theorem padded_injective {width m n : ℕ} (h : padded width m = padded width n) : m = n := by
  rw [← ofDigitChars_padded width m, h, ofDigitChars_padded]

theorem length_padded {width n : ℕ} (hwidth : 0 < width) (h : n < 10 ^ width) :
    (padded width n).length = width := by
  have hlength : (Nat.toDigits 10 n).length ≤ width :=
    (Nat.length_toDigits_le_iff (by decide) hwidth).mpr h
  simp [padded, hlength]

theorem isDigit_of_mem_padded {width n : ℕ} {c : Char} (h : c ∈ padded width n) :
    c.isDigit = true := by
  rcases List.mem_append.mp h with h | h
  · rw [List.eq_of_mem_replicate h]
    decide
  · exact isDigit_of_mem h

theorem toList_pad (width n : ℕ) :
    (String.ofList (List.replicate (width - (toString n).length) '0') ++ toString n).toList =
      padded width n := by
  unfold padded
  rw [String.toList_append, String.toList_ofList, toList_toString, ← String.length_toList,
    toList_toString]

end Digits

/-! ## Numbered labels

A label is a name, a separator and a number that is padded with zeros. The number can be
read off after the last separator, so that labels are as distinct as what they are made of. -/

namespace Labels

/-! ### Padded numbers -/

/-- The decimal digits of a number, with leading zeros up to a width that is not zero. -/
def zeroPadded (width n : ℕ) : String :=
  String.ofList (((Nat.digits 10 n).reverse.map Nat.digitChar).leftpad width '0')

theorem map_digitChar_digits {n : ℕ} (h : 0 < n) :
    (Nat.digits 10 n).reverse.map Nat.digitChar = Nat.toDigits 10 n := by
  induction n using Nat.strongRecOn with
  | ind n ih =>
      rw [Nat.digits_def' (by decide) h, List.reverse_cons, List.map_append, List.map_singleton]
      by_cases hsmall : n < 10
      · rw [Nat.toDigits_of_lt_base hsmall, Nat.div_eq_of_lt hsmall, Nat.mod_eq_of_lt hsmall,
          Nat.digits_zero]
        rfl
      · have hlarge := Nat.le_of_not_lt hsmall
        rw [ih (n / 10) (Nat.div_lt_self h (by decide)) (Nat.div_pos hlarge (by decide)),
          Nat.toDigits_of_base_le (by decide) hlarge]

theorem toList_zeroPadded {width : ℕ} (hwidth : 0 < width) (n : ℕ) :
    (zeroPadded width n).toList = Digits.padded width n := by
  rw [zeroPadded, String.toList_ofList, List.leftpad, Digits.padded]
  cases Nat.eq_zero_or_pos n with
  | inl hzero =>
      obtain ⟨width, rfl⟩ := Nat.exists_eq_succ_of_ne_zero (Nat.ne_of_gt hwidth)
      subst hzero
      simp [List.replicate_succ']
  | inr hpos => rw [map_digitChar_digits hpos]

theorem zeroPadded_inj {width n n' : ℕ} (hwidth : 0 < width)
    (h : zeroPadded width n = zeroPadded width n') : n = n' := by
  apply Digits.padded_injective
  rw [← toList_zeroPadded hwidth, h, toList_zeroPadded hwidth]

theorem isDigit_of_mem_zeroPadded {width n : ℕ} (hwidth : 0 < width) {c : Char}
    (h : c ∈ (zeroPadded width n).toList) : c.isDigit = true := by
  rw [toList_zeroPadded hwidth] at h
  exact Digits.isDigit_of_mem_padded h

/-! ### Labels -/

/-- Two lists agree before and after a symbol that neither has in what follows it. -/
theorem append_cons_inj {α : Type*} {sep : α} {before before' after after' : List α}
    (h : sep ∉ after) (h' : sep ∉ after')
    (heq : before ++ sep :: after = before' ++ sep :: after') :
    before = before' ∧ after = after' := by
  rcases List.append_eq_append_iff.mp heq with ⟨middle, hleft, hright⟩ | ⟨middle, hleft, hright⟩
  · cases middle with
    | nil =>
        rw [List.nil_append, List.cons.injEq] at hright
        exact ⟨by rw [hleft, List.append_nil], hright.2⟩
    | cons first middle =>
        rw [List.cons_append, List.cons.injEq] at hright
        exact absurd (hright.2 ▸ List.mem_append_right middle List.mem_cons_self) h
  · cases middle with
    | nil =>
        rw [List.nil_append, List.cons.injEq] at hright
        exact ⟨by rw [hleft, List.append_nil], hright.2.symm⟩
    | cons first middle =>
        rw [List.cons_append, List.cons.injEq] at hright
        exact absurd (hright.2 ▸ List.mem_append_right middle List.mem_cons_self) h'

/-- Two lists agree before and after a symbol that neither has in what precedes it. -/
theorem cons_append_inj {α : Type*} {sep : α} {before before' after after' : List α}
    (h : sep ∉ before) (h' : sep ∉ before')
    (heq : before ++ sep :: after = before' ++ sep :: after') :
    before = before' ∧ after = after' := by
  have hreverse : after.reverse ++ sep :: before.reverse =
      after'.reverse ++ sep :: before'.reverse := by
    simpa using congrArg List.reverse heq
  obtain ⟨hafter, hbefore⟩ := append_cons_inj (mt List.mem_reverse.mp h)
    (mt List.mem_reverse.mp h') hreverse
  exact ⟨List.reverse_injective hbefore, List.reverse_injective hafter⟩

/-- A label determines its name and its number. -/
theorem label_inj {name name' : String} (sep : Char) {width n n' : ℕ} (hwidth : 0 < width)
    (hsep : sep.isDigit = false)
    (h : name ++ sep.toString ++ zeroPadded width n =
      name' ++ sep.toString ++ zeroPadded width n') : name = name' ∧ n = n' := by
  have hdigits : ∀ number, sep ∉ (zeroPadded width number).toList := by
    intro number hmem
    rw [isDigit_of_mem_zeroPadded hwidth hmem] at hsep
    cases hsep
  have hchars := congrArg String.toList h
  simp only [String.toList_append, Char.toString, String.toList_singleton, List.append_assoc,
    List.singleton_append] at hchars
  obtain ⟨hname, hnumber⟩ := append_cons_inj (hdigits n) (hdigits n') hchars
  exact ⟨String.toList_injective hname,
    zeroPadded_inj hwidth (String.toList_injective hnumber)⟩

/-- Texts that end differently differ. -/
theorem append_ne_append_of_last {text text' ending ending' : String}
    (h : ending.toList ≠ []) (h' : ending'.toList ≠ [])
    (hlast : ending.toList.getLast? ≠ ending'.toList.getLast?) :
    text ++ ending ≠ text' ++ ending' := by
  intro heq
  have hchars := congrArg (fun s => s.toList.getLast?) heq
  simp only [String.toList_append, List.getLast?_append_of_ne_nil _ h,
    List.getLast?_append_of_ne_nil _ h'] at hchars
  exact hlast hchars

end Labels

/-! ## Quotients of machine words

When a number is reduced to a word before it is divided, by wrapping or by saturating, the
quotient is the one of the number itself only where nothing was reduced, or where the reduction
stays within one step of the quotient. -/

namespace WordDivision

/-- The quotient that rounds up, over the rationals. -/
theorem ceil_div_eq (n : ℕ) {d : ℕ} (hd : 0 < d) :
    ⌈(n : ℚ) / d⌉₊ = (n + (d - 1)) / d := by
  have hd' : (0 : ℚ) < d := Nat.cast_pos.mpr hd
  have hle : ∀ k, ⌈(n : ℚ) / d⌉₊ ≤ k ↔ (n + (d - 1)) / d ≤ k := by
    intro k
    rw [Nat.ceil_le, div_le_iff₀ hd', Nat.div_le_iff_le_mul_add_pred hd]
    have hcast : (n : ℚ) ≤ (k : ℚ) * d ↔ n ≤ k * d := by exact_mod_cast Iff.rfl
    rw [hcast, Nat.mul_comm d k]
    omega
  exact eq_of_forall_ge_iff hle

/-- A number that wraps at a word loses at least the word, and with it a step of the
quotient. -/
theorem mod_ceilDiv_eq_iff {word d : ℕ} (hd : 0 < d) (hword : d ≤ word) (n : ℕ) :
    (n % word + (d - 1)) / d = (n + (d - 1)) / d ↔ n < word := by
  constructor
  · intro heq
    by_contra hge
    have hlost : n % word + word ≤ n := by
      rw [Nat.mod_eq_sub_mod (Nat.le_of_not_lt hge)]
      have hle := Nat.mod_le (n - word) word
      omega
    have hless : (n % word + (d - 1)) / d + 1 ≤ (n + (d - 1)) / d := by
      rw [← Nat.add_div_right _ hd]
      exact Nat.div_le_div_right (by omega)
    omega
  · intro hlt
    rw [Nat.mod_eq_of_lt hlt]

/-- A number that saturates keeps its quotient up to the end of the last step. -/
theorem min_div_eq_iff (limit : ℕ) {d : ℕ} (hd : 0 < d) (n : ℕ) :
    min n limit / d = n / d ↔ n < (limit / d + 1) * d := by
  rw [← Nat.div_lt_iff_lt_mul hd, Nat.lt_add_one_iff]
  rcases Nat.le_total n limit with hle | hle
  · rw [Nat.min_eq_left hle]
    exact iff_of_true rfl (Nat.div_le_div_right hle)
  · rw [Nat.min_eq_right hle]
    have hmono : limit / d ≤ n / d := Nat.div_le_div_right hle
    omega

end WordDivision
