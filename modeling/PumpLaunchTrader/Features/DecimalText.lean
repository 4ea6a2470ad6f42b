import PumpLaunchTrader.Model.Math
import PumpLaunchTrader.Lib.Lines
import PumpLaunchTrader.Lib.Digits

/-! # The text of a decimal

A value with at most 28 digits after the point is determined by its text, which is made of
digits, a point and a sign. -/

namespace PumpLaunchTrader

namespace Decimal

/-- A value that a decimal represents: it has at most 28 digits after the point. -/
def Representable (x : Decimal) : Prop := ∃ n : ℤ, x * 10 ^ maxScale = n

/-- A character of the text of a decimal. -/
def IsTextChar (c : Char) : Prop := c.isDigit = true ∨ c = '.' ∨ c = '-'

instance : DecidablePred IsTextChar := fun c =>
  inferInstanceAs (Decidable (c.isDigit = true ∨ c = '.' ∨ c = '-'))

/-- The absolute value in units of the smallest digit. -/
def scaled (x : Decimal) : ℕ := (|x| * 10 ^ maxScale).floor.toNat

/-- The part of a text from the point on. -/
def fractionText (fraction : ℕ) : String :=
  if fraction = 0 then "" else "." ++ trimFraction (padFraction (toString fraction))

theorem display_eq (x : Decimal) :
    display x = (if x < 0 then "-" else "") ++ toString (scaled x / 10 ^ maxScale) ++
      fractionText (scaled x % 10 ^ maxScale) := rfl

theorem abs_eq_scaled {x : Decimal} (h : Representable x) :
    |x| = scaled x / 10 ^ maxScale := by
  obtain ⟨n, hn⟩ := h
  have hpow : (0 : ℚ) < 10 ^ maxScale := by norm_num [maxScale]
  have habs : |x| * 10 ^ maxScale = (n.natAbs : ℚ) := by
    have hmul : |x| * 10 ^ maxScale = |x * 10 ^ maxScale| := by
      rw [abs_mul x, abs_of_pos hpow]
    rw [hmul, hn, Nat.cast_natAbs, Int.cast_abs]
  have hscaled : scaled x = n.natAbs := by
    unfold scaled
    rw [habs, ← Int.cast_natCast, Rat.floor_intCast, Int.toNat_natCast]
  rw [hscaled, ← habs, mul_div_cancel_right₀ _ hpow.ne']

/-! ## The digits after the point -/

theorem isDigit_of_mem_toString {n : ℕ} {c : Char} (h : c ∈ (toString n).toList) :
    c.isDigit = true := by
  rw [Digits.toList_toString] at h
  exact Digits.isDigit_of_mem h

/-- Trailing zeros can be put back once the length is known. -/
theorem toList_trimFraction_append (digits : String) :
    (trimFraction digits).toList ++
      List.replicate (digits.toList.length - (trimFraction digits).toList.length) '0' =
        digits.toList := by
  unfold trimFraction
  rw [String.toList_ofList]
  have hsplit := List.takeWhile_append_dropWhile (p := (· = '0')) (l := digits.toList.reverse)
  generalize hkept : digits.toList.reverse.dropWhile (· = '0') = kept at hsplit ⊢
  generalize hcut : digits.toList.reverse.takeWhile (· = '0') = cut at hsplit
  have hzeros : cut = List.replicate cut.length '0' :=
    List.eq_replicate_of_mem fun c hc => by
      rw [← hcut] at hc
      simpa using List.mem_takeWhile_imp hc
  have hdigits : digits.toList = kept.reverse ++ cut.reverse := by
    rw [← List.reverse_append, hsplit, List.reverse_reverse]
  rw [hdigits, List.length_append, List.length_reverse, List.length_reverse,
    Nat.add_sub_cancel_left]
  nth_rewrite 2 [hzeros]
  rw [List.reverse_replicate]

theorem trimFraction_injective {digits digits' : String}
    (hlength : digits.toList.length = digits'.toList.length)
    (h : trimFraction digits = trimFraction digits') : digits = digits' := by
  rw [String.ext_iff, ← toList_trimFraction_append digits,
    ← toList_trimFraction_append digits', h, hlength]

theorem toList_padFraction (fraction : ℕ) :
    (padFraction (toString fraction)).toList = Digits.padded maxScale fraction :=
  Digits.toList_pad maxScale fraction

theorem toList_fractionText {fraction : ℕ} (h : fraction ≠ 0) :
    (fractionText fraction).toList =
      '.' :: (trimFraction (padFraction (toString fraction))).toList := by
  unfold fractionText
  rw [if_neg h, String.toList_append]
  rfl

theorem fractionText_startsOutside (fraction : ℕ) :
    Delimited.StartsOutside (·.isDigit = true) (fractionText fraction).toList := by
  by_cases h : fraction = 0
  · intro c hc
    rw [h] at hc
    exact absurd hc (by simp [fractionText])
  · intro c hc
    rw [toList_fractionText h, List.head?_cons, Option.mem_some_iff] at hc
    rw [← hc]
    decide

theorem fractionText_injective {m n : ℕ} (hm : m < 10 ^ maxScale) (hn : n < 10 ^ maxScale)
    (h : fractionText m = fractionText n) : m = n := by
  rw [String.ext_iff] at h
  by_cases hzero : m = 0
  · by_cases hzero' : n = 0
    · rw [hzero, hzero']
    · rw [hzero, toList_fractionText hzero'] at h
      exact absurd h (by simp [fractionText])
  · by_cases hzero' : n = 0
    · rw [hzero', toList_fractionText hzero] at h
      exact absurd h (by simp [fractionText])
    · rw [toList_fractionText hzero, toList_fractionText hzero', List.cons.injEq] at h
      have hpad := trimFraction_injective
        (by rw [toList_padFraction, toList_padFraction, Digits.length_padded (by decide) hm,
          Digits.length_padded (by decide) hn]) (String.ext_iff.mpr h.2)
      apply Digits.padded_injective
      rw [← toList_padFraction, hpad, toList_padFraction]

/-- Behind the sign there is no other. -/
theorem magnitude_startsOutside (whole fraction : ℕ) : Delimited.StartsOutside (· = '-')
    ((toString whole).toList ++ (fractionText fraction).toList) := by
  have hne : (toString whole).toList ≠ [] := by
    rw [Digits.toList_toString]
    exact Nat.toDigits_ne_nil
  apply Delimited.StartsOutside.append _ hne
  intro c hc hminus
  have hdigit := isDigit_of_mem_toString (List.mem_of_mem_head? hc)
  rw [hminus] at hdigit
  exact absurd hdigit (by decide)

/-! ## The text -/

theorem toList_display (x : Decimal) : (display x).toList =
    (if x < 0 then ['-'] else []) ++ ((toString (scaled x / 10 ^ maxScale)).toList ++
      (fractionText (scaled x % 10 ^ maxScale)).toList) := by
  rw [display_eq, String.toList_append, String.toList_append, List.append_assoc]
  split <;> rfl

theorem isTextChar_of_mem_display {x : Decimal} {c : Char} (h : c ∈ (display x).toList) :
    IsTextChar c := by
  rw [toList_display, List.mem_append, List.mem_append] at h
  rcases h with h | h | h
  · split at h
    · exact Or.inr (Or.inr (List.mem_singleton.mp h))
    · exact absurd h List.not_mem_nil
  · exact Or.inl (isDigit_of_mem_toString h)
  · by_cases hzero : scaled x % 10 ^ maxScale = 0
    · rw [hzero] at h
      exact absurd h (by simp [fractionText])
    · rw [toList_fractionText hzero, List.mem_cons] at h
      rcases h with h | h
      · exact Or.inr (Or.inl h)
      · left
        have hpadded : c ∈ (padFraction (toString (scaled x % 10 ^ maxScale))).toList := by
          rw [← toList_trimFraction_append]
          exact List.mem_append_left _ h
        rw [toList_padFraction] at hpadded
        exact Digits.isDigit_of_mem_padded hpadded

theorem display_injective {x y : Decimal} (hx : Representable x) (hy : Representable y)
    (h : display x = display y) : x = y := by
  have hpow : 0 < 10 ^ maxScale := Nat.pow_pos (by decide)
  rw [String.ext_iff, toList_display, toList_display] at h
  have hsign : ∀ {z : Decimal}, ∀ c ∈ (if z < 0 then ['-'] else []), c = '-' := by
    intro z c hc
    split at hc
    · simpa using hc
    · simp at hc
  obtain ⟨hsigns, hrest⟩ := Delimited.append_inj_left hsign hsign
    (magnitude_startsOutside _ _) (magnitude_startsOutside _ _) h
  obtain ⟨hwhole, hfraction⟩ := Delimited.append_inj_left (fun c => isDigit_of_mem_toString)
    (fun c => isDigit_of_mem_toString) (fractionText_startsOutside _)
    (fractionText_startsOutside _) hrest
  have hscaled : scaled x = scaled y := by
    rw [Digits.toList_toString, Digits.toList_toString] at hwhole
    rw [← Nat.div_add_mod (scaled x) (10 ^ maxScale), Digits.toDigits_injective hwhole,
      fractionText_injective (Nat.mod_lt _ hpow) (Nat.mod_lt _ hpow)
        (String.ext_iff.mpr hfraction), Nat.div_add_mod]
  have habs : |x| = |y| := by rw [abs_eq_scaled hx, abs_eq_scaled hy, hscaled]
  by_cases hneg : x < 0
  · have hneg' : y < 0 := by
      by_contra hneg'
      simp [hneg, hneg'] at hsigns
    rw [abs_of_neg hneg, abs_of_neg hneg'] at habs
    exact neg_inj.mp habs
  · have hneg' : ¬ y < 0 := by
      intro hneg'
      simp [hneg, hneg'] at hsigns
    rwa [abs_of_nonneg (not_lt.mp hneg), abs_of_nonneg (not_lt.mp hneg')] at habs

end Decimal

end PumpLaunchTrader
