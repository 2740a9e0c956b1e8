import Mathlib.Algebra.Group.Nat.Defs
import ODataClient.Time.Duration

/-! # Durations on words

A duration is held in two words: its whole seconds in 64 bits, and the nanoseconds beyond them in 32
bits. A multiple of it is worked out word by word. A word that is too small for a result is noticed where
the work looks for it, and the multiple is then cut off; elsewhere it is a fault, and there is no multiple.
Here this work is compared with arithmetic on whole nanoseconds.

* **`Word.ofNat?`** — numbers that fit a word. `Word.product?_eq`, `Word.sum?_eq` and `Word.power?_eq` say
  that products, sums and powers of words are those of their numbers as long as these fit.
* **`WordTime`** — a duration on words, ordered by seconds and then by nanoseconds; `WordTime.le_iff` says
  that this is the order of durations.
* **`WordTime.exists_saturatingMultiple`** — there is no fault, and the multiple on words is the multiple of
  the duration, cut off at the longest one. -/

namespace ODataClient

/-! ## Words -/

namespace Word

variable {width : Nat}

/-- A number as a word, if it fits. -/
def ofNat? (width value : Nat) : Option (BitVec width) :=
  if value < 2 ^ width then some (.ofNat width value) else none

/-- The product of two words, if it fits a word. -/
def product? (left right : BitVec width) : Option (BitVec width) :=
  if left.umulOverflow right then none else some (left * right)

/-- The sum of two words, if it fits a word. -/
def sum? (left right : BitVec width) : Option (BitVec width) :=
  if left.uaddOverflow right then none else some (left + right)

/-- A power of a word with a factor in front, by repeated squaring. The last bit of the exponent needs no
square any more. -/
def powerBehind? (factor base : BitVec width) (exponent : Nat) : Option (BitVec width) :=
  if exponent = 0 then some factor
  else
    (if exponent % 2 = 1 then product? factor base else some factor).bind fun next =>
      if exponent = 1 then some next
      else (product? base base).bind fun square => powerBehind? next square (exponent / 2)
termination_by exponent
decreasing_by omega

/-- A power of a word, if it fits a word. -/
def power? (base : BitVec width) (exponent : Nat) : Option (BitVec width) :=
  powerBehind? (.ofNat width 1) base exponent

/-- A power of a word, cut off at the largest word. -/
def saturatingPower (base : BitVec width) (exponent : Nat) : BitVec width :=
  (power? base exponent).getD (.allOnes width)

/-! ## Numbers that fit -/

theorem ofNat?_of_lt {value : Nat} (fits : value < 2 ^ width) :
    ofNat? width value = some (.ofNat width value) := if_pos fits

theorem ofNat?_of_le {value : Nat} (large : 2 ^ width ≤ value) : ofNat? width value = none :=
  if_neg (Nat.not_lt.mpr large)

@[simp] theorem ofNat?_toNat (word : BitVec width) : ofNat? width word.toNat = some word := by
  rw [ofNat?_of_lt word.isLt, BitVec.ofNat_toNat, BitVec.setWidth_eq]

theorem toNat_of_ofNat? {value : Nat} {word : BitVec width} (held : ofNat? width value = some word) :
    word.toNat = value := by
  obtain ⟨fits, same⟩ := Option.ite_none_right_eq_some.mp held
  rw [← Option.some.inj same, BitVec.toNat_ofNat, Nat.mod_eq_of_lt fits]

theorem product?_eq (left right : BitVec width) :
    product? left right = ofNat? width (left.toNat * right.toNat) := by
  have overflow : left.umulOverflow right = decide (2 ^ width ≤ left.toNat * right.toNat) := rfl
  rw [product?, overflow]
  by_cases large : 2 ^ width ≤ left.toNat * right.toNat
  · rw [if_pos (decide_eq_true large), ofNat?_of_le large]
  · rw [if_neg (mt of_decide_eq_true large), ofNat?_of_lt (Nat.lt_of_not_le large),
      BitVec.ofNat_mul, BitVec.ofNat_toNat, BitVec.ofNat_toNat, BitVec.setWidth_eq, BitVec.setWidth_eq]

theorem sum?_eq (left right : BitVec width) :
    sum? left right = ofNat? width (left.toNat + right.toNat) := by
  have overflow : left.uaddOverflow right = decide (2 ^ width ≤ left.toNat + right.toNat) := rfl
  rw [sum?, overflow]
  by_cases large : 2 ^ width ≤ left.toNat + right.toNat
  · rw [if_pos (decide_eq_true large), ofNat?_of_le large]
  · rw [if_neg (mt of_decide_eq_true large), ofNat?_of_lt (Nat.lt_of_not_le large),
      BitVec.ofNat_add, BitVec.ofNat_toNat, BitVec.ofNat_toNat, BitVec.setWidth_eq, BitVec.setWidth_eq]

/-- Squaring the base halves the exponent. -/
theorem mul_pow_halved (factor base exponent : Nat) :
    factor * base ^ (exponent % 2) * (base * base) ^ (exponent / 2) = factor * base ^ exponent := by
  rw [← Nat.pow_two, ← Nat.pow_mul, Nat.mul_assoc, ← Nat.pow_add, Nat.mod_add_div]

/-- **Repeated squaring** gives the power if it fits, and nothing otherwise. -/
theorem powerBehind?_eq (factor base : BitVec width) (exponent : Nat)
    (filled : 0 < factor.toNat) (positive : 0 < base.toNat) :
    powerBehind? factor base exponent = ofNat? width (factor.toNat * base.toNat ^ exponent) := by
  induction exponent using Nat.strongRecOn generalizing factor base with
  | ind exponent ih =>
    rw [powerBehind?]
    by_cases zero : exponent = 0
    · rw [if_pos zero, zero, Nat.pow_zero, Nat.mul_one, ofNat?_toNat]
    have bit : (if exponent % 2 = 1 then product? factor base else some factor) =
        ofNat? width (factor.toNat * base.toNat ^ (exponent % 2)) := by
      rcases Nat.mod_two_eq_zero_or_one exponent with even | odd
      · rw [even, if_neg (by decide), Nat.pow_zero, Nat.mul_one, ofNat?_toNat]
      · rw [odd, if_pos rfl, Nat.pow_one, product?_eq]
    rw [if_neg zero, bit]
    -- A product may not fit in two places, here and at the square; then the power does not fit either.
    by_cases fits : factor.toNat * base.toNat ^ (exponent % 2) < 2 ^ width
    · obtain ⟨next, held⟩ : ∃ next, ofNat? width (factor.toNat * base.toNat ^ (exponent % 2)) = some next :=
        ⟨_, ofNat?_of_lt fits⟩
      have isNext := toNat_of_ofNat? held
      rw [held, Option.bind_some]
      -- Here the square is left out. It may be too large where the power itself is not.
      by_cases last : exponent = 1
      · rw [if_pos last, ← held, last]
      rw [if_neg last, product?_eq]
      by_cases squareFits : base.toNat * base.toNat < 2 ^ width
      · obtain ⟨square, squared⟩ : ∃ square, ofNat? width (base.toNat * base.toNat) = some square :=
          ⟨_, ofNat?_of_lt squareFits⟩
        have isSquare := toNat_of_ofNat? squared
        have half : exponent / 2 < exponent := Nat.div_lt_self (Nat.pos_of_ne_zero zero) (by decide)
        rw [squared, Option.bind_some, ih _ half, isNext, isSquare, mul_pow_halved]
        · rw [isNext]
          exact Nat.mul_pos filled (Nat.pow_pos positive)
        · rw [isSquare]
          exact Nat.mul_pos positive positive
      · have large : 2 ^ width ≤ factor.toNat * base.toNat ^ exponent := by
          calc 2 ^ width ≤ base.toNat ^ 2 := by rw [Nat.pow_two]; exact Nat.le_of_not_lt squareFits
            _ ≤ base.toNat ^ exponent := Nat.pow_le_pow_right positive (by omega)
            _ ≤ factor.toNat * base.toNat ^ exponent := Nat.le_mul_of_pos_left _ filled
        rw [ofNat?_of_le (Nat.le_of_not_lt squareFits), ofNat?_of_le large]
        rfl
    · have large : 2 ^ width ≤ factor.toNat * base.toNat ^ exponent :=
        Nat.le_trans (Nat.le_of_not_lt fits)
          (Nat.mul_le_mul_left _ (Nat.pow_le_pow_right positive (Nat.mod_le _ _)))
      rw [ofNat?_of_le (Nat.le_of_not_lt fits), ofNat?_of_le large]
      rfl

theorem power?_eq (base : BitVec width) (exponent : Nat) (positive : 0 < base.toNat) :
    power? base exponent = ofNat? width (base.toNat ^ exponent) := by
  have one : (BitVec.ofNat width 1).toNat = 1 := by
    rw [BitVec.toNat_ofNat, Nat.mod_eq_of_lt (Nat.lt_of_le_of_lt positive base.isLt)]
  rw [power?, powerBehind?_eq _ _ _ (by rw [one]; decide) positive, one, Nat.one_mul]

theorem toNat_saturatingPower (base : BitVec width) (exponent : Nat) (positive : 0 < base.toNat) :
    (saturatingPower base exponent).toNat = min (base.toNat ^ exponent) (2 ^ width - 1) := by
  rw [saturatingPower, power?_eq base exponent positive]
  by_cases fits : base.toNat ^ exponent < 2 ^ width
  · obtain ⟨word, held⟩ : ∃ word, ofNat? width (base.toNat ^ exponent) = some word :=
      ⟨_, ofNat?_of_lt fits⟩
    rw [held, Option.getD_some, toNat_of_ofNat? held, Nat.min_eq_left (Nat.le_sub_one_of_lt fits)]
  · have large := Nat.le_of_not_lt fits
    rw [ofNat?_of_le large, Option.getD_none, BitVec.toNat_allOnes,
      Nat.min_eq_right (Nat.le_trans (Nat.sub_le _ _) large)]

/-- A product with a word added to it fits if its value does. -/
theorem product?_bind_sum? (left right added : BitVec width) :
    ((product? left right).bind fun product => sum? product added) =
      ofNat? width (left.toNat * right.toNat + added.toNat) := by
  rw [product?_eq]
  by_cases fits : left.toNat * right.toNat < 2 ^ width
  · have held := ofNat?_of_lt fits
    rw [held, Option.bind_some, sum?_eq, toNat_of_ofNat? held]
  · have large := Nat.le_of_not_lt fits
    rw [ofNat?_of_le large, ofNat?_of_le (Nat.le_add_right_of_le large)]
    rfl

end Word

/-! ## Durations on words -/

/-- A duration on words. -/
structure WordTime where
  /-- The whole seconds. -/
  seconds : BitVec 64
  /-- The nanoseconds beyond them. -/
  nanos : BitVec 32
  /-- They are less than a second. -/
  nanos_lt : nanos.toNat < Duration.perSecond
deriving DecidableEq, Repr

/-- What stops work on words that does not look whether a result fits. -/
inductive WordFault
  /-- A product does not fit its word. -/
  | productTooLarge
  /-- The nanoseconds beyond whole seconds are a second or more. -/
  | nanosTooLarge
deriving DecidableEq, Repr

namespace WordTime

/-- The duration in nanoseconds. -/
def duration (time : WordTime) : Duration :=
  time.seconds.toNat * Duration.perSecond + time.nanos.toNat

/-- The longest duration. -/
def longest : WordTime := ⟨.allOnes 64, 999999999, by decide⟩

/-- Durations on words are ordered by their seconds and then by their nanoseconds. -/
instance : LE WordTime :=
  ⟨fun left right =>
    left.seconds < right.seconds ∨ left.seconds = right.seconds ∧ left.nanos ≤ right.nanos⟩

/-- A duration of seconds and nanoseconds. -/
def ofParts (seconds : BitVec 64) (nanos : BitVec 32) : Except WordFault WordTime :=
  if nanos_lt : nanos.toNat < Duration.perSecond then .ok ⟨seconds, nanos, nanos_lt⟩
  else .error .nanosTooLarge

/-- The product of two words of 32 bits in 64 bits, where nobody looks whether it fits. -/
def wideProduct (left right : BitVec 32) : Except WordFault (BitVec 64) :=
  match Word.product? (left.setWidth 64) (right.setWidth 64) with
  | some product => .ok product
  | none => .error .productTooLarge

/-- The nanoseconds in one second. -/
def perSecond : BitVec 64 := 1000000000

/-- A duration of seconds and nanoseconds; none if there are too many seconds. -/
def ofSeconds? (nanos : BitVec 32) : Option (BitVec 64) → Except WordFault (Option WordTime)
  | some seconds => (ofParts seconds nanos).map some
  | none => .ok none

/-- A multiple of a duration; none if there are too many seconds. The nanoseconds are multiplied first,
and full seconds of them are carried. -/
def multiple? (time : WordTime) (factor : BitVec 32) : Except WordFault (Option WordTime) := do
  let nanos ← wideProduct time.nanos factor
  let seconds := (Word.product? time.seconds (factor.setWidth 64)).bind fun seconds =>
    Word.sum? seconds (nanos / perSecond)
  ofSeconds? ((nanos % perSecond).setWidth 32) seconds

/-- A multiple of a duration, cut off at the longest one. -/
def saturatingMultiple (time : WordTime) (factor : BitVec 32) : Except WordFault WordTime := do
  return (← time.multiple? factor).getD longest

/-! ## Whole nanoseconds -/

theorem duration_longest : longest.duration = Duration.longest := by decide

/-- A number of seconds fits 64 bits if no duration with so many seconds is too long. -/
theorem seconds_lt_iff {seconds nanos : Nat} (part : nanos < Duration.perSecond) :
    seconds < 2 ^ 64 ↔ seconds * Duration.perSecond + nanos ≤ Duration.longest := by
  have limit : Duration.longest = 18446744073709551615999999999 := rfl
  rw [limit]
  unfold Duration.perSecond at part ⊢
  omega

/-- **The order of durations on words** is the order of durations. -/
theorem le_iff {left right : WordTime} : left ≤ right ↔ left.duration ≤ right.duration := by
  have onWords : left ≤ right ↔ left.seconds.toNat < right.seconds.toNat ∨
      left.seconds.toNat = right.seconds.toNat ∧ left.nanos.toNat ≤ right.nanos.toNat := by
    rw [BitVec.toNat_inj]
    exact Iff.rfl
  have whole : left.duration ≤ right.duration ↔
      left.seconds.toNat * 1000000000 + left.nanos.toNat ≤
        right.seconds.toNat * 1000000000 + right.nanos.toNat := Iff.rfl
  have leftPart : left.nanos.toNat < 1000000000 := left.nanos_lt
  have rightPart : right.nanos.toNat < 1000000000 := right.nanos_lt
  rw [onWords, whole]
  omega

theorem toNat_setWidth_64 (word : BitVec 32) : (word.setWidth 64).toNat = word.toNat :=
  BitVec.toNat_setWidth_of_le (by decide)

/-- Nanoseconds beyond whole seconds can be multiplied in 64 bits. -/
theorem exists_wideProduct (time : WordTime) (factor : BitVec 32) :
    ∃ product, wideProduct time.nanos factor = .ok product ∧
      product.toNat = time.nanos.toNat * factor.toNat := by
  have fits : time.nanos.toNat * factor.toNat < 2 ^ 64 := by
    calc time.nanos.toNat * factor.toNat
        ≤ Duration.perSecond * 2 ^ 32 :=
          Nat.mul_le_mul (Nat.le_of_lt time.nanos_lt) (Nat.le_of_lt factor.isLt)
      _ < 2 ^ 64 := by decide
  have held := Word.ofNat?_of_lt fits
  refine ⟨_, ?_, Word.toNat_of_ofNat? held⟩
  rw [wideProduct, Word.product?_eq, toNat_setWidth_64, toNat_setWidth_64, held]

/-- Full seconds of the multiplied nanoseconds are carried. -/
theorem duration_mul (time : WordTime) (factor : Nat) :
    time.duration * factor =
      (time.seconds.toNat * factor + time.nanos.toNat * factor / Duration.perSecond) *
        Duration.perSecond + time.nanos.toNat * factor % Duration.perSecond := by
  rw [duration, Nat.add_mul, Nat.add_mul, Nat.add_assoc, Nat.mul_right_comm, Nat.div_add_mod']

/-- A duration of a number of seconds and a fraction is there exactly if it is not too long. -/
theorem exists_ofSeconds? {seconds : Nat} {nanos : BitVec 32}
    (part : nanos.toNat < Duration.perSecond) :
    ∃ time, ofSeconds? nanos (Word.ofNat? 64 seconds) = .ok time ∧
      time.map duration =
        if seconds * Duration.perSecond + nanos.toNat ≤ Duration.longest then
          some (seconds * Duration.perSecond + nanos.toNat)
        else none := by
  by_cases fits : seconds < 2 ^ 64
  · have held := Word.ofNat?_of_lt fits
    rw [held, if_pos ((seconds_lt_iff part).mp fits)]
    refine ⟨some ⟨.ofNat 64 seconds, nanos, part⟩, ?_, ?_⟩
    · rw [ofSeconds?, ofParts, dif_pos part]
      rfl
    · rw [Option.map_some, duration, Word.toNat_of_ofNat? held]
  · rw [Word.ofNat?_of_le (Nat.le_of_not_lt fits), if_neg (mt (seconds_lt_iff part).mpr fits)]
    exact ⟨none, rfl, rfl⟩

/-- **A multiple on words** is worked out without a fault, and there is one exactly if the multiple of the
duration is not too long. -/
theorem exists_multiple? (time : WordTime) (factor : BitVec 32) :
    ∃ multiple, time.multiple? factor = .ok multiple ∧
      multiple.map duration =
        if time.duration * factor.toNat ≤ Duration.longest then some (time.duration * factor.toNat)
        else none := by
  obtain ⟨nanos, multiplied, isProduct⟩ := time.exists_wideProduct factor
  -- The words are moved to numbers one by one; what is left is `exists_ofSeconds?`.
  have isSecond : perSecond.toNat = Duration.perSecond := rfl
  have part : time.nanos.toNat * factor.toNat % Duration.perSecond < Duration.perSecond :=
    Nat.mod_lt _ (by decide)
  have rest : ((nanos % perSecond).setWidth 32).toNat =
      time.nanos.toNat * factor.toNat % Duration.perSecond := by
    rw [BitVec.toNat_setWidth, BitVec.toNat_umod, isProduct, isSecond,
      Nat.mod_eq_of_lt (Nat.lt_trans part (by decide))]
  have seconds : ((Word.product? time.seconds (factor.setWidth 64)).bind fun seconds =>
      Word.sum? seconds (nanos / perSecond)) =
      Word.ofNat? 64 (time.seconds.toNat * factor.toNat +
        time.nanos.toNat * factor.toNat / Duration.perSecond) := by
    rw [Word.product?_bind_sum?, toNat_setWidth_64, BitVec.toNat_udiv, isProduct, isSecond]
  have worked : time.multiple? factor = ofSeconds? ((nanos % perSecond).setWidth 32)
      (Word.ofNat? 64 (time.seconds.toNat * factor.toNat +
        time.nanos.toNat * factor.toNat / Duration.perSecond)) := by
    rw [multiple?, multiplied, ← seconds]
    rfl
  rw [worked, duration_mul, ← rest]
  exact exists_ofSeconds? (rest ▸ part)

/-- **The multiple on words, cut off at the longest duration**, is worked out without a fault and is the
multiple of the duration. -/
theorem exists_saturatingMultiple (time : WordTime) (factor : BitVec 32) :
    ∃ multiple, time.saturatingMultiple factor = .ok multiple ∧
      multiple.duration = Duration.saturatingMul time.duration factor.toNat := by
  obtain ⟨multiple, worked, isMultiple⟩ := time.exists_multiple? factor
  refine ⟨multiple.getD longest, ?_, ?_⟩
  · rw [saturatingMultiple, worked]
    rfl
  · rw [Duration.saturatingMul]
    split at isMultiple
    · rename_i fits
      obtain ⟨_, rfl, same⟩ := Option.map_eq_some_iff.mp isMultiple
      rw [Option.getD_some, same, Nat.min_eq_left fits]
    · rename_i large
      rw [Option.map_eq_none_iff.mp isMultiple, Option.getD_none, duration_longest,
        Nat.min_eq_right (Nat.le_of_not_le large)]

end WordTime

end ODataClient
