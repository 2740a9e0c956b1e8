import ODataClient.Proofs.Time.WordTime
import ODataClient.Transport.Retry

/-! # Delays between retries

The delay doubles with every retry until the factor no longer fits 32 bits; the largest word takes its
place from there on, and no delay is longer than the longest duration. Both limits are met by work on
words, and nothing else in this work can go wrong.

* **`RetryPolicy.wordDelay`** — the delay before a retry, worked out on words.
* **`RetryPolicy.delay_eq_min`**, **`RetryPolicy.delay_mono`** — the delay with both limits as minima, and
  its growth.
* **`RetryPolicy.delay_on_words`** — the law of delays: the work on words ends with the delay of the policy,
  which is the doubled base delay within the limits, and grows with the retry and the base delay. -/

namespace ODataClient.RetryPolicy

/-- The delay before a retry, worked out on words. -/
def wordDelay (base : WordTime) (retry : BitVec 32) : Except WordFault WordTime :=
  base.saturatingMultiple (Word.saturatingPower (2 : BitVec 32) retry.toNat)

variable {policy other : RetryPolicy} {retry later : Nat}

/-! ## Factors -/

/-- The factor is a power of two or the largest word. -/
theorem factor_eq_min (retry : Nat) : factor retry = min (2 ^ retry) (2 ^ 32 - 1) := by
  by_cases small : retry < 32
  · have fits : 2 ^ retry ≤ 2 ^ 32 - 1 := by
      calc 2 ^ retry ≤ 2 ^ 31 := Nat.pow_le_pow_right (by decide) (Nat.le_of_lt_succ small)
        _ ≤ 2 ^ 32 - 1 := by decide
    rw [factor, if_pos small, Nat.min_eq_left fits]
    rfl
  · have large : 2 ^ 32 - 1 ≤ 2 ^ retry := by
      calc 2 ^ 32 - 1 ≤ 2 ^ 32 := Nat.sub_le _ _
        _ ≤ 2 ^ retry := Nat.pow_le_pow_right (by decide) (Nat.le_of_not_lt small)
    rw [factor, if_neg small, Nat.min_eq_right large]
    rfl

/-- The factor on words is that of the policy. -/
theorem toNat_saturatingPower_two (retry : Nat) :
    (Word.saturatingPower (2 : BitVec 32) retry).toNat = factor retry := by
  rw [Word.toNat_saturatingPower _ _ (by decide), factor_eq_min]
  rfl

theorem factor_mono (behind : retry ≤ later) : factor retry ≤ factor later := by
  rw [factor_eq_min, factor_eq_min]
  have larger : 2 ^ retry ≤ 2 ^ later := Nat.pow_le_pow_right (by decide) behind
  omega

/-! ## Delays -/

/-- The delay with both limits. -/
theorem delay_eq_min (policy : RetryPolicy) (retry : Nat) :
    policy.delay retry =
      min (policy.baseDelay * min (2 ^ retry) (2 ^ 32 - 1)) Duration.longest := by
  rw [delay, Duration.saturatingMul, factor_eq_min]

/-- Below the limits the delay is the doubled base delay. -/
theorem delay_of_le (small : retry ≤ 31) (fits : policy.baseDelay * 2 ^ retry ≤ Duration.longest) :
    policy.delay retry = policy.baseDelay * 2 ^ retry := by
  have isFactor : factor retry = 2 ^ retry := if_pos (Nat.lt_succ_of_le small)
  rw [delay, Duration.saturatingMul, isFactor, Nat.min_eq_left fits]

/-- **The delay grows** with the retry and with the base delay. -/
theorem delay_mono (longer : policy.baseDelay ≤ other.baseDelay) (behind : retry ≤ later) :
    policy.delay retry ≤ other.delay later := by
  have product : policy.baseDelay * factor retry ≤ other.baseDelay * factor later :=
    Nat.mul_le_mul longer (factor_mono behind)
  exact Nat.le_min.mpr ⟨Nat.le_trans (Nat.min_le_left _ _) product, Nat.min_le_right _ _⟩

/-- **Delays on words.** For a base delay on words, the work on words ends without a fault, and with the
delay of the policy. This is the base delay times a power of two, with the factor cut off at the largest
word and the product at the longest duration. It is the plain product up to 31 retries, as long as that is
not too long, and it grows with the retry and with the base delay. -/
theorem delay_on_words (policy : RetryPolicy) (base : WordTime) (retry : BitVec 32)
    (isBase : base.duration = policy.baseDelay) :
    (∃ delay, wordDelay base retry = .ok delay ∧ delay.duration = policy.delay retry.toNat) ∧
      policy.delay retry.toNat =
        min (policy.baseDelay * min (2 ^ retry.toNat) (2 ^ 32 - 1)) Duration.longest ∧
      (retry.toNat ≤ 31 → policy.baseDelay * 2 ^ retry.toNat ≤ Duration.longest →
        policy.delay retry.toNat = policy.baseDelay * 2 ^ retry.toNat) ∧
      ∀ (other : RetryPolicy) (longer : WordTime) (later : BitVec 32),
        longer.duration = other.baseDelay → base ≤ longer → retry ≤ later →
        policy.delay retry.toNat ≤ other.delay later.toNat := by
  refine ⟨?_, delay_eq_min policy retry.toNat, delay_of_le, ?_⟩
  · obtain ⟨delay, worked, isMultiple⟩ :=
      base.exists_saturatingMultiple (Word.saturatingPower (2 : BitVec 32) retry.toNat)
    refine ⟨delay, worked, ?_⟩
    rw [isMultiple, toNat_saturatingPower_two, isBase, RetryPolicy.delay]
  · intro other longer later isLonger grows behind
    refine delay_mono ?_ behind
    rw [← isBase, ← isLonger]
    exact WordTime.le_iff.mp grows

/-- A nanosecond less than `2 ^ 33` seconds. -/
def nearLimit : WordTime := { WordTime.longest with seconds := 8589934591 }

/-- The last delay that is not cut off ends two seconds before the longest duration, and the next one is
the longest duration. -/
theorem delay_on_words_near_the_limits :
    (∃ delay, wordDelay nearLimit 31 = .ok delay ∧
        delay.duration = nearLimit.duration * 2 ^ 31) ∧
      nearLimit.duration * 2 ^ 31 ≤ Duration.longest ∧
      (∃ delay, wordDelay nearLimit 32 = .ok delay ∧ delay.duration = Duration.longest) ∧
      (⟨1, nearLimit.duration, true, true, true⟩ : RetryPolicy).delay 31 ≤
        (⟨2, nearLimit.duration, true, true, true⟩ : RetryPolicy).delay 32 := by
  have fits : nearLimit.duration * 2 ^ 31 ≤ Duration.longest := by decide
  have cut : min (nearLimit.duration * min (2 ^ 32) (2 ^ 32 - 1)) Duration.longest = Duration.longest := by
    decide
  obtain ⟨⟨first, worked, isFirst⟩, -, exact, grows⟩ :=
    delay_on_words ⟨1, nearLimit.duration, true, true, true⟩ nearLimit 31 rfl
  obtain ⟨⟨second, workedToo, isSecond⟩, limited, -, -⟩ :=
    delay_on_words ⟨2, nearLimit.duration, true, true, true⟩ nearLimit 32 rfl
  refine ⟨⟨first, worked, isFirst.trans (exact (by decide) fits)⟩, fits,
    ⟨second, workedToo, isSecond.trans (limited.trans cut)⟩, ?_⟩
  exact grows _ nearLimit 32 rfl (WordTime.le_iff.mpr (Nat.le_refl _)) (by decide)

end ODataClient.RetryPolicy
