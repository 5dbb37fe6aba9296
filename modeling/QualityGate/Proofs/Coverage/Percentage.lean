import QualityGate.Coverage.Threshold
import QualityGate.Proofs.Coverage.Fault
import Mathlib.Algebra.Order.Floor.Semifield
import Mathlib.Tactic

/-!
Percentages and thresholds in machine words. Counts are words of 64 bits and thresholds words of
8 bits; a percentage is computed in words of 128 bits and brought back to 64 bits. No step of this
leaves its word, so what is decided is what exact numbers say, up to the greatest counts.

* `Counter.percentage_eq_floor`: a percentage is the floor of the exact ratio.
* `Counter.le_percentage_iff`: a threshold is reached, said without a division.
* `Counter.percentage_mono`: more covered and less missed is no smaller percentage.
* `Word.quotient?`, `Word.evaluate?`: percentage and decision in words, none if a word overflows.
* `Word.percentage?_eq_some`: no word overflows, and nothing is cut off.
* `CoverageReport.hasWordTotals_of_ofText`: the counts of a report that is read are words.
* **`ThresholdPolicy.evaluate_exact`**: the decision of every metric is exact.
-/

namespace QualityGate

/-! ### Exact percentages -/

namespace Counter

variable {c d : Counter}

/-- A percentage is the floor of the exact ratio. -/
theorem percentage_eq_floor (c : Counter) :
    c.percentage = ⌊(100 * c.covered : ℚ) / (c.missed + c.covered)⌋₊ := by
  have hratio : (100 * c.covered : ℚ) / (c.missed + c.covered) =
      ((c.covered * 100 : ℕ) : ℚ) / ((c.missed + c.covered : ℕ) : ℚ) := by
    push_cast
    ring
  rw [hratio, Nat.floor_div_eq_div]
  rfl

/-- A percentage is reached if something was measured and enough of it was covered. -/
theorem le_percentage_iff {t : ℕ} (ht : 0 < t) :
    t ≤ c.percentage ↔
      0 < c.missed + c.covered ∧ t * (c.missed + c.covered) ≤ 100 * c.covered := by
  rcases Nat.eq_zero_or_pos (c.missed + c.covered) with hzero | hpos
  · have hnone : c.percentage = 0 := by simp [percentage, hzero]
    omega
  · rw [percentage, Nat.le_div_iff_mul_le hpos, Nat.mul_comm 100, and_iff_right hpos]

/-- One hundred percent: nothing was missed, and something was covered. -/
theorem percentage_eq_hundred_iff : c.percentage = 100 ↔ c.missed = 0 ∧ 0 < c.covered := by
  have hreached := le_percentage_iff (c := c) (t := 100) (by decide)
  have hle := c.percentage_le
  constructor
  · intro h
    have := hreached.1 h.ge
    omega
  · rintro ⟨hmissed, hcovered⟩
    exact hle.antisymm (hreached.2 (by omega))

/-- More covered and less missed is no smaller percentage. -/
theorem percentage_mono (hcovered : c.covered ≤ d.covered) (hmissed : d.missed ≤ c.missed) :
    c.percentage ≤ d.percentage := by
  rcases Nat.eq_zero_or_pos c.percentage with hzero | hpos
  · omega
  -- with the rest up to one hundred the two ratios are compared without a division
  obtain ⟨k, hk⟩ := Nat.exists_eq_add_of_le c.percentage_le
  obtain ⟨hmeasured, hreached⟩ := (le_percentage_iff hpos).1 le_rfl
  have hrest : c.percentage * c.missed ≤ k * c.covered := by
    rw [hk, Nat.mul_add, Nat.add_mul] at hreached
    omega
  refine (le_percentage_iff hpos).2 ⟨?_, ?_⟩
  · by_contra hnone
    have hnone : c.covered = 0 := by omega
    simp [percentage, hnone] at hpos
  · calc c.percentage * (d.missed + d.covered)
        = c.percentage * d.missed + c.percentage * d.covered := Nat.mul_add ..
      _ ≤ c.percentage * c.missed + c.percentage * d.covered := by gcongr
      _ ≤ k * c.covered + c.percentage * d.covered := by gcongr
      _ ≤ k * d.covered + c.percentage * d.covered := by gcongr
      _ = 100 * d.covered := by rw [hk]; ring

end Counter

/-! ### Words -/

namespace Word

section Checked

variable {w : ℕ} {a b : BitVec w}

/-- The sum of two words, unless it is too large for a word. -/
def add? (a b : BitVec w) : Option (BitVec w) :=
  if a.uaddOverflow b then none else some (a + b)

/-- The product of two words, unless it is too large for a word. -/
def mul? (a b : BitVec w) : Option (BitVec w) :=
  if a.umulOverflow b then none else some (a * b)

lemma add?_eq_some (h : a.toNat + b.toNat < 2 ^ w) :
    ∃ c, add? a b = some c ∧ c.toNat = a.toNat + b.toNat := by
  refine ⟨a + b, ?_, ?_⟩
  · rw [add?, if_neg (by simpa [BitVec.uaddOverflow] using h)]
  · rw [BitVec.toNat_add, Nat.mod_eq_of_lt h]

lemma add?_eq_none (h : 2 ^ w ≤ a.toNat + b.toNat) : add? a b = none := by
  rw [add?, if_pos (by simpa [BitVec.uaddOverflow] using h)]

lemma mul?_eq_some (h : a.toNat * b.toNat < 2 ^ w) :
    ∃ c, mul? a b = some c ∧ c.toNat = a.toNat * b.toNat := by
  refine ⟨a * b, ?_, ?_⟩
  · rw [mul?, if_neg (by simpa [BitVec.umulOverflow] using h)]
  · rw [BitVec.toNat_mul, Nat.mod_eq_of_lt h]

end Checked

/-- A count as a word of 128 bits. -/
def widen (n : UInt64) : BitVec 128 := n.toBitVec.setWidth 128

/-- The count that a word of 128 bits is, unless it is too large for one. -/
def narrow? (x : BitVec 128) : Option UInt64 :=
  if x.toNat ≤ maxCount then some (UInt64.ofNat x.toNat) else none

@[simp] lemma toNat_widen (n : UInt64) : (widen n).toNat = n.toNat := by
  have := n.toNat_lt
  rw [widen, BitVec.toNat_setWidth, UInt64.toNat_toBitVec, Nat.mod_eq_of_lt (by omega)]

/-- Covered items in percent of all items, as a word of 128 bits. -/
def quotient? (missed covered : UInt64) : Option (BitVec 128) :=
  (add? (widen missed) (widen covered)).bind fun total =>
    if total = 0 then some 0 else (mul? (widen covered) 100).map fun scaled => scaled / total

/-- Covered items in percent of all items; one hundred if the quotient were no count. -/
def percentage? (missed covered : UInt64) : Option UInt64 :=
  (quotient? missed covered).map fun q => (narrow? q).getD 100

/-- All items, or the greatest count if there are more. -/
def saturatingAdd (missed covered : UInt64) : UInt64 :=
  ((add? missed.toBitVec covered.toBitVec).map UInt64.ofBitVec).getD (UInt64.ofNat maxCount)

/-- What is found about a metric. -/
structure Evaluation where
  total : UInt64
  percentage : UInt64
  passed : Bool

/-- A metric compared with a threshold. -/
def evaluate? (threshold : UInt8) (missed covered : UInt64) : Option Evaluation :=
  (percentage? missed covered).map fun percentage =>
    ⟨saturatingAdd missed covered, percentage,
      threshold == 0 || decide (threshold.toUInt64 ≤ percentage)⟩

/-- The counter with the given words. -/
def counter (m : Metric) (missed covered : UInt64) : Counter := ⟨m, missed.toNat, covered.toNat⟩

section Counts

variable (m : Metric) (missed covered : UInt64)

/-- **No word overflows** on the way to a percentage. -/
theorem quotient?_eq_some : ∃ q, quotient? missed covered = some q ∧
    q.toNat = (counter m missed covered).percentage := by
  have hm := missed.toNat_lt
  have hc := covered.toNat_lt
  obtain ⟨total, htotal, hsum⟩ := add?_eq_some (a := widen missed) (b := widen covered)
    (by simp only [toNat_widen]; omega)
  obtain ⟨scaled, hscaled, hproduct⟩ := mul?_eq_some (a := widen covered) (b := 100)
    (by rw [toNat_widen]; show _ * 100 < _; omega)
  simp only [toNat_widen] at hsum hproduct
  rw [quotient?, htotal, Option.bind_some, hscaled]
  split_ifs with hzero
  · have hnone : missed.toNat + covered.toNat = 0 := by rw [← hsum, hzero]; rfl
    exact ⟨0, rfl, by simp [counter, Counter.percentage, hnone]⟩
  · refine ⟨scaled / total, rfl, ?_⟩
    rw [BitVec.toNat_udiv, hproduct, hsum]
    rfl

/-- **A percentage is a count**, so nothing is put in its place. -/
theorem percentage?_eq_some : ∃ q n, quotient? missed covered = some q ∧ narrow? q = some n ∧
    percentage? missed covered = some n ∧ n.toNat = (counter m missed covered).percentage := by
  obtain ⟨q, hq, hvalue⟩ := quotient?_eq_some m missed covered
  have hle := (counter m missed covered).percentage_le
  have hnarrow : narrow? q = some (UInt64.ofNat q.toNat) := by
    rw [narrow?, if_pos]
    show q.toNat ≤ 2 ^ 64 - 1
    omega
  refine ⟨q, _, hq, hnarrow, ?_, ?_⟩
  · rw [percentage?, hq, Option.map_some, hnarrow, Option.getD_some]
  · rw [UInt64.toNat_ofNat_of_lt' (by show q.toNat < 2 ^ 64; omega), hvalue]

/-- The items are counted as far as they can be. -/
theorem toNat_saturatingAdd :
    (saturatingAdd missed covered).toNat = (counter m missed covered).total := by
  have htotal : (counter m missed covered).total =
      min (missed.toNat + covered.toNat) (2 ^ 64 - 1) := rfl
  rcases Nat.lt_or_ge (missed.toNat + covered.toNat) (2 ^ 64) with hlt | hge
  · obtain ⟨sum, hsum, hvalue⟩ := add?_eq_some (a := missed.toBitVec) (b := covered.toBitVec) hlt
    rw [saturatingAdd, hsum, htotal, Option.map_some, Option.getD_some, UInt64.toNat_ofBitVec,
      hvalue, UInt64.toNat_toBitVec, UInt64.toNat_toBitVec]
    omega
  · rw [saturatingAdd, add?_eq_none hge, htotal, Option.map_none, Option.getD_none]
    show 2 ^ 64 - 1 = _
    omega

/-- **A metric is evaluated in words** as it is in exact numbers. -/
theorem evaluate?_eq_some (threshold : UInt8) :
    ∃ e, evaluate? threshold missed covered = some e ∧
      e.passed = MetricResult.passed ⟨counter m missed covered, threshold.toNat⟩ ∧
      e.percentage.toNat = (counter m missed covered).percentage ∧
      e.total.toNat = (counter m missed covered).total := by
  obtain ⟨q, n, -, -, hn, hvalue⟩ := percentage?_eq_some m missed covered
  refine ⟨_, by rw [evaluate?, hn, Option.map_some], ?_, hvalue,
    toNat_saturatingAdd m missed covered⟩
  have hzero : (threshold == 0) = decide (threshold.toNat = 0) := by
    rw [beq_eq_decide, decide_eq_decide, ← UInt8.toNat_inj]
    rfl
  have hreached : (threshold.toUInt64 ≤ n) ↔
      threshold.toNat ≤ (counter m missed covered).percentage := by
    rw [UInt64.le_iff_toNat_le, UInt8.toNat_toUInt64, hvalue]
  show (threshold == 0 || decide (threshold.toUInt64 ≤ n)) = _
  rw [hzero, decide_eq_decide.2 hreached]
  rfl

end Counts

end Word

/-! ### Reports -/

namespace Counter

/-- The counts fit in words. -/
def IsWord (c : Counter) : Prop := c.missed ≤ maxCount ∧ c.covered ≤ maxCount

instance (c : Counter) : Decidable c.IsWord := inferInstanceAs (Decidable (_ ∧ _))

/-- A counter that fits in words is the counter of these words. -/
lemma IsWord.counter_ofNat {c : Counter} (h : c.IsWord) :
    Word.counter c.metric (.ofNat c.missed) (.ofNat c.covered) = c := by
  have hmissed := Nat.lt_succ_of_le h.1
  have hcovered := Nat.lt_succ_of_le h.2
  rw [Word.counter, UInt64.toNat_ofNat_of_lt' hmissed, UInt64.toNat_ofNat_of_lt' hcovered]

end Counter

/-- The counts of the totals fit in words. -/
def CoverageReport.HasWordTotals (r : CoverageReport) : Prop := ∀ c ∈ r.totals, c.IsWord

instance (r : CoverageReport) : Decidable r.HasWordTotals := List.decidableBAll _ r.totals

lemma mem_or_eq_of_mem_recordCounter {c d : Counter} {cs : List Counter}
    (h : d ∈ recordCounter c cs) : d = c ∨ d ∈ cs := by
  induction cs with
  | nil => exact .inl (List.mem_singleton.1 h)
  | cons e cs ih =>
      rw [recordCounter] at h
      split_ifs at h with hmetric
      · exact (List.mem_cons.1 h).imp_right (List.mem_cons_of_mem e)
      · rcases List.mem_cons.1 h with rfl | h
        · exact .inr List.mem_cons_self
        · exact (ih h).imp_right (List.mem_cons_of_mem e)

/-- A count that is read fits in a word. -/
lemma le_maxCount_of_readCount {m : Metric} {attributes : List (List Char × List Char)}
    {key : String} {n : ℕ} (h : readCount m attributes key = .ok n) : n ≤ maxCount := by
  unfold readCount at h
  split at h
  · cases h
  · split at h
    · cases h
    · next hread =>
        cases h
        exact Text.natural?_le hread

lemma isWord_of_readCounter {m : Metric} {attributes : List (List Char × List Char)} {c : Counter}
    (h : readCounter m attributes = .ok c) : c.IsWord := by
  unfold readCounter at h
  split at h
  · cases h
  · next missed hmissed =>
      split at h
      · cases h
      · next covered hcovered =>
          cases h
          exact ⟨le_maxCount_of_readCount hmissed, le_maxCount_of_readCount hcovered⟩

namespace Walk

variable {scope : UnitScope} {w w' : Walk}

lemma hasWordTotals_count {attributes : List (List Char × List Char)}
    (hw : w.report.HasWordTotals) (h : count scope attributes w = .ok w') :
    w'.report.HasWordTotals := by
  unfold count at h
  split at h
  · cases h
  · cases h
    exact hw
  · split_ifs at h with hroot hunit
    · obtain ⟨c, hread, rfl⟩ := exists_of_map_eq_ok h
      rintro d hd
      rcases mem_or_eq_of_mem_recordCounter hd with rfl | hd
      · exact isWord_of_readCounter hread
      · exact hw d hd
    · obtain ⟨c, -, rfl⟩ := exists_of_map_eq_ok h
      rwa [CoverageReport.HasWordTotals, totals_recordUnit]
    · cases h
      exact hw

/-- What one tag does leaves totals that fit in words. -/
lemma hasWordTotals_step {t : Tag} (hw : w.report.HasWordTotals) (h : step scope w t = .ok w') :
    w'.report.HasWordTotals := by
  cases t with
  | closing element =>
      cases h
      exact hw
  | opening element attributes isEmpty =>
      by_cases hcounter : element = "counter".toList
      · rw [step, if_pos hcounter] at h
        obtain ⟨v, hcount, rfl⟩ := exists_of_map_eq_ok h
        rw [CoverageReport.HasWordTotals, totals_enter]
        exact hasWordTotals_count hw hcount
      · rw [step, if_neg hcounter, Except.ok.injEq] at h
        rwa [CoverageReport.HasWordTotals, ← h, totals_enter]

/-- So does what tags do one after the other. -/
lemma hasWordTotals_steps {ts : List Tag} (hw : w.report.HasWordTotals)
    (h : steps scope w ts = .ok w') : w'.report.HasWordTotals := by
  induction ts generalizing w with
  | nil =>
      cases h
      exact hw
  | cons t ts ih =>
      rw [steps] at h
      cases hstep : step scope w t with
      | error e => simp [hstep] at h
      | ok v =>
          rw [hstep] at h
          exact ih (hasWordTotals_step hw hstep) h

end Walk

/-- **The counts of a report that is read** fit in words. -/
theorem CoverageReport.hasWordTotals_of_ofText {scope : UnitScope} {text : List Char}
    {r : CoverageReport} (h : ofText scope text = .ok r) : r.HasWordTotals := by
  unfold ofText ofTags at h
  split at h
  · cases h
  · next w hsteps =>
      split_ifs at h
      cases h
      exact Walk.hasWordTotals_steps (fun c hc => absurd hc (List.not_mem_nil)) hsteps

lemma CoverageReport.HasWordTotals.isWord_total {r : CoverageReport} (h : r.HasWordTotals)
    (m : Metric) : (r.total m).IsWord := by
  rw [total]
  cases hfound : counterOf? m r.totals with
  | none => exact ⟨Nat.zero_le _, Nat.zero_le _⟩
  | some c => exact h c (List.mem_of_find?_eq_some hfound)

namespace ThresholdPolicy

/-- **The decision is exact.** The percentage of two counts is the floor of their exact ratio, zero
if both are zero, at most one hundred, and one hundred exactly if nothing is missed and something is
covered. It is computed in words of which none overflows, and the quotient is a count, so that
nothing is put in its place; only the sum of the counts that is reported stops at the greatest
count. A threshold is what was set last, up to one hundred. A metric passes exactly if its threshold
is zero or something was measured and enough of it was covered, and in words it passes with the same
percentage. -/
theorem evaluate_exact :
    (∀ (m : Metric) (missed covered : UInt64),
      let c := Word.counter m missed covered
      c.percentage = ⌊(100 * covered.toNat : ℚ) / (missed.toNat + covered.toNat)⌋₊ ∧
        (missed = 0 → covered = 0 → c.percentage = 0) ∧ c.percentage ≤ 100 ∧
        (c.percentage = 100 ↔ missed = 0 ∧ 0 < covered) ∧
        (∃ q n, Word.quotient? missed covered = some q ∧ Word.narrow? q = some n ∧
          Word.percentage? missed covered = some n ∧ n.toNat = c.percentage) ∧
        (Word.saturatingAdd missed covered).toNat =
          min (missed.toNat + covered.toNat) (2 ^ 64 - 1)) ∧
    (∀ (p : ThresholdPolicy) (m n : Metric) (percent : UInt8),
      (p.set m percent.toNat).threshold n =
        if n = m then (min percent 100).toNat else p.threshold n) ∧
    ∀ (p : ThresholdPolicy) (r : CoverageReport), r.HasWordTotals → ∀ m : Metric,
      let x : MetricResult := ⟨r.total m, p.threshold m⟩
      let missed := (r.total m).missed
      let covered := (r.total m).covered
      x ∈ (p.evaluate r).metrics ∧
        (x.passed = true ↔ p.threshold m = 0 ∨
          0 < missed + covered ∧ p.threshold m * (missed + covered) ≤ 100 * covered) ∧
        ∃ e, Word.evaluate? (.ofNat (p.threshold m)) (.ofNat missed) (.ofNat covered) = some e ∧
          e.passed = x.passed ∧ e.percentage.toNat = x.percentage ∧
          e.total.toNat = min (missed + covered) (2 ^ 64 - 1) := by
  refine ⟨fun m missed covered => ⟨?_, ?_, ?_, ?_, ?_, ?_⟩, fun p m n percent => ?_,
    fun p r hr m => ⟨?_, ?_, ?_⟩⟩
  · exact Counter.percentage_eq_floor _
  · rintro rfl rfl
    exact Counter.percentage_empty m
  · exact Counter.percentage_le _
  · rw [Counter.percentage_eq_hundred_iff, ← UInt64.toNat_inj, UInt64.lt_iff_toNat_lt]
    rfl
  · exact Word.percentage?_eq_some m missed covered
  · exact Word.toNat_saturatingAdd m missed covered
  · rw [threshold_set]
    refine if_congr Iff.rfl ?_ rfl
    rw [Nat.min_def, show min percent 100 = if percent ≤ 100 then percent else 100 from rfl,
      apply_ite UInt8.toNat]
    exact if_congr (UInt8.le_iff_toNat_le (b := 100)).symm rfl rfl
  · exact List.mem_map.2 ⟨m, by cases m <;> decide, rfl⟩
  · rw [MetricResult.passed_iff]
    rcases Nat.eq_zero_or_pos (p.threshold m) with hzero | hpos
    · simp [MetricResult.isGating, hzero]
    · rw [or_iff_right (by simp [MetricResult.isGating, hpos]), or_iff_right hpos.ne']
      exact Counter.le_percentage_iff hpos
  · have hword := hr.isWord_total m
    have hthreshold : (UInt8.ofNat (p.threshold m)).toNat = p.threshold m :=
      UInt8.toNat_ofNat_of_lt' ((p.threshold_le m).trans_lt (by decide))
    have heval := Word.evaluate?_eq_some (r.total m).metric (.ofNat (r.total m).missed)
      (.ofNat (r.total m).covered) (.ofNat (p.threshold m))
    rwa [hword.counter_ofNat, hthreshold] at heval

/-- A report with the greatest counts there are, and with a ratio just below one hundred percent. -/
def greatestCounts : CoverageReport where
  totals := [⟨.line, 2 ^ 64 - 1, 2 ^ 64 - 1⟩, ⟨.branch, 1, 2 ^ 64 - 1⟩, ⟨.method, 0, 2 ^ 64 - 1⟩]
  units := []

/-- Half of the lines are covered though their sum is no count, and all branches but one. -/
theorem evaluate_exact_greatestCounts :
    let p := (((empty.set .line 50).set .branch 100).set .method 250).set .type 1
    greatestCounts.HasWordTotals ∧
      MetricResult.passed ⟨greatestCounts.total .line, p.threshold .line⟩ = true ∧
      MetricResult.passed ⟨greatestCounts.total .branch, p.threshold .branch⟩ = false ∧
      MetricResult.passed ⟨greatestCounts.total .method, p.threshold .method⟩ = true ∧
      MetricResult.passed ⟨greatestCounts.total .type, p.threshold .type⟩ = false ∧
      ∃ e, Word.evaluate? 50 (.ofNat (2 ^ 64 - 1)) (.ofNat (2 ^ 64 - 1)) = some e ∧
        e.passed = true ∧ e.percentage.toNat = 50 ∧ e.total.toNat = 2 ^ 64 - 1 := by
  intro p
  have hword : greatestCounts.HasWordTotals := by decide
  have hexact := evaluate_exact.2.2 p greatestCounts hword
  have hline : MetricResult.passed ⟨greatestCounts.total .line, p.threshold .line⟩ = true :=
    (hexact .line).2.1.2 (.inr (by decide))
  refine ⟨hword, hline, ?_, (hexact .method).2.1.2 (.inr (by decide)), ?_, ?_⟩
  · exact Bool.eq_false_iff.2 fun h => absurd ((hexact .branch).2.1.1 h) (by decide)
  · exact Bool.eq_false_iff.2 fun h => absurd ((hexact .type).2.1.1 h) (by decide)
  · obtain ⟨e, he, hpassed, hpercentage, htotal⟩ := (hexact .line).2.2
    exact ⟨e, he, hpassed.trans hline, hpercentage.trans (by decide), htotal.trans (by decide)⟩

end ThresholdPolicy

end QualityGate
