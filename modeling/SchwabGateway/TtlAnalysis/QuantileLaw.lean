import SchwabGateway.TtlAnalysis.Percentile

set_option autoImplicit false

namespace SchwabGateway.TtlAnalysis

open SchwabGateway.Library
open SchwabGateway.Python

structure Level (p : ℚ) : Prop where
  double : IsDouble p
  positive : 0 < p
  proper : p ≤ 1

-- The percentiles of the buckets are the quantiles of the observations, of
-- which only the bounds and the whole are left.
structure QuantileLaw (bounds : List ℚ) (observations : Multiset ℚ) (buckets : Buckets) : Prop where
  answer : ∀ p, Level p →
    percentile buckets (.finite p) = .ok ((bucketQuantile bounds observations p).map ofBoundary)
  none_iff : ∀ p, Level p → (percentile buckets (.finite p) = .ok none ↔ observations = 0)
  least : ∀ p, Level p → observations ≠ 0 → ∃ rank statistic boundary,
    (rank = ⌈observations.card * p⌉₊ ∨
      rank + 1 = ⌈observations.card * p⌉₊ ∧ roundDouble (observations.card * p) = rank) ∧
    nthSmallest observations rank = some statistic ∧
    percentile buckets (.finite p) = .ok (some (ofBoundary boundary)) ∧
    IsLeast {b | b ∈ boundaries bounds ∧ WithTop.some statistic ≤ b} boundary
  monotone : ∀ p q, Level p → Level q → p ≤ q → ∀ low high,
    percentile buckets (.finite p) = .ok (some low) → percentile buckets (.finite q) = .ok (some high) →
    low.le high = true

section Quantiles

variable (observations : Multiset ℚ) (small : observations.card ≤ 2 ^ 53)

theorem of_boundary_le (first second : WithTop ℚ) (below : first ≤ second) :
    (ofBoundary first).le (ofBoundary second) = true := by
  have order := of_boundary_lt second first
  rw [decide_eq_false (not_lt.mpr below)] at order
  have defined : (ofBoundary first).le (ofBoundary second) = !(ofBoundary second).lt (ofBoundary first) := by
    cases first with
    | top => cases second <;> rfl
    | coe bound => cases second <;> rfl
  rw [defined, order]
  rfl

include small

theorem level_statistic (p : ℚ) (level : Level p) (some_ : observations ≠ 0) :
    ∃ statistic, nthSmallest observations (quantileRank observations.card p) = some statistic := by
  apply nth_smallest_some
  · exact quantile_rank_pos _ p level.double level.positive (Multiset.card_pos.mpr some_)
  · exact quantile_rank_le _ p level.positive level.proper small

variable (bounds : List ℚ) (increasing : bounds.Pairwise (· < ·))

include increasing

theorem bucket_quantile_mono (p q : ℚ) (one : Level p) (other : Level q) (ordered : p ≤ q) (some_ : observations ≠ 0)
    (low high : WithTop ℚ) (first : bucketQuantile bounds observations p = some low)
    (second : bucketQuantile bounds observations q = some high) : low ≤ high := by
  obtain ⟨lower, found⟩ := level_statistic observations small p one some_
  obtain ⟨upper, reached⟩ := level_statistic observations small q other some_
  obtain ⟨boundary, answer, least⟩ := bucket_quantile_least bounds observations increasing p lower found
  obtain ⟨higher, another, above⟩ := bucket_quantile_least bounds observations increasing q upper reached
  have ranks := quantile_rank_mono observations.card p q one.positive ordered
  have rising := nth_smallest_mono observations _ _ ranks lower upper found reached
  have first_ : boundary = low := Option.some.inj (answer.symm.trans first)
  have second_ : higher = high := Option.some.inj (another.symm.trans second)
  rw [← first_, ← second_]
  apply least.2
  exact ⟨above.1.1, le_trans (WithTop.coe_le_coe.mpr rising) above.1.2⟩

theorem quantile_law (buckets : Buckets)
    (answer : ∀ p, Level p →
      percentile buckets (.finite p) = .ok ((bucketQuantile bounds observations p).map ofBoundary)) :
    QuantileLaw bounds observations buckets where
  answer := answer
  none_iff := by
    intro p level
    rw [answer p level]
    constructor
    · intro none
      by_contra some_
      obtain ⟨statistic, found⟩ := level_statistic observations small p level some_
      obtain ⟨boundary, reached, _⟩ := bucket_quantile_least bounds observations increasing p statistic found
      rw [reached] at none
      cases none
    · rintro rfl
      rw [bucketQuantile, nth_smallest_empty]
      rfl
  least := by
    intro p level some_
    obtain ⟨statistic, found⟩ := level_statistic observations small p level some_
    obtain ⟨boundary, reached, least⟩ := bucket_quantile_least bounds observations increasing p statistic found
    refine ⟨quantileRank observations.card p, statistic, boundary, ?_, found, ?_, least⟩
    · exact quantile_rank_exact observations.card p level.positive level.proper small
    · rw [answer p level, reached]
      rfl
  monotone := by
    intro p q one other ordered low high first second
    rw [answer p one] at first
    rw [answer q other] at second
    obtain ⟨lower, lowest, rfl⟩ := Option.map_eq_some_iff.mp (Except.ok.inj first)
    obtain ⟨upper, highest, rfl⟩ := Option.map_eq_some_iff.mp (Except.ok.inj second)
    have some_ : observations ≠ 0 := by
      rintro rfl
      rw [bucketQuantile, nth_smallest_empty] at lowest
      cases lowest
    apply of_boundary_le
    exact bucket_quantile_mono observations small bounds increasing p q one other ordered some_ lower upper lowest
      highest

end Quantiles

section Scrape

variable (exposition : Exposition) (rows : List Row) (same : rows.Perm exposition.rows)

include same

theorem total_of_samples (boundary : WithTop ℚ) (member : boundary ∈ boundaries exposition.bounds) :
    OrderedMap.totalUnder rows boundary = cumulative exposition.observations boundary :=
  (OrderedMap.total_under_perm rows exposition.rows same boundary).trans (total_of_rows exposition boundary member)

theorem keys_of_samples (boundary : WithTop ℚ) :
    boundary ∈ rows.map Prod.fst ↔ exposition.sets ≠ [] ∧ boundary ∈ boundaries exposition.bounds := by
  rw [(same.map Prod.fst).mem_iff]
  exact mem_rows_keys exposition boundary

theorem counts_of_samples (some_ : exposition.sets ≠ []) :
    Counts exposition.bounds exposition.observations (OrderedMap.collect rows) := by
  rintro ⟨boundary, count⟩
  rw [OrderedMap.mem_collect, keys_of_samples exposition rows same]
  constructor
  · rintro ⟨⟨_, member⟩, value⟩
    exact ⟨member, value.trans (total_of_samples exposition rows same boundary member)⟩
  · rintro ⟨member, value⟩
    exact ⟨⟨some_, member⟩, value.trans (total_of_samples exposition rows same boundary member).symm⟩

theorem total_of_samples_le (boundary : WithTop ℚ) :
    OrderedMap.totalUnder rows boundary ≤ exposition.observations.card := by
  by_cases member : boundary ∈ boundaries exposition.bounds
  · rw [total_of_samples exposition rows same boundary member]
    exact cumulative_le _ _
  · have absent : boundary ∉ rows.map Prod.fst := fun inside =>
      member ((keys_of_samples exposition rows same boundary).mp inside).2
    rw [OrderedMap.total_under_absent rows boundary absent]
    exact Nat.zero_le _

theorem scraped_law (small : exposition.observations.card ≤ 2 ^ 53) :
    QuantileLaw exposition.bounds exposition.observations (rows.foldl addRow []) := by
  apply quantile_law exposition.observations small exposition.bounds exposition.increasing
  intro p level
  rw [fold_rows_counts rows fun boundary => le_trans (total_of_samples_le exposition rows same boundary) small]
  by_cases some_ : exposition.sets = []
  · obtain ⟨bounds, increasing, sets⟩ := exposition
    cases some_
    have none : rows = [] := same.eq_nil
    rw [none, Exposition.observations, List.sum_nil, bucketQuantile, nth_smallest_empty]
    exact percentile_empty p level.positive level.proper
  · exact percentile_counts exposition.bounds exposition.increasing exposition.observations _ p level.positive
      level.proper (counts_of_samples exposition rows same some_) small level.double

end Scrape

theorem ttl_percentile_quantile (literals : Literals) (operation : String) (samples : List Sample)
    (expositions : String → Exposition)
    (exposed : ∀ metric ∈ metricNames, Exposed literals operation samples metric (expositions metric)) :
    ∃ result, parseHistograms literals samples operation = .ok result ∧
      ∀ metric ∈ metricNames, ∃ buckets, OrderedMap.lookup result metric = some buckets ∧
        ((expositions metric).observations.card ≤ 2 ^ 53 →
          QuantileLaw (expositions metric).bounds (expositions metric).observations buckets) := by
  choose! rows same printed using exposed
  obtain ⟨result, run, read⟩ := parse_reads literals operation samples rows printed
  refine ⟨result, run, fun metric member => ⟨_, read metric member, fun small => ?_⟩⟩
  exact scraped_law (expositions metric) (rows metric) (same metric member) small

section Inputs

def queueWait : String := "schwab_gateway_scheduler_queue_wait_seconds"

def numerals : Literals where
  float := fun raw =>
    if raw = "0.5" then some (.finite (1 / 2))
    else if raw = "1.0" then some (.finite 1)
    else if raw = "2.0" then some (.finite 2)
    else none
  int := fun _ => none

structure Line where
  priority : String
  raw : String
  row : Row
  honest : boundaryOf numerals raw = .ok (ofBoundary row.1)

def Line.sample (line : Line) : Sample where
  name := "schwab_gateway_scheduler_queue_wait_seconds_bucket"
  labels := [("operation", "option_chain"), ("priority_class", line.priority), ("le", line.raw)]
  value := ofCount line.row.2

theorem line_concerns (line : Line) : Concerns queueWait "option_chain" line.sample :=
  ⟨rfl, rfl, Option.some_ne_none line.raw⟩

def silent : Exposition where
  bounds := []
  increasing := List.Pairwise.nil
  sets := []

def waitsOnly (exposition : Exposition) (metric : String) : Exposition :=
  if metric = queueWait then exposition else silent

theorem lines_printed (lines : List Line) (metric : String) :
    List.Forall₂ (Prints numerals) (if metric = queueWait then lines.map Line.row else [])
      ((lines.map Line.sample).filter (fun sample => Concerns metric "option_chain" sample)) := by
  by_cases same : metric = queueWait
  · have all : (lines.map Line.sample).filter (fun sample => Concerns metric "option_chain" sample) =
        lines.map Line.sample := by
      apply List.filter_eq_self.mpr
      intro sample member
      obtain ⟨line, _, rfl⟩ := List.mem_map.mp member
      exact decide_eq_true (same ▸ line_concerns line)
    rw [if_pos same, all, List.forall₂_map_left_iff, List.forall₂_map_right_iff, List.forall₂_same]
    exact fun line _ => ⟨⟨line.raw, rfl, line.honest⟩, rfl⟩
  · have none : (lines.map Line.sample).filter (fun sample => Concerns metric "option_chain" sample) = [] := by
      apply List.filter_eq_nil_iff.mpr
      intro sample member concerned
      obtain ⟨line, _, rfl⟩ := List.mem_map.mp member
      exact same (concerns_metric _ _ _ _ (of_decide_eq_true concerned) (line_concerns line))
    rw [if_neg same, none]
    exact .nil

theorem lines_exposed (lines : List Line) (exposition : Exposition) (rows : lines.map Line.row = exposition.rows)
    (metric : String) :
    Exposed numerals "option_chain" (lines.map Line.sample) metric (waitsOnly exposition metric) := by
  have shown : (if metric = queueWait then lines.map Line.row else []) = (waitsOnly exposition metric).rows := by
    rw [waitsOnly]
    by_cases same : metric = queueWait
    · rw [if_pos same, if_pos same]
      exact rows
    · rw [if_neg same, if_neg same]
      rfl
  exact ⟨_, List.Perm.of_eq shown, lines_printed lines metric⟩

theorem lines_read (lines : List Line) :
    ∃ result, parseHistograms numerals (lines.map Line.sample) "option_chain" = .ok result ∧
      OrderedMap.lookup result queueWait = some ((lines.map Line.row).foldl addRow []) := by
  obtain ⟨result, run, read⟩ := parse_reads numerals "option_chain" (lines.map Line.sample) _
    fun metric _ => lines_printed lines metric
  exact ⟨result, run, read queueWait List.mem_cons_self⟩

def testedWaits : Exposition where
  bounds := [1 / 2, 1]
  increasing := by decide +kernel
  sets := [Multiset.replicate 2 (1 / 2) + Multiset.replicate 6 1 + Multiset.replicate 2 4,
    Multiset.replicate 3 (1 / 4) + {3 / 4} + {9}]

def testedLines : List Line :=
  [⟨"protected", "0.5", (some (1 / 2), 2), rfl⟩, ⟨"protected", "1.0", (some 1, 8), rfl⟩,
    ⟨"protected", "+Inf", (⊤, 10), rfl⟩, ⟨"background", "0.5", (some (1 / 2), 3), rfl⟩,
    ⟨"background", "1.0", (some 1, 4), rfl⟩, ⟨"background", "+Inf", (⊤, 5), rfl⟩]

end Inputs

theorem ttl_percentile_quantile_tested :
    ∃ result buckets, parseHistograms numerals (testedLines.map Line.sample) "option_chain" = .ok result ∧
      OrderedMap.lookup result queueWait = some buckets ∧
      QuantileLaw testedWaits.bounds testedWaits.observations buckets ∧
      percentile buckets (.finite (1 / 2)) = .ok (some (.finite 1)) := by
  have rows : testedLines.map Line.row = testedWaits.rows := by decide +kernel
  obtain ⟨result, run, laws⟩ := ttl_percentile_quantile numerals "option_chain" (testedLines.map Line.sample)
    (waitsOnly testedWaits) fun metric _ => lines_exposed testedLines testedWaits rows metric
  obtain ⟨buckets, found, law⟩ := laws queueWait List.mem_cons_self
  obtain ⟨again, rerun, read⟩ := lines_read testedLines
  cases run.symm.trans rerun
  cases found.symm.trans read
  exact ⟨result, _, run, found, law (by decide +kernel), by decide +kernel⟩

section Shortfalls

def FallsShort (exposition : Exposition) (samples : List Sample) (p : ℚ) : Prop :=
  Level p ∧ Exposed numerals "option_chain" samples queueWait exposition ∧
    ∃ result buckets answer statistic, parseHistograms numerals samples "option_chain" = .ok result ∧
      OrderedMap.lookup result queueWait = some buckets ∧
      percentile buckets (.finite p) = .ok (some (.finite answer)) ∧
      nthSmallest exposition.observations ⌈exposition.observations.card * p⌉₊ = some statistic ∧ answer < statistic

theorem falls_short (exposition : Exposition) (lines : List Line) (rows : lines.map Line.row = exposition.rows)
    (p : ℚ) (level : Level p) (answer : ℚ)
    (answered : percentile ((lines.map Line.row).foldl addRow []) (.finite p) = .ok (some (.finite answer)))
    (few : exposition.observations.countP (· ≤ answer) < ⌈exposition.observations.card * p⌉₊) :
    FallsShort exposition (lines.map Line.sample) p := by
  obtain ⟨result, run, found⟩ := lines_read lines
  have inside : ⌈exposition.observations.card * p⌉₊ ≤ exposition.observations.card :=
    Nat.ceil_le.mpr (mul_le_of_le_one_right (Nat.cast_nonneg _) level.proper)
  obtain ⟨statistic, ranked, above⟩ := nth_smallest_above exposition.observations _ inside answer few
  have exposed := lines_exposed lines exposition rows queueWait
  rw [waitsOnly, if_pos rfl] at exposed
  exact ⟨level, exposed, result, _, answer, statistic, run, found, answered, ranked, above⟩

def tenth : ℚ := 3602879701896397 / 36028797018963968

def crowdedWaits : Exposition where
  bounds := [1, 2]
  increasing := by decide +kernel
  sets := [{1} + Multiset.replicate 9 2]

def crowdedLines : List Line :=
  [⟨"protected", "1.0", (some 1, 1), rfl⟩, ⟨"protected", "2.0", (some 2, 10), rfl⟩,
    ⟨"protected", "+Inf", (⊤, 10), rfl⟩]

def hugeWaits : Exposition where
  bounds := [1]
  increasing := List.pairwise_singleton _ _
  sets := [Multiset.replicate (2 ^ 53) 0, {2}]

def hugeLines : List Line :=
  [⟨"protected", "1.0", (some 1, 2 ^ 53), rfl⟩, ⟨"protected", "+Inf", (⊤, 2 ^ 53), rfl⟩,
    ⟨"background", "1.0", (some 1, 0), rfl⟩, ⟨"background", "+Inf", (⊤, 1), rfl⟩]

theorem huge_low : (Multiset.replicate (2 ^ 53) (0 : ℚ)).countP (· ≤ 1) = 2 ^ 53 := by
  have all : (Multiset.replicate (2 ^ 53) (0 : ℚ)).countP (· ≤ 1) = (Multiset.replicate (2 ^ 53) (0 : ℚ)).card := by
    apply Multiset.countP_eq_card.mpr
    intro observation member
    rw [Multiset.eq_of_mem_replicate member]
    exact zero_le_one
  rw [all, Multiset.card_replicate]

theorem huge_rows : hugeLines.map Line.row = hugeWaits.rows := by
  have split : hugeWaits.rows =
      [(((1 : ℚ) : WithTop ℚ), cumulative (Multiset.replicate (2 ^ 53) 0) (1 : ℚ)),
        (⊤, cumulative (Multiset.replicate (2 ^ 53) 0) ⊤), (((1 : ℚ) : WithTop ℚ), cumulative {2} (1 : ℚ)),
        (⊤, cumulative {2} ⊤)] := rfl
  rw [split, cumulative_bound, huge_low, cumulative_top, Multiset.card_replicate]
  rfl

theorem huge_card : hugeWaits.observations.card = 2 ^ 53 + 1 := by
  rw [Exposition.observations, hugeWaits, List.sum_cons, List.sum_singleton, Multiset.card_add, Multiset.card_replicate,
    Multiset.card_singleton]

-- The exact rank is missed where the product is rounded, and where the sum of
-- the counts is.
theorem exact_rank_missed :
    FallsShort crowdedWaits (crowdedLines.map Line.sample) tenth ∧ FallsShort hugeWaits (hugeLines.map Line.sample) 1 := by
  constructor
  · apply falls_short crowdedWaits crowdedLines (by decide +kernel) tenth _ 1
    · decide +kernel
    · decide +kernel
    · exact ⟨by decide +kernel, by decide +kernel, by decide +kernel⟩
  · apply falls_short hugeWaits hugeLines huge_rows 1 _ 1
    · decide +kernel
    · have low : hugeWaits.observations.countP (· ≤ 1) = 2 ^ 53 := by
        rw [Exposition.observations, hugeWaits, List.sum_cons, List.sum_singleton, Multiset.countP_add, huge_low]
        rfl
      rw [low, huge_card, mul_one, Nat.ceil_natCast]
      exact Nat.lt_succ_self _
    · exact ⟨by decide +kernel, one_pos, le_refl 1⟩

end Shortfalls

end SchwabGateway.TtlAnalysis
