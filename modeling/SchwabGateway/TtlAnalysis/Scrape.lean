import Mathlib.Logic.Function.Basic
import SchwabGateway.TtlAnalysis.Exposition

set_option autoImplicit false

namespace SchwabGateway.TtlAnalysis

open SchwabGateway.Library
open SchwabGateway.Python

theorem bucket_name_characters (metric : String) : (metric ++ "_bucket").toList = metric.toList ++ bucketSuffix :=
  String.toList_append

theorem metric_name_iff (name metric : String) : metricName name = some metric ↔ name = metric ++ "_bucket" := by
  rw [metricName, ← String.toList_inj, bucket_name_characters]
  by_cases ends : bucketSuffix <:+ name.toList
  · have whole := List.suffix_iff_eq_append.mp ends
    rw [if_pos ends, Option.some.injEq, ← String.toList_inj, String.toList_ofList]
    constructor
    · intro same
      rw [← same]
      exact whole.symm
    · intro same
      rw [same] at whole ⊢
      exact List.append_cancel_right whole
  · rw [if_neg ends]
    refine iff_of_false (fun none => by cases none) fun same => ends ?_
    rw [same]
    exact List.suffix_append _ _

def addRow (buckets : Buckets) (row : Row) : Buckets := addBucket buckets (ofBoundary row.1) (ofCount row.2)

section Sample

variable (literals : Literals) (operation : String) (result : Histograms) (sample : Sample)

theorem add_sample_unconcerned
    (unconcerned : ∀ metric, Concerns metric operation sample → OrderedMap.lookup result metric = none) :
    addSample literals operation result sample = .ok result := by
  unfold addSample
  cases name : metricName sample.name with
  | none => rfl
  | some metric =>
      dsimp only
      cases known : OrderedMap.lookup result metric with
      | none => rfl
      | some buckets =>
          dsimp only
          by_cases other : OrderedMap.lookup sample.labels "operation" ≠ some operation
          · rw [if_pos other]
          · rw [if_neg other]
            cases label : OrderedMap.lookup sample.labels "le" with
            | none => rfl
            | some raw =>
                have concerned : Concerns metric operation sample := by
                  refine ⟨(metric_name_iff _ _).mp name, not_not.mp other, ?_⟩
                  rw [label]
                  exact Option.some_ne_none raw
                have unknown := unconcerned metric concerned
                rw [known] at unknown
                cases unknown

theorem add_sample_prints (metric : String) (buckets : Buckets) (row : Row)
    (concerned : Concerns metric operation sample) (known : OrderedMap.lookup result metric = some buckets)
    (printed : Prints literals row sample) :
    addSample literals operation result sample = .ok (OrderedMap.replace result metric (addRow buckets row)) := by
  obtain ⟨named, labelled, _⟩ := concerned
  obtain ⟨⟨raw, label, read⟩, value⟩ := printed
  have name := (metric_name_iff sample.name metric).mpr named
  simp only [addSample, name, known, labelled, label, read, value, ne_eq, not_true_eq_false, if_false]
  rfl

end Sample

theorem concerns_metric (metric other operation : String) (sample : Sample) (one : Concerns metric operation sample)
    (two : Concerns other operation sample) : metric = other := by
  have first := (metric_name_iff _ _).mpr one.1
  rw [(metric_name_iff _ _).mpr two.1] at first
  exact (Option.some.inj first).symm

theorem filter_unconcerned (metric operation : String) (sample : Sample) (rest : List Sample)
    (elsewhere : ¬ Concerns metric operation sample) :
    (sample :: rest).filter (fun sample => Concerns metric operation sample) =
      rest.filter (fun sample => Concerns metric operation sample) :=
  List.filter_cons_of_neg (by simpa using elsewhere)

theorem add_samples (literals : Literals) (operation : String) (samples : List Sample) (result : Histograms)
    (rows : String → List Row)
    (printed : ∀ metric, OrderedMap.lookup result metric ≠ none →
      List.Forall₂ (Prints literals) (rows metric) (samples.filter (fun sample => Concerns metric operation sample))) :
    ∃ final, samples.foldlM (addSample literals operation) result = .ok final ∧
      ∀ metric, OrderedMap.lookup final metric =
        (OrderedMap.lookup result metric).map (fun buckets => (rows metric).foldl addRow buckets) := by
  induction samples generalizing result rows with
  | nil =>
      refine ⟨result, rfl, fun metric => ?_⟩
      cases known : OrderedMap.lookup result metric with
      | none => rfl
      | some buckets =>
          have none := printed metric (known ▸ Option.some_ne_none buckets)
          rw [List.filter_nil, List.forall₂_nil_right_iff] at none
          rw [none]
          rfl
  | cons sample rest ih =>
      rw [List.foldlM_cons]
      by_cases concerned : ∃ metric, Concerns metric operation sample ∧ OrderedMap.lookup result metric ≠ none
      · obtain ⟨metric, concerned, known⟩ := concerned
        obtain ⟨buckets, found⟩ := Option.ne_none_iff_exists'.mp known
        have here := printed metric known
        rw [List.filter_cons_of_pos (by simpa using concerned), List.forall₂_cons_right_iff] at here
        obtain ⟨row, later, first, following, split⟩ := here
        rw [add_sample_prints literals operation result sample metric buckets row concerned found first]
        have remaining (other : String)
            (present : OrderedMap.lookup (OrderedMap.replace result metric (addRow buckets row)) other ≠ none) :
            List.Forall₂ (Prints literals) (Function.update rows metric later other)
              (rest.filter (fun sample => Concerns other operation sample)) := by
          rw [OrderedMap.lookup_replace] at present
          by_cases same : metric = other
          · cases same
            rw [Function.update_self]
            exact following
          · rw [if_neg same] at present
            rw [Function.update_of_ne (Ne.symm same)]
            have there := printed other present
            have elsewhere : ¬ Concerns other operation sample :=
              fun both => same (concerns_metric metric other operation sample concerned both)
            rw [filter_unconcerned other operation sample rest elsewhere] at there
            exact there
        obtain ⟨final, run, folded⟩ := ih _ _ remaining
        refine ⟨final, run, fun other => ?_⟩
        rw [folded, OrderedMap.lookup_replace]
        by_cases same : metric = other
        · cases same
          rw [if_pos rfl, Function.update_self, found, split]
          rfl
        · rw [if_neg same, Function.update_of_ne (Ne.symm same)]
      · have unconcerned (metric : String) (touched : Concerns metric operation sample) :
            OrderedMap.lookup result metric = none := by
          by_contra known
          exact concerned ⟨metric, touched, known⟩
        rw [add_sample_unconcerned literals operation result sample unconcerned]
        apply ih result rows
        intro metric present
        have there := printed metric present
        have elsewhere : ¬ Concerns metric operation sample := fun touched => present (unconcerned metric touched)
        rw [filter_unconcerned metric operation sample rest elsewhere] at there
        exact there

theorem parse_reads (literals : Literals) (operation : String) (samples : List Sample) (rows : String → List Row)
    (printed : ∀ metric ∈ metricNames,
      List.Forall₂ (Prints literals) (rows metric) (samples.filter (fun sample => Concerns metric operation sample))) :
    ∃ result, parseHistograms literals samples operation = .ok result ∧
      ∀ metric ∈ metricNames, OrderedMap.lookup result metric = some ((rows metric).foldl addRow []) := by
  have start (metric : String) := OrderedMap.lookup_table metricNames (fun _ => ([] : Buckets)) metric
  have known (metric : String)
      (present : OrderedMap.lookup (metricNames.map (fun name => (name, ([] : Buckets)))) metric ≠ none) :
      metric ∈ metricNames := by
    rw [start] at present
    by_contra unknown
    exact present (if_neg unknown)
  obtain ⟨result, run, folded⟩ := add_samples literals operation samples (metricNames.map (fun name => (name, []))) rows
    fun metric present => printed metric (known metric present)
  refine ⟨result, run, fun metric member => ?_⟩
  rw [folded, start, if_pos member]
  rfl

section Counts

def toRow : Row → PyFloat × PyFloat := Prod.map ofBoundary ofCount

theorem add_row_counts (counts : List Row) (row : Row)
    (small : (OrderedMap.lookup counts row.1).getD 0 + row.2 ≤ 2 ^ 53) :
    addRow (counts.map toRow) row = (OrderedMap.addUnder counts row).map toRow := by
  have number : ofBoundary row.1 ≠ .nan := by cases row.1 <;> exact PyFloat.noConfusion
  have before : (OrderedMap.lookup (counts.map toRow) (ofBoundary row.1)).getD zero =
      ofCount ((OrderedMap.lookup counts row.1).getD 0) := by
    rw [toRow, OrderedMap.lookup_map ofBoundary ofCount of_boundary_injective]
    cases OrderedMap.lookup counts row.1 with
    | none => exact congrArg PyFloat.finite Nat.cast_zero.symm
    | some count => rfl
  have sum : (ofCount ((OrderedMap.lookup counts row.1).getD 0)).add (ofCount row.2) =
      ofCount ((OrderedMap.lookup counts row.1).getD 0 + row.2) := add_naturals _ _ small
  rw [addRow, addBucket, if_neg number, before, sum]
  exact OrderedMap.replace_map ofBoundary ofCount of_boundary_injective counts row.1 _

theorem fold_rows_counts (rows : List Row) (small : ∀ boundary, OrderedMap.totalUnder rows boundary ≤ 2 ^ 53) :
    rows.foldl addRow [] = (OrderedMap.collect rows).map toRow := by
  induction rows using List.reverseRecOn with
  | nil => rfl
  | append_singleton rows row ih =>
      have bound (boundary : WithTop ℚ) := small boundary
      simp only [OrderedMap.total_under_concat] at bound
      have earlier : ∀ boundary, OrderedMap.totalUnder rows boundary ≤ 2 ^ 53 :=
        fun boundary => le_trans (Nat.le_add_right _ _) (bound boundary)
      rw [List.foldl_concat, ih earlier, OrderedMap.collect_concat]
      apply add_row_counts
      have last := bound row.1
      rw [if_pos rfl] at last
      rw [OrderedMap.lookup_collect]
      by_cases known : row.1 ∈ rows.map Prod.fst
      · rw [if_pos known]
        exact last
      · rw [if_neg known]
        exact le_trans (Nat.add_le_add_right (Nat.zero_le _) _) last

end Counts

end SchwabGateway.TtlAnalysis
