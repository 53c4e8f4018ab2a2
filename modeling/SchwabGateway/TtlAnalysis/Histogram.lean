import Mathlib.Data.List.Sort
import SchwabGateway.Library.Dictionary
import SchwabGateway.Python.Double
import SchwabGateway.Python.Number

set_option autoImplicit false

namespace SchwabGateway.TtlAnalysis

open SchwabGateway.Library
open SchwabGateway.Python

def zero : PyFloat := .finite 0

def metricNames : List String :=
  ["schwab_gateway_scheduler_queue_wait_seconds", "schwab_gateway_scheduler_upstream_execution_seconds"]

-- Histogram.buckets: the sum of the values under each boundary.
abbrev Buckets := List (PyFloat × PyFloat)

abbrev Histograms := List (String × Buckets)

-- A sample of a family, as the text parser of Prometheus hands it out.
structure Sample where
  name : String
  labels : List (String × String)
  value : PyFloat

-- max(values): the first of the largest.
def larger (best value : PyFloat) : PyFloat := if best.lt value then value else best

def maxValue : List PyFloat → Option PyFloat
  | [] => none
  | value :: rest => some (rest.foldl larger value)

-- The order of sorted(), which asks only whether one key is below another. A
-- NaN stands anywhere by it: where the sort leaves one is not modelled.
def notAbove (first second : PyFloat × PyFloat) : Prop := second.1.lt first.1 = false

instance : DecidableRel notAbove := fun first second =>
  inferInstanceAs (Decidable (second.1.lt first.1 = false))

def percentile (buckets : Buckets) (percentile : PyFloat) : Except String (Option PyFloat) :=
  if ¬ (zero.lt percentile ∧ percentile.le (.finite 1)) then
    .error "percentile must be greater than 0 and at most 1"
  else
    match maxValue (buckets.map Prod.snd) with
    | none => .ok none
    | some total =>
        if total.le zero then .ok none
        else
          let target := total.mul percentile
          .ok (((buckets.insertionSort notAbove).find? (fun row => target.le row.2)).map Prod.fst)

-- buckets[boundary] = buckets.get(boundary, 0.0) + value. Every NaN is a key
-- of its own.
def addBucket (buckets : Buckets) (boundary value : PyFloat) : Buckets :=
  if boundary = .nan then buckets ++ [(boundary, zero.add value)]
  else OrderedMap.replace buckets boundary (((OrderedMap.lookup buckets boundary).getD zero).add value)

def bucketSuffix : List Char := "_bucket".toList

def metricName (name : String) : Option String :=
  if bucketSuffix <:+ name.toList then
    some (String.ofList (name.toList.take (name.toList.length - bucketSuffix.length)))
  else none

def boundaryOf (literals : Literals) (raw : String) : Except PyError PyFloat :=
  if raw = "+Inf" then .ok .infinity
  else
    match literals.float raw with
    | some boundary => .ok boundary
    | none => .error .valueError

def addSample (literals : Literals) (operation : String) (result : Histograms) (sample : Sample) :
    Except PyError Histograms :=
  match metricName sample.name with
  | none => .ok result
  | some metric =>
      match OrderedMap.lookup result metric with
      | none => .ok result
      | some buckets =>
          if OrderedMap.lookup sample.labels "operation" ≠ some operation then .ok result
          else
            match OrderedMap.lookup sample.labels "le" with
            | none => .ok result
            | some raw =>
                match boundaryOf literals raw with
                | .error error => .error error
                | .ok boundary => .ok (OrderedMap.replace result metric (addBucket buckets boundary sample.value))

def parseHistograms (literals : Literals) (samples : List Sample) (operation : String) :
    Except PyError Histograms :=
  samples.foldlM (addSample literals operation) (metricNames.map (fun name => (name, [])))

end SchwabGateway.TtlAnalysis
