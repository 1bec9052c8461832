/-!
# Histograms

A histogram counts observed values by bucket. A value goes into the bucket of the first boundary, in
the order of the list, that it does not exceed, and into the last bucket if there is none. The sum
of the values is kept in whole thousandths, each value cut off to them, in a 64-bit word that wraps.
-/

namespace QuorumRing

/-- A histogram with a bucket for each boundary and one for the values beyond all of them. -/
structure Histogram where
  /-- The upper ends of the buckets. -/
  boundaries : List Float
  /-- The number of values in each bucket; one longer than the boundaries. -/
  counts : List Nat
  /-- The sum of the values, in thousandths. -/
  thousandths : UInt64
  /-- The number of values. -/
  count : Nat

namespace Histogram

/-- The histogram of no values. -/
def empty (boundaries : List Float) : Histogram where
  boundaries := boundaries
  counts := List.replicate (boundaries.length + 1) 0
  thousandths := 0
  count := 0

/-- The boundaries for latencies in milliseconds. -/
def latencyBoundaries : List Float := [1, 5, 10, 25, 50, 100, 250, 500, 1000, 2500, 5000]

/-- The bucket that a value belongs to. -/
def bucketOf (boundaries : List Float) (value : Float) : Nat :=
  boundaries.findIdx fun boundary => decide (value ≤ boundary)

/-- A value in whole thousandths: cut off, at least 0, and at most what a word can hold. -/
def toThousandths (value : Float) : UInt64 := (value * 1000.0).toUInt64

/-- Counts a value. -/
def observe (h : Histogram) (value : Float) : Histogram :=
  { h with
    counts := h.counts.modify (bucketOf h.boundaries value) (· + 1)
    thousandths := h.thousandths + toThousandths value
    count := h.count + 1 }

/-- The running sums of a list, from `total` on. -/
def runningSums (total : Nat) : List Nat → List Nat
  | [] => []
  | n :: rest => (total + n) :: runningSums (total + n) rest

/-- For each bucket, the number of values in it or in a bucket before it. -/
def cumulative (h : Histogram) : List Nat := runningSums 0 h.counts

/-- The cumulative counts with the boundaries. The last bucket has none. -/
def buckets (h : Histogram) : List (Option Float × Nat) :=
  (h.boundaries.map some ++ [none]).zip h.cumulative

/-- The sum of the values. -/
def sum (h : Histogram) : Float := h.thousandths.toFloat / 1000.0

/-- The mean of the values, and 0 if there is none. -/
def mean (h : Histogram) : Float := if h.count = 0 then 0.0 else h.sum / Float.ofNat h.count

end Histogram

end QuorumRing
