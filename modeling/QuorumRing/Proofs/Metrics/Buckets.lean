import Mathlib
import QuorumRing.Metrics.Histogram

/-!
# What the buckets of a histogram count

A value goes to the first boundary, in the order of the list, that it does not exceed, and the counts
are added up in the order of the list. So the running count of a bucket is the number of the values
that one of the boundaries up to there is not below, whether the boundaries ascend or not and whether
they repeat or not (`Histogram.Exact`). None of the numbers that a histogram keeps depends on the
order in which the values came.
-/

namespace QuorumRing.Histogram

variable {boundaries values : List Float} {value : Float}

/-- The histogram of some values, in the order in which they were observed. -/
def ofValues (boundaries values : List Float) : Histogram := values.foldl observe (empty boundaries)

/-! ## The running counts -/

theorem getElem?_runningSums (total : Nat) (counts : List Nat) (i : Nat) :
    (runningSums total counts)[i]? = counts[i]?.map fun _ => total + (counts.take (i + 1)).sum := by
  induction counts generalizing total i with
  | nil => rfl
  | cons n counts ih =>
    cases i with
    | zero => simp [runningSums]
    | succ i =>
      rw [runningSums, List.getElem?_cons_succ, List.getElem?_cons_succ, ih, List.take_succ_cons,
        List.sum_cons, Nat.add_assoc]

/-- One more in a bucket is one more in the running counts from there on. -/
theorem sum_take_modify (counts : List Nat) (bucket : Nat) {i : Nat} (hi : i < counts.length) :
    ((counts.modify bucket (· + 1)).take (i + 1)).sum =
      (counts.take (i + 1)).sum + if bucket ≤ i then 1 else 0 := by
  induction counts generalizing bucket i with
  | nil => simp at hi
  | cons n counts ih =>
    cases bucket with
    | zero =>
      rw [List.modify_zero_cons, List.take_succ_cons, List.take_succ_cons, List.sum_cons,
        List.sum_cons, if_pos (Nat.zero_le i)]
      omega
    | succ bucket =>
      rw [List.modify_succ_cons, List.take_succ_cons, List.take_succ_cons, List.sum_cons,
        List.sum_cons]
      cases i with
      | zero => simp
      | succ i =>
        have hrest := ih bucket (Nat.lt_of_succ_lt_succ hi)
        simp only [Nat.succ_le_succ_iff]
        omega

theorem getElem?_cumulative_observe (h : Histogram) (value : Float) (i : Nat) :
    (h.observe value).cumulative[i]? =
      h.cumulative[i]?.map (· + if bucketOf h.boundaries value ≤ i then 1 else 0) := by
  have hbefore := getElem?_runningSums 0 h.counts i
  have hafter := getElem?_runningSums 0 (h.observe value).counts i
  rw [cumulative, hafter, cumulative, hbefore]
  by_cases hi : i < h.counts.length
  · have hsum := sum_take_modify h.counts (bucketOf h.boundaries value) hi
    have hcounts : (h.observe value).counts =
        h.counts.modify (bucketOf h.boundaries value) (· + 1) := rfl
    rw [hcounts, List.getElem?_eq_getElem hi,
      List.getElem?_eq_getElem (by rwa [List.length_modify])]
    simp only [Option.map_some, Nat.zero_add, hsum]
  · rw [List.getElem?_eq_none (by rw [observe, List.length_modify]; omega),
      List.getElem?_eq_none (by omega)]
    rfl

theorem getElem?_cumulative_foldl (h : Histogram) (values : List Float) (i : Nat) :
    (values.foldl observe h).cumulative[i]? =
      h.cumulative[i]?.map (· + values.countP (bucketOf h.boundaries · ≤ i)) := by
  induction values generalizing h with
  | nil => simp
  | cons value values ih =>
    have hone := getElem?_cumulative_observe h value i
    have hsame : (h.observe value).boundaries = h.boundaries := rfl
    rw [List.foldl_cons, ih, hone, hsame, Option.map_map, List.countP_cons]
    congr 1
    funext n
    simp only [Function.comp_apply, decide_eq_true_eq]
    omega

/-- In the histogram of some values, the running count of a bucket is the number of values in it or
in one before it. -/
theorem getElem?_cumulative_ofValues {i : Nat} (hi : i ≤ boundaries.length) :
    (ofValues boundaries values).cumulative[i]? =
      some (values.countP (bucketOf boundaries · ≤ i)) := by
  have hempty : (empty boundaries).cumulative[i]? = some 0 := by
    rw [cumulative, getElem?_runningSums, empty, List.getElem?_replicate, if_pos (by omega)]
    simp
  rw [ofValues, getElem?_cumulative_foldl, hempty, Option.map_some, Nat.zero_add]
  rfl

theorem length_runningSums (total : Nat) (counts : List Nat) :
    (runningSums total counts).length = counts.length := by
  induction counts generalizing total with
  | nil => rfl
  | cons n counts ih => rw [runningSums, List.length_cons, ih, List.length_cons]

theorem foldl_observe (h : Histogram) (values : List Float) :
    (values.foldl observe h).boundaries = h.boundaries ∧
      (values.foldl observe h).counts.length = h.counts.length ∧
      (values.foldl observe h).count = h.count + values.length := by
  induction values generalizing h with
  | nil => exact ⟨rfl, rfl, rfl⟩
  | cons value values ih =>
    obtain ⟨hboundaries, hcounts, hcount⟩ := ih (h.observe value)
    refine ⟨hboundaries, hcounts.trans (List.length_modify ..), hcount.trans ?_⟩
    rw [List.length_cons]
    simp only [observe]
    omega

theorem boundaries_ofValues : (ofValues boundaries values).boundaries = boundaries :=
  (foldl_observe _ values).1

theorem count_ofValues : (ofValues boundaries values).count = values.length :=
  ((foldl_observe _ values).2.2).trans (Nat.zero_add _)

theorem length_cumulative_ofValues :
    (ofValues boundaries values).cumulative.length = boundaries.length + 1 := by
  rw [cumulative, length_runningSums, ofValues, (foldl_observe _ values).2.1]
  exact List.length_replicate

/-! ## The buckets -/

/-- The value does not exceed one of the boundaries up to the `i`-th. -/
def Within (boundaries : List Float) (i : Nat) (value : Float) : Prop :=
  ∃ limit ∈ boundaries.take (i + 1), value ≤ limit

instance (boundaries : List Float) (i : Nat) : DecidablePred (Within boundaries i) := fun value =>
  List.decidableBEx (fun limit => value ≤ limit) (boundaries.take (i + 1))

theorem bucketOf_le_iff {i : Nat} (hi : i < boundaries.length) :
    bucketOf boundaries value ≤ i ↔ Within boundaries i value := by
  have hlength : (boundaries.take (i + 1)).length = i + 1 := by
    rw [List.length_take]
    omega
  have hfound : min (i + 1) (bucketOf boundaries value) < i + 1 ↔ Within boundaries i value := by
    rw [bucketOf, ← List.findIdx_take]
    nth_rewrite 2 [← hlength]
    rw [List.findIdx_lt_length]
    simp only [decide_eq_true_eq]
    rfl
  rw [← hfound]
  omega

theorem bucketOf_le_length : bucketOf boundaries value ≤ boundaries.length := List.findIdx_le_length

/-- What is no number does not compare. -/
theorem not_le_of_isNaN (h : value.isNaN = true) (boundary : Float) : ¬ value ≤ boundary := by
  intro hle
  have hmodel : value.toModel.le boundary.toModel = true := of_decide_eq_true hle
  have hnan : value.toModel.unpack.isNaN = true := h
  rw [Float.Model.le] at hmodel
  cases hvalue : value.toModel.unpack with
  | notANumber =>
    rw [hvalue] at hmodel
    simp [Float.Model.UnpackedFloat.le, Float.Model.UnpackedFloat.compare] at hmodel
  | _ =>
    rw [hvalue] at hnan
    simp [Float.Model.UnpackedFloat.isNaN] at hnan

/-- The buckets in closed form. -/
theorem buckets_ofValues : (ofValues boundaries values).buckets =
    (List.range (boundaries.length + 1)).map fun i =>
      (boundaries[i]?, values.countP (bucketOf boundaries · ≤ i)) := by
  have hnames : (boundaries.map some ++ [none]).length = boundaries.length + 1 := by simp
  refine List.ext_getElem? fun i => ?_
  rw [buckets, boundaries_ofValues]
  by_cases hi : i ≤ boundaries.length
  · have hname : (boundaries.map some ++ [none])[i]? = some boundaries[i]? := by
      rw [List.getElem?_append, List.length_map, List.getElem?_map]
      split
      next hlt => rw [List.getElem?_eq_getElem hlt, Option.map_some]
      next hge =>
        obtain rfl : i = boundaries.length := by omega
        simp
    have hcount : (ofValues boundaries values).cumulative[i]? =
        some (values.countP (bucketOf boundaries · ≤ i)) := getElem?_cumulative_ofValues hi
    rw [List.getElem?_map, List.getElem?_range (by omega), Option.map_some]
    exact List.getElem?_zip_eq_some.2 ⟨hname, hcount⟩
  · rw [List.getElem?_eq_none, List.getElem?_eq_none]
    · rw [List.length_map, List.length_range]
      omega
    · rw [List.length_zip, hnames, length_cumulative_ofValues]
      omega

theorem toNat_thousandths_foldl (h : Histogram) (values : List Float) :
    (values.foldl observe h).thousandths.toNat =
      (h.thousandths.toNat + (values.map fun value => (toThousandths value).toNat).sum) % 2 ^ 64 := by
  induction values generalizing h with
  | nil => exact (Nat.mod_eq_of_lt h.thousandths.toNat_lt).symm
  | cons value values ih =>
    have hone : (h.observe value).thousandths.toNat =
        (h.thousandths.toNat + (toThousandths value).toNat) % 2 ^ 64 := UInt64.toNat_add _ _
    rw [List.foldl_cons, ih, hone, List.map_cons, List.sum_cons, Nat.mod_add_mod, Nat.add_assoc]

theorem toNat_thousandths_ofValues : (ofValues boundaries values).thousandths.toNat =
    (values.map fun value => (toThousandths value).toNat).sum % 2 ^ 64 := by
  rw [ofValues, toNat_thousandths_foldl]
  congr 1
  exact Nat.zero_add _

/-! ## The account of a histogram -/

/-- What a histogram says about the values that it was shown. -/
structure Exact (boundaries values : List Float) (h : Histogram) : Prop where
  /-- There is a bucket for each boundary, and one more. -/
  length : h.buckets.length = boundaries.length + 1
  /-- A bucket has its boundary, and counts the values that do not exceed one of those up to it. -/
  bucket : ∀ i boundary, boundaries[i]? = some boundary →
    h.buckets[i]? = some (some boundary, values.countP (Within boundaries i))
  /-- The last one counts all values. -/
  last : h.buckets[boundaries.length]? = some (none, h.count)
  /-- No value is left out. -/
  count : h.count = values.length
  /-- The counts do not decrease. -/
  ascending : (h.buckets.map Prod.snd).Pairwise (· ≤ ·)
  /-- One more value that is no number, or exceeds all boundaries, shows in the last bucket only. -/
  beyond : ∀ value : Float, (value.isNaN = true ∨ ∀ limit ∈ boundaries, ¬ value ≤ limit) →
    ∀ i < boundaries.length, (h.observe value).buckets[i]? = h.buckets[i]?
  /-- The sum of the values in whole thousandths, in a word that wraps. -/
  sum : h.thousandths.toNat = (values.map fun value => (toThousandths value).toNat).sum % 2 ^ 64

theorem exact_ofValues (boundaries values : List Float) :
    Exact boundaries values (ofValues boundaries values) := by
  have hcount : ∀ {i}, i < boundaries.length →
      (values.countP fun value => bucketOf boundaries value ≤ i) =
        values.countP (Within boundaries i) := by
    intro i hi
    refine List.countP_congr fun value _ => ?_
    rw [decide_eq_true_iff, decide_eq_true_iff]
    exact bucketOf_le_iff hi
  constructor
  case length => rw [buckets_ofValues, List.length_map, List.length_range]
  case bucket =>
    intro i boundary hboundary
    have hi : i < boundaries.length := (List.getElem?_eq_some_iff.1 hboundary).1
    rw [buckets_ofValues, List.getElem?_map, List.getElem?_range (by omega), Option.map_some,
      hboundary, hcount hi]
  case last =>
    have hall : (values.countP fun value => bucketOf boundaries value ≤ boundaries.length) =
        values.length :=
      List.countP_eq_length.2 fun value _ => decide_eq_true bucketOf_le_length
    rw [buckets_ofValues, List.getElem?_map, List.getElem?_range (by omega), Option.map_some, hall,
      count_ofValues, List.getElem?_eq_none (Nat.le_refl _)]
  case count => exact count_ofValues
  case ascending =>
    rw [buckets_ofValues, List.map_map]
    refine List.pairwise_map.2 (List.pairwise_lt_range.imp fun {i j} hij => ?_)
    refine List.countP_mono_left fun value _ hi => ?_
    exact decide_eq_true (Nat.le_trans (of_decide_eq_true hi) (Nat.le_of_lt hij))
  case beyond =>
    intro value hvalue i hi
    have hnone : ¬ bucketOf boundaries value ≤ i := by
      rw [bucketOf_le_iff hi]
      rintro ⟨limit, hlimit, hle⟩
      rcases hvalue with hnan | hexceeds
      · exact not_le_of_isNaN hnan limit hle
      · exact hexceeds limit (List.mem_of_mem_take hlimit) hle
    have hsnoc : (ofValues boundaries values).observe value =
        ofValues boundaries (values ++ [value]) := by
      rw [ofValues, ofValues, List.foldl_append]
      rfl
    rw [hsnoc, buckets_ofValues, buckets_ofValues, List.getElem?_map, List.getElem?_map,
      List.getElem?_range (by omega), Option.map_some, Option.map_some, List.countP_append,
      List.countP_singleton, decide_eq_false hnone]
    rfl
  case sum => exact toNat_thousandths_ofValues

/-- Whatever the boundaries are, a histogram that was shown fewer values than a word can count says of
each boundary how many of them do not exceed it or one before it. All its counts fit into a word. The
order in which the values came does not show. -/
theorem buckets_exact (boundaries values : List Float) (hfew : values.length < 2 ^ 64) :
    let h := ofValues boundaries values
    Exact boundaries values h ∧ h.count < 2 ^ 64 ∧ (∀ bucket ∈ h.buckets, bucket.2 < 2 ^ 64) ∧
      ∀ values', values.Perm values' →
        let h' := ofValues boundaries values'
        h'.buckets = h.buckets ∧ h'.count = h.count ∧ h'.sum = h.sum ∧ h'.mean = h.mean := by
  intro h
  refine ⟨exact_ofValues boundaries values, ?count, ?words, ?order⟩
  case count => exact Nat.lt_of_le_of_lt (Nat.le_of_eq count_ofValues) hfew
  case words =>
    intro bucket hbucket
    rw [buckets_ofValues] at hbucket
    obtain ⟨i, -, rfl⟩ := List.mem_map.1 hbucket
    exact Nat.lt_of_le_of_lt List.countP_le_length hfew
  case order =>
    intro values' hperm h'
    have hbuckets : h'.buckets = h.buckets := by
      rw [buckets_ofValues, buckets_ofValues]
      refine List.map_congr_left fun i _ => ?_
      rw [hperm.countP_eq]
    have hcount : h'.count = h.count := by
      rw [count_ofValues, count_ofValues, hperm.length_eq]
    have hthousandths : h'.thousandths = h.thousandths := by
      refine UInt64.toNat_inj.1 ?_
      rw [toNat_thousandths_ofValues, toNat_thousandths_ofValues, (hperm.map _).sum_eq]
    have hsum : h'.sum = h.sum := by rw [sum, hthousandths, sum]
    exact ⟨hbuckets, hcount, hsum, by rw [mean, hcount, hsum, mean]⟩

/-- The boundary 1 stands behind a 10, and so 5 counts below it too. One of the values is no number. -/
theorem buckets_exact_unsorted :
    let boundaries : List Float := [10, 1, 10]
    let values : List Float := [5, 0.0 / 0.0, 0.5, 20, -3]
    let h := ofValues boundaries values
    values.length < 2 ^ 64 ∧ h.buckets[1]? = some (some 1, 3) ∧ h.buckets[3]? = some (none, 5) ∧
      h.thousandths = 25500 ∧ (ofValues boundaries values.reverse).buckets = h.buckets ∧
      (ofValues boundaries values.reverse).mean = h.mean := by
  intro boundaries values h
  obtain ⟨hexact, -, -, horder⟩ := buckets_exact boundaries values (by decide)
  obtain ⟨hbuckets, -, -, hmean⟩ := horder values.reverse (List.reverse_perm values).symm
  have hwithin : values.countP (Within boundaries 1) = 3 := by decide +kernel
  have hthousandths : h.thousandths = 25500 := by decide +kernel
  have hsecond := hexact.bucket 1 1 rfl
  rw [hwithin] at hsecond
  have hlast := hexact.last
  rw [hexact.count] at hlast
  exact ⟨by decide, hsecond, hlast, hthousandths, hbuckets, hmean⟩

end QuorumRing.Histogram
