import FedLoad.Proofs.Keyed
import FedLoad.Proofs.Latency.Buckets
import Mathlib.Data.List.Dedup
import Mathlib.Tactic.Ring
import Mathlib.Tactic.FieldSimp
import Mathlib.Algebra.BigOperators.Group.List.Basic
/-!
# Histograms and the values they hold

Spelled out, each bucket as often as it is counted, the counts of a histogram are the buckets of the
values that it holds, in ascending order. Since buckets ascend with the values in them, the running
count reaches a rank at the bucket of the value of that rank, so that a quantile is an order
statistic up to the width of a bucket. The mean is that of the middles of the buckets of all values.

Main statements: `Histogram.Holds.record`, `Histogram.Holds.quantile_eq`,
`Histogram.Holds.mean_exact`.
-/
namespace FedLoad.Latency

/-! ## Values in ascending order -/

/-- The same values in ascending order. -/
def ascending (values : List Nat) : List Nat := values.mergeSort (· ≤ ·)

theorem ascending_nil : ascending [] = [] := List.mergeSort_nil

theorem ascending_perm (values : List Nat) : (ascending values).Perm values :=
  List.mergeSort_perm values _

theorem ascending_ne_nil {values : List Nat} (h : values ≠ []) : ascending values ≠ [] := by
  intro hnil
  have hperm := ascending_perm values
  rw [hnil] at hperm
  exact h hperm.symm.eq_nil

theorem pairwise_ascending (values : List Nat) : (ascending values).Pairwise (· ≤ ·) := by
  have hsorted : (values.mergeSort (· ≤ ·)).Pairwise fun a b => decide (a ≤ b) = true :=
    List.pairwise_mergeSort (fun a b c => by simpa using Nat.le_trans)
      (fun a b => by simpa using Nat.le_total a b) values
  simpa [ascending] using hsorted

/-- There is one ascending order only. -/
theorem eq_of_ascending_perm {values others : List Nat} (h : values.Pairwise (· ≤ ·))
    (h' : others.Pairwise (· ≤ ·)) (hperm : values.Perm others) : values = others :=
  hperm.eq_of_pairwise (fun _ _ _ _ => Nat.le_antisymm) h h'

theorem head?_ascending {values : List Nat} {least : Nat} (h : least ∈ values)
    (hall : ∀ v ∈ values, least ≤ v) : (ascending values).head? = some least := by
  have hsorted := pairwise_ascending values
  have hperm := ascending_perm values
  have hmem := hperm.mem_iff.2 h
  cases hvalues : ascending values with
  | nil => rw [hvalues] at hmem; cases hmem
  | cons v rest =>
    rw [hvalues] at hsorted hperm hmem
    have hle := hall v (hperm.mem_iff.1 List.mem_cons_self)
    rcases List.mem_cons.1 hmem with rfl | hrest
    · rfl
    · have hge := (List.pairwise_cons.1 hsorted).1 least hrest
      exact congrArg some (Nat.le_antisymm hge hle)

theorem getLast?_ascending {values : List Nat} {most : Nat} (h : most ∈ values)
    (hall : ∀ v ∈ values, v ≤ most) : (ascending values).getLast? = some most := by
  have hsorted := pairwise_ascending values
  have hperm := ascending_perm values
  have hmem := hperm.mem_iff.2 h
  obtain hvalues | ⟨rest, v, hvalues⟩ := List.eq_nil_or_concat (ascending values)
  · rw [hvalues] at hmem
    cases hmem
  · rw [List.concat_eq_append] at hvalues
    rw [hvalues] at hsorted hperm hmem ⊢
    rw [List.getLast?_concat]
    have hle := hall v (hperm.mem_iff.1 (List.mem_append_right _ (List.mem_singleton_self v)))
    rcases List.mem_append.1 hmem with hrest | hlast
    · have hge := (List.pairwise_append.1 hsorted).2.2 most hrest v (List.mem_singleton_self v)
      exact congrArg some (Nat.le_antisymm hle hge)
    · rw [List.mem_singleton.1 hlast]

/-! ## Counts spelled out -/

/-- Every bucket as often as it is counted. -/
def expand : List (Nat × Nat) → List Nat
  | [] => []
  | (low, n) :: rest => List.replicate n low ++ expand rest

theorem mem_expand {counts : List (Nat × Nat)} {low : Nat} (h : low ∈ expand counts) :
    ∃ p ∈ counts, p.1 = low := by
  induction counts with
  | nil => cases h
  | cons p rest ih =>
    rcases List.mem_append.1 h with h | h
    · exact ⟨p, List.mem_cons_self, (List.eq_of_mem_replicate h).symm⟩
    · obtain ⟨q, hq, hlow⟩ := ih h
      exact ⟨q, List.mem_cons_of_mem _ hq, hlow⟩

theorem expand_bump (counts : List (Nat × Nat)) (low : Nat) :
    (expand (Keyed.bump low 1 counts)).Perm (low :: expand counts) := by
  induction counts with
  | nil => exact List.Perm.refl _
  | cons p rest ih =>
    obtain ⟨k, n⟩ := p
    unfold Keyed.bump Keyed.alter
    split
    · exact List.Perm.refl _
    · split
      · next heq =>
        subst heq
        exact List.Perm.refl _
      · exact (List.Perm.append_left _ ih).trans List.perm_middle

theorem pairwise_expand {counts : List (Nat × Nat)} (h : Keyed.Ascending counts) :
    (expand counts).Pairwise (· ≤ ·) := by
  induction counts with
  | nil => exact List.Pairwise.nil
  | cons p rest ih =>
    obtain ⟨hfirst, hrest⟩ := List.pairwise_cons.1 h
    refine List.pairwise_append.2 ⟨List.pairwise_replicate.2 (.inr (Nat.le_refl _)), ih hrest, ?_⟩
    intro a ha b hb
    obtain ⟨q, hq, rfl⟩ := mem_expand hb
    rw [List.eq_of_mem_replicate ha]
    exact Nat.le_of_lt (number_before_iff.1 (hfirst q hq))

theorem length_expand (counts : List (Nat × Nat)) :
    (expand counts).length = (counts.map Prod.snd).foldr (· + ·) 0 := by
  induction counts with
  | nil => rfl
  | cons p rest ih =>
    rw [expand, List.length_append, List.length_replicate, ih]
    rfl

/-- The running count reaches a rank where the value of that rank is counted. -/
theorem bucketAt?_eq (counts : List (Nat × Nat)) {rank : Nat} (h : 0 < rank) :
    Histogram.bucketAt? rank counts = (expand counts)[rank - 1]? := by
  induction counts generalizing rank with
  | nil => rfl
  | cons p rest ih =>
    obtain ⟨low, n⟩ := p
    rw [expand, List.getElem?_append, List.length_replicate, Histogram.bucketAt?]
    by_cases hle : rank ≤ n
    · rw [if_pos hle, if_pos (by omega), List.getElem?_replicate, if_pos (by omega)]
    · have hrest : rank - 1 - n = rank - n - 1 := by omega
      rw [if_neg hle, if_neg (by omega), hrest, ih (by omega)]

theorem count_expand {counts : List (Nat × Nat)} (h : Keyed.Ascending counts) {p : Nat × Nat}
    (hp : p ∈ counts) : (expand counts).count p.1 = p.2 := by
  induction counts with
  | nil => cases hp
  | cons q rest ih =>
    obtain ⟨hfirst, hrest⟩ := List.pairwise_cons.1 h
    rw [expand, List.count_append]
    rcases List.mem_cons.1 hp with rfl | hp
    · have hnot : p.1 ∉ expand rest := by
        intro hmem
        obtain ⟨r, hr, heq⟩ := mem_expand hmem
        exact LinearKey.ne (hfirst r hr) heq.symm
      rw [List.count_replicate_self, List.count_eq_zero.2 hnot, Nat.add_zero]
    · have hne : p.1 ≠ q.1 := (LinearKey.ne (hfirst p hp)).symm
      have hnot : p.1 ∉ List.replicate q.2 q.1 := fun hmem => hne (List.eq_of_mem_replicate hmem)
      rw [List.count_eq_zero.2 hnot, Nat.zero_add, ih hrest hp]

/-- The keys are the buckets that are counted, each once. -/
theorem keys_eq {counts : List (Nat × Nat)} (h : Keyed.Ascending counts)
    (hpos : ∀ p ∈ counts, 0 < p.2) : counts.map Prod.fst = (expand counts).dedup := by
  have hkeys : (counts.map Prod.fst).Pairwise (· < ·) :=
    h.map _ fun _ _ hbefore => number_before_iff.1 hbefore
  refine eq_of_ascending_perm (hkeys.imp Nat.le_of_lt)
    ((pairwise_expand h).sublist (List.dedup_sublist _)) ?_
  refine (List.perm_ext_iff_of_nodup (hkeys.imp Nat.ne_of_lt) (List.nodup_dedup _)).2 fun low => ?_
  rw [List.mem_dedup, List.mem_map]
  constructor
  · rintro ⟨p, hp, rfl⟩
    rw [← List.count_pos_iff, count_expand h hp]
    exact hpos p hp
  · exact mem_expand

/-- The buckets of some values, in ascending order. -/
def buckets (values : List Nat) : List Nat := ((ascending values).map bucketLow).dedup

theorem mem_buckets {values : List Nat} {low : Nat} (h : low ∈ buckets values) :
    ∃ v ∈ values, bucketLow v = low := by
  obtain ⟨v, hv, hlow⟩ := List.mem_map.1 (List.mem_dedup.1 h)
  exact ⟨v, (ascending_perm values).mem_iff.1 hv, hlow⟩

/-- The mean of the middles of the buckets, each with the weight of the values in it. -/
def bucketMean (α : Type) [Scalar α] (values : List Nat) : α :=
  (buckets values).foldl
    (fun sum low => sum + Scalar.ofNat (bucketMid low) *
      Scalar.ofNat (values.countP (bucketLow · = low)) / Scalar.ofNat values.length)
    (Scalar.ofNat 0)

/-- Adding up the middles by buckets adds up the middles of all that is counted. -/
theorem foldl_middles (counts : List (Nat × Nat)) (total : Nat) (start : Rat) :
    counts.foldl (fun sum p => sum + (bucketMid p.1 : Rat) * (p.2 : Rat) / (total : Rat)) start =
      start + ((expand counts).map fun low => (bucketMid low : Rat)).sum / total := by
  induction counts generalizing start with
  | nil => simp [expand]
  | cons p rest ih =>
    rw [List.foldl_cons, ih, expand, List.map_append, List.sum_append, List.map_replicate,
      List.sum_replicate, nsmul_eq_mul]
    ring

/-- Quantiles past one count as one. -/
def capped (q : Float) : Float := if q > 1.0 then 1.0 else q

/-- The bucket of the value whose rank belongs to a quantile: its high end, or its low end for
quantile zero. Ranks are calculated in floats, which count exactly up to `2^53` only, and a rank past
the last value has no bucket. -/
def quantileOf (values : List Nat) (q : Float) : Nat :=
  ((ascending values)[Histogram.rankOf (capped q) values.length - 1]?.map fun v =>
    if capped q == 0.0 then bucketLow v else bucketHigh v).getD 0

/-- A quantile is read off a bucket, if not off none. -/
theorem quantileOf_le {values : List Nat} {most : Nat} (h : ∀ v ∈ values, bucketHigh v ≤ most)
    (q : Float) : quantileOf values q ≤ most := by
  rw [quantileOf]
  generalize hfound : (ascending values)[Histogram.rankOf (capped q) values.length - 1]? = found
  cases found with
  | none => exact Nat.zero_le most
  | some v =>
    have hv := h v ((ascending_perm values).mem_iff.1 (List.mem_of_getElem? hfound))
    dsimp only [Option.map_some, Option.getD_some]
    split
    · exact Nat.le_trans (bucketLow_le v) (Nat.le_trans (le_bucketHigh v) hv)
    · exact hv

/-! ## What a histogram holds -/

/-- Are these the least and the largest of some values? -/
def AreExtremes (extremes : Option (Nat × Nat)) (values : List Nat) : Prop :=
  match extremes with
  | none => values = []
  | some (least, most) => least ∈ values ∧ most ∈ values ∧ ∀ v ∈ values, least ≤ v ∧ v ≤ most

theorem areExtremes_widen {extremes : Option (Nat × Nat)} {values : List Nat}
    (h : AreExtremes extremes values) (v : Nat) :
    AreExtremes (some (Histogram.widen v extremes)) (values ++ [v]) := by
  cases extremes with
  | none =>
    obtain rfl : values = [] := h
    exact ⟨List.mem_singleton_self v, List.mem_singleton_self v, by simp⟩
  | some e =>
    obtain ⟨least, most⟩ := e
    obtain ⟨hleast, hmost, hall⟩ := h
    have hmin : min least v = least ∨ min least v = v := by omega
    have hmax : max most v = most ∨ max most v = v := by omega
    refine ⟨?_, ?_, fun w hw => ?_⟩
    · rcases hmin with heq | heq
      · exact List.mem_append_left _ (heq.symm ▸ hleast)
      · exact List.mem_append_right _ (heq.symm ▸ List.mem_singleton_self v)
    · rcases hmax with heq | heq
      · exact List.mem_append_left _ (heq.symm ▸ hmost)
      · exact List.mem_append_right _ (heq.symm ▸ List.mem_singleton_self v)
    · rcases List.mem_append.1 hw with hw | hw
      · have hbounds := hall w hw
        omega
      · obtain rfl := List.mem_singleton.1 hw
        omega

/-- Has a histogram counted these values, and seen those before and since it was cleared? -/
structure Histogram.Holds (h : Histogram) (values seen : List Nat) : Prop where
  ascending : Keyed.Ascending h.counts
  positive : ∀ p ∈ h.counts, 0 < p.2
  counted : (expand h.counts).Perm (values.map bucketLow)
  extremes : AreExtremes h.extremes seen

namespace Histogram

variable {h : Histogram} {values seen : List Nat}

theorem holds_empty : empty.Holds [] [] where
  ascending := List.Pairwise.nil
  positive := nofun
  counted := List.Perm.refl _
  extremes := rfl

theorem Holds.record (hh : h.Holds values seen) (micros : Nat) :
    (h.record micros).Holds (values ++ [tracked micros]) (seen ++ [tracked micros]) where
  ascending := Keyed.ascending_alter hh.ascending
  positive := Keyed.forall_alter (0 < ·) hh.positive fun _ _ => Nat.succ_pos _
  counted := by
    have hcons := (expand_bump h.counts (bucketLow (tracked micros))).trans (hh.counted.cons _)
    rw [List.map_append]
    exact hcons.trans (List.perm_append_singleton _ _).symm
  extremes := areExtremes_widen hh.extremes _

namespace Holds

theorem expand_eq (hh : h.Holds values seen) :
    expand h.counts = (Latency.ascending values).map bucketLow := by
  refine eq_of_ascending_perm (pairwise_expand hh.ascending) ?_ ?_
  · exact (pairwise_ascending values).map _ fun _ _ => bucketLow_mono
  · exact hh.counted.trans ((ascending_perm values).map bucketLow).symm

theorem count_eq (hh : h.Holds values seen) : h.count = values.length := by
  rw [Histogram.count, ← length_expand, hh.counted.length_eq, List.length_map]

theorem isEmpty_eq (hh : h.Holds values seen) : h.isEmpty = values.isEmpty := by
  have hlength := hh.counted.length_eq
  have hpositive := hh.positive
  rw [List.length_map] at hlength
  rw [isEmpty]
  cases hcounts : h.counts with
  | nil =>
    rw [hcounts] at hlength
    rw [List.eq_nil_of_length_eq_zero hlength.symm]
    rfl
  | cons p rest =>
    rw [hcounts] at hlength hpositive
    have hp := hpositive p List.mem_cons_self
    rw [expand, List.length_append, List.length_replicate] at hlength
    cases values with
    | nil => rw [List.length_nil] at hlength; omega
    | cons v more => rfl

/-- What is read at a quantile is the bucket of the value of its rank. -/
theorem quantile_eq (hh : h.Holds values seen) (q : Float) : h.quantile q = quantileOf values q := by
  have hrank : 0 < rankOf (capped q) values.length :=
    Nat.lt_of_lt_of_le Nat.one_pos (Nat.le_max_left ..)
  have hcapped : (if q > 1.0 then 1.0 else q) = capped q := rfl
  unfold quantile
  dsimp only
  rw [hcapped, quantileOf, hh.count_eq, bucketAt?_eq _ hrank, hh.expand_eq, List.getElem?_map]
  generalize (Latency.ascending values)[rankOf (capped q) values.length - 1]? = found
  cases found with
  | none => rfl
  | some v =>
    dsimp only [Option.map_some, Option.getD_some]
    rw [bucketHigh_bucketLow]

theorem least_eq (hh : h.Holds values seen) :
    h.least = ((Latency.ascending seen).head?.map bucketLow).getD 0 := by
  have hextremes := hh.extremes
  rw [least]
  cases hfound : h.extremes with
  | none =>
    rw [hfound] at hextremes
    obtain rfl : seen = [] := hextremes
    rw [ascending_nil]
    rfl
  | some e =>
    rw [hfound] at hextremes
    obtain ⟨hleast, -, hall⟩ := hextremes
    rw [head?_ascending hleast fun v hv => (hall v hv).1]
    rfl

theorem most_eq (hh : h.Holds values seen) :
    h.most = ((Latency.ascending seen).getLast?.map bucketHigh).getD 0 := by
  have hextremes := hh.extremes
  rw [most]
  cases hfound : h.extremes with
  | none =>
    rw [hfound] at hextremes
    obtain rfl : seen = [] := hextremes
    rw [ascending_nil]
    rfl
  | some e =>
    rw [hfound] at hextremes
    obtain ⟨-, hmost, hall⟩ := hextremes
    rw [getLast?_ascending hmost fun v hv => (hall v hv).2]
    rfl

theorem counts_eq (hh : h.Holds values seen) :
    h.counts = (buckets values).map fun low => (low, values.countP (bucketLow · = low)) := by
  rw [buckets, ← hh.expand_eq, ← keys_eq hh.ascending hh.positive, List.map_map]
  refine (List.map_id' h.counts).symm.trans (List.map_congr_left fun p hp => Prod.ext rfl ?_)
  change p.2 = values.countP (bucketLow · = p.1)
  rw [← count_expand hh.ascending hp, hh.counted.count_eq, List.count_eq_countP, List.countP_map]
  rfl

theorem mean_eq (α : Type) [Scalar α] (hh : h.Holds values seen) : h.mean α = bucketMean α values := by
  rw [mean, bucketMean, hh.counts_eq, hh.count_eq, List.foldl_map]

/-- In exact numbers this is the mean of the middles of the buckets of all values. -/
theorem mean_exact (hh : h.Holds values seen) :
    h.mean Rat = (values.map fun v => (bucketMid v : Rat)).sum / values.length := by
  have hmiddles : (expand h.counts).map (fun low => (bucketMid low : Rat)) =
      ((Latency.ascending values).map fun v => (bucketMid v : Rat)) := by
    rw [hh.expand_eq, List.map_map]
    exact List.map_congr_left fun v _ => congrArg Nat.cast (bucketMid_bucketLow v)
  have hsum := ((ascending_perm values).map fun v => (bucketMid v : Rat)).sum_eq
  rw [mean, hh.count_eq, ← hsum, ← hmiddles]
  exact (foldl_middles h.counts values.length 0).trans (zero_add _)

end Holds

end Histogram

end FedLoad.Latency
