import Mathlib.Algebra.BigOperators.Group.List.Lemmas
import Mathlib.Algebra.GroupWithZero.Nat

/-!
# Counts by a tag

Rows that count items by a tag have each tag once, with the number of the items that carry it. As
every item carries one tag, the counts of some tags add up to the number of items that carry any of
them, whether or not there are rows for tags that no item carries.
-/

namespace EntityAtlas

/-- The sum of the counts of some rows. -/
def total {κ : Type} (rows : List (κ × Nat)) : Nat := (rows.map (·.2)).sum

/-- How many items carry each of some tags, added up, is how many carry any of them. -/
theorem sum_countP {ι κ : Type} [DecidableEq κ] (items : List ι) (tag : ι → κ) {tags : List κ}
    (hnd : tags.Nodup) :
    (tags.map fun k => items.countP fun x => tag x = k).sum =
      items.countP fun x => tag x ∈ tags := by
  induction items with
  | nil => simp
  | cons x items ih =>
    -- the item adds one to the count of its own tag and nothing to the others
    have hone : (tags.map fun k => if tag x = k then 1 else 0).sum =
        if tag x ∈ tags then 1 else 0 := by
      rw [List.sum_map_eq_nsmul_single (tag x) _ fun k hk _ => if_neg (Ne.symm hk), hnd.count,
        if_pos rfl]
      by_cases hx : tag x ∈ tags
      · rw [if_pos hx, one_nsmul]
      · rw [if_neg hx, zero_nsmul]
    simp only [List.countP_cons, decide_eq_true_eq, List.sum_map_add, ih, hone]

/-- Rows that count items by a tag: no two are about the same tag, each holds the number of items
that carry its tag, and no item's tag is left out. -/
structure Counts {ι κ : Type} [DecidableEq κ] (items : List ι) (tag : ι → κ)
    (rows : List (κ × Nat)) : Prop where
  nodup : (rows.map (·.1)).Nodup
  count_eq : ∀ r ∈ rows, r.2 = items.countP fun x => tag x = r.1
  covers : ∀ x ∈ items, tag x ∈ rows.map (·.1)

namespace Counts

variable {ι κ : Type} [DecidableEq κ] {items : List ι} {tag : ι → κ} {rows : List (κ × Nat)}

/-- A tag that some item carries has a row with its count, and there are no other rows but zeros. -/
theorem mem_iff (h : Counts items tag rows) {r : κ × Nat} (hr : r.2 ≠ 0) :
    r ∈ rows ↔ r.2 = items.countP fun x => tag x = r.1 := by
  constructor
  · exact h.count_eq r
  · intro hcount
    obtain ⟨x, hx, htag⟩ : ∃ x ∈ items, tag x = r.1 := by
      have hpos : 0 < items.countP fun x => tag x = r.1 := by omega
      simpa using List.countP_pos_iff.mp hpos
    obtain ⟨r', hr', heq⟩ := List.mem_map.mp (h.covers x hx)
    have hfst : r'.1 = r.1 := heq.trans htag
    have hsnd : r'.2 = r.2 := by rw [h.count_eq r' hr', hfst, hcount]
    rwa [← Prod.ext hfst hsnd]

/-- The counts of the tags that satisfy a condition add up to the number of items whose tag does. -/
theorem total_filter (h : Counts items tag rows) (p : κ → Bool) :
    total (rows.filter fun r => p r.1) = items.countP fun x => p (tag x) := by
  have hnd : ((rows.filter fun r => p r.1).map (·.1)).Nodup :=
    h.nodup.sublist (List.filter_sublist.map _)
  have hcounts : (rows.filter fun r => p r.1).map (·.2) =
      ((rows.filter fun r => p r.1).map (·.1)).map fun k => items.countP fun x => tag x = k := by
    rw [List.map_map]
    exact List.map_congr_left fun r hr => h.count_eq r (List.mem_filter.mp hr).1
  unfold total
  rw [hcounts, sum_countP items tag hnd]
  refine List.countP_congr fun x hx => ?_
  rw [decide_eq_true_eq]
  constructor
  · intro hmem
    obtain ⟨r, hr, heq⟩ := List.mem_map.mp hmem
    rw [← heq]
    exact (List.mem_filter.mp hr).2
  · intro hp
    obtain ⟨r, hr, heq⟩ := List.mem_map.mp (h.covers x hx)
    refine List.mem_map.mpr ⟨r, List.mem_filter.mpr ⟨hr, ?_⟩, heq⟩
    rw [heq]
    exact hp

/-- All counts add up to the number of items. -/
theorem total_eq (h : Counts items tag rows) : total rows = items.length := by
  have hall := h.total_filter fun _ => true
  rwa [List.filter_true, List.countP_true] at hall

end Counts

end EntityAtlas
