import Mathlib.Data.List.Nodup

/-!
# First occurrences

Of the items of a list that share a key, the first one. Graphs keep the first of several equal
edges, groupings list every key once; both keep the order in which the keys first occur.
-/

namespace EntityAtlas

variable {α β : Type}

theorem nodup_eraseDups [BEq α] [LawfulBEq α] (l : List α) : l.eraseDups.Nodup := by
  induction hn : l.length using Nat.strongRecOn generalizing l with
  | ind n ih =>
    cases l with
    | nil => exact List.nodup_nil
    | cons a l =>
      rw [List.eraseDups_cons, List.nodup_cons]
      refine ⟨?_, ih _ ?_ _ rfl⟩
      · rw [List.mem_eraseDups, List.mem_filter]
        simp
      · rw [← hn, List.length_cons]
        exact Nat.lt_succ_of_le (List.length_filter_le _ _)

theorem eraseDups_of_nodup [BEq α] [LawfulBEq α] {l : List α} (h : l.Nodup) : l.eraseDups = l := by
  induction l with
  | nil => rfl
  | cons a l ih =>
    obtain ⟨ha, hl⟩ := List.nodup_cons.mp h
    have hkept : l.filter (fun b => !b == a) = l := by
      refine List.filter_eq_self.mpr fun b hb => ?_
      have hne : b ≠ a := fun hba => ha (hba ▸ hb)
      simpa using hne
    rw [List.eraseDups_cons, hkept, ih hl]

/-- The distinct items of a list do not depend on its order. -/
theorem perm_eraseDups [BEq α] [LawfulBEq α] {l l' : List α} (h : l.Perm l') :
    l.eraseDups.Perm l'.eraseDups := by
  rw [List.perm_ext_iff_of_nodup (nodup_eraseDups l) (nodup_eraseDups l')]
  intro a
  rw [List.mem_eraseDups, List.mem_eraseDups, h.mem_iff]

variable [DecidableEq β]

/-- The first item of every key, in the order in which the keys first occur. -/
def firstOfEach (key : α → β) (l : List α) : List α :=
  (l.map key).eraseDups.filterMap fun k => l.find? (key · = k)

section FirstOfEach

variable {key : α → β} {l : List α}

theorem firstOfEach_cons (a : α) :
    firstOfEach key (a :: l) = a :: firstOfEach key (l.filter (key · ≠ key a)) := by
  have hkeys : (l.map key).filter (fun k => !k == key a) =
      (l.filter (key · ≠ key a)).map key := by
    rw [List.filter_map]
    congr 2
    funext b
    simp [Bool.beq_eq_decide_eq]
  have hhead : (a :: l).find? (key · = key a) = some a := by simp
  unfold firstOfEach
  rw [List.map_cons, List.eraseDups_cons, hkeys, List.filterMap_cons, hhead]
  refine congrArg (a :: ·) (List.filterMap_congr fun k hk => ?_)
  have hne : k ≠ key a := by
    obtain ⟨b, hb, rfl⟩ := List.mem_map.mp (List.mem_eraseDups.mp hk)
    simpa using (List.mem_filter.mp hb).2
  rw [List.find?_cons_of_neg (by simpa using Ne.symm hne), List.find?_filter]
  congr 1
  funext b
  by_cases hb : key b = k
  · simp [hb, hne]
  · simp [hb]

/-- Induction that leaves out, with an item, all later ones of its key. -/
theorem firstOfEach_induct {motive : List α → Prop} (key : α → β) (nil : motive [])
    (cons : ∀ a l, motive (l.filter (key · ≠ key a)) → motive (a :: l)) (l : List α) :
    motive l := by
  induction hn : l.length using Nat.strongRecOn generalizing l with
  | ind n ih =>
    cases l with
    | nil => exact nil
    | cons a l =>
      have hle := List.length_filter_le (fun b => decide (key b ≠ key a)) l
      have hlt : l.length < n := by rw [← hn, List.length_cons]; omega
      exact cons a l (ih _ (by omega) _ rfl)

theorem map_firstOfEach (key : α → β) (l : List α) :
    (firstOfEach key l).map key = (l.map key).eraseDups := by
  unfold firstOfEach
  rw [List.map_filterMap]
  refine (List.filterMap_congr (g := some) fun k hk => ?_).trans (List.filterMap_some)
  obtain ⟨b, hb, rfl⟩ := List.mem_map.mp (List.mem_eraseDups.mp hk)
  cases hf : l.find? (key · = key b) with
  | none => simpa using List.find?_eq_none.mp hf b hb
  | some c =>
    have hc : key c = key b := by simpa using List.find?_some hf
    simp [hc]

theorem mem_map_firstOfEach {key : α → β} {l : List α} {k : β} :
    k ∈ (firstOfEach key l).map key ↔ k ∈ l.map key := by
  rw [map_firstOfEach, List.mem_eraseDups]

theorem nodup_map_firstOfEach (key : α → β) (l : List α) :
    ((firstOfEach key l).map key).Nodup := by
  rw [map_firstOfEach]
  exact nodup_eraseDups _

theorem firstOfEach_of_nodup {key : α → β} {l : List α} (h : (l.map key).Nodup) :
    firstOfEach key l = l := by
  induction l with
  | nil => rfl
  | cons a l ih =>
    obtain ⟨ha, hl⟩ := List.nodup_cons.mp h
    have hkept : l.filter (key · ≠ key a) = l := by
      refine List.filter_eq_self.mpr fun b hb => ?_
      have hne : key b ≠ key a := fun heq => ha (List.mem_map.mpr ⟨b, hb, heq⟩)
      simpa using hne
    rw [firstOfEach_cons, hkept, ih hl]

theorem mem_firstOfEach {a : α} : a ∈ firstOfEach key l ↔ l.find? (key · = key a) = some a := by
  unfold firstOfEach
  rw [List.mem_filterMap]
  constructor
  · rintro ⟨k, _, hk⟩
    obtain rfl : key a = k := by simpa using List.find?_some hk
    exact hk
  · intro h
    exact ⟨key a, List.mem_eraseDups.mpr (List.mem_map_of_mem (List.mem_of_find?_eq_some h)), h⟩

/-- Selecting by key and keeping the first of each key are independent. -/
theorem filter_firstOfEach (key : α → β) (p : β → Bool) (l : List α) :
    (firstOfEach key l).filter (fun a => p (key a)) =
      firstOfEach key (l.filter fun a => p (key a)) := by
  induction l using firstOfEach_induct key with
  | nil => rfl
  | cons a l ih =>
    rw [firstOfEach_cons, List.filter_cons, List.filter_cons]
    by_cases ha : p (key a) = true
    · rw [if_pos ha, if_pos ha, firstOfEach_cons, ih, List.filter_filter, List.filter_filter]
      simp only [Bool.and_comm]
    · rw [if_neg ha, if_neg ha, ih, List.filter_filter]
      congr 2
      funext b
      by_cases hb : p (key b) = true
      · have hne : key b ≠ key a := fun h => ha (h ▸ hb)
        simp [hb, hne]
      · simp [hb]

/-- The first items by a key are those by another that tells the same items apart. -/
theorem map_firstOfEach_eq {γ δ : Type} [DecidableEq δ] (key : α → β) (f : α → γ) (key' : γ → δ)
    (l : List α) (h : ∀ a ∈ l, ∀ b ∈ l, key a = key b ↔ key' (f a) = key' (f b)) :
    (firstOfEach key l).map f = firstOfEach key' (l.map f) := by
  induction l using firstOfEach_induct key with
  | nil => rfl
  | cons a l ih =>
    rw [firstOfEach_cons, List.map_cons, List.map_cons, firstOfEach_cons, ih, List.filter_map]
    · congr 3
      refine List.filter_congr fun b hb => ?_
      have hsame := h b (List.mem_cons_of_mem _ hb) a List.mem_cons_self
      simp [hsame]
    · intro b hb c hc
      exact h b (List.mem_cons_of_mem _ (List.mem_filter.mp hb).1)
        c (List.mem_cons_of_mem _ (List.mem_filter.mp hc).1)

end FirstOfEach

end EntityAtlas
