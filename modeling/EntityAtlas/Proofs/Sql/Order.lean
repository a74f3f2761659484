import EntityAtlas.Proofs.FirstOccurrence
import EntityAtlas.Sql.Evaluate

/-!
# The order of values and rows

Values are strictly and totally ordered, and rows lexicographically. The distinct rows of a list are
its members, each once, in that order; so the rows that a grouping yields are determined by the
groups and their measures.
-/

namespace EntityAtlas.Sql

namespace Value

theorem less_irrefl (a : Value) : a.less a = false := by
  cases a with
  | null => rfl
  | int i => exact decide_eq_false (Int.lt_irrefl i)
  | text s => exact decide_eq_false (String.lt_irrefl s)

theorem less_trans {a b c : Value} (hab : a.less b = true) (hbc : b.less c = true) :
    a.less c = true := by
  cases a <;> cases b <;> cases c <;> simp only [less, decide_eq_true_eq, Bool.false_eq_true]
    at hab hbc ⊢
  · exact Int.lt_trans hab hbc
  · exact String.lt_trans hab hbc

theorem less_trichotomy (a b : Value) : a.less b = true ∨ a = b ∨ b.less a = true := by
  cases a <;> cases b <;> simp only [less, decide_eq_true_eq, Value.int.injEq, Value.text.injEq,
    reduceCtorEq, Bool.false_eq_true, or_true, or_false]
  · exact Int.lt_trichotomy _ _
  · rename_i s t
    by_cases hst : s < t
    · exact Or.inl hst
    · by_cases hts : t < s
      · exact Or.inr (Or.inr hts)
      · exact Or.inr (Or.inl (String.le_antisymm hts hst))

theorem less_asymm {a b : Value} (h : a.less b = true) : b.less a = false := by
  refine Bool.eq_false_iff.mpr fun hba => ?_
  have haa := less_trans h hba
  rw [less_irrefl] at haa
  cases haa

theorem not_less_trans {a b c : Value} (hab : a.less b = false) (hbc : b.less c = false) :
    a.less c = false := by
  refine Bool.eq_false_iff.mpr fun hac => ?_
  rcases less_trichotomy a b with h | rfl | h
  · rw [hab] at h
    cases h
  · rw [hbc] at hac
    cases hac
  · rw [less_trans h hac] at hbc
    cases hbc

theorem less_null (a : Value) : a.less .null = false := by
  cases a <;> rfl

end Value

namespace Row

/-- One row comes strictly before another, the first difference being decisive. -/
def Before (a b : Row) : Prop := List.Lex (fun x y => Value.less x y = true) a b

theorem before_singleton {a b : Value} : Before [a] [b] ↔ a.less b = true := by
  constructor
  · rintro (_ | h | h)
    · exact h
    · cases h
  · exact fun h => .rel h

theorem Before.trans {a b c : Row} (hab : Before a b) (hbc : Before b c) : Before a c := by
  induction hab generalizing c with
  | nil => cases hbc <;> exact .nil
  | rel h =>
    cases hbc with
    | rel h' => exact .rel (Value.less_trans h h')
    | cons h' => exact .rel h
  | cons h ih =>
    cases hbc with
    | rel h' => exact .rel h'
    | cons h' => exact .cons (ih h')

theorem before_irrefl (a : Row) : ¬Before a a := by
  induction a with
  | nil => rintro ⟨⟩
  | cons x a ih =>
    rintro (_ | h | h)
    · rw [Value.less_irrefl] at h
      cases h
    · exact ih h

theorem before_trichotomy : ∀ a b : Row, Before a b ∨ a = b ∨ Before b a
  | [], [] => Or.inr (Or.inl rfl)
  | [], _ :: _ => Or.inl .nil
  | _ :: _, [] => Or.inr (Or.inr .nil)
  | x :: a, y :: b => by
    rcases Value.less_trichotomy x y with h | rfl | h
    · exact Or.inl (.rel h)
    · rcases before_trichotomy a b with h | rfl | h
      · exact Or.inl (.cons h)
      · exact Or.inr (Or.inl rfl)
      · exact Or.inr (Or.inr (.cons h))
    · exact Or.inr (Or.inr (.rel h))

theorem notAfter_iff : ∀ {a b : Row}, notAfter a b = true ↔ Before a b ∨ a = b
  | [], [] => by simp [notAfter]
  | [], _ :: _ => ⟨fun _ => Or.inl .nil, fun _ => rfl⟩
  | _ :: _, [] => by
    refine ⟨nofun, ?_⟩
    rintro (h | h)
    · cases h
    · cases h
  | x :: a, y :: b => by
    unfold notAfter
    by_cases hxy : x = y
    · subst hxy
      rw [if_pos rfl, notAfter_iff]
      constructor
      · rintro (h | rfl)
        · exact Or.inl (.cons h)
        · exact Or.inr rfl
      · rintro ((_ | h | h) | h)
        · rw [Value.less_irrefl] at h
          cases h
        · exact Or.inl h
        · exact Or.inr (List.cons.inj h).2
    · rw [if_neg hxy]
      constructor
      · exact fun h => Or.inl (.rel h)
      · rintro ((_ | h | h) | h)
        · exact h
        · exact absurd rfl hxy
        · exact absurd (List.cons.inj h).1 hxy

end Row

/-! ## Distinct rows -/

namespace Evaluate

theorem mem_distinct {rows : List Row} {r : Row} : r ∈ distinct rows ↔ r ∈ rows := by
  unfold distinct
  rw [List.mem_mergeSort, List.mem_eraseDups]

/-- The distinct rows of a list come strictly one before the other. -/
theorem pairwise_distinct (rows : List Row) : (distinct rows).Pairwise Row.Before := by
  have hle : (distinct rows).Pairwise fun a b => Row.notAfter a b = true := by
    refine List.pairwise_mergeSort ?_ ?_ _
    · intro a b c hab hbc
      rcases Row.notAfter_iff.mp hab with h | rfl
      · rcases Row.notAfter_iff.mp hbc with h' | rfl
        · exact Row.notAfter_iff.mpr (Or.inl (h.trans h'))
        · exact hab
      · exact hbc
    · intro a b
      rw [Bool.or_eq_true, Row.notAfter_iff, Row.notAfter_iff]
      rcases Row.before_trichotomy a b with h | h | h
      · exact Or.inl (Or.inl h)
      · exact Or.inl (Or.inr h)
      · exact Or.inr (Or.inl h)
  have hne : (distinct rows).Pairwise (· ≠ ·) :=
    (List.mergeSort_perm _ _).nodup_iff.mpr (nodup_eraseDups rows)
  refine (hle.and hne).imp fun h => ?_
  rcases Row.notAfter_iff.mp h.1 with hb | heq
  · exact hb
  · exact absurd heq h.2

/-- Items that come strictly one before the other by their rows are all different. -/
theorem nodup_of_before {α : Type} {row : α → Row} {l : List α}
    (h : l.Pairwise fun a b => (row a).Before (row b)) : (l.map row).Nodup := by
  refine List.pairwise_map.mpr (h.imp fun hab heq => ?_)
  rw [heq] at hab
  exact Row.before_irrefl _ hab

/-- Items in the strict order of their rows are determined by which they are. -/
theorem eq_of_before {α : Type} {row : α → Row} {l l' : List α}
    (h : l.Pairwise fun a b => (row a).Before (row b))
    (h' : l'.Pairwise fun a b => (row a).Before (row b)) (hmem : ∀ x, x ∈ l ↔ x ∈ l') : l = l' := by
  have hperm : l.Perm l' :=
    (List.perm_ext_iff_of_nodup (nodup_of_before h).of_map (nodup_of_before h').of_map).mpr hmem
  refine hperm.eq_of_pairwise (fun a b _ _ hab hba => ?_) h h'
  exact absurd (hab.trans hba) (Row.before_irrefl _)

/-! ## The greatest value -/

theorem greater_cases (a b : Value) : greater a b = a ∨ greater a b = b := by
  unfold greater
  by_cases h : a.less b = true
  · exact Or.inr (if_pos h)
  · exact Or.inl (if_neg h)

theorem not_greater_less (a b : Value) :
    (greater a b).less a = false ∧ (greater a b).less b = false := by
  unfold greater
  by_cases h : a.less b = true
  · rw [if_pos h]
    exact ⟨Value.less_asymm h, Value.less_irrefl b⟩
  · rw [if_neg h]
    exact ⟨Value.less_irrefl a, by simpa using h⟩

/-- The greatest of some values is one of them and none of them is greater. -/
theorem foldl_greater (values : List Value) : ∀ a : Value,
    values.foldl greater a ∈ a :: values ∧
      ∀ v ∈ a :: values, (values.foldl greater a).less v = false := by
  induction values with
  | nil =>
    intro a
    refine ⟨List.mem_cons_self, fun v hv => ?_⟩
    rw [List.mem_singleton.mp hv]
    exact Value.less_irrefl a
  | cons b values ih =>
    intro a
    obtain ⟨hmem, hupper⟩ := ih (greater a b)
    have hstep := hupper _ List.mem_cons_self
    rw [List.foldl_cons]
    constructor
    · rcases List.mem_cons.mp hmem with h | h
      · rw [h]
        rcases greater_cases a b with hg | hg
        · rw [hg]
          exact List.mem_cons_self
        · rw [hg]
          exact List.mem_cons_of_mem _ List.mem_cons_self
      · exact List.mem_cons_of_mem _ (List.mem_cons_of_mem _ h)
    · intro v hv
      rcases List.mem_cons.mp hv with rfl | hv
      · exact Value.not_less_trans hstep (not_greater_less v b).1
      · rcases List.mem_cons.mp hv with rfl | hv
        · exact Value.not_less_trans hstep (not_greater_less a v).2
        · exact hupper v (List.mem_cons_of_mem _ hv)

/-- A value that no other exceeds is the greatest. -/
theorem greatest_eq {values : List Value} {m : Value} (hm : m ∈ values)
    (h : ∀ v ∈ values, m.less v = false) : greatest values = m := by
  obtain ⟨hmem, hupper⟩ := foldl_greater values .null
  have hle : m.less (greatest values) = false := by
    rcases List.mem_cons.mp hmem with hnull | hmem
    · exact (congrArg m.less hnull).trans (Value.less_null m)
    · exact h _ hmem
  have hge : (greatest values).less m = false := hupper m (List.mem_cons_of_mem _ hm)
  rcases Value.less_trichotomy (greatest values) m with hlt | heq | hlt
  · rw [hge] at hlt
    cases hlt
  · exact heq
  · rw [hle] at hlt
    cases hlt

end Evaluate

end EntityAtlas.Sql
