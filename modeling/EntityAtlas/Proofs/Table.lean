import EntityAtlas.Proofs.FirstOccurrence
import EntityAtlas.Table
import Mathlib.Data.List.Induction

/-!
# Names in ordered tables

Which names a table of a list of entries has, and which value it finds under each: the names are
those of the entries, and where these are pairwise distinct each finds its own value.
-/

namespace EntityAtlas.Table

variable {α : Type}

theorem find?_eq_none_iff {name : String} {t : Table α} : t.find? name = none ↔ name ∉ t.names := by
  induction t with
  | nil => simp [find?, names]
  | cons e rest ih =>
    obtain ⟨key, value⟩ := e
    by_cases h : key = name
    · simp [find?, names, h]
    · simp only [names] at ih
      simp [find?, names, h, ih, Ne.symm h]

theorem has_iff_mem_names {name : String} {t : Table α} : t.has name = true ↔ name ∈ t.names := by
  have h : t.find? name = none ↔ name ∉ t.names := find?_eq_none_iff
  unfold has
  cases hf : t.find? name with
  | none => simpa using h.mp hf
  | some v =>
    rw [hf] at h
    simpa using h

theorem mem_of_find?_eq_some {name : String} {value : α} {t : Table α}
    (h : t.find? name = some value) : (name, value) ∈ t := by
  induction t with
  | nil => cases h
  | cons e rest ih =>
    obtain ⟨key, old⟩ := e
    by_cases hkey : key = name
    · rw [find?, if_pos hkey] at h
      rw [hkey, Option.some.inj h]
      exact List.mem_cons_self
    · rw [find?, if_neg hkey] at h
      exact List.mem_cons_of_mem _ (ih h)

/-- What stands in a list of a table stands in the list of some entry. -/
theorem mem_of_mem_findD {name : String} {t : Table (List α)} {a : α}
    (h : a ∈ t.findD name []) : ∃ l, (name, l) ∈ t ∧ a ∈ l := by
  unfold findD at h
  cases hfind : t.find? name with
  | none =>
    rw [hfind] at h
    exact absurd h List.not_mem_nil
  | some l =>
    rw [hfind] at h
    exact ⟨l, mem_of_find?_eq_some hfind, h⟩

/-- Leaving out entries by their names leaves the others as they are. -/
theorem find?_filter (p : String → Bool) (name : String) (t : Table α) :
    find? name (t.filter fun e => p e.1) = if p name then t.find? name else none := by
  induction t with
  | nil => simp [find?]
  | cons e rest ih =>
    obtain ⟨key, value⟩ := e
    by_cases hkey : key = name
    · subst hkey
      by_cases hp : p key = true
      · simp [find?, hp]
      · simp [ih, hp]
    · by_cases hp : p key = true
      · simp [find?, hkey, hp, ih]
      · simp [find?, hkey, hp, ih]

/-- Giving different names to different names leaves every value under its own. -/
theorem find?_rename {β : Type} {f : String → String} (hf : Function.Injective f) (h : α → β)
    (name : String) (t : Table α) :
    find? (f name) (t.map fun e => (f e.1, h e.2)) = (t.find? name).map h := by
  induction t with
  | nil => rfl
  | cons e rest ih =>
    obtain ⟨key, value⟩ := e
    by_cases hkey : key = name
    · simp [find?, hkey]
    · simp [find?, hkey, hf.ne hkey, ih]

theorem find?_putAll_of_notMem {name : String} {entries : List (String × α)} {t : Table α}
    (h : name ∉ entries.map Prod.fst) : (t.putAll entries).find? name = t.find? name := by
  induction entries generalizing t with
  | nil => rfl
  | cons e rest ih =>
    simp only [List.map_cons, List.mem_cons, not_or] at h
    have hstep : (t.put e.1 e.2).find? name = t.find? name := find?_put_of_ne h.1 e.2 t
    show ((t.put e.1 e.2).putAll rest).find? name = t.find? name
    rw [ih h.2, hstep]

/-- Entries put under pairwise distinct names are all found. -/
theorem find?_putAll_of_mem {entries : List (String × α)} (hnd : (entries.map Prod.fst).Nodup)
    {name : String} {value : α} (hm : (name, value) ∈ entries) (t : Table α) :
    (t.putAll entries).find? name = some value := by
  induction entries generalizing t with
  | nil => simp at hm
  | cons e rest ih =>
    simp only [List.map_cons, List.nodup_cons] at hnd
    show ((t.put e.1 e.2).putAll rest).find? name = some value
    rcases List.mem_cons.mp hm with rfl | hm
    · rw [find?_putAll_of_notMem hnd.1]
      exact find?_put_self name value t
    · exact ih hnd.2 hm (t.put e.1 e.2)

theorem find?_ofEntries_of_mem {entries : List (String × α)} (hnd : (entries.map Prod.fst).Nodup)
    {name : String} {value : α} (hm : (name, value) ∈ entries) :
    (ofEntries entries).find? name = some value :=
  find?_putAll_of_mem hnd hm []

theorem has_put {name key : String} {value : α} {t : Table α} :
    (t.put key value).has name = true ↔ t.has name = true ∨ name = key := by
  by_cases h : name = key
  · subst h
    simp [has, find?_put_self]
  · simp [has, find?_put_of_ne h, h]

theorem has_putAll {name : String} {entries : List (String × α)} {t : Table α} :
    (t.putAll entries).has name = true ↔ t.has name = true ∨ name ∈ entries.map Prod.fst := by
  induction entries generalizing t with
  | nil => simp [putAll]
  | cons e rest ih =>
    show ((t.put e.1 e.2).putAll rest).has name = true ↔ _
    rw [ih, has_put]
    simp only [List.map_cons, List.mem_cons]
    tauto

theorem put_of_notMem {name : String} {value : α} {t : Table α} (h : name ∉ t.names) :
    t.put name value = t ++ [(name, value)] := by
  induction t with
  | nil => rfl
  | cons e rest ih =>
    obtain ⟨key, old⟩ := e
    simp only [names, List.map_cons, List.mem_cons, not_or] at h
    have hkey : ¬ key = name := fun hk => h.1 hk.symm
    rw [put, if_neg hkey, ih h.2]
    rfl

theorem names_put (name : String) (value : α) (t : Table α) :
    (t.put name value).names = if name ∈ t.names then t.names else t.names ++ [name] := by
  induction t with
  | nil => simp [put, names]
  | cons e rest ih =>
    obtain ⟨key, old⟩ := e
    by_cases hkey : key = name
    · simp [put, names, hkey]
    · simp only [names] at ih
      by_cases hmem : name ∈ rest.map (·.1)
      · simp [put, names, hkey, ih, hmem]
      · simp [put, names, hkey, ih, hmem, Ne.symm hkey]

theorem names_putAll {entries : List (String × α)} {t : Table α} (hnd : t.names.Nodup) :
    (t.putAll entries).names = (t.names ++ entries.map Prod.fst).eraseDups := by
  induction entries generalizing t with
  | nil =>
    rw [List.map_nil, List.append_nil, eraseDups_of_nodup hnd]
    rfl
  | cons e rest ih =>
    show ((t.put e.1 e.2).putAll rest).names = _
    have hput := names_put e.1 e.2 t
    by_cases hmem : e.1 ∈ t.names
    · rw [if_pos hmem] at hput
      rw [ih (by rw [hput]; exact hnd), hput, List.map_cons, List.eraseDups_append,
        List.eraseDups_append]
      simp [List.removeAll, hmem]
    · rw [if_neg hmem] at hput
      have hnew : (t.names ++ [e.1]).Nodup := by
        rw [List.nodup_append]
        refine ⟨hnd, List.nodup_singleton _, fun a ha b hb hab => hmem ?_⟩
        rw [← List.mem_singleton.mp hb, ← hab]
        exact ha
      rw [ih (by rw [hput]; exact hnew), hput, List.map_cons, List.append_assoc]
      rfl

/-- The names of the table of some entries are theirs, in the order of their first occurrence. -/
theorem names_ofEntries (entries : List (String × α)) :
    (ofEntries entries).names = (entries.map Prod.fst).eraseDups :=
  names_putAll (t := []) List.nodup_nil

theorem putAll_of_nodup {entries : List (String × α)} {t : Table α}
    (hnd : (t.names ++ entries.map Prod.fst).Nodup) : t.putAll entries = t ++ entries := by
  induction entries generalizing t with
  | nil => exact (List.append_nil t).symm
  | cons e rest ih =>
    have hnew : e.1 ∉ t.names := fun hmem =>
      (List.nodup_append.mp hnd).2.2 e.1 hmem e.1 List.mem_cons_self rfl
    have hput : t.put e.1 e.2 = t ++ [e] := put_of_notMem hnew
    show (t.put e.1 e.2).putAll rest = t ++ e :: rest
    rw [hput, ih, List.append_assoc]
    · rfl
    · simpa [names] using hnd

/-- Entries under pairwise distinct names are a table as they stand. -/
theorem ofEntries_of_nodup {t : Table α} (hnd : t.names.Nodup) : ofEntries t = t :=
  putAll_of_nodup (t := []) hnd

theorem find?_of_mem {name : String} {value : α} {t : Table α} (hnd : t.names.Nodup)
    (h : (name, value) ∈ t) : t.find? name = some value := by
  conv_lhs => rw [← ofEntries_of_nodup hnd]
  exact find?_ofEntries_of_mem hnd h

/-- With pairwise distinct names a table is what it finds under its names. -/
theorem eq_map_findD {t : Table α} (hnd : t.names.Nodup) (fallback : α) :
    t = t.names.map fun name => (name, t.findD name fallback) := by
  have hfound : ∀ e ∈ t, (e.1, t.findD e.1 fallback) = e := by
    rintro ⟨name, value⟩ he
    rw [findD, find?_of_mem hnd he]
    rfl
  rw [names, List.map_map]
  exact ((List.map_congr_left hfound).trans (List.map_id t)).symm

/-- Of the entries under one name the last is found. -/
theorem find?_ofEntries_append {before after : List (String × α)} {name : String} {value : α}
    (h : name ∉ after.map Prod.fst) :
    (ofEntries (before ++ (name, value) :: after)).find? name = some value := by
  have hsplit : ofEntries (before ++ (name, value) :: after) =
      ((ofEntries before).put name value).putAll after := by
    simp [ofEntries, putAll]
  rw [hsplit, find?_putAll_of_notMem h]
  exact find?_put_self name value _

/-- A name finds the value of the last entry under it. -/
theorem find?_ofEntries (name : String) (entries : List (String × α)) :
    (ofEntries entries).find? name = (entries.reverse.find? (·.1 = name)).map (·.2) := by
  induction entries using List.reverseRecOn with
  | nil => rfl
  | append_singleton entries e ih =>
    have hput : ofEntries (entries ++ [e]) = (ofEntries entries).put e.1 e.2 := by
      simp [ofEntries, putAll]
    rw [hput, List.reverse_append, List.reverse_singleton, List.singleton_append]
    by_cases hname : e.1 = name
    · rw [List.find?_cons_of_pos (by simpa using hname), ← hname]
      exact find?_put_self _ _ _
    · rw [List.find?_cons_of_neg (by simpa using hname), ← ih]
      exact find?_put_of_ne (Ne.symm hname) _ _

/-- Entries that are put come before what was there. -/
theorem find?_putAll (name : String) (entries : List (String × α)) (t : Table α) :
    (t.putAll entries).find? name = ((ofEntries entries).find? name).or (t.find? name) := by
  induction entries using List.reverseRecOn with
  | nil => rfl
  | append_singleton entries e ih =>
    have hput : ∀ t : Table α, t.putAll (entries ++ [e]) = (t.putAll entries).put e.1 e.2 := by
      intro t
      simp [putAll]
    rw [ofEntries, hput, hput]
    by_cases hname : name = e.1
    · rw [hname, find?_put_self, find?_put_self]
      rfl
    · rw [find?_put_of_ne hname, find?_put_of_ne hname, ih]
      rfl

theorem find?_foldl_remove (name : String) (names : List String) (t : Table α) :
    find? name (names.foldl (fun t key => t.remove key) t) =
      if name ∈ names then none else t.find? name := by
  induction names generalizing t with
  | nil => simp
  | cons key names ih =>
    have hremove : (t.remove key).find? name = if name = key then none else t.find? name := by
      have hfilter := find?_filter (fun other => decide (other ≠ key)) name t
      by_cases hkey : name = key
      · simpa [remove, hkey] using hfilter
      · simpa [remove, hkey] using hfilter
    rw [List.foldl_cons, ih, hremove]
    by_cases hkey : name = key
    · simp [hkey]
    · simp [hkey]

theorem nodup_names_filter {t : Table α} (h : t.names.Nodup) (p : String × α → Bool) :
    (names (t.filter p)).Nodup :=
  h.sublist (List.filter_sublist.map _)

theorem nodup_names_foldl_remove {t : Table α} (h : t.names.Nodup) (names : List String) :
    (Table.names (names.foldl (fun t key => t.remove key) t)).Nodup := by
  induction names generalizing t with
  | nil => exact h
  | cons key names ih => exact ih (nodup_names_filter h _)

theorem nodup_names_putAll {t : Table α} (h : t.names.Nodup) (entries : List (String × α)) :
    (t.putAll entries).names.Nodup := by
  rw [names_putAll h]
  exact nodup_eraseDups _

/-- Changing values leaves each under its name. -/
theorem find?_mapValues {β : Type} (h : String → α → β) (name : String) (t : Table α) :
    find? name (t.map fun e => (e.1, h e.1 e.2)) = (t.find? name).map (h name) := by
  induction t with
  | nil => rfl
  | cons e rest ih =>
    obtain ⟨key, value⟩ := e
    by_cases hkey : key = name
    · simp [find?, hkey]
    · simp [find?, hkey, ih]

/-- The names of the table of some entries are those of the entries. -/
theorem has_ofEntries {name : String} {entries : List (String × α)} :
    (ofEntries entries).has name = true ↔ name ∈ entries.map Prod.fst := by
  rw [ofEntries, has_putAll]
  simp [has, find?]

theorem mem_of_mem_put {name : String} {value : α} {t : Table α}
    {e : String × α} (h : e ∈ t.put name value) : e ∈ t ∨ e = (name, value) := by
  induction t with
  | nil => exact Or.inr (List.mem_singleton.mp h)
  | cons entry rest ih =>
    obtain ⟨key, old⟩ := entry
    by_cases hkey : key = name
    · rw [put, if_pos hkey, List.mem_cons] at h
      rcases h with rfl | h
      · exact Or.inr (by rw [hkey])
      · exact Or.inl (List.mem_cons_of_mem _ h)
    · rw [put, if_neg hkey, List.mem_cons] at h
      rcases h with rfl | h
      · exact Or.inl List.mem_cons_self
      · exact (ih h).imp_left (List.mem_cons_of_mem _)

theorem mem_of_mem_putAll {entries : List (String × α)} {t : Table α}
    {e : String × α} (h : e ∈ t.putAll entries) : e ∈ t ∨ e ∈ entries := by
  induction entries generalizing t with
  | nil => exact Or.inl h
  | cons first rest ih =>
    rcases ih h with h | h
    · rcases mem_of_mem_put h with h | rfl
      · exact Or.inl h
      · exact Or.inr List.mem_cons_self
    · exact Or.inr (List.mem_cons_of_mem _ h)

/-- The entries of a table are some of those that it was made of. -/
theorem mem_of_mem_ofEntries {entries : List (String × α)} {e : String × α}
    (h : e ∈ ofEntries entries) : e ∈ entries :=
  (mem_of_mem_putAll h).resolve_left List.not_mem_nil

theorem nodup_names_ofEntries (entries : List (String × α)) :
    (ofEntries entries).names.Nodup := by
  rw [names_ofEntries]
  exact nodup_eraseDups _

end EntityAtlas.Table
