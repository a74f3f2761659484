import EntityAtlas.Proofs.Graph.Preference
import EntityAtlas.Proofs.Graph.Resolve
import Mathlib.Data.Prod.Lex

/-!
# The choice is always settled

What decides between parallel edges is the number of options and then the name, compared as a pair.
Parallel edges have different names, so no two of them have the same pair and one comes before all
others, in whatever order the edges were added. That the names differ is not for the choice to see
to: the graph keeps only the first of several associations with one name. So where an owner repeats
no name, the order of its associations makes no difference either.
-/

namespace EntityAtlas

/-- What decides between parallel edges: first the number of options, then the name. -/
def Association.rank (a : Association) : ℕ ×ₗ String := toLex (a.options.length, a.name)

namespace Route

theorem preferred_iff_rank {a b : Association} : preferred a b = true ↔ a.rank ≤ b.rank := by
  rw [preferred_iff, Association.rank, Association.rank, Prod.Lex.toLex_le_toLex]

theorem rank_lt_of_preferred {a b : Association} (h : preferred a b = true)
    (hname : a.name ≠ b.name) : a.rank < b.rank := by
  refine lt_of_le_of_ne (preferred_iff_rank.mp h) fun heq => hname ?_
  exact congrArg Prod.snd (toLex.injective heq)

section Candidates

variable {source target : String} {candidates : List Association}
  (hnd : candidates.Pairwise fun a b => a.name ≠ b.name)

include hnd

/-- Among candidates of different names the one that comes before all others is picked. -/
theorem pickAmong_eq_ok {a : Association} : pickAmong source target candidates = .ok a ↔
    a ∈ candidates ∧ ∀ b ∈ candidates, b ≠ a → a.rank < b.rank := by
  have hfirst : ∀ {a : Association}, pickAmong source target candidates = .ok a →
      a ∈ candidates ∧ ∀ b ∈ candidates, b ≠ a → a.rank < b.rank := by
    intro a h
    have ha := mem_of_pickAmong_ok h
    refine ⟨ha, fun b hb hne => ?_⟩
    have hname : a.name ≠ b.name := fun heq =>
      hne (List.inj_on_of_nodup_map (List.pairwise_map.mpr hnd) ha hb heq).symm
    exact rank_lt_of_preferred (preferred_of_pickAmong h b hb) hname
  refine ⟨hfirst, fun ⟨ha, hleast⟩ => ?_⟩
  obtain ⟨c, hc, hpick⟩ := @pickAmong_ok source target candidates hnd (List.ne_nil_of_mem ha)
  by_cases hca : c = a
  · rw [hpick, hca]
  · have hbefore := hleast c hc hca
    have hafter := (hfirst hpick).2 a ha (Ne.symm hca)
    exact absurd hbefore hafter.asymm

/-- Among candidates of different names only the want of any is reported. -/
theorem pickAmong_eq_error {e : MetricError} : pickAmong source target candidates = .error e ↔
    e = .noJoinPath source target .unreachable ∧ candidates = [] := by
  by_cases hnil : candidates = []
  · subst hnil
    simp [pickAmong, eq_comm]
  · obtain ⟨a, _, hpick⟩ := @pickAmong_ok source target candidates hnd hnil
    rw [hpick]
    exact ⟨fun h => (nomatch h), fun h => absurd h.2 hnil⟩

/-- The same candidates give the same choice. -/
theorem pickAmong_congr {others : List Association}
    (hnd' : others.Pairwise fun a b => a.name ≠ b.name) (h : ∀ a, a ∈ others ↔ a ∈ candidates) :
    pickAmong source target others = pickAmong source target candidates := by
  cases hpick : pickAmong source target candidates with
  | ok a =>
    obtain ⟨ha, hleast⟩ := (pickAmong_eq_ok hnd).mp hpick
    exact (pickAmong_eq_ok hnd').mpr ⟨(h a).mpr ha, fun b hb => hleast b ((h b).mp hb)⟩
  | error e =>
    obtain ⟨he, hnil⟩ := (pickAmong_eq_error hnd).mp hpick
    refine (pickAmong_eq_error hnd').mpr ⟨he, List.eq_nil_iff_forall_not_mem.mpr fun a ha => ?_⟩
    rw [h, hnil] at ha
    exact List.not_mem_nil ha

end Candidates

end Route

/-! ## Associations in another order -/

/-- Some owners list their associations in another order, each of them under different names. -/
inductive Reordered : Table (List Association) → Table (List Association) → Prop where
  | nil : Reordered [] []
  | same (entry : String × List Association) {rest rest' : Table (List Association)}
      (h : Reordered rest rest') : Reordered (entry :: rest) (entry :: rest')
  | permuted (owner : String) {owned owned' : List Association}
      {rest rest' : Table (List Association)} (hperm : owned.Perm owned')
      (hnd : (owned.map (·.name)).Nodup) (h : Reordered rest rest') :
      Reordered ((owner, owned) :: rest) ((owner, owned') :: rest')

/-- Where only one item satisfies a condition, the order of the list does not decide which is
found. -/
theorem find?_eq_of_perm {α : Type} {p : α → Bool} {l l' : List α} (h : l.Perm l')
    (hone : ∀ a ∈ l, ∀ b ∈ l, p a = true → p b = true → a = b) : l'.find? p = l.find? p := by
  cases hfind : l.find? p with
  | none =>
    refine List.find?_eq_none.mpr fun a ha => ?_
    exact List.find?_eq_none.mp hfind a (h.mem_iff.mpr ha)
  | some a =>
    have ha := List.mem_of_find?_eq_some hfind
    have hpa : p a = true := List.find?_some hfind
    cases hfind' : l'.find? p with
    | none => exact absurd hpa (List.find?_eq_none.mp hfind' a (h.mem_iff.mp ha))
    | some b =>
      have hb := h.mem_iff.mpr (List.mem_of_find?_eq_some hfind')
      rw [hone a ha b hb hpa (List.find?_some hfind')]

namespace EntityGraph

/-- Of the references of an owner that repeats no name, each has its own triple. -/
theorem edgesOf_eq_of_triple {owner : String} {owned : List Association}
    (hnd : (owned.map (·.name)).Nodup) {e f : Edge} (he : e ∈ edgesOf owner owned)
    (hf : f ∈ edgesOf owner owned) (h : e.triple = f.triple) : e = f := by
  obtain ⟨hsource, htarget, hname⟩ := Edge.triple_eq h
  have hassociation : e.association = f.association :=
    List.inj_on_of_nodup_map hnd (mem_edgesOf.mp he).2.1 (mem_edgesOf.mp hf).2.1 hname
  cases e
  cases f
  cases hsource
  cases htarget
  cases hassociation
  rfl

theorem find?_offered_reordered {vertices : Table Entity} {p : Edge → Bool}
    {x : String × String × String} (hp : ∀ e, p e = true → e.triple = x)
    {associations associations' : Table (List Association)}
    (h : Reordered associations associations') :
    (offered vertices associations').find? p = (offered vertices associations).find? p := by
  rw [offered_eq, offered_eq]
  induction h with
  | nil => rfl
  | same entry _ ih =>
    rw [List.flatMap_cons, List.flatMap_cons, List.find?_append, ih, List.find?_append]
  | @permuted owner owned owned' rest rest' hperm hnd _ ih =>
    rw [List.flatMap_cons, List.flatMap_cons, List.find?_append, ih, List.find?_append]
    have hown : (edgesOf owner owned').find? p = (edgesOf owner owned).find? p :=
      find?_eq_of_perm (hperm.filterMap _) fun e he f hf hpe hpf =>
        edgesOf_eq_of_triple hnd he hf ((hp e hpe).trans (hp f hpf).symm)
    by_cases hv : vertices.has owner = true
    · rw [if_pos hv, if_pos hv, hown]
    · rw [if_neg hv, if_neg hv]

variable {entities : List Entity} {associations : Table (List Association)}

theorem mem_edges_build_iff {e : Edge} : e ∈ (build entities associations).edges ↔
    (admitted entities associations).find? (·.triple = e.triple) = some e := by
  rw [edges_build, mem_firstOfEach]

/-- The graph has the same edges, in whatever order owners list associations of different names. -/
theorem mem_edges_reordered {associations' : Table (List Association)}
    (h : Reordered associations associations') {e : Edge} :
    e ∈ (build entities associations').edges ↔ e ∈ (build entities associations).edges := by
  rw [mem_edges_build_iff, mem_edges_build_iff, admitted, admitted, List.find?_filter,
    List.find?_filter, find?_offered_reordered (x := e.triple) (fun f hf => ?_) h]
  rw [decide_eq_true_eq] at hf
  exact of_decide_eq_true hf.2

end EntityGraph

/-! ## The choice in a graph -/

namespace Route

/-- In a graph the choice between parallel edges is settled: there is none only without an edge, and
it is the one edge that comes before all others, also with the edges in another order. -/
structure Decided (g : EntityGraph) : Prop where
  pick_eq_error : ∀ u v e, pick g u v = .error e ↔
    e = .noJoinPath u v .unreachable ∧ ¬ ∃ a, ⟨u, v, a⟩ ∈ g.edges
  pick_eq_ok : ∀ u v a, pick g u v = .ok a ↔
    ⟨u, v, a⟩ ∈ g.edges ∧ ∀ b, ⟨u, v, b⟩ ∈ g.edges → b ≠ a → a.rank < b.rank
  pick_perm : ∀ g' : EntityGraph, g'.edges.Perm g.edges → ∀ u v, pick g' u v = pick g u v

variable (entities : List Entity) (associations : Table (List Association))

theorem decided_build : Decided (EntityGraph.build entities associations) := by
  have hnd := @EntityGraph.pairwise_names_between entities associations
  refine ⟨fun u v e => ?_, fun u v a => ?_, fun g' h u v => ?_⟩
  · rw [pick, pickAmong_eq_error (hnd u v), List.eq_nil_iff_forall_not_mem]
    simp only [EntityGraph.mem_between, not_exists]
  · rw [pick, pickAmong_eq_ok (hnd u v)]
    simp only [EntityGraph.mem_between]
  · have hperm : (g'.between u v).Perm ((EntityGraph.build entities associations).between u v) :=
      (h.filter _).map _
    refine pickAmong_congr (hnd u v) ?_ fun a => hperm.mem_iff
    exact (hperm.pairwise_iff fun h => h.symm).mpr (hnd u v)

theorem pick_reordered {associations' : Table (List Association)}
    (h : Reordered associations associations') (u v : String) :
    pick (EntityGraph.build entities associations') u v =
      pick (EntityGraph.build entities associations) u v := by
  refine pickAmong_congr (EntityGraph.pairwise_names_between u v)
    (EntityGraph.pairwise_names_between u v) fun a => ?_
  rw [EntityGraph.mem_between, EntityGraph.mem_between, EntityGraph.mem_edges_reordered h]

/-- Looking for a join path ends with a path, an unknown name or an end that cannot be reached. -/
theorem resolve_eq_error_cases {source target : String} {e : MetricError}
    (h : resolve (EntityGraph.build entities associations) source target = .error e) :
    (∃ name, e = .unknownEntity name) ∨ e = .noJoinPath source target .unreachable := by
  by_cases hknown : (EntityGraph.build entities associations).has source = true ∧
      (EntityGraph.build entities associations).has target = true
  · obtain ⟨hs, ht⟩ := hknown
    by_cases hex : ∃ names, Hops (EntityGraph.build entities associations) source names target
    · obtain ⟨names, hnames⟩ := hex
      obtain ⟨shortest, hok, _⟩ := resolve_of_hops hs ht hnames
      rw [hok] at h
      cases h
    · have hne : source ≠ target := fun heq => hex ⟨[], heq ▸ .refl source⟩
      rw [resolve_of_not_hops hs ht hne hex] at h
      exact Or.inr (Except.error.inj h).symm
  · obtain ⟨name, hname⟩ := resolve_unknown_iff.mpr hknown
    rw [hname] at h
    exact Or.inl ⟨name, (Except.error.inj h).symm⟩

/-- In every graph that is built the choice between parallel edges is settled. So looking for a join
path never ends with a choice that is not, and the order in which owners list associations of
different names changes no choice. -/
theorem pick_decided (entities : List Entity) (associations : Table (List Association)) :
    Decided (EntityGraph.build entities associations) ∧
      (∀ source target source' target' names,
        resolve (EntityGraph.build entities associations) source target ≠
          .error (.ambiguousJoin source' target' names)) ∧
      ∀ associations', Reordered associations associations' → ∀ u v,
        pick (EntityGraph.build entities associations') u v =
          pick (EntityGraph.build entities associations) u v := by
  refine ⟨decided_build entities associations, ?_, ?_⟩
  · intro source target source' target' names h
    rcases resolve_eq_error_cases entities associations h with ⟨name, hname⟩ | hunreachable
    · cases hname
    · cases hunreachable
  · intro associations' h u v
    exact pick_reordered entities associations h u v

/-! ## Letters between persons -/

/-- Letters and persons. -/
def letterEntities : List Entity :=
  [⟨"Letter", "letters", some "id", [], true⟩, ⟨"Person", "persons", some "id", [], true⟩]

/-- A letter has a sender, an addressee, and perhaps somebody who answers it. -/
def letterAssociations : Table (List Association) :=
  [("Letter",
    [{ reference "answerer" "answerer_id" "Person" with options := [("lazy", "select")] },
     reference "sender" "sender_id" "Person", reference "addressee" "addressee_id" "Person"])]

/-- The same associations from the last to the first. -/
def reversedLetters : Table (List Association) :=
  letterAssociations.map fun entry => (entry.1, entry.2.reverse)

theorem pick_decided_letters :
    Reordered letterAssociations reversedLetters ∧
      (EntityGraph.build letterEntities letterAssociations).multiplicity "Letter" "Person" = 3 ∧
      pick (EntityGraph.build letterEntities reversedLetters) "Letter" "Person" =
        .ok (reference "addressee" "addressee_id" "Person") := by
  have hreordered : Reordered letterAssociations reversedLetters :=
    .permuted "Letter" (List.reverse_perm _).symm (by decide +kernel) .nil
  obtain ⟨hdecided, _, hsame⟩ := pick_decided letterEntities letterAssociations
  have hleast : ∀ e ∈ (EntityGraph.build letterEntities letterAssociations).edges,
      e.association ≠ reference "addressee" "addressee_id" "Person" →
      (reference "addressee" "addressee_id" "Person").rank < e.association.rank := by
    decide +kernel
  refine ⟨hreordered, by decide +kernel, ?_⟩
  rw [hsame _ hreordered]
  exact (hdecided.pick_eq_ok _ _ _).mpr ⟨by decide +kernel, fun b hb => hleast _ hb⟩

end Route

end EntityAtlas
