import EntityAtlas.Proofs.Graph.Existing
import EntityAtlas.Proofs.Graph.Preference
import EntityAtlas.Proofs.Metric.Refusals

/-!
# From chosen edges to compiled joins

A join path that is looked for is found as a chain of edges, but it is handed on as a list of names,
and a name is looked up again among all associations of the owner. The joins follow the edges that
were chosen exactly when no other association stands before one of them under its name.
-/

namespace EntityAtlas

/-! ## The edges that are chosen -/

namespace Route

/-- The chain of entities that is found from one to another, only the entity itself where they are
the same, with the association that is picked at every hop. -/
structure Chosen (g : EntityGraph) (source target : String) (chain : List String)
    (picked : List Association) : Prop where
  chain_eq : (source = target ∧ chain = [source]) ∨
    (source ≠ target ∧ vertices? g source target = some chain)
  picked_eq : pickAll g chain = .ok picked

namespace Chosen

variable {source target : String} {chain : List String} {picked : List Association}

theorem resolve_eq {g : EntityGraph} (h : Chosen g source target chain picked)
    (hs : g.has source = true) (ht : g.has target = true) :
    resolve g source target = .ok (picked.map (·.name)) := by
  rcases h.chain_eq with ⟨rfl, rfl⟩ | ⟨hne, hchain⟩
  · have hnone : picked = [] := (Except.ok.inj h.picked_eq).symm
    rw [resolve_self hs, hnone]
    rfl
  · rw [resolve_of_vertices hs ht hne]
    simp only [hchain, h.picked_eq]
    rfl

theorem ends {entities : List Entity} {associations : Table (List Association)}
    (h : Chosen (EntityGraph.build entities associations) source target chain picked)
    (hs : (EntityGraph.build entities associations).has source = true)
    (ht : (EntityGraph.build entities associations).has target = true) :
    chain.head? = some source ∧ chain.getLast? = some target := by
  rcases h.chain_eq with ⟨rfl, rfl⟩ | ⟨hne, hchain⟩
  · exact ⟨rfl, rfl⟩
  · have hanswer := answers_vertices hs ht hne
    rw [hchain] at hanswer
    exact ⟨hanswer.1.head, hanswer.1.last⟩

end Chosen

end Route

/-! ## Entities with different names -/

namespace Snapshot

variable {s : Snapshot}

theorem entity?_of_mem (hnd : (s.entities.map (·.name)).Nodup) {e : Entity}
    (he : e ∈ s.entities) : s.entity? e.name = some e := by
  unfold entity?
  cases hf : s.entities.find? (·.name = e.name) with
  | none =>
    have hne := List.find?_eq_none.mp hf e he
    simp at hne
  | some d =>
    have hname : d.name = e.name := by simpa using List.find?_some hf
    rw [List.inj_on_of_nodup_map hnd (List.mem_of_find?_eq_some hf) he hname]

theorem target_of_edge (hnd : (s.entities.map (·.name)).Nodup) {u v : String} {a : Association}
    (h : ⟨u, v, a⟩ ∈ (EntityGraph.ofExisting s).edges) :
    a.target = .direct v ∧ ∃ e, s.entity? v = some e ∧ e.name = v := by
  obtain ⟨_, htarget, _, hdirect, _⟩ := EntityGraph.mem_edges_build h
  obtain ⟨e, he, _, hname⟩ := has_ofExisting.mp htarget
  have hname : e.name = v := hname
  refine ⟨?_, e, hname ▸ entity?_of_mem hnd he, hname⟩
  unfold Association.targetEntity? at hdirect
  cases ht : a.target with
  | direct goal =>
    rw [ht] at hdirect
    rw [Option.some.inj hdirect]
  | polymorphic =>
    rw [ht] at hdirect
    cases hdirect

end Snapshot

/-! ## Looking the names up again -/

/-- At every hop of a chain the association that is picked is the first joinable one of its name. -/
def Unshadowed (s : Snapshot) (chain : List String) (picked : List Association) : Prop :=
  ∀ x ∈ chain.zip picked, s.joinable? x.1 x.2.name = some x.2

instance (s : Snapshot) (chain : List String) (picked : List Association) :
    Decidable (Unshadowed s chain picked) :=
  inferInstanceAs (Decidable (∀ x ∈ chain.zip picked, s.joinable? x.1 x.2.name = some x.2))

section Chain

variable {s : Snapshot} (hnd : (s.entities.map (·.name)).Nodup)

include hnd

/-- Where nothing stands before the picked associations, their names lead along them. -/
theorem follows_of_unshadowed {chain : List String} : ∀ {owner pivot : Entity}
    {picked : List Association}, Route.pickAll (EntityGraph.ofExisting s) chain = .ok picked →
    chain.head? = some owner.name → chain.getLast? = some pivot.name →
    s.entity? owner.name = some owner → s.entity? pivot.name = some pivot →
    Unshadowed s chain picked →
    ∃ hops, Follows s owner (picked.map (·.name)) hops pivot ∧ hops.map (·.1) = picked ∧
      hops.map (·.2.name) = chain.tail := by
  induction chain with
  | nil => intro owner pivot picked _ hhead; cases hhead
  | cons u rest ih =>
    intro owner pivot picked hpick hhead hlast ho hp hun
    obtain rfl : u = owner.name := Option.some.inj hhead
    cases rest with
    | nil =>
      obtain rfl : picked = [] := (Except.ok.inj hpick).symm
      have hname : owner.name = pivot.name := Option.some.inj hlast
      rw [hname, hp] at ho
      obtain rfl := Option.some.inj ho
      exact ⟨[], .stay _, rfl, rfl⟩
    | cons v rest =>
      obtain ⟨a, more, rfl, hedge, _, hmore⟩ := Route.pickAll_cons_ok hpick
      obtain ⟨hdirect, target, ht, rfl⟩ := Snapshot.target_of_edge hnd hedge
      obtain ⟨hfirst, hrest⟩ := List.forall_mem_cons.mp hun
      rw [List.getLast?_cons_cons] at hlast
      obtain ⟨hops, hF, hedges, hnames⟩ := ih hmore rfl hlast ht hp hrest
      refine ⟨(a, target) :: hops, .hop hfirst hdirect ht hF, ?_, ?_⟩
      · rw [List.map_cons, hedges]
      · rw [List.map_cons, hnames]
        rfl

/-- Names that lead along the picked associations stand for them. -/
theorem unshadowed_of_follows {chain : List String} : ∀ {owner final : Entity}
    {picked : List Association} {hops : List Hop},
    Route.pickAll (EntityGraph.ofExisting s) chain = .ok picked →
    chain.head? = some owner.name → Follows s owner (picked.map (·.name)) hops final →
    hops.map (·.1) = picked → Unshadowed s chain picked := by
  induction chain with
  | nil => intro owner final picked hops _ hhead; cases hhead
  | cons u rest ih =>
    intro owner final picked hops hpick hhead hF hedges
    obtain rfl : u = owner.name := Option.some.inj hhead
    cases rest with
    | nil =>
      obtain rfl : picked = [] := (Except.ok.inj hpick).symm
      exact fun x hx => absurd hx List.not_mem_nil
    | cons v rest =>
      obtain ⟨a, more, rfl, hedge, _, hmore⟩ := Route.pickAll_cons_ok hpick
      obtain ⟨hdirect, _⟩ := Snapshot.target_of_edge hnd hedge
      cases hF with
      | hop hb hd ht hrest =>
        rw [List.map_cons] at hedges
        obtain ⟨rfl, htail⟩ := List.cons.inj hedges
        obtain rfl := Target.direct.inj (hdirect.symm.trans hd)
        have hname := Snapshot.name_of_entity? ht
        refine List.forall_mem_cons.mpr ⟨hb, ih hmore ?_ hrest htail⟩
        rw [hname]
        rfl

end Chain

/-! ## The compiled joins -/

/-- The instruction asks for a pivot without a join path, both tables exist, and the edges of the
way to the pivot are chosen. -/
structure Searched (s : Snapshot) (i : MetricInstruction) (entity pivot : Entity)
    (chain : List String) (picked : List Association) : Prop where
  entity_eq : s.entity? i.entity = some entity
  pivot_eq : ∃ name, i.pivot = some name ∧ s.entity? name = some pivot
  no_path : i.joinPath = none
  entity_present : entity.present = true
  pivot_present : pivot.present = true
  chosen : Route.Chosen (EntityGraph.ofExisting s) entity.name pivot.name chain picked

namespace Searched

variable {s : Snapshot} {i : MetricInstruction} {entity pivot : Entity} {chain : List String}
  {picked : List Association} (h : Searched s i entity pivot chain picked)

include h

theorem entity_self : s.entity? entity.name = some entity :=
  Snapshot.entity?_self h.entity_eq

theorem pivot_self : s.entity? pivot.name = some pivot := by
  obtain ⟨name, _, hname⟩ := h.pivot_eq
  exact Snapshot.entity?_self hname

theorem has_entity : (EntityGraph.ofExisting s).has entity.name = true :=
  Snapshot.has_ofExisting.mpr
    ⟨entity, List.mem_of_find?_eq_some h.entity_self, h.entity_present, rfl⟩

theorem has_pivot : (EntityGraph.ofExisting s).has pivot.name = true :=
  Snapshot.has_ofExisting.mpr ⟨pivot, List.mem_of_find?_eq_some h.pivot_self, h.pivot_present, rfl⟩

theorem joinPath_eq :
    (Planner.ofSnapshot s).joinPath i entity pivot = .ok (picked.map (·.name)) := by
  rw [Planner.joinPath_searched h.no_path h.entity_present h.pivot_present]
  exact h.chosen.resolve_eq h.has_entity h.has_pivot

theorem head_eq : chain.head? = some entity.name :=
  (h.chosen.ends h.has_entity h.has_pivot).1

theorem last_eq : chain.getLast? = some pivot.name :=
  (h.chosen.ends h.has_entity h.has_pivot).2

end Searched

/-- The joins of a query whose join path is searched for are made of the hops that its names lead
along. These are the chosen edges, each to the entity it leads to, exactly when at every hop the
chosen association is the first joinable one of its name; then the names are all found again and
end at the pivot, so that nothing fails but a key, an attribute or a hop without columns. -/
theorem joins_follow_chosen_edges {s : Snapshot} {i : MetricInstruction} {entity pivot : Entity}
    {chain : List String} {picked : List Association} (hnd : (s.entities.map (·.name)).Nodup)
    (h : Searched s i entity pivot chain picked) :
    (∀ q, (Planner.ofSnapshot s).compile i = .ok q → ∃ hops,
      Follows s entity (picked.map (·.name)) hops pivot ∧
      q.joins = Planner.stepsFrom 0 (legsOf hops) ∧
      ((hops.map (·.1) = picked ∧ hops.map (·.2.name) = chain.tail) ↔
        Unshadowed s chain picked)) ∧
    (Unshadowed s chain picked → ∀ e, (Planner.ofSnapshot s).compile i = .error e →
      (∃ fault, e = .invalidPivot fault) ∨ ∃ owner association,
        e = .noJoinPath entity.name pivot.name (.noColumns owner association)) := by
  obtain ⟨name, hname, hpivot⟩ := h.pivot_eq
  have hleads := fun hun => follows_of_unshadowed hnd h.chosen.picked_eq h.head_eq h.last_eq
    h.entity_self h.pivot_self hun
  constructor
  · intro q hq
    rcases Planner.compile_ok hq with ⟨hnone, _⟩ |
      ⟨entity', pivot', key, path, hops, joins, label, hplan, hquery⟩
    · rw [hname] at hnone
      cases hnone
    · obtain rfl : entity = entity' := Option.some.inj (h.entity_eq.symm.trans hplan.entity_eq)
      obtain ⟨name', hname', hpivot'⟩ := hplan.pivot_eq
      obtain rfl : name = name' := Option.some.inj (hname.symm.trans hname')
      obtain rfl : pivot = pivot' := Option.some.inj (hpivot.symm.trans hpivot')
      obtain rfl : picked.map (·.name) = path :=
        Except.ok.inj (h.joinPath_eq.symm.trans hplan.path_eq)
      have hjoins : q.joins = joins := by
        rcases hquery with ⟨_, rfl⟩ | ⟨_, _, _, _, rfl⟩
        · rfl
        · rfl
      refine ⟨hops, hplan.follows, hjoins.trans hplan.joins_eq, fun hedges => ?_, fun hun => ?_⟩
      · exact unshadowed_of_follows hnd h.chosen.picked_eq h.head_eq hplan.follows hedges.1
      · obtain ⟨hops', hF, hedges, hnames⟩ := hleads hun
        obtain ⟨rfl, _⟩ := hplan.follows.unique hF
        exact ⟨hedges, hnames⟩
  · intro hun e he
    obtain ⟨hops, hF, _⟩ := hleads hun
    exact Planner.compile_error_of_follows h.entity_eq hname hpivot h.joinPath_eq hF he

/-! ## Comments on posts and on photos -/

/-- Comments on posts and on photos, under one name for both. -/
def commentSnapshot : Snapshot :=
  { entities :=
      [⟨"Comment", "comments", some "id", [], true⟩, ⟨"Post", "posts", some "id", [], true⟩,
       ⟨"Photo", "photos", some "id", [], true⟩]
    associations :=
      [("Comment", [reference "subject" "post_id" "Post", reference "subject" "photo_id" "Photo"])]
    schemaVersion := none }

/-- The comments on every post. -/
def commentsByPost : GroupedQuery :=
  { entity := "Comment", tableName := "comments", pivot := "Post", pivotAlias := "t1"
    groupBy := "id", joinPath := ["subject"]
    joins := [⟨"subject", "posts", "t1", [⟨"t0", "post_id", "id"⟩]⟩] }

theorem joins_follow_chosen_edges_posts :
    ∃ hops, commentsByPost.joins = Planner.stepsFrom 0 (legsOf hops) ∧
      hops.map (·.1) = [reference "subject" "post_id" "Post"] ∧
      hops.map (·.2.name) = ["Post"] := by
  have hsearched : Searched commentSnapshot ⟨.int 1, "Comment", some "Post", none, none⟩
      ⟨"Comment", "comments", some "id", [], true⟩ ⟨"Post", "posts", some "id", [], true⟩
      ["Comment", "Post"] [reference "subject" "post_id" "Post"] :=
    { entity_eq := by decide +kernel
      pivot_eq := ⟨"Post", rfl, by decide +kernel⟩
      no_path := rfl
      entity_present := rfl
      pivot_present := rfl
      chosen := ⟨Or.inr (by decide +kernel), by decide +kernel⟩ }
  have hq : (Planner.ofSnapshot commentSnapshot).compile
      ⟨.int 1, "Comment", some "Post", none, none⟩ = .ok (.grouped commentsByPost) := by
    decide +kernel
  obtain ⟨hok, _⟩ := joins_follow_chosen_edges (by decide +kernel) hsearched
  obtain ⟨hops, _, hjoins, hedges⟩ := hok _ hq
  exact ⟨hops, hjoins, hedges.mpr (by decide +kernel)⟩

/-- The way from comments to photos is found, but its name stands for the way to posts. -/
theorem shadowed_photos :
    (commentSnapshot.entities.map (·.name)).Nodup ∧
      Searched commentSnapshot ⟨.int 1, "Comment", some "Photo", none, none⟩
        ⟨"Comment", "comments", some "id", [], true⟩ ⟨"Photo", "photos", some "id", [], true⟩
        ["Comment", "Photo"] [reference "subject" "photo_id" "Photo"] ∧
      (Planner.ofSnapshot commentSnapshot).compile ⟨.int 1, "Comment", some "Photo", none, none⟩ =
        .error (.noJoinPath "Comment" "Photo" (.endsAt "Post")) := by
  refine ⟨by decide +kernel, ?_, by decide +kernel⟩
  exact
    { entity_eq := by decide +kernel
      pivot_eq := ⟨"Photo", rfl, by decide +kernel⟩
      no_path := rfl
      entity_present := rfl
      pivot_present := rfl
      chosen := ⟨Or.inr (by decide +kernel), by decide +kernel⟩ }

end EntityAtlas
