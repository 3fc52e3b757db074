import Mathlib.Data.List.Nodup
import ShardManifest.Fragment.Cluster
import ShardManifest.Proofs.SelectionLookup

/-!
# Identifiers across the indices

The identifiers of a specification are met in three places: sorted, as the deployments of the index
of selections, and as the keys under which shards are entered. Entering a shard appends to what its
identifier already holds, so a clash would mix the places of two replicas; in a walk there is none.

## Main results

- `Topology.getD_foldl_enterShard`: what a run of entries leaves under an identifier
- `Topology.get?_shardPlaces_walk`: an identifier serves one shard, its own
- `Topology.deployments?_eq_some_iff`: when the identifiers can be listed
- `Topology.deployment_identity`: identifiers are told apart by their coordinates, and all indices
  agree on them
-/

namespace ShardManifest

namespace Topology

/-- One entry: an identifier keeps its shards and gets one more. -/
theorem get?_enterShard (d : Dictionary (List ShardPlace)) (p : Placement) (key : String) :
    (enterShard d p).get? key =
      if key = p.replica.deployment then
        some ((d.get? key).getD [] ++ [⟨p.cluster.name, p.shard.index⟩])
      else d.get? key := by
  rw [enterShard, Dictionary.get?_insert]
  by_cases h : key = p.replica.deployment <;> simp [h]

/-- After a run of entries an identifier holds the shards of its replicas, in order. -/
theorem getD_foldl_enterShard (l : List Placement) (d : Dictionary (List ShardPlace))
    (key : String) :
    ((l.foldl enterShard d).get? key).getD [] =
      (d.get? key).getD [] ++ (l.filter fun p => p.replica.deployment = key).map fun p =>
        ⟨p.cluster.name, p.shard.index⟩ := by
  induction l generalizing d with
  | nil => simp
  | cons p l ih =>
    rw [List.foldl_cons, ih, get?_enterShard]
    by_cases h : p.replica.deployment = key
    · simp [h]
    · simp [h, Ne.symm h]

theorem mem_keys_foldl_enterShard (l : List Placement) (d : Dictionary (List ShardPlace))
    (key : String) :
    key ∈ (l.foldl enterShard d).keys ↔
      key ∈ d.keys ∨ ∃ p ∈ l, p.replica.deployment = key := by
  induction l generalizing d with
  | nil => simp
  | cons p l ih =>
    have hstep : key ∈ (enterShard d p).keys ↔ key ∈ d.keys ∨ p.replica.deployment = key := by
      rw [Dictionary.mem_keys_iff, Dictionary.mem_keys_iff, get?_enterShard]
      by_cases h : key = p.replica.deployment
      · simp [h]
      · simp [h, Ne.symm h]
    rw [List.foldl_cons, ih, hstep, List.exists_mem_cons_iff, or_assoc]

theorem mem_keys_shardPlaces {t : Topology} {key : String} :
    key ∈ t.shardPlaces.keys ↔ key ∈ t.deployments := by
  have hempty : (Dictionary.empty : Dictionary (List ShardPlace)).keys = [] := rfl
  rw [shardPlaces, mem_keys_foldl_enterShard, mem_deployments_iff, hempty]
  simp

/-- The keys under which a walk enters shards are its identifiers, in their order. -/
theorem keys_shardPlaces_walk (s : Spec) : (walk s).shardPlaces.keys = (walk s).deployments :=
  eq_of_ascending_of_mem_iff (Dictionary.keys_pairwise _) (deployments_ascending s)
    fun _ => mem_keys_shardPlaces

theorem placements_nodup (s : Spec) : (walk s).placements.Nodup :=
  (pairwise_placements_walk s).imp fun hne heq =>
    hne (congrArg (fun p => p.replica.deployment) heq)

theorem filter_deployment_walk {s : Spec} {p : Placement} (hp : p ∈ (walk s).placements) :
    ((walk s).placements.filter fun q => q.replica.deployment = p.replica.deployment) = [p] := by
  have hsame : ∀ q ∈ (walk s).placements,
      decide (q.replica.deployment = p.replica.deployment) = decide (q = p) := by
    intro q hq
    exact decide_eq_decide.2 ⟨eq_of_deployment_eq hq hp, fun h => h ▸ rfl⟩
  rw [List.filter_congr hsame, List.filter_eq, List.count_eq_one_of_mem (placements_nodup s) hp]
  rfl

/-- An identifier of a walk serves one shard, its own. -/
theorem get?_shardPlaces_walk {s : Spec} {p : Placement} (hp : p ∈ (walk s).placements) :
    (walk s).shardPlaces.get? p.replica.deployment =
      some [⟨p.cluster.name, p.shard.index⟩] := by
  have hkey : p.replica.deployment ∈ (walk s).shardPlaces.keys :=
    mem_keys_shardPlaces.2 (mem_deployments_iff.2 ⟨p, hp, rfl⟩)
  obtain ⟨places, hplaces⟩ := (Dictionary.mem_keys_iff _ _).1 hkey
  -- what is held under the identifier comes from the replicas that have it, and that is this one
  have hlaw := getD_foldl_enterShard (walk s).placements .empty p.replica.deployment
  rw [filter_deployment_walk hp] at hlaw
  rw [shardPlaces] at hplaces ⊢
  rw [hplaces] at hlaw ⊢
  exact congrArg some hlaw

/-- What stands at coordinates of a walk carries them, and the declared name of its cluster. -/
theorem place_of_at?_walk {s : Spec} {c sh r : Nat} {p : Placement}
    (h : (walk s).at? c sh r = some p) :
    ∃ cluster, s.configuration.clusters[c]? = some cluster ∧ p.cluster.name = cluster.name ∧
      p.shard.index = sh := by
  obtain ⟨cluster, _, _, hcluster, -, -, rfl⟩ := at?_walk_eq_some_iff.1 h
  exact ⟨cluster, hcluster, rfl, rfl⟩

/-- There is a list of the identifiers unless there is no room for it, and it is all of them. -/
theorem deployments?_eq_some_iff {t : Topology} {capacity : Nat} {ids : List String} :
    t.deployments? capacity = some ids ↔ HasRoom capacity ∧ ids = t.deployments := by
  rw [deployments?]
  split
  · next h => simp [h, eq_comm]
  · next h => simp [h]

/-- Identifiers are told apart by their coordinates, whatever specifications they come from. If
there is room for as many as are expected, they are listed: in strictly ascending order, none lost
and none twice. Listed or not, the index of selections and the places of shards have the same ones,
each with its own shard and no other. -/
theorem deployment_identity (s : Spec) :
    (∀ s' c sh r c' sh' r' p q, (walk s).at? c sh r = some p → (walk s').at? c' sh' r' = some q →
      p.replica.deployment = q.replica.deployment → c = c' ∧ sh = sh' ∧ r = r') ∧
    ((∃ ids, (walk s).deployments? (capacity s) = some ids) ↔ HasRoom (capacity s)) ∧
    (∀ ids, (walk s).deployments? (capacity s) = some ids →
      ids.Pairwise BytewiseLT ∧
      ids.Perm ((walk s).placements.map fun p => p.replica.deployment) ∧
      (walk s).shardPlaces.keys = ids) ∧
    (∀ templates, (SelectionIndex.ofTopology (walk s) templates).value.deployments =
      (walk s).shardPlaces.keys) ∧
    (walk s).shardPlaces.keys.Perm ((walk s).placements.map fun p => p.replica.deployment) ∧
    ∀ c sh r p, (walk s).at? c sh r = some p →
      ∃ cluster, s.configuration.clusters[c]? = some cluster ∧
        (walk s).shardPlaces.get? p.replica.deployment = some [⟨cluster.name, sh⟩] := by
  refine ⟨?coordinates, ?room, ?listed, ?selections, ?keys, ?places⟩
  case coordinates =>
    intro s' c sh r c' sh' r' p q hp hq h
    exact coordinates_of_deployment_eq hp hq h
  case room => simp [deployments?_eq_some_iff]
  case listed =>
    intro ids hids
    obtain ⟨-, rfl⟩ := deployments?_eq_some_iff.1 hids
    exact ⟨(deployments_ascending s).imp bytewiseLT_iff.2, deployments_perm _,
      keys_shardPlaces_walk s⟩
  case selections =>
    intro templates
    rw [keys_shardPlaces_walk, SelectionIndex.deployments_ofTopology_walk]
  case keys =>
    rw [keys_shardPlaces_walk]
    exact deployments_perm _
  case places =>
    intro c sh r p hp
    obtain ⟨cluster, hcluster, hname, hindex⟩ := place_of_at?_walk hp
    refine ⟨cluster, hcluster, ?_⟩
    have hmem := mem_placements_iff_at?.2 ⟨c, sh, r, hp⟩
    rw [get?_shardPlaces_walk hmem, hname, hindex]

theorem deployment_identity_pair :
    ∃ p q ids, (walk Spec.pair).at? 0 0 0 = some p ∧ (walk Spec.pair).at? 0 0 1 = some q ∧
      p.replica.deployment ≠ q.replica.deployment ∧
      (walk Spec.pair).deployments? (capacity .pair) = some ids ∧
      ids.Perm [p.replica.deployment, q.replica.deployment] ∧
      (walk Spec.pair).shardPlaces.get? q.replica.deployment = some [⟨"main", 0⟩] := by
  obtain ⟨hcoordinates, hroom, hlisted, -, -, hplaces⟩ := deployment_identity Spec.pair
  obtain ⟨ids, hids⟩ := hroom.2 (by decide)
  obtain ⟨-, hperm, -⟩ := hlisted ids hids
  refine ⟨_, _, ids, rfl, rfl, fun h => ?_, hids, hperm, ?_⟩
  · obtain ⟨-, -, hreplica⟩ := hcoordinates Spec.pair 0 0 0 0 0 1 _ _ rfl rfl h
    exact absurd hreplica (by decide)
  · obtain ⟨cluster, hcluster, hplace⟩ := hplaces 0 0 1 _ rfl
    cases hcluster
    exact hplace

/-- A specification without replicas may count so many that there is no list. -/
theorem not_listed_overbooked :
    (walk Spec.overbooked).placements = [] ∧
      ¬∃ ids, (walk Spec.overbooked).deployments? (capacity .overbooked) = some ids := by
  refine ⟨rfl, ?_⟩
  rintro ⟨ids, hids⟩
  exact absurd (deployments?_eq_some_iff.1 hids).1 (by decide)

end Topology

end ShardManifest
