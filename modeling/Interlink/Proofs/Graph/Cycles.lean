import Interlink.Proofs.Coverage
import Interlink.Proofs.Listing
import Mathlib.Data.List.Nodup

/-!
# Import cycles

Two files are on one cycle when imports lead from each to the other. This relates files of cycles to each other
in classes, and the import cycles are these classes: none is missing, and no file is in two.
-/

namespace Interlink

open Relation (ReflTransGen TransGen)

structure OnCycle {α : Type} (r : α → α → Prop) (a b : α) : Prop where
  there : TransGen r a b
  back : TransGen r b a

namespace OnCycle

variable {α : Type} {r : α → α → Prop} {a b c : α}

theorem symm (h : OnCycle r a b) : OnCycle r b a := ⟨h.back, h.there⟩

theorem trans (h : OnCycle r a b) (h' : OnCycle r b c) : OnCycle r a c :=
  ⟨h.there.trans h'.there, h'.back.trans h.back⟩

theorem self (h : OnCycle r a b) : OnCycle r a a := h.trans h.symm

theorem congr_left (h : OnCycle r a b) : OnCycle r a c ↔ OnCycle r b c := ⟨h.symm.trans, h.trans⟩

theorem step_of_alone (h : OnCycle r a a) (alone : ∀ b, OnCycle r a b → b = a) : r a a := by
  obtain ⟨b, hab, hba⟩ := TransGen.head'_iff.mp h.there
  rcases Relation.reflTransGen_iff_eq_or_transGen.mp hba with rfl | hba
  · exact hab
  · exact alone b ⟨.single hab, hba⟩ ▸ hab

end OnCycle

/-! ## Groups of nodes -/

section
variable {α : Type} [DecidableEq α] {nodes : List α} {steps : α → List α} {a b : α} {group other : List α}

def meet (nodes : List α) (steps : α → List α) (a b : α) : Bool :=
  b ∈ reachedFrom nodes steps (steps a) ∧ a ∈ reachedFrom nodes steps (steps b)

theorem cycleGroups_eq (nodes : List α) (steps : α → List α) : cycleGroups nodes steps =
    ((nodes.map fun a => nodes.filter (meet nodes steps a)).filter (· ≠ [])).eraseDups := by
  rw [cycleGroups, List.map_map]
  refine congrArg (fun groups : List (List α) => (groups.filter (· ≠ [])).eraseDups)
    (List.map_congr_left fun a _ => ?_)
  dsimp only [Function.comp_apply]
  rw [List.filter_map, List.map_map]
  exact List.map_id _

theorem mem_cycleGroups :
    group ∈ cycleGroups nodes steps ↔ group ≠ [] ∧ ∃ a ∈ nodes, nodes.filter (meet nodes steps a) = group := by
  rw [cycleGroups_eq, List.mem_eraseDups, List.mem_filter, List.mem_map, and_comm, decide_eq_true_iff]

variable (closed : ∀ a b, b ∈ steps a → b ∈ nodes)
include closed

theorem mem_reachedFrom_steps : b ∈ reachedFrom nodes steps (steps a) ↔ TransGen (fun a b => b ∈ steps a) a b := by
  rw [mem_reachedFrom closed, TransGen.head'_iff]
  exact exists_congr fun s => and_congr_right fun hs => and_iff_right (closed a s hs)

theorem meet_iff : meet nodes steps a b = true ↔ OnCycle (fun a b => b ∈ steps a) a b := by
  rw [meet, decide_eq_true_iff, mem_reachedFrom_steps closed, mem_reachedFrom_steps closed]
  exact ⟨fun h => ⟨h.1, h.2⟩, fun h => ⟨h.there, h.back⟩⟩

theorem mem_filter_meet : b ∈ nodes.filter (meet nodes steps a) ↔ OnCycle (fun a b => b ∈ steps a) a b := by
  rw [List.mem_filter, meet_iff closed, and_iff_right_iff_imp]
  intro h
  obtain ⟨x, _, hx⟩ := TransGen.tail'_iff.mp h.there
  exact closed x b hx

theorem eq_of_mem_cycleGroups (hg : group ∈ cycleGroups nodes steps) (ho : other ∈ cycleGroups nodes steps)
    (ha : a ∈ group) (ha' : a ∈ other) : group = other := by
  obtain ⟨_, x, _, rfl⟩ := mem_cycleGroups.mp hg
  obtain ⟨_, y, _, rfl⟩ := mem_cycleGroups.mp ho
  have same := ((mem_filter_meet closed).mp ha).trans ((mem_filter_meet closed).mp ha').symm
  refine List.filter_congr fun b _ => Bool.eq_iff_iff.mpr ?_
  rw [meet_iff closed, meet_iff closed]
  exact same.congr_left

end

namespace DependencyGraph

variable {g : DependencyGraph} {a b : String} {m n : Nat} {group other : List String}

/-! ## Groups of files -/

theorem exists_label (hm : m ∈ g.arena.nodes) : ∃ a, g.arena.label? m = some a :=
  ⟨_, List.getElem?_eq_getElem (Arena.mem_nodes.mp hm)⟩

def groupFiles (g : DependencyGraph) (group : List Nat) : List String :=
  (group.filterMap g.arena.label?).mergeSort (· ≤ ·)

/-- Cycles of the arena are cycles of imports. -/
theorem Coherent.transGen_iff (h : Coherent g) (ha : g.arena.label? m = some a) (hb : g.arena.label? n = some b) :
    TransGen (fun m n => n ∈ g.arena.successors m) m n ↔ TransGen g.Imports a b := by
  rw [TransGen.head'_iff, TransGen.head'_iff]
  constructor
  · intro hx
    obtain ⟨k, hk, hp⟩ := hx
    obtain ⟨_, c, _, hc, _⟩ := h.linked_of_mem_edges (Arena.mem_successors.mp hk)
    exact ⟨c, (h.imports_iff (h.numbered.mpr ha)).mpr ⟨k, hk, hc⟩, (h.path_iff (h.numbered.mpr hc)).mp ⟨n, hb, hp⟩⟩
  · intro hx
    obtain ⟨c, hac, hp⟩ := hx
    obtain ⟨k, hk, hc⟩ := (h.imports_iff (h.numbered.mpr ha)).mp hac
    obtain ⟨n', hb', hp⟩ := (h.path_iff (h.numbered.mpr hc)).mpr hp
    obtain rfl : n = n' := Option.some.inj ((h.numbered.mpr hb).symm.trans (h.numbered.mpr hb'))
    exact ⟨k, hk, hp⟩

theorem Coherent.onCycle_iff (h : Coherent g) (ha : g.arena.label? m = some a) (hb : g.arena.label? n = some b) :
    OnCycle (fun m n => n ∈ g.arena.successors m) m n ↔ OnCycle g.Imports a b := by
  constructor
  · intro hx
    exact ⟨(h.transGen_iff ha hb).mp hx.there, (h.transGen_iff hb ha).mp hx.back⟩
  · intro hx
    exact ⟨(h.transGen_iff ha hb).mpr hx.there, (h.transGen_iff hb ha).mpr hx.back⟩

theorem Coherent.exists_number (h : Coherent g) (hx : TransGen g.Imports a b) :
    ∃ m, g.arena.label? m = some a := by
  obtain ⟨c, hc, _⟩ := TransGen.head'_iff.mp hx
  obtain ⟨m, _, hm, _, _⟩ := h.drawn.mp (mem_edges.mp hc)
  exact ⟨m, h.numbered.mp hm⟩

theorem mem_groupFiles {group : List Nat} : b ∈ g.groupFiles group ↔ ∃ n ∈ group, g.arena.label? n = some b := by
  rw [groupFiles, List.mem_mergeSort, List.mem_filterMap]

theorem mem_importCycles : group ∈ g.importCycles ↔
    ∃ numbers ∈ cycleGroups g.arena.nodes g.arena.successors, g.groupFiles numbers = group := by
  rw [importCycles, List.mem_mergeSort, List.mem_map]
  rfl

theorem Coherent.mem_groupFiles_iff (h : Coherent g) (ha : g.arena.label? m = some a) :
    b ∈ g.groupFiles (g.arena.nodes.filter (meet g.arena.nodes g.arena.successors m)) ↔ OnCycle g.Imports a b := by
  simp only [mem_groupFiles, mem_filter_meet h.successors_closed]
  constructor
  · intro hx
    obtain ⟨n, hn, hb⟩ := hx
    exact (h.onCycle_iff ha hb).mp hn
  · intro hx
    obtain ⟨n, hb⟩ := h.exists_number hx.back
    exact ⟨n, (h.onCycle_iff ha hb).mpr hx, hb⟩

theorem Coherent.exists_members (h : Coherent g) (hg : group ∈ g.importCycles) :
    ∃ a, OnCycle g.Imports a a ∧ ∀ b, b ∈ group ↔ OnCycle g.Imports a b := by
  obtain ⟨numbers, hn, rfl⟩ := mem_importCycles.mp hg
  obtain ⟨hne, m, hm, rfl⟩ := mem_cycleGroups.mp hn
  obtain ⟨a, ha⟩ := exists_label hm
  obtain ⟨n, hn⟩ := List.exists_mem_of_ne_nil _ hne
  have own := ((mem_filter_meet h.successors_closed).mp hn).self
  exact ⟨a, (h.onCycle_iff ha ha).mp own, fun _ => h.mem_groupFiles_iff ha⟩

theorem Coherent.exists_group (h : Coherent g) (hx : OnCycle g.Imports a a) :
    ∃ group ∈ g.importCycles, ∀ b, b ∈ group ↔ OnCycle g.Imports a b := by
  obtain ⟨m, ha⟩ := h.exists_number hx.there
  refine ⟨_, mem_importCycles.mpr ⟨_, mem_cycleGroups.mpr ⟨?_, m, ?_, rfl⟩, rfl⟩, fun _ => h.mem_groupFiles_iff ha⟩
  · exact List.ne_nil_of_mem ((mem_filter_meet h.successors_closed).mpr ((h.onCycle_iff ha ha).mpr hx))
  · exact Arena.mem_nodes.mpr (Arena.lt_size_of_label? ha)

theorem Coherent.exists_shared_iff (h : Coherent g) :
    (∃ group ∈ g.importCycles, a ∈ group ∧ b ∈ group) ↔ OnCycle g.Imports a b := by
  constructor
  · intro hx
    obtain ⟨group, hg, ha, hb⟩ := hx
    obtain ⟨x, _, hm⟩ := h.exists_members hg
    exact ((hm a).mp ha).symm.trans ((hm b).mp hb)
  · intro hx
    obtain ⟨group, hg, hm⟩ := h.exists_group hx.self
    exact ⟨group, hg, (hm a).mpr hx.self, (hm b).mpr hx⟩

/-! ## Order -/

theorem Coherent.sorted_group (h : Coherent g) (hg : group ∈ g.importCycles) : group.Pairwise (· < ·) := by
  obtain ⟨numbers, hn, rfl⟩ := mem_importCycles.mp hg
  obtain ⟨_, m, _, rfl⟩ := mem_cycleGroups.mp hn
  have distinct :
      ((g.arena.nodes.filter (meet g.arena.nodes g.arena.successors m)).filterMap g.arena.label?).Nodup := by
    refine List.Nodup.filterMap (fun i j file hi hj => ?_) (List.nodup_range.filter _)
    exact Option.some.inj ((h.numbered.mpr hi).symm.trans (h.numbered.mpr hj))
  have sorted := pairwise_lt_mergeSort id (by rwa [List.map_id])
  rwa [List.map_id] at sorted

theorem Coherent.eq_of_mem_importCycles (h : Coherent g) (hg : group ∈ g.importCycles)
    (ho : other ∈ g.importCycles) (ha : a ∈ group) (ha' : a ∈ other) : group = other := by
  obtain ⟨x, _, hx⟩ := h.exists_members hg
  obtain ⟨y, _, hy⟩ := h.exists_members ho
  refine eq_of_sorted (h.sorted_group hg) (h.sorted_group ho) fun b => ?_
  rw [hx, hy, ((hx a).mp ha).congr_left, ((hy a).mp ha').congr_left]

theorem Coherent.singleton_mem_importCycles (h : Coherent g) :
    [a] ∈ g.importCycles ↔ g.Imports a a ∧ ∀ b, OnCycle g.Imports a b → b = a := by
  constructor
  · intro hg
    obtain ⟨x, own, hm⟩ := h.exists_members hg
    obtain rfl := List.mem_singleton.mp ((hm x).mpr own)
    have alone (b : String) (hb : OnCycle g.Imports x b) : b = x := List.mem_singleton.mp ((hm b).mpr hb)
    exact ⟨own.step_of_alone alone, alone⟩
  · intro hx
    obtain ⟨self, alone⟩ := hx
    have own : OnCycle g.Imports a a := ⟨.single self, .single self⟩
    obtain ⟨group, hg, hm⟩ := h.exists_group own
    have single (b : String) : b ∈ group ↔ b ∈ [a] := by
      rw [hm, List.mem_singleton]
      exact ⟨alone b, fun e => e ▸ own⟩
    rwa [eq_of_sorted (h.sorted_group hg) (List.pairwise_singleton ..) single] at hg

theorem Coherent.nodup_importCycles (h : Coherent g) : g.importCycles.Nodup := by
  have once : (cycleGroups g.arena.nodes g.arena.successors).Nodup := by
    rw [cycleGroups_eq]
    exact nodup_eraseDups _
  refine (List.mergeSort_perm ..).nodup_iff.mpr
    (once.map_on fun x hx y hy (e : g.groupFiles x = g.groupFiles y) => ?_)
  obtain ⟨hne, m, _, rfl⟩ := mem_cycleGroups.mp hx
  obtain ⟨n, hn⟩ := List.exists_mem_of_ne_nil _ hne
  obtain ⟨file, hf⟩ := exists_label (List.mem_of_mem_filter hn)
  obtain ⟨n', hn', hf'⟩ := mem_groupFiles.mp (e ▸ mem_groupFiles.mpr ⟨n, hn, hf⟩)
  obtain rfl := Option.some.inj ((h.numbered.mpr hf).symm.trans (h.numbered.mpr hf'))
  exact eq_of_mem_cycleGroups h.successors_closed hx hy hn hn'

theorem Coherent.nodup_flatten_importCycles (h : Coherent g) : g.importCycles.flatten.Nodup := by
  refine List.nodup_flatten.mpr ⟨fun group hg => ?_, ?_⟩
  · exact KeySet.nodup_toList ⟨group, h.sorted_group hg⟩
  · exact List.Pairwise.imp_of_mem (fun hg ho hne a ha ha' => hne (h.eq_of_mem_importCycles hg ho ha ha'))
      h.nodup_importCycles

/-- Import cycles of any graph are the groups of all files that are on cycles with each other. A file alone is a
group if it imports itself, and no file is in two groups. Groups and their files come in order. -/
theorem importCycles_groups (h : g.Built) :
    let groups := g.importCycles
    (∀ a b, (∃ group ∈ groups, a ∈ group ∧ b ∈ group) ↔ OnCycle g.Imports a b) ∧
    (∀ a, [a] ∈ groups ↔ g.Imports a a ∧ ∀ b, OnCycle g.Imports a b → b = a) ∧
    groups.flatten.Nodup ∧
    (∀ group ∈ groups, group ≠ [] ∧ group.Pairwise (· < ·)) ∧
    groups.Pairwise (· ≤ ·) := by
  have coherent := h.coherent
  refine ⟨fun _ _ => coherent.exists_shared_iff, fun _ => coherent.singleton_mem_importCycles,
    coherent.nodup_flatten_importCycles, fun group hg => ?_, pairwise_mergeSort_listPrecedes id _⟩
  obtain ⟨x, own, hm⟩ := coherent.exists_members hg
  exact ⟨List.ne_nil_of_mem ((hm x).mpr own), coherent.sorted_group hg⟩

theorem importCycles_groups_mixed :
    let files : List SourceFile :=
      [⟨"a", "x", .source⟩, ⟨"b", "x", .source⟩, ⟨"c", "x", .source⟩, ⟨"d", "x", .source⟩]
    let g := ofFacts {} {} files .empty
    let g := ((((g.addImport "a" "b").2.addImport "b" "a").2.addImport "c" "c").2.addImport "d" "a").2
    g.Built ∧ (∃ group ∈ g.importCycles, "a" ∈ group ∧ "b" ∈ group) ∧ ["c"] ∈ g.importCycles ∧
      ∀ group ∈ g.importCycles, "d" ∉ group := by
  intro files g₀ g
  have h : g.Built :=
    ((((Built.ofFacts ..).addImport "a" "b").addImport "b" "a").addImport "c" "c").addImport "d" "a"
  obtain ⟨shared, single, _⟩ := importCycles_groups h
  have edges : g.edges = [("a", "b"), ("b", "a"), ("c", "c"), ("d", "a")] := by decide +kernel
  have ofC (b : String) (hb : TransGen g.Imports "c" b) : b = "c" := by
    induction hb with
    | single hs => simpa [Imports, edges] using hs
    | tail _ hs ih => simpa [Imports, edges, ih] using hs
  refine ⟨h, (shared "a" "b").mpr ⟨.single ?_, .single ?_⟩, (single "c").mpr ⟨?_, fun b hb => ofC b hb.there⟩,
    fun group hg hd => ?_⟩
  · simp [Imports, edges]
  · simp [Imports, edges]
  · simp [Imports, edges]
  · obtain ⟨x, _, hx⟩ := TransGen.tail'_iff.mp ((shared "d" "d").mp ⟨group, hg, hd, hd⟩).there
    simp [Imports, edges] at hx

end DependencyGraph

end Interlink
