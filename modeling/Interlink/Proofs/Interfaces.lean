import Interlink.Proofs.Analysis
import Interlink.Proofs.Text.Cut

/-!
# What is said of interfaces

Each feature declares for itself which interfaces it provides and uses. The index turns these
declarations round, and the checks see what came of it, one entry for each interface. What they find
can be told from the declarations alone.
-/

namespace Interlink

open Text

/-! ## Declarations -/

namespace Feature

def Names (part : FrontMatter → List String) (features : Table Feature) (id name : String) : Prop :=
  ∃ f ∈ features.find? id, name ∈ part f.front

instance (part : FrontMatter → List String) (features : Table Feature) (id name : String) :
    Decidable (Names part features id name) :=
  inferInstanceAs (Decidable (∃ f ∈ features.find? id, name ∈ part f.front))

def namers (part : FrontMatter → List String) (features : Table Feature) (name : String) : KeySet :=
  features.keySet.filter (Names part features · name)

abbrev Provides := Names FrontMatter.provides

abbrev Uses := Names FrontMatter.uses

abbrev providersOf := namers FrontMatter.provides

abbrev usersOf := namers FrontMatter.uses

variable (features : Table Feature)

def Declares (id name : String) : Prop := Provides features id name ∨ Uses features id name

instance (id name : String) : Decidable (Declares features id name) := inferInstanceAs (Decidable (_ ∨ _))

def membersOf (space : String) : KeySet :=
  .ofList ((features.values.flatMap fun f => f.front.provides ++ f.front.uses).filter fun name =>
    Consistency.namespace? name = some space)

def documentsOf (ids : List String) : List Location :=
  ids.filterMap fun id => (features.find? id).map fun f => .ofFile f.path

/-! ### What is wrong with them -/

def Unprovided (name : String) : Prop := (∃ id, Uses features id name) ∧ ∀ id, ¬ Provides features id name

def Unconsumed (name : String) : Prop :=
  (∃ id, Provides features id name) ∧ ∀ id, Uses features id name → Provides features id name

def SelfReferring (name id : String) : Prop := Provides features id name ∧ Uses features id name

def Incomplete (space id : String) : Prop :=
  2 ≤ (membersOf features space).size ∧ (∃ name ∈ membersOf features space, Declares features id name) ∧
    ∃ name ∈ membersOf features space, ¬ Declares features id name

def unprovided (name : String) : Finding where
  kind := .missingProvider
  severity := .error
  message := "interface '" ++ name ++ "' is used by " ++ join ", " (usersOf features name).toList
    ++ " but provided by no feature"
  locations := documentsOf features (usersOf features name).toList

def unconsumed (name : String) : Finding where
  kind := .unconsumedInterface
  severity := .warning
  message := "interface '" ++ name ++ "' is provided by " ++ join ", " (providersOf features name).toList
    ++ " but used by no other feature"
  locations := documentsOf features (providersOf features name).toList

def selfReferring (name id : String) : Finding where
  kind := .selfReference
  severity := .warning
  message := "feature '" ++ id ++ "' both provides and uses interface '" ++ name ++ "'"
  locations := documentsOf features [id]

def incomplete (space id : String) : Finding :=
  let all := (membersOf features space).toList
  { kind := .partialNamespaceCoverage
    severity := .warning
    message := "feature '" ++ id ++ "' documents " ++
      toString (all.filter (Declares features id ·)).length ++ " of "
      ++ toString all.length ++ " interfaces in '" ++ space ++ "'; missing "
      ++ join ", " (all.filter (¬ Declares features id ·))
    locations := documentsOf features [id] }

variable {features : Table Feature} {id name space : String}

@[simp] theorem kind_unprovided : (unprovided features name).kind = .missingProvider := rfl

@[simp] theorem kind_unconsumed : (unconsumed features name).kind = .unconsumedInterface := rfl

@[simp] theorem kind_selfReferring : (selfReferring features name id).kind = .selfReference := rfl

@[simp] theorem kind_incomplete : (incomplete features space id).kind = .partialNamespaceCoverage := rfl

theorem mem_namers {part : FrontMatter → List String} :
    id ∈ namers part features name ↔ Names part features id name := by
  unfold namers
  rw [KeySet.mem_filter, Table.mem_keySet, decide_eq_true_eq]
  constructor
  · intro h
    exact h.2
  · intro h
    obtain ⟨f, hf, hn⟩ := h
    exact ⟨Table.contains_of_find? hf, f, hf, hn⟩

theorem mem_membersOf : name ∈ membersOf features space ↔
    (∃ id, Declares features id name) ∧ Consistency.namespace? name = some space := by
  have declared : name ∈ features.values.flatMap (fun f => f.front.provides ++ f.front.uses) ↔
      ∃ id, Declares features id name := by
    simp only [Table.values, List.mem_flatMap, List.mem_map, Prod.exists, ← Table.find?_eq_some, List.mem_append]
    constructor
    · intro h
      obtain ⟨f, ⟨id, f, hf, rfl⟩, hn | hn⟩ := h
      · exact ⟨id, .inl ⟨f, hf, hn⟩⟩
      · exact ⟨id, .inr ⟨f, hf, hn⟩⟩
    · intro h
      obtain ⟨id, ⟨f, hf, hn⟩ | ⟨f, hf, hn⟩⟩ := h
      · exact ⟨f, ⟨id, f, hf, rfl⟩, .inl hn⟩
      · exact ⟨f, ⟨id, f, hf, rfl⟩, .inr hn⟩
  unfold membersOf
  rw [KeySet.mem_ofList, List.mem_filter, declared, decide_eq_true_eq]

theorem unprovided_iff :
    ((providersOf features name).isEmpty && !(usersOf features name).isEmpty) = true ↔
      Unprovided features name := by
  unfold Unprovided
  rw [Bool.and_eq_true, KeySet.isEmpty_iff, Bool.not_eq_true', KeySet.isEmpty_eq_false, and_comm]
  simp only [mem_namers]

theorem unconsumed_iff : (!(providersOf features name).isEmpty &&
    (usersOf features name).toList.all (· ∈ providersOf features name)) = true ↔ Unconsumed features name := by
  unfold Unconsumed
  rw [Bool.and_eq_true, Bool.not_eq_true', KeySet.isEmpty_eq_false, List.all_eq_true]
  simp only [mem_namers, KeySet.mem_toList, decide_eq_true_eq]

instance : Decidable (Unprovided features name) := decidable_of_iff _ unprovided_iff

instance : Decidable (Unconsumed features name) := decidable_of_iff _ unconsumed_iff

def interfaceReport (features : Table Feature) (name : String) : Report :=
  (if Unprovided features name then [unprovided features name] else [])
  ++ ((providersOf features name).toList.filter (· ∈ usersOf features name)).map (selfReferring features name)
  ++ if Unconsumed features name then [unconsumed features name] else []

theorem ofKind_interfaceReport (features : Table Feature) (name : String) (k : FindingKind) :
    (interfaceReport features name).ofKind k =
      (if .missingProvider = k then if Unprovided features name then [unprovided features name] else [] else [])
      ++ (if .selfReference = k then
          ((providersOf features name).toList.filter (· ∈ usersOf features name)).map (selfReferring features name)
        else [])
      ++ if .unconsumedInterface = k then if Unconsumed features name then [unconsumed features name] else []
        else [] := by
  unfold interfaceReport
  rw [Report.ofKind_append, Report.ofKind_append, Report.ofKind_check, Report.ofKind_check,
    Report.ofKind_map fun _ => kind_selfReferring, kind_unprovided, kind_unconsumed]

instance : Decidable (Incomplete features space id) :=
  inferInstanceAs (Decidable (_ ∧ (∃ name ∈ (membersOf features space).toList, _) ∧
    ∃ name ∈ (membersOf features space).toList, _))

theorem not_unconsumed_of_unprovided (h : Unprovided features name) : ¬ Unconsumed features name := by
  intro hu
  obtain ⟨id, hp⟩ := hu.1
  exact h.2 id hp

theorem not_selfReferring_of_unprovided (h : Unprovided features name) : ¬ SelfReferring features name id :=
  fun hs => h.2 id hs.1

end Feature

/-! ## Interfaces of the index -/

namespace Assembly

open Consistency Feature

variable {a : Assembly} {generatedAt : Timestamp} {id name space : String}

theorem provides_iff :
    (∃ f, a.features.find? id = some f ∧ name ∈ (a.entry f).provided) ↔ Provides a.features id name := by
  apply exists_congr
  intro f
  exact and_congr_right fun _ => KeySet.mem_ofList

theorem uses_iff : (∃ f, a.features.find? id = some f ∧ name ∈ (a.entry f).used) ↔ Uses a.features id name := by
  apply exists_congr
  intro f
  exact and_congr_right fun _ => KeySet.mem_ofList

variable {i : InterfaceEntry} {e : FeatureEntry}

theorem providers_eq (hi : (a.index generatedAt).interfaces.find? name = some i) :
    i.providers = providersOf a.features name := by
  apply KeySet.ext_mem
  intro id
  have h : hasProvider (a.index generatedAt) name id = true ↔ _ := hasProvider_index.trans provides_iff
  rw [hasProvider, hi, Option.any_some, decide_eq_true_eq] at h
  exact h.trans mem_namers.symm

theorem users_eq (hi : (a.index generatedAt).interfaces.find? name = some i) :
    i.users = usersOf a.features name := by
  apply KeySet.ext_mem
  intro id
  have h : hasUser (a.index generatedAt) name id = true ↔ _ := hasUser_index.trans uses_iff
  rw [hasUser, hi, Option.any_some, decide_eq_true_eq] at h
  exact h.trans mem_namers.symm

theorem contains_interfaces :
    (a.index generatedAt).interfaces.contains name = true ↔ ∃ id, Declares a.features id name := by
  have all :=
    recorded_adds (a := a) generatedAt (P := fun ix => ix.interfaces.contains name = true) (I := fun _ => True)
    (A := fun _ f => name ∈ (a.entry f).provided ∨ name ∈ (a.entry f).used) (fun _ _ _ => id)
    (fun ix id f _ => by
      unfold record
      dsimp only
      rw [Table.contains_foldl_upsert (consume id) fun _ _ => rfl,
        Table.contains_foldl_upsert (provide id _) fun _ _ => rfl, or_assoc]
      simp) trivial
  have blank : ¬ (a.blank generatedAt).interfaces.contains name = true := by
    rw [Table.contains_eq_isSome]
    nofun
  refine all.trans ((or_iff_right blank).trans ?_)
  constructor
  · intro h
    obtain ⟨id, f, hf, hn | hn⟩ := h
    · exact ⟨id, .inl (provides_iff.mp ⟨f, hf, hn⟩)⟩
    · exact ⟨id, .inr (uses_iff.mp ⟨f, hf, hn⟩)⟩
  · intro h
    obtain ⟨id, hn | hn⟩ := h
    · obtain ⟨f, hf, hn⟩ := provides_iff.mpr hn
      exact ⟨id, f, hf, .inl hn⟩
    · obtain ⟨f, hf, hn⟩ := uses_iff.mpr hn
      exact ⟨id, f, hf, .inr hn⟩

theorem exists_interface :
    (∃ i, (a.index generatedAt).interfaces.find? name = some i) ↔ ∃ id, Declares a.features id name := by
  rw [← Option.isSome_iff_exists, ← Table.contains_eq_isSome, contains_interfaces]

theorem members_eq : members (a.index generatedAt) space = membersOf a.features space := by
  apply KeySet.ext_mem
  intro name
  unfold members
  rw [KeySet.mem_filter, Table.mem_keySet, contains_interfaces, mem_membersOf, decide_eq_true_eq]

theorem locations_eq (generatedAt : Timestamp) (ids : List String) :
    locations (a.index generatedAt) ids = documentsOf a.features ids := by
  have path (id : String) : document? (a.index generatedAt) id = (a.features.find? id).map (·.path) :=
    find?_features (v := FeatureEntry.docPath) fun _ _ => rfl
  unfold locations documentsOf
  rw [List.map_filterMap]
  simp only [path, Option.map_map]
  rfl

theorem declares_iff (he : (a.index generatedAt).features.find? id = some e) :
    (name ∈ e.provided ∨ name ∈ e.used) ↔ Declares a.features id name := by
  obtain ⟨f, hf, same⟩ := entry_of_find? he
  have provided : e.provided = .ofList f.front.provides := (congrArg FeatureEntry.provided same).symm
  have used : e.used = .ofList f.front.uses := (congrArg FeatureEntry.used same).symm
  rw [provided, used, KeySet.mem_ofList, KeySet.mem_ofList]
  simp [Declares, Provides, Uses, Names, hf]

/-! ## The reports -/

theorem providerReport_eq : providerReport (a.index generatedAt) =
    (a.index generatedAt).interfaces.toList.flatMap fun e => interfaceReport a.features e.1 := by
  unfold providerReport ofInterfaces
  apply List.flatMap_congr
  intro e he
  have hi := Table.find?_eq_some.mpr he
  dsimp only
  rw [providers_eq hi, users_eq hi]
  simp only [locations_eq]
  rw [if_congr unprovided_iff rfl rfl, if_congr unconsumed_iff rfl rfl]
  rfl

theorem exists_mem_interfaces {P : String → Prop} (declared : P name → ∃ id, Declares a.features id name) :
    (∃ e ∈ (a.index generatedAt).interfaces.toList, e.1 = name ∧ P e.1) ↔ P name := by
  constructor
  · intro h
    obtain ⟨e, _, rfl, hp⟩ := h
    exact hp
  · intro hp
    obtain ⟨i, hi⟩ := exists_interface.mpr (declared hp)
    exact ⟨(name, i), Table.find?_eq_some.mp hi, rfl, hp⟩

theorem lists_names {k : FindingKind} {P : String → Prop} [DecidablePred P] {finding : String → Finding}
    (check : ∀ name, (interfaceReport a.features name).ofKind k = if P name then [finding name] else [])
    (declared : ∀ name, P name → ∃ id, Declares a.features id name) :
    ((providerReport (a.index generatedAt)).ofKind k).Lists P finding := by
  rw [providerReport_eq, Report.ofKind_flatMap]
  refine (Report.lists_check (Table.nodup_keys _) (p := fun e => P e.1) _ ?_).congr ?_
  · intro e _
    exact check e.1
  · intro name
    exact exists_mem_interfaces (declared name)

theorem lists_unprovided : ((providerReport (a.index generatedAt)).ofKind .missingProvider).Lists
    (Unprovided a.features) (unprovided a.features) := by
  apply lists_names
  · intro name
    simp [ofKind_interfaceReport]
  · intro name h
    obtain ⟨id, hu⟩ := h.1
    exact ⟨id, .inr hu⟩

theorem lists_unconsumed : ((providerReport (a.index generatedAt)).ofKind .unconsumedInterface).Lists
    (Unconsumed a.features) (unconsumed a.features) := by
  apply lists_names
  · intro name
    simp [ofKind_interfaceReport]
  · intro name h
    obtain ⟨id, hp⟩ := h.1
    exact ⟨id, .inl hp⟩

theorem lists_selfReferring : ((providerReport (a.index generatedAt)).ofKind .selfReference).Lists
    (fun p : String × String => SelfReferring a.features p.1 p.2) (fun p => selfReferring a.features p.1 p.2) := by
  rw [providerReport_eq, Report.ofKind_flatMap]
  refine
    (Report.lists_flatMap (Table.nodup_keys _) (P := fun e id => SelfReferring a.features e.1 id) _ ?_).congr ?_
  · intro e _
    refine ⟨(providersOf a.features e.1).toList.filter (· ∈ usersOf a.features e.1), ?_, ?_, ?_⟩
    · exact (KeySet.nodup_toList _).filter _
    · intro id
      rw [List.mem_filter, decide_eq_true_eq, mem_namers, KeySet.mem_toList, mem_namers]
      rfl
    · simp [ofKind_interfaceReport]
  · intro p
    apply exists_mem_interfaces (P := fun name => SelfReferring a.features name p.2)
    intro h
    exact ⟨p.2, .inl h.1⟩

theorem coverage_eq (he : (a.index generatedAt).features.find? id = some e)
    (several : 2 ≤ (membersOf a.features space).size) :
    let all := (membersOf a.features space).toList
    let missing := all.filter fun name => name ∉ e.provided ∧ name ∉ e.used
    (if missing = [] ∨ missing = all then []
      else [⟨.partialNamespaceCoverage, .warning,
        "feature '" ++ id ++ "' documents " ++ toString (all.length - missing.length) ++ " of "
          ++ toString all.length ++ " interfaces in '" ++ space ++ "'; missing " ++ join ", " missing,
        [.ofFile e.docPath]⟩] : Report) =
      if Incomplete a.features space id then [incomplete a.features space id] else [] := by
  intro all missing
  have missing_eq : missing = all.filter (¬ Declares a.features id ·) := by
    apply List.filter_congr
    intro name _
    rw [decide_eq_decide, ← declares_iff he, not_or]
  have some_missing : missing ≠ [] ↔ ∃ name ∈ all, ¬ Declares a.features id name := by
    rw [missing_eq]
    simp
  have some_declared : missing ≠ all ↔ ∃ name ∈ all, Declares a.features id name := by
    rw [missing_eq, ne_eq, List.filter_eq_self]
    simp
  have incomplete_iff : ¬ (missing = [] ∨ missing = all) ↔ Incomplete a.features space id := by
    rw [not_or, ← ne_eq, ← ne_eq, some_missing, some_declared, and_comm]
    exact (and_iff_right several).symm
  have count : all.length - missing.length = (all.filter (Declares a.features id ·)).length := by
    have parts := List.length_eq_length_filter_add (l := all) fun name => decide (Declares a.features id name)
    rw [missing_eq]
    simp only [decide_not]
    omega
  have document : documentsOf a.features [id] = [.ofFile e.docPath] := by
    rw [← locations_eq generatedAt]
    simp [locations, document?, he]
  by_cases h : Incomplete a.features space id
  · rw [if_pos h, if_neg (incomplete_iff.mpr h), count, missing_eq]
    unfold incomplete
    rw [document]
  · rw [if_neg h, if_pos (Classical.not_not.mp (mt incomplete_iff.mp h))]

theorem exists_feature (h : Declares a.features id name) :
    ∃ e, (a.index generatedAt).features.find? id = some e := by
  have same : ((a.index generatedAt).features.find? id).map FeatureEntry.docPath = _ :=
    find?_features fun _ _ => rfl
  obtain ⟨f, hf, _⟩ | ⟨f, hf, _⟩ := h
  all_goals
    rw [Option.mem_def.mp hf] at same
    obtain ⟨e, he, _⟩ := Option.map_eq_some_iff.mp same
    exact ⟨e, he⟩

theorem lists_incomplete : (coverageReport (a.index generatedAt)).Lists
    (fun p : String × String => Incomplete a.features p.1 p.2) (fun p => incomplete a.features p.1 p.2) := by
  unfold coverageReport
  have distinct (s : KeySet) : (s.toList.map fun space => space).Nodup := by
    rw [List.map_id']
    exact s.nodup_toList
  refine (Report.lists_flatMap (distinct _) (P := Incomplete a.features) (incomplete a.features) ?_).congr ?_
  · intro space _
    dsimp only
    rw [members_eq]
    by_cases several : 2 ≤ (membersOf a.features space).size
    · have enough : ¬ (membersOf a.features space).toList.length < 2 := Nat.not_lt.mpr several
      rw [if_neg enough]
      refine
        (Report.lists_check (Table.nodup_keys _) (p := fun e => Incomplete a.features space e.1) _ ?_).congr ?_
      · intro e he
        exact coverage_eq (Table.find?_eq_some.mpr he) several
      · intro id
        constructor
        · intro h
          obtain ⟨e, _, rfl, h⟩ := h
          exact h
        · intro h
          obtain ⟨name, _, hd⟩ := h.2.1
          obtain ⟨e, he⟩ := exists_feature hd
          exact ⟨(id, e), Table.find?_eq_some.mp he, rfl, h⟩
    · have few : (membersOf a.features space).toList.length < 2 := Nat.not_le.mp several
      rw [if_pos few]
      refine ⟨[], List.nodup_nil, ?_, rfl⟩
      intro id
      exact iff_of_false List.not_mem_nil fun h => several h.1
  · intro p
    constructor
    · intro h
      obtain ⟨space, _, rfl, h⟩ := h
      exact h
    · intro h
      obtain ⟨name, hm, _⟩ := h.2.1
      obtain ⟨declared, space⟩ := mem_membersOf.mp hm
      refine ⟨p.1, KeySet.mem_ofList.mpr (List.mem_filterMap.mpr ⟨name, ?_, space⟩), rfl, h⟩
      exact Table.mem_keys.mpr (contains_interfaces.mpr declared)

/-- Interfaces are the subject of the last two checks only. -/
theorem ofKind_validate {k : FindingKind} (h : k ≠ .indexInconsistency) (ix : Index) :
    ix.validate.ofKind k = (providerReport ix).ofKind k ++ (coverageReport ix).ofKind k := by
  have other {r : Report} (hr : ∀ f ∈ r, f.kind = .indexInconsistency) : r.ofKind k = [] :=
    Report.ofKind_eq_nil fun f hf e => h (e.symm.trans (hr f hf))
  unfold Index.validate
  simp only [Report.ofKind_append]
  rw [other fun _ => kind_of_mem_codeReport, other fun _ => kind_of_mem_importReport,
    other fun _ => kind_of_mem_relationReport, other fun _ => kind_of_mem_linkReport,
    other fun _ => kind_of_mem_termReport]
  rfl

theorem ofKind_coverageReport (k : FindingKind) : (coverageReport (a.index generatedAt)).ofKind k =
    if .partialNamespaceCoverage = k then coverageReport (a.index generatedAt) else [] := by
  have h : (coverageReport (a.index generatedAt)).Lists _ _ := lists_incomplete
  obtain ⟨xs, _, _, e⟩ := h
  rw [e]
  exact Report.ofKind_map fun _ => kind_incomplete

theorem ofKind_providerReport_coverage :
    (providerReport (a.index generatedAt)).ofKind .partialNamespaceCoverage = [] := by
  rw [providerReport_eq, Report.ofKind_flatMap]
  apply List.flatMap_eq_nil_iff.mpr
  intro e _
  simp [ofKind_interfaceReport]

end Assembly

/-! ## Namespaces -/

theorem Consistency.namespace?_eq_some_iff {name space : String} : namespace? name = some space ↔
    space ≠ "" ∧ ∃ last : String, '.' ∉ last.toList ∧ name = space ++ "." ++ last := by
  have cut (last : String) :
      '.' ∉ last.toList ∧ name = space ++ "." ++ last ↔ cutLast? '.' name = some (space, last) := by
    have dot : "." = String.singleton '.' := rfl
    rw [cutLast?_eq_some_iff, dot, and_comm]
  simp only [cut]
  unfold namespace?
  constructor
  · intro h
    split at h
    · rename_i before last e
      split at h
      · cases h
      · rename_i filled
        obtain rfl := Option.some_inj.mp h
        exact ⟨fun blank => filled (String.isEmpty_iff.mpr blank), last, e⟩
    · cases h
  · intro h
    obtain ⟨filled, last, e⟩ := h
    rw [e]
    exact if_neg fun blank => filled (String.isEmpty_iff.mp blank)

/-! ## The index of a scan -/

namespace Analysis

open Consistency Feature

/-- What the validation of a scan finds of interfaces, told from what the features of its documents
declare. An interface that features use and none provides is an error, one for each; each feature
that provides and uses the same interface is warned of, and so is each interface that nobody uses
but features that provide it. A namespace has the declared interfaces of its name before their last
dot, and whoever declares some of two or more but not all of them is told which are missing. A name
that nobody provides has no other finding of its own. -/
theorem interfaceFindings_ofScan (config : Config) (languages : LanguageSet) (generatedAt : Timestamp)
    (scan : Scan) :
    let features := Feature.table (DocRole.ofDocs scan.docs)
    let report := (ofScan config languages generatedAt scan).index.validate
    (report.ofKind .missingProvider).Lists (Unprovided features) (unprovided features) ∧
    (report.ofKind .selfReference).Lists (fun p : String × String => SelfReferring features p.1 p.2)
      (fun p => selfReferring features p.1 p.2) ∧
    (report.ofKind .unconsumedInterface).Lists (Unconsumed features) (unconsumed features) ∧
    (report.ofKind .partialNamespaceCoverage).Lists (fun p : String × String => Incomplete features p.1 p.2)
      (fun p => incomplete features p.1 p.2) ∧
    (∀ name, Unprovided features name → ¬ Unconsumed features name ∧ ∀ id, ¬ SelfReferring features name id) ∧
    ∀ space name, name ∈ membersOf features space ↔ (∃ id, Declares features id name) ∧
      space ≠ "" ∧ ∃ last : String, '.' ∉ last.toList ∧ name = space ++ "." ++ last := by
  intro features report
  have report_eq : report = ((assemblyOf config languages scan).index generatedAt).validate := rfl
  have provider (k : FindingKind) (relation : k ≠ .indexInconsistency) (coverage : .partialNamespaceCoverage ≠ k) :
      report.ofKind k = (providerReport ((assemblyOf config languages scan).index generatedAt)).ofKind k := by
    rw [report_eq, Assembly.ofKind_validate relation, Assembly.ofKind_coverageReport, if_neg coverage,
      List.append_nil]
  refine ⟨?_, ?_, ?_, ?_, ?_, ?_⟩
  · rw [provider .missingProvider nofun nofun]
    exact Assembly.lists_unprovided
  · rw [provider .selfReference nofun nofun]
    exact Assembly.lists_selfReferring
  · rw [provider .unconsumedInterface nofun nofun]
    exact Assembly.lists_unconsumed
  · rw [report_eq, Assembly.ofKind_validate (k := .partialNamespaceCoverage) nofun,
      Assembly.ofKind_coverageReport, if_pos rfl, Assembly.ofKind_providerReport_coverage]
    exact Assembly.lists_incomplete
  · intro name h
    exact ⟨not_unconsumed_of_unprovided h, fun id => not_selfReferring_of_unprovided h⟩
  · intro space name
    rw [mem_membersOf, Consistency.namespace?_eq_some_iff]

end Analysis

end Interlink
