import Interlink.Proofs.Analysis
import Interlink.Proofs.Coverage
import Interlink.Proofs.Listing

/-!
# What becomes of documents

A document without front matter is no feature. Of all others a scan keeps account: front matter that
cannot be read, and an id that an earlier document has taken, leave a warning at the document, and
every other document is the one of a feature. So the features are the first documents of the ids
that documents give.
-/

namespace Interlink

/-! ## Ids -/

namespace DocFile

def front (d : DocFile) : Except Failure (Option FrontMatter) := FrontMatter.ofDocument d.path d.content

def described? (d : DocFile) : Option (String × Feature) :=
  match d.front with
  | .ok (some front) => some (front.featureId d.path, ⟨d.path, front⟩)
  | _ => none

def featureId? (d : DocFile) : Option String := d.described?.map (·.1)

variable {d : DocFile} {id : String} {f : Feature}

theorem path_of_described? (h : d.described? = some (id, f)) : f.path = d.path := by
  unfold described? at h
  split at h
  · obtain ⟨-, rfl⟩ := Prod.mk.inj (Option.some_inj.mp h)
    rfl
  · cases h

theorem exists_described? (h : d.featureId? = some id) : ∃ f, d.described? = some (id, f) := by
  obtain ⟨⟨_, f⟩, described, rfl⟩ := Option.map_eq_some_iff.mp h
  exact ⟨f, described⟩

theorem featureId?_of_described? (h : d.described? = some (id, f)) : d.featureId? = some id :=
  Option.map_eq_some_iff.mpr ⟨_, h, rfl⟩

end DocFile

def firstOf? (docs : List DocFile) (id : String) : Option DocFile := docs.find? (·.featureId? = some id)

theorem firstOf?_eq_some_iff {docs : List DocFile} {id : String} {d : DocFile} :
    firstOf? docs id = some d ↔ d.featureId? = some id ∧
      ∃ before later, docs = before ++ d :: later ∧ ∀ e ∈ before, e.featureId? ≠ some id := by
  simp [firstOf?, List.find?_eq_some_iff_append]

/-! ## Roles -/

namespace DocRole

def among (earlier : List DocFile) (d : DocFile) : DocRole :=
  match d.front with
  | .error e => .unreadable e
  | .ok none => .plain
  | .ok (some front) =>
    match firstOf? earlier (front.featureId d.path) with
    | some first => .repeated (front.featureId d.path) first.path
    | none => .feature (front.featureId d.path) ⟨d.path, front⟩

def Taken (docs : List DocFile) (taken : Table String) : Prop :=
  ∀ id, taken.find? id = (firstOf? docs id).map (·.path)

variable {seen docs : List DocFile} {taken : Table String} {d : DocFile} {role : DocRole} {id : String}
  {f : Feature}

theorem of_eq (h : Taken seen taken) : of taken d = among seen d := by
  unfold of among
  change (match d.front with | .error e => _ | .ok none => _ | .ok (some front) => _) = _
  cases d.front with
  | error e => rfl
  | ok front? =>
    cases front? with
    | none => rfl
    | some front =>
      dsimp only
      rw [h]
      cases firstOf? seen (front.featureId d.path) <;> rfl

theorem among_of_earlier {front : FrontMatter} {first : DocFile} (hf : d.front = .ok (some front))
    (earlier : firstOf? seen (front.featureId d.path) = some first) :
    among seen d = .repeated (front.featureId d.path) first.path := by
  rw [among, hf]
  dsimp only
  rw [earlier]

theorem among_eq_feature_iff :
    among seen d = .feature id f ↔ d.described? = some (id, f) ∧ firstOf? seen id = none := by
  unfold among DocFile.described?
  cases d.front with
  | error e => simp
  | ok front? =>
    cases front? with
    | none => simp
    | some front =>
      dsimp only
      cases hf : firstOf? seen (front.featureId d.path) with
      | some first =>
        simp only [Option.some.injEq, Prod.mk.injEq, reduceCtorEq, false_iff, not_and]
        rintro ⟨rfl, -⟩
        rw [hf]
        nofun
      | none =>
        simp only [feature.injEq, Option.some.injEq, Prod.mk.injEq]
        refine (and_iff_left_of_imp ?_).symm
        rintro ⟨rfl, -⟩
        exact hf

theorem Taken.next (h : Taken seen taken) : Taken (seen ++ [d]) (match of taken d with
    | .feature id f => taken.insert id f.path
    | _ => taken) := by
  intro id
  rw [firstOf?, List.find?_append, ← firstOf?, List.find?_singleton, of_eq h]
  split
  · rename_i id' f hr
    obtain ⟨described, free⟩ := among_eq_feature_iff.mp hr
    rw [Table.find?_insert, h, DocFile.featureId?_of_described? described, DocFile.path_of_described? described]
    by_cases he : id = id'
    · subst he
      simp [free]
    · simp [he, Ne.symm he]
  · rename_i hr
    rw [h]
    cases hf : firstOf? seen id with
    | some first => rfl
    | none =>
      rw [Option.none_or, if_neg, Option.map_none]
      intro gives
      obtain ⟨f, described⟩ := DocFile.exists_described? (of_decide_eq_true gives)
      exact hr id f (among_eq_feature_iff.mpr ⟨described, hf⟩)

theorem mem_after_iff (h : Taken seen taken) : (d, role) ∈ after taken docs ↔
    ∃ before later, docs = before ++ d :: later ∧ role = among (seen ++ before) d := by
  induction docs generalizing seen taken with
  | nil => simp [after]
  | cons e docs ih =>
    rw [after, List.mem_cons]
    refine (or_congr_right (ih h.next)).trans ?_
    rw [of_eq h]
    constructor
    · rintro (here | ⟨before, later, rfl, rfl⟩)
      · obtain ⟨rfl, rfl⟩ := Prod.mk.inj here
        exact ⟨[], docs, rfl, by rw [List.append_nil]⟩
      · exact ⟨e :: before, later, rfl, by rw [List.append_assoc, List.singleton_append]⟩
    · rintro ⟨before, later, split, rfl⟩
      rcases List.cons_eq_append_iff.mp split with ⟨rfl, here⟩ | ⟨before, rfl, rfl⟩
      · obtain ⟨rfl, -⟩ := List.cons.inj here
        exact .inl (by rw [List.append_nil])
      · exact .inr ⟨before, later, rfl, by rw [List.append_assoc, List.singleton_append]⟩

theorem map_fst_after : (after taken docs).map (·.1) = docs := by
  induction docs generalizing taken with
  | nil => rfl
  | cons d docs ih => rw [after, List.map_cons, ih]

theorem mem_ofDocs_iff : (d, role) ∈ ofDocs docs ↔
    ∃ before later, docs = before ++ d :: later ∧ role = among before d :=
  have none_taken : Taken [] .empty := fun _ => rfl
  mem_after_iff none_taken

end DocRole

/-- The features are the first documents of their ids. -/
theorem Feature.find?_table_ofDocs {docs : List DocFile} {id : String} {f : Feature} :
    (Feature.table (DocRole.ofDocs docs)).find? id = some f ↔
      ∃ d, firstOf? docs id = some d ∧ d.described? = some (id, f) := by
  obtain ⟨entries, table_eq, listed⟩ : ∃ entries, Feature.table (DocRole.ofDocs docs) = .ofList entries ∧
      ∀ f, (id, f) ∈ entries ↔ ∃ d, firstOf? docs id = some d ∧ d.described? = some (id, f) := by
    refine ⟨_, rfl, fun f => ?_⟩
    simp only [List.mem_filterMap, Prod.exists]
    constructor
    · rintro ⟨d, role, hr, found⟩
      split at found
      · obtain ⟨rfl, rfl⟩ := Prod.mk.inj (Option.some_inj.mp found)
        obtain ⟨before, later, split, hr⟩ := DocRole.mem_ofDocs_iff.mp hr
        obtain ⟨described, free⟩ := DocRole.among_eq_feature_iff.mp hr.symm
        have before_not := List.find?_eq_none.mp free
        exact ⟨d, firstOf?_eq_some_iff.mpr ⟨DocFile.featureId?_of_described? described, before, later, split,
          fun e he => by simpa using before_not e he⟩, described⟩
      · cases found
    · rintro ⟨d, first, described⟩
      obtain ⟨-, before, later, split, before_not⟩ := firstOf?_eq_some_iff.mp first
      have free : firstOf? before id = none := List.find?_eq_none.mpr fun e he => by simpa using before_not e he
      refine ⟨d, .feature id f, DocRole.mem_ofDocs_iff.mpr ⟨before, later, split, ?_⟩, rfl⟩
      exact (DocRole.among_eq_feature_iff.mpr ⟨described, free⟩).symm
  rw [table_eq]
  constructor
  · intro found
    exact (listed f).mp (Table.mem_of_mem_ofList (Table.find?_eq_some.mp found))
  · rintro ⟨d, first, described⟩
    have held := Table.contains_ofList.mpr ⟨_, (listed f).mpr ⟨d, first, described⟩, rfl⟩
    obtain ⟨f', found⟩ := Table.contains_iff.mp held
    obtain ⟨d', first', described'⟩ := (listed f').mp (Table.mem_of_mem_ofList found)
    obtain rfl := Option.some_inj.mp (first.symm.trans first')
    obtain ⟨-, rfl⟩ := Prod.mk.inj (Option.some_inj.mp (described.symm.trans described'))
    exact Table.find?_eq_some.mpr found

/-! ## Warnings -/

def Report.about (r : Report) (path : String) : Report := r.filter (·.locations = [.ofFile path])

namespace Report

theorem about_append {r s : Report} {path : String} : about (r ++ s) path = r.about path ++ s.about path :=
  List.filter_append ..

theorem about_flatMap {α : Type} {xs : List α} {report : α → Report} {path : String} :
    about (xs.flatMap report) path = xs.flatMap fun x => (report x).about path := List.filter_flatMap ..

theorem about_eq {r : Report} {path path' : String} (at' : ∀ f ∈ r, f.locations = [.ofFile path']) :
    r.about path = if path' = path then r else [] := by
  split
  · rename_i he
    exact List.filter_eq_self.mpr fun f hf => by simp [at' f hf, he]
  · rename_i hne
    exact List.filter_eq_nil_iff.mpr fun f hf => by simp [at' f hf, Location.ofFile, hne]

end Report

namespace Assembly

variable {a : Assembly} {d : DocFile} {role : DocRole}

theorem locations_of_mem_roleReport {x : Finding} (hx : x ∈ a.roleReport d role) :
    x.locations = [.ofFile d.path] := by
  cases role with
  | plain => cases hx
  | unreadable e => rw [List.mem_singleton.mp hx]; rfl
  | repeated id first => rw [List.mem_singleton.mp hx]; rfl
  | feature id f =>
    obtain ⟨_, -, rfl⟩ := List.mem_map.mp hx
    rfl

theorem locations_of_mem_relationReport {id : String} {f : Feature} {x : Finding}
    (hx : x ∈ a.relationReport id f) :
    x.locations = [.ofFile f.path] := by
  obtain ⟨_, -, rfl⟩ := List.mem_map.mp hx
  rfl

theorem about_warnings (distinct : (a.roles.map fun r => r.1.path).Nodup) (hr : (d, role) ∈ a.roles)
    (noFeature : ∀ id f, a.features.find? id = some f → f.path ≠ d.path) :
    a.warnings.about d.path = a.roleReport d role := by
  have relations : Report.about (a.features.toList.flatMap fun e => a.relationReport e.1 e.2) d.path = [] := by
    rw [Report.about_flatMap]
    refine List.flatMap_eq_nil_iff.mpr fun e he => ?_
    rw [Report.about_eq fun _ => locations_of_mem_relationReport, if_neg]
    exact noFeature e.1 e.2 (Table.find?_eq_some.mpr he)
  have roles : Report.about (a.roles.flatMap fun r => a.roleReport r.1 r.2) d.path = a.roleReport d role := by
    rw [Report.about_flatMap, flatMap_of_mem (x := (d, role)) distinct.of_map hr]
    · rw [Report.about_eq fun _ => locations_of_mem_roleReport, if_pos rfl]
    · intro r hr' hne
      rw [Report.about_eq fun _ => locations_of_mem_roleReport, if_neg]
      exact fun same => hne (List.inj_on_of_nodup_map distinct hr' hr same)
  change Report.about ((a.roles.flatMap fun r => a.roleReport r.1 r.2) ++
    a.features.toList.flatMap fun e => a.relationReport e.1 e.2) d.path = _
  rw [Report.about_append, roles, relations, List.append_nil]

end Assembly

/-! ## Fates -/

inductive Fate where
  | plain
  | unreadable
  | repeated
  | feature

namespace Analysis

def featuresAt (a : Analysis) (path : String) : List String :=
  (a.index.features.filter fun _ e => e.docPath = path).keys

/-- What the analysis tells of a document: it describes no feature; or one warning says why its
front matter cannot be read; or one warning says which earlier document has its id; or it is the
document of just one feature. -/
def HasFate (a : Analysis) (d : DocFile) : Fate → Prop
  | .plain => d.front = .ok none ∧ a.featuresAt d.path = [] ∧ a.warnings.about d.path = []
  | .unreadable => ∃ e, d.front = .error e ∧ a.featuresAt d.path = [] ∧
      a.warnings.about d.path = [Assembly.warning d.path e.message]
  | .repeated => ∃ id, d.featureId? = some id ∧ a.featuresAt d.path = [] ∧
      ∃ first ∈ a.scan.docs, first.path < d.path ∧ a.featuresAt first.path = [id] ∧
        a.warnings.about d.path =
          [Assembly.warning d.path ("feature id '" ++ id ++ "' is already used by " ++ first.path)]
  | .feature => ∃ id, d.featureId? = some id ∧ a.featuresAt d.path = [id]

section
variable {a : Analysis} {d : DocFile} {fate fate' : Fate}

theorem mem_featuresAt {path id : String} :
    id ∈ a.featuresAt path ↔ (a.index.feature? id).map (·.docPath) = some path := by
  rw [featuresAt, Table.mem_keys, Table.contains_iff]
  simp [Table.filter, ← Table.find?_eq_some, Index.feature?]

theorem featuresAt_eq_nil {path : String} (nothing : ∀ id, id ∉ a.featuresAt path) : a.featuresAt path = [] :=
  List.eq_nil_iff_forall_not_mem.mpr nothing

theorem featuresAt_eq_singleton {path id : String} (only : ∀ id', id' ∈ a.featuresAt path ↔ id' = id) :
    a.featuresAt path = [id] :=
  eq_of_sorted (Table.sorted_keys _) (List.pairwise_singleton ..) fun id' =>
    (only id').trans List.mem_singleton.symm

theorem HasFate.unique (h : a.HasFate d fate) (h' : a.HasFate d fate') : fate = fate' := by
  have readable {id : String} (gives : d.featureId? = some id) : ∃ front, d.front = .ok (some front) := by
    obtain ⟨f, described⟩ := DocFile.exists_described? gives
    unfold DocFile.described? at described
    split at described
    · exact ⟨_, ‹_›⟩
    · cases described
  let fateBy : Except Failure (Option FrontMatter) → List String → Fate
    | .error _, _ => .unreadable
    | .ok none, _ => .plain
    | .ok (some _), [] => .repeated
    | .ok (some _), _ :: _ => .feature
  have fate_eq {fate : Fate} (h : a.HasFate d fate) : fateBy d.front (a.featuresAt d.path) = fate := by
    cases fate with
    | plain =>
      obtain ⟨front, -⟩ := h
      rw [front]
    | unreadable =>
      obtain ⟨e, front, -⟩ := h
      rw [front]
    | repeated =>
      obtain ⟨id, gives, at', -⟩ := h
      obtain ⟨front, hf⟩ := readable gives
      rw [hf, at']
    | feature =>
      obtain ⟨id, gives, at'⟩ := h
      obtain ⟨front, hf⟩ := readable gives
      rw [hf, at']
  exact (fate_eq h).symm.trans (fate_eq h')

end

section
variable {config : Config} {languages : LanguageSet} {generatedAt : Timestamp} {scan : Scan} {d : DocFile}
  {id : String}

theorem docPath_ofScan : ((ofScan config languages generatedAt scan).index.feature? id).map (·.docPath) =
    (firstOf? scan.docs id).map (·.path) := by
  have index_eq : ((ofScan config languages generatedAt scan).index.feature? id).map (·.docPath) =
      ((assemblyOf config languages scan).features.find? id).map fun f =>
        ((assemblyOf config languages scan).entry f).docPath := Assembly.find?_features fun _ _ => rfl
  refine index_eq.trans ?_
  cases first : firstOf? scan.docs id with
  | none =>
    have missing : (assemblyOf config languages scan).features.find? id = none := by
      refine Option.eq_none_iff_forall_ne_some.mpr fun f found => ?_
      obtain ⟨d, first', -⟩ := Feature.find?_table_ofDocs.mp found
      rw [first] at first'
      cases first'
    rw [missing]
    rfl
  | some d =>
    obtain ⟨gives, -⟩ := firstOf?_eq_some_iff.mp first
    obtain ⟨f, described⟩ := DocFile.exists_described? gives
    have found : (assemblyOf config languages scan).features.find? id = some f :=
      Feature.find?_table_ofDocs.mpr ⟨d, first, described⟩
    rw [found]
    exact congrArg some (DocFile.path_of_described? described)

section
variable (sorted : scan.docs.Pairwise fun d e => d.path < e.path)
include sorted

theorem distinct_of_sorted : (scan.docs.map (·.path)).Nodup :=
  List.pairwise_map.mpr (sorted.imp String.ne_of_lt)

theorem mem_featuresAt_ofScan (hd : d ∈ scan.docs) :
    id ∈ (ofScan config languages generatedAt scan).featuresAt d.path ↔ firstOf? scan.docs id = some d := by
  rw [mem_featuresAt, docPath_ofScan, Option.map_eq_some_iff]
  constructor
  · rintro ⟨e, first, same⟩
    rwa [← List.inj_on_of_nodup_map (distinct_of_sorted sorted) (List.mem_of_find?_eq_some first) hd same]
  · intro first
    exact ⟨d, first, rfl⟩

theorem featuresAt_ofScan (hd : d ∈ scan.docs) (first : firstOf? scan.docs id = some d) :
    (ofScan config languages generatedAt scan).featuresAt d.path = [id] := by
  refine featuresAt_eq_singleton fun id' =>
    (mem_featuresAt_ofScan sorted hd).trans ⟨fun first' => ?_, fun e => e ▸ first⟩
  have gives := (firstOf?_eq_some_iff.mp first).1
  have gives' := (firstOf?_eq_some_iff.mp first').1
  exact Option.some_inj.mp (gives'.symm.trans gives)

theorem featuresAt_ofScan_eq_nil (hd : d ∈ scan.docs) (noFirst : ∀ id, firstOf? scan.docs id ≠ some d) :
    (ofScan config languages generatedAt scan).featuresAt d.path = [] :=
  featuresAt_eq_nil fun id h => noFirst id ((mem_featuresAt_ofScan sorted hd).mp h)

theorem about_warnings_ofScan {before later : List DocFile} (split : scan.docs = before ++ d :: later)
    (noFirst : ∀ id, firstOf? scan.docs id ≠ some d) :
    (ofScan config languages generatedAt scan).warnings.about d.path =
      (assemblyOf config languages scan).roleReport d (DocRole.among before d) := by
  have distinct := distinct_of_sorted sorted
  have hd : d ∈ scan.docs := split ▸ List.mem_append_right _ List.mem_cons_self
  refine Assembly.about_warnings ?_ (DocRole.mem_ofDocs_iff.mpr ⟨before, later, split, rfl⟩) ?_
  · have documents : (DocRole.ofDocs scan.docs).map (·.1) = scan.docs := DocRole.map_fst_after
    have paths := congrArg (List.map DocFile.path) documents
    rw [List.map_map] at paths
    exact paths ▸ distinct
  · intro id f found same
    obtain ⟨e, first, described⟩ := Feature.find?_table_ofDocs.mp found
    rw [DocFile.path_of_described? described] at same
    obtain rfl := List.inj_on_of_nodup_map distinct (List.mem_of_find?_eq_some first) hd same
    exact noFirst id first

theorem exists_fate_of_readable {front : FrontMatter} (hd : d ∈ scan.docs) (hf : d.front = .ok (some front)) :
    ∃ fate, (ofScan config languages generatedAt scan).HasFate d fate := by
  obtain ⟨before, later, split⟩ := List.append_of_mem hd
  let id := front.featureId d.path
  have gives : d.featureId? = some id := by rw [DocFile.featureId?, DocFile.described?, hf]; rfl
  have whole : firstOf? scan.docs id = (firstOf? before id).or (some d) := by
    rw [firstOf?, split, List.find?_append, firstOf?]
    simp [gives]
  cases earlier : firstOf? before id with
  | none =>
    rw [earlier, Option.none_or] at whole
    exact ⟨.feature, id, gives, featuresAt_ofScan sorted hd whole⟩
  | some first =>
    rw [earlier, Option.some_or] at whole
    have first_mem := List.mem_of_find?_eq_some earlier
    have first_doc : first ∈ scan.docs := split ▸ List.mem_append_left _ first_mem
    have below : first.path < d.path :=
      (List.pairwise_append.mp (split ▸ sorted)).2.2 first first_mem d List.mem_cons_self
    have noFirst (id' : String) : firstOf? scan.docs id' ≠ some d := by
      intro first'
      have gives' := (firstOf?_eq_some_iff.mp first').1
      rw [Option.some_inj.mp (gives'.symm.trans gives), whole] at first'
      exact String.lt_irrefl d.path (Option.some_inj.mp first' ▸ below)
    refine ⟨.repeated, id, gives, featuresAt_ofScan_eq_nil sorted hd noFirst, first, first_doc, below,
      featuresAt_ofScan sorted first_doc whole, ?_⟩
    rw [about_warnings_ofScan sorted split noFirst, DocRole.among_of_earlier hf earlier]
    rfl

theorem exists_fate (hd : d ∈ scan.docs) : ∃ fate, (ofScan config languages generatedAt scan).HasFate d fate := by
  obtain ⟨before, later, split⟩ := List.append_of_mem hd
  have unread (plain : d.described? = none) (id : String) : firstOf? scan.docs id ≠ some d := by
    intro first
    obtain ⟨f, described⟩ := DocFile.exists_described? (firstOf?_eq_some_iff.mp first).1
    rw [plain] at described
    cases described
  cases front : d.front with
  | error e =>
    have noFirst := unread (by rw [DocFile.described?, front])
    refine ⟨.unreadable, e, front, featuresAt_ofScan_eq_nil sorted hd noFirst, ?_⟩
    rw [about_warnings_ofScan sorted split noFirst, DocRole.among, front]
    rfl
  | ok front? =>
    cases front? with
    | none =>
      have noFirst := unread (by rw [DocFile.described?, front])
      refine ⟨.plain, front, featuresAt_ofScan_eq_nil sorted hd noFirst, ?_⟩
      rw [about_warnings_ofScan sorted split noFirst, DocRole.among, front]
      rfl
    | some readable => exact exists_fate_of_readable sorted hd front

theorem exists_document {e : FeatureEntry}
    (he : (ofScan config languages generatedAt scan).index.feature? id = some e) :
    ∃ d ∈ scan.docs, d.path = e.docPath ∧ (ofScan config languages generatedAt scan).HasFate d .feature ∧
      (∀ other ∈ scan.docs, other.featureId? = some id → d.path ≤ other.path) ∧
      ∃ f, d.described? = some (id, f) ∧
        (assemblyOf config languages scan).entry f = { e with related := .empty } := by
  obtain ⟨f, found, entry⟩ := Assembly.entry_of_find? he
  obtain ⟨d, first, described⟩ := Feature.find?_table_ofDocs.mp found
  have hd : d ∈ scan.docs := List.mem_of_find?_eq_some first
  have path : f.path = e.docPath := congrArg FeatureEntry.docPath entry
  obtain ⟨gives, before, later, split, before_not⟩ := firstOf?_eq_some_iff.mp first
  refine ⟨d, hd, (DocFile.path_of_described? described).symm.trans path,
    ⟨id, gives, featuresAt_ofScan sorted hd first⟩, fun other ho gives' => ?_, f, described, entry⟩
  rw [split, List.mem_append, List.mem_cons] at ho
  rcases ho with ho | rfl | ho
  · exact absurd gives' (before_not other ho)
  · exact String.le_refl _
  · exact Std.le_of_lt ((List.pairwise_cons.mp (List.pairwise_append.mp (split ▸ sorted)).2.1).1 other ho)

end

theorem size_features_ofScan : (ofScan config languages generatedAt scan).index.features.size =
    (scan.docs.filterMap DocFile.featureId?).toFinset.card := by
  rw [Table.size_eq_card]
  congr 1
  ext id
  rw [List.mem_toFinset, List.mem_toFinset, List.mem_filterMap, Table.mem_keys,
    Table.contains_eq_isSome, ← Option.isSome_map (f := FeatureEntry.docPath), ← Index.feature?, docPath_ofScan,
    Option.isSome_map, firstOf?, List.find?_isSome]
  simp

end

/-- Every document of a scan has just one fate. The features of the index are the first documents
that give their ids, so that there are as many as there are ids. -/
theorem ofScan_accounts_documents (config : Config) (languages : LanguageSet) (generatedAt : Timestamp)
    {scan : Scan} (sorted : scan.docs.Pairwise fun d e => d.path < e.path) :
    let a := ofScan config languages generatedAt scan
    (∀ d ∈ scan.docs, ∃! fate, a.HasFate d fate) ∧
    (∀ id e, a.index.feature? id = some e → ∃ d ∈ scan.docs, d.path = e.docPath ∧ a.HasFate d .feature ∧
      (∀ other ∈ scan.docs, other.featureId? = some id → d.path ≤ other.path) ∧
      ∃ f, d.described? = some (id, f) ∧
        (assemblyOf config languages scan).entry f = { e with related := .empty }) ∧
    a.index.features.size = (scan.docs.filterMap DocFile.featureId?).toFinset.card := by
  intro a
  refine ⟨fun d hd => ?_, fun id e he => exists_document sorted he, size_features_ofScan⟩
  obtain ⟨fate, h⟩ := exists_fate sorted hd
  exact ⟨fate, h, fun _ h' => h'.unique h⟩

/-- Of four documents two give one id, and two give none. -/
theorem ofScan_accounts_documents_mixed :
    let scan : Scan := { docs := [⟨"a.md", "---\nid: x\n---\n"⟩, ⟨"b.md", "# B\n"⟩, ⟨"c.md", "---\n- x\n---\n"⟩,
      ⟨"d.md", "---\nid: x\n---\n"⟩] }
    let a := ofScan {} .standard ⟨0, 0, 0⟩ scan
    scan.docs.Pairwise (fun d e => d.path < e.path) ∧ (∀ d ∈ scan.docs, ∃! fate, a.HasFate d fate) ∧
      a.index.features.size = 1 := by
  intro scan a
  have sorted : scan.docs.Pairwise (fun d e => d.path < e.path) := by decide
  obtain ⟨fates, -, size⟩ := ofScan_accounts_documents {} .standard ⟨0, 0, 0⟩ sorted
  have ids : scan.docs.filterMap DocFile.featureId? = ["x", "x"] := by decide +kernel
  exact ⟨sorted, fates, size.trans (by rw [ids]; rfl)⟩

end Analysis

end Interlink
