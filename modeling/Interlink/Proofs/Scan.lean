import Interlink.Proofs.Listing
import Interlink.Scan

/-!
# What scans record

A step of a scan records one file, under its path. In a scan of files with distinct paths, what is recorded of a
file is therefore what a scan of it alone records. Only a document that cannot be read leaves no record.
-/

namespace Interlink.Scan

/-! ## Accounts -/

structure Account where
  docs : List DocFile := []
  sources : List SourceFile := []
  facts : Option FileFacts := none
  failures : List ScanFailure := []

def account (s : Scan) (path : String) : Account where
  docs := s.docs.filter (·.path = path)
  sources := s.sources.filter (·.path = path)
  facts := s.facts.find? path
  failures := s.failures.filter (·.path = path)

section
variable (config : ScanConfig) (languages : LanguageSet)

inductive Recorded (f : ScannedFile) : Account → Prop
  | doc {text : String} (isDoc : config.isDoc f.path = true) (read : f.content = .ok text) :
      Recorded f { docs := [⟨f.path, text⟩] }
  | unreadDoc {message : String} (isDoc : config.isDoc f.path = true) (unread : f.content = .error message) :
      Recorded f { failures := [⟨f.path, message⟩] }
  | source {l : Language} {text : String} {facts : FileFacts} (noDoc : config.isDoc f.path = false)
      (reader : languages.ofPath? f.path = some l) (read : f.content = .ok text)
      (extracted : l.extract f.path text = .ok facts) :
      Recorded f { sources := [⟨f.path, l.name, FileRole.ofPath f.path⟩], facts := some facts }
  | unreadSource {l : Language} {message : String} (noDoc : config.isDoc f.path = false)
      (reader : languages.ofPath? f.path = some l) (unread : f.content = .error message) :
      Recorded f { sources := [⟨f.path, l.name, FileRole.ofPath f.path⟩], failures := [⟨f.path, message⟩] }
  | failedSource {l : Language} {text : String} {e : Failure} (noDoc : config.isDoc f.path = false)
      (reader : languages.ofPath? f.path = some l) (read : f.content = .ok text)
      (failed : l.extract f.path text = .error e) :
      Recorded f { sources := [⟨f.path, l.name, FileRole.ofPath f.path⟩], failures := [⟨f.path, e.cause⟩] }
  | skipped (noDoc : config.isDoc f.path = false) (noReader : languages.ofPath? f.path = none) : Recorded f {}

def skips (f : ScannedFile) : Bool := !config.isDoc f.path && (languages.ofPath? f.path).isNone

end

/-! ## One step -/

section
variable {config : ScanConfig} {languages : LanguageSet} {s : Scan} {f : ScannedFile} {path : String}

theorem account_step_of_ne (h : f.path ≠ path) : (step config languages s f).account path = s.account path := by
  unfold step record
  split
  · simp [account, h]
  · rfl
  · rfl
  · split
    · simp [account, h, Ne.symm h, Table.find?_insert]
    · simp [account, h]

/-- Where nothing is recorded yet, a step records its file as though it were the first. -/
theorem account_step (h : s.account f.path = {}) :
    (step config languages s f).account f.path = (step config languages {} f).account f.path := by
  obtain ⟨hd, hs, ht, hf⟩ := Account.mk.inj h
  unfold step record
  split
  · simp [account, List.filter_append, hd, hs, ht, hf]
  · exact h
  · exact h
  · split
    · simp [account, List.filter_append, hd, hs, hf, Table.find?_insert]
    · simp [account, List.filter_append, hd, hs, ht, hf]

theorem factsOf_error {l : Language} {message : String} (unread : f.content = .error message) :
    factsOf l f = .error message := by
  unfold factsOf
  rw [unread]

theorem factsOf_failed {l : Language} {text : String} {e : Failure} (read : f.content = .ok text)
    (failed : l.extract f.path text = .error e) : factsOf l f = .error e.cause := by
  unfold factsOf
  rw [read]
  dsimp only
  rw [failed]
  rfl

theorem factsOf_ok {l : Language} {text : String} {facts : FileFacts} (read : f.content = .ok text)
    (extracted : l.extract f.path text = .ok facts) : factsOf l f = .ok facts := by
  unfold factsOf
  rw [read]
  dsimp only
  rw [extracted]
  rfl

theorem step_unread {message : String} (isDoc : config.isDoc f.path = true) (unread : f.content = .error message) :
    step config languages s f = s := by
  simp [step, classOf, record, isDoc, unread]

theorem Recorded.not_nothing (isDoc : config.isDoc f.path = true) : ¬ Recorded config languages f {} := by
  intro h
  cases h with
  | skipped noDoc _ => rw [isDoc] at noDoc; cases noDoc

theorem recorded_step_iff :
    Recorded config languages f ((step config languages {} f).account f.path) ↔
      (config.isDoc f.path = true → ∃ text, f.content = .ok text) := by
  constructor
  · intro h isDoc
    cases hc : f.content with
    | ok text => exact ⟨text, rfl⟩
    | error message =>
      rw [step_unread isDoc hc] at h
      exact absurd h (Recorded.not_nothing isDoc)
  · intro readable
    unfold step classOf
    cases hd : config.isDoc f.path with
    | true =>
      obtain ⟨text, hc⟩ := readable hd
      simpa [hc, record, account] using (Recorded.doc hd hc : Recorded config languages f _)
    | false =>
      cases hl : languages.ofPath? f.path with
      | none => exact .skipped hd hl
      | some l =>
        cases hc : f.content with
        | error message => simpa [factsOf_error hc, record, account] using Recorded.unreadSource hd hl hc
        | ok text =>
          cases hx : l.extract f.path text with
          | error e => simpa [factsOf_failed hc hx, record, account] using Recorded.failedSource hd hl hc hx
          | ok facts =>
            simpa [factsOf_ok hc hx, record, account, Table.find?_insert] using Recorded.source hd hl hc hx

theorem skipped_step :
    (step config languages s f).skipped = s.skipped + if skips config languages f then 1 else 0 := by
  unfold step classOf skips
  cases hd : config.isDoc f.path with
  | true => cases f.content <;> rfl
  | false =>
    cases hl : languages.ofPath? f.path with
    | none => rfl
    | some l => cases hc : factsOf l f <;> simp [record, hc]

theorem docs_step : (step config languages s f).docs = s.docs ∨
    ∃ d : DocFile, d.path = f.path ∧ (step config languages s f).docs = s.docs ++ [d] := by
  unfold step record
  split
  · exact .inr ⟨_, rfl, rfl⟩
  · exact .inl rfl
  · exact .inl rfl
  · split <;> exact .inl rfl

theorem sources_step : (step config languages s f).sources = s.sources ∨
    ∃ src : SourceFile, src.path = f.path ∧ (step config languages s f).sources = s.sources ++ [src] := by
  unfold step record
  split
  · exact .inl rfl
  · exact .inl rfl
  · exact .inl rfl
  · split <;> exact .inr ⟨_, rfl, rfl⟩

end

/-! ## Runs -/

section
variable {config : ScanConfig} {languages : LanguageSet} {s : Scan} {f : ScannedFile} {files : List ScannedFile}
  {path : String}

theorem account_foldl_of_notMem (h : path ∉ files.map (·.path)) :
    (files.foldl (step config languages) s).account path = s.account path := by
  induction files generalizing s with
  | nil => rfl
  | cons g files ih =>
    rw [List.map_cons, List.mem_cons, not_or] at h
    rw [List.foldl_cons, ih h.2, account_step_of_ne (Ne.symm h.1)]

theorem account_foldl (distinct : (files.map (·.path)).Nodup) (hf : f ∈ files) (h : s.account f.path = {}) :
    (files.foldl (step config languages) s).account f.path = (step config languages {} f).account f.path := by
  induction files generalizing s with
  | nil => cases hf
  | cons g files ih =>
    obtain ⟨hg, distinct⟩ := List.nodup_cons.mp distinct
    rw [List.foldl_cons]
    rcases List.mem_cons.mp hf with rfl | hf
    · rw [account_foldl_of_notMem hg, account_step h]
    · -- A step before that of the file leaves its path without a record.
      have hne : g.path ≠ f.path := fun e => hg (List.mem_map.mpr ⟨f, hf, e.symm⟩)
      exact ih distinct hf ((account_step_of_ne hne).trans h)

theorem skipped_foldl :
    (files.foldl (step config languages) s).skipped = s.skipped + files.countP (skips config languages) := by
  induction files generalizing s with
  | nil => rfl
  | cons f files ih =>
    rw [List.foldl_cons, ih, skipped_step, List.countP_cons]
    omega

theorem paths_foldl {α : Type} {v : Scan → List α} {p : α → String}
    (h : ∀ s f, v (step config languages s f) = v s ∨
      ∃ x, p x = f.path ∧ v (step config languages s f) = v s ++ [x]) :
    ((v (files.foldl (step config languages) s)).map p).Sublist ((v s).map p ++ files.map (·.path)) := by
  induction files generalizing s with
  | nil => simp
  | cons f files ih =>
    rw [List.foldl_cons, List.map_cons]
    refine ih.trans ?_
    rcases h s f with e | ⟨x, hx, e⟩
    · rw [e]
      exact (List.sublist_cons_self _ _).append_left _
    · rw [e, List.map_append, List.append_assoc, List.map_singleton, hx]
      exact .refl _

end

/-! ## The order of paths -/

section
variable {files others : List ScannedFile}

theorem sorted_mergeSort (distinct : (files.map (·.path)).Nodup) :
    ((files.mergeSort fun a b => a.path ≤ b.path).map (·.path)).Pairwise (· < ·) :=
  pairwise_lt_mergeSort ScannedFile.path distinct

theorem mergeSort_eq_of_perm (distinct : (files.map (·.path)).Nodup) (h : others.Perm files) :
    (others.mergeSort fun a b => a.path ≤ b.path) = files.mergeSort fun a b => a.path ≤ b.path := by
  have distinct' := (h.map (·.path)).nodup_iff.mpr distinct
  refine List.Perm.eq_of_pairwise (fun a b _ _ hab hba => ?_) (List.pairwise_map.mp (sorted_mergeSort distinct'))
    (List.pairwise_map.mp (sorted_mergeSort distinct))
    ((List.mergeSort_perm ..).trans (h.trans (List.mergeSort_perm ..).symm))
  exact absurd (String.lt_trans hab hba) (String.lt_irrefl _)

end

/-! ## Look-up by halving -/

section
variable {path : String} {files later : List SourceFile} {file src : SourceFile}

/-- Before the middle of files in the order of their paths stand those with smaller paths, and after
it those with larger ones. -/
theorem mem_halves {n : Nat} (sorted : files.Pairwise fun a b => a.path < b.path)
    (h : files.drop n = file :: later) :
    (∀ x ∈ files.take n, x.path < file.path) ∧ (∀ x ∈ later, file.path < x.path) ∧
      ∀ x, x ∈ files ↔ x ∈ files.take n ∨ x = file ∨ x ∈ later := by
  have whole : files = files.take n ++ file :: later := by rw [← h, List.take_append_drop]
  rw [whole] at sorted
  obtain ⟨_, tail, across⟩ := List.pairwise_append.mp sorted
  refine ⟨fun x hx => across x hx file List.mem_cons_self, (List.pairwise_cons.mp tail).1, fun x => ?_⟩
  rw [← List.mem_cons, ← List.mem_append, ← whole]

theorem bisect_eq_some_iff (sorted : files.Pairwise fun a b => a.path < b.path) :
    bisect path files = some src ↔ src ∈ files ∧ src.path = path := by
  fun_induction bisect path files with
  | case1 files h =>
    have : files = [] := by
      rw [List.drop_eq_nil_iff] at h
      exact List.length_eq_zero_iff.mp (by omega)
    simp [this]
  | case2 files file later h here =>
    obtain ⟨below, above, mem⟩ := mem_halves sorted h
    constructor
    · intro e
      obtain rfl := Option.some.inj e
      exact ⟨(mem file).mpr (.inr (.inl rfl)), here⟩
    · intro hs
      obtain ⟨hs, e⟩ := hs
      rcases (mem src).mp hs with hs | rfl | hs
      · exact absurd (below src hs) (by rw [e, here]; exact String.lt_irrefl path)
      · rfl
      · exact absurd (above src hs) (by rw [e, here]; exact String.lt_irrefl path)
  | case3 files file later h ne before ih =>
    obtain ⟨below, _, mem⟩ := mem_halves sorted h
    have right : later.Sublist files :=
      (List.sublist_cons_self file later).trans (h ▸ List.drop_sublist ..)
    rw [ih (sorted.sublist right), mem]
    constructor
    · exact fun hs => ⟨.inr (.inr hs.1), hs.2⟩
    · intro hs
      obtain ⟨hs | rfl | hs, e⟩ := hs
      · exact absurd (String.lt_trans (e ▸ below src hs) before) (String.lt_irrefl path)
      · exact absurd e ne
      · exact ⟨hs, e⟩
  | case4 files file later h ne after ih =>
    obtain ⟨_, above, mem⟩ := mem_halves sorted h
    rw [ih (sorted.sublist (List.take_sublist ..)), mem]
    constructor
    · exact fun hs => ⟨.inl hs.1, hs.2⟩
    · intro hs
      obtain ⟨hs | rfl | hs, e⟩ := hs
      · exact ⟨hs, e⟩
      · exact absurd e ne
      · exact absurd (e ▸ above src hs) after

end

/-! ## Whole scans -/

section
variable {config : ScanConfig} {languages : LanguageSet} {files : List ScannedFile}

theorem account_classify (distinct : (files.map (·.path)).Nodup) {f : ScannedFile} (hf : f ∈ files) :
    (classify config languages files).account f.path = (step config languages {} f).account f.path := by
  have perm := List.mergeSort_perm files fun a b => a.path ≤ b.path
  exact account_foldl ((perm.map (·.path)).nodup_iff.mpr distinct) (perm.mem_iff.mpr hf) rfl

theorem account_classify_of_notMem {path : String} (h : path ∉ files.map (·.path)) :
    (classify config languages files).account path = {} := by
  have perm := List.mergeSort_perm files fun a b => a.path ≤ b.path
  exact account_foldl_of_notMem fun hp => h ((perm.map (·.path)).mem_iff.mp hp)

theorem skipped_classify : (classify config languages files).skipped = files.countP (skips config languages) := by
  rw [classify, skipped_foldl, (List.mergeSort_perm ..).countP_eq]
  exact Nat.zero_add _

theorem sorted_docs (distinct : (files.map (·.path)).Nodup) :
    ((classify config languages files).docs.map (·.path)).Pairwise (· < ·) :=
  (sorted_mergeSort distinct).sublist (paths_foldl (v := docs) (p := (·.path)) (s := {}) fun _ _ => docs_step)

theorem sorted_sources (distinct : (files.map (·.path)).Nodup) :
    ((classify config languages files).sources.map (·.path)).Pairwise (· < ·) :=
  (sorted_mergeSort distinct).sublist
    (paths_foldl (v := sources) (p := (·.path)) (s := {}) fun _ _ => sources_step)

end

/-- A scan records each of the files as though it were the only one, and no other path. The order of
its records is that of the paths, so that looking up a path by halving finds what is there, and does
not depend on the order in which the files come. -/
structure Accounts (config : ScanConfig) (languages : LanguageSet) (files : List ScannedFile)
    (s : Scan) : Prop where
  alone : ∀ f ∈ files, s.account f.path = (classify config languages [f]).account f.path
  noOther : ∀ path, path ∉ files.map (·.path) → s.account path = {}
  skipped : s.skipped = files.countP (skips config languages)
  docs_sorted : (s.docs.map (·.path)).Pairwise (· < ·)
  sources_sorted : (s.sources.map (·.path)).Pairwise (· < ·)
  source?_iff : ∀ path src, s.source? path = some src ↔ src ∈ s.sources ∧ src.path = path
  anyOrder : ∀ others : List ScannedFile, others.Perm files → classify config languages others = s

/-- A scan accounts for every file except documents that cannot be read. -/
theorem classify_accounts {config : ScanConfig} {languages : LanguageSet} {files : List ScannedFile}
    (distinct : (files.map (·.path)).Nodup) :
    Accounts config languages files (classify config languages files) ∧
      ∀ f ∈ files, (Recorded config languages f ((classify config languages files).account f.path) ↔
        (config.isDoc f.path = true → ∃ text, f.content = .ok text)) := by
  constructor
  · refine { alone := fun f hf => ?_, noOther := fun path => account_classify_of_notMem,
             skipped := skipped_classify, docs_sorted := sorted_docs distinct,
             sources_sorted := sorted_sources distinct, source?_iff := fun path src => ?_,
             anyOrder := fun others h => ?_ }
    · have sole : ([f].map (·.path)).Nodup := List.pairwise_singleton ..
      rw [account_classify distinct hf, account_classify sole List.mem_cons_self]
    · exact bisect_eq_some_iff (List.pairwise_map.mp (sorted_sources distinct))
    · rw [classify, mergeSort_eq_of_perm distinct h, classify]
  · intro f hf
    rw [account_classify distinct hf]
    exact recorded_step_iff

theorem classify_accounts_mixed :
    let files : List ScannedFile :=
      [⟨"src/x.ts", .error "not valid UTF-8"⟩, ⟨"notes.txt", .ok ""⟩, ⟨"a.md", .ok "# A"⟩]
    let s := classify {} .standard files
    (files.map (·.path)).Nodup ∧ Accounts {} .standard files s ∧
      ∀ f ∈ files, Recorded {} .standard f (s.account f.path) := by
  intro files s
  have distinct : (files.map (·.path)).Nodup := by decide
  obtain ⟨accounts, recorded⟩ := @classify_accounts {} .standard files distinct
  refine ⟨distinct, accounts, fun f hf => (recorded f hf).mpr fun isDoc => ?_⟩
  simp only [files, List.mem_cons, List.not_mem_nil, or_false] at hf
  rcases hf with rfl | rfl | rfl
  · exact absurd isDoc (by decide)
  · exact ⟨_, rfl⟩
  · exact ⟨_, rfl⟩

/-- The scan of a document that cannot be read is the scan of no file at all. -/
theorem not_recorded_unread :
    let f : ScannedFile := ⟨"docs/a.md", .error "not valid UTF-8"⟩
    ¬ Recorded {} .standard f ((classify {} .standard [f]).account f.path) := by
  intro f h
  have isDoc : ScanConfig.isDoc {} f.path = true := by decide
  have nothing : classify {} .standard [f] = {} := by
    rw [classify, List.mergeSort_singleton, List.foldl_cons, step_unread isDoc rfl, List.foldl_nil]
  rw [nothing] at h
  exact Recorded.not_nothing isDoc h

end Interlink.Scan
