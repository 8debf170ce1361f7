import Interlink.Proofs.Json.Shape
import Interlink.Proofs.Timestamp.Text
import Interlink.Snapshot

/-!
# Snapshots are kept

An index whose numbers fit into their words and whose timestamp is one that is read comes back from
its snapshot as it was. Every index that was ever read is of this kind.
-/

namespace Interlink

open Json

/-! ## Data that fits -/

def ExportFact.Fits (e : ExportFact) : Prop := e.line < 2 ^ 64

instance (e : ExportFact) : Decidable e.Fits := inferInstanceAs (Decidable (e.line < 2 ^ 64))

def CodeEntry.Fits (c : CodeEntry) : Prop := ∀ e ∈ c.exports, e.Fits

instance (c : CodeEntry) : Decidable c.Fits := inferInstanceAs (Decidable (∀ e ∈ c.exports, e.Fits))

def TermUse.Fits (u : TermUse) : Prop := u.line < 2 ^ 64

instance (u : TermUse) : Decidable u.Fits := inferInstanceAs (Decidable (u.line < 2 ^ 64))

structure TermEntry.Fits (t : TermEntry) : Prop where
  line : t.line < 2 ^ 64
  uses : ∀ u ∈ t.uses, u.Fits
  useCount : t.useCount < 2 ^ 64

instance (t : TermEntry) : Decidable t.Fits :=
  decidable_of_iff (t.line < 2 ^ 64 ∧ (∀ u ∈ t.uses, u.Fits) ∧ t.useCount < 2 ^ 64)
    ⟨fun h => ⟨h.1, h.2.1, h.2.2⟩, fun h => ⟨h.line, h.uses, h.useCount⟩⟩

structure Index.Fits (ix : Index) : Prop where
  code : ∀ e ∈ ix.code.toList, e.2.Fits
  terms : ∀ e ∈ ix.terms.toList, e.2.Fits

instance (ix : Index) : Decidable ix.Fits :=
  decidable_of_iff ((∀ e ∈ ix.code.toList, e.2.Fits) ∧ ∀ e ∈ ix.terms.toList, e.2.Fits)
    ⟨fun h => ⟨h.1, h.2⟩, fun h => ⟨h.code, h.terms⟩⟩

structure Index.Storable (ix : Index) : Prop where
  version : ix.version < 2 ^ 32
  generatedAt : ix.generatedAt.Valid
  fits : ix.Fits

namespace Snapshot

/-! ## Entries -/

theorem holds_texts {find : String → Option Value} {name : String} {ts : List String}
    (hv : find name = if ts.isEmpty then none else some (.ofTexts ts)) :
    Holds find (.optional name [] (Value.list Value.text)) ts := by
  refine faithful_text.list.optional ?_ fun _ _ => trivial
  cases ts with
  | nil => exact .inr ⟨hv, rfl⟩
  | cons t ts => exact .inl hv

theorem faithful_feature : Faithful Anything ofFeature feature := by
  refine faithful_record (fun f =>
    [("doc_path", some (.str f.docPath)),
      ("title", f.title?.map .str),
      ("entry_point", f.entryPoint?.map .str),
      ("code_used", some (.ofSet f.codeUsed)),
      ("code_used_by", some (.ofSet f.codeUsedBy)),
      ("related", some (.ofSet f.related)),
      ("interfaces_provided", some (.ofSet f.provided)),
      ("interfaces_used", some (.ofSet f.used)),
      ("shared_types", some (.ofSet f.sharedTypes)),
      ("terms_defined", some (.ofSet f.termsDefined)),
      ("terms_used", some (.ofSet f.termsUsed))]) (fun f => ?_) (fun _ => rfl) (by decide) (fun f _ => ?_)
    fun _ _ _ => trivial
  · simp [ofFeature, named, textMember?, Option.map_map, Function.comp_def]
  · cases f
    iterate 10 refine .seq ?_ ?_
    · exact .map _ (faithful_text.required rfl trivial)
    · exact holds_optionalText rfl
    · exact holds_optionalText rfl
    all_goals exact faithful_keySet.required rfl trivial

theorem faithful_exportKind : Faithful Anything (fun k : ExportKind => .str k.name)
    (Value.variant ExportKind.all ExportKind.name) := faithful_variant fun k => by cases k <;> rfl

theorem faithful_export : Faithful ExportFact.Fits ofExport exported := by
  refine faithful_record (fun e =>
    [("name", some (.str e.name)),
      ("kind", some (.str e.kind.name)),
      ("is_default", if e.isDefault then some (.bool true) else none),
      ("line", some (.ofNat e.line))]) (fun e => ?_) (fun _ => rfl) (by decide) (fun e fits => ?_) ?_
  · cases h : e.isDefault <;> simp [ofExport, named, h]
  · cases e
    iterate 3 refine .seq ?_ ?_
    · exact .map _ (faithful_text.required rfl trivial)
    · exact faithful_exportKind.required rfl trivial
    · rename_i isDefault _
      refine faithful_boolean.optional ?_ trivial
      cases isDefault with
      | false => exact .inr ⟨rfl, rfl⟩
      | true => exact .inl rfl
    · exact faithful_size.required rfl fits
  · refine .seq ?_ (.required fun _ _ => faithful_size.yields)
    refine .seq (.seq (.map ?_ .any) .any) .any
    exact fun _ _ _ _ _ _ _ fits => fits

theorem faithful_role : Faithful Anything (fun r : FileRole => .str r.name)
    (Value.variant FileRole.all FileRole.name) := faithful_variant fun r => by cases r <;> rfl

theorem faithful_code : Faithful CodeEntry.Fits ofCode code := by
  refine faithful_record (fun c =>
    [("language", some (.str c.language)),
      ("role", some (.str c.role.name)),
      ("documented_in", some (.ofSet c.documentedIn)),
      ("imports", some (.ofSet c.imports)),
      ("imported_by", some (.ofSet c.importedBy)),
      ("exports", some (.ofList ofExport c.exports)),
      ("external_imports", some (.ofSet c.externalImports))]) (fun _ => rfl) (fun _ => rfl) (by decide)
    (fun c fits => ?_) ?_
  · cases c
    iterate 6 refine .seq ?_ ?_
    · exact .map _ (faithful_text.required rfl trivial)
    · exact faithful_role.required rfl trivial
    · exact faithful_keySet.required rfl trivial
    · exact faithful_keySet.required rfl trivial
    · exact faithful_keySet.required rfl trivial
    · exact faithful_export.list.required rfl fits
    · exact faithful_keySet.required rfl trivial
  · refine .seq (.seq ?_ (.required fun _ _ => faithful_export.list.yields)) .any
    refine .seq (.seq (.seq (.seq (.map ?_ .any) .any) .any) .any) .any
    exact fun _ _ _ _ _ _ _ _ _ _ _ fits _ _ => fits

theorem faithful_interface : Faithful Anything ofInterface interface := by
  refine faithful_record (fun i =>
    [("from", some (.ofSet i.providers)),
      ("to", some (.ofSet i.users)),
      ("shared_types", some (.ofSet i.sharedTypes))]) (fun _ => rfl) (fun _ => rfl) (by decide) (fun i _ => ?_)
    fun _ _ _ => trivial
  cases i
  iterate 2 refine .seq ?_ ?_
  · exact .map _ (faithful_keySet.required rfl trivial)
  all_goals exact faithful_keySet.required rfl trivial

theorem faithful_use : Faithful TermUse.Fits ofUse use := by
  refine faithful_record (fun u =>
    [("file", some (.str u.file)), ("line", some (.ofNat u.line)), ("text", some (.str u.text))])
    (fun _ => rfl) (fun _ => rfl) (by decide) (fun u fits => ?_) ?_
  · cases u
    iterate 2 refine .seq ?_ ?_
    · exact .map _ (faithful_text.required rfl trivial)
    · exact faithful_size.required rfl fits
    · exact faithful_text.required rfl trivial
  · refine .seq (.seq (.map ?_ .any) (.required fun _ _ => faithful_size.yields)) .any
    exact fun _ _ _ fits _ _ => fits

theorem faithful_termKind : Faithful Anything (fun k : TermKind => .str k.name)
    (Value.variant TermKind.all TermKind.name) := faithful_variant fun k => by cases k <;> rfl

theorem faithful_termScope : Faithful Anything (fun s : TermScope => .str s.name)
    (Value.variant TermScope.all TermScope.name) := faithful_variant fun s => by cases s <;> rfl

theorem faithful_term : Faithful TermEntry.Fits ofTerm term := by
  refine faithful_record (fun t =>
    [("name", some (.str t.name)),
      ("id", some (.str t.id)),
      ("kind", some (.str t.kind.name)),
      ("scope", some (.str t.scope.name)),
      ("aliases", if t.aliases.isEmpty then none else some (.ofTexts t.aliases)),
      ("related", if t.related.isEmpty then none else some (.ofTexts t.related)),
      ("definition", some (.str t.definition)),
      ("file", some (.str t.file)),
      ("line", some (.ofNat t.line)),
      ("references", some (.ofList ofUse t.uses)),
      ("usage_count", some (.ofNat t.useCount))]) (fun t => ?_) (fun _ => rfl) (by decide) (fun t fits => ?_) ?_
  · simp only [ofTerm, named, textsMember?]
    split <;> split <;> simp [*]
  · cases t
    iterate 10 refine .seq ?_ ?_
    · exact .map _ (faithful_text.required rfl trivial)
    · exact faithful_text.required rfl trivial
    · exact faithful_termKind.required rfl trivial
    · exact faithful_termScope.required rfl trivial
    · exact holds_texts rfl
    · exact holds_texts rfl
    · exact faithful_text.required rfl trivial
    · exact faithful_text.required rfl trivial
    · exact faithful_size.required rfl fits.line
    · exact faithful_use.list.required rfl fits.uses
    · exact faithful_size.required rfl fits.useCount
  · refine .seq (.seq (.seq ?_ (.required fun _ _ => faithful_size.yields))
      (.required fun _ _ => faithful_use.list.yields)) (.required fun _ _ => faithful_size.yields)
    iterate 7 refine .seq ?_ .any
    refine .map ?_ .any
    exact fun _ _ _ _ _ _ _ _ _ _ _ _ _ _ _ _ _ line _ uses _ count => ⟨line, uses, count⟩

theorem faithful_timestamp : Faithful Timestamp.Valid (fun t => .str t.text) timestamp where
  plain _ := .str _
  reads {t} h := by
    rw [timestamp, Timestamp.ofText?_text h]
  yields {v t} h := by
    unfold timestamp at h
    split at h
    · split at h
      · rename_i hs
        obtain rfl := Except.ok.inj h
        exact Timestamp.valid_of_ofText? hs
      · cases h
    · exact absurd h mismatch_ne_ok

theorem faithful_index : Faithful Index.Storable ofIndex index := by
  have version := faithful_natural 32 (by decide) "u32"
  refine faithful_record (fun ix =>
    [("version", some (.ofNat ix.version)),
      ("generated_at", some (.str ix.generatedAt.text)),
      ("features", some (.ofTable ofFeature ix.features)),
      ("code", some (.ofTable ofCode ix.code)),
      ("interfaces", some (.ofTable ofInterface ix.interfaces)),
      ("terms", some (.ofTable ofTerm ix.terms)),
      ("external_dependencies", some (.ofTable Value.ofSet ix.packages))]) (fun _ => rfl)
        (fun _ => rfl) (by decide)
    (fun ix storable => ?_) ?_
  · cases ix
    iterate 6 refine .seq ?_ ?_
    · exact .map _ (version.required rfl storable.version)
    · exact faithful_timestamp.required rfl storable.generatedAt
    · exact faithful_feature.table.required rfl fun _ _ => trivial
    · exact faithful_code.table.required rfl storable.fits.code
    · exact faithful_interface.table.required rfl fun _ _ => trivial
    · exact faithful_term.table.required rfl storable.fits.terms
    · exact faithful_keySet.table.optional (.inl rfl) fun _ _ => trivial
  · refine .seq (.seq (.seq (.seq (.seq (.seq (.map ?_ (.required fun _ _ => version.yields))
      (.required fun _ _ => faithful_timestamp.yields)) .any) (.required fun _ _ => faithful_code.table.yields))
        .any)
      (.required fun _ _ => faithful_term.table.yields)) .any
    exact fun _ hv _ ht _ _ _ hc _ _ _ hu _ _ => ⟨hv, ht, hc, hu⟩

/-! ## Saving and loading -/

theorem load_save_of_storable {ix : Index} (path : String) (version : ix.version = Index.currentVersion)
    (storable : ix.Storable) : load path (save ix) = .ok ix := by
  rw [load, save, decode_pretty index (faithful_index.plain storable), faithful_index.reads storable]
  exact if_pos version

theorem storable_of_load {path text : String} {ix : Index} (h : load path text = .ok ix) :
    ix.version = Index.currentVersion ∧ ix.Storable := by
  unfold load at h
  split at h
  · cases h
  · rename_i hd
    split at h
    · rename_i version
      obtain rfl := Except.ok.inj h
      obtain ⟨v, hv⟩ := exists_of_decode hd
      exact ⟨version, faithful_index.yields hv⟩
    · cases h

/-- What is saved is what is loaded again, for all indexes of ordinary data and for all that are ever loaded. -/
theorem load_save (path : String) :
    (∀ ix : Index, ix.version = Index.currentVersion → ix.generatedAt.Ordinary → ix.Fits →
      load path (save ix) = .ok ix) ∧
    ∀ (text : String) (ix : Index), load path text = .ok ix →
      ∃ again, load path (save ix) = .ok again ∧ again = ix ∧ save again = save ix := by
  constructor
  · intro ix version ordinary fits
    refine load_save_of_storable path version ⟨?_, ordinary.valid, fits⟩
    rw [version]
    decide
  · intro text ix h
    obtain ⟨version, storable⟩ := storable_of_load h
    exact ⟨ix, load_save_of_storable path version storable, rfl, rfl⟩

theorem load_save_reordered :
    let exported : ExportFact := ⟨"run\n\x01", .function, true, 18446744073709551615⟩
    let file : CodeEntry := ⟨"rust", .source, .empty, .empty, .empty, [exported], .empty⟩
    let ix : Index :=
      ⟨1, ⟨19783, 1800, 500000000⟩, .empty, .ofList [("src/\\\x22ü.rs", file)], .empty, .empty, .empty⟩
    let text := "\x7b\x22terms\x22:\x7b\x7d,\x22later\x22:[null],\x22version\x22:1," ++
      "\x22generated_at\x22:\x222024-02-29T23:30:00.5-01:00\x22,\x22features\x22:\x7b\x7d," ++
      "\x22interfaces\x22:\x7b\x7d,\x22code\x22:\x7b\x7d\x7d"
    load "a.json" (save ix) = .ok ix ∧
      load "a.json" text = .ok { ix with code := .empty } ∧
      ∃ again, load "a.json" (save { ix with code := .empty }) = .ok again ∧
        again.generatedAt.text = "2024-03-01T00:30:00.500Z" := by
  intro exported file ix text
  have read : load "a.json" text = .ok { ix with code := .empty } := by decide +kernel
  obtain ⟨again, loaded, same, _⟩ := (load_save "a.json").2 text _ read
  have ordinary : ix.generatedAt.Ordinary := ⟨by decide, by decide, by decide +kernel⟩
  have fits : ix.Fits := by decide +kernel
  refine ⟨(load_save "a.json").1 ix rfl ordinary fits, read, again, loaded, ?_⟩
  rw [same]
  decide +kernel

end Snapshot

end Interlink
