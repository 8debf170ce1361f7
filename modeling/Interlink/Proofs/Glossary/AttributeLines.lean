import Interlink.Proofs.Glossary.Keywords
import Interlink.Proofs.Glossary.Parts

/-!
# Lines of attributes

Within a definition every attribute says something of one field or is warned of, once. The only
lines that are lost are those whose key is written with a long s: a list item counts as an attribute
then, but of no key.
-/

namespace Interlink.Glossary

open Text

variable {name path key : String} {value : List Char} {l : Line} {ls : List Line} {d : Draft}

/-! ## What a line can do -/

inductive Draft.Takes (d : Draft) (value : List Char) : String → Draft → Prop
  | kind {kind : TermKind} : TermKind.ofText (String.ofList value) = .ok kind →
    d.Takes value "kind" { d with kind }
  | scope {scope : TermScope} : TermScope.ofText (String.ofList value) = .ok scope →
    d.Takes value "scope" { d with scope }
  | aliases : d.Takes value "aliases" { d with aliases := d.aliases ++ (listItems value).map String.ofList }
  | related : d.Takes value "related" { d with related := d.related ++ (relatedNames value).map String.ofList }
  | id : value ≠ [] → d.Takes value "id" { d with id? := some (String.ofList value) }

inductive Refuses (name : String) (value : List Char) : String → String → Prop
  | kind {e : Failure} : TermKind.ofText (String.ofList value) = .error e →
    Refuses name value "kind" ("unknown term kind '" ++ String.ofList value ++ "' for [[" ++ name ++ "]]")
  | scope {e : Failure} : TermScope.ofText (String.ofList value) = .error e →
    Refuses name value "scope" ("unknown term scope '" ++ String.ofList value ++ "' for [[" ++ name ++ "]]")
  | id : value = [] → Refuses name value "id" ("empty id for [[" ++ name ++ "]]")

/-- A line of text changes no draft. An attribute is read by its key in lower case: it is taken, or
it is warned of. -/
inductive Line.Heeds (path name : String) (l : Line) (d : Draft) : Draft → Report → Prop
  | text : (∀ key written value, ¬ IsItem l.text key written value) → l.Heeds path name d d []
  | taken {key : String} {written value : List Char} {d' : Draft} : IsItem l.text key written value →
    lower written = key.toList → d.Takes value key d' → l.Heeds path name d d' []
  | refused {key message : String} {written value : List Char} : IsItem l.text key written value →
    lower written = key.toList → Refuses name value key message →
    l.Heeds path name d d [⟨.malformedMetadata, .warning, message, [.ofLine path l.number]⟩]

inductive Line.Passes (path name : String) (l : Line) (d : Draft) : Draft → Report → Prop
  | heeded {d' : Draft} {report : Report} : l.Heeds path name d d' report → l.Passes path name d d' report
  | lost {key : String} {written value : List Char} : IsItem l.text key written value →
    String.ofList (lower written) ∉ attributeKeys → l.Passes path name d d []

inductive Runs (step : Line → Draft → Draft → Report → Prop) : List Line → Draft → Draft → Report → Prop
  | nil {d : Draft} : Runs step [] d d []
  | cons {l : Line} {ls : List Line} {d d' d'' : Draft} {here later : Report} :
    step l d d' here → Runs step ls d' d'' later → Runs step (l :: ls) d d'' (here ++ later)

structure Draft.Fills (d : Draft) (x : Definition) : Prop where
  kind : x.kind = d.kind
  scope : x.scope = d.scope
  aliases : x.aliases = d.aliases
  related : x.related = d.related
  id : x.id = d.id?.getD (defaultId x.name)

/-- Each part makes one definition, from a draft that its lines lead to by the steps, and nothing is
warned of but what the steps report. -/
def Document.IsReadBy (step : String → Line → Draft → Draft → Report → Prop) (config : TermsConfig)
    (ps : List Part) (doc : Document) : Prop :=
  ∃ (draft : Part → Draft) (report : Part → Report),
    (∀ p ∈ ps,
      Runs (step (String.ofList p.name)) p.block { scope := config.scopeFor doc.path } (draft p) (report p)) ∧
    List.Forall₂ (fun p x => x.name = String.ofList p.name ∧ x.line = p.line.number ∧ (draft p).Fills x)
      ps doc.definitions ∧
    doc.warnings = ps.flatMap report

def Line.HasLongS (l : Line) : Prop := ∃ key written value, IsItem l.text key written value ∧ '\u017F' ∈ written

/-! ## One attribute -/

theorem Draft.apply_of_mem (h : key ∈ attributeKeys) (name : String) (d : Draft) (value : List Char) :
    (∃ d', d.Takes value key d' ∧ d.apply name ⟨key, value⟩ = .ok d') ∨
      ∃ message, Refuses name value key message ∧ d.apply name ⟨key, value⟩ = .error message := by
  simp only [attributeKeys, List.mem_cons, List.not_mem_nil, or_false] at h
  rcases h with rfl | rfl | rfl | rfl | rfl
  · cases hk : TermKind.ofText (String.ofList value) with
    | ok kind => exact .inl ⟨_, .kind hk, by simp only [apply, hk]⟩
    | error e => exact .inr ⟨_, .kind hk, by simp only [apply, hk]⟩
  · cases hs : TermScope.ofText (String.ofList value) with
    | ok scope => exact .inl ⟨_, .scope hs, by simp only [apply, hs]⟩
    | error e => exact .inr ⟨_, .scope hs, by simp only [apply, hs]⟩
  · exact .inl ⟨_, .aliases, rfl⟩
  · exact .inl ⟨_, .related, rfl⟩
  · by_cases hv : value = []
    · exact .inr ⟨_, .id hv, if_pos hv⟩
    · exact .inl ⟨_, .id hv, if_neg hv⟩

theorem Draft.apply_of_not_mem (h : key ∉ attributeKeys) (name : String) (d : Draft) (value : List Char) :
    d.apply name ⟨key, value⟩ = .ok d := by
  simp only [attributeKeys, List.mem_cons, List.not_mem_nil, or_false, not_or] at h
  obtain ⟨noKind, noScope, noAliases, noRelated, noId⟩ := h
  unfold apply
  dsimp only
  split
  · exact absurd rfl noKind
  · exact absurd rfl noScope
  · exact absurd rfl noAliases
  · exact absurd rfl noRelated
  · exact absurd rfl noId
  · rfl

/-! ## One line -/

def Draft.read (d : Draft) (l : Line) : Draft := (attribute? l.text).elim d d.told

def Line.warnings (path name : String) (l : Line) : Report :=
  ((l.complaint? name).map (⟨.malformedMetadata, .warning, ·, [.ofLine path l.number]⟩)).toList

theorem read_of_none (path name : String) (d : Draft) (found : attribute? l.text = none) :
    d.read l = d ∧ l.warnings path name = [] := by
  rw [Draft.read, Line.warnings, Line.complaint?, found]
  exact ⟨rfl, rfl⟩

theorem read_of_apply_ok {a : Attribute} {d' : Draft} (path : String) (found : attribute? l.text = some a)
    (h : d.apply name a = .ok d') : d.read l = d' ∧ l.warnings path name = [] := by
  have told : d.told a = d' := by rw [← Draft.applyOrKeep_eq name, Draft.applyOrKeep, h]
  have quiet : a.complaint? name = none := by
    rw [Draft.apply_eq] at h
    cases hc : a.complaint? name with
    | none => rfl
    | some message => rw [hc] at h; cases h
  rw [Draft.read, Line.warnings, Line.complaint?, found, Option.bind_some, quiet]
  exact ⟨told, rfl⟩

theorem read_of_apply_error {a : Attribute} {message : String} (path : String) (found : attribute? l.text = some a)
    (h : d.apply name a = .error message) :
    d.read l = d ∧ l.warnings path name = [⟨.malformedMetadata, .warning, message, [.ofLine path l.number]⟩] := by
  have told : d.told a = d := by rw [← Draft.applyOrKeep_eq name, Draft.applyOrKeep, h]
  have loud : a.complaint? name = some message := by
    rw [Draft.apply_eq] at h
    cases hc : a.complaint? name with
    | none => rw [hc] at h; cases h
    | some other => rw [hc] at h; exact congrArg some (Except.error.inj h)
  rw [Draft.read, Line.warnings, Line.complaint?, found, Option.bind_some, loud]
  exact ⟨told, rfl⟩

theorem Line.heeds {written : List Char} (item : IsItem l.text key written value)
    (plain : lower written = key.toList)
    (path name : String) (d : Draft) : l.Heeds path name d (d.read l) (l.warnings path name) := by
  have found := item.attribute?_eq
  rw [plain, String.ofList_toList] at found
  rcases Draft.apply_of_mem item.known name d value with ⟨d', takes, h⟩ | ⟨message, refuses, h⟩
  · obtain ⟨read, silent⟩ := read_of_apply_ok path found h
    rw [read, silent]
    exact .taken item plain takes
  · obtain ⟨read, warned⟩ := read_of_apply_error path found h
    rw [read, warned]
    exact .refused item plain refuses

theorem Line.passes (path name : String) (l : Line) (d : Draft) :
    l.Passes path name d (d.read l) (l.warnings path name) := by
  by_cases text : ∀ key written value, ¬ IsItem l.text key written value
  · obtain ⟨read, silent⟩ := read_of_none path name d (attribute?_eq_none_iff.mpr text)
    rw [read, silent]
    exact .heeded (.text text)
  · simp only [not_forall, not_not] at text
    obtain ⟨key, written, value, item⟩ := text
    by_cases known : String.ofList (lower written) ∈ attributeKeys
    · exact .heeded (Line.heeds item (item.lower_eq (item.lower_mem_iff.mp known)) path name d)
    · obtain ⟨read, silent⟩ := read_of_apply_ok path item.attribute?_eq (Draft.apply_of_not_mem known name d value)
      rw [read, silent]
      exact .lost item known

theorem Line.Passes.heeds {d' : Draft} {report : Report} (h : l.Passes path name d d' report)
    (plain : ¬ l.HasLongS) :
    l.Heeds path name d d' report := by
  cases h with
  | heeded h => exact h
  | lost item unknown => exact absurd (item.lower_mem_iff.mpr fun long => plain ⟨_, _, _, item, long⟩) unknown

theorem Line.Heeds.not_hasLongS {d' : Draft} {report : Report} (h : l.Heeds path name d d' report) :
    ¬ l.HasLongS := by
  rintro ⟨key, written, value, item, long⟩
  have unknown : String.ofList (lower written) ∉ attributeKeys := fun known => item.lower_mem_iff.mp known long
  -- The line is read as one attribute only, so another reading of it has the same key in lower case.
  have same {key' : String} {written' value' : List Char} (item' : IsItem l.text key' written' value')
      (plain : lower written' = key'.toList) : String.ofList (lower written) = key' := by
    have both := item.attribute?_eq.symm.trans item'.attribute?_eq
    rw [plain, String.ofList_toList] at both
    exact congrArg Attribute.key (Option.some.inj both)
  cases h with
  | text none => exact none _ _ _ item
  | taken item' plain => exact unknown (same item' plain ▸ item'.known)
  | refused item' plain => exact unknown (same item' plain ▸ item'.known)

theorem keys_known_iff : (∀ a, attribute? l.text = some a → a.key ∈ attributeKeys) ↔ ¬ l.HasLongS := by
  constructor
  · rintro known ⟨key, written, value, item, long⟩
    exact item.lower_mem_iff.mp (known _ item.attribute?_eq) long
  · intro plain a found
    obtain ⟨key, written, item, e⟩ := attribute?_eq_some_iff.mp found
    rw [e]
    exact item.lower_mem_iff.mpr fun long => plain ⟨_, _, _, item, long⟩

/-! ## Runs -/

theorem Runs.of_forall {step : Line → Draft → Draft → Report → Prop} {next : Draft → Line → Draft}
    {report : Line → Report} (h : ∀ l ∈ ls, ∀ d, step l d (next d l) (report l)) (d : Draft) :
    Runs step ls d (ls.foldl next d) (ls.flatMap report) := by
  induction ls generalizing d with
  | nil => exact .nil
  | cons l ls ih =>
    obtain ⟨here, later⟩ := List.forall_mem_cons.mp h
    exact .cons (here d) (ih later _)

theorem Runs.exists_of_mem {step : Line → Draft → Draft → Report → Prop} {d' : Draft} {report : Report}
    (h : Runs step ls d d' report) (hl : l ∈ ls) : ∃ before after here, step l before after here := by
  induction h with
  | nil => cases hl
  | cons here _ ih =>
    rcases List.mem_cons.mp hl with rfl | hl
    · exact ⟨_, _, _, here⟩
    · exact ih hl

/-! ## Documents -/

theorem foldl_read (p : Part) (d : Draft) :
    ((attributes p.block).map (·.2)).foldl (Draft.applyOrKeep (String.ofList p.name)) d =
      p.block.foldl Draft.read d := by
  rw [p.attributes_eq, Part.attributes, List.foldl_filterMap]
  refine List.foldl_ext _ _ _ fun d l _ => ?_
  rw [Draft.read]
  cases attribute? l.text with
  | none => rfl
  | some a => exact Draft.applyOrKeep_eq _ d a

theorem complaints_eq (path : String) (p : Part) :
    p.complaints path = p.block.flatMap (Line.warnings path (String.ofList p.name)) := by
  rw [Part.complaints, List.filterMap_eq_flatMap_toList]
  rfl

theorem fills_definition (config : TermsConfig) (path : String) (p : Part) :
    (p.block.foldl Draft.read { scope := config.scopeFor path }).Fills (p.definition config path) := by
  rw [← foldl_read]
  exact ⟨rfl, rfl, rfl, rfl, rfl⟩

theorem isReadBy_ofLines {step : String → Line → Draft → Draft → Report → Prop} (config : TermsConfig)
    (path : String) (ls : List Line)
    (h : ∀ p ∈ parts config.headingLevel ls, ∀ l ∈ p.block, ∀ d,
      step (String.ofList p.name) l d (d.read l) (l.warnings path (String.ofList p.name))) :
    (Document.ofLines config path ls).IsReadBy step config (parts config.headingLevel ls) := by
  refine ⟨fun p => p.block.foldl Draft.read { scope := config.scopeFor path },
    fun p => p.block.flatMap (Line.warnings path (String.ofList p.name)),
    fun p hp => Runs.of_forall (h p hp) _, ?_, ?_⟩
  · rw [definitions_ofLines, List.forall₂_map_right_iff, List.forall₂_same]
    exact fun p _ => ⟨rfl, rfl, fills_definition config path p⟩
  · rw [warnings_ofLines]
    exact List.flatMap_congr fun p _ => complaints_eq path p

namespace Document

theorem heeds_ofLines_iff (config : TermsConfig) (path : String) (ls : List Line) :
    (ofLines config path ls).IsReadBy (Line.Heeds path) config (parts config.headingLevel ls) ↔
      ∀ p ∈ parts config.headingLevel ls, ∀ l ∈ p.block, ¬ l.HasLongS := by
  constructor
  · rintro ⟨_, _, runs, -, -⟩ p hp l hl
    obtain ⟨_, _, _, here⟩ := (runs p hp).exists_of_mem hl
    exact here.not_hasLongS
  · intro plain
    exact isReadBy_ofLines config path ls fun p hp l hl d => (l.passes path _ d).heeds (plain p hp l hl)

theorem keys_known_parts_iff (ps : List Part) :
    (∀ p ∈ ps, ∀ a ∈ p.attributes, a.key ∈ attributeKeys) ↔ ∀ p ∈ ps, ∀ l ∈ p.block, ¬ l.HasLongS := by
  refine forall₂_congr fun p _ => ?_
  simp only [Part.attributes, List.mem_filterMap, ← keys_known_iff]
  constructor
  · intro h l hl a found
    exact h a ⟨l, hl, found⟩
  · rintro h a ⟨l, hl, found⟩
    exact h l hl a found

/-- In every document each line of a definition is heeded, or it is an attribute of no key and lost.
None is lost just when no key is written with a long s. -/
theorem parse_heeds_attributes_iff (config : TermsConfig) (path text : String) :
    let ps := parts config.headingLevel (visible text.toList)
    let doc := parse config path text
    (∀ key ∈ attributeKeys, ∀ written,
      lower written = key.toList ↔ IsKeyword key.toList written ∧ '\u017F' ∉ written) ∧
    (∀ line a, attribute? line = some a ↔
      ∃ key written, IsItem line key written a.value ∧ a.key = String.ofList (lower written)) ∧
    doc.IsReadBy (Line.Passes path) config ps ∧
    (doc.IsReadBy (Line.Heeds path) config ps ↔ ∀ p ∈ ps, ∀ l ∈ p.block, ¬ l.HasLongS) ∧
    ((∀ p ∈ ps, ∀ a ∈ p.attributes, a.key ∈ attributeKeys) ↔ ∀ p ∈ ps, ∀ l ∈ p.block, ¬ l.HasLongS) := by
  intro ps doc
  refine ⟨fun key known written => ?_, fun line a => attribute?_eq_some_iff, ?_, heeds_ofLines_iff config path _,
    keys_known_parts_iff ps⟩
  · exact lower_eq_iff_isKeyword (isLower_of_mem_attributeKeys key known)
  · exact isReadBy_ofLines config path _ fun p _ l _ d => l.passes path _ d

/-- The scope is lost, without a warning. -/
theorem not_heeds_longS :
    let text := "### [[Widget]]\n- \u017Fcope: document\nOnly here.\n"
    let doc := parse {} "a.md" text
    ¬ doc.IsReadBy (Line.Heeds "a.md") {} (parts 3 (visible text.toList)) ∧
    doc.definitions.map (·.scope) = [.global] ∧ doc.warnings = [] := by
  intro text doc
  have found : (¬ ∀ p ∈ parts 3 (visible text.toList), ∀ a ∈ p.attributes, a.key ∈ attributeKeys) ∧
      doc.definitions.map (·.scope) = [.global] ∧ doc.warnings = [] := by
    decide +kernel
  refine ⟨fun heeded => found.1 ?_, found.2⟩
  exact (keys_known_parts_iff _).mpr ((heeds_ofLines_iff {} "a.md" _).mp heeded)

end Document

end Interlink.Glossary
