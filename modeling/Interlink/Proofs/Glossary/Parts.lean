import Interlink.Proofs.Glossary.Document
import Interlink.Proofs.Glossary.Visible

/-!
# What documents define

A document defines one term for each visible heading that is a name in brackets, of the level that the
settings give. The lines from there to the next heading say what the term is, and no other line does.
-/

namespace Interlink.Glossary

open Text

variable {level : Nat} {l l' : Line} {ls : List Line} {name : List Char} {path : String} {config : TermsConfig}

/-! ## Names in brackets -/

theorem definedName?_eq_some_iff {text : List Char} : definedName? text = some name ↔
    ∃ inner, text = '[' :: '[' :: (inner ++ [']', ']']) ∧ (∀ c ∈ inner, c ≠ '[' ∧ c ≠ ']' ∧ c ≠ '|') ∧
      bracketName? inner = some name := by
  constructor
  · intro h
    unfold definedName? at h
    split at h
    · rename_i rest
      dsimp only at h
      split at h
      · rename_i closing
        refine ⟨_, ?_, fun c hc => ?_, h⟩
        · rw [← closing]
          exact congrArg ('[' :: '[' :: ·) (List.prefix_iff_eq_append.mp (List.takeWhile_prefix _)).symm
        · have plain := List.mem_takeWhile_imp hc
          simpa [and_assoc] using plain
      · cases h
    · cases h
  · rintro ⟨inner, rfl, plain, h⟩
    have inside : (inner ++ [']', ']']).takeWhile (fun c => c ≠ '[' && c ≠ ']' && c ≠ '|') = inner := by
      rw [List.takeWhile_append_of_pos fun c hc => by simpa [and_assoc] using plain c hc]
      simp
    rw [definedName?, inside, List.drop_left, if_pos rfl]
    exact h

def IsDefining (level : Nat) (l : Line) (name : List Char) : Prop :=
  ∃ inner, heading? l.text = some ⟨level, '[' :: '[' :: (inner ++ [']', ']'])⟩ ∧
    (∀ c ∈ inner, c ≠ '[' ∧ c ≠ ']' ∧ c ≠ '|') ∧ bracketName? inner = some name

def definedAt? (level : Nat) (l : Line) : Option (List Char) :=
  (heading? l.text).bind fun h => if h.level = level then definedName? h.text else none

theorem definedAt?_eq_some_iff : definedAt? level l = some name ↔ IsDefining level l name := by
  rw [definedAt?, Option.bind_eq_some_iff]
  constructor
  · rintro ⟨h, hh, hn⟩
    split at hn
    · rename_i hl
      obtain ⟨inner, ht, plain, hb⟩ := definedName?_eq_some_iff.mp hn
      exact ⟨inner, by rw [hh, ← ht, ← hl], plain, hb⟩
    · cases hn
  · rintro ⟨inner, hh, plain, hb⟩
    exact ⟨_, hh, (if_pos rfl).trans (definedName?_eq_some_iff.mpr ⟨inner, rfl, plain, hb⟩)⟩

/-! ## Parts -/

/-- A heading that defines a name, and the lines from there to the next heading. -/
structure Part where
  name : List Char
  line : Line
  block : List Line

def partAt? (level : Nat) : List Line → Option Part
  | l :: rest => (definedAt? level l).map (⟨·, l, rest.takeWhile fun x => (heading? x.text).isNone⟩)
  | [] => none

def parts (level : Nat) (ls : List Line) : List Part := ls.tails.filterMap (partAt? level)

def Section.part? (level : Nat) (s : Section) : Option Part := (s.name? level).map (⟨·, s.line, s.block⟩)

theorem sections_fst (ls : List Line) : (sections ls).1 = ls.takeWhile fun l => (heading? l.text).isNone := by
  induction ls with
  | nil => rfl
  | cons l ls ih =>
    rw [sections, List.takeWhile_cons]
    cases h : heading? l.text with
    | some x => rfl
    | none => exact congrArg (l :: ·) ih

theorem parts_eq (level : Nat) (ls : List Line) :
    (sections ls).2.filterMap (Section.part? level) = parts level ls := by
  induction ls with
  | nil => rfl
  | cons l ls ih =>
    rw [parts, List.tails_cons, List.filterMap_cons, ← parts, ← ih, sections, partAt?, definedAt?]
    cases h : heading? l.text with
    | none => rfl
    | some x =>
      have first : Section.part? level ⟨x, l, (sections ls).1⟩ =
          (if x.level = level then definedName? x.text else none).map
            (⟨·, l, ls.takeWhile fun x => (heading? x.text).isNone⟩) := by
        rw [← sections_fst]
        rfl
      exact first ▸ List.filterMap_cons

theorem exists_section {p : Part} (h : p ∈ parts level ls) :
    ∃ s ∈ (sections ls).2, s.name? level = some p.name ∧ s.line = p.line ∧ s.block = p.block := by
  rw [← parts_eq] at h
  obtain ⟨s, hs, hp⟩ := List.mem_filterMap.mp h
  obtain ⟨name, hn, rfl⟩ := Option.map_eq_some_iff.mp hp
  exact ⟨s, hs, hn, rfl, rfl⟩

/-! ## Definitions -/

def Line.complaint? (name : String) (l : Line) : Option String := (attribute? l.text).bind (·.complaint? name)

namespace Part

def attributes (p : Part) : List Attribute := p.block.filterMap fun l => attribute? l.text

def readable (p : Part) : Part :=
  { p with block := p.block.filter fun l => l.complaint? (String.ofList p.name) = none }

def complaints (path : String) (p : Part) : Report :=
  p.block.filterMap fun l => (l.complaint? (String.ofList p.name)).map
    (⟨.malformedMetadata, .warning, ·, [.ofLine path l.number]⟩)

structure Defines (config : TermsConfig) (path : String) (p : Part) (d : Definition) : Prop where
  name : d.name = String.ofList p.name
  file : d.file = path
  line : d.line = p.line.number
  definition : d.definition = String.ofList (List.intercalate [' ']
    ((p.block.filter fun l => (attribute? l.text).isNone).flatMap fun l => words isBlank l.text))
  aliases : d.aliases = p.attributes.flatMap Attribute.aliases
  related : d.related = p.attributes.flatMap Attribute.related
  kind : d.kind = (p.attributes.filterMap Attribute.kind?).getLast?.getD .concept
  scope : d.scope = (p.attributes.filterMap Attribute.scope?).getLast?.getD (config.scopeFor path)
  id : d.id = (p.attributes.filterMap Attribute.id?).getLast?.getD
    (if slug d.name = "" then lowered d.name else slug d.name)
  id_ne : d.id ≠ ""

variable {p : Part} {d : Definition}

def definition (config : TermsConfig) (path : String) (p : Part) : Definition :=
  define path (config.scopeFor path) (String.ofList p.name) p.line.number p.block

theorem attributes_eq (p : Part) : (Glossary.attributes p.block).map (·.2) = p.attributes := by
  rw [Glossary.attributes, List.map_filterMap, attributes]
  refine List.filterMap_congr fun l _ => ?_
  rw [Option.map_map]
  exact Option.map_id'

theorem lowered_ne_empty {name : String} (h : name ≠ "") : lowered name ≠ "" := by
  intro e
  have empty : lower name.toList = [] := by simpa [lowered] using congrArg String.toList e
  exact h (by simpa using lower_eq_nil empty)

theorem defaultId_eq (name : String) : defaultId name = if slug name = "" then lowered name else slug name :=
  if_congr String.isEmpty_iff rfl rfl

theorem defaultId_ne_empty {name : String} (h : name ≠ "") : defaultId name ≠ "" := by
  rw [defaultId_eq]
  split
  · exact lowered_ne_empty h
  · assumption

theorem ne_empty_of_mem_id? {as : List Attribute} {id : String} (h : id ∈ as.filterMap Attribute.id?) :
    id ≠ "" := by
  obtain ⟨a, _, ha⟩ := List.mem_filterMap.mp h
  unfold Attribute.id? at ha
  split at ha
  · rename_i hv
    obtain rfl := Option.some.inj ha
    simpa using hv.2
  · cases ha

theorem definition_eq (config : TermsConfig) (path : String) (p : Part) : p.definition config path =
    { name := String.ofList p.name
      id := (p.attributes.filterMap Attribute.id?).getLast?.getD (defaultId (String.ofList p.name))
      kind := (p.attributes.filterMap Attribute.kind?).getLast?.getD .concept
      scope := (p.attributes.filterMap Attribute.scope?).getLast?.getD (config.scopeFor path)
      aliases := p.attributes.flatMap Attribute.aliases
      related := p.attributes.flatMap Attribute.related
      definition := bodyText (bodyLines p.block)
      file := path
      line := p.line.number } := by
  rw [definition, define, attributes_eq, Draft.foldl_applyOrKeep, Option.or_none, List.nil_append, List.nil_append]

theorem defines_definition (config : TermsConfig) (path : String) (h : String.ofList p.name ≠ "") :
    p.Defines config path (p.definition config path) := by
  rw [definition_eq]
  refine { name := rfl, file := rfl, line := rfl, definition := rfl, aliases := rfl, related := rfl, kind := rfl,
           scope := rfl, id := ?_, id_ne := ?_ }
  · dsimp only
    rw [defaultId_eq]
  · dsimp only
    cases hl : (p.attributes.filterMap Attribute.id?).getLast? with
    | none =>
      rw [Option.getD_none]
      exact defaultId_ne_empty h
    | some x =>
      rw [Option.getD_some]
      exact ne_empty_of_mem_id? (List.mem_of_getLast? hl)

/-! ## Attributes that cannot be read -/

theorem flatMap_readable {β : Type} {g : Attribute → List β}
    (silent : ∀ a message, a.complaint? (String.ofList p.name) = some message → g a = []) :
    p.readable.attributes.flatMap g = p.attributes.flatMap g := by
  unfold attributes readable
  dsimp only
  induction p.block with
  | nil => rfl
  | cons l ls ih =>
    rw [List.filter_cons, List.filterMap_cons]
    cases ha : attribute? l.text with
    | none => simpa [Line.complaint?, ha] using ih
    | some a =>
      cases hc : a.complaint? (String.ofList p.name) with
      | none => simpa [Line.complaint?, ha, hc] using ih
      | some message => simpa [Line.complaint?, ha, hc, silent a message hc] using ih

theorem filterMap_readable {β : Type} {f : Attribute → Option β}
    (silent : ∀ a message, a.complaint? (String.ofList p.name) = some message → f a = none) :
    p.readable.attributes.filterMap f = p.attributes.filterMap f := by
  rw [List.filterMap_eq_flatMap_toList, List.filterMap_eq_flatMap_toList]
  exact flatMap_readable fun a message h => by rw [silent a message h]; rfl

theorem bodyLines_readable (p : Part) : bodyLines p.readable.block = bodyLines p.block := by
  rw [bodyLines, bodyLines, readable, List.filter_filter]
  refine List.filter_congr fun l _ => ?_
  cases ha : attribute? l.text with
  | none => simp [Line.complaint?, ha]
  | some a => simp

theorem definition_readable (config : TermsConfig) (path : String) (p : Part) :
    p.readable.definition config path = p.definition config path := by
  have name : p.readable.name = p.name := rfl
  have line : p.readable.line = p.line := rfl
  rw [definition_eq, definition_eq, name, line, bodyLines_readable,
    filterMap_readable fun a _ h => (Attribute.silent_of_complaint? h).1,
    filterMap_readable fun a _ h => (Attribute.silent_of_complaint? h).2.1,
    filterMap_readable fun a _ h => (Attribute.silent_of_complaint? h).2.2.1,
    flatMap_readable fun a _ h => (Attribute.silent_of_complaint? h).2.2.2.1,
    flatMap_readable fun a _ h => (Attribute.silent_of_complaint? h).2.2.2.2]

theorem unreadable_eq (path : String) (p : Part) :
    unreadable path (String.ofList p.name) p.block = p.complaints path := by
  rw [unreadable, Glossary.attributes, List.filterMap_filterMap, complaints]
  refine List.filterMap_congr fun l _ => ?_
  rw [Line.complaint?]
  cases attribute? l.text with
  | none => rfl
  | some a =>
    simp only [Option.map_some, Option.bind_some, Draft.apply_eq]
    cases a.complaint? (String.ofList p.name) with
    | none => rfl
    | some message => rfl

end Part

/-! ## Documents -/

theorem flatMap_filterMap {α β γ : Type} (xs : List α) (f : α → Option β) (g : β → List γ) :
    (xs.filterMap f).flatMap g = xs.flatMap fun x => ((f x).map g).getD [] := by
  rw [List.filterMap_eq_flatMap_toList, List.flatMap_assoc]
  refine List.flatMap_congr fun x _ => ?_
  cases f x <;> simp

theorem definitions_ofLines (config : TermsConfig) (path : String) (ls : List Line) :
    (Document.ofLines config path ls).definitions =
      (parts config.headingLevel ls).map (Part.definition config path) := by
  rw [← parts_eq, List.map_filterMap]
  refine List.filterMap_congr fun s _ => ?_
  rw [Section.part?, Option.map_map]
  rfl

theorem warnings_ofLines (config : TermsConfig) (path : String) (ls : List Line) :
    (Document.ofLines config path ls).warnings =
      (parts config.headingLevel ls).flatMap (Part.complaints path) := by
  rw [← parts_eq, flatMap_filterMap]
  refine List.flatMap_congr fun s _ => ?_
  rw [Section.warnings, Section.part?]
  cases s.name? config.headingLevel with
  | none => rfl
  | some name => exact Part.unreadable_eq path ⟨name, s.line, s.block⟩

theorem sections_append (ls : List Line) :
    (sections ls).1 ++ (sections ls).2.flatMap (fun s => s.line :: s.block) = ls := by
  induction ls with
  | nil => rfl
  | cons l ls ih =>
    rw [sections]
    cases heading? l.text with
    | some h => exact congrArg (l :: ·) ih
    | none => exact congrArg (l :: ·) ih

theorem textLines_subset {s : Section} (h : l ∈ s.textLines level) : l ∈ s.line :: s.block := by
  unfold Section.textLines at h
  split at h
  · exact List.mem_cons_of_mem _ (List.mem_of_mem_filter h)
  · exact h

theorem number_ne_of_attribute (distinct : ls.Pairwise fun a b => a.number ≠ b.number) {s : Section}
    (hs : s ∈ (sections ls).2) (hn : s.name? level = some name) (hl : l ∈ s.block)
    (ha : (attribute? l.text).isSome)
    (hl' : l' ∈ (sections ls).1 ++ (sections ls).2.flatMap (Section.textLines level)) : l'.number ≠ l.number := by
  rw [← sections_append ls, List.pairwise_append, List.pairwise_flatMap] at distinct
  obtain ⟨_, ⟨within, across⟩, apart⟩ := distinct
  have own : l ∈ s.line :: s.block := List.mem_cons_of_mem _ hl
  rcases List.mem_append.mp hl' with before | inside
  · exact apart l' before l (List.mem_flatMap.mpr ⟨s, hs, own⟩)
  · obtain ⟨s', hs', ht⟩ := List.mem_flatMap.mp inside
    by_cases same : s' = s
    · subst same
      have sym : Std.Symm fun a b : Line => a.number ≠ b.number := ⟨fun _ _ h => h.symm⟩
      refine (within s' hs').forall (textLines_subset ht) own ?_
      rintro rfl
      rw [Section.textLines, hn] at ht
      rw [Option.isNone_iff_eq_none.mp (List.mem_filter.mp ht).2] at ha
      cases ha
    · have sym : Std.Symm fun a b : Section =>
          ∀ x ∈ a.line :: a.block, ∀ y ∈ b.line :: b.block, x.number ≠ y.number :=
        ⟨fun _ _ h x hx y hy => (h y hy x hx).symm⟩
      exact across.forall hs' hs same l' (textLines_subset ht) l own

theorem name_ne_empty_of_mem_parts {p : Part} (h : p ∈ parts level ls) : String.ofList p.name ≠ "" := by
  obtain ⟨s, _, hn, _⟩ := exists_section h
  unfold Section.name? at hn
  split at hn
  · rcases isName_of_definedName? hn with trimmed | ⟨b, _, e⟩
    · exact trimmed.2
    · rw [e]
      simp
  · cases hn

theorem number_of_mem_references {x : Reference} (h : x ∈ (Document.ofLines config path ls).references) :
    ∃ l ∈ (sections ls).1 ++ (sections ls).2.flatMap (Section.textLines config.headingLevel),
    x.line = l.number := by
  obtain ⟨l, hl, hx⟩ := List.mem_flatMap.mp h
  obtain ⟨_, _, rfl⟩ := List.mem_map.mp hx
  exact ⟨l, hl, rfl⟩

namespace Document

/-- What any document defines. Its visible lines are those after the front matter that neither stand
in a fence nor mark one. Of these each heading that defines a name makes one definition, with all
that the lines up to the next heading say, and nothing else makes one. An attribute that cannot be
read changes no definition and holds no reference: it is warned of, once and at its line, and there
are no other warnings. -/
theorem parse_defines (config : TermsConfig) (path text : String) :
    let ls := lines text.toList
    let shown := visible text.toList
    let ps := parts config.headingLevel shown
    let doc := parse config path text
    (∀ l, l ∈ shown ↔ ∃ i, l.number = i + 1 ∧ ls[i]? = some l.text ∧ IsVisible ls i) ∧
    shown.Pairwise (fun a b => a.number < b.number) ∧
    (∀ l name, definedAt? config.headingLevel l = some name ↔ IsDefining config.headingLevel l name) ∧
    List.Forall₂ (Part.Defines config path) ps doc.definitions ∧
    List.Forall₂ (Part.Defines config path) (ps.map Part.readable) doc.definitions ∧
    doc.warnings = ps.flatMap (Part.complaints path) ∧
    ∀ p ∈ ps, ∀ l ∈ p.block, (attribute? l.text).isSome → ∀ x ∈ doc.references, x.line ≠ l.number := by
  intro ls shown ps doc
  have named (p : Part) (hp : p ∈ ps) : String.ofList p.name ≠ "" := name_ne_empty_of_mem_parts hp
  have definitions : doc.definitions = ps.map (Part.definition config path) :=
    definitions_ofLines config path shown
  refine ⟨fun l => mem_visible, pairwise_number_visible _, fun l name => definedAt?_eq_some_iff, ?_, ?_,
    warnings_ofLines config path shown, fun p hp l hl ha x hx => ?_⟩
  · rw [definitions, List.forall₂_map_right_iff, List.forall₂_same]
    exact fun p hp => Part.defines_definition config path (named p hp)
  · rw [definitions, List.forall₂_map_left_iff, List.forall₂_map_right_iff, List.forall₂_same]
    intro p hp
    rw [← Part.definition_readable]
    exact Part.defines_definition config path (named p hp)
  · obtain ⟨s, hs, hn, _, hb⟩ := exists_section hp
    obtain ⟨l', hl', e⟩ := number_of_mem_references hx
    rw [e]
    exact number_ne_of_attribute ((pairwise_number_visible _).imp Nat.ne_of_lt) hs hn (hb ▸ hl) ha hl'

/-- The last kind that can be read holds. -/
example : (parse {} "a.md" "### [[X]]\n- kind: entity\n- kind: gizmo\n").definitions.map (·.kind) = [.entity] := by
  decide +kernel

end Document

end Interlink.Glossary
