import Mathlib.Data.List.Forall2
import Mathlib.Data.List.TakeWhile
import Signpost.Template
/-!
# The grammar of templates

`Writes` says which segments write an item, `Violates` what is wrong with a segment
that writes none. A template is read exactly when its segments write items whose
names are all different, and otherwise the error is that of the first segment at
fault (`parse_iff`).
-/

namespace Signpost.Template

variable {registry : Registry} {seen : List String} {s name tag : String} {type : ParamType}

/-! ## What templates are made of -/

/-- Text without the characters that mark a placeholder. -/
def Plain (s : String) : Prop := ∀ c ∈ s.toList, c ≠ '\x7b' ∧ c ≠ '\x7d' ∧ c ≠ ':'

/-- Text that may stand between the braces of a placeholder. -/
def Enclosable (s : String) : Prop := ∀ c ∈ s.toList, c ≠ '\x7b' ∧ c ≠ '\x7d' ∧ c ≠ '\n'

/-- A text between braces. -/
def placeholder (inner : String) : String := "\x7b" ++ inner ++ "\x7d"

/-- The segments that write an item. -/
inductive Writes (registry : Registry) : String → Item → Prop
  | literal {text : String} (plain : Plain text) : Writes registry text (.literal text)
  | untagged {name : String} (enclosable : Enclosable name) (colon : ':' ∉ name.toList)
      (named : name ≠ "") : Writes registry (placeholder name) (.parameter name .string)
  | tagged {name tag : String} {type : ParamType} (enclosable : Enclosable (name ++ ":" ++ tag))
      (colon : ':' ∉ name.toList) (known : registry.resolve? tag = some type)
      (named : name ≠ "") :
      Writes registry (placeholder (name ++ ":" ++ tag)) (.parameter name type)

/-- The fault of a segment, where `seen` are the names taken before it. Of two faults
the one that comes first here counts. -/
inductive Violates (registry : Registry) (seen : List String) : String → Fault → Prop
  | badPath {s : String} (marked : ¬ Plain s)
      (shape : ∀ inner, inner ≠ "" → Enclosable inner → s ≠ placeholder inner) :
      Violates registry seen s .badPath
  | unknownType {name tag : String} (enclosable : Enclosable (name ++ ":" ++ tag))
      (colon : ':' ∉ name.toList) (unknown : registry.resolve? tag = none) :
      Violates registry seen (placeholder (name ++ ":" ++ tag)) (.unknownType tag)
  | emptyName {tag : String} {type : ParamType} (enclosable : Enclosable (":" ++ tag))
      (known : registry.resolve? tag = some type) :
      Violates registry seen (placeholder (":" ++ tag)) .emptyName
  | duplicateName {s name : String} {type : ParamType}
      (written : Writes registry s (.parameter name type)) (taken : name ∈ seen) :
      Violates registry seen s (.duplicateName name)

/-- Segments that write items, one each, with all names different. -/
structure Spells (registry : Registry) (segments : List String) (items : List Item) : Prop where
  written : List.Forall₂ (Writes registry) segments items
  nodup : (Item.names items).Nodup

/-! ## One segment, shape by shape -/

theorem any_isMark_iff : s.toList.any isMark = true ↔ ¬ Plain s := by
  simp only [List.any_eq_true, isMark, Bool.or_eq_true, decide_eq_true_eq, Plain, not_forall]
  constructor
  · rintro ⟨c, hc, h⟩
    exact ⟨c, hc, by tauto⟩
  · rintro ⟨c, hc, h⟩
    exact ⟨c, hc, by tauto⟩

theorem all_isInner_iff : s.toList.all isInner = true ↔ Enclosable s := by
  simp [isInner, Enclosable, and_assoc]

theorem toList_placeholder (inner : String) :
    (placeholder inner).toList = '\x7b' :: (inner.toList ++ ['\x7d']) := by
  simp [placeholder]

theorem not_plain_placeholder (inner : String) : ¬ Plain (placeholder inner) := by
  intro h
  exact (h '\x7b' (by simp [toList_placeholder])).1 rfl

theorem inner?_placeholder {inner : String} (hne : inner ≠ "") (he : Enclosable inner) :
    inner? (placeholder inner).toList = some inner.toList := by
  have hne' : inner.toList ≠ [] := fun h => hne (String.toList_inj.1 h)
  simp [toList_placeholder, inner?, hne', all_isInner_iff.2 he]

theorem eq_placeholder_of_inner? {inner : List Char} (h : inner? s.toList = some inner) :
    s = placeholder (String.ofList inner) ∧ inner ≠ [] ∧ Enclosable (String.ofList inner) := by
  unfold inner? at h
  split at h
  · rename_i rest hs
    split at h
    · rename_i hlast
      split at h
      · rename_i hrest
        obtain rfl := Option.some.inj h
        refine ⟨?_, hrest.1, all_isInner_iff.1 (by simpa using hrest.2)⟩
        obtain ⟨front, rfl⟩ := List.getLast?_eq_some_iff.1 hlast
        rw [← String.toList_inj, toList_placeholder, hs]
        simp
      · cases h
    · cases h
  · cases h

/-- In text without a colon, no character is one. -/
theorem ne_colon {front : List Char} (h : ':' ∉ front) :
    ∀ c ∈ front, decide (c ≠ ':') = true := by
  intro c hc
  simpa using fun he : c = ':' => h (he ▸ hc)

theorem nameOf_of_not_mem {inner : List Char} (h : ':' ∉ inner) :
    nameOf inner = String.ofList inner := by
  rw [nameOf, List.takeWhile_eq_self_iff.2 (ne_colon h)]

theorem tagOf?_of_not_mem {inner : List Char} (h : ':' ∉ inner) : tagOf? inner = none := by
  rw [tagOf?, List.dropWhile_eq_nil_iff.2 (ne_colon h)]

theorem nameOf_append {front back : List Char} (h : ':' ∉ front) :
    nameOf (front ++ ':' :: back) = String.ofList front := by
  rw [nameOf, List.takeWhile_append_of_pos (ne_colon h)]
  simp

theorem tagOf?_append {front back : List Char} (h : ':' ∉ front) :
    tagOf? (front ++ ':' :: back) = some (String.ofList back) := by
  rw [tagOf?, List.dropWhile_append_of_pos (ne_colon h)]
  simp

theorem readSegment_plain (h : Plain s) : readSegment registry seen s = .ok (.literal s) := by
  have hm : s.toList.any isMark ≠ true := fun h' => any_isMark_iff.1 h' h
  simp only [readSegment, hm]
  rfl

theorem readSegment_of_typeOf_error {fault : Fault} (hne : name ≠ "") (he : Enclosable name)
    (ht : typeOf registry name.toList = .error fault) :
    readSegment registry seen (placeholder name) = .error fault := by
  rw [readSegment, if_pos (any_isMark_iff.2 (not_plain_placeholder name)),
    inner?_placeholder hne he]
  simp only [ht]

theorem readSegment_of_typeOf_ok (hne : name ≠ "") (he : Enclosable name)
    (ht : typeOf registry name.toList = .ok type) :
    readSegment registry seen (placeholder name) =
      if nameOf name.toList = "" then .error .emptyName
      else if nameOf name.toList ∈ seen then .error (.duplicateName (nameOf name.toList))
      else .ok (.parameter (nameOf name.toList) type) := by
  rw [readSegment, if_pos (any_isMark_iff.2 (not_plain_placeholder name)),
    inner?_placeholder hne he]
  simp only [ht]

theorem readSegment_badPath (marked : ¬ Plain s)
    (shape : ∀ inner, inner ≠ "" → Enclosable inner → s ≠ placeholder inner) :
    readSegment registry seen s = .error .badPath := by
  have hi : inner? s.toList = none := by
    rw [Option.eq_none_iff_forall_ne_some]
    intro inner h
    obtain ⟨hs, hne, he⟩ := eq_placeholder_of_inner? h
    exact shape _ (by simpa using hne) he hs
  rw [readSegment, if_pos (any_isMark_iff.2 marked), hi]

theorem readSegment_untagged (he : Enclosable name) (hc : ':' ∉ name.toList) (hne : name ≠ "") :
    readSegment registry seen (placeholder name) =
      if name ∈ seen then .error (.duplicateName name) else .ok (.parameter name .string) := by
  have ht : typeOf registry name.toList = .ok .string := by simp only [typeOf, tagOf?_of_not_mem hc]
  rw [readSegment_of_typeOf_ok hne he ht, nameOf_of_not_mem hc, String.ofList_toList, if_neg hne]

theorem toList_tagged (name tag : String) :
    (name ++ ":" ++ tag).toList = name.toList ++ ':' :: tag.toList := by
  simp

theorem tagged_ne_empty (name tag : String) : name ++ ":" ++ tag ≠ "" := by
  intro h
  simpa using congrArg String.toList h

theorem tagOf?_tagged (hc : ':' ∉ name.toList) : tagOf? (name ++ ":" ++ tag).toList = some tag := by
  rw [toList_tagged, tagOf?_append hc, String.ofList_toList]

theorem readSegment_unknown (he : Enclosable (name ++ ":" ++ tag)) (hc : ':' ∉ name.toList)
    (unknown : registry.resolve? tag = none) :
    readSegment registry seen (placeholder (name ++ ":" ++ tag)) = .error (.unknownType tag) := by
  refine readSegment_of_typeOf_error (tagged_ne_empty name tag) he ?_
  simp only [typeOf, tagOf?_tagged hc, unknown]

theorem readSegment_tagged (he : Enclosable (name ++ ":" ++ tag)) (hc : ':' ∉ name.toList)
    (known : registry.resolve? tag = some type) :
    readSegment registry seen (placeholder (name ++ ":" ++ tag)) =
      if name = "" then .error .emptyName
      else if name ∈ seen then .error (.duplicateName name)
      else .ok (.parameter name type) := by
  have ht : typeOf registry (name ++ ":" ++ tag).toList = .ok type := by
    simp only [typeOf, tagOf?_tagged hc, known]
  rw [readSegment_of_typeOf_ok (tagged_ne_empty name tag) he ht, toList_tagged, nameOf_append hc,
    String.ofList_toList]

/-! ## One segment -/

theorem readSegment_of_writes {item : Item} (h : Writes registry s item)
    (fresh : ∀ name ∈ item.name?, name ∉ seen) : readSegment registry seen s = .ok item := by
  cases h with
  | literal plain => exact readSegment_plain plain
  | untagged enclosable colon named =>
    rw [readSegment_untagged enclosable colon named, if_neg (fresh _ rfl)]
  | tagged enclosable colon known named =>
    rw [readSegment_tagged enclosable colon known, if_neg named, if_neg (fresh _ rfl)]

theorem readSegment_of_violates {fault : Fault} (h : Violates registry seen s fault) :
    readSegment registry seen s = .error fault := by
  cases h with
  | badPath marked shape => exact readSegment_badPath marked shape
  | unknownType enclosable colon unknown => exact readSegment_unknown enclosable colon unknown
  | @emptyName tag type enclosable known =>
    have he : Enclosable ("" ++ ":" ++ tag) := by simpa using enclosable
    simpa using readSegment_tagged he (by simp) known
  | duplicateName written taken =>
    cases written with
    | untagged enclosable colon named =>
      rw [readSegment_untagged enclosable colon named, if_pos taken]
    | tagged enclosable colon known named =>
      rw [readSegment_tagged enclosable colon known, if_neg named, if_pos taken]

/-- Text with a colon splits at the first one. -/
theorem exists_eq_tagged (h : ':' ∈ s.toList) :
    ∃ name tag : String, s = name ++ ":" ++ tag ∧ ':' ∉ name.toList := by
  obtain ⟨front, back, hs, hc⟩ := List.eq_append_cons_of_mem h
  refine ⟨String.ofList front, String.ofList back, ?_, by simpa using hc⟩
  rw [← String.toList_inj, toList_tagged, hs]
  simp

theorem placeholder_writes_or_violates (hne : name ≠ "") (he : Enclosable name) :
    (∃ item, Writes registry (placeholder name) item) ∨
      ∃ fault, Violates registry seen (placeholder name) fault := by
  by_cases hc : ':' ∈ name.toList
  · obtain ⟨front, tag, rfl, hf⟩ := exists_eq_tagged hc
    cases hr : registry.resolve? tag with
    | none => exact .inr ⟨_, .unknownType he hf hr⟩
    | some type =>
      by_cases hn : front = ""
      · subst hn
        exact .inr ⟨.emptyName, by simpa using Violates.emptyName (by simpa using he) hr⟩
      · exact .inl ⟨_, .tagged he hf hr hn⟩
  · exact .inl ⟨_, .untagged he hc hne⟩

/-- Every segment writes an item or is at fault. -/
theorem writes_or_violates (registry : Registry) (seen : List String) (s : String) :
    (∃ item, Writes registry s item ∧ ∀ name ∈ item.name?, name ∉ seen) ∨
      ∃ fault, Violates registry seen s fault := by
  have h : (∃ item, Writes registry s item) ∨ ∃ fault, Violates registry seen s fault := by
    by_cases hp : Plain s
    · exact .inl ⟨_, .literal hp⟩
    · by_cases hs : ∃ inner, inner ≠ "" ∧ Enclosable inner ∧ s = placeholder inner
      · obtain ⟨inner, hne, he, rfl⟩ := hs
        exact placeholder_writes_or_violates hne he
      · exact .inr ⟨_, .badPath hp fun inner hne he hs' => hs ⟨inner, hne, he, hs'⟩⟩
  -- What writes an item can only be at fault for a name that is taken.
  obtain ⟨item, hw⟩ | hv := h
  · by_cases hs : ∃ name ∈ item.name?, name ∈ seen
    · obtain ⟨name, hn, hs⟩ := hs
      cases item with
      | literal text => cases hn
      | parameter name type =>
        obtain rfl := Option.some.inj hn
        exact .inr ⟨_, .duplicateName hw hs⟩
    · exact .inl ⟨item, hw, fun name hn hs' => hs ⟨name, hn, hs'⟩⟩
  · exact .inr hv

theorem readSegment_eq_ok_iff {item : Item} :
    readSegment registry seen s = .ok item ↔
      Writes registry s item ∧ ∀ name ∈ item.name?, name ∉ seen := by
  refine ⟨fun h => ?_, fun ⟨hw, hf⟩ => readSegment_of_writes hw hf⟩
  obtain ⟨item', hw, hf⟩ | ⟨fault, hv⟩ := writes_or_violates registry seen s
  · rw [readSegment_of_writes hw hf] at h
    cases h
    exact ⟨hw, hf⟩
  · rw [readSegment_of_violates hv] at h
    cases h

theorem readSegment_eq_error_iff {fault : Fault} :
    readSegment registry seen s = .error fault ↔ Violates registry seen s fault := by
  refine ⟨fun h => ?_, readSegment_of_violates⟩
  obtain ⟨item, hw, hf⟩ | ⟨fault', hv⟩ := writes_or_violates registry seen s
  · rw [readSegment_of_writes hw hf] at h
    cases h
  · rw [readSegment_of_violates hv] at h
    cases h
    exact hv

/-! ## Segments in order -/

theorem readSegments_cons_eq_ok_iff {rest : List String} {items : List Item} :
    readSegments registry seen (s :: rest) = .ok items ↔
      ∃ item tail, items = item :: tail ∧ readSegment registry seen s = .ok item ∧
        readSegments registry (seen ++ item.name?.toList) rest = .ok tail := by
  rw [readSegments]
  cases readSegment registry seen s with
  | error fault => simp
  | ok item =>
    cases h : readSegments registry (seen ++ item.name?.toList) rest with
    | error fault => simp [h]
    | ok tail => simp [h, eq_comm]

theorem readSegments_cons_eq_error_iff {rest : List String} {fault : Fault} :
    readSegments registry seen (s :: rest) = .error fault ↔
      readSegment registry seen s = .error fault ∨
        ∃ item, readSegment registry seen s = .ok item ∧
          readSegments registry (seen ++ item.name?.toList) rest = .error fault := by
  rw [readSegments]
  cases readSegment registry seen s with
  | error fault => simp
  | ok item =>
    cases h : readSegments registry (seen ++ item.name?.toList) rest with
    | error fault => simp [h]
    | ok tail => simp [h]

theorem append_names_cons (seen : List String) (item : Item) (items : List Item) :
    seen ++ Item.names (item :: items) = seen ++ item.name?.toList ++ Item.names items := by
  rw [Item.names_cons, List.append_assoc]

/-- The names stay different when an item adds one that is not taken. -/
theorem nodup_append_name {item : Item} (hs : seen.Nodup)
    (fresh : ∀ name ∈ item.name?, name ∉ seen) : (seen ++ item.name?.toList).Nodup := by
  cases h : item.name? with
  | none => simpa using hs
  | some name =>
    rw [Option.toList_some, List.nodup_append]
    refine ⟨hs, by simp, ?_⟩
    rintro m hm n hn rfl
    obtain rfl := List.mem_singleton.1 hn
    exact fresh m h hm

theorem not_mem_of_nodup {item : Item} {items : List Item}
    (h : (seen ++ Item.names (item :: items)).Nodup) : ∀ name ∈ item.name?, name ∉ seen := by
  intro name hn hs
  rw [append_names_cons, List.append_assoc] at h
  exact (List.nodup_append.1 h).2.2 name hs name (by simp [Option.mem_def.1 hn]) rfl

theorem readSegments_eq_ok_iff {segments : List String} {items : List Item} (hs : seen.Nodup) :
    readSegments registry seen segments = .ok items ↔
      List.Forall₂ (Writes registry) segments items ∧ (seen ++ Item.names items).Nodup := by
  -- The names seen grow along the way, and they stay different.
  induction segments generalizing seen items with
  | nil =>
    constructor
    · rintro ⟨⟩
      exact ⟨.nil, by simpa using hs⟩
    · rintro ⟨⟨⟩, -⟩
      rfl
  | cons s rest ih =>
    rw [readSegments_cons_eq_ok_iff]
    constructor
    · rintro ⟨item, tail, rfl, hr, ht⟩
      obtain ⟨hw, hf⟩ := readSegment_eq_ok_iff.1 hr
      obtain ⟨htw, hn⟩ := (ih (nodup_append_name hs hf)).1 ht
      exact ⟨.cons hw htw, by rwa [append_names_cons]⟩
    · rintro ⟨hw, hn⟩
      cases hw with
      | cons hw htw =>
        have hf := not_mem_of_nodup hn
        rw [append_names_cons] at hn
        exact ⟨_, _, rfl, readSegment_eq_ok_iff.2 ⟨hw, hf⟩,
          (ih (nodup_append_name hs hf)).2 ⟨htw, hn⟩⟩

theorem readSegments_eq_error_iff {segments : List String} {fault : Fault} (hs : seen.Nodup) :
    readSegments registry seen segments = .error fault ↔
      ∃ before s after items, segments = before ++ s :: after ∧
        List.Forall₂ (Writes registry) before items ∧ (seen ++ Item.names items).Nodup ∧
        Violates registry (seen ++ Item.names items) s fault := by
  induction segments generalizing seen with
  | nil => simp [readSegments]
  | cons s rest ih =>
    rw [readSegments_cons_eq_error_iff]
    constructor
    · rintro (hv | ⟨item, hr, ht⟩)
      · exact ⟨[], s, rest, [], rfl, .nil, by simpa using hs,
          by simpa using readSegment_eq_error_iff.1 hv⟩
      · obtain ⟨hw, hf⟩ := readSegment_eq_ok_iff.1 hr
        obtain ⟨before, s', after, items, rfl, hb, hn, hv⟩ :=
          (ih (nodup_append_name hs hf)).1 ht
        rw [← append_names_cons] at hn hv
        exact ⟨s :: before, s', after, item :: items, rfl, .cons hw hb, hn, hv⟩
    · rintro ⟨before, s', after, items, he, hb, hn, hv⟩
      cases hb with
      | nil =>
        obtain ⟨rfl, -⟩ := List.cons.inj he
        exact .inl (readSegment_eq_error_iff.2 (by simpa using hv))
      | cons hw hb =>
        obtain ⟨rfl, rfl⟩ := List.cons.inj he
        have hf := not_mem_of_nodup hn
        rw [append_names_cons] at hn hv
        exact .inr ⟨_, readSegment_eq_ok_iff.2 ⟨hw, hf⟩,
          (ih (nodup_append_name hs hf)).2 ⟨_, _, _, _, rfl, hb, hn, hv⟩⟩

theorem parse_eq_ok_iff {template : String} {p : Pattern} :
    parse registry template = .ok p ↔
      p.template = template ∧
        readSegments registry [] (Segment.split template) = .ok p.items := by
  obtain ⟨text, items⟩ := p
  rw [parse]
  cases readSegments registry [] (Segment.split template) <;> simp [eq_comm]

theorem parse_eq_error_iff {template : String} {e : SyntaxError} :
    parse registry template = .error e ↔
      e.template = template ∧
        readSegments registry [] (Segment.split template) = .error e.fault := by
  obtain ⟨text, fault⟩ := e
  rw [parse]
  cases readSegments registry [] (Segment.split template) <;> simp [eq_comm]

/-- A template is read as what its segments spell. -/
theorem parse_eq_ok_iff_spells {template : String} {p : Pattern} :
    parse registry template = .ok p ↔
      p.template = template ∧ Spells registry (Segment.split template) p.items := by
  rw [parse_eq_ok_iff, readSegments_eq_ok_iff List.nodup_nil, List.nil_append]
  exact and_congr_right fun _ => ⟨fun ⟨hw, hn⟩ => ⟨hw, hn⟩, fun ⟨hw, hn⟩ => ⟨hw, hn⟩⟩

/-! ## Main theorem -/

/-- A template has a pattern exactly when its segments spell one, and the pattern then
has the items spelled. Otherwise its error is the fault of the first segment that
cannot follow the ones before it. -/
theorem parse_iff (registry : Registry) (template : String) :
    (∀ p, parse registry template = .ok p ↔
      p.template = template ∧ Spells registry (Segment.split template) p.items) ∧
    (∀ e, parse registry template = .error e ↔
      e.template = template ∧ ∃ before s after items,
        Segment.split template = before ++ s :: after ∧ Spells registry before items ∧
        Violates registry (Item.names items) s e.fault) := by
  refine ⟨fun p => parse_eq_ok_iff_spells, fun e => ?_⟩
  rw [parse_eq_error_iff, readSegments_eq_error_iff List.nodup_nil]
  refine and_congr_right fun _ => ⟨?_, ?_⟩
  · rintro ⟨before, s, after, items, he, hw, hn, hv⟩
    exact ⟨before, s, after, items, he, ⟨hw, hn⟩, hv⟩
  · rintro ⟨before, s, after, items, he, ⟨hw, hn⟩, hv⟩
    exact ⟨before, s, after, items, he, hw, hn, hv⟩

end Signpost.Template
