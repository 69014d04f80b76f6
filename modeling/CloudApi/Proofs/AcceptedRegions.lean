import CloudApi.Proofs.RegionSpellings

/-!
# The spellings that name a region

A region is named by every text in which it stands at the end, between blanks, after nothing or a
qualifier that ends in a point, and with any of its hyphens written as underscores. A text that
names no known region in this way is refused. What is kept of an accepted text is the region itself,
which is left as it is from then on, so a session can be opened again with the settings that it has.

## Key results

- `Ec2.normalizeRegion_normalizeRegion`: normalizing twice is normalizing once
- `Ec2.spells_normalizeRegion`, `Ec2.normalizeRegion_of_spells`: a text spells what it is normalized
  to, and all spellings of a region are normalized alike
- `Session.openCompute_of_leads`: a session is opened again with its own settings
- `accepted_regions_are_spelled`: which texts are accepted, and what is kept of them
-/

namespace CloudApi

namespace Ec2

open Text (isBlank trimList)

/-- Nothing, or a text that ends in a point. -/
def IsQualifier (cs : List Char) : Prop := cs = [] ∨ ∃ name, cs = name ++ ['.']

/-- `written` is `cs` with some of the hyphens written as underscores. -/
def Underscored (cs written : List Char) : Prop :=
  List.Forall₂ (fun c w => w = c ∨ c = '-' ∧ w = '_') cs written

/-- The region stands at the end of the text, after a qualifier and between blanks, with some of its
hyphens written as underscores. -/
def Spells (text region : String) : Prop :=
  ∃ qualifier front written back,
    text.toList = qualifier ++ (front ++ written ++ back) ∧ IsQualifier qualifier ∧
    (∀ c ∈ front, isBlank c = true) ∧ (∀ c ∈ back, isBlank c = true) ∧
    Underscored region.toList written

/-! ### Qualifiers -/

/-- What follows a qualifier is what stands after the last point, if it holds none itself. -/
private theorem afterLastPoint_append {qualifier cs : List Char} (h : IsQualifier qualifier)
    (free : '.' ∉ cs) : afterLastPoint (qualifier ++ cs) = cs := by
  have all : ∀ c ∈ cs.reverse, decide (c ≠ '.') = true := by
    intro c hc
    exact decide_eq_true fun point => free (point ▸ List.mem_reverse.mp hc)
  -- read from the end, the look stops at the qualifier's point
  have stop : Text.HeadFails (fun c => decide (c ≠ '.')) qualifier.reverse := by
    rcases h with rfl | ⟨name, rfl⟩
    · exact nofun
    · simp [Text.HeadFails]
  rw [afterLastPoint, List.reverse_append, Text.takeWhile_append_of_headFails all stop,
    List.reverse_reverse]

private theorem afterLastPoint_eq_self {cs : List Char} (free : '.' ∉ cs) :
    afterLastPoint cs = cs :=
  afterLastPoint_append (.inl rfl : IsQualifier []) free

/-- Every text is made of a qualifier and what stands after its last point. -/
private theorem exists_qualifier (cs : List Char) :
    '.' ∉ afterLastPoint cs ∧
      ∃ qualifier, IsQualifier qualifier ∧ cs = qualifier ++ afterLastPoint cs := by
  constructor
  · -- no point is passed on the way
    intro mem
    have passed := List.all_eq_true.mp List.all_takeWhile '.' (List.mem_reverse.mp mem)
    exact of_decide_eq_true passed rfl
  · refine ⟨(cs.reverse.dropWhile (· ≠ '.')).reverse, ?_, ?_⟩
    · -- the first character that is dropped, from the end, is a point
      have stop := Text.headFails_dropWhile (fun c => decide (c ≠ '.')) cs.reverse
      cases dropped : cs.reverse.dropWhile (· ≠ '.') with
      | nil => exact .inl rfl
      | cons c rest =>
        have point : c = '.' := by
          rw [dropped] at stop
          simpa using stop c rfl
        exact .inr ⟨rest.reverse, by rw [List.reverse_cons, point]⟩
    · rw [afterLastPoint, ← List.reverse_append, List.takeWhile_append_dropWhile,
        List.reverse_reverse]

/-! ### Normal forms -/

/-- An underscore becomes a hyphen; every other character stays. -/
private def hyphened (c : Char) : Char := if c = '_' then '-' else c

private theorem toList_normalizeRegion (s : String) :
    (normalizeRegion s).toList = (trimList (afterLastPoint s.toList)).map hyphened :=
  String.toList_ofList

private theorem hyphened_cases (c : Char) :
    c = '_' ∧ hyphened c = '-' ∨ c ≠ '_' ∧ hyphened c = c := by
  unfold hyphened
  split
  · next underscore => exact .inl ⟨underscore, rfl⟩
  · next other => exact .inr ⟨other, rfl⟩

private theorem hyphened_hyphened (c : Char) : hyphened (hyphened c) = hyphened c := by
  rcases hyphened_cases c with ⟨_, h⟩ | ⟨_, h⟩
  · rw [h]
    decide
  · rw [h, h]

private theorem isBlank_hyphened (c : Char) : isBlank (hyphened c) = isBlank c := by
  rcases hyphened_cases c with ⟨rfl, h⟩ | ⟨_, h⟩
  · decide
  · rw [h]

/-- Normalizing twice is normalizing once. -/
theorem normalizeRegion_normalizeRegion (s : String) :
    normalizeRegion (normalizeRegion s) = normalizeRegion s := by
  have free : '.' ∉ (normalizeRegion s).toList := by
    -- no character becomes a point, and there was none to begin with
    rw [toList_normalizeRegion, List.mem_map]
    rintro ⟨c, hc, point⟩
    obtain ⟨front, back, split, _⟩ := Text.trimList_isMiddle (afterLastPoint s.toList)
    have mem : c ∈ afterLastPoint s.toList := by
      rw [split]
      simp [hc]
    rcases hyphened_cases c with ⟨_, h⟩ | ⟨_, h⟩
    · rw [point] at h
      exact absurd h (by decide)
    · rw [point] at h
      exact (exists_qualifier s.toList).1 (h ▸ mem)
  -- so the second time there is nothing to cut off, to trim or to replace
  apply String.toList_inj.mp
  rw [toList_normalizeRegion (normalizeRegion s), afterLastPoint_eq_self free,
    toList_normalizeRegion, Text.trimList_map isBlank_hyphened, Text.trimList_trimList,
    List.map_map]
  exact List.map_congr_left fun c _ => hyphened_hyphened c

/-! ### Spellings -/

/-- Underscores for hyphens make no difference to the normal form. -/
private theorem Underscored.map_hyphened {cs written : List Char} (h : Underscored cs written) :
    written.map hyphened = cs.map hyphened := by
  induction h with
  | nil => rfl
  | cons same _ ih =>
    rcases same with rfl | ⟨rfl, rfl⟩
    · rw [List.map_cons, List.map_cons, ih]
    · rw [List.map_cons, List.map_cons, ih]
      rfl

private theorem Underscored.point_mem {cs written : List Char} (h : Underscored cs written)
    (point : '.' ∈ written) : '.' ∈ cs := by
  induction h with
  | nil => exact point
  | cons same _ ih =>
    rcases List.mem_cons.mp point with first | later
    · rcases same with rfl | ⟨_, underscore⟩
      · exact List.mem_cons.mpr (.inl first)
      · rw [underscore] at first
        exact absurd first (by decide)
    · exact List.mem_cons_of_mem _ (ih later)

/-- A text spells what it is normalized to. -/
theorem spells_normalizeRegion (text : String) : Spells text (normalizeRegion text) := by
  obtain ⟨_, qualifier, hq, qualified⟩ := exists_qualifier text.toList
  obtain ⟨front, back, padded, hf, hb⟩ := Text.trimList_isMiddle (afterLastPoint text.toList)
  refine ⟨qualifier, front, _, back, padded ▸ qualified, hq, hf, hb, ?_⟩
  rw [toList_normalizeRegion, Underscored, List.forall₂_map_left_iff, List.forall₂_same]
  intro c _
  -- what has become a hyphen was an underscore, and the rest has stayed
  rcases hyphened_cases c with ⟨underscore, h⟩ | ⟨_, h⟩
  · exact .inr ⟨h, underscore⟩
  · exact .inl h.symm

/-- All spellings of a region are normalized like the region itself. -/
theorem normalizeRegion_of_spells {text region : String} (plain : '.' ∉ region.toList)
    (h : Spells text region) : normalizeRegion text = normalizeRegion region := by
  obtain ⟨qualifier, front, written, back, split, hq, hf, hb, underscored⟩ := h
  -- what follows the qualifier holds no point, so it is what is looked at
  have blankFree {cs : List Char} (blank : ∀ c ∈ cs, isBlank c = true) : '.' ∉ cs :=
    fun mem => absurd (blank '.' mem) (by decide)
  have free : '.' ∉ front ++ written ++ back := by
    simp only [List.mem_append, not_or]
    exact ⟨⟨blankFree hf, fun mem => plain (underscored.point_mem mem)⟩, blankFree hb⟩
  apply String.toList_inj.mp
  calc (normalizeRegion text).toList
      = (trimList written).map hyphened := by
        rw [toList_normalizeRegion, split, afterLastPoint_append hq free,
          Text.trimList_between hf hb]
    _ = trimList (region.toList.map hyphened) := by
        rw [← Text.trimList_map isBlank_hyphened, underscored.map_hyphened]
    _ = (normalizeRegion region).toList := by
        rw [Text.trimList_map isBlank_hyphened, toList_normalizeRegion,
          afterLastPoint_eq_self plain]

/-- The accepted texts are the spellings of the known regions. -/
theorem validateRegion_eq_ok_iff_spells {text region : String} :
    validateRegion text = .ok region ↔ region ∈ regions ∧ Spells text region := by
  -- a point in a region would be taken for the end of a qualifier
  have plain : ∀ region ∈ regions, '.' ∉ region.toList := by decide
  rw [validateRegion_eq_ok]
  constructor
  · rintro ⟨rfl, known⟩
    exact ⟨known, spells_normalizeRegion text⟩
  · rintro ⟨known, spelled⟩
    refine ⟨?_, known⟩
    rw [normalizeRegion_of_spells (plain region known) spelled, normalizeRegion_of_mem region known]

/-- A region that has been accepted is accepted again, and stays what it is. -/
theorem validateRegion_of_eq_ok {text region : String} (h : validateRegion text = .ok region) :
    region ∈ regions ∧ validateRegion region = .ok region := by
  obtain ⟨_, known⟩ := validateRegion_eq_ok.mp h
  exact ⟨known, validateRegion_eq_ok.mpr ⟨normalizeRegion_of_mem region known, known⟩⟩

end Ec2

/-! ### Opening a session again -/

namespace Session

open CommandLine (newSession)

/-- Settings that have been checked pass the check again, unchanged. -/
theorem checkRegion_of_eq_ok {context checked : Context} (h : checkRegion context = .ok checked) :
    checkRegion checked = .ok checked := by
  unfold checkRegion at h
  split at h
  · -- the region has been replaced by the accepted one, which is accepted as it is
    next text aws _ =>
    cases accepted : Ec2.validateRegion text with
    | error e =>
      rw [accepted] at h
      cases h
    | ok region =>
      rw [accepted] at h
      cases h
      simp only [checkRegion, Context.withRegion, aws, (Ec2.validateRegion_of_eq_ok accepted).2]
  · -- nothing has been checked, and nothing is the second time
    next other =>
    cases h
    unfold checkRegion
    split
    · next text aws given => exact (other text aws given).elim
    · rfl

/-- However a session has been used, with its settings the same session is opened again. -/
theorem openCompute_of_leads {context : Context} {transport : Transport} {s₀ s : Session}
    (opened : openCompute context transport = .ok s₀) (used : s₀.Leads s) :
    openCompute s.resolver.context transport = .ok s₀ := by
  obtain ⟨_, continues⟩ := used.sound (Opened.compute opened).sound
  obtain ⟨checked, passed, provider, other, rfl⟩ := openCompute_eq_ok opened
  -- the settings that are kept are those that have been checked
  have settings : s.resolver.context = checked := continues.resolver.context
  have notQuery : checked.provider ≠ .cloudStack := provider ▸ other
  rw [settings, ← openSession_eq_openCompute transport notQuery, CommandLine.openSession_eq,
    checkRegion_of_eq_ok passed]
  rfl

/-- A session that has been opened for a text keeps the region that the text spells. -/
theorem region_of_leads {context : Context} {transport : Transport} {text : String}
    {s₀ s : Session} (aws : context.provider = .aws) (asked : context.region = some text)
    (opened : openCompute context transport = .ok s₀) (used : s₀.Leads s) :
    ∃ region, s.resolver.context.region = some region ∧
      Ec2.validateRegion text = .ok region := by
  obtain ⟨_, continues⟩ := used.sound (Opened.compute opened).sound
  obtain ⟨known, rfl⟩ := openCompute_of_region aws asked opened
  have settings : s.resolver.context = context.withRegion (Ec2.normalizeRegion text) :=
    continues.resolver.context
  exact ⟨_, congrArg Context.region settings, Ec2.validateRegion_eq_ok.mpr ⟨rfl, known⟩⟩

end Session

/-- Normalizing a region again changes nothing. The texts that are accepted for a region are its
spellings, and the region must be a known one; it is then accepted for itself. A session of the
public cloud keeps the region that its text spells, and every session of the compute service,
however it has been used, is opened again as the same one with the settings that it keeps. -/
theorem accepted_regions_are_spelled :
    (∀ text, Ec2.normalizeRegion (Ec2.normalizeRegion text) = Ec2.normalizeRegion text) ∧
    (∀ text region, Ec2.validateRegion text = .ok region ↔
      region ∈ Ec2.regions ∧ Ec2.Spells text region) ∧
    (∀ text region, Ec2.validateRegion text = .ok region →
      region ∈ Ec2.regions ∧ Ec2.validateRegion region = .ok region) ∧
    ∀ context transport s₀ s, Session.openCompute context transport = .ok s₀ → s₀.Leads s →
      (∀ text, context.provider = .aws → context.region = some text →
        ∃ region, s.resolver.context.region = some region ∧
          Ec2.validateRegion text = .ok region) ∧
      Session.openCompute s.resolver.context transport = .ok s₀ := by
  refine ⟨Ec2.normalizeRegion_normalizeRegion, ?_, ?_, ?_⟩
  · exact fun _ _ => Ec2.validateRegion_eq_ok_iff_spells
  · exact fun _ _ => Ec2.validateRegion_of_eq_ok
  · intro context transport s₀ s opened used
    exact ⟨fun text aws asked => Session.region_of_leads aws asked opened used,
      Session.openCompute_of_leads opened used⟩

/-! A qualified spelling, with a blank before it that is not one of ASCII, and only the first of its
hyphens written as an underscore. -/

private def qualifiedTokyo : String := "my.Region.\u3000ap_northeast-1\t"

private def tokyoSession : Session :=
  CommandLine.newSession (.ofRegion "ap-northeast-1") fun _ _ => .error { text := "timed out" }

theorem qualified_spelling_is_accepted :
    Ec2.Spells qualifiedTokyo "ap-northeast-1" ∧
    Ec2.validateRegion qualifiedTokyo = .ok "ap-northeast-1" ∧
    Ec2.validateRegion "ap-northeast-1" = .ok "ap-northeast-1" ∧
    Session.openCompute (.ofRegion qualifiedTokyo) tokyoSession.link.transport = .ok tokyoSession ∧
    Session.openCompute tokyoSession.resolver.context tokyoSession.link.transport =
      .ok tokyoSession := by
  obtain ⟨_, accepted, kept, reopened⟩ := accepted_regions_are_spelled
  have spelled : Ec2.Spells qualifiedTokyo "ap-northeast-1" := by
    refine ⟨"my.Region.".toList, ['\u3000'], "ap_northeast-1".toList, ['\t'], by decide,
      .inr ⟨"my.Region".toList, by decide⟩, ?_, ?_, ?_⟩
    · exact List.forall_mem_singleton.mpr (by decide)
    · exact List.forall_mem_singleton.mpr (by decide)
    -- the third character is the hyphen
    have rest (cs : List Char) : List.Forall₂ (fun c w => w = c ∨ c = '-' ∧ w = '_') cs cs :=
      List.forall₂_same.mpr fun c _ => .inl rfl
    exact .cons (.inl rfl) (.cons (.inl rfl) (.cons (.inr ⟨rfl, rfl⟩) (rest "northeast-1".toList)))
  have valid := (accepted qualifiedTokyo "ap-northeast-1").mpr ⟨by decide, spelled⟩
  have opened : Session.openCompute (.ofRegion qualifiedTokyo) tokyoSession.link.transport =
      .ok tokyoSession := rfl
  exact ⟨spelled, valid, (kept _ _ valid).2, opened, (reopened _ _ _ _ opened .refl).2⟩

end CloudApi
