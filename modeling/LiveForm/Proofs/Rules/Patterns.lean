import LiveForm.Proofs.Rules.FirstFailure

/-!
# Patterns that are passed over

The rule `pattern` takes a text that is no pattern for one that every value matches, and says
nothing. A check of the patterns of a definition is to find such texts before anyone validates. It
looks at the patterns of constraints, and those are never passed over afterwards, whatever was
validated before and by whom. But the rule may also be called by name, and then it takes the text
from the options of the call, at which the check does not look.

`watchField` is a validation that notes what is passed over. `History.skipped_iff` says what that
can be for a definition that passed the check.
-/

namespace LiveForm

/-! ## Patterns that compile -/

/-- The pattern of a field, if it has one, compiles. -/
def FieldDefinition.Compiles (f : FieldDefinition) : Prop :=
  ∀ source, f.constraints.bind Constraints.pattern = some source →
    (Pattern.compile? source).isSome = true

/-- A text that compiles does so whatever is kept. -/
theorem PatternCache.isSome_compile? {source : String}
    (h : (Pattern.compile? source).isSome = true) (cache : PatternCache) :
    (cache.compile? source).1.isSome = true := by
  obtain ⟨pattern, hpattern⟩ := Option.isSome_iff_exists.mp h
  unfold compile?
  split
  · rfl
  · rw [hpattern]
    rfl

namespace Validator

/-- Fields whose patterns compile pass the check of any validator. -/
theorem checkFields_ok {fields : List FieldDefinition} (h : ∀ f ∈ fields, f.Compiles)
    (v : Validator) : (v.checkFields fields).1 = .ok () := by
  induction fields generalizing v with
  | nil => rfl
  | cons field rest ih =>
    have hrest : ∀ f ∈ rest, f.Compiles := fun f hf => h f (List.mem_cons_of_mem _ hf)
    rw [checkFields]
    split
    · exact ih hrest v
    · rename_i source hsource
      have hcompiles := h field List.mem_cons_self source hsource
      have hkept := v.patterns.isSome_compile? hcompiles
      split
      · exact ih hrest _
      · rename_i hnone
        rw [hnone] at hkept
        cases hkept

/-- The check of a validator that keeps what texts compile to lets only such fields pass. -/
theorem compiles_of_checkFields {fields : List FieldDefinition} {v : Validator}
    (hv : v.patterns.Faithful) (h : (v.checkFields fields).1 = .ok ()) :
    ∀ f ∈ fields, f.Compiles := by
  induction fields generalizing v with
  | nil => exact fun f hf => absurd hf List.not_mem_nil
  | cons field rest ih =>
    rw [checkFields] at h
    intro f hf
    split at h
    · rename_i hnone
      rcases List.mem_cons.mp hf with rfl | hf
      · intro source hsource
        rw [hnone] at hsource
        cases hsource
      · exact ih hv h f hf
    · rename_i source hsource
      have hcompile := hv.compile?_fst source
      have hnext := hv.compile?_snd source
      split at h
      · rename_i pattern patterns hkept
        rw [hkept] at hcompile hnext
        rcases List.mem_cons.mp hf with rfl | hf
        · intro source' hsource'
          rw [hsource] at hsource'
          cases hsource'
          rw [← hcompile]
          rfl
        · exact ih (v := { v with patterns := patterns }) hnext h f hf
      · cases h

end Validator

/-! ## Validations that are watched -/

namespace BuiltinRule

/-- The text of a pattern among options. -/
def patternOption (options : Json) : Option String :=
  (options.member? pattern.name).bind Json.text?

/-- The text that the rule `pattern` passes over: a value is given, and the text is no pattern. -/
def passedOver (value : Option Json) (options : Json) (cache : PatternCache) : List String :=
  match patternOption options, given value with
  | some source, some _ => if (cache.compile? source).1.isNone then [source] else []
  | _, _ => []

/-- The rule says nothing about a value when it passes over the text. -/
theorem matchPattern_of_passedOver {value : Option Json} {options : Json} {cache : PatternCache}
    (h : passedOver value options cache ≠ []) : (matchPattern value options cache).1 = none := by
  unfold passedOver at h
  split at h
  · rename_i source w hsource hw
    rw [patternOption] at hsource
    rw [matchPattern, hsource, hw]
    cases hcompile : cache.compile? source with
    | mk pattern kept =>
      cases pattern with
      | some pattern =>
        rw [hcompile] at h
        exact absurd rfl h
      | none => simp only [hcompile]
  · exact absurd rfl h

end BuiltinRule

namespace Validator

/-- What is passed over in a call of a rule. -/
def callSkips (v : Validator) (name : String) (value : Option Json) (options : Json) :
    List String :=
  match Keyed.find? v.rules name with
  | some (.builtin .pattern) => BuiltinRule.passedOver value options v.patterns
  | _ => []

/-- The first message of several rules, as in `firstMessage`, with what is passed over. -/
def watch (v : Validator) (value : Option Json) (data : Json) :
    List (String × Json) → (Option String × Validator) × List String
  | [] => ((none, v), [])
  | (name, options) :: rest =>
    match v.call name value options data with
    | (some message, next) => ((some message, next), v.callSkips name value options)
    | (none, next) =>
      ((watch next value data rest).1,
        v.callSkips name value options ++ (watch next value data rest).2)

/-- What is wrong with the value of a field, as in `validateField`, with what is passed over. -/
def watchField (v : Validator) (field : FieldDefinition) (value : Option Json) (data : Json) :
    (Option String × Validator) × List String :=
  match field.constraints with
  | none => ((none, v), [])
  | some spec =>
    let (options, v) := v.optionsFor field spec
    v.watch value data (checks field spec options value)

/-- The texts of patterns that are passed over in a validation. -/
def skipped (v : Validator) (field : FieldDefinition) (value : Option Json) (data : Json) :
    List String :=
  (v.watchField field value data).2

variable {v : Validator} {field : FieldDefinition} {value : Option Json} {data : Json}
  {source : String} {check : String × Json}

theorem watch_fst (v : Validator) (value : Option Json) (data : Json)
    (checks : List (String × Json)) :
    (v.watch value data checks).1 = v.firstMessage value data checks := by
  induction checks generalizing v with
  | nil => rfl
  | cons check rest ih =>
    rw [watch, firstMessage]
    cases v.call check.1 value check.2 data with
    | mk answer next =>
      cases answer with
      | some message => rfl
      | none => exact ih next

/-- A validation that is watched is the validation. -/
theorem watchField_fst (v : Validator) (field : FieldDefinition) (value : Option Json)
    (data : Json) : (v.watchField field value data).1 = v.validateField field value data := by
  cases hspec : field.constraints with
  | none => rw [watchField, validateField, hspec]
  | some spec =>
    rw [watchField, validateField, hspec]
    exact watch_fst _ value data _

/-! ## What is passed over -/

/-- A check asks the rule `pattern` about a value that is given, with a text that is no pattern. -/
def Skips (rules : RuleRegistry) (value : Option Json) (check : String × Json) (source : String) :
    Prop :=
  Keyed.find? rules check.1 = some (.builtin .pattern) ∧ Json.isBlank value = false ∧
    BuiltinRule.patternOption check.2 = some source ∧ Pattern.compile? source = none

theorem mem_passedOver_iff {cache : PatternCache} (hcache : cache.Faithful) {options : Json} :
    source ∈ BuiltinRule.passedOver value options cache ↔
      Json.isBlank value = false ∧ BuiltinRule.patternOption options = some source ∧
        Pattern.compile? source = none := by
  have hgiven : (BuiltinRule.given value).isSome = true ↔ Json.isBlank value = false := by
    cases value with
    | none => exact iff_of_false nofun nofun
    | some w => simp [BuiltinRule.given]
  rw [← hgiven]
  unfold BuiltinRule.passedOver
  split
  · rename_i text w htext hw
    rw [hcache.compile?_fst text, hw, htext]
    split
    · rename_i hnone
      rw [List.mem_singleton, Option.some.injEq]
      constructor
      · rintro rfl
        exact ⟨rfl, rfl, Option.isNone_iff_eq_none.mp hnone⟩
      · rintro ⟨-, heq, -⟩
        exact heq.symm
    · rename_i hsome
      refine iff_of_false List.not_mem_nil ?_
      rintro ⟨-, heq, hnone⟩
      cases heq
      exact hsome (Option.isNone_iff_eq_none.mpr hnone)
  · rename_i hneither
    refine iff_of_false List.not_mem_nil ?_
    rintro ⟨hw, htext, -⟩
    obtain ⟨w, hw⟩ := Option.isSome_iff_exists.mp hw
    exact hneither source w htext hw

/-- What is passed over in a call is what its check skips. -/
theorem mem_callSkips_iff (hv : v.patterns.Faithful) :
    source ∈ v.callSkips check.1 value check.2 ↔ Skips v.rules value check source := by
  unfold callSkips Skips
  split
  · rename_i hrule
    rw [hrule, and_iff_right rfl]
    exact mem_passedOver_iff hv
  · rename_i hother
    exact iff_of_false List.not_mem_nil fun h => hother h.1

/-- A call of a rule answers as if nothing was kept, and adds to the patterns that are kept. -/
theorem call_eq (hv : v.patterns.Faithful) (value : Option Json) (data : Json)
    (check : String × Json) :
    ∃ patterns : PatternCache, patterns.Faithful ∧ v.call check.1 value check.2 data =
      (v.rules.verdict value data [check], { v with patterns := patterns }) := by
  obtain ⟨patterns, hpatterns, hfirst⟩ := @firstMessage_eq v value data hv [check]
  refine ⟨patterns, hpatterns, hfirst ▸ ?_⟩
  rw [firstMessage]
  split
  · rename_i message next hcall
    exact hcall
  · rename_i next hcall
    exact hcall

/-- What several rules pass over is what the checks skip up to the first that finds something. -/
theorem mem_watch_iff (hv : v.patterns.Faithful) (checks : List (String × Json)) :
    source ∈ (v.watch value data checks).2 ↔
      ∃ before check after, checks = before ++ check :: after ∧
        (∀ c ∈ before, ∀ m, ¬ v.rules.Finds value data c m) ∧
        Skips v.rules value check source := by
  induction checks generalizing v with
  | nil => exact iff_of_false List.not_mem_nil fun ⟨before, check, after, h, _⟩ => by simp at h
  | cons check rest ih =>
    obtain ⟨patterns, hpatterns, hcall⟩ := call_eq hv value data check
    have hhead : source ∈ v.callSkips check.1 value check.2 ↔ Skips v.rules value check source :=
      mem_callSkips_iff hv
    rw [watch, hcall]
    cases hverdict : v.rules.verdict value data [check] with
    | some message =>
      have hfinds := RuleRegistry.verdict_singleton_eq_some_iff.mp hverdict
      refine hhead.trans ⟨fun h => ⟨[], check, rest, rfl, nofun, h⟩, ?_⟩
      rintro ⟨before, found, after, hchecks, hbefore, hskips⟩
      cases before with
      | nil =>
        obtain ⟨rfl, -⟩ := List.cons.inj hchecks
        exact hskips
      | cons first before =>
        obtain ⟨rfl, -⟩ := List.cons.inj hchecks
        exact absurd hfinds (hbefore _ List.mem_cons_self message)
    | none =>
      have hpasses := RuleRegistry.verdict_singleton_eq_none_iff.mp hverdict
      simp only [List.mem_append, hhead, ih (v := { v with patterns := patterns }) hpatterns]
      constructor
      · rintro (hskips | ⟨before, found, after, rfl, hbefore, hskips⟩)
        · exact ⟨[], check, rest, rfl, nofun, hskips⟩
        · exact ⟨check :: before, found, after, rfl, List.forall_mem_cons.mpr ⟨hpasses, hbefore⟩,
            hskips⟩
      · rintro ⟨before, found, after, hchecks, hbefore, hskips⟩
        cases before with
        | nil =>
          obtain ⟨rfl, -⟩ := List.cons.inj hchecks
          exact .inl hskips
        | cons first before =>
          obtain ⟨-, rfl⟩ := List.cons.inj hchecks
          exact .inr ⟨before, found, after, rfl, (List.forall_mem_cons.mp hbefore).2, hskips⟩

/-- What a validation passes over is what the checks of the field skip up to the first that finds
something. -/
theorem Recalls.mem_skipped_iff {done : List FieldDefinition} (h : v.Recalls done)
    {spec : Constraints} (hspec : field.constraints = some spec) :
    source ∈ v.skipped field value data ↔
      ∃ before check after,
        checks field spec (served (recalled field.id done) spec).toJson value =
          before ++ check :: after ∧
        (∀ c ∈ before, ∀ m, ¬ v.rules.Finds value data c m) ∧
        Skips v.rules value check source := by
  obtain ⟨options, heq, -, -⟩ := optionsFor_eq (h.options field.id) spec
  rw [skipped, watchField, hspec]
  simp only [heq]
  exact mem_watch_iff (v := { v with options := options }) h.patterns _

/-! ## What a check of patterns finds -/

theorem patternOption_toJson (spec : Constraints) :
    BuiltinRule.patternOption spec.toJson = spec.pattern := by
  cases hpattern : spec.pattern <;>
    simp [BuiltinRule.patternOption, Constraints.toJson, Json.member?, BuiltinRule.name,
      Keyed.find?_append, Json.find?_memberIf, hpattern, Json.text?]

theorem pattern_served (known : Option Constraints) (spec : Constraints) :
    (served known spec).pattern = spec.pattern := by
  rcases served_cases known spec with heq | ⟨-, hsame⟩
  · rw [heq]
  · obtain ⟨-, -, -, hpattern, -⟩ := Constraints.parts_of_same hsame
    exact hpattern

/-- If the pattern of a field compiles, only a check that calls a rule by name skips one. -/
theorem exists_call_of_skips (hcompiles : field.Compiles) {spec : Constraints}
    (hspec : field.constraints = some spec) {known : Option Constraints} {rules : RuleRegistry}
    (hcheck : check ∈ checks field spec (served known spec).toJson value)
    (hskips : Skips rules value check source) :
    ∃ call ∈ spec.ruleCalls, check = (call.rule, call.options) := by
  obtain ⟨-, hgiven, hsource, hnone⟩ := hskips
  have hown (heq : check.2 = (served known spec).toJson) : False := by
    rw [heq, patternOption_toJson, pattern_served] at hsource
    have hsome := hcompiles source (by rw [hspec]; exact hsource)
    rw [hnone] at hsome
    cases hsome
  rw [checks, hgiven, if_neg Bool.false_ne_true] at hcheck
  rcases List.mem_append.mp hcheck with hrequired | hcheck
  · split at hrequired
    · exact (hown (congrArg Prod.snd (List.mem_singleton.mp hrequired))).elim
    · exact absurd hrequired List.not_mem_nil
  rcases List.mem_append.mp hcheck with hcheck | hcall
  · rcases List.mem_append.mp hcheck with hset | hemail
    · obtain ⟨name, -, heq⟩ := List.mem_map.mp hset
      exact (hown (congrArg Prod.snd heq.symm)).elim
    · split at hemail
      · exact (hown (congrArg Prod.snd (List.mem_singleton.mp hemail))).elim
      · exact absurd hemail List.not_mem_nil
  · obtain ⟨call, hmem, heq⟩ := List.mem_map.mp hcall
    exact ⟨call, hmem, heq.symm⟩

/-- If the pattern of a field compiles, its validation passes over what it calls by name. -/
theorem Recalls.mem_skipped_iff_of_compiles {done : List FieldDefinition} (h : v.Recalls done)
    (hcompiles : field.Compiles) (value : Option Json) (data : Json) (source : String) :
    source ∈ v.skipped field value data ↔
      ∃ spec before call after, field.constraints = some spec ∧ call ∈ spec.ruleCalls ∧
        checks field spec (served (recalled field.id done) spec).toJson value =
          before ++ (call.rule, call.options) :: after ∧
        (∀ c ∈ before, ∀ m, ¬ v.rules.Finds value data c m) ∧
        Skips v.rules value (call.rule, call.options) source := by
  cases hspec : field.constraints with
  | none =>
    have hnothing : v.skipped field value data = [] := by rw [skipped, watchField, hspec]
    rw [hnothing]
    refine iff_of_false List.not_mem_nil ?_
    rintro ⟨spec, -, -, -, heq, -⟩
    cases heq
  | some spec =>
    rw [h.mem_skipped_iff hspec]
    constructor
    · rintro ⟨before, check, after, hchecks, hbefore, hskips⟩
      have hmem : check ∈ checks field spec (served (recalled field.id done) spec).toJson value :=
        hchecks ▸ List.mem_append_right before List.mem_cons_self
      obtain ⟨call, hcall, rfl⟩ := exists_call_of_skips hcompiles hspec hmem hskips
      exact ⟨spec, before, call, after, rfl, hcall, hchecks, hbefore, hskips⟩
    · rintro ⟨other, before, call, after, heq, -, hchecks, hbefore, hskips⟩
      obtain rfl := Option.some.inj heq
      exact ⟨before, _, after, hchecks, hbefore, hskips⟩

namespace Family

variable {f g : Family} {done more : List FieldDefinition} {i j : Nat} {w : Validator}
  {d : FormDefinition}

/-- A definition passed the check of patterns of some member of a family, at whatever time. When a
member of the family validates one of its fields, before or after that, the pattern of the
constraints is never passed over. The rule `pattern` passes over a text exactly if it is called by
name with it, the text does not compile, a value is given, and no check before finds anything. So
nothing is passed over if all the texts compile with which the field calls the rule by name. -/
theorem History.skipped_iff {rules : RuleRegistry} {patterns : PatternCache}
    (hf : History { rules := [rules], patterns := patterns } done f) (hpatterns : patterns.Faithful)
    (hw : f.validator? i = some w) (hd : (w.checkPatterns d).1 = .ok ())
    (hg : History { rules := [rules], patterns := patterns } more g)
    (hv : g.validator? j = some v) (hfield : field ∈ d.fields) (value : Option Json) (data : Json) :
    (∀ source, source ∈ v.skipped field value data ↔
      ∃ spec before call after, field.constraints = some spec ∧ call ∈ spec.ruleCalls ∧
        checks field spec (served (recalled field.id more) spec).toJson value =
          before ++ (call.rule, call.options) :: after ∧
        (∀ c ∈ before, ∀ m, ¬ v.rules.Finds value data c m) ∧
        Skips v.rules value (call.rule, call.options) source) ∧
    ((∀ spec, field.constraints = some spec → ∀ call ∈ spec.ruleCalls,
        Keyed.find? v.rules call.rule = some (.builtin .pattern) →
        ∀ source, BuiltinRule.patternOption call.options = some source →
          (Pattern.compile? source).isSome = true) →
      v.skipped field value data = []) := by
  have hcompiles : field.Compiles :=
    compiles_of_checkFields ((hf.recalls hpatterns).validator hw).patterns hd field hfield
  have hiff :=
    ((hg.recalls hpatterns).validator hv).mem_skipped_iff_of_compiles hcompiles value data
  refine ⟨hiff, fun hcalls => List.eq_nil_iff_forall_not_mem.mpr fun source hsource => ?_⟩
  obtain ⟨spec, before, call, after, hspec, hcall, -, -, hrule, -, htext, hnone⟩ :=
    (hiff source).mp hsource
  have hsome := hcalls spec hspec call hcall hrule source htext
  rw [hnone] at hsome
  cases hsome

/-- A field for a code, which calls the rule `pattern` by name. -/
def codeField (source : String) : FieldDefinition :=
  { FieldDefinition.ofKind "code" .text with
    constraints := some
      { customRules := some [⟨BuiltinRule.pattern.name, .obj [("pattern", .str source)]⟩] } }

/-- A form for a code. -/
def codeForm (source : String) : FormDefinition where
  formId := "code"
  name := "Code"
  fields := [codeField source]
  layout := .wrap "root" []

theorem skips_unclosed : Skips .builtins (some (.str "A"))
    (BuiltinRule.pattern.name, .obj [("pattern", .str "[0-")]) "[0-" :=
  ⟨rfl, rfl, rfl, Option.isNone_iff_eq_none.mp (by decide +kernel)⟩

/-- A call by name with a text that is no pattern is passed over, one with a pattern is not. -/
theorem skipped_iff_codeForm :
    "[0-" ∈ ({} : Validator).skipped (codeField "[0-") (some (.str "A")) (.obj []) ∧
      ({} : Validator).skipped (codeField "[0-9]") (some (.str "A")) (.obj []) = [] := by
  have hstart : History { rules := [.builtins] } [] { rules := [.builtins] } := .rest
  have hskipped (source : String) (hfield : codeField source ∈ (codeForm source).fields) :=
    hstart.skipped_iff PatternCache.faithful_nil (i := 0) rfl (d := codeForm source) rfl
      hstart (j := 0) rfl hfield (some (.str "A")) (.obj [])
  constructor
  · exact ((hskipped "[0-" (List.mem_singleton.mpr rfl)).1 "[0-").mpr
      ⟨_, [], _, [], rfl, List.mem_singleton.mpr rfl, rfl, nofun, skips_unclosed⟩
  · refine (hskipped "[0-9]" (List.mem_singleton.mpr rfl)).2 ?_
    rintro spec ⟨⟩ call hcall - source hsource
    obtain rfl := List.mem_singleton.mp hcall
    obtain rfl : "[0-9]" = source := Option.some.inj hsource
    decide +kernel

/-- The check accepts a call by name with a text that is no pattern, and the rule passes over it. -/
theorem checkPatterns_misses_call :
    (({} : Validator).checkPatterns (codeForm "[0-")).1 = .ok () ∧
      ({} : Validator).skipped (codeField "[0-") (some (.str "A")) (.obj []) = ["[0-"] ∧
      (({} : Validator).validateField (codeField "[0-") (some (.str "A")) (.obj [])).1 = none := by
  refine ⟨rfl, ?_, ?_⟩ <;> decide +kernel

end Family

end Validator

end LiveForm
