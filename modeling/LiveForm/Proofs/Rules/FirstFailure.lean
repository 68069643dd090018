import LiveForm.Proofs.Rules.Memory

/-!
# The first message counts

A field asks rules about its value one after the other (`asked`): whether there has to be a value;
if there is one, what its constraints set, what its kind asks, and the rules that it names itself. A
rule that is not registered finds nothing, and neither does one with an empty message.
`validateField_first` says that a validation that starts with nothing kept answers with what is
found first, so that an optional value may be missing whatever the rules are, and no rule counts
after the first that finds something.
-/

namespace LiveForm

/-! ## Constraints that are set -/

namespace Keyed

variable {α : Type}

theorem find?_append (m others : Keyed α) (key : String) :
    Keyed.find? (m ++ others) key = (m.find? key).or (Keyed.find? others key) := by
  induction m with
  | nil => rfl
  | cons entry rest ih =>
    obtain ⟨k, v⟩ := entry
    rw [List.cons_append, find?, find?]
    split
    · rfl
    · exact ih

end Keyed

theorem Json.find?_memberIf (key other : String) (v : Option Json) :
    Keyed.find? (memberIf key v) other = if key = other then v else none := by
  cases v with
  | none => exact (ite_self none).symm
  | some v => rfl

namespace Constraints

/-- The constraints have a value for the key of a rule. -/
def sets (spec : Constraints) : BuiltinRule → Bool
  | .required => spec.required.isSome
  | .minLength => spec.minLength.isSome
  | .maxLength => spec.maxLength.isSome
  | .pattern => spec.pattern.isSome
  | .min => spec.min.isSome
  | .max => spec.max.isSome
  | .email => false

/-- The value made of constraints has the keys that they set. -/
theorem isSome_member?_toJson (spec : Constraints) (rule : BuiltinRule) :
    (spec.toJson.member? rule.name).isSome = spec.sets rule := by
  cases rule <;>
    simp [toJson, Json.member?, BuiltinRule.name, sets, Keyed.find?_append, Json.find?_memberIf]

end Constraints

/-! ## What rules find -/

namespace RuleRegistry

variable {rules : RuleRegistry} {value : Option Json} {data : Json} {check : String × Json}

/-- A rule that is registered under the name has a message, which is not empty. -/
def Finds (rules : RuleRegistry) (value : Option Json) (data : Json) (check : String × Json)
    (message : String) : Prop :=
  ∃ rule, Keyed.find? rules check.1 = some rule ∧
    rule.answer value check.2 data = some message ∧ message ≠ ""

/-- What is said of one check in a verdict. -/
theorem verdict_singleton_eq_some_iff {message : String} :
    rules.verdict value data [check] = some message ↔ rules.Finds value data check message := by
  have hone : rules.verdict value data [check] =
      (Keyed.find? rules check.1).bind fun rule =>
        (rule.answer value check.2 data).filter fun message => message ≠ "" := by
    rw [verdict, List.findSome?_cons]
    split
    · rename_i heq
      rw [heq]
    · rename_i heq
      rw [heq, List.findSome?_nil]
  rw [hone, Option.bind_eq_some_iff]
  apply exists_congr
  intro rule
  rw [Option.filter_eq_some_iff, decide_eq_true_iff]

theorem verdict_singleton_eq_none_iff :
    rules.verdict value data [check] = none ↔
      ∀ message, ¬ rules.Finds value data check message := by
  rw [Option.eq_none_iff_forall_ne_some]
  simp only [ne_eq, verdict_singleton_eq_some_iff]

/-- A verdict over several checks is that of the first, or that of the others. -/
theorem verdict_cons (check : String × Json) (checks : List (String × Json)) :
    rules.verdict value data (check :: checks) =
      (rules.verdict value data [check]).or (rules.verdict value data checks) :=
  rules.verdict_append value data [check] checks

theorem verdict_eq_none_iff {checks : List (String × Json)} :
    rules.verdict value data checks = none ↔
      ∀ c ∈ checks, ∀ m, ¬ rules.Finds value data c m := by
  induction checks with
  | nil => exact iff_of_true rfl nofun
  | cons check rest ih =>
    rw [verdict_cons, Option.or_eq_none_iff, verdict_singleton_eq_none_iff, ih,
      List.forall_mem_cons]

/-- The first thing that is found is the verdict. -/
theorem verdict_eq_some_iff {checks : List (String × Json)} {message : String} :
    rules.verdict value data checks = some message ↔
      ∃ before check after, checks = before ++ check :: after ∧
        (∀ c ∈ before, ∀ m, ¬ rules.Finds value data c m) ∧
        rules.Finds value data check message := by
  constructor
  · intro h
    induction checks with
    | nil => cases h
    | cons check rest ih =>
      rw [verdict_cons, Option.or_eq_some_iff, verdict_singleton_eq_some_iff,
        verdict_singleton_eq_none_iff] at h
      obtain hfinds | ⟨hpasses, hrest⟩ := h
      · exact ⟨[], check, rest, rfl, nofun, hfinds⟩
      · obtain ⟨before, found, after, rfl, hbefore, hfinds⟩ := ih hrest
        exact ⟨check :: before, found, after, rfl, List.forall_mem_cons.mpr ⟨hpasses, hbefore⟩,
          hfinds⟩
  · rintro ⟨before, check, after, rfl, hbefore, hfinds⟩
    rw [verdict_append, verdict_eq_none_iff.mpr hbefore, Option.none_or, verdict_cons,
      verdict_singleton_eq_some_iff.mpr hfinds, Option.some_or]

/-- What a check finds is a matter of the rule under its name. -/
theorem finds_congr {others : RuleRegistry}
    (h : Keyed.find? others check.1 = Keyed.find? rules check.1) (message : String) :
    others.Finds value data check message ↔ rules.Finds value data check message := by
  rw [Finds, Finds, h]

end RuleRegistry

/-! ## Fields -/

namespace Validator

/-- The rules that a field asks about a value, in their order, with the options that they are given:
whether there has to be a value; if there is one, what the constraints set, what the kind asks, and
the rules that are called by name. -/
def asked (field : FieldDefinition) (spec : Constraints) (value : Option Json) :
    List (String × Json) :=
  (if spec.isRequired then [("required", spec.toJson)] else []) ++
    if Json.isBlank value then []
    else
      (([.minLength, .maxLength, .pattern, .min, .max] : List BuiltinRule).filter spec.sets).map
          (fun rule => (rule.name, spec.toJson)) ++
        (if field.kind = .email then [("email", spec.toJson)] else []) ++
        spec.ruleCalls.map fun call => (call.rule, call.options)

/-- What is checked with the value made of the constraints is what the field asks. -/
theorem checks_toJson (field : FieldDefinition) (spec : Constraints) (value : Option Json) :
    checks field spec spec.toJson value = asked field spec value := by
  have hset : (fun name => (spec.toJson.member? name).isSome) ∘ BuiltinRule.name = spec.sets :=
    funext spec.isSome_member?_toJson
  rw [checks, asked, List.filter_map, hset, List.map_map]
  rfl

/-- An optional value that is missing is not asked about. -/
theorem asked_of_blank {field : FieldDefinition} {spec : Constraints} {value : Option Json}
    (hoptional : spec.isRequired = false) (hblank : Json.isBlank value = true) :
    asked field spec value = [] := by
  simp [asked, hoptional, hblank]

/-- With nothing kept of constraints a validation comes to the verdict on what the field asks. -/
theorem validateField_eq_verdict (rules : RuleRegistry) {patterns : PatternCache}
    (hpatterns : patterns.Faithful) (field : FieldDefinition) (value : Option Json) (data : Json) :
    (({ rules := rules, patterns := patterns } : Validator).validateField field value data).1 =
      field.constraints.bind fun spec => rules.verdict value data (asked field spec value) := by
  have hfresh : ({ rules := rules, patterns := patterns } : Validator).Recalls [] :=
    ⟨hpatterns, fun _ => rfl⟩
  have hanswer := (hfresh.validateField field value data).1
  rw [hanswer]
  apply congrArg (Option.bind field.constraints)
  funext spec
  exact congrArg _ (checks_toJson field spec value)

/-- What is wrong with a value, when nothing is kept of constraints, is what is found first by the
rules that the field asks, whichever rules are registered, and nothing if they find nothing. Nothing
is wrong without constraints, or with an optional value that is missing, whatever the rules are. The
rules after the first that finds something do not count: whoever has the same rules up to there
finds the same. -/
theorem validateField_first {rules : RuleRegistry} {patterns : PatternCache}
    (hpatterns : patterns.Faithful) (field : FieldDefinition) (value : Option Json) (data : Json) :
    let answer (rules : RuleRegistry) : Option String :=
      (({ rules := rules, patterns := patterns } : Validator).validateField field value data).1
    (field.constraints = none → answer rules = none) ∧
    ∀ spec, field.constraints = some spec →
      (∀ message, answer rules = some message ↔
        ∃ before check after, asked field spec value = before ++ check :: after ∧
          (∀ c ∈ before, ∀ m, ¬ rules.Finds value data c m) ∧
          rules.Finds value data check message) ∧
      (answer rules = none ↔
        ∀ c ∈ asked field spec value, ∀ m, ¬ rules.Finds value data c m) ∧
      (spec.isRequired = false → Json.isBlank value = true → answer rules = none) ∧
      ∀ before check after message, asked field spec value = before ++ check :: after →
        (∀ c ∈ before, ∀ m, ¬ rules.Finds value data c m) →
        rules.Finds value data check message →
        ∀ others : RuleRegistry,
          (∀ c ∈ before ++ [check], Keyed.find? others c.1 = Keyed.find? rules c.1) →
          answer others = some message := by
  intro answer
  have hverdict (rules : RuleRegistry) : answer rules = _ :=
    validateField_eq_verdict rules hpatterns field value data
  refine ⟨?_, ?_⟩
  · intro hnone
    rw [hverdict, hnone, Option.bind_none]
  · intro spec hspec
    simp only [hverdict, hspec, Option.bind_some]
    refine ⟨?_, ?_, ?_, ?_⟩
    · intro message
      exact RuleRegistry.verdict_eq_some_iff
    · exact RuleRegistry.verdict_eq_none_iff
    · intro hoptional hblank
      rw [asked_of_blank hoptional hblank]
      rfl
    · intro before check after message hasked hbefore hfinds others hsame
      obtain ⟨hpassed, hfound⟩ := List.forall_mem_append.mp hsame
      apply RuleRegistry.verdict_eq_some_iff.mpr
      refine ⟨before, check, after, hasked, ?_, ?_⟩
      · intro c hc m hm
        exact hbefore c hc m ((RuleRegistry.finds_congr (hpassed c hc) m).mp hm)
      · exact (RuleRegistry.finds_congr (hfound check List.mem_cons_self) message).mpr hfinds

/-- A field for an address of at least five characters, which also calls a rule by name. -/
def addressSpec : Constraints where
  required := some true
  minLength := some 5
  customRules := some [⟨"fail", .null⟩]

def addressField : FieldDefinition :=
  { FieldDefinition.ofKind "mail" .email with constraints := some addressSpec }

/-- The length of an address that is too short is found first, after `required` found nothing. The
rules for addresses and the one called by name do not count; they need not be registered. -/
theorem validateField_first_address :
    PatternCache.Faithful [] ∧ addressField.constraints = some addressSpec ∧
      (∃ after, asked addressField addressSpec (some (.str "bob")) =
        [("required", addressSpec.toJson)] ++ ("minLength", addressSpec.toJson) :: after) ∧
      (({ rules := RuleRegistry.builtins, patterns := [] } : Validator).validateField addressField
        (some (.str "bob")) (.obj [])).1 = some "Must be at least 5 characters" ∧
      (({ rules := [("minLength", .builtin .minLength), ("required", .builtin .required)],
          patterns := [] } : Validator).validateField addressField
        (some (.str "bob")) (.obj [])).1 = some "Must be at least 5 characters" := by
  have hrequired : Keyed.find? RuleRegistry.builtins "required" = some (.builtin .required) := rfl
  have hlength : Keyed.find? RuleRegistry.builtins "minLength" = some (.builtin .minLength) := rfl
  have hpasses : ∀ c ∈ [("required", addressSpec.toJson)], ∀ m,
      ¬ RuleRegistry.builtins.Finds (some (.str "bob")) (.obj []) c m := by
    intro c hc m
    rw [List.mem_singleton.mp hc]
    rintro ⟨rule, hrule, hanswer, -⟩
    obtain rfl := Option.some.inj (hrequired.symm.trans hrule)
    cases hanswer
  have hfinds : RuleRegistry.builtins.Finds (some (.str "bob")) (.obj [])
      ("minLength", addressSpec.toJson) "Must be at least 5 characters" :=
    ⟨.builtin .minLength, hlength, by decide, by decide⟩
  obtain ⟨-, hanswer⟩ := @validateField_first .builtins [] PatternCache.faithful_nil
    addressField (some (.str "bob")) (.obj [])
  obtain ⟨hfirst, -, -, hothers⟩ := hanswer addressSpec rfl
  refine ⟨PatternCache.faithful_nil, rfl, ⟨_, rfl⟩, ?_, ?_⟩
  · exact (hfirst _).mpr ⟨_, _, _, rfl, hpasses, hfinds⟩
  · apply hothers [("required", addressSpec.toJson)] ("minLength", addressSpec.toJson) _ _ rfl
      hpasses hfinds
    exact List.forall_mem_cons.mpr ⟨hrequired.symm, List.forall_mem_singleton.mpr hlength.symm⟩

end Validator

end LiveForm
