import LiveForm.Proofs.Json.Same
import LiveForm.Rules.Ready
import LiveForm.Rules.Validation
import Mathlib.Data.List.Induction

/-!
# What validators keep

A validator keeps the patterns that it compiled and, by the identifiers of fields, the values that it
made of constraints. Copies of a validator keep both together (`Family`), while each has rules of its
own.

What is kept of patterns is never seen: it is what would be compiled anew. What is kept of
constraints is used again for constraints that are the same as data, and these may differ in the sign
of a zero. `History.validateField_eq` says what a validation answers after anything that a family
did: what the rules say of the value of the constraints that are recalled (`recalled`). They are the
same as those of the field, so that a difference shows only where a rule of the program around tells
the zeros apart. No built-in rule does (`BuiltinRule.impartial`).
-/

namespace LiveForm

/-! ## Patterns -/

namespace PatternCache

/-- Every pattern that is kept is what its text compiles to. -/
def Faithful (cache : PatternCache) : Prop :=
  ∀ source pattern, Keyed.find? cache source = some pattern →
    Pattern.compile? source = some pattern

theorem faithful_nil : Faithful [] := nofun

variable {cache : PatternCache}

/-- What is kept does not show in what a text compiles to. -/
theorem Faithful.compile?_fst (h : cache.Faithful) (source : String) :
    (cache.compile? source).1 = Pattern.compile? source := by
  unfold compile?
  split
  · rename_i pattern hkept
    exact (h source pattern hkept).symm
  · split
    · rename_i pattern hcompiled
      exact hcompiled.symm
    · rename_i hfails
      exact hfails.symm

theorem Faithful.compile?_snd (h : cache.Faithful) (source : String) :
    (cache.compile? source).2.Faithful := by
  unfold compile?
  split
  · exact h
  · split
    · rename_i pattern hcompiled
      intro other found hfound
      by_cases hother : other = source
      · subst hother
        rw [Keyed.find?_insert_self] at hfound
        exact hfound ▸ hcompiled
      · rw [Keyed.find?_insert_of_ne _ hother] at hfound
        exact h other found hfound
    · exact h

end PatternCache

/-! ## Rules -/

/-- What a rule says when nothing is kept. -/
def Rule.answer (rule : Rule) (value : Option Json) (options data : Json) : Option String :=
  (rule.run value options data []).1

/-- The first message of several rules when nothing is kept. -/
def RuleRegistry.verdict (rules : RuleRegistry) (value : Option Json) (data : Json)
    (checks : List (String × Json)) : Option String :=
  checks.findSome? fun check => (Keyed.find? rules check.1).bind fun rule =>
    (rule.answer value check.2 data).filter fun message => message ≠ ""

section Keeping

variable {cache : PatternCache} (rule : Rule) (value : Option Json) (options data : Json)

/-- What is kept does not show in what a rule says. -/
theorem Rule.run_fst (h : cache.Faithful) :
    (rule.run value options data cache).1 = rule.answer value options data := by
  cases rule with
  | host rule => rfl
  | builtin rule =>
    by_cases hpattern : rule = .pattern
    · subst hpattern
      simp only [answer, run, BuiltinRule.run, if_pos, BuiltinRule.matchPattern]
      split
      · rename_i source v _ _
        have hkept := h.compile?_fst source
        have hfresh := PatternCache.faithful_nil.compile?_fst source
        cases hcompile : Pattern.compile? source with
        | none => split <;> split <;> simp_all
        | some p => split <;> split <;> simp_all
      · rfl
    · simp only [answer, run, BuiltinRule.run, if_neg hpattern]

theorem Rule.run_snd (h : cache.Faithful) : (rule.run value options data cache).2.Faithful := by
  cases rule with
  | host rule => exact h
  | builtin rule =>
    by_cases hpattern : rule = .pattern
    · subst hpattern
      simp only [run, BuiltinRule.run, if_pos, BuiltinRule.matchPattern]
      split
      · rename_i source v _ _
        have hkept := h.compile?_snd source
        split <;> simp_all
      · exact h
    · simp only [run, BuiltinRule.run, if_neg hpattern]
      exact h

end Keeping

/-! ## Rules that take both zeros for one -/

/-- A rule says the same for options that are the same as data. -/
def Rule.Impartial (rule : Rule) : Prop :=
  ∀ value options others data, options.same others = true →
    rule.answer value options data = rule.answer value others data

namespace BuiltinRule

variable {options others : Json}

theorem naturalOption_congr (h : options.same others = true) (key : String) :
    naturalOption options key = naturalOption others key := by
  rcases Json.sameIfAny_member? h key with ⟨ha, hb⟩ | ⟨v, w, ha, hb, hsame⟩
  · rw [naturalOption, naturalOption, ha, hb]
  · rw [naturalOption, naturalOption, ha, hb]
    cases v <;> cases w <;> first | rfl | exact Number.natural?_congr hsame | cases hsame

theorem textOption_congr (h : options.same others = true) (key : String) :
    (options.member? key).bind Json.text? = (others.member? key).bind Json.text? := by
  rcases Json.sameIfAny_member? h key with ⟨ha, hb⟩ | ⟨v, w, ha, hb, hsame⟩
  · rw [ha, hb]
  · rw [ha, hb]
    cases v <;> cases w <;>
      first | rfl | exact congrArg some (eq_of_beq hsame) | cases hsame

/-- A bound among options that are the same is the same number. -/
theorem numberOption_congr (h : options.same others = true) (key : String) :
    numberOption options key = numberOption others key ∨
      ∃ x y, numberOption options key = some x ∧ numberOption others key = some y ∧
        x.same y = true := by
  rcases Json.sameIfAny_member? h key with ⟨ha, hb⟩ | ⟨v, w, ha, hb, hsame⟩
  · exact .inl (by rw [numberOption, numberOption, ha, hb])
  · rw [numberOption, numberOption, ha, hb]
    cases v with
    | num m =>
      cases w with
      | num n =>
        rcases Number.toBinary64_same hsame with rfl | hnumber
        · exact .inl rfl
        · exact .inr ⟨_, _, rfl, rfl, hnumber⟩
      | _ => cases hsame
    | _ => cases w <;> first | exact .inl rfl | cases hsame

/-- No built-in rule tells options apart that are the same. -/
theorem impartial (rule : BuiltinRule) : (Rule.builtin rule).Impartial := by
  intro value options others data h
  simp only [Rule.answer, Rule.run, run]
  by_cases hpattern : rule = pattern
  · rw [if_pos hpattern, if_pos hpattern, matchPattern, matchPattern, textOption_congr h]
  · rw [if_neg hpattern, if_neg hpattern]
    cases rule with
    | required => rfl
    | email => rfl
    | pattern => exact absurd rfl hpattern
    | minLength => simp only [plain, naturalOption_congr h]
    | maxLength => simp only [plain, naturalOption_congr h]
    | min =>
      rcases numberOption_congr h min.name with heq | ⟨x, y, hx, hy, hsame⟩
      · simp only [plain, heq]
      · simp only [plain, hx, hy, Option.bind_eq_bind, Option.bind_some,
          (Binary64.lt_congr hsame _).1, Binary64.plainText_congr hsame]
    | max =>
      rcases numberOption_congr h max.name with heq | ⟨x, y, hx, hy, hsame⟩
      · simp only [plain, heq]
      · simp only [plain, hx, hy, Option.bind_eq_bind, Option.bind_some,
          (Binary64.lt_congr hsame _).2, Binary64.plainText_congr hsame]

end BuiltinRule

/-- Every rule of the program around says the same for options that are the same as data. -/
def RuleRegistry.Impartial (rules : RuleRegistry) : Prop :=
  ∀ name rule, Keyed.find? rules name = some (.host rule) → (Rule.host rule).Impartial

theorem RuleRegistry.impartial_builtins : RuleRegistry.builtins.Impartial := by
  intro name rule hrule
  rw [builtins, Keyed.find?_ofPairs] at hrule
  obtain ⟨entry, hfind, hentry⟩ := Option.map_eq_some_iff.mp hrule
  obtain ⟨builtin, -, rfl⟩ := List.mem_map.mp (List.mem_reverse.mp (List.mem_of_find?_eq_some hfind))
  cases hentry

theorem RuleRegistry.Impartial.rule {rules : RuleRegistry} (h : rules.Impartial) {name : String}
    {rule : Rule} (hrule : Keyed.find? rules name = some rule) : rule.Impartial := by
  cases rule with
  | builtin rule => exact rule.impartial
  | host rule => exact h name rule hrule

theorem RuleRegistry.verdict_append (rules : RuleRegistry) (value : Option Json) (data : Json)
    (checks others : List (String × Json)) :
    rules.verdict value data (checks ++ others) =
      (rules.verdict value data checks).or (rules.verdict value data others) :=
  List.findSome?_append

/-- Rules that are given options that are the same come to one verdict. -/
theorem RuleRegistry.Impartial.verdict_map {rules : RuleRegistry} (h : rules.Impartial)
    {options others : Json} (hsame : options.same others = true) (value : Option Json) (data : Json)
    (names : List String) :
    rules.verdict value data (names.map fun name => (name, options)) =
      rules.verdict value data (names.map fun name => (name, others)) := by
  simp only [verdict, List.findSome?_map]
  congr 1
  funext name
  simp only [Function.comp_apply]
  cases hrule : Keyed.find? rules name with
  | none => rfl
  | some rule =>
    rw [Option.bind_some, Option.bind_some, h.rule hrule value options others data hsame]

/-! ## One validator -/

namespace Validator

variable {v : Validator} {value : Option Json} {data : Json}

/-- A call of rules answers as if nothing was kept, and adds to the patterns that are kept. -/
theorem firstMessage_eq (h : v.patterns.Faithful) (checks : List (String × Json)) :
    ∃ patterns : PatternCache, patterns.Faithful ∧ v.firstMessage value data checks =
      (v.rules.verdict value data checks, { v with patterns := patterns }) := by
  induction checks generalizing v with
  | nil => exact ⟨v.patterns, h, rfl⟩
  | cons check rest ih =>
    obtain ⟨name, options⟩ := check
    rw [firstMessage, call, RuleRegistry.verdict, List.findSome?_cons]
    cases hrule : Keyed.find? v.rules name with
    | none => exact ih h
    | some rule =>
      have hanswer := rule.run_fst value options data h
      have hkept := rule.run_snd value options data h
      simp only [Option.bind_some, ← hanswer]
      cases (rule.run value options data v.patterns).1.filter fun message => message ≠ "" with
      | some message => exact ⟨_, hkept, rfl⟩
      | none => exact ih (v := { v with patterns := _ }) hkept

/-- A field comes to one verdict with options that are the same. -/
theorem verdict_checks {rules : RuleRegistry} (h : rules.Impartial) {options others : Json}
    (hsame : options.same others = true) (field : FieldDefinition) (spec : Constraints) :
    rules.verdict value data (checks field spec options value) =
      rules.verdict value data (checks field spec others value) := by
  have hnames (names : List String) := h.verdict_map hsame value data names
  have hone (condition : Prop) [Decidable condition] (name : String) :
      rules.verdict value data (if condition then [(name, options)] else []) =
        rules.verdict value data (if condition then [(name, others)] else []) := by
    split
    · exact hnames [name]
    · rfl
  have hset : (fun name => (options.member? name).isSome) =
      fun name => (others.member? name).isSome := by
    funext name
    exact (Json.sameIfAny_member? hsame name).isSome_eq
  unfold checks
  rw [hset, RuleRegistry.verdict_append, RuleRegistry.verdict_append, hone]
  congr 1
  split
  · rfl
  · simp only [RuleRegistry.verdict_append, hnames, hone]

/-- The constraints of which the rules get the value: those that are known, if they are the same. -/
def served (known : Option Constraints) (spec : Constraints) : Constraints :=
  match known with
  | some known => if known.same spec then known else spec
  | none => spec

/-- The constraints that are served are those of the field, or known ones that are the same. -/
theorem served_cases (known : Option Constraints) (spec : Constraints) :
    served known spec = spec ∨
      known = some (served known spec) ∧ (served known spec).same spec = true := by
  cases known with
  | none => exact .inl rfl
  | some known =>
    by_cases hsame : known.same spec = true
    · rw [served, if_pos hsame]
      exact .inr ⟨rfl, hsame⟩
    · exact .inl (if_neg hsame)

/-- What is kept of constraints that are known. -/
def kept (known : Option Constraints) : Option (Constraints × Json) :=
  known.map fun spec => (spec, spec.toJson)

/-- The value of constraints is made of those that are served, and these are known afterwards. -/
theorem optionsFor_eq {field : FieldDefinition} {known : Option Constraints}
    (h : Keyed.find? v.options field.id = kept known) (spec : Constraints) :
    ∃ options : Keyed (Constraints × Json),
      v.optionsFor field spec = ((served known spec).toJson, { v with options := options }) ∧
      Keyed.find? options field.id = kept (some (served known spec)) ∧
      ∀ id, id ≠ field.id → Keyed.find? options id = Keyed.find? v.options id := by
  have hmade : ∀ options, options = Keyed.insert v.options field.id (spec, spec.toJson) →
      Keyed.find? options field.id = kept (some spec) ∧
        ∀ id, id ≠ field.id → Keyed.find? options id = Keyed.find? v.options id := by
    rintro _ rfl
    exact ⟨Keyed.find?_insert_self _ _ _, fun id hid => Keyed.find?_insert_of_ne _ hid _⟩
  unfold optionsFor
  rw [h]
  cases known with
  | none => exact ⟨_, rfl, hmade _ rfl⟩
  | some known =>
    by_cases hsame : known.same spec = true
    · simp only [kept, Option.map_some, if_pos hsame, served]
      exact ⟨v.options, rfl, h, fun _ _ => rfl⟩
    · simp only [kept, Option.map_some, if_neg hsame, served]
      exact ⟨_, rfl, hmade _ rfl⟩

/-- The constraints that are known for an identifier after a field was validated. -/
def remember (id : String) (known : Option Constraints) (field : FieldDefinition) :
    Option Constraints :=
  if field.id = id then
    match field.constraints with
    | some spec => some (served known spec)
    | none => known
  else known

/-- The constraints that are known for an identifier after fields were validated one after the
other. -/
def recalled (id : String) (fields : List FieldDefinition) : Option Constraints :=
  fields.foldl (remember id) none

/-- What is kept was made of the fields that were validated. -/
structure Recalls (v : Validator) (fields : List FieldDefinition) : Prop where
  patterns : v.patterns.Faithful
  options : ∀ id, Keyed.find? v.options id = kept (recalled id fields)

theorem recalled_concat (id : String) (fields : List FieldDefinition) (field : FieldDefinition) :
    recalled id (fields ++ [field]) = remember id (recalled id fields) field :=
  List.foldl_append

variable {done : List FieldDefinition}

/-- What is known for an identifier are the constraints of a field that was validated. -/
theorem exists_of_recalled {id : String} {known : Constraints}
    (h : recalled id done = some known) :
    ∃ earlier ∈ done, earlier.id = id ∧ earlier.constraints = some known := by
  induction done using List.reverseRecOn with
  | nil => cases h
  | append_singleton before field ih =>
    have hbefore (hknown : recalled id before = some known) :
        ∃ earlier ∈ before ++ [field], earlier.id = id ∧ earlier.constraints = some known := by
      obtain ⟨earlier, hmem, hearlier⟩ := ih hknown
      exact ⟨earlier, List.mem_append_left _ hmem, hearlier⟩
    rw [recalled_concat, remember] at h
    by_cases hid : field.id = id
    · rw [if_pos hid] at h
      cases hspec : field.constraints with
      | none => rw [hspec] at h; exact hbefore h
      | some spec =>
        rw [hspec] at h
        rcases served_cases (recalled id before) spec with heq | ⟨hknown, -⟩
        · exact ⟨field, List.mem_append_right _ (List.mem_singleton.mpr rfl), hid,
            hspec.trans (heq ▸ h)⟩
        · exact hbefore (hknown.trans h)
    · rw [if_neg hid] at h
      exact hbefore h

/-- A validation answers what the rules say of the value of the constraints that are served. -/
theorem Recalls.validateField (h : v.Recalls done) (field : FieldDefinition) (value : Option Json)
    (data : Json) :
    (v.validateField field value data).1 =
        (field.constraints.bind fun spec => v.rules.verdict value data
          (checks field spec (served (recalled field.id done) spec).toJson value)) ∧
      (v.validateField field value data).2.rules = v.rules ∧
      (v.validateField field value data).2.Recalls (done ++ [field]) := by
  unfold Validator.validateField
  cases hspec : field.constraints with
  | none =>
    refine ⟨rfl, rfl, h.patterns, fun id => ?_⟩
    rw [recalled_concat, remember, hspec, h.options, ite_self]
  | some spec =>
    obtain ⟨options, heq, hfield, hothers⟩ := optionsFor_eq (h.options field.id) spec
    obtain ⟨patterns, hpatterns, hfirst⟩ := @firstMessage_eq { v with options := options } value data
      h.patterns (checks field spec (served (recalled field.id done) spec).toJson value)
    simp only [heq, hfirst]
    refine ⟨rfl, trivial, hpatterns, fun id => ?_⟩
    rw [recalled_concat, remember, hspec]
    by_cases hid : field.id = id
    · subst hid
      rw [if_pos rfl]
      exact hfield
    · rw [if_neg hid, ← h.options]
      exact hothers id (Ne.symm hid)

theorem Recalls.gather (h : v.Recalls done) (errors : Errors) (fields : List FieldDefinition) :
    (v.gather data errors fields).2.rules = v.rules ∧
      (v.gather data errors fields).2.Recalls (done ++ fields) := by
  induction fields generalizing v done errors with
  | nil => exact ⟨rfl, by rwa [List.append_nil]⟩
  | cons field rest ih =>
    obtain ⟨-, hrules, hfield⟩ := h.validateField field (data.get? field.name) data
    rw [Validator.gather, List.append_cons]
    split
    · rename_i message next heq
      rw [heq] at hrules hfield
      obtain ⟨hrest, hrecalls⟩ := ih hfield (Keyed.insert errors field.name message)
      exact ⟨hrest.trans hrules, hrecalls⟩
    · rename_i next heq
      rw [heq] at hrules hfield
      obtain ⟨hrest, hrecalls⟩ := ih hfield errors
      exact ⟨hrest.trans hrules, hrecalls⟩

theorem Recalls.checkFields (h : v.Recalls done) (fields : List FieldDefinition) :
    (v.checkFields fields).2.rules = v.rules ∧ (v.checkFields fields).2.Recalls done := by
  fun_induction Validator.checkFields v fields with
  | case1 v => exact ⟨rfl, h⟩
  | case2 v field rest hnone ih => exact ih h
  | case3 v field rest source hsource pattern patterns hcompile ih =>
    have hkept := h.patterns.compile?_snd source
    rw [hcompile] at hkept
    exact ih ⟨hkept, h.options⟩
  | case4 v field rest source hsource patterns hcompile =>
    have hkept := h.patterns.compile?_snd source
    rw [hcompile] at hkept
    exact ⟨rfl, hkept, h.options⟩

theorem Recalls.call (h : v.Recalls done) (name : String) (options : Json) :
    (v.call name value options data).2.rules = v.rules ∧
      (v.call name value options data).2.Recalls done := by
  unfold Validator.call
  split
  · exact ⟨rfl, h⟩
  · rename_i rule hrule
    exact ⟨rfl, rule.run_snd value options data h.patterns, h.options⟩

/-! ## Copies -/

/-- Copies of a validator. Each has rules of its own, and all keep the same. -/
structure Family where
  rules : List RuleRegistry
  patterns : PatternCache := []
  options : Keyed (Constraints × Json) := []

namespace Family

/-- One of the copies. -/
def validator? (f : Family) (i : Nat) : Option Validator :=
  f.rules[i]?.map fun rules => ⟨rules, f.patterns, f.options⟩

/-- What one of the copies keeps, all of them keep. -/
def keep (f : Family) (v : Validator) : Family :=
  { f with patterns := v.patterns, options := v.options }

/-- One of the copies is used. The fields are those that it validates. -/
inductive Use (f : Family) : List FieldDefinition → Family → Prop
  | copy {i : Nat} {v : Validator} (hi : f.validator? i = some v) :
      Use f [] { f with rules := f.rules ++ [v.rules] }
  | addRule {i : Nat} {v : Validator} (hi : f.validator? i = some v) (name : String)
      (rule : HostRule) : Use f [] { f with rules := f.rules.set i (v.addRule name rule).rules }
  | validateField {i : Nat} {v : Validator} (hi : f.validator? i = some v)
      (field : FieldDefinition) (value : Option Json) (data : Json) :
      Use f [field] (f.keep (v.validateField field value data).2)
  | validateAll {i : Nat} {v : Validator} (hi : f.validator? i = some v)
      (fields : List FieldDefinition) (data : Json) :
      Use f fields (f.keep (v.validateAll fields data).2)
  | checkPatterns {i : Nat} {v : Validator} (hi : f.validator? i = some v) (d : FormDefinition) :
      Use f [] (f.keep (v.checkPatterns d).2)
  | call {i : Nat} {v : Validator} (hi : f.validator? i = some v) (name : String)
      (value : Option Json) (options data : Json) :
      Use f [] (f.keep (v.call name value options data).2)

/-- A family comes from another one by uses, in which fields were validated. -/
inductive History (first : Family) : List FieldDefinition → Family → Prop
  | rest : History first [] first
  | use {done more : List FieldDefinition} {f next : Family} (h : History first done f)
      (huse : Use f more next) : History first (done ++ more) next

/-- What a family keeps was made of the fields that it validated. -/
structure Recalls (f : Family) (done : List FieldDefinition) : Prop where
  patterns : f.patterns.Faithful
  options : ∀ id, Keyed.find? f.options id = kept (recalled id done)

variable {f next : Family} {done more : List FieldDefinition} {i : Nat} {v : Validator}

theorem Recalls.validator (h : f.Recalls done) (hi : f.validator? i = some v) :
    v.Recalls done := by
  obtain ⟨rules, -, rfl⟩ := Option.map_eq_some_iff.mp hi
  exact ⟨h.patterns, h.options⟩

theorem Recalls.keep (h : v.Recalls done) : (f.keep v).Recalls done := ⟨h.patterns, h.options⟩

theorem Recalls.use (h : f.Recalls done) (huse : Use f more next) :
    next.Recalls (done ++ more) := by
  cases huse with
  | copy hi => rw [List.append_nil]; exact ⟨h.patterns, h.options⟩
  | addRule hi name rule => rw [List.append_nil]; exact ⟨h.patterns, h.options⟩
  | validateField hi field value data =>
    exact Recalls.keep ((h.validator hi).validateField field value data).2.2
  | validateAll hi _ data => exact Recalls.keep ((h.validator hi).gather [] more).2
  | checkPatterns hi d =>
    rw [List.append_nil]
    exact Recalls.keep ((h.validator hi).checkFields d.fields).2
  | call hi name value options data =>
    rw [List.append_nil]
    exact Recalls.keep ((h.validator hi).call name options).2

theorem History.recalls {rules : RuleRegistry} {patterns : PatternCache}
    (h : History { rules := [rules], patterns := patterns } done f) (hpatterns : patterns.Faithful) :
    f.Recalls done := by
  induction h with
  | rest => exact ⟨hpatterns, fun _ => rfl⟩
  | use h huse ih => exact ih.use huse

/-- After anything that a family did, a validation answers what the rules say of the value of the
constraints that are recalled. It answers what a validator with the same rules answers that keeps no
values of constraints, whichever patterns it keeps, unless a rule of the program around tells options
apart that are the same as data, and a field validated before under the same identifier had
constraints that are the same as data and not equal. -/
theorem History.validateField_eq {rules : RuleRegistry} {patterns : PatternCache}
    (h : History { rules := [rules], patterns := patterns } done f) (hpatterns : patterns.Faithful)
    (hi : f.validator? i = some v) (field : FieldDefinition) (value : Option Json) (data : Json) :
    (v.validateField field value data).1 =
        (field.constraints.bind fun spec => v.rules.verdict value data
          (checks field spec (served (recalled field.id done) spec).toJson value)) ∧
      ∀ cache : PatternCache, cache.Faithful →
        (({ rules := v.rules, patterns := cache } : Validator).validateField field value data).1 =
            (field.constraints.bind fun spec => v.rules.verdict value data
              (checks field spec spec.toJson value)) ∧
          (v.rules.Impartial ∨
              (∀ earlier ∈ done, earlier.id = field.id → ∀ known spec,
                earlier.constraints = some known → field.constraints = some spec →
                known.same spec = true → known = spec) →
            (v.validateField field value data).1 =
              (({ rules := v.rules, patterns := cache } : Validator).validateField field value
                data).1) := by
  have hanswer := (((h.recalls hpatterns).validator hi).validateField field value data).1
  refine ⟨hanswer, fun cache hcache => ?_⟩
  have hfresh : ({ rules := v.rules, patterns := cache } : Validator).Recalls [] :=
    ⟨hcache, fun _ => rfl⟩
  have hfreshAnswer := (hfresh.validateField field value data).1
  refine ⟨hfreshAnswer, fun hsafe => ?_⟩
  rw [hanswer, hfreshAnswer]
  cases hspec : field.constraints with
  | none => rfl
  | some spec =>
    simp only [Option.bind_some]
    -- What is served is either equal to the constraints, or recalled and the same.
    rcases served_cases (recalled field.id done) spec with heq | ⟨hknown, hsame⟩
    · rw [heq]
      rfl
    · rcases hsafe with himpartial | hequal
      · exact verdict_checks himpartial (Constraints.same_toJson hsame) field spec
      · obtain ⟨earlier, hmem, hid, hearlier⟩ := exists_of_recalled hknown
        rw [hequal earlier hmem hid _ spec hearlier hspec hsame]
        rfl

/-- A number that is at least zero, with the sign of the zero. -/
def atLeastZero (negative : Bool) : FieldDefinition :=
  { FieldDefinition.ofKind "a" .number with
    constraints := some { min := some (.ofMagnitude negative 0) } }

/-- The built-in rules do not see that the value of a bound `0.0` is used for a bound `-0.0`. -/
theorem validateField_eq_atLeastZero :
    ∃ f v, History { rules := [.builtins] } [atLeastZero false] f ∧ f.validator? 0 = some v ∧
      recalled "a" [atLeastZero false] = (atLeastZero false).constraints ∧
      (v.validateField (atLeastZero true) (some (.ofNat 1)) (.obj [])).1 =
        (({ rules := v.rules } : Validator).validateField (atLeastZero true) (some (.ofNat 1))
          (.obj [])).1 := by
  have h : History { rules := [.builtins] } [atLeastZero false] _ :=
    History.rest.use (.validateField (i := 0) rfl (atLeastZero false) (some (.ofNat 1)) (.obj []))
  refine ⟨_, _, h, rfl, rfl, ?_⟩
  refine ((h.validateField_eq PatternCache.faithful_nil (i := 0) rfl (atLeastZero true)
    (some (.ofNat 1)) (.obj [])).2 [] PatternCache.faithful_nil).2
    (.inl RuleRegistry.impartial_builtins)

/-- A rule that repeats its options sees the zero of a bound that was validated before under the same
identifier. -/
theorem validateField_keeps_zero :
    ∃ f v, History { rules := [Keyed.insert RuleRegistry.builtins "min" (.host HostRule.echo)] }
        [atLeastZero false] f ∧ f.validator? 0 = some v ∧
      (v.validateField (atLeastZero true) (some (.ofNat 1)) (.obj [])).1 =
        some "1|\x7b\"min\":0.0\x7d|\x7b\x7d" ∧
      (({ rules := v.rules } : Validator).validateField (atLeastZero true) (some (.ofNat 1))
        (.obj [])).1 = some "1|\x7b\"min\":-0.0\x7d|\x7b\x7d" := by
  refine ⟨_, _, History.rest.use (.validateField (i := 0) rfl (atLeastZero false)
    (some (.ofNat 1)) (.obj [])), rfl, ?_, ?_⟩
  · decide
  · decide

end Family

end Validator

end LiveForm
