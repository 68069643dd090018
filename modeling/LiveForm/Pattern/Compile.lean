import LiveForm.Keyed
import LiveForm.Pattern.Reading
import LiveForm.Pattern.Size

/-!
# Compiled patterns

`Pattern.compile?` gives the pattern of a text, unless the text is no pattern or the pattern is too
large. A `PatternCache` keeps what was compiled, so that each text is compiled once; a text that
does not compile is not kept.
-/

namespace LiveForm

/-- The pattern that a text stands for. A property of characters is a general category, a script or
one of `Unicode.propertyTable`. Left out are the age (`Age`), the extensions of scripts (`scx`) and
the classes by which text is broken (`gcb`, `wb`, `sb`): a text with one of them is no pattern here.
What a part takes of the size limit is an estimate. -/
def Pattern.compile? (source : String) : Option Pattern :=
  (Pattern.ofText? source).filter Pattern.isSmall

/-- Compiled patterns by their texts. -/
abbrev PatternCache := Keyed Pattern

namespace PatternCache

/-- The pattern of a text, and the cache with it. -/
def compile? (cache : PatternCache) (source : String) : Option Pattern × PatternCache :=
  match Keyed.find? cache source with
  | some pattern => (some pattern, cache)
  | none =>
    match Pattern.compile? source with
    | some pattern => (some pattern, Keyed.insert cache source pattern)
    | none => (none, cache)

end PatternCache

end LiveForm
