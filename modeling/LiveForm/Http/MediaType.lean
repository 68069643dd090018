/-!
# Media types

A media type is a type and a subtype, and parameters behind semicolons. What stands behind the last
plus of a subtype is its suffix. Letters count without their case. `MediaType.parse?` refuses a text
that is no media type as a whole.
-/

namespace LiveForm.Http

/-- A media type without its parameters. -/
structure MediaType where
  type : String
  subtype : String
  suffix : Option String := none
deriving DecidableEq

namespace MediaType

/-- A character of a type or of a parameter. -/
def isToken (c : Char) : Bool :=
  c.isAlphanum || "!#$%&'+-.^_\x60|~".toList.contains c

/-- A character that a quoted value may have. -/
def isQuotable (c : Char) : Bool :=
  0x20 ≤ c.toNat && c.toNat < 0x7F

/-- What follows the value of a parameter: nothing, or further parameters. -/
def afterValue : List Char → Option (List Char)
  | [] => some []
  | ';' :: rest => some rest
  | _ => none

/-- The text behind a value in quotes, whose opening quote is gone. -/
def afterQuoted (cs : List Char) : Option (List Char) :=
  match cs.span isInside with
  | (_ :: _, '"' :: rest) => afterValue (rest.dropWhile (· == ' '))
  | _ => none
where
  isInside (c : Char) : Bool := c != '"' && isQuotable c

/-- The text behind a value that is not in quotes. It is empty only at the end of the text. -/
def afterPlain (cs : List Char) : Option (List Char) :=
  let (value, rest) := cs.span isToken
  if value.isEmpty && !rest.isEmpty then none else afterValue rest

/-- Whether a text is a list of parameters. -/
def areParameters : Nat → List Char → Bool
  | 0, _ => false
  | _ + 1, [] => true
  | fuel + 1, ' ' :: rest => areParameters fuel rest
  | fuel + 1, cs =>
    match cs.span isToken with
    | (_ :: _, '=' :: rest) =>
      let behind :=
        match rest with
        | '"' :: rest => afterQuoted rest
        | rest => afterPlain rest
      behind.any (areParameters fuel)
    | _ => false

/-- The subtype and the suffix of what stands behind the slash. -/
def splitSuffix (cs : List Char) : List Char × Option (List Char) :=
  let tail := (cs.reverse.takeWhile (· != '+')).reverse
  let head := cs.take (cs.length - tail.length - 1)
  if head.isEmpty then (cs, none) else (head, some tail)

/-- Read a media type. -/
def parse? (s : String) : Option MediaType :=
  match s.toList.span isToken with
  | (type@(_ :: _), '/' :: rest) =>
    let lower := fun (cs : List Char) => String.ofList (cs.map Char.toLower)
    let (sub, rest) := rest.span isToken
    let (subtype, suffix) := splitSuffix sub
    let read : MediaType := ⟨lower type, lower subtype, suffix.map lower⟩
    match rest with
    | [] => some read
    | ';' :: params =>
      if !sub.isEmpty && areParameters (params.length + 1) params then some read else none
    | _ => none
  | _ => none

/-- Whether a media type is JSON, or a format written in it. -/
def isJson (m : MediaType) : Bool :=
  m.type == "application" && (m.subtype == "json" || m.suffix == some "json")

end MediaType

end LiveForm.Http
