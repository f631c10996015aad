/-
  Media types: a type and a subtype made of token characters, then parameters after semicolons. A
  parameter is a name, an equals sign and a token or a quoted text. Upper and lower case are the
  same. Only whether a media type denotes JSON is asked here.
-/

namespace MediaPlane.Http

/-- The characters of tokens. -/
def isTokenChar (c : Char) : Bool :=
  c.isAlphanum || "!#$%&'*+-.^_`|~".toList.contains c

/-- The characters that a header may show: printable ASCII and the tab. -/
def isHeaderChar (c : Char) : Bool := (32 ≤ c.toNat && c.toNat < 127) || c = '\t'

/-- The characters of quoted texts. -/
def isQuotedChar (c : Char) : Bool := 31 < c.toNat && c.toNat ≠ 127

/-- What follows a quoted text: blanks, then the end or a semicolon. -/
def afterQuoted (cs : List Char) : Option (List Char) :=
  match cs.dropWhile (· = ' ') with
  | [] => some []
  | ';' :: rest => some rest
  | _ => none

/-- The value of a parameter; what follows its semicolon. A quoted text is not empty: a quote right
after the opening one counts as its first character. -/
def skipParameterValue : List Char → Option (List Char)
  | '"' :: first :: cs =>
    if isQuotedChar first then
      match cs.dropWhile fun c => isQuotedChar c && c ≠ '"' with
      | '"' :: rest => afterQuoted rest
      | _ => none
    else none
  | cs =>
    match cs.takeWhile isTokenChar, cs.dropWhile isTokenChar with
    | _, [] => some []
    | _ :: _, ';' :: rest => some rest
    | _, _ => none

/-- One parameter; what follows its semicolon. -/
def skipParameter (cs : List Char) : Option (List Char) :=
  match cs.takeWhile isTokenChar, cs.dropWhile isTokenChar with
  | _ :: _, '=' :: value => skipParameterValue value
  | _, _ => none

/-- Whether parameters are well-formed; there are at most `fuel`. -/
def parametersOk : Nat → List Char → Bool
  | 0, _ => false
  | fuel + 1, cs =>
    match cs.dropWhile (· = ' ') with
    | [] => true
    | cs =>
      match skipParameter cs with
      | some rest => parametersOk fuel rest
      | none => false

/-- The subtype and its suffix, which follows the last plus unless that comes first. -/
def splitSuffix (subtype : List Char) : List Char × Option (List Char) :=
  let suffix := (subtype.reverse.takeWhile (· ≠ '+')).reverse
  let before := subtype.take (subtype.length - suffix.length - 1)
  if before.isEmpty then (subtype, none) else (before, some suffix)

/-- Whether a subtype denotes JSON, by itself or by its suffix. -/
def isJsonSubtype (subtype : List Char) : Bool :=
  let (base, suffix) := splitSuffix subtype
  base = "json".toList || suffix = some "json".toList

/-- Whether a content type denotes JSON. -/
def isJson (contentType : String) : Bool :=
  let cs := contentType.toList
  let type := cs.takeWhile isTokenChar
  match cs.dropWhile isTokenChar with
  | '/' :: rest =>
    let subtype := rest.takeWhile isTokenChar
    let parametersFine := match rest.dropWhile isTokenChar with
      | [] => true
      | ';' :: parameters => !subtype.isEmpty && parametersOk (parameters.length + 1) parameters
      | _ => false
    cs.all isHeaderChar && type.map Char.toLower = "application".toList && parametersFine &&
      isJsonSubtype (subtype.map Char.toLower)
  | _ => false

end MediaPlane.Http
