import MediaPlane.Value.Token

/-
  Reading JSON text. An object whose first key as written is `embeddedKey` holds a value as text: it
  stands for what that text says, and has no other member. Readers that only need the shape of a
  value leave such objects as they are.
-/

namespace MediaPlane.Value

/-- How deep arrays and objects may be nested. -/
def maxDepth : Nat := 127

/-- The key of a value that is embedded as text. -/
def embeddedKey : String := "$serde_json::private::RawValue"

/-- What is wrong with a value that should be a text. -/
def readMisplaced : List Char → Stop
  | [] => .atEnd .endInValue
  | c :: rest =>
    let scalar : Scan Value :=
      if c = 'n' then readWord .null "ull".toList rest
      else if c = 't' then readWord (.bool true) "rue".toList rest
      else if c = 'f' then readWord (.bool false) "alse".toList rest
      else if c = '[' then .ok (.arr [], c :: rest)
      else if c = '{' then .ok (.obj [], c :: rest)
      else if c = '-' || c.isDigit then readNumber (c :: rest)
      else .error (.on .noValue (c :: rest))
    match scalar with
    | .ok (v, rest) => .before (.embeddedNotString v) rest
    | .error e => e

/-- The end of an object that has no member but the first. -/
def readOnlyMember (v : Value) (cs : List Char) : Scan Value :=
  match skipBlank cs with
  | [] => .error (.atEnd .endInObject)
  | '}' :: rest => .ok (v, rest)
  | ',' :: rest => .error (.on .trailingComma (',' :: rest))
  | rest => .error (.on .trailingText rest)

/-- The colon behind a key. -/
def readColon (cs : List Char) : Except Stop (List Char) :=
  match skipBlank cs with
  | [] => .error (.atEnd .endInObject)
  | ':' :: rest => .ok rest
  | rest => .error (.on .noColon rest)

/-- The place of the next item, or the rest behind the closing bracket. -/
def readItemEnd (cs : List Char) : Except Stop (List Char ⊕ List Char) :=
  match skipBlank cs with
  | [] => .error (.atEnd .endInArray)
  | ']' :: rest => .ok (.inr rest)
  | ',' :: rest =>
    match skipBlank rest with
    | [] => .error (.atEnd .endInValue)
    | ']' :: rest => .error (.on .trailingComma (']' :: rest))
    | rest => .ok (.inl rest)
  | rest => .error (.on .itemsNotEnded rest)

/-- The place behind the opening quote of the next key, or the rest behind the closing brace. -/
def readMemberEnd (cs : List Char) : Except Stop (List Char ⊕ List Char) :=
  match skipBlank cs with
  | [] => .error (.atEnd .endInObject)
  | '}' :: rest => .ok (.inr rest)
  | ',' :: rest =>
    match skipBlank rest with
    | [] => .error (.atEnd .endInValue)
    | '"' :: rest => .ok (.inl rest)
    | '}' :: rest => .error (.on .trailingComma ('}' :: rest))
    | rest => .error (.on .keyNotString rest)
  | rest => .error (.on .membersNotEnded rest)

/-- A value with nothing behind it. -/
def readWhole (text : String) (r : Scan Value) : Except TextFault Value :=
  match r with
  | .error e => .error (e.fault text)
  | .ok (v, rest) =>
    match skipBlank rest with
    | [] => .ok v
    | rest => .error (Stop.fault text (.on .trailingText rest))

mutual

/-- Reads one value; `depth` more levels may be opened. Embedded texts are read if `embedded`. -/
def readValue (embedded : Bool) : Nat → Nat → List Char → Scan Value
  | 0, _, cs => .error (.on .tooDeep cs)
  | fuel + 1, depth, cs =>
    match skipBlank cs with
    | [] => .error (.atEnd .endInValue)
    | 'n' :: rest => readWord .null "ull".toList rest
    | 't' :: rest => readWord (.bool true) "rue".toList rest
    | 'f' :: rest => readWord (.bool false) "alse".toList rest
    | '"' :: rest =>
      match readQuoted [] rest with
      | .error e => .error e
      | .ok (s, rest) => .ok (.str s, rest)
    | '[' :: rest =>
      if depth = 0 then .error (.on .tooDeep ('[' :: rest))
      else
        match skipBlank rest with
        | [] => .error (.atEnd .endInArray)
        | ']' :: rest => .ok (.arr [], rest)
        | rest => readItems embedded fuel (depth - 1) [] rest
    | '{' :: rest =>
      if depth = 0 then .error (.on .tooDeep ('{' :: rest))
      else
        match skipBlank rest with
        | [] => .error (.atEnd .endInObject)
        | '}' :: rest => .ok (.obj [], rest)
        | '"' :: rest =>
          match readQuoted [] rest with
          | .error e => .error e
          | .ok (key, rest) =>
            if embedded && key = embeddedKey then readEmbedded fuel rest
            else readMembers embedded fuel (depth - 1) [] key rest
        | rest => .error (.on .keyNotString rest)
    | c :: rest =>
      if c = '-' || c.isDigit then readNumber (c :: rest) else .error (.on .noValue (c :: rest))

/-- Reads items up to the closing bracket, the first of which follows; `seen` holds those before it,
the last one first. -/
def readItems (embedded : Bool) : Nat → Nat → List Value → List Char → Scan Value
  | 0, _, _, cs => .error (.on .tooDeep cs)
  | fuel + 1, depth, seen, cs =>
    match readValue embedded fuel depth cs with
    | .error e => .error e
    | .ok (v, rest) =>
      match readItemEnd rest with
      | .error e => .error e
      | .ok (.inr rest) => .ok (.arr (v :: seen).reverse, rest)
      | .ok (.inl rest) => readItems embedded fuel depth (v :: seen) rest

/-- Reads members up to the closing brace, from the colon behind a key on; `seen` holds those before
it, the last one first. -/
def readMembers (embedded : Bool) : Nat → Nat → Members → String → List Char → Scan Value
  | 0, _, _, _, cs => .error (.on .tooDeep cs)
  | fuel + 1, depth, seen, key, cs =>
    match readColon cs with
    | .error e => .error e
    | .ok rest =>
      match readValue embedded fuel depth rest with
      | .error e => .error e
      | .ok (v, rest) =>
        match readMemberEnd rest with
        | .error e => .error e
        | .ok (.inr rest) => .ok (.object ((key, v) :: seen).reverse, rest)
        | .ok (.inl rest) =>
          match readQuoted [] rest with
          | .error e => .error e
          | .ok (next, rest) => readMembers embedded fuel depth ((key, v) :: seen) next rest

/-- Reads the value of an embedded text, from the colon behind its key to the closing brace. -/
def readEmbedded : Nat → List Char → Scan Value
  | 0, cs => .error (.on .tooDeep cs)
  | fuel + 1, cs =>
    match readColon cs with
    | .error e => .error e
    | .ok rest =>
      match skipBlank rest with
      | '"' :: rest =>
        match readQuoted [] rest with
        | .error e => .error e
        | .ok (text, rest) =>
          match readWhole text (readValue true fuel maxDepth text.toList) with
          | .error e => .error (.embedded e)
          | .ok v => readOnlyMember v rest
      | rest => .error (readMisplaced rest)

end

/-- Fuel that no text of this length uses up. -/
def fuelFor (cs : List Char) : Nat := 2 * cs.length + 2

/-- The value that a whole text says. -/
def read (text : String) : Except TextFault Value :=
  readWhole text (readValue true (fuelFor text.toList) maxDepth text.toList)

/-- The value that a whole text says, if it says one. -/
def read? (text : String) : Option Value := (read text).toOption

end MediaPlane.Value
