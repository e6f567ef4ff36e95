import LabelPress.Terminal.ActionValue
import LabelPress.Text.Blank

/-!
# Actions

A style that starts with an at sign ties an action to text: a name with arguments behind it. The
arguments are literal values between parentheses; what is neither a name nor a name with arguments
is read as a value itself.

A reader that finds nothing of its kind fails with `.unexpected`, and another one may be tried at
the same place; every other fault ends all reading. Where a bracket is open, looking behind the last
token is a fault. What is wrong is told only by readers that `telling` allows to.
-/

namespace LabelPress.Terminal

def operators : List (List Char) :=
  ["**", "//", "<<", ">>", "+", "-", "*", "/", "%", "@", "&", "|", "^"].map String.toList

def relations : List (List Char) := ["<=", ">=", "==", "!=", "<", ">"].map String.toList

def valueWords : List (List Char) := ["None", "True", "False"].map String.toList

def statementWords : List (List Char) := ["match", "case", "_"].map String.toList

def calledWords : List (List Char) := ["print", "exec"].map String.toList

def keywords : List (List Char) := [
  "and", "as", "assert", "async", "await", "break", "class", "continue", "def", "del", "else",
  "elif", "except", "finally", "for", "from", "global", "if", "import", "in", "is", "lambda",
  "nonlocal", "not", "or", "pass", "raise", "return", "try", "while", "with", "yield"].map
    String.toList

def isName (word : List Char) : Bool := !valueWords.contains word && !keywords.contains word

def unarySigns : List (List Char) := ["-", "+", "~"].map String.toList

def namingSign : List Char := ":=".toList

/-- The place that values are read at: the bracket around it, and whether what is wrong is told. -/
structure Place where
  opened : Option Char := none
  telling : Bool := true

namespace Place

def inside (p : Place) (opening : Char) : Place := { p with opened := some opening }

def silent (p : Place) : Place := { p with telling := false }

def tell (p : Place) (fault : ActionFault) : Except ActionFault α :=
  .error (if p.telling then fault else .unexpected)

def look (p : Place) (ts : List ActionToken) : Except ActionFault Unit :=
  match ts, p.opened with
  | [], some opening => .error (.unclosed opening)
  | _, _ => .ok ()

end Place

def attempt (x : Except ActionFault α) : Except ActionFault (Option α) :=
  match x with
  | .ok a => .ok (some a)
  | .error .unexpected => .ok none
  | .error fault => .error fault

def joinedTexts (kind : QuotedKind) : List ActionToken → Except ActionFault ActionValue
  | .text next ascii :: rest => do
    if next = .bytes && !ascii then throw .byteCharacter
    if (next = .bytes) != (kind = .bytes) then throw .mixedTexts
    joinedTexts (if next = .format then .format else kind) rest
  | rest => .ok (
    if kind = .format then { rest, kind := "f-string expression" }
    else { rest, kind := "literal", worth := .plain })

def ActionValue.isLone (v : ActionValue) : List ActionToken → Bool
  | .name word :: rest => isName word && v.rest.length = rest.length
  | _ => false

/-- Whether another value may follow a first one without a comma: a name before a text may be meant
as the kind of the text, and some words may start a statement. -/
def mayLackComma : List ActionToken → Bool
  | .name word :: .text _ _ :: _ => !isName word
  | .name word :: _ => !statementWords.contains word
  | _ => true

/-- Whether values follow each other between parentheses as the arguments of a call: those that have
been read with a name, and those from a mapping. -/
structure Arguments where
  named : Bool := false
  merged : Bool := false

mutual

def readAtom : Nat → Place → List ActionToken → Except ActionFault ActionValue
  | 0, _, _ => .error .unexpected
  | fuel + 1, p, ts => do
    p.look ts
    match ts with
    | .name word :: rest =>
      if valueWords.contains word then
        return { rest, kind := String.ofList word, worth := .plain, fixed := true }
      if !isName word then throw .unexpected
      match rest with
      | .opening '(' :: .closing _ :: rest =>
        if word = "set".toList then
          return { rest, kind := "function call", worth := .set [] }
      | _ => pure ()
      return { rest, kind := "name" }
    | .number imaginary :: rest =>
      return { rest, kind := "literal", worth := .ok (.number imaginary) }
    | .text kind _ :: _ => joinedTexts kind ts
    | .sign ['.', '.', '.'] :: rest => return { rest, kind := "ellipsis", worth := .plain }
    | .opening '(' :: rest => readParentheses fuel (p.inside '(') rest
    | .opening c :: rest => readBraces fuel (p.inside c) rest
    | _ => throw .unexpected

def readBehind : Nat → Place → ActionValue → Except ActionFault ActionValue
  | 0, _, v => .ok v
  | fuel + 1, p, v => do
    p.look v.rest
    match v.rest with
    | .sign ['.'] :: rest =>
      p.look rest
      match rest with
      | .name word :: rest =>
        if isName word then
          readBehind fuel p { rest, kind := "attribute", fixed := v.fixed }
        else return v
      | _ => return v
    | .opening '(' :: rest =>
      match ← attempt (readArguments fuel (p.inside '(') {} rest) with
      | some rest => readBehind fuel p { rest, kind := "function call", fixed := v.fixed }
      | none => return v
    | _ => return v

def readFactor : Nat → Place → List ActionToken → Except ActionFault ActionValue
  | 0, _, _ => .error .unexpected
  | fuel + 1, p, ts =>
    match ts with
    | .sign s :: rest => do
      if unarySigns.contains s then
        let v ← readFactor fuel p rest
        let worth := if s = ['~'] then .computed else v.worth.signed
        return { rest := v.rest, kind := "expression", worth }
      else readBehind fuel p (← readAtom fuel p ts)
    | ts => do readBehind fuel p (← readAtom fuel p ts)

def readOperators : Nat → Place → ActionValue → Except ActionFault ActionValue
  | 0, _, v => .ok v
  | fuel + 1, p, v =>
    match v.rest with
    | .sign s :: rest =>
      if operators.contains s then do
        match ← attempt (readFactor fuel p rest) with
        | some right =>
          let worth := if s = ['+'] || s = ['-'] then v.worth.sum right.worth else .computed
          readOperators fuel p { rest := right.rest, kind := "expression", worth, fixed := v.fixed }
        | none => return v
      else .ok v
    | _ => .ok v

def readOperand : Nat → Place → List ActionToken → Except ActionFault ActionValue
  | 0, _, _ => .error .unexpected
  | fuel + 1, p, ts => do readOperators fuel p (← readFactor fuel p ts)

def readCompared : Nat → Place → ActionValue → List ActionToken → Except ActionFault ActionValue
  | 0, _, v, _ => .ok v
  | fuel + 1, p, v, ts => do
    match ← attempt (readOperand fuel p ts) with
    | some right =>
      let rest := right.rest
      readRelations fuel p { rest, kind := "comparison", operand := false, fixed := v.fixed }
    | none => return v

def readRelations : Nat → Place → ActionValue → Except ActionFault ActionValue
  | 0, _, v => .ok v
  | fuel + 1, p, v => do
    match v.rest with
    | .sign s :: rest => if relations.contains s then readCompared fuel p v rest else return v
    | .name word :: rest =>
      if word = "in".toList then readCompared fuel p v rest
      else if word = "is".toList then
        p.look rest
        let negated := rest.head? = some (.name "not".toList)
        readCompared fuel p v (if negated then rest.drop 1 else rest)
      else if word = "not".toList then
        p.look rest
        if rest.head? != some (.name "in".toList) then return v
        readCompared fuel p v (rest.drop 1)
      else if word = "and".toList || word = "or".toList then
        match ← attempt (readCondition fuel p rest) with
        | some right =>
          return { rest := right.rest, kind := "expression", operand := false, fixed := v.fixed }
        | none => return v
      else return v
    | _ => return v

def readCondition : Nat → Place → List ActionToken → Except ActionFault ActionValue
  | 0, _, _ => .error .unexpected
  | fuel + 1, p, ts => do
    if ts.head? = some (.name "not".toList) then
      let v ← readCondition fuel p (ts.drop 1)
      return { rest := v.rest, kind := "expression", operand := false }
    else readRelations fuel p (← readOperand fuel p ts)

def readChoice : Nat → Place → ActionValue → Except ActionFault ActionValue
  | 0, _, v => .ok v
  | fuel + 1, p, v => do
    if v.rest.head? != some (.name "if".toList) then return v
    match ← attempt (readCondition fuel p (v.rest.drop 1)) with
    | none => return v
    | some condition => match condition.rest with
      | .name word :: rest =>
        if word = "else".toList then
          match ← attempt (readValue fuel p rest) with
          | some other => return {
              rest := other.rest, kind := "conditional expression", operand := false
              fixed := v.fixed }
          | none => return v
        else if p.telling then throw .otherwise
        else return v
      | .sign [':'] :: _ => return v
      | _ => if p.telling then throw .otherwise else return v

/-- Any value. It must not be followed by another one where a comma is missing. -/
def readValue : Nat → Place → List ActionToken → Except ActionFault ActionValue
  | 0, _, _ => .error .unexpected
  | fuel + 1, p, ts => do
    let v ← readCondition fuel p ts
    if !p.telling then return ← readChoice fuel p v
    let called := v.isLone ts && calledWords.any fun word => ts.head? = some (.name word)
    if mayLackComma ts && !called then
      let second : Except ActionFault ActionValue := do
        readChoice fuel p.silent (← readCondition fuel p.silent v.rest)
      if (← attempt second).isSome && p.opened.isSome then throw .comma
    let whole ← readChoice fuel p v
    if v.isLone ts then
      let behind ← attempt (readRow fuel p v.rest)
      match ts with
      | .name word :: _ => if called && behind.isSome then throw (.statement word)
      | _ => pure ()
    return whole

def readRow : Nat → Place → List ActionToken → Except ActionFault Unit
  | 0, _, _ => .error .unexpected
  | fuel + 1, p, ts => do
    let v ← match ts with
      | .sign ['*'] :: rest => readOperand fuel p rest
      | ts => readValue fuel p ts
    match v.rest with
    | .sign [','] :: rest => discard (attempt (readRow fuel p rest))
    | _ => return

def readNamed : Nat → Place → List ActionToken → ActionValue → Except ActionFault ActionValue
  | 0, _, _, _ => .error .unexpected
  | fuel + 1, p, ts, v =>
    match v.rest with
    | .sign s :: rest => do
      if s = namingSign then
        match ← attempt (readValue fuel p rest) with
        | none => throw .unexpected
        | some value =>
          if v.isLone ts then
            return { rest := value.rest, kind := "named expression", operand := false }
          else p.tell (.named v.kind)
      else if s = ['='] && p.telling && (v.isLone ts || (v.operand && !v.fixed)) then
        match ← attempt (readOperand fuel p rest) with
        | none => return v
        | some value => match value.rest with
          | .sign s :: _ =>
            if s = ['='] || s = namingSign then return v
            else throw (if v.isLone ts then .assignment else .assigned v.kind)
          | _ => throw (if v.isLone ts then .assignment else .assigned v.kind)
      else return v
    | _ => .ok v

def readParentheses : Nat → Place → List ActionToken → Except ActionFault ActionValue
  | 0, _, _ => .error .unexpected
  | fuel + 1, p, ts => do
    p.look ts
    match ts with
    | .closing _ :: rest => return { rest, kind := "tuple", worth := .plain, fixed := true }
    | .sign ['*'] :: rest =>
      let row : Except ActionFault ActionValue := do
        let v ← readOperand fuel p rest
        match v.rest with
        | .sign [','] :: rest => readMembers fuel p [.computed] rest
        | _ => throw .unexpected
      match ← attempt row with
      | some v => return v
      | none =>
        if !p.telling then throw .unexpected
        match ← attempt (readValue fuel p rest) with
        | none => throw .star
        | some v => match v.rest with
          | .closing _ :: _ => throw (.starred false)
          | _ => throw .unexpected
    | .sign ['*', '*'] :: rest =>
      if !p.telling then throw .unexpected
      match (← readValue fuel p rest).rest with
      | .closing _ :: _ => throw (.starred true)
      | _ => throw .unexpected
    | ts =>
      let v ← readNamed fuel p ts (← readValue fuel p ts)
      match v.rest with
      | .closing _ :: rest => return { v with rest, operand := true, fixed := false }
      | .sign [','] :: rest => readMembers fuel p [v.worth] rest
      | _ => throw .unexpected

/-- The values of a row or a set behind a comma; `worths` are those before. -/
def readMembers : Nat → Place → List Worth → List ActionToken → Except ActionFault ActionValue
  | 0, _, _, _ => .error .unexpected
  | fuel + 1, p, worths, ts => do
    p.look ts
    let (worths, ts) ← match ts with
      | .closing _ :: _ => pure (worths, ts)
      | .sign ['*'] :: rest => do
        pure (worths ++ [.computed], (← readOperand fuel p rest).rest)
      | ts => do
        let v ← readNamed fuel p ts (← readValue fuel p ts)
        pure (worths ++ [v.worth], v.rest)
    match ts with
    | .closing c :: rest =>
      if c == ')' then return { rest, kind := "tuple", worth := .row worths, fixed := true }
      else return { rest, kind := "set display", worth := .set worths }
    | .sign [','] :: rest => readMembers fuel p worths rest
    | _ => throw .unexpected

def readBraces : Nat → Place → List ActionToken → Except ActionFault ActionValue
  | 0, _, _ => .error .unexpected
  | fuel + 1, p, ts => do
    p.look ts
    match ts with
    | .closing _ :: rest => return { rest, kind := "dict literal", worth := .mapping [] }
    | .sign ['*'] :: rest =>
      let set : Except ActionFault ActionValue := do
        let v ← readOperand fuel p rest
        readMembersBehind fuel p [.computed] v.rest
      match ← attempt set with
      | some v => return v
      | none =>
        if p.telling && (← attempt (readValue fuel p rest)).isNone then throw .star
        else throw .unexpected
    | .sign ['*', '*'] :: rest =>
      readEntries fuel p [.error .spread] (← readOperand fuel p rest).rest
    | ts =>
      let key ← readValue fuel p ts
      match key.rest with
      | .sign [':'] :: rest =>
        let value ← readEntryValue fuel p rest
        readEntries fuel p [.entry key.worth value.worth] value.rest
      | _ =>
        let v ← readNamed fuel p ts key
        readMembersBehind fuel p [v.worth] v.rest

def readMembersBehind : Nat → Place → List Worth → List ActionToken →
    Except ActionFault ActionValue
  | 0, _, _, _ => .error .unexpected
  | fuel + 1, p, worths, ts =>
    match ts with
    | .closing _ :: _ => readMembers fuel p worths ts
    | .sign [','] :: rest => readMembers fuel p worths rest
    | _ => .error .unexpected

def readEntryValue : Nat → Place → List ActionToken → Except ActionFault ActionValue
  | 0, _, _ => .error .unexpected
  | fuel + 1, p, ts => do
    match ← attempt (readValue fuel p ts) with
    | some v => return v
    | none => match ts with
      | .sign ['*'] :: rest =>
        if (← attempt (readOperand fuel p rest)).isSome then p.tell .starredEntry
        else throw .unexpected
      | .closing _ :: _ | .sign [','] :: _ => p.tell .entry
      | _ => throw .unexpected

def readEntries : Nat → Place → List Worth → List ActionToken → Except ActionFault ActionValue
  | 0, _, _, _ => .error .unexpected
  | fuel + 1, p, worths, ts => do
    match ts with
    | .closing _ :: rest | .sign [','] :: .closing _ :: rest =>
      return { rest, kind := "dict literal", worth := .mapping worths }
    | .sign [','] :: .sign ['*', '*'] :: rest =>
      readEntries fuel p (worths ++ [.error .spread]) (← readOperand fuel p rest).rest
    | .sign [','] :: ts =>
      let key ← readValue fuel p ts
      match key.rest with
      | .sign [':'] :: rest =>
        let value ← readEntryValue fuel p rest
        readEntries fuel p (worths ++ [.entry key.worth value.worth]) value.rest
      | _ => p.tell .colon
    | _ => throw .unexpected

def readArguments : Nat → Place → Arguments → List ActionToken →
    Except ActionFault (List ActionToken)
  | 0, _, _, _ => .error .unexpected
  | fuel + 1, p, before, ts => do
    p.look ts
    match ts with
    | .closing _ :: rest => return rest
    | .sign ['*'] :: rest =>
      if before.merged then p.tell .unpacked
      else match ← attempt (readValue fuel p rest) with
        | some v => readArgumentsBehind fuel p before v.rest
        | none => p.tell .star
    | .sign ['*', '*'] :: rest =>
      readArgumentsBehind fuel p { before with merged := true } (← readValue fuel p rest).rest
    | .name word :: .sign ['='] :: rest =>
      if valueWords.contains word then p.tell (.reserved word)
      else if !isName word then throw .unexpected
      else
        readArgumentsBehind fuel p { before with named := true } (← readValue fuel p rest).rest
    | ts =>
      let v ← readValue fuel p ts
      match v.rest with
      | .sign ['='] :: _ => p.tell .argument
      | .sign s :: rest =>
        if s = namingSign then
          if v.isLone ts then
            readArgumentsBehind fuel p before (← readValue fuel p rest).rest
          else throw .unexpected
        else if before.named || before.merged then p.tell (.unnamed before.merged)
        else readArgumentsBehind fuel p before v.rest
      | rest =>
        if before.named || before.merged then p.tell (.unnamed before.merged)
        else readArgumentsBehind fuel p before rest

def readArgumentsBehind : Nat → Place → Arguments → List ActionToken →
    Except ActionFault (List ActionToken)
  | 0, _, _, _ => .error .unexpected
  | fuel + 1, p, before, ts =>
    match ts with
    | .closing _ :: rest => .ok rest
    | .sign [','] :: rest => readArguments fuel p before rest
    | _ => .error .unexpected

end

/-- How many readers deep each token can take what is read of a value, with room to spare. -/
def stepsPerToken : Nat := 24

def readValues : Nat → List Worth → List ActionToken → Except ActionFault Worth
  | 0, _, _ => .error .unexpected
  | fuel + 1, worths, ts => do
    let v ← readValue (stepsPerToken * (ts.length + 1)) {} ts
    let worths := worths ++ [v.worth]
    match v.rest with
    | [] => return if worths.length = 1 then v.worth else .row worths
    | [.sign [',']] => return .row worths
    | .sign [','] :: rest => readValues fuel worths rest
    | _ => throw .unexpected

def readLiteral (cs : List Char) : Except ActionFault Unit := do
  let tokens ← actionTokens cs.length [] cs
  discard (← readValues (tokens.length + 1) [] tokens)

def namesAction (c : Char) : Bool :=
  (startsName c && !signCodes.contains c.toNat) || (Text.digitValue? c).isSome || c == '.' ||
    Text.inRanges wordBounds c

/-- The arguments of an action: those behind its name, none if it has only a name, and all that is
said if it has none. -/
def argumentsOf (said : Text) : Text :=
  let inside := said.dropWhile fun c => c.char?.any namesAction
  let enclosed := inside.head? = some (.char '(') && inside.getLast? = some (.char ')')
  if inside.isEmpty then "()"
  else if enclosed && !inside.contains '\n' then inside
  else said

def checkAction (said : Text) : Except MarkupFault Unit :=
  if said.isEmpty then .ok ()
  else
    let arguments := argumentsOf (Text.strip said)
    let read : Except ActionFault Unit := do
      (Text.Encoding.utf8.check arguments).mapError .unencodable
      readLiteral ((Text.chars? arguments).getD [])
    read.mapError (.action arguments said)

end LabelPress.Terminal
