import LabelPress.Text.Likeness
import LabelPress.Text.Quoted

/-!
# Options and arguments

The words after a command are options and plain arguments. A long option starts with two dashes and
may have its value behind an equals sign; short options start with one dash and may be joined. Two
dashes alone end the options. Of a name that nothing has, the names that come closest are told.
-/

namespace LabelPress.CommandLine

inductive UsageFault where
  | unknownOption (name : Text) (closest : List String)
  | needsValue (name : Text)
  | takesNoValue (name : Text)
  | missingArgument (name : String)
  | missingOption (names : List String)
  | extraArguments (words : List Text)
  | missingCommand
  | unknownCommand (name : Text) (closest : List String)
  | noFile (option path : Text)
  | folder (option path : Text)
  | notInteger (option word : Text)
  | outOfRange (option : Text) (value : Int) (least : Nat)
  | binding (word : Text)
  deriving DecidableEq

namespace UsageFault

def invalid (option reason : Text) : Text := "Invalid value for " ++ option ++ ": " ++ reason

def quotedName (name : String) : Text := Text.quoted name

def hint : List String → Text
  | [] => []
  | [name] => " Did you mean " ++ Text.quoted name ++ "?"
  | names => " (Did you mean one of: " ++ Text.join ", " (names.map quotedName) ++ "?)"

def message : UsageFault → Text
  | unknownOption name closest => "No such option " ++ Text.quoted name ++ "." ++ hint closest
  | needsValue name => "Option " ++ Text.quoted name ++ " requires an argument."
  | takesNoValue name => "Option " ++ Text.quoted name ++ " does not take a value."
  | missingArgument name => "Missing argument " ++ Text.quoted name ++ "."
  | missingOption names =>
    "Missing option " ++ Text.join " / " (names.map quotedName) ++ "."
  | extraArguments words =>
    "Got unexpected extra argument" ++ (if words.length = 1 then " (" else "s (") ++
      Text.join " " words ++ ")"
  | missingCommand => "Missing command."
  | unknownCommand name closest => "No such command " ++ Text.quoted name ++ "." ++ hint closest
  | noFile option path =>
    invalid (Text.quoted option) ("File " ++ Text.quoted path ++ " does not exist.")
  | folder option path =>
    invalid (Text.quoted option) ("File " ++ Text.quoted path ++ " is a directory.")
  | notInteger option word =>
    invalid (Text.quoted option) (Text.quoted word ++ " is not a valid integer range.")
  | outOfRange option value least =>
    invalid (Text.quoted option)
      (toString value ++ " is not in the range x>=" ++ toString least ++ ".")
  | binding word => invalid "--bind" ("expected KEY=VALUE, got " ++ Text.quoted word)

def isBare : UsageFault → Bool
  | needsValue _ | takesNoValue _ => true
  | _ => false

end UsageFault

inductive OptionMeaning (α : Type) where
  | flag (meaning : α)
  | value (meaning : Text → α)

structure OptionSpec (α : Type) where
  names : List String
  meaning : OptionMeaning α

def isOption (word : Text) : Bool := word.startsWith "-" && 1 < word.length

def isLong (word : Text) : Bool := word.startsWith "--"

def specOf (specs : List (OptionSpec α)) (name : Text) : Option (OptionMeaning α) :=
  (specs.find? fun spec => spec.names.any (name == ·)).map (·.meaning)

def closestOptions (specs : List (OptionSpec α)) (word : Text) : List String :=
  Text.closest word ((specs.flatMap (·.names)).filter (isLong ·))

def splitValue (word : Text) : Text × Option Text :=
  match word.dropWhile (· != .char '=') with
  | [] => (word, none)
  | _ :: value => (word.takeWhile (· != .char '='), some value)

structure OptionReading (α : Type) where
  meanings : List α
  usesNext : Bool

def readLong (specs : List (OptionSpec α)) (word : Text) (next : Option Text) :
    Except UsageFault (OptionReading α) :=
  let (name, value) := splitValue word
  match specOf specs name, value with
  | none, _ => .error (.unknownOption name (closestOptions specs name))
  | some (.flag meaning), none => .ok ⟨[meaning], false⟩
  | some (.flag _), some _ => .error (.takesNoValue name)
  | some (.value meaning), some value => .ok ⟨[meaning value], false⟩
  | some (.value meaning), none => match next with
    | some value => .ok ⟨[meaning value], true⟩
    | none => .error (.needsValue name)

/-- The meanings of joined short options. One that takes a value takes the rest of the word, or the
next word if nothing is left. -/
def readShort (specs : List (OptionSpec α)) (next : Option Text) :
    Text → Except UsageFault (OptionReading α)
  | [] => .ok ⟨[], false⟩
  | c :: rest =>
    let name : Text := ['-', c]
    match specOf specs name with
    | none => .error (.unknownOption name [])
    | some (.flag meaning) => do
      let more ← readShort specs next rest
      return ⟨meaning :: more.meanings, more.usesNext⟩
    | some (.value meaning) =>
      if !rest.isEmpty then .ok ⟨[meaning rest], false⟩
      else match next with
        | some value => .ok ⟨[meaning value], true⟩
        | none => .error (.needsValue name)

def readOption (specs : List (OptionSpec α)) (word : Text) (next : Option Text) :
    Except UsageFault (OptionReading α) :=
  if isLong word then readLong specs word next else readShort specs next (word.drop 1)

/-- The meanings of the options in order, and the other words. Where options may not come behind
other words, the first of these ends them. -/
def readWords (specs : List (OptionSpec α)) (mixed : Bool) :
    List Text → Except UsageFault (List α × List Text)
  | [] => .ok ([], [])
  | [word] =>
    if word = "--" then .ok ([], [])
    else if isOption word then do return ((← readOption specs word none).meanings, [])
    else .ok ([], [word])
  | word :: next :: rest =>
    if word = "--" then .ok ([], next :: rest)
    else if isOption word then do
      let reading ← readOption specs word (some next)
      let (meanings, words) ←
        if reading.usesNext then readWords specs mixed rest
        else readWords specs mixed (next :: rest)
      return (reading.meanings ++ meanings, words)
    else if mixed then do
      let (meanings, words) ← readWords specs mixed (next :: rest)
      return (meanings, word :: words)
    else .ok ([], word :: next :: rest)

end LabelPress.CommandLine
