import LabelPress.Address.Host
import LabelPress.Numeral.Integer

/-!
# Addresses on the network

An address has a scheme, a host with a user and a port, a path, a query and a fragment, of which
most may be missing. Its text is the one normal form of all the texts that are read as it.
-/

namespace LabelPress

structure Address where
  scheme : Text := []
  user : Text := []
  host : Text := []
  port : Option Int := none
  path : Text := []
  query : Option Text := none
  fragment : Option Text := none
  deriving DecidableEq

namespace Address

def place (a : Address) : Text :=
  let bracketed : Text := if a.host.contains ':' then "[" ++ a.host ++ "]" else a.host
  let port : Text := match a.port with
    | some n => ':' :: Text.ofString (toString n)
    | none => []
  bracketed ++ port

def authority (a : Address) : Text :=
  if a.user.isEmpty then a.place else a.user ++ "@" ++ a.place

def behind (mark : Char) : Option Text → Text
  | some t => mark :: t
  | none => []

def text (a : Address) : Text :=
  let scheme : Text := if a.scheme.isEmpty then [] else a.scheme ++ ":"
  let authority : Text := if a.authority.isEmpty then [] else "//" ++ a.authority
  scheme ++ authority ++ a.path ++ behind '?' a.query ++ behind '#' a.fragment

def isAbsolute (a : Address) : Bool := !a.scheme.isEmpty && !a.host.isEmpty

/-- What is asked for at an address: one that is not absolute has a path from the root on and a
query, and nothing else. -/
def target (a : Address) : Address :=
  if a.isAbsolute then a
  else { path := '/' :: a.path.dropWhile (· == .char '/'), query := a.query }

structure Parts where
  scheme : Text
  authority : Text
  path : Text
  query : Option Text
  fragment : Option Text

def splitAtFirst (c : CodePoint) (t : Text) : Text × Option Text :=
  match t.dropWhile (· != c) with
  | [] => (t, none)
  | _ :: rest => (t.takeWhile (· != c), some rest)

def inScheme (c : Char) : Bool := c.isAlphanum || c == '+' || c == '.' || c == '-'

/-- The scheme that a text starts with, and what is behind its colon. A colon alone is passed over.
-/
def splitScheme (t : Text) : Text × Text :=
  let startsWord := t.head?.any fun c => c.char?.any Char.isAlpha
  let word := if startsWord then t.takeWhile (·.char?.any inScheme) else []
  match t.drop word.length with
  | .char ':' :: rest => (word, rest)
  | _ => ([], t)

def Parts.ofText (t : Text) : Parts :=
  let (scheme, rest) := splitScheme t
  let (rest, fragment) := splitAtFirst '#' rest
  let (rest, query) := splitAtFirst '?' rest
  match rest with
  | .char '/' :: .char '/' :: rest =>
    let authority := rest.takeWhile (· != .char '/')
    ⟨scheme, authority, rest.drop authority.length, query, fragment⟩
  | path => ⟨scheme, [], path, query, fragment⟩

def splitUser (t : Text) : Text × Text :=
  if t.contains '@' then
    let host := (t.reverse.takeWhile (· != .char '@')).reverse
    (t.take (t.length - host.length - 1), host)
  else ([], t)

/-- The host at the start of a text and the port behind it. A host in brackets goes up to the last
closing one. -/
def splitPort (t : Text) : Text × Text :=
  let tail := (t.reverse.takeWhile (· != .char ']')).reverse
  let host :=
    if t.head? = some (.char '[') && t.contains ']' then t.take (t.length - tail.length)
    else t.takeWhile (· != .char ':')
  match t.drop host.length with
  | .char ':' :: port => (host, port)
  | port => (host, port)

def schemePorts : List (Text × Int) :=
  [("ftp", 21), ("http", 80), ("https", 443), ("ws", 80), ("wss", 443)]

def portOf (scheme port : Text) : Except Fault (Option Int) :=
  if port.isEmpty then .ok none
  else match Numeral.integer? 10 port with
    | .ok (some n) => .ok (if schemePorts.lookup scheme = some n then none else some n)
    | _ => .error (.address (.port (Text.quoted port)))

/-- The steps of a path without those that stay or lead back; `done` holds those before, the latest
first. The first step is not taken back if it is the root. -/
def dropDots (done : List Text) : List Text → List Text
  | [] => done.reverse
  | step :: rest =>
    if step = "." then dropDots done rest
    else if step = ".." then dropDots (if done = [[]] then done else done.drop 1) rest
    else dropDots (step :: done) rest

def straight (path : Text) : Text := Text.join "/" (dropDots [] (path.splitOn '/'))

def sizeLimit : Nat := 65536

def isControl (c : CodePoint) : Bool := c.toNat < 0x20 || c.toNat = 0x7F

def checkText (t : Text) : Except AddressFault Unit :=
  let before := t.takeWhile fun c => !isControl c
  if sizeLimit < t.length then .error .tooLong
  else match t.drop before.length with
    | [] => .ok ()
    | c :: _ => .error (.control (Text.quoted [c]) before.length)

def checkPath (path : Text) : Except AddressFault Unit :=
  match path with
  | .char '/' :: .char '/' :: _ => .error (.pathStart "//")
  | .char ':' :: _ => .error (.pathStart ":")
  | _ => .ok ()

def ofText (t : Text) : Except Fault Address := do
  (checkText t).mapError .address
  let parts := Parts.ofText t
  let (user, host) := splitUser parts.authority
  let (host, port) := splitPort host
  let user ← (quoted inUser user).mapError .unencodable
  let host ← hostOf host
  let port ← portOf parts.scheme port
  let isPlaced := !parts.scheme.isEmpty || !user.isEmpty || !host.isEmpty || port.isSome
  if !isPlaced then (checkPath parts.path).mapError .address
  let path := if isPlaced then straight parts.path else parts.path
  return {
    scheme := Text.lower parts.scheme, user, host, port
    path := ← (quoted inPath path).mapError .unencodable
    query := ← parts.query.mapM fun q => (quoted inQuery q).mapError .unencodable
    fragment := ← parts.fragment.mapM fun f => (quoted inFragment f).mapError .unencodable }

end Address
end LabelPress
