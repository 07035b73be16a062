import Mooring.Error

/-! SSH servers as users write them, `[user@]host[:port]`. A host with colons stands in brackets when
a port follows. -/

namespace Mooring.Ssh

structure Target where
  user : String
  host : String
  port : UInt16
  deriving DecidableEq, Repr

def defaultPort : UInt16 := 22

def splitFirst (separator : Char) : List Char → Option (List Char × List Char)
  | [] => none
  | c :: rest =>
    if c = separator then some ([], rest)
    else (splitFirst separator rest).map (fun parts => (c :: parts.1, parts.2))

def splitLast (separator : Char) (text : List Char) : Option (List Char × List Char) :=
  (splitFirst separator text.reverse).map (fun parts => (parts.2.reverse, parts.1.reverse))

def readPort (text : List Char) : Option UInt16 :=
  match Text.natural? text with
  | some value => if value < UInt16.size then some (UInt16.ofNat value) else none
  | none => none

namespace Target

/-- A host in brackets with its port, or a host up to its only colon, or a host alone. -/
def readHostPort (text : List Char) : Option (List Char × UInt16) :=
  match text with
  | '[' :: bracketed =>
    match splitFirst ']' bracketed with
    | none => none
    | some (host, ':' :: port) => (readPort port).map (fun port => (host, port))
    | some (host, []) => some (host, defaultPort)
    | some _ => none
  | _ =>
    match splitFirst ':' text with
    | some (host, port) =>
      if port.contains ':' then some (text, defaultPort)
      else (readPort port).map (fun port => (host, port))
    | none => some (text, defaultPort)

def readUser (text : List Char) : Option (Option (List Char) × List Char) :=
  match splitLast '@' text with
  | some ([], _) => none
  | some (user, rest) => some (some user, rest)
  | none => some (none, text)

def parseWith (defaultUser : Option String) (server : String) : Except Error Target :=
  let invalid : Except Error Target := .error (.invalidAddress server)
  match readUser server.toList with
  | none => invalid
  | some (user, rest) =>
    match readHostPort rest with
    | none => invalid
    | some ([], _) => invalid
    | some (host, port) =>
      let user := (user.map String.ofList).orElse (fun _ => defaultUser)
      match user.filter (fun user => !user.isEmpty) with
      | none => .error (.tunnel ("no ssh user given for " ++ server))
      | some user => .ok ⟨user, String.ofList host, port⟩

def text (target : Target) : String :=
  let host := if target.host.toList.contains ':' then "[" ++ target.host ++ "]" else target.host
  target.user ++ "@" ++ host ++ ":" ++ toString target.port.toNat

end Target

def defaultUser (lookup : String → Option String) : Option String :=
  (lookup "USER").orElse (fun _ => lookup "USERNAME")

end Mooring.Ssh
