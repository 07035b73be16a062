import Mooring.CommandLine.Form
import Mooring.Credentials.Basic

/-! The commands, and how an argument list names one of them. -/

namespace Mooring.CommandLine

inductive Command
  | write (file : Option String) (transport : Transport) (ip : Option String) (kernelName : String)
  | find (pattern : String) (directories : List String)
  | describe (file : String)
  | tunnel (file server : String) (key output : Option String)
  | prepare (ids : List (Option String)) (directory : Option String) (transport : Transport)
      (displayName : String)
  | provisioners
  deriving DecidableEq, Repr

inductive CommandName
  | write
  | find
  | describe
  | tunnel
  | prepare
  | provisioners
  deriving DecidableEq, Repr

def keyVariable : String := "KCONNECT_SSH_KEY"

namespace CommandName

def all : List CommandName := [.write, .find, .describe, .tunnel, .prepare, .provisioners]

def text : CommandName → String
  | .write => "write"
  | .find => "find"
  | .describe => "show"
  | .tunnel => "tunnel"
  | .prepare => "prepare"
  | .provisioners => "provisioners"

def transportOption : OptionForm :=
  { name := "transport", valueName := "TRANSPORT", kind := .transport, fallback := some "tcp" }

def form : CommandName → Form
  | .write =>
    { about := "Write a connection file with fresh ports and a fresh key"
      options :=
        [{ name := "file", valueName := "FILE", kind := .path }, transportOption,
          { name := "ip", valueName := "IP", kind := .text },
          { name := "kernel-name", valueName := "KERNEL_NAME", kind := .text, fallback := some "" }] }
  | .find =>
    { about := "Resolve a connection file name or glob to an absolute path"
      options :=
        [{ name := "path", valueName := "PATHS", kind := .path, repeats := true
           about := "Extra directories searched before the defaults" }]
      operand := some ⟨"PATTERN", .text⟩ }
  | .describe =>
    { about := "Print a connection file with its key redacted", operand := some ⟨"FILE", .path⟩ }
  | .tunnel =>
    { about := "Forward a remote kernel's ports over SSH until interrupted"
      options :=
        [{ name := "server", valueName := "SERVER", kind := .text, isRequired := true
           about := "`[user@]host[:port]`" },
          { name := "key", valueName := "KEY", kind := .path, variableName := some keyVariable },
          { name := "output", valueName := "OUTPUT", kind := .path
            about := "Where to write the connection file for the local end" }]
      operand := some ⟨"FILE", .path⟩ }
  | .prepare =>
    { about := "Prepare connection files for a number of local kernels and hold them until "
        ++ "interrupted"
      options :=
        [{ name := "count", valueName := "COUNT", kind := .count, fallback := some "1" },
          { name := "id", valueName := "IDS", kind := .text, repeats := true
            about := "Kernel ids to use instead of `count` generated ones" },
          { name := "dir", valueName := "DIR", kind := .path }, transportOption,
          { name := "display-name", valueName := "DISPLAY_NAME", kind := .text
            fallback := some "kernel" }] }
  | .provisioners => { about := "List registered kernel provisioners" }

def valueOf (name : CommandName) (values : Values) (option : String) : Option String :=
  (values.get? option).orElse (fun _ =>
    (name.form.options.find? (fun form => decide (form.name = option))).bind OptionForm.fallback)

end CommandName

namespace CommandName

def transportOf (name : CommandName) (values : Values) : Transport :=
  match (name.valueOf values "transport").map Transport.parse with
  | some (.ok transport) => transport
  | _ => .tcp

def textOf (name : CommandName) (values : Values) (option : String) : String :=
  (name.valueOf values option).getD ""

end CommandName

def kernelIds (values : Values) : List (Option String) :=
  match values.allOf "id" with
  | [] =>
    let count := (CommandName.prepare.valueOf values "count").bind ValueKind.readCount
    List.replicate (count.getD 1) none
  | ids => ids.map some

/-- The private key that was asked for, by an option or else by the environment, which may not hold
an empty path. -/
def keyOf (values : Values) (fromEnvironment : Option String) : Except Refusal (Option String) :=
  match values.get? "key", fromEnvironment with
  | some key, _ => .ok (some key)
  | none, some key => if ValueKind.path.accepts key then .ok (some key) else .error .usage
  | none, none => .ok none

def tunnelOf (values : Values) (fromEnvironment : Option String) : Except Refusal Command :=
  match keyOf values fromEnvironment with
  | .error refusal => .error refusal
  | .ok key =>
    match values.operand, values.get? "server" with
    | some file, some server => .ok (.tunnel file server key (values.get? "output"))
    | _, _ => .error .usage

namespace CommandName

def command (name : CommandName) (values : Values) (keyFromEnvironment : Option String) :
    Except Refusal Command :=
  match name with
  | .write =>
    .ok (.write (values.get? "file") (name.transportOf values) (values.get? "ip")
      (name.textOf values "kernel-name"))
  | .find =>
    match values.operand with
    | some pattern => .ok (.find pattern (values.allOf "path"))
    | none => .error .usage
  | .describe =>
    match values.operand with
    | some file => .ok (.describe file)
    | none => .error .usage
  | .tunnel => tunnelOf values keyFromEnvironment
  | .prepare =>
    .ok (.prepare (kernelIds values) (values.get? "dir") (name.transportOf values)
      (name.textOf values "display-name"))
  | .provisioners => .ok .provisioners

def named? (text : String) : Option CommandName := all.find? (fun name => decide (name.text = text))

end CommandName

/-- What an argument list asks for, if it names no command to run. -/
inductive Rejection
  | usage (name : Option CommandName)
  | help (name : Option CommandName)
  deriving DecidableEq, Repr

def Rejection.of (name : Option CommandName) : Refusal → Rejection
  | .usage => .usage name
  | .help => .help name

def parseHelp : List String → Rejection
  | [] => .help none
  | [text] =>
    match CommandName.named? text with
    | some name => .help (some name)
    | none => .usage none
  | _ => .usage none

def readCommand (name : CommandName) (arguments : List String) (keyFromEnvironment : Option String) :
    Except Refusal Command :=
  match name.form.read arguments {} with
  | .error refusal => .error refusal
  | .ok values => name.command values keyFromEnvironment

def Command.parse (arguments : List String) (keyFromEnvironment : Option String) :
    Except Rejection Command :=
  match arguments with
  | [] => .error (.usage none)
  | first :: rest =>
    match CommandName.named? first with
    | some name =>
      (readCommand name rest keyFromEnvironment).mapError (Rejection.of (some name))
    | none =>
      .error
        (if first = "help" then parseHelp rest
          else if first = "--help" || isShortHelp first then .help none
          else .usage none)

end Mooring.CommandLine
