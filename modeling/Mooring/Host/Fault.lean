import Mooring.Text.Quoted

/-! What the operating system answers when it refuses a request, and the text that a user sees. -/

namespace Mooring.Host

inductive Fault
  | system (code : Nat)
  | nulByte
  | notUtf8
  | noWholeTree
  | unresolved
  | reported (text : String)
  | placed (fault : Fault) (path : String)
  deriving DecidableEq, Repr, Inhabited

namespace Fault

def notFound : Fault := .system 2

def exists_ : Fault := .system 17

def notDirectory : Fault := .system 20

def isDirectory : Fault := .system 21

def invalidArgument : Fault := .system 22

def tooLarge : Fault := .system 27

def nameTooLong : Fault := .system 36

def tooManyLinks : Fault := .system 40

def addressInUse : Fault := .system 98

def addressNotAvailable : Fault := .system 99

def networkUnreachable : Fault := .system 101

def systemTexts : List (Nat × String) :=
  [(1, "Operation not permitted"), (2, "No such file or directory"), (5, "Input/output error"),
    (13, "Permission denied"), (16, "Device or resource busy"), (17, "File exists"),
    (20, "Not a directory"), (21, "Is a directory"), (22, "Invalid argument"),
    (24, "Too many open files"), (27, "File too large"), (28, "No space left on device"),
    (30, "Read-only file system"), (36, "File name too long"), (39, "Directory not empty"),
    (40, "Too many levels of symbolic links"), (97, "Address family not supported by protocol"),
    (98, "Address already in use"), (99, "Cannot assign requested address"),
    (101, "Network is unreachable"), (111, "Connection refused")]

def systemText (code : Nat) : String :=
  match systemTexts.find? (fun row => decide (row.1 = code)) with
  | some row => row.2
  | none => "Unknown error " ++ toString code

def message : Fault → String
  | .system code => systemText code ++ " (os error " ++ toString code ++ ")"
  | .nulByte => "file name contained an unexpected NUL byte"
  | .notUtf8 => "stream did not contain valid UTF-8"
  | .noWholeTree => "failed to create whole tree"
  | .unresolved => "failed to lookup address information: Temporary failure in name resolution"
  | .reported text => text
  | .placed fault path => fault.message ++ " at path " ++ Text.quotedPath path

end Fault
end Mooring.Host
