import Mooring.Transport

/-! The forms that command lines can take. A form lists the options of one command and what may
stand beside them; an argument list is read against it from left to right. -/

namespace Mooring.CommandLine

inductive Refusal
  | usage
  | help
  deriving DecidableEq, Repr

inductive ValueKind
  | text
  | path
  | transport
  | count
  deriving DecidableEq, Repr

namespace ValueKind

def countLimit : Nat := UInt64.size

def readCount (text : String) : Option Nat :=
  (Text.natural? text.toList).filter (fun count => decide (count < countLimit))

def accepts (kind : ValueKind) (value : String) : Bool :=
  match kind with
  | .text => true
  | .path => !value.isEmpty
  | .transport => (Transport.parse value).toBool
  | .count => (readCount value).isSome

end ValueKind

structure OptionForm where
  name : String
  valueName : String
  kind : ValueKind
  about : String := ""
  repeats : Bool := false
  isRequired : Bool := false
  fallback : Option String := none
  variableName : Option String := none
  deriving DecidableEq, Repr

structure OperandForm where
  valueName : String
  kind : ValueKind
  deriving DecidableEq, Repr

structure Form where
  about : String
  options : List OptionForm := []
  operand : Option OperandForm := none
  deriving DecidableEq, Repr

structure Values where
  options : List (String × String) := []
  operand : Option String := none
  deriving DecidableEq, Repr

namespace Values

def allOf (values : Values) (name : String) : List String :=
  (values.options.filter (fun given => decide (given.1 = name))).map Prod.snd

def get? (values : Values) (name : String) : Option String := (values.allOf name).head?

end Values

def isDashed (argument : String) : Bool :=
  match argument.toList with
  | '-' :: _ :: _ => true
  | _ => false

def longOption? (argument : String) : Option (String × Option String) :=
  match argument.toList with
  | '-' :: '-' :: rest =>
    match rest.dropWhile (· ≠ '=') with
    | _ :: value => some (String.ofList (rest.takeWhile (· ≠ '=')), some (String.ofList value))
    | [] => some (String.ofList rest, none)
  | _ => none

def isShortHelp (argument : String) : Bool :=
  match argument.toList with
  | '-' :: 'h' :: _ => true
  | _ => false

namespace Form

def addOption (form : Form) (values : Values) (name value : String) : Except Refusal Values :=
  match form.options.find? (fun option => decide (option.name = name)) with
  | none => .error .usage
  | some option =>
    if !option.kind.accepts value || (!option.repeats && (values.get? name).isSome) then
      .error .usage
    else .ok { values with options := values.options ++ [(name, value)] }

def addOperand (form : Form) (values : Values) (value : String) : Except Refusal Values :=
  match form.operand, values.operand with
  | some operand, none =>
    if operand.kind.accepts value then .ok { values with operand := some value } else .error .usage
  | _, _ => .error .usage

def readOperands (form : Form) : List String → Values → Except Refusal Values
  | [], values => .ok values
  | argument :: rest, values =>
    match form.addOperand values argument with
    | .error refusal => .error refusal
    | .ok values => form.readOperands rest values

/-- Reads arguments until the first that is refused or asks for help. The value of an option is
attached to its name, or is the next argument unless that looks like an option. -/
def read (form : Form) : List String → Values → Except Refusal Values
  | [], values => .ok values
  | argument :: rest, values =>
    if argument = "--" then form.readOperands rest values
    else if isShortHelp argument then .error .help
    else if argument = "--help" then .error .help
    else
      match longOption? argument with
      | some (name, some value) =>
        match form.addOption values name value with
        | .error refusal => .error refusal
        | .ok values => form.read rest values
      | some (name, none) =>
        match rest with
        | [] => .error .usage
        | value :: rest =>
          if isDashed value then .error .usage
          else
            match form.addOption values name value with
            | .error refusal => .error refusal
            | .ok values => form.read rest values
      | none =>
        if isDashed argument then .error .usage
        else
          match form.addOperand values argument with
          | .error refusal => .error refusal
          | .ok values => form.read rest values

end Form
end Mooring.CommandLine
