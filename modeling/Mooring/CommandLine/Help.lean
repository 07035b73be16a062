import Mooring.CommandLine.Command

/-! Help texts. A table of names and what they mean follows the line that shows how a command is
used; the meanings start in one column. -/

namespace Mooring.CommandLine

def programName : String := "kconnect"

def programAbout : String := "Kernel connection files, lookups, and SSH tunnels"

def inAngles (name : String) : String := "<" ++ name ++ ">"

namespace OptionForm

def signature (option : OptionForm) : String :=
  "--" ++ option.name ++ " " ++ inAngles option.valueName

def notes (option : OptionForm) (variableValue : Option String) : String :=
  let source (name : String) : String := "[env: " ++ name ++ "=" ++ variableValue.getD "" ++ "]"
  let fallback (value : String) : String := "[default: " ++ value ++ "]"
  String.intercalate " "
    ([option.about].filter (fun about => !about.isEmpty)
      ++ (option.variableName.map source).toList ++ (option.fallback.map fallback).toList)

end OptionForm

def tableLines (rows : List (String × String)) : List String :=
  let width := (rows.map (fun row => row.1.length)).foldl max 0
  let pad (text : String) : String := text ++ String.ofList (List.replicate (width - text.length) ' ')
  rows.map (fun row => "  " ++ pad row.1 ++ "  " ++ row.2)

def section_ (title : String) (rows : List (String × String)) : List String :=
  if rows.isEmpty then [] else "" :: title :: tableLines rows

def helpRow : String × String := ("-h, --help", "Print help")

def Form.usageWords (form : Form) : List String :=
  let required := form.options.filter OptionForm.isRequired
  (if required.length < form.options.length then ["[OPTIONS]"] else [])
    ++ required.map OptionForm.signature
    ++ (form.operand.map (fun operand => inAngles operand.valueName)).toList

def usageLine (name : Option CommandName) : String :=
  let words := match name with
    | none => [inAngles "COMMAND"]
    | some name => name.text :: name.form.usageWords
  "Usage: " ++ String.intercalate " " (programName :: words)

def commandRows : List (String × String) :=
  CommandName.all.map (fun name => (name.text, name.form.about))
    ++ [("help", "Print this message or the help of the given subcommand(s)")]

def helpLines (name : Option CommandName) (variableValue : Option String) : List String :=
  match name with
  | none =>
    [programAbout, "", usageLine none] ++ section_ "Commands:" commandRows
      ++ section_ "Options:" [helpRow]
  | some name =>
    let form := name.form
    let operandRow (operand : OperandForm) : String × String := (inAngles operand.valueName, "")
    let optionRow (option : OptionForm) : String × String :=
      ("    " ++ option.signature, option.notes variableValue)
    [form.about, "", usageLine (some name)]
      ++ section_ "Arguments:" (form.operand.map operandRow).toList
      ++ section_ "Options:" (form.options.map optionRow ++ [helpRow])

end Mooring.CommandLine
