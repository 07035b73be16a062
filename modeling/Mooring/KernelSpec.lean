import Mooring.Error
import Mooring.Json.Record

/-! What a kernel is and how it wants to be provisioned. Only its display name and its metadata
matter here; all else is kept for whoever starts the kernel. -/

namespace Mooring

open Json (Fault Reader mapResult)

structure KernelSpec where
  argv : List String := []
  displayName : String := ""
  language : String := ""
  env : List (String × String) := []
  metadata : Json.Members := []
  interruptMode : Option String := none
  deriving Inhabited

namespace KernelSpec

def toValue (spec : KernelSpec) : Json.Value :=
  .object
    ([("argv", .list (spec.argv.map .text)), ("display_name", .text spec.displayName),
        ("language", .text spec.language)]
      ++ (if spec.env.isEmpty then []
        else [("env", .object (spec.env.map (fun row => (row.1, .text row.2))))])
      ++ (if spec.metadata.isEmpty then [] else [("metadata", .object spec.metadata)])
      ++ (match spec.interruptMode with
        | none => []
        | some mode => [("interrupt_mode", .text mode)]))

inductive Field
  | argv
  | displayName
  | language
  | env
  | metadata
  | interruptMode
  deriving DecidableEq, Repr

namespace Field

def all : List Field := [.argv, .displayName, .language, .env, .metadata, .interruptMode]

def name : Field → String
  | .argv => "argv"
  | .displayName => "display_name"
  | .language => "language"
  | .env => "env"
  | .metadata => "metadata"
  | .interruptMode => "interrupt_mode"

def reader : Field → Reader (KernelSpec → KernelSpec)
  | .argv => fun text =>
    mapResult (fun argv spec => { spec with argv := argv }) (Json.readStrings text)
  | .displayName => fun text =>
    mapResult (fun name spec => { spec with displayName := name }) (Json.readString text)
  | .language => fun text =>
    mapResult (fun language spec => { spec with language := language }) (Json.readString text)
  | .env => fun text =>
    mapResult (fun env spec => { spec with env := env }) (Json.readMap Json.readString text)
  | .metadata => fun text =>
    mapResult (fun metadata spec => { spec with metadata := metadata })
      (Json.readMap (Json.readValue (text.length + 1) (Json.depthLimit - 2)) text)
  | .interruptMode => fun text =>
    mapResult (fun mode spec => { spec with interruptMode := mode })
      (Json.readOptional Json.readString text)

end Field

def title : String := "struct KernelSpec"

def record : Json.Record Field KernelSpec where
  title := title
  fields := Field.all
  nameOf := Field.name
  reader := Field.reader

def finish (isList : Bool) (seen : List Field) (spec : KernelSpec) : Except Fault KernelSpec :=
  if Field.displayName ∈ seen then .ok spec
  else if isList then .error (.invalidLength 1 (title ++ " with 6 elements"))
  else .error (.missingField Field.displayName.name)

def read : Reader KernelSpec :=
  record.read {} (fun isList progress => finish isList progress.seen progress.state)

def parse (text : String) : Except Fault KernelSpec := Json.readEnd (read text.toList)

def stringOf : Json.Value → Except Fault String
  | .text text => .ok text
  | value => .error (.invalidType value.description "a string")

def stringsOf : Json.Value → Except Fault (List String)
  | .list items => items.mapM stringOf
  | value => .error (.invalidType value.description "a sequence")

def membersOf : Json.Value → Except Fault Json.Members
  | .object members => .ok members
  | value => .error (.invalidType value.description "a map")

def envOf (value : Json.Value) : Except Fault (List (String × String)) :=
  match membersOf value with
  | .error fault => .error fault
  | .ok members =>
    members.mapM (fun member => (stringOf member.2).map (fun text => (member.1, text)))

def modeOf : Json.Value → Except Fault (Option String)
  | .null => .ok none
  | value => (stringOf value).map some

def Field.take (field : Field) (value : Json.Value) (spec : KernelSpec) : Except Fault KernelSpec :=
  match field with
  | .argv => (stringsOf value).map (fun argv => { spec with argv := argv })
  | .displayName => (stringOf value).map (fun name => { spec with displayName := name })
  | .language => (stringOf value).map (fun language => { spec with language := language })
  | .env => (envOf value).map (fun env => { spec with env := env })
  | .metadata => (membersOf value).map (fun metadata => { spec with metadata := metadata })
  | .interruptMode => (modeOf value).map (fun mode => { spec with interruptMode := mode })

def takeFields (pairs : List (Field × Json.Value)) : Except Fault KernelSpec :=
  pairs.foldlM (fun spec pair => pair.1.take pair.2 spec) {}

/-- A spec from a value that was read before. The members of an object come in the order of their
names; a list may not be longer than there are fields. -/
def ofValue (value : Json.Value) : Except Fault KernelSpec :=
  match value with
  | .object members =>
    let pairs := members.filterMap (fun member =>
      (record.fieldNamed? member.1).map (fun field => (field, member.2)))
    match takeFields pairs with
    | .error fault => .error fault
    | .ok spec => finish false (pairs.map Prod.fst) spec
  | .list items =>
    let pairs := Field.all.zip items
    match takeFields pairs with
    | .error fault => .error fault
    | .ok spec =>
      match finish true (pairs.map Prod.fst) spec with
      | .error fault => .error fault
      | .ok spec =>
        if Field.all.length < items.length then
          .error (.invalidLength items.length "fewer elements in array")
        else .ok spec
  | other => .error (.invalidType other.description title)

def stanzaKey : String := "kernel_provisioner"

def stanza? (spec : KernelSpec) : Option Json.Members :=
  (Json.Members.get? spec.metadata stanzaKey).bind Json.Value.members?

def withProvisioner (spec : KernelSpec) (name : String) (config : Option Json.Members) : KernelSpec :=
  let named : Json.Members := [("provisioner_name", .text name)]
  let stanza := match config with
    | none => named
    | some config => ("config", .object config) :: named
  { spec with metadata := Json.insertByName stanzaKey (.object stanza) spec.metadata }

end KernelSpec

structure ProvisionerChoice where
  name : String
  config : Json.Members := []
  deriving Inhabited

namespace ProvisionerChoice

/-- A stanza without a usable name chooses the default provisioner without options. -/
def ofSpec (spec : KernelSpec) (defaultName : String) : ProvisionerChoice :=
  match spec.stanza? with
  | none => ⟨defaultName, []⟩
  | some stanza =>
    match (Json.Members.get? stanza "provisioner_name").bind Json.Value.text? with
    | none => ⟨defaultName, []⟩
    | some name =>
      ⟨name, ((Json.Members.get? stanza "config").bind Json.Value.members?).getD []⟩

def toValue (choice : ProvisionerChoice) : Json.Value :=
  .object [("name", .text choice.name), ("config", .object choice.config)]

end ProvisionerChoice
end Mooring
