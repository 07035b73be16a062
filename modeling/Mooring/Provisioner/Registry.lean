import Mooring.Provisioner.Hook
import Mooring.Text.Blank

/-! Which provisioners there are. A registry is filled from a discovery when it is made; a name that
it lacks is looked up once more, and kept when it is found. -/

namespace Mooring

def localProvisionerName : String := "local-provisioner"

inductive ProvisionerMaker
  | builtin
  | plugin (plugin : Plugin)

structure ProvisionerEntry where
  name : String
  module : String
  object : String
  maker : ProvisionerMaker

namespace ProvisionerEntry

def locator (entry : ProvisionerEntry) : String := entry.module ++ ":" ++ entry.object

def local_ : ProvisionerEntry :=
  ⟨localProvisionerName, "kconnect_provisioning", "LocalProvisioner", .builtin⟩

def inspect (entry : ProvisionerEntry) : String :=
  Text.record "ProvisionerEntry"
    [("name", Text.quoted entry.name), ("locator", Text.quoted entry.locator)] true

def append (entries : List ProvisionerEntry) (entry : ProvisionerEntry) : List ProvisionerEntry :=
  entries.filter (fun other => decide (other.name ≠ entry.name)) ++ [entry]

def named? (entries : List ProvisionerEntry) (name : String) : Option ProvisionerEntry :=
  entries.find? (fun entry => decide (entry.name = name))

end ProvisionerEntry

/-- What is installed: everything that is advertised, and the answer for one name. -/
structure Discovery where
  all : List ProvisionerEntry
  single : String → Option ProvisionerEntry
  sources : List String := []

namespace Discovery

def ofEntries (entries : List ProvisionerEntry) (sources : List String) : Discovery :=
  ⟨entries, ProvisionerEntry.named? entries, sources⟩

def builtin : Discovery := ofEntries [.local_] []

/-- Entries that are found by name but not advertised come first. -/
def withLate (discovery : Discovery) (late : List ProvisionerEntry) : Discovery :=
  { discovery with
    single := fun name => (ProvisionerEntry.named? late name).orElse (fun _ => discovery.single name) }

end Discovery

structure Registry where
  defaultName : String
  discovery : Discovery
  entries : Table String ProvisionerEntry

namespace Registry

def defaultVariable : String := "KCONNECT_DEFAULT_PROVISIONER"

def defaultNameFrom (value : Option String) : String :=
  match (value.map Text.trim).filter (fun name => !name.isEmpty) with
  | some name => name
  | none => localProvisionerName

def ofDiscovery (defaultName : String) (discovery : Discovery) : Registry :=
  ⟨defaultName, discovery,
    Table.ofList (discovery.all.map (fun entry => (entry.name, entry)))⟩

def withBuiltins (host : Host) : Registry :=
  ofDiscovery (defaultNameFrom (host.env? defaultVariable)) Discovery.builtin

def listing (registry : Registry) : List (String × String) :=
  (registry.entries.rows.map (fun row => (row.1, row.2.locator))).mergeSort
    (fun a b => decide (a.1 ≤ b.1))

/-- What a look-up finds, given the answer of the discovery. The local provisioner is never lost. -/
def lookup (name : String) (answer : Option ProvisionerEntry) : Option ProvisionerEntry :=
  match answer with
  | some entry => some entry
  | none => if name = localProvisionerName then some .local_ else none

/-- Keeps an entry unless the name has one by now, and gives the one that stands. -/
def insertIfAbsent (registry : Registry) (name : String) (entry : ProvisionerEntry) :
    ProvisionerEntry × Registry :=
  match registry.entries.get? name with
  | some standing => (standing, registry)
  | none => (entry, { registry with entries := registry.entries.set name entry })

def resolve (registry : Registry) (name : String) : Option ProvisionerEntry × Registry :=
  match registry.entries.get? name with
  | some entry => (some entry, registry)
  | none =>
    match lookup name (registry.discovery.single name) with
    | none => (none, registry)
    | some entry =>
      let (standing, registry) := registry.insertIfAbsent name entry
      (some standing, registry)

def choice (registry : Registry) (spec : KernelSpec) : ProvisionerChoice :=
  ProvisionerChoice.ofSpec spec registry.defaultName

def isAvailable (registry : Registry) (spec : KernelSpec) : Bool × Registry :=
  let (entry, registry) := registry.resolve (registry.choice spec).name
  (entry.isSome, registry)

def inspect (registry : Registry) : String :=
  let row (entry : String × String) : String := Text.quoted entry.1 ++ ": " ++ Text.quoted entry.2
  Text.record "ProvisionerFactory"
    [("config",
        Text.record "ProvisionerFactoryConfig"
          [("default_provisioner_name", Text.quoted registry.defaultName)] false),
      ("provisioners",
        "\x7b" ++ String.intercalate ", " (registry.listing.map row) ++ "\x7d")]
    true

end Registry
end Mooring
