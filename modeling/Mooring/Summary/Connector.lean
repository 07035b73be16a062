import Mooring.Summary.Connection
import Mooring.Connector.Calls

/-! Summaries of provisioners, of connectors and of what they tell, as JSON. -/

namespace Mooring.Summary

open Json (Value)

def provisioning (defaultName : String) (spec : KernelSpec) : Value :=
  .object
    [("json", .text spec.toValue.compact), ("stanza", optional .object spec.stanza?),
      ("provisioner", .text (ProvisionerChoice.ofSpec spec defaultName).toValue.compact)]

def listing (registry : Registry) : Value :=
  .object (registry.listing.map (fun row => (row.1, .text row.2)))

def discovery (discovery : Discovery) (names : List String) : Value :=
  .object
    [("all", .list (discovery.all.map (fun entry => texts [entry.name, entry.locator]))),
      ("single",
        .list (names.map (fun name =>
          optional .text ((discovery.single name).map ProvisionerEntry.inspect)))),
      ("sources", texts discovery.sources)]

def provisioner (claims : PortClaims) (provisioner : Provisioner) : Json.Members :=
  [("name", .text provisioner.name), ("kernel_id", .text provisioner.kernelId),
    ("display_name", .text provisioner.spec.displayName),
    ("config", .text (Value.object provisioner.config).compact),
    ("claimed_count", .natural claims.count), ("info", optional snapshot provisioner.info)]

def connector (world : World) (index : Nat) : Value :=
  let ids := world.ids index
  let claims := (world.connector? index).map (fun connector => world.claimsOf connector.claims)
  .object
    [("ids", texts ids), ("len", .natural ids.length), ("empty", .boolean ids.isEmpty),
      ("claimed", .natural ((claims.map PortClaims.count).getD 0))]

/-- Calls that got no answer have none to show. -/
def reply : Reply → Value
  | .done value => outcome value
  | .text value => result .text value
  | .flag value => .boolean value
  | .names values => texts values
  | .snapshot value => result snapshot value
  | .socket value => result socket value
  | .stuck => .null
  | .refused => .null
  | .absent => .null

def answerRow (row : String × Reply) : String × Value :=
  match row with
  | ("len", .names values) => ("len", .natural values.length)
  | (name, value) => (name, reply value)

def event : Event → Value
  | .constructed name id config cachePorts =>
    .list
      [.text "construct", .text name, .text id, .text (Value.object config).compact,
        .boolean cachePorts]
  | .launching id => texts ["pre_launch", id]
  | .cleaning id restart => .list [.text "cleanup", .text id, .boolean restart]
  | .answers rows => .object (rows.map answerRow)

end Mooring.Summary
