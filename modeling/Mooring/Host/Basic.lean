import Mooring.Table
import Mooring.Host.FileTree
import Mooring.Host.Address

/-! The machine that connections live on, as a value: its files, environment, network and sources of
fresh names, and the faults that its disk will answer with. Every request takes a host and gives
the host after it. -/

namespace Mooring

namespace Host

abbrev PortAnswer := Except Fault UInt16

/-- Faults of the disk. Creating a file or a directory, restricting a file to its owner, filling it and
flushing it can each fail on their own. Removing cannot: a file that can be reached can be unlinked. -/
structure Disk where
  creation : Option Fault := none
  restriction : Option Fault := none
  forcedMode : Option Nat := none
  capacity : Option (Nat × Fault) := none
  flush : Option Fault := none

/-- Which addresses a socket can be bound to, which names have an address, which servers answer on a
port, and on which ports a socket cannot listen. -/
structure Network where
  bindFault : Address → Option Fault
  lookup : String → Except Fault Address
  connectFault : String → UInt16 → Option Fault
  listenFault : Address → UInt16 → Option Fault := fun _ _ => none

end Host

structure Host where
  files : Host.FileTree
  workDir : Host.Place
  environment : Table String String
  network : Host.Network
  uuidAt : Nat → String
  tempNameAt : Nat → String
  accountHome : Option String := none
  ports : List Host.PortAnswer
  disk : Host.Disk := {}
  drawn : Nat := 0
  now : Int := 2000000000

namespace Host

def env? (host : Host) (name : String) : Option String := host.environment.get? name

def drawUuid (host : Host) : String × Host :=
  (host.uuidAt host.drawn, { host with drawn := host.drawn + 1 })

def drawTempName (host : Host) : String × Host :=
  (host.tempNameAt host.drawn, { host with drawn := host.drawn + 1 })

def workDirText (host : Host) : String := Place.text host.workDir

def home? (host : Host) : Option String :=
  match (host.env? "HOME").filter (fun path => !path.isEmpty) with
  | some home => some home
  | none => host.accountHome

def tempDir (host : Host) : String := (host.env? "TMPDIR").getD "/tmp"

end Host
end Mooring
