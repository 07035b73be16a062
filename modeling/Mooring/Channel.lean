import Mooring.Error

/-! The five channels between a client and a kernel, and values kept for each of them. -/

namespace Mooring

inductive Channel
  | shell
  | iopub
  | stdin
  | heartbeat
  | control
  deriving DecidableEq, Repr, Inhabited

namespace Channel

def all : List Channel := [.shell, .stdin, .iopub, .heartbeat, .control]

/-- The order in which fresh ports are given out, and in which connection files list ports. -/
def allocationOrder : List Channel := [.shell, .iopub, .stdin, .control, .heartbeat]

def tunnelOrder : List Channel := [.shell, .iopub, .stdin, .heartbeat, .control]

def name : Channel → String
  | .shell => "shell"
  | .iopub => "iopub"
  | .stdin => "stdin"
  | .heartbeat => "hb"
  | .control => "control"

def portKey (channel : Channel) : String := channel.name ++ "_port"

def parse (text : String) : Except Error Channel :=
  if text = "heartbeat" then .ok .heartbeat
  else
    match all.find? (fun channel => decide (channel.name = text)) with
    | some channel => .ok channel
    | none => .error (.invalidState ("unknown channel " ++ text))

def inspect : Channel → String
  | .shell => "Shell"
  | .iopub => "Iopub"
  | .stdin => "Stdin"
  | .heartbeat => "Hb"
  | .control => "Control"

theorem mem_all (channel : Channel) : channel ∈ all := by cases channel <;> decide

theorem mem_allocationOrder (channel : Channel) : channel ∈ allocationOrder := by
  cases channel <;> decide

end Channel

structure PerChannel (α : Type) where
  shell : α
  iopub : α
  stdin : α
  control : α
  heartbeat : α
  deriving DecidableEq, Repr, Inhabited

namespace PerChannel
variable {α β : Type}

def get (values : PerChannel α) : Channel → α
  | .shell => values.shell
  | .iopub => values.iopub
  | .stdin => values.stdin
  | .heartbeat => values.heartbeat
  | .control => values.control

def set (values : PerChannel α) (channel : Channel) (value : α) : PerChannel α :=
  match channel with
  | .shell => { values with shell := value }
  | .iopub => { values with iopub := value }
  | .stdin => { values with stdin := value }
  | .heartbeat => { values with heartbeat := value }
  | .control => { values with control := value }

def ofFn (f : Channel → α) : PerChannel α :=
  ⟨f .shell, f .iopub, f .stdin, f .control, f .heartbeat⟩

def map (f : α → β) (values : PerChannel α) : PerChannel β := ofFn (fun channel => f (values.get channel))

@[simp] theorem get_ofFn (f : Channel → α) (channel : Channel) : (ofFn f).get channel = f channel := by
  cases channel <;> rfl

theorem get_set_self (values : PerChannel α) (channel : Channel) (value : α) :
    (values.set channel value).get channel = value := by cases channel <;> rfl

theorem get_set_of_ne (values : PerChannel α) {channel other : Channel} (value : α)
    (h : other ≠ channel) : (values.set channel value).get other = values.get other := by
  cases channel <;> cases other <;> simp_all [set, get]

theorem ext_get {a b : PerChannel α} (h : ∀ channel, a.get channel = b.get channel) : a = b := by
  cases a
  cases b
  simp only [PerChannel.mk.injEq]
  exact ⟨h .shell, h .iopub, h .stdin, h .control, h .heartbeat⟩

end PerChannel

/-- Port numbers. For socket files they are the indexes at the end of the paths. -/
abbrev Ports := PerChannel UInt16

namespace Ports

/-- Zero stands for a port that is still to be chosen. -/
def unset : Ports := PerChannel.ofFn (fun _ => 0)

/-- Channels without a port, in the order in which ports are given out. -/
def unsetChannels (ports : Ports) : List Channel :=
  Channel.allocationOrder.filter (fun channel => decide (ports.get channel = 0))

def isComplete (ports : Ports) : Bool := Channel.all.all (fun channel => decide (ports.get channel ≠ 0))

def values (ports : Ports) : List UInt16 := Channel.all.map ports.get

def isDistinct (ports : Ports) : Bool := decide ports.values.Nodup

def assign (ports : Ports) (channels : List Channel) (values : List UInt16) : Ports :=
  (channels.zip values).foldl (fun ports pair => ports.set pair.1 pair.2) ports

def inspect (ports : Ports) : String :=
  Text.record "ChannelPorts"
    (Channel.allocationOrder.map (fun channel => (channel.name, toString (ports.get channel).toNat)))
    false

end Ports
end Mooring
