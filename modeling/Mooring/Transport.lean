import Mooring.Error

/-! How the channels of a kernel are carried: over network ports, or over socket files of this
machine. -/

namespace Mooring

inductive Transport
  | tcp
  | ipc
  deriving DecidableEq, Repr, Inhabited

namespace Transport

def name : Transport → String
  | .tcp => "tcp"
  | .ipc => "ipc"

def parse (text : String) : Except Error Transport :=
  let lowered := Text.lowerAscii text
  if lowered = "tcp" then .ok .tcp
  else if lowered = "ipc" then .ok .ipc
  else .error (.invalidTransport lowered)

def inspect : Transport → String
  | .tcp => "Tcp"
  | .ipc => "Ipc"

end Transport
end Mooring
