import Mooring.Proofs.Files.SocketPaths

/-! Endpoints and the texts that name them. A url tells how a channel is carried, the address and the port, and the path
of a socket file tells the address and the index, whatever characters the address is made of. -/

namespace Mooring

def Transport.separator : Transport → Char
  | .tcp => ':'
  | .ipc => '-'

theorem Transport.separator_no_digit (transport : Transport) : transport.separator.isDigit = false := by
  cases transport <;> decide

namespace Credentials

theorem toList_urlOf (transport : Transport) (ip : String) (port : UInt16) :
    (urlOf transport ip port).toList =
      transport.name.toList ++ "://".toList ++ ip.toList ++ transport.separator :: (toString port.toNat).toList := by
  cases transport with
  | tcp => simp [urlOf, Transport.name, Transport.separator]
  | ipc => simp [urlOf, Transport.name, Transport.separator]

theorem transport_of_urlOf_eq {transport other : Transport} {ip otherIp : String} {port otherPort : UInt16}
    (same : urlOf transport ip port = urlOf other otherIp otherPort) : transport = other := by
  have heads := congrArg (fun url => url.toList.head?) same
  simp only [toList_urlOf] at heads
  cases transport <;> cases other <;> first | rfl | (simp [Transport.name] at heads)

theorem urlOf_eq_iff (transport other : Transport) (ip otherIp : String) (port otherPort : UInt16) :
    urlOf transport ip port = urlOf other otherIp otherPort ↔ transport = other ∧ ip = otherIp ∧ port = otherPort := by
  constructor
  · intro same
    obtain rfl := transport_of_urlOf_eq same
    have clear (port : UInt16) : transport.separator ∉ (toString port.toNat).toList :=
      not_mem_index transport.separator_no_digit port
    have lists := congrArg String.toList same
    rw [toList_urlOf, toList_urlOf] at lists
    obtain ⟨fronts, digits⟩ := eq_of_separator_eq (clear port) (clear otherPort) lists
    have ips : ip.toList = otherIp.toList := List.append_cancel_left fronts
    exact ⟨rfl, String.toList_inj.mp ips, index_injective digits⟩
  · rintro ⟨rfl, rfl, rfl⟩
    rfl

/-- Two channels have one url exactly if they are carried alike, at one address and one port, and one path exactly if
address and port are the same. -/
theorem endpoints_told_apart (one two : Credentials) (channel other : Channel) :
    (one.url channel = two.url other ↔
      one.transport = two.transport ∧ one.ip = two.ip ∧ one.ports.get channel = two.ports.get other) ∧
    (one.ipcPath channel = two.ipcPath other ↔ one.ip = two.ip ∧ one.ports.get channel = two.ports.get other) :=
  ⟨urlOf_eq_iff .., socketPath_eq_iff ..⟩

/-- An address may end like one address with a port. -/
example : urlOf .tcp "::1" 22 ≠ urlOf .tcp ":" 122 ∧ socketPath "k-1" 2 ≠ socketPath "k" 12 := by decide

end Credentials
end Mooring
