import Mathlib.Data.List.Nodup
import Mooring.Host.Isolated
import Mooring.Proofs.ConnectionFile.Validity
import Mooring.Ssh.Tunnel

/-! Where the local ports of a tunnel lead. A tunnel, the plan it is opened by and the ports it has listened on list
the channels in one order, so that what the local credentials say of a channel is what the plan says. -/

namespace Mooring

theorem Channel.mem_tunnelOrder (channel : Channel) : channel ∈ tunnelOrder := by cases channel <;> decide

theorem Channel.nodup_tunnelOrder : tunnelOrder.Nodup := by decide

theorem Credentials.urlOf_eq_tcp_iff (transport : Transport) (ip : String) (port : UInt16) :
    urlOf transport ip port = "tcp://" ++ ip ++ ":" ++ toString port.toNat ↔ transport = .tcp := by
  cases transport with
  | tcp => exact iff_of_true rfl rfl
  | ipc =>
    refine iff_of_false (fun same => ?_) nofun
    have heads := congrArg (fun url => url.toList.head?) same
    simp [urlOf] at heads

namespace Ssh

namespace Tunnel

def addedAll (tunnel : Tunnel) (plan : List Forward) : Tunnel :=
  { tunnel with
    ports := plan.foldl (fun ports forward => ports.set forward.channel forward.localPort) tunnel.ports
    forwards := tunnel.forwards ++ plan }

theorem addedAll_cons (tunnel : Tunnel) (forward : Forward) (rest : List Forward) :
    (tunnel.addedAll [forward]).addedAll rest = tunnel.addedAll (forward :: rest) := by
  simp [addedAll]

theorem add_eq_ok {host : Host} {tunnel after : Tunnel} {forward : Forward} :
    tunnel.add host forward = .ok after ↔
      host.listen localhost forward.localPort = .ok () ∧ after = tunnel.addedAll [forward] := by
  rw [add]
  cases host.listen localhost forward.localPort with
  | error fault => simp
  | ok => simp [addedAll, eq_comm]

theorem foldlM_add_eq_ok {host : Host} {tunnel after : Tunnel} {plan : List Forward} :
    plan.foldlM (add host) tunnel = .ok after ↔
      (∀ forward ∈ plan, host.listen localhost forward.localPort = .ok ()) ∧ after = tunnel.addedAll plan := by
  induction plan generalizing tunnel with
  | nil => simp [addedAll, pure, Except.pure, eq_comm]
  | cons forward rest ih =>
    rw [List.foldlM_cons, List.forall_mem_cons]
    cases first : tunnel.add host forward with
    | error error =>
      have silent : ¬ host.listen localhost forward.localPort = .ok () := fun listens =>
        nomatch first.symm.trans (add_eq_ok.mpr ⟨listens, rfl⟩)
      exact iff_of_false nofun (fun all => silent all.1.1)
    | ok middle =>
      obtain ⟨listens, rfl⟩ := add_eq_ok.mp first
      refine ih.trans ?_
      rw [and_iff_right listens, addedAll_cons]

end Tunnel

theorem forwardPlan_channels (remote : Credentials) {localPorts : List UInt16} (five : localPorts.length = 5) :
    (forwardPlan remote localPorts).map Forward.channel = Channel.tunnelOrder := by
  rw [forwardPlan, List.map_map]
  exact List.map_fst_zip (Nat.le_of_eq five.symm)

theorem forwardPlan_localPorts (remote : Credentials) {localPorts : List UInt16} (five : localPorts.length = 5) :
    (forwardPlan remote localPorts).map Forward.localPort = localPorts := by
  rw [forwardPlan, List.map_map]
  exact List.map_snd_zip (Nat.le_of_eq five)

/-- A tunnel listens on all of its local ports, and with them it has what its plan says. -/
theorem establish_eq_ok {host : Host} {remote : Credentials} {target : Target} {localPorts : List UInt16}
    (five : localPorts.length = 5) {tunnel : Tunnel} :
    establish host remote target localPorts = .ok tunnel ↔
      (∀ port ∈ localPorts, host.listen localhost port = .ok ()) ∧
        tunnel = ⟨target, remote.ip, Ports.unset.assign Channel.tunnelOrder localPorts,
          forwardPlan remote localPorts⟩ := by
  refine Tunnel.foldlM_add_eq_ok.trans (and_congr ?_ ?_)
  · rw [← List.forall_mem_map (P := fun port => host.listen localhost port = .ok ()),
      forwardPlan_localPorts remote five]
  · rw [Tunnel.addedAll, List.nil_append, Ports.assign, forwardPlan, List.foldl_map]

theorem openTunnel_eq_ok {source : Source} {text : String} {keyring : Keyring} {password : Except Error String}
    {scene after : Scene} {tunnel : Tunnel}
    (opened : openTunnel source text keyring password scene = (.ok tunnel, after)) :
    ∃ remote target localPorts, source.load scene.host = .ok remote ∧
      (scene.host.freePorts localhost 5).1 = .ok localPorts ∧ localPorts.length = 5 ∧
      establish after.host remote target localPorts = .ok tunnel := by
  unfold openTunnel at opened
  split at opened
  next => cases opened
  next remote loaded =>
    split at opened
    next => cases opened
    next target _ =>
      split at opened
      next => cases opened
      next localPorts host found =>
        unfold connect at opened
        dsimp only at opened
        split at opened
        next => cases opened
        next =>
          obtain ⟨established, rfl⟩ := Prod.mk.inj opened
          exact ⟨remote, target, localPorts, loaded, congrArg Prod.fst found,
            (Host.freePorts_eq_ok found).2, established⟩

theorem get_assign_of_mem_forwardPlan (remote : Credentials) {localPorts : List UInt16} (five : localPorts.length = 5)
    {forward : Forward} (planned : forward ∈ forwardPlan remote localPorts) :
    (Ports.unset.assign Channel.tunnelOrder localPorts).get forward.channel = forward.localPort := by
  have pairs : (forwardPlan remote localPorts).map
      ((Ports.unset.assign Channel.tunnelOrder localPorts).get ∘ Forward.channel) =
        (forwardPlan remote localPorts).map Forward.localPort := by
    rw [← List.map_map, forwardPlan_channels remote five, forwardPlan_localPorts remote five]
    exact Ports.map_get_assign Ports.unset Channel.nodup_tunnelOrder five
  exact List.map_inj_left.mp pairs forward planned

theorem eq_of_mem_forwardPlan {remote : Credentials} {localPorts : List UInt16} {forward : Forward}
    (planned : forward ∈ forwardPlan remote localPorts) :
    forward = ⟨forward.channel, forward.localPort, remote.ip, remote.ports.get forward.channel⟩ := by
  obtain ⟨pair, -, rfl⟩ := List.mem_map.mp planned
  rfl

/-- Through a tunnel, the local credentials lead each channel to the port of the kernel that is for it: its local port
has a forward there, which is the only one of the channel, and the only one from that port where no two local ports are
the same. The URL names that port over `tcp` exactly if the kernel is reached over `tcp`, too; with socket files on the
other side it names a socket file on this one. -/
theorem localInfo_forwards (host : Host) (remote : Credentials) (target : Target) (localPorts : List UInt16)
    (five : localPorts.length = 5) (tunnel : Tunnel)
    (opened : establish host remote target localPorts = .ok tunnel) :
    let info := tunnel.localInfo remote
    info.key = remote.key ∧ info.signatureScheme = remote.signatureScheme ∧ info.kernelName = remote.kernelName ∧
      tunnel.forwards = forwardPlan remote localPorts ∧
      ∀ channel, ∃ port ∈ localPorts,
        let forward : Forward := ⟨channel, port, remote.ip, remote.ports.get channel⟩
        forward ∈ tunnel.forwards ∧
          (∀ other ∈ tunnel.forwards, other.channel = channel → other = forward) ∧
          (localPorts.Nodup → ∀ other ∈ tunnel.forwards, other.localPort = port → other = forward) ∧
          (info.url channel = "tcp://127.0.0.1:" ++ toString port.toNat ↔ remote.transport = .tcp) ∧
          (remote.transport = .ipc → info.url channel = "ipc://127.0.0.1-" ++ toString port.toNat) := by
  obtain ⟨-, rfl⟩ := (establish_eq_ok five).mp opened
  refine ⟨rfl, rfl, rfl, rfl, fun channel => ?_⟩
  have listed : channel ∈ (forwardPlan remote localPorts).map Forward.channel := by
    rw [forwardPlan_channels remote five]
    exact channel.mem_tunnelOrder
  obtain ⟨forward, planned, rfl⟩ := List.mem_map.mp listed
  have isPlanned := eq_of_mem_forwardPlan planned
  have url : ((Tunnel.mk target remote.ip (Ports.unset.assign Channel.tunnelOrder localPorts)
      (forwardPlan remote localPorts)).localInfo remote).url forward.channel =
        Credentials.urlOf remote.transport localhost forward.localPort := by
    rw [← get_assign_of_mem_forwardPlan remote five planned]
    rfl
  refine ⟨forward.localPort, ?_, isPlanned ▸ planned, ?_, ?_, ?_, ?_⟩
  · rw [← forwardPlan_localPorts remote five]
    exact List.mem_map_of_mem planned
  · intro other among same
    rw [← isPlanned]
    have channels : ((forwardPlan remote localPorts).map Forward.channel).Nodup :=
      forwardPlan_channels remote five ▸ Channel.nodup_tunnelOrder
    exact List.inj_on_of_nodup_map channels among planned same
  · intro apart other among same
    rw [← isPlanned]
    have ports : ((forwardPlan remote localPorts).map Forward.localPort).Nodup :=
      (forwardPlan_localPorts remote five).symm ▸ apart
    exact List.inj_on_of_nodup_map ports among planned same
  · rw [url]
    exact Credentials.urlOf_eq_tcp_iff remote.transport localhost forward.localPort
  · intro sockets
    rw [url, sockets]
    rfl

theorem localInfo_forwards_overNetwork :
    let host := Host.Isolated.machine [] []
    let remote : Credentials := { ip := "10.0.0.9", ports := ⟨6001, 6002, 6003, 6004, 6005⟩ }
    let localPorts : List UInt16 := [7001, 7002, 7003, 7004, 7005]
    ∃ tunnel, establish host remote ⟨"alice", "example", 22⟩ localPorts = .ok tunnel ∧
      ∀ channel, ∃ port ∈ localPorts,
        ⟨channel, port, "10.0.0.9", remote.ports.get channel⟩ ∈ tunnel.forwards ∧
          (tunnel.localInfo remote).url channel = "tcp://127.0.0.1:" ++ toString port.toNat := by
  intro host remote localPorts
  obtain ⟨tunnel, opened⟩ : ∃ tunnel, establish host remote ⟨"alice", "example", 22⟩ localPorts = .ok tunnel :=
    ⟨_, (establish_eq_ok rfl).mpr ⟨fun _ _ => rfl, rfl⟩⟩
  obtain ⟨-, -, -, -, channels⟩ := localInfo_forwards host remote _ localPorts rfl tunnel opened
  refine ⟨tunnel, opened, fun channel => ?_⟩
  obtain ⟨port, among, leads, -, -, url, -⟩ := channels channel
  exact ⟨port, among, leads, url.mpr rfl⟩

/-- A kernel on socket files is not reached through the local ports that lead to it: no URL names one of them. -/
theorem localInfo_names_socketFiles :
    let host := Host.Isolated.machine [] []
    let remote : Credentials := { transport := .ipc, ip := "/run/kernel-a-ipc", ports := ⟨1, 2, 3, 4, 5⟩ }
    ∃ tunnel, establish host remote ⟨"alice", "example", 22⟩ [7001, 7002, 7003, 7004, 7005] = .ok tunnel ∧
      (tunnel.localInfo remote).url .shell = "ipc://127.0.0.1-7001" ∧
      ∀ (channel : Channel) (port : UInt16),
        (tunnel.localInfo remote).url channel ≠ "tcp://127.0.0.1:" ++ toString port.toNat := by
  intro host remote
  refine ⟨_, (establish_eq_ok rfl).mpr ⟨fun _ _ => rfl, rfl⟩, by decide, fun channel port same => ?_⟩
  have heads := congrArg (fun url => url.toList.head?) same
  simp [Tunnel.localInfo, Credentials.throughPorts, Credentials.url, Credentials.urlOf, remote] at heads

end Ssh
end Mooring
