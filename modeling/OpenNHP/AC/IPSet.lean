/-
  The ipset half of the access controller: `nhp/utils/iptables.go`.

  1. **The program.**  `AddIpset...` runs the `ipset` command with the name of a set, an entry and a lifetime.
     There are eight sets, four purposes for each address family; the number of the purpose and the family of the
     source select one (`getIpsetName`).

  2. **Entries.**  An entry is what the `fmt.Sprintf` of its caller writes: source, ports and destination for the
     sets of type `hash:ip,port,ip`, network and ports for those of type `hash:net,port`.  `Entry.text` is the
     argument that the command gets, byte for byte.

  3. **What an entry stands for.**  `Entry.covers` says which packets match it, as ipset reads its argument: a port
     stands for that port of its protocol, port 0 is written as the range `1-65535`, and `icmp:8/0` stands for echo
     requests only, which are no flow of ports.  Addresses are compared as parsed, so a source that is no address
     covers nothing.
-/
import OpenNHP.Lib.Inet

namespace OpenNHP.AC

open Inet BigEndian

/-- `common.NetAddress`. -/
structure NetAddress where
  ip : String
  port : Int
  protocol : String
  deriving DecidableEq, Repr

/-- `IPTYPE`. -/
inductive IPType
  | v6
  | v4
  deriving DecidableEq, Repr

/-- The type of an address, as every caller decides it. -/
def ipTypeOf (ip : String) : IPType := if ':' ∈ ip.toList then .v6 else .v4

/-! ## Names of the sets -/

/-- The names of the sets: for sources that knocked, -/
def defaultSet := "defaultset"
def defaultSetV6 := "defaultset_v6"
/-- for what is always let in, -/
def whitelistSet := "whitelistset"
def whitelistSetV6 := "whitelistset_v6"
/-- for what never is, -/
def blacklistSet := "blacklistset"
def blacklistSetV6 := "blacklistset_v6"
/-- and for the temporary ports. -/
def tempSet := "tempset"
def tempSetV6 := "tempset_v6"

/-- The set of a number above 1; there are none above 3. -/
def getDefaultName (ipType : IPType) : Nat → String
  | 2 => if ipType = .v6 then whitelistSetV6 else whitelistSet
  | 3 => if ipType = .v6 then blacklistSetV6 else blacklistSet
  | _ => ""

/-- `GetIpsetName`; case 2 of the switch has no statement, so type 2 gets no name. -/
def getIpsetName (ipType : IPType) : Nat → String
  | 1 => match ipType with
    | .v4 => defaultSet
    | .v6 => defaultSetV6
  | 3 => getDefaultName ipType 3
  | 4 => match ipType with
    | .v4 => tempSet
    | .v6 => tempSetV6
  | _ => ""

/-! ## Entries -/

/-- The ports part of an entry. -/
inductive PortSpec
  | tcp (port : Int)
  | tcpAll
  | udp (port : Int)
  | udpAll
  | icmpEcho
  deriving DecidableEq, Repr

/-- The ports as the entry writes them. -/
def PortSpec.text : PortSpec → String
  | .tcp port => toString port
  | .tcpAll => "1-65535"
  | .udp port => "udp:" ++ toString port
  | .udpAll => "udp:1-65535"
  | .icmpEcho => "icmp:8/0"

/-- The network part of an entry: an IPv4 network by its address and prefix length, or a text. -/
inductive NetSpec
  | v4 (ip : IPv4) (ones : Nat)
  | other (text : String)
  deriving DecidableEq, Repr

/-- The network as the entry writes it. -/
def NetSpec.text : NetSpec → String
  | .v4 ip ones => ip.text ++ "/" ++ toString ones
  | .other text => text

/-- An entry of a set of one of the two types. -/
inductive Entry
  | srcPortDst (src : String) (ports : PortSpec) (dst : String)
  | netPort (net : NetSpec) (ports : PortSpec)
  deriving DecidableEq, Repr

/-- The argument of the command. -/
def Entry.text : Entry → String
  | .srcPortDst src ports dst => src ++ "," ++ ports.text ++ "," ++ dst
  | .netPort net ports => net.text ++ "," ++ ports.text

/-- The tcp ports of a destination: port 0 stands for all. -/
def tcpPorts (port : Int) : PortSpec := if port = 0 then .tcpAll else .tcp port

/-- The udp ports of a destination. -/
def udpPorts (port : Int) : PortSpec := if port = 0 then .udpAll else .udp port

/-! ## The packets an entry stands for -/

/-- The protocol of a packet the whitelists decide about. -/
inductive Proto
  | tcp
  | udp
  deriving DecidableEq, Repr

/-- An IPv4 packet, as far as the rules look at it. -/
structure Flow where
  src : IPv4
  dst : IPv4
  proto : Proto
  dport : UInt16
  deriving DecidableEq, Repr

/-- The ports of a flow are among those of the entry.  An echo request has none. -/
def PortSpec.covers (ports : PortSpec) (flow : Flow) : Prop :=
  match ports with
  | .tcp port => flow.proto = .tcp ∧ (flow.dport.toNat : Int) = port
  | .tcpAll => flow.proto = .tcp ∧ flow.dport.toNat ≠ 0
  | .udp port => flow.proto = .udp ∧ (flow.dport.toNat : Int) = port
  | .udpAll => flow.proto = .udp ∧ flow.dport.toNat ≠ 0
  | .icmpEcho => False

/-- An IPv4 source lies in the network; a network of the other family holds none. -/
def NetSpec.covers (net : NetSpec) (ip : IPv4) : Prop :=
  match net with
  | .v4 base ones => (IPNet.of base.bytes ones).contains ip.bytes = true
  | .other _ => False

/-- The flow matches the entry. -/
def Entry.covers (entry : Entry) (flow : Flow) : Prop :=
  match entry with
  | .srcPortDst src ports dst =>
    IPv4.parse src = some flow.src ∧ ports.covers flow ∧ IPv4.parse dst = some flow.dst
  | .netPort net ports => net.covers flow.src ∧ ports.covers flow

/-- The arguments of the command that adds an entry: `Add`. -/
def addArgs (set : String) (entry : Entry) (expire : Int) : List String :=
  ["add", "-exist", set, entry.text, "timeout", toString expire]

end OpenNHP.AC
