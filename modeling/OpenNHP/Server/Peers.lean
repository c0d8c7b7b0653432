/-
  The server's peers and the handlers of the two messages that come online (`endpoints/server/udpserver.go`,
  `config.go`, `msghandler.go`).

  1. The device has one peer map for all roles, and `validatePeer` asks that one only.

  2. The server keeps a map of its own for each role.  `HandleACOnline` looks the sender of an NHP_AOL up in the
     map of the ACs, `HandleDBOnline` that of an NHP_DOL in the map of the brokers, and each stores what it finds,
     a nil pointer too, in a connection that later operations dereference: `processACOperation` takes the AC's
     address from it, `ProcessDataPrivateKeyWrapping` the broker's.

  3. What ties the two together is an invariant that `UdpServer` carries in its fields: every AC peer of the
     device is in the AC map, every broker of the device in the map of the brokers, and the maps hold peers of
     their role only.  Each `Add...Peer` keeps it, by construction.  So a handler that is given a sender of its
     role finds a peer; what it does with a sender of another role is `Roles`' subject.
-/
import OpenNHP.Core.NoPanic

namespace OpenNHP.Server

open OpenNHP.Core

variable {M : Type}

/-- The fields of `ACOnlineMsg` the handler copies. -/
structure ACOnlineMsg where
  acId : String
  authServiceId : String
  resourceIds : List String

/-- `ACConn`: what the server keeps of an AC that came online.  `acPeer` may be nil. -/
structure ACConn (M : Type) where
  connData : ConnectionData M
  acPeer : Option UdpPeer
  acCipherScheme : CipherScheme
  acId : String
  serviceId : String
  apps : List String

/-- `conn.ACPeer.RecvAddr().String()`, the first statement of `processACOperation` that needs the peer. -/
def ACConn.recvAddr (conn : ACConn M) : Go Addr :=
  match conn.acPeer with
  | none => .panic
  | some peer => .ok (peer.recvAddr.getD "<nil>")

/-- `DBOnlineMsg`. -/
structure DBOnlineMsg where
  dbId : String

/-- `DBConn`: what the server keeps of a broker that came online.  `dbPeer` may be nil. -/
structure DBConn (M : Type) where
  connData : ConnectionData M
  dbPeer : Option UdpPeer
  dbCipherScheme : CipherScheme
  dbId : String

/-- `conn.DBPeer.RecvAddr().String()`, the first statement of `ProcessDataPrivateKeyWrapping` that needs the
    peer. -/
def DBConn.recvAddr (conn : DBConn M) : Go Addr :=
  match conn.dbPeer with
  | none => .panic
  | some peer => .ok (peer.recvAddr.getD "<nil>")

/-! ## The server's maps and the device's -/

/-- Every peer of a role that a device has is in the server's map of the role. -/
def PeersRegistered {C : Crypto M} (d : Device C) (role : DeviceType) (peerMap : M → Option UdpPeer) : Prop :=
  ∀ pk peer, d.lookupPeer pk = some peer → peer.deviceType = role → ∃ registered, peerMap pk = some registered

/-- A server's map of a role holds peers of that role. -/
def PeersOfRole (role : DeviceType) (peerMap : M → Option UdpPeer) : Prop :=
  ∀ pk peer, peerMap pk = some peer → peer.deviceType = role

section AddPeer

variable {C : Crypto M} [DecidableEq M] {d : Device C} {role : DeviceType} {peerMap : M → Option UdpPeer}

/-- A peer of another role needs no entry. -/
theorem PeersRegistered.addPeer (h : PeersRegistered d role peerMap) (pk : M) {peer : UdpPeer}
    (hrole : peer.deviceType ≠ role) : PeersRegistered (d.addPeer pk peer) role peerMap := by
  intro k peer' hpeer hsame
  rw [Device.lookupPeer_addPeer] at hpeer
  split at hpeer
  · rw [Option.some.injEq] at hpeer
    exact absurd (hpeer ▸ hsame) hrole
  · exact h k peer' hpeer hsame

/-- A peer that gets an entry may be of any role. -/
theorem PeersRegistered.insert (h : PeersRegistered d role peerMap) (pk : M) (peer : UdpPeer) :
    PeersRegistered (d.addPeer pk peer) role fun k => if k = pk then some peer else peerMap k := by
  intro k peer' hpeer hsame
  by_cases hk : k = pk
  · exact ⟨peer, if_pos hk⟩
  · rw [Device.lookupPeer_addPeer, if_neg hk] at hpeer
    obtain ⟨registered, hregistered⟩ := h k peer' hpeer hsame
    exact ⟨registered, (if_neg hk).trans hregistered⟩

/-- A map of the role takes a peer of the role. -/
theorem PeersOfRole.insert (h : PeersOfRole role peerMap) (pk : M) {peer : UdpPeer}
    (hrole : peer.deviceType = role) : PeersOfRole role fun k => if k = pk then some peer else peerMap k := by
  intro k peer' hpeer
  dsimp only at hpeer
  split at hpeer
  · rw [Option.some.injEq] at hpeer
    rw [← hpeer, hrole]
  · exact h k peer' hpeer

end AddPeer

/-- The parts of `UdpServer` the handlers and the peer functions use.  The maps of the roles are keyed by the
    public key like the device's; their values are the peers as they were registered. -/
structure UdpServer (C : Crypto M) where
  device : Device C
  acPeerMap : M → Option UdpPeer
  acConnectionMap : String → Option (ACConn M)
  dbPeerMap : M → Option UdpPeer
  dbConnectionMap : String → Option (DBConn M)
  acPeers_registered : PeersRegistered device .ac acPeerMap
  acPeers_role : PeersOfRole .ac acPeerMap
  dbPeers_registered : PeersRegistered device .db dbPeerMap
  dbPeers_role : PeersOfRole .db dbPeerMap

namespace UdpServer

variable {C : Crypto M} [DecidableEq M]

/-- `AddAgentPeer`. -/
def addAgentPeer (s : UdpServer C) (pk : M) (agent : UdpPeer) : UdpServer C :=
  if h : agent.deviceType = .agent then
    { s with
      device := s.device.addPeer pk agent
      acPeers_registered := s.acPeers_registered.addPeer pk (by simp [h])
      dbPeers_registered := s.dbPeers_registered.addPeer pk (by simp [h]) }
  else s

/-- `AddDEPeer`. -/
def addDEPeer (s : UdpServer C) (pk : M) (device : UdpPeer) : UdpServer C :=
  if h : device.deviceType = .db then
    { s with
      device := s.device.addPeer pk device
      dbPeerMap := fun k => if k = pk then some device else s.dbPeerMap k
      acPeers_registered := s.acPeers_registered.addPeer pk (by simp [h])
      dbPeers_registered := s.dbPeers_registered.insert pk device
      dbPeers_role := s.dbPeers_role.insert pk h }
  else s

/-- `AddACPeer`. -/
def addACPeer (s : UdpServer C) (pk : M) (acPeer : UdpPeer) : UdpServer C :=
  if h : acPeer.deviceType = .ac then
    { s with
      device := s.device.addPeer pk acPeer
      acPeerMap := fun k => if k = pk then some acPeer else s.acPeerMap k
      acPeers_registered := s.acPeers_registered.insert pk acPeer
      acPeers_role := s.acPeers_role.insert pk h
      dbPeers_registered := s.dbPeers_registered.addPeer pk (by simp [h]) }
  else s

/-- `HandleACOnline` up to the connection map; `aolMsg` is the parsed body, `none` when
    `json.Unmarshal` fails. -/
def handleACOnline (s : UdpServer C) (ppd : PacketParserData C) (aolMsg : Option ACOnlineMsg) :
    UdpServer C :=
  match aolMsg with
  | none => s
  | some msg =>
    let acPeer := ppd.remotePubKey.bind s.acPeerMap
    let acConn : ACConn M := {
      connData := ppd.connData
      acPeer := acPeer
      acCipherScheme := ppd.cipherScheme
      acId := msg.acId
      serviceId := msg.authServiceId
      apps := msg.resourceIds }
    { s with acConnectionMap := fun id => if id = msg.acId then some acConn else s.acConnectionMap id }

omit [DecidableEq M] in
/-- The handler stores the AC map's entry for the sender. -/
theorem handleACOnline_acConnectionMap (s : UdpServer C) (ppd : PacketParserData C)
    (msg : ACOnlineMsg) :
    ∃ conn, (s.handleACOnline ppd (some msg)).acConnectionMap msg.acId = some conn ∧
      conn.acPeer = ppd.remotePubKey.bind s.acPeerMap :=
  ⟨_, if_pos rfl, rfl⟩

/-- `HandleDBOnline` up to the connection map; `dolMsg` is the parsed body, `none` when `json.Unmarshal` fails. -/
def handleDBOnline (s : UdpServer C) (ppd : PacketParserData C) (dolMsg : Option DBOnlineMsg) : UdpServer C :=
  match dolMsg with
  | none => s
  | some msg =>
    let dbPeer := ppd.remotePubKey.bind s.dbPeerMap
    let dbConn : DBConn M := {
      connData := ppd.connData
      dbPeer := dbPeer
      dbCipherScheme := ppd.cipherScheme
      dbId := msg.dbId }
    { s with dbConnectionMap := fun id => if id = msg.dbId then some dbConn else s.dbConnectionMap id }

omit [DecidableEq M] in
/-- The handler stores the broker map's entry for the sender. -/
theorem handleDBOnline_dbConnectionMap (s : UdpServer C) (ppd : PacketParserData C) (msg : DBOnlineMsg) :
    ∃ conn, (s.handleDBOnline ppd (some msg)).dbConnectionMap msg.dbId = some conn ∧
      conn.dbPeer = ppd.remotePubKey.bind s.dbPeerMap :=
  ⟨_, if_pos rfl, rfl⟩

end UdpServer

end OpenNHP.Server
