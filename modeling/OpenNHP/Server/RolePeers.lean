/-
  The peer lists of the configuration (`endpoints/server/config.go`, `nhp/core/device.go`).

  1. **The program.**  The server keeps a peer map for each role, and the device one for all of them.  An update
     of a role's list adds the new peers to both, and then removes the role's old keys that are not in the new
     list from the device's map, without a look at the other roles.

  2. **The property.**  `Peers.Union`: the device knows exactly the keys that are in the map of some role.

  3. **Where it fails.**  A key that has moved from one role's list to another's is locked out when its new list is
     read before its old one (`moved_key_locked_out`).

  4. **The result.**  The device's map is the union of the role maps exactly as long as no key leaves the list of
     one role while it is in that of another (`union_iff`, with `Separate`).  What an update does to every look-up
     is said once (`lookup_updatePeers`), and both directions follow from that, key by key.
-/
import OpenNHP.Core.Device
import OpenNHP.Lib.Runs
import OpenNHP.Lib.Tables

namespace OpenNHP.Server.RolePeers

open OpenNHP.Core

/-! ## The maps -/

/-- The roles the server has a list for. -/
inductive Role
  | ac
  | agent
  | db
  deriving DecidableEq

/-- `p.Type` of a peer of a role. -/
def Role.deviceType : Role → DeviceType
  | .ac => .ac
  | .agent => .agent
  | .db => .db

/-- A peer of a list, with its `PublicKeyBase64`. -/
structure Listed where
  publicKeyBase64 : String
  peer : UdpPeer
  deriving DecidableEq

/-- Peers by the base64 text of their key. -/
abbrev PeerMap := AList fun _ : String => UdpPeer

/-- `device.peerMap`, and `acPeerMap`, `agentPeerMap` and `dbPeerMap` of the server. -/
structure Peers where
  peerMap : PeerMap
  roleMap : Role → PeerMap

namespace Peers

/-- No peers. -/
def start : Peers where
  peerMap := ∅
  roleMap _ := ∅

variable (s : Peers)

/-- `AddPeer` and the role's map, for every peer of a list; `p.Type` is set first. -/
def addAll (role : Role) (m : PeerMap) (peers : List Listed) : PeerMap :=
  peers.foldl (fun m p => m.insert p.publicKeyBase64 { p.peer with deviceType := role.deviceType }) m

/-- `RemovePeer` for every old key of a role that is not in its new map. -/
def removeOld (m : PeerMap) (old fresh : PeerMap) : PeerMap :=
  old.keys.foldl (fun m pubKey => if pubKey ∈ fresh then m else m.erase pubKey) m

/-- What `updateACPeers`, `updateAgentPeers` and `updateDePeers` do. -/
def updatePeers (role : Role) (peers : List Listed) : Peers :=
  let fresh := addAll role ∅ peers
  { peerMap := removeOld (addAll role s.peerMap peers) (s.roleMap role) fresh
    roleMap := Function.update s.roleMap role fresh }

/-- The updates of the three lists: the ACs, -/
def updateACPeers (peers : List Listed) : Peers := s.updatePeers .ac peers
/-- the agents, -/
def updateAgentPeers (peers : List Listed) : Peers := s.updatePeers .agent peers
/-- and the brokers. -/
def updateDePeers (peers : List Listed) : Peers := s.updatePeers .db peers

end Peers

/-- A call of one of the three. -/
inductive Update
  | ac (peers : List Listed)
  | agent (peers : List Listed)
  | db (peers : List Listed)

/-- The role of a list, -/
def Update.role : Update → Role
  | .ac _ => .ac
  | .agent _ => .agent
  | .db _ => .db

/-- and its peers. -/
def Update.peers : Update → List Listed
  | .ac peers | .agent peers | .db peers => peers

/-- A new version of a list is read. -/
def step (s : Peers) : Update → Option Peers
  | .ac peers => some (s.updateACPeers peers)
  | .agent peers => some (s.updateAgentPeers peers)
  | .db peers => some (s.updateDePeers peers)

/-- The three updates are one, with the role as a parameter. -/
theorem step_eq (s : Peers) (u : Update) : step s u = some (s.updatePeers u.role u.peers) := by
  cases u <;> rfl

/-! ## What an update leaves -/

namespace Peers

/-- What is added is found before what was there. -/
theorem lookup_addAll (role : Role) (m : PeerMap) (peers : List Listed) (k : String) :
    (addAll role m peers).lookup k = ((addAll role ∅ peers).lookup k).or (m.lookup k) := by
  induction peers generalizing m with
  | nil => rfl
  | cons p peers ih =>
    show (addAll role (m.insert p.publicKeyBase64 _) peers).lookup k
      = ((addAll role (AList.insert p.publicKeyBase64 _ ∅) peers).lookup k).or (m.lookup k)
    rw [ih, ih (AList.insert p.publicKeyBase64 _ ∅), Option.or_assoc]
    rw [AList.lookup_insert_eq_ite, AList.lookup_insert_eq_ite]
    split_ifs <;> rfl

/-- A loop that removes keys, but for those that are kept. -/
theorem lookup_removeKeys (fresh : PeerMap) (keys : List String) (m : PeerMap) (k : String) :
    (keys.foldl (fun m pubKey => if pubKey ∈ fresh then m else m.erase pubKey) m).lookup k
      = if k ∈ keys ∧ k ∉ fresh then none else m.lookup k := by
  induction keys generalizing m with
  | nil =>
    rw [if_neg fun h => List.not_mem_nil h.1]
    rfl
  | cons key keys ih =>
    rw [List.foldl_cons, ih]
    by_cases hkey : k = key
    · subst hkey
      by_cases hfresh : k ∈ fresh
      · rw [if_pos hfresh, if_neg fun h => h.2 hfresh, if_neg fun h => h.2 hfresh]
      · rw [if_neg hfresh, AList.lookup_erase, ite_self, if_pos ⟨List.mem_cons_self, hfresh⟩]
    · -- a key that is not in turn stays, whether the one in turn is deleted or not
      have hlookup : (if key ∈ fresh then m else m.erase key).lookup k = m.lookup k := by
        split_ifs
        · rfl
        · exact AList.lookup_erase_ne hkey
      rw [hlookup]
      simp only [List.mem_cons, hkey, false_or]

/-- The old keys of a role are removed, but for those of the new list. -/
theorem lookup_removeOld (m old fresh : PeerMap) (k : String) :
    (removeOld m old fresh).lookup k = if k ∈ old ∧ k ∉ fresh then none else m.lookup k := by
  rw [removeOld, lookup_removeKeys]
  simp only [AList.mem_keys]

/-- A key of the new list leads to its new peer; the role's other keys are gone; all others stay. -/
theorem lookup_updatePeers (s : Peers) (role : Role) (peers : List Listed) (k : String) :
    (s.updatePeers role peers).peerMap.lookup k =
      if k ∈ s.roleMap role ∧ k ∉ addAll role ∅ peers then none
      else ((addAll role ∅ peers).lookup k).or (s.peerMap.lookup k) := by
  show (removeOld (addAll role s.peerMap peers) (s.roleMap role) (addAll role ∅ peers)).lookup k = _
  rw [lookup_removeOld, lookup_addAll]

/-- Only the map of the role is replaced. -/
theorem roleMap_updatePeers (s : Peers) (role r : Role) (peers : List Listed) :
    (s.updatePeers role peers).roleMap r = if r = role then addAll role ∅ peers else s.roleMap r :=
  Function.update_apply s.roleMap role (addAll role ∅ peers) r

end Peers

/-! ## The union -/

/-- The device knows the keys of the role maps and no others, and each leads to a peer one of them holds. -/
structure Peers.Union (s : Peers) : Prop where
  keys : ∀ k, k ∈ s.peerMap ↔ ∃ r, k ∈ s.roleMap r
  held : ∀ k p, s.peerMap.lookup k = some p → ∃ r, (s.roleMap r).lookup k = some p

/-- An update keeps the device's map the union of the others. -/
def KeepsUnion (s : Peers) (u : Update) : Prop := ∀ s', step s u = some s' → s'.Union

/-- No key leaves the list of its role while another role has it. -/
def Separate (s : Peers) (u : Update) : Prop :=
  ∀ k ∈ s.roleMap u.role, k ∉ u.peers.map Listed.publicKeyBase64 → ∀ r, r ≠ u.role → k ∉ s.roleMap r

/-- The keys of a list are those of its peers. -/
theorem mem_addAll (role : Role) (peers : List Listed) (k : String) :
    k ∈ Peers.addAll role ∅ peers ↔ k ∈ peers.map Listed.publicKeyBase64 := by
  induction peers with
  | nil => exact iff_of_false (AList.notMem_empty k) List.not_mem_nil
  | cons p peers ih =>
    have hlookup := Peers.lookup_addAll role
      (AList.insert p.publicKeyBase64 { p.peer with deviceType := role.deviceType } ∅) peers k
    rw [List.map_cons, List.mem_cons, ← ih, ← AList.lookup_isSome, ← AList.lookup_isSome]
    show ((Peers.addAll role (AList.insert p.publicKeyBase64 _ ∅) peers).lookup k).isSome ↔ _
    rw [hlookup, Option.isSome_or, Bool.or_eq_true, or_comm]
    refine or_congr_left ?_
    rw [AList.lookup_isSome, AList.mem_insert]
    exact or_iff_left (AList.notMem_empty k)

/-- An update keeps the union exactly when the key sets are separate. -/
theorem union_step {s : Peers} (hs : s.Union) (u : Update) : KeepsUnion s u ↔ Separate s u := by
  have hstep : KeepsUnion s u ↔ (s.updatePeers u.role u.peers).Union := by
    constructor
    · intro h
      exact h _ (step_eq s u)
    · intro h s' hs'
      rw [step_eq] at hs'
      exact Option.some.inj hs' ▸ h
  rw [hstep]
  constructor
  · -- a key that leaves is out of the device's map, so no other role may have it
    intro h k hold hnew r hr hother
    have hmem : k ∈ (s.updatePeers u.role u.peers).peerMap := by
      apply (h.keys k).mpr
      refine ⟨r, ?_⟩
      rw [Peers.roleMap_updatePeers, if_neg hr]
      exact hother
    rw [← AList.lookup_isSome, Peers.lookup_updatePeers, if_pos ⟨hold, mt (mem_addAll _ _ k).mp hnew⟩]
      at hmem
    cases hmem
  · intro h
    constructor
    · intro k
      rw [← AList.lookup_isSome, Peers.lookup_updatePeers]
      simp only [Peers.roleMap_updatePeers]
      -- a key of the new list, one that has left it, or one that was never the role's
      by_cases hnew : k ∈ Peers.addAll u.role ∅ u.peers
      · rw [if_neg fun hgone => hgone.2 hnew, Option.isSome_or, AList.lookup_isSome.mpr hnew]
        exact iff_of_true rfl ⟨u.role, by rw [if_pos rfl]; exact hnew⟩
      · by_cases hold : k ∈ s.roleMap u.role
        · rw [if_pos ⟨hold, hnew⟩]
          refine iff_of_false nofun ?_
          rintro ⟨r, hr⟩
          split_ifs at hr with heq
          · exact hnew hr
          · exact h k hold (mt (mem_addAll _ _ k).mpr hnew) r heq hr
        · rw [if_neg fun hgone => hold hgone.1, AList.lookup_eq_none.mpr hnew, Option.none_or,
            AList.lookup_isSome, hs.keys]
          refine exists_congr fun r => ?_
          split_ifs with heq
          · exact iff_of_false (heq ▸ hold) hnew
          · exact Iff.rfl
    · intro k p hp
      rw [Peers.lookup_updatePeers] at hp
      simp only [Peers.roleMap_updatePeers]
      split_ifs at hp with hgone
      rcases Option.or_eq_some_iff.mp hp with hp | ⟨hnone, hp⟩
      · exact ⟨u.role, by rw [if_pos rfl]; exact hp⟩
      · obtain ⟨r, hr⟩ := hs.held k p hp
        refine ⟨r, ?_⟩
        split_ifs with heq
        · -- the role's old key is in the new list, so its new peer would have been found
          have hold : k ∈ s.roleMap u.role := heq ▸ AList.lookup_isSome.mp (Option.isSome_of_eq_some hr)
          exact absurd ⟨hold, AList.lookup_eq_none.mp hnone⟩ hgone
        · exact hr

/-- There are no keys at first. -/
theorem union_start : Peers.start.Union := by
  constructor
  · intro k
    refine iff_of_false (AList.notMem_empty k) ?_
    rintro ⟨r, hr⟩
    exact AList.notMem_empty k hr
  · intro k p hp
    cases hp

/-- After every update of a run the device's map is the union of the role maps, exactly when no key leaves
    the list of one role while another role has it. -/
theorem union_iff (updates : List Update) :
    Runs.Steps step KeepsUnion .start updates ↔ Runs.Steps step Separate .start updates := by
  apply Runs.steps_congr (I := Peers.Union)
  · exact fun s u hs => union_step hs u
  · exact fun s u s' _ hkeeps hstep => hkeeps s' hstep
  · exact union_start

/-- A peer without an address yet. -/
def samplePeer : UdpPeer where
  deviceType := .noDevice
  expireTime := 0
  lastRecvTime := 0
  recvAddr := none

/-- A key moves from the ACs' list to the agents', and the agents' list is read first. -/
def moved : List Update :=
  [.ac [⟨"key", samplePeer⟩], .agent [⟨"key", samplePeer⟩], .ac []]

/-- The key is in the agents' map, and the device does not know it. -/
theorem moved_key_locked_out :
    (∃ t, Runs.run step .start moved = some t ∧ "key" ∈ t.roleMap .agent ∧ "key" ∉ t.peerMap) ∧
      ¬Runs.Steps step KeepsUnion .start moved := by
  have hlocked : ∃ t, Runs.run step .start moved = some t ∧ "key" ∈ t.roleMap .agent ∧
      "key" ∉ t.peerMap := ⟨_, rfl, by decide, by decide⟩
  refine ⟨hlocked, fun hkeeps => ?_⟩
  obtain ⟨t, hrun, hagent, hdevice⟩ := hlocked
  have hunion : t.Union := Runs.run_invariant_of (I := Peers.Union)
    (fun s u s' hC _ hstep => hC s' hstep) hkeeps union_start hrun
  exact hdevice ((hunion.keys "key").mpr ⟨.agent, hagent⟩)

end OpenNHP.Server.RolePeers
