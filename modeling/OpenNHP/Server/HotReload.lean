/-
  Reading the configuration again (`endpoints/server/config.go`).

  THE PROGRAM.  At its start the server decodes each file into a variable, and installs that.  When a file
  changes, the watcher decodes the new version into the same variable, where what the new version does not
  mention stays, and installs the variable again; the watcher of `resource.toml` decodes into itself, and
  installs the variable as it was.

  THE SPECIFICATION.  A server that has been running has the maps of one that starts with the last versions:
  the providers, the sources, the map of each role, and the device's map of all peers (`AsRestarted`).

  THE CRUX.  The first three kinds of map are each written by one file, so they are folds over its versions
  (`foldl_file`): a source stays once it has been read, a list stays until a version has another.  The
  device's map is written by three files, and an update of one role's list deletes the role's old keys
  without a look at the others.  So where a key leads depends on the order of the readings, and on one thing
  only: the role whose file was read last with the key in its list, before the reading or after it
  (`Reading.last`, `lookup_reloaded`).  A start reads the files in the order AC, agent, DB, and there that
  role is the last one whose list has the key (`ownerOf`).

  ASSEMBLY.  `srcIps_iff`, `roleMap_iff` and `device_iff` say for each map when it is the one of a restart,
  and `reload_iff` puts them together: exactly when nothing was to go, and no key was in the lists of two
  roles at its last reading.
-/
import OpenNHP.Server.RolePeers
import OpenNHP.Server.OpenResource

namespace OpenNHP.Server.HotReload

open OpenNHP.AC (NetAddress)
open RolePeers (Role Listed PeerMap)

/-! ## What the files hold -/

/-- `common.ResourceData`, the fields that the server reads and `updateResources` fills in. -/
structure ResourceData where
  authServiceId : String
  resourceId : String
  openTime : UInt32
  resources : AList fun _ : String => ResourceInfo

/-- `AuthServiceProviderData` of `common`: a provider, its plugin, and the resource groups it protects. -/
structure AuthServiceProviderData where
  resourceGroups : AList fun _ : String => ResourceData
  authSvcId : String
  pluginPath : String
  pluginHash : String

/-- The providers by their identifiers, as `resource.toml` is decoded. -/
abbrev AuthSvcProviderMap := AList fun _ : String => AuthServiceProviderData

/-- Source addresses by the addresses associated with them, as `srcip.toml` is decoded. -/
abbrev SrcIpMap := AList fun _ : String => List NetAddress

/-- `Peers`: the lists of the roles. -/
abbrev PeerLists := Role → List Listed

/-- `toml.Unmarshal` for documents that parse.  What a document has under a key is put into the target, and
    what it does not have is left there. -/
structure Toml (Doc : Type) where
  /-- the `[[ACs]]`, `[[Agents]]` and `[[DBs]]` of a document, if it has any -/
  peersAt : Doc → Role → Option (List Listed)
  srcIpAt : Doc → String → Option (List NetAddress)
  unmarshalPeers : Doc → PeerLists → PeerLists
  unmarshalSrcIps : Doc → SrcIpMap → SrcIpMap
  unmarshalResources : Doc → AuthSvcProviderMap → AuthSvcProviderMap
  /-- there is no error when the target is a watcher -/
  unmarshalWatch : Doc → Bool
  peers_eq : ∀ doc target role, unmarshalPeers doc target role = (peersAt doc role).getD (target role)
  srcIps_eq : ∀ doc target k, (unmarshalSrcIps doc target).lookup k = (srcIpAt doc k).or (target.lookup k)

/-! ## The server -/

/-- The files that are watched; those of the roles are `ac.toml`, `agent.toml` and `db.toml`. -/
inductive File
  | resource
  | srcip
  | peers (role : Role)
  deriving DecidableEq

/-- The variables that the watchers have captured, and the maps of the server. -/
structure State where
  aspMap : AuthSvcProviderMap
  srcIpMap : SrcIpMap
  lists : Role → PeerLists
  authServiceMap : AuthSvcProviderMap
  srcIpAssociatedAddrMap : SrcIpMap
  peers : RolePeers.Peers

/-- What `updateResources` writes into a provider. -/
def AuthServiceProviderData.stamp (aspId : String) (aspData : AuthServiceProviderData) :
    AuthServiceProviderData :=
  { aspData with
    authSvcId := aspId
    resourceGroups := aspData.resourceGroups.mapWithKey fun resId res =>
      { res with authServiceId := aspId, resourceId := resId } }

/-- The map as `updateResources` leaves it: the providers are pointers. -/
def stamped (aspMap : AuthSvcProviderMap) : AuthSvcProviderMap :=
  aspMap.mapWithKey AuthServiceProviderData.stamp

namespace State

variable (s : State)

/-- What the watcher of `resource.toml` installs: the decoded map, each provider with its identifier written in. -/
def updateResources (aspMap : AuthSvcProviderMap) : State :=
  { s with aspMap := stamped aspMap, authServiceMap := stamped aspMap }

/-- What the watcher of `srcip.toml` installs. -/
def updateSourceIps (srcIpMap : SrcIpMap) : State :=
  { s with srcIpMap := srcIpMap, srcIpAssociatedAddrMap := srcIpMap }

/-- `updateACPeers`, `updateAgentPeers` or `updateDePeers`. -/
def updatePeers (role : Role) (lists : PeerLists) : State :=
  { s with
    lists := Function.update s.lists role lists
    peers := s.peers.updatePeers role (lists role) }

end State

variable {Doc : Type} (toml : Toml Doc)

/-- The provider map that a start with a version loads. -/
def loadResources (doc : Doc) : AuthSvcProviderMap := stamped (toml.unmarshalResources doc ∅)

/-- A start with a version of each file: `loadPeers`, `loadResources` and `loadSourceIps`. -/
def start (docs : File → Doc) : State :=
  let empty : State := {
    aspMap := ∅
    srcIpMap := ∅
    lists := fun _ _ => []
    authServiceMap := ∅
    srcIpAssociatedAddrMap := ∅
    peers := .start }
  let load (s : State) (role : Role) : State :=
    s.updatePeers role (toml.unmarshalPeers (docs (.peers role)) fun _ => [])
  let s := load (load (load empty .ac) .agent) .db
  let s := s.updateResources (toml.unmarshalResources (docs .resource) ∅)
  s.updateSourceIps (toml.unmarshalSrcIps (docs .srcip) ∅)

/-- What a watcher does with a new version. -/
def reload (s : State) : File × Doc → State
  | (.resource, doc) => if toml.unmarshalWatch doc then s.updateResources s.aspMap else s
  | (.srcip, doc) => s.updateSourceIps (toml.unmarshalSrcIps doc s.srcIpMap)
  | (.peers role, doc) => s.updatePeers role (toml.unmarshalPeers doc (s.lists role))

/-- The server behind a start and a sequence of changes. -/
def reloaded (docs : File → Doc) (changes : List (File × Doc)) : State :=
  changes.foldl (reload toml) (start toml docs)

/-! ## The versions -/

section Versions

variable (docs : File → Doc) (changes : List (File × Doc))

/-- The versions of a file, the first of them at the start. -/
def versions (file : File) : List Doc :=
  docs file :: (changes.filter (·.1 = file)).map Prod.snd

/-- The last version of a file: what a restart would read. -/
def latest (file : File) : Doc := (versions docs changes file).getLast (List.cons_ne_nil _ _)

/-- The list of a role in the last version that has one. -/
def lastList (role : Role) : List Listed :=
  (versions docs changes (.peers role)).foldl (fun peers doc => (toml.peersAt doc role).getD peers) []

/-- The versions of the peers' files in the order in which they are read: a start reads one of each. -/
def peerReads : List (Role × Doc) :=
  [Role.ac, .agent, .db].map (fun role => (role, docs (.peers role))) ++
    changes.filterMap fun change =>
      match change with
      | (.peers role, doc) => some (role, doc)
      | _ => none

/-- What the readings so far leave: the lists, and for each key the role whose file was read last with the
    key in its list, before the reading or after it. -/
structure Reading where
  lists : Role → List Listed
  last : String → Option Role

/-- Nothing has been read. -/
def Reading.start : Reading where
  lists _ := []
  last _ := none

/-- The next version of a role's file is read. -/
def Reading.read (r : Reading) : Role × Doc → Reading
  | (role, doc) =>
    let peers := (toml.peersAt doc role).getD (r.lists role)
    { lists := Function.update r.lists role peers
      last := fun k =>
        if k ∈ (r.lists role).map Listed.publicKeyBase64 ∨ k ∈ peers.map Listed.publicKeyBase64 then some role
        else r.last k }

/-- What all readings leave. -/
def reading : Reading := (peerReads docs changes).foldl (Reading.read toml) .start

/-- The role whose list a start adds to the device last, among those that have the key. -/
def ownerOf (lists : Role → List Listed) (k : String) : Option Role :=
  [Role.db, .agent, .ac].find? fun role => k ∈ (lists role).map Listed.publicKeyBase64

/-- The maps of the server are those of one that starts with the last versions. -/
structure AsRestarted : Prop where
  authServiceMap : ∀ k, (reloaded toml docs changes).authServiceMap.lookup k =
    (start toml (latest docs changes)).authServiceMap.lookup k
  srcIpAssociatedAddrMap : ∀ k, (reloaded toml docs changes).srcIpAssociatedAddrMap.lookup k =
    (start toml (latest docs changes)).srcIpAssociatedAddrMap.lookup k
  roleMap : ∀ role k, ((reloaded toml docs changes).peers.roleMap role).lookup k =
    ((start toml (latest docs changes)).peers.roleMap role).lookup k
  peerMap : ∀ k, (reloaded toml docs changes).peers.peerMap.lookup k =
    (start toml (latest docs changes)).peers.peerMap.lookup k

/-- The last version of `resource.toml` says what the first did; the last version of `srcip.toml` has all
    sources that a version had; the last version of a role's file has a list, or there was no peer in the
    last list there was; and a key of the last lists was read last in the file of the role to which a start
    gives it. -/
structure NothingGone : Prop where
  resource : ∀ k, (loadResources toml (docs .resource)).lookup k =
    (loadResources toml (latest docs changes .resource)).lookup k
  srcip : ∀ doc ∈ versions docs changes .srcip, ∀ k, (toml.srcIpAt doc k).isSome →
    (toml.srcIpAt (latest docs changes .srcip) k).isSome
  peers : ∀ role, (toml.peersAt (latest docs changes (.peers role)) role).isSome ∨
    lastList toml docs changes role = []
  device : ∀ k role, ownerOf (lastList toml docs changes) k = some role →
    (reading toml docs changes).last k = some role

end Versions

/-! ## What the watchers have captured -/

/-- Writing the identifier in again changes nothing, -/
theorem stamp_idem (aspId : String) (aspData : AuthServiceProviderData) :
    (aspData.stamp aspId).stamp aspId = aspData.stamp aspId := by
  unfold AuthServiceProviderData.stamp
  rw [AList.mapWithKey_idem]
  exact fun resId res => rfl

/-- so a map that has been installed once may be decoded over and installed again. -/
theorem stamped_idem (aspMap : AuthSvcProviderMap) : stamped (stamped aspMap) = stamped aspMap :=
  AList.mapWithKey_idem aspMap stamp_idem

/-- How the variables and the maps of the server belong together. -/
structure Inv (docs : File → Doc) (s : State) : Prop where
  aspMap : s.aspMap = loadResources toml (docs .resource)
  authServiceMap : s.authServiceMap = s.aspMap
  srcIps : s.srcIpAssociatedAddrMap = s.srcIpMap
  roleMap : ∀ role, s.peers.roleMap role = RolePeers.Peers.addAll role ∅ (s.lists role role)

/-- An update keeps it that a role's map holds the role's list, whatever role was updated. -/
theorem roleMap_updatePeers {s : State} {role : Role}
    (h : s.peers.roleMap role = RolePeers.Peers.addAll role ∅ (s.lists role role)) (role' : Role)
    (lists : PeerLists) :
    (s.updatePeers role' lists).peers.roleMap role =
      RolePeers.Peers.addAll role ∅ ((s.updatePeers role' lists).lists role role) := by
  show (s.peers.updatePeers role' (lists role')).roleMap role =
    RolePeers.Peers.addAll role ∅ (Function.update s.lists role' lists role role)
  rw [RolePeers.Peers.roleMap_updatePeers, Function.update_apply]
  split_ifs with hrole
  · rw [hrole]
  · exact h

/-- The invariant holds after the start, -/
theorem inv_start (docs : File → Doc) : Inv toml docs (start toml docs) := by
  refine ⟨rfl, rfl, rfl, fun role => ?_⟩
  apply roleMap_updatePeers
  apply roleMap_updatePeers
  apply roleMap_updatePeers
  rfl

/-- is kept by each reading, -/
theorem Inv.reload {docs : File → Doc} {s : State} (h : Inv toml docs s) (change : File × Doc) :
    Inv toml docs (reload toml s change) := by
  obtain ⟨file, doc⟩ := change
  cases file with
  | resource =>
    show Inv toml docs (if toml.unmarshalWatch doc then s.updateResources s.aspMap else s)
    split_ifs
    · -- the variable holds what has been stamped already
      have hsame : stamped s.aspMap = s.aspMap := by
        rw [h.aspMap]
        exact stamped_idem _
      exact ⟨hsame.trans h.aspMap, rfl, h.srcIps, h.roleMap⟩
    · exact h
  | srcip => exact ⟨h.aspMap, h.authServiceMap, rfl, h.roleMap⟩
  | peers role =>
    exact ⟨h.aspMap, h.authServiceMap, h.srcIps, fun role' => roleMap_updatePeers (h.roleMap role') role _⟩

section Captured

variable (docs : File → Doc) (changes : List (File × Doc))

/-- and holds of every server that has been running. -/
theorem inv_reloaded : Inv toml docs (reloaded toml docs changes) := by
  rw [reloaded]
  have hkeep : ∀ s, Inv toml docs s → Inv toml docs (changes.foldl (reload toml) s) := by
    induction changes with
    | nil => exact fun s hs => hs
    | cons change changes ih => exact fun s hs => ih _ (hs.reload toml change)
  exact hkeep _ (inv_start toml docs)

/-- A part of the state that only the changes of one file touch is a fold over its versions. -/
theorem foldl_file {α : Type} (part : State → α) (file : File) (f : α → Doc → α)
    (hsame : ∀ s doc, part (reload toml s (file, doc)) = f (part s) doc)
    (hother : ∀ s change, change.1 ≠ file → part (reload toml s change) = part s) (s : State) :
    part (changes.foldl (reload toml) s) =
      ((changes.filter (·.1 = file)).map Prod.snd).foldl f (part s) := by
  induction changes generalizing s with
  | nil => rfl
  | cons change changes ih =>
    rw [List.foldl_cons, ih]
    by_cases hfile : change.1 = file
    · have hchange : change = (file, change.2) := by rw [← hfile]
      rw [List.filter_cons_of_pos (by simpa using hfile), List.map_cons, List.foldl_cons, hchange, hsame]
    · rw [List.filter_cons_of_neg (by simpa using hfile), hother s change hfile]

/-- The captured source map: every version has been decoded into it. -/
theorem srcIpMap_reloaded : (reloaded toml docs changes).srcIpMap =
    (versions docs changes .srcip).foldl (fun m doc => toml.unmarshalSrcIps doc m) ∅ := by
  rw [versions, List.foldl_cons]
  refine foldl_file toml changes State.srcIpMap .srcip (fun m doc => toml.unmarshalSrcIps doc m)
    (fun s doc => rfl) (fun s change hne => ?_) (start toml docs)
  obtain ⟨file, doc⟩ := change
  cases file with
  | resource =>
    show (if toml.unmarshalWatch doc then s.updateResources s.aspMap else s).srcIpMap = _
    split_ifs <;> rfl
  | srcip => exact absurd rfl hne
  | peers role => rfl

/-- At the start a role's list is what its own file has. -/
theorem lists_start (role : Role) :
    (start toml docs).lists role role = (toml.peersAt (docs (.peers role)) role).getD [] := by
  cases role <;> exact toml.peers_eq _ _ _

/-- The captured list of a role. -/
theorem lists_reloaded (role : Role) :
    (reloaded toml docs changes).lists role role = lastList toml docs changes role := by
  rw [lastList, versions, List.foldl_cons, ← lists_start toml docs]
  refine foldl_file toml changes (fun s => s.lists role role) (.peers role)
    (fun peers doc => (toml.peersAt doc role).getD peers) (fun s doc => ?_) (fun s change hne => ?_) _
  · show Function.update s.lists role (toml.unmarshalPeers doc (s.lists role)) role role = _
    rw [Function.update_self, toml.peers_eq]
  · obtain ⟨file, doc⟩ := change
    cases file with
    | resource =>
      show (if toml.unmarshalWatch doc then s.updateResources s.aspMap else s).lists role role = _
      split_ifs <;> rfl
    | srcip => rfl
    | peers role' =>
      have hrole : role ≠ role' := fun heq => hne (congrArg File.peers heq.symm)
      show Function.update s.lists role' (toml.unmarshalPeers doc (s.lists role')) role role = _
      rw [Function.update_of_ne hrole]

/-- The versions of a file are those before the last, and the last. -/
theorem versions_eq (file : File) :
    versions docs changes file = (versions docs changes file).dropLast ++ [latest docs changes file] :=
  (List.dropLast_append_getLast _).symm

end Captured

/-! ## The device's map -/

section DeviceMap

/-- How a state belongs to what has been read: the device leads a key to the peer that the list of the role
    read last has for it. -/
structure Reads (s : State) (r : Reading) : Prop where
  lists : ∀ role, s.lists role role = r.lists role
  roleMap : ∀ role, s.peers.roleMap role = RolePeers.Peers.addAll role ∅ (r.lists role)
  peerMap : ∀ k, s.peers.peerMap.lookup k =
    (r.last k).bind fun role => (RolePeers.Peers.addAll role ∅ (r.lists role)).lookup k

/-- One reading of a role's file.  The key is in the new list, or has just left it, or is none of the role's. -/
theorem Reads.update {s : State} {r : Reading} (h : Reads s r) (role : Role) (doc : Doc) {lists : PeerLists}
    (hlists : lists role = (toml.peersAt doc role).getD (r.lists role)) :
    Reads (s.updatePeers role lists) (r.read toml (role, doc)) := by
  constructor
  · intro role'
    show Function.update s.lists role lists role' role' = Function.update r.lists role _ role'
    rw [Function.update_apply, Function.update_apply]
    split_ifs with heq
    · rw [heq, hlists]
    · exact h.lists role'
  · intro role'
    show (s.peers.updatePeers role (lists role)).roleMap role' =
      RolePeers.Peers.addAll role' ∅ (Function.update r.lists role _ role')
    rw [RolePeers.Peers.roleMap_updatePeers, Function.update_apply]
    split_ifs with heq
    · rw [heq, hlists]
    · exact h.roleMap role'
  · intro k
    show (s.peers.updatePeers role (lists role)).peerMap.lookup k = Option.bind (if _ then _ else _) fun role' =>
      (RolePeers.Peers.addAll role' ∅ (Function.update r.lists role _ role')).lookup k
    rw [RolePeers.Peers.lookup_updatePeers, h.roleMap, hlists]
    simp only [RolePeers.mem_addAll]
    generalize (toml.peersAt doc role).getD (r.lists role) = fresh
    by_cases hfresh : k ∈ fresh.map Listed.publicKeyBase64
    · obtain ⟨p, hp⟩ := Option.isSome_iff_exists.mp
        (AList.lookup_isSome.mpr ((RolePeers.mem_addAll role fresh k).mpr hfresh))
      rw [if_neg fun hgone => hgone.2 hfresh, if_pos (.inr hfresh), Option.bind_some, Function.update_self, hp,
        Option.some_or]
    have hnone : (RolePeers.Peers.addAll role ∅ fresh).lookup k = none :=
      AList.lookup_eq_none.mpr (mt (RolePeers.mem_addAll role fresh k).mp hfresh)
    by_cases hold : k ∈ (r.lists role).map Listed.publicKeyBase64
    · rw [if_pos ⟨hold, hfresh⟩, if_pos (.inl hold), Option.bind_some, Function.update_self, hnone]
    · rw [if_neg fun hgone => hold hgone.1, if_neg (not_or_intro hold hfresh), hnone, Option.none_or, h.peerMap]
      -- where the role was read last with the key, neither its old list nor its new one has the key now
      refine Option.bind_congr fun role' _ => ?_
      rw [Function.update_apply]
      split_ifs with heq
      · rw [heq, hnone]
        exact AList.lookup_eq_none.mpr (mt (RolePeers.mem_addAll role _ k).mp hold)
      · rfl

variable (docs : File → Doc) (changes : List (File × Doc))

/-- The device's map after the start leads where the three first readings leave it, -/
theorem reads_start : Reads (start toml docs) (reading toml docs []) := by
  have hempty : Reads { (start toml docs) with lists := fun _ _ => [], peers := .start } .start :=
    ⟨fun role => rfl, fun role => rfl, fun k => rfl⟩
  have hac := hempty.update toml .ac (docs (.peers .ac)) (toml.peers_eq _ (fun _ => []) _)
  have hagent := hac.update toml .agent (docs (.peers .agent)) (toml.peers_eq _ (fun _ => []) _)
  have hdb := hagent.update toml .db (docs (.peers .db)) (toml.peers_eq _ (fun _ => []) _)
  exact ⟨hdb.lists, hdb.roleMap, hdb.peerMap⟩

/-- and after any changes where all readings leave it. -/
theorem reads_reloaded : Reads (reloaded toml docs changes) (reading toml docs changes) := by
  have hfold : ∀ s r, Reads s r → Reads (changes.foldl (reload toml) s)
      ((changes.filterMap fun change =>
        match change with
        | (.peers role, doc) => some (role, doc)
        | _ => none).foldl (Reading.read toml) r) := by
    induction changes with
    | nil => exact fun s r h => h
    | cons change changes ih =>
      intro s r h
      obtain ⟨file, doc⟩ := change
      cases file with
      | resource =>
        refine ih _ r ?_
        show Reads (if toml.unmarshalWatch doc then s.updateResources s.aspMap else s) r
        split_ifs
        · exact ⟨h.lists, h.roleMap, h.peerMap⟩
        · exact h
      | srcip => exact ih _ r ⟨h.lists, h.roleMap, h.peerMap⟩
      | peers role =>
        refine ih _ _ (h.update toml role doc ?_)
        rw [toml.peers_eq, h.lists]
  rw [reading, peerReads, List.foldl_append]
  exact hfold _ _ (reads_start toml docs)

end DeviceMap

/-! ## Against a restart -/

section Restart

variable {toml} {docs : File → Doc} {changes : List (File × Doc)}

/-- A source is in none of the versions that have been decoded, or it is still there. -/
theorem lookup_foldl_srcIps (ds : List Doc) (m : SrcIpMap) (k : String) :
    (ds.foldl (fun m doc => toml.unmarshalSrcIps doc m) m).lookup k = none ↔
      m.lookup k = none ∧ ∀ doc ∈ ds, toml.srcIpAt doc k = none := by
  induction ds generalizing m with
  | nil => exact ⟨fun h => ⟨h, fun _ hd => absurd hd List.not_mem_nil⟩, fun h => h.1⟩
  | cons doc ds ih =>
    rw [List.foldl_cons, ih, toml.srcIps_eq, Option.or_eq_none_iff, List.forall_mem_cons]
    tauto

/-- The source map is that of the last version exactly when that has all sources there have been. -/
theorem srcIps_iff :
    (∀ k, (reloaded toml docs changes).srcIpAssociatedAddrMap.lookup k =
      (start toml (latest docs changes)).srcIpAssociatedAddrMap.lookup k) ↔
      ∀ doc ∈ versions docs changes .srcip, ∀ k, (toml.srcIpAt doc k).isSome →
        (toml.srcIpAt (latest docs changes .srcip) k).isSome := by
  have hstart : ∀ k, (start toml (latest docs changes)).srcIpAssociatedAddrMap.lookup k =
      toml.srcIpAt (latest docs changes .srcip) k := by
    intro k
    show (toml.unmarshalSrcIps (latest docs changes .srcip) ∅).lookup k = _
    rw [toml.srcIps_eq]
    exact Option.or_none
  rw [(inv_reloaded toml docs changes).srcIps, srcIpMap_reloaded]
  simp only [hstart]
  constructor
  · intro hsame doc hdoc k hsome
    rw [Option.isSome_iff_ne_none] at hsome ⊢
    rw [← hsame k]
    exact fun hnone => hsome (((lookup_foldl_srcIps _ _ _).mp hnone).2 doc hdoc)
  · intro hall k
    cases hk : toml.srcIpAt (latest docs changes .srcip) k with
    | some addrs =>
      -- the last version is decoded last
      rw [versions_eq, List.foldl_append, List.foldl_cons, List.foldl_nil, toml.srcIps_eq, hk, Option.some_or]
    | none =>
      refine (lookup_foldl_srcIps _ _ _).mpr ⟨rfl, fun doc hdoc => ?_⟩
      by_contra hne
      have hsome := hall doc hdoc k (Option.isSome_iff_ne_none.mpr hne)
      rw [hk] at hsome
      exact Bool.false_ne_true hsome

/-- A list without peers is the only one that makes an empty map. -/
theorem addAll_eq_none_iff (role : Role) (peers : List Listed) :
    (∀ k, (RolePeers.Peers.addAll role ∅ peers).lookup k = none) ↔ peers = [] := by
  constructor
  · intro hnone
    cases peers with
    | nil => rfl
    | cons p peers =>
      have hmem := (RolePeers.mem_addAll role (p :: peers) p.publicKeyBase64).mpr List.mem_cons_self
      exact absurd hmem (AList.lookup_eq_none.mp (hnone p.publicKeyBase64))
  · rintro rfl k
    rfl

/-- The last list is that of the last version, if it has one. -/
theorem lastList_eq_getD (toml : Toml Doc) (docs : File → Doc) (changes : List (File × Doc)) (role : Role) :
    lastList toml docs changes role = (toml.peersAt (latest docs changes (.peers role)) role).getD
      ((versions docs changes (.peers role)).dropLast.foldl
        (fun peers doc => (toml.peersAt doc role).getD peers) []) := by
  rw [lastList, versions_eq, List.foldl_append, ← versions_eq]
  rfl

/-- A role's map is that of the last version exactly when that has a list, or no peer is left over. -/
theorem roleMap_iff (role : Role) :
    (∀ k, ((reloaded toml docs changes).peers.roleMap role).lookup k =
      ((start toml (latest docs changes)).peers.roleMap role).lookup k) ↔
      ((toml.peersAt (latest docs changes (.peers role)) role).isSome ∨
        lastList toml docs changes role = []) := by
  have hlast := lastList_eq_getD toml docs changes role
  rw [(inv_reloaded toml docs changes).roleMap, (inv_start toml (latest docs changes)).roleMap,
    lists_reloaded, lists_start]
  cases hlist : toml.peersAt (latest docs changes (.peers role)) role with
  | some peers =>
    rw [hlast, hlist]
    exact iff_of_true (fun k => rfl) (.inl rfl)
  | none =>
    refine (addAll_eq_none_iff role _).trans ?_
    simp only [Option.isSome_none, Bool.false_eq_true, false_or]

/-- A role's list, when it is the one of the last version. -/
theorem lastList_eq (role : Role) (h : (toml.peersAt (latest docs changes (.peers role)) role).isSome ∨
    lastList toml docs changes role = []) :
    lastList toml docs changes role = lastList toml (latest docs changes) [] role := by
  have hlast := lastList_eq_getD toml docs changes role
  show _ = (toml.peersAt (latest docs changes (.peers role)) role).getD []
  cases hlist : toml.peersAt (latest docs changes (.peers role)) role with
  | some peers => rw [hlast, hlist, Option.getD_some, Option.getD_some]
  | none =>
    rw [hlist] at h
    exact h.resolve_left Bool.false_ne_true

/-- The peers that a role adds are peers of the role. -/
theorem deviceType_addAll {role : Role} {peers : List Listed} {k : String} {p : Core.UdpPeer}
    (hp : (RolePeers.Peers.addAll role ∅ peers).lookup k = some p) : p.deviceType = role.deviceType := by
  induction peers with
  | nil => cases hp
  | cons listed peers ih =>
    have hlookup : (RolePeers.Peers.addAll role ∅ (listed :: peers)).lookup k = _ :=
      RolePeers.Peers.lookup_addAll role (AList.insert listed.publicKeyBase64 _ ∅) peers k
    rw [hlookup] at hp
    rcases Option.or_eq_some_iff.mp hp with hp | ⟨-, hp⟩
    · exact ih hp
    · rw [AList.lookup_insert_eq_ite] at hp
      split_ifs at hp
      · cases hp
        rfl
      · cases hp

/-- The owner of a key has the key in its list. -/
theorem mem_of_ownerOf {lists : Role → List Listed} {k : String} {role : Role}
    (h : ownerOf lists k = some role) : k ∈ (lists role).map Listed.publicKeyBase64 := by
  have hsome := List.find?_some h
  exact of_decide_eq_true hsome

/-- Behind a start the role read last with a key in its list is its owner. -/
theorem last_start (docs : File → Doc) (k : String) :
    (reading toml docs []).last k = ownerOf (lastList toml docs []) k := by
  -- a start reads each file once, so the list before is empty
  have hlast : (reading toml docs []).last k =
      if k ∈ [] ∨ k ∈ (lastList toml docs [] .db).map Listed.publicKeyBase64 then some Role.db
      else if k ∈ [] ∨ k ∈ (lastList toml docs [] .agent).map Listed.publicKeyBase64 then some Role.agent
      else if k ∈ [] ∨ k ∈ (lastList toml docs [] .ac).map Listed.publicKeyBase64 then some Role.ac
      else none := rfl
  rw [hlast, ownerOf]
  simp only [List.not_mem_nil, false_or, List.find?_cons, List.find?_nil]
  split_ifs with hdb hagent hac
  · rw [decide_eq_true hdb]
  · rw [decide_eq_false hdb, decide_eq_true hagent]
  · rw [decide_eq_false hdb, decide_eq_false hagent, decide_eq_true hac]
  · rw [decide_eq_false hdb, decide_eq_false hagent, decide_eq_false hac]

/-- When the lists are those of the last versions, the device's map is the one of a restart exactly when each
    key was read last in the file of its owner: the peers of two roles differ in their type. -/
theorem device_iff (hlists : ∀ role, lastList toml docs changes role =
      lastList toml (latest docs changes) [] role) :
    (∀ k, (reloaded toml docs changes).peers.peerMap.lookup k =
      (start toml (latest docs changes)).peers.peerMap.lookup k) ↔
      ∀ k role, ownerOf (lastList toml docs changes) k = some role →
        (reading toml docs changes).last k = some role := by
  have hlook : ∀ k, (reloaded toml docs changes).peers.peerMap.lookup k =
      ((reading toml docs changes).last k).bind fun role =>
        (RolePeers.Peers.addAll role ∅ (lastList toml docs changes role)).lookup k := by
    intro k
    rw [(reads_reloaded toml docs changes).peerMap]
    simp only [← (reads_reloaded toml docs changes).lists, lists_reloaded]
  have hstart : ∀ k, (start toml (latest docs changes)).peers.peerMap.lookup k =
      (ownerOf (lastList toml docs changes) k).bind fun role =>
        (RolePeers.Peers.addAll role ∅ (lastList toml docs changes role)).lookup k := by
    intro k
    rw [(reads_start toml (latest docs changes)).peerMap, last_start, funext hlists]
    simp only [← (reads_start toml (latest docs changes)).lists, lists_start]
    rfl
  simp only [hlook, hstart]
  constructor
  · intro hsame k role howner
    have hmem : k ∈ RolePeers.Peers.addAll role ∅ (lastList toml docs changes role) :=
      (RolePeers.mem_addAll role _ k).mpr (mem_of_ownerOf howner)
    obtain ⟨p, hp⟩ := Option.isSome_iff_exists.mp (AList.lookup_isSome.mpr hmem)
    have hk := hsame k
    rw [howner, Option.bind_some, hp] at hk
    obtain ⟨role', hlast, hp'⟩ := Option.bind_eq_some_iff.mp hk
    have htype : role.deviceType = role'.deviceType :=
      (deviceType_addAll hp).symm.trans (deviceType_addAll hp')
    rw [hlast]
    revert htype
    cases role <;> cases role' <;> first | exact fun _ => rfl | exact nofun
  · intro hlast k
    cases howner : ownerOf (lastList toml docs changes) k with
    | some role => rw [hlast k role howner]
    | none =>
      -- a key without an owner is in no list
      refine Option.bind_eq_none_iff.mpr fun role _ => ?_
      apply AList.lookup_eq_none.mpr
      rw [RolePeers.mem_addAll]
      have hnot := List.find?_eq_none.mp howner role (by cases role <;> decide)
      rwa [decide_eq_true_iff] at hnot

end Restart

/-- After any changes the server is as restarted exactly when nothing was to go. -/
theorem reload_iff (docs : File → Doc) (changes : List (File × Doc)) :
    AsRestarted toml docs changes ↔ NothingGone toml docs changes := by
  have hresource : (reloaded toml docs changes).authServiceMap = loadResources toml (docs .resource) := by
    rw [(inv_reloaded toml docs changes).authServiceMap, (inv_reloaded toml docs changes).aspMap]
  constructor
  · intro h
    have hpeers : ∀ role, _ := fun role => (roleMap_iff role).mp (h.roleMap role)
    refine ⟨fun k => ?_, srcIps_iff.mp h.srcIpAssociatedAddrMap, hpeers,
      (device_iff fun role => lastList_eq role (hpeers role)).mp h.peerMap⟩
    rw [← hresource]
    exact h.authServiceMap k
  · intro h
    refine ⟨fun k => ?_, srcIps_iff.mpr h.srcip, fun role => (roleMap_iff role).mpr (h.peers role),
      (device_iff fun role => lastList_eq role (h.peers role)).mpr h.device⟩
    rw [hresource]
    exact h.resource k

/-! ## Files that lose an entry -/

/-- A document that has been parsed. -/
structure Parsed where
  peers : Role → Option (List Listed) := fun _ => none
  srcIps : SrcIpMap := ∅
  providers : AuthSvcProviderMap := ∅

/-- A decoder of parsed documents. -/
def parsedToml : Toml Parsed where
  peersAt doc := doc.peers
  srcIpAt doc k := doc.srcIps.lookup k
  unmarshalPeers doc target role := (doc.peers role).getD (target role)
  unmarshalSrcIps doc target := doc.srcIps ∪ target
  unmarshalResources doc target := doc.providers ∪ target
  unmarshalWatch _ := true
  peers_eq _ _ _ := rfl
  srcIps_eq doc target k := by
    cases hk : doc.srcIps.lookup k with
    | none => rw [AList.lookup_union_right (AList.lookup_eq_none.mp hk), Option.none_or]
    | some addrs =>
      rw [AList.lookup_union_left (AList.lookup_isSome.mp (Option.isSome_of_eq_some hk)), hk, Option.some_or]

/-- One access controller, one source and no provider. -/
def firstVersions : File → Parsed
  | .resource => {}
  | .srcip => { srcIps := AList.singleton "192.168.2.27" [⟨"192.168.2.26", 0, ""⟩] }
  | .peers .ac => { peers := Function.update (fun _ => none) .ac (some [⟨"ac1", RolePeers.samplePeer⟩]) }
  | .peers _ => {}

/-- A provider with no resource groups. -/
def exampleProvider : AuthServiceProviderData where
  resourceGroups := ∅
  authSvcId := ""
  pluginPath := "example/example.so"
  pluginHash := ""

/-- A provider is added, and in the other files the only entry is deleted. -/
def lastVersions : List (File × Parsed) :=
  [(.resource, { providers := AList.singleton "example" exampleProvider }), (.srcip, {}), (.peers .ac, {})]

/-- The new provider is missing, and the source and the access controller are still there. -/
theorem deleted_entries_stay :
    ((reloaded parsedToml firstVersions lastVersions).authServiceMap.lookup "example").isNone = true ∧
      ((reloaded parsedToml firstVersions lastVersions).srcIpAssociatedAddrMap.lookup "192.168.2.27").isSome =
        true ∧
      (((reloaded parsedToml firstVersions lastVersions).peers.roleMap .ac).lookup "ac1").isSome = true ∧
      ¬ AsRestarted parsedToml firstVersions lastVersions := by
  refine ⟨by decide +kernel, by decide +kernel, by decide +kernel, fun h => ?_⟩
  have hsame := congrArg Option.isSome (h.authServiceMap "example")
  revert hsame
  decide +kernel

end OpenNHP.Server.HotReload
