/-
  Taking a rule back by adding it again with a shorter lifetime.

  1. **The program.**  Userland takes a rule back by writing it again with a lifetime of one second, as for an
     exit.  That writes the map of the rule, and nothing else.  But the frames that an earlier rule has let in
     have left connection entries that last as long as that rule would have, and `xdp_white_prog` asks them first.

  2. **The property.**  `Host.Revoked`: behind the last addition of the rule, no frame of its flow is passed once
     that addition has expired.

  3. **The condition.**  A rule is taken back exactly as far as no connection entry that is still alive ends after
     the new rule (`Outlives`).  A run meets it when each addition in it finds no such entry (`Unoutlived`).

  4. **The invariant.**  `Host.Kept`: the entry of the rule has the end of the last addition, and every connection
     entry that its frames have left ends no later.  Each event keeps it under the condition, and it gives the
     property in every state (`rule_revoked`).  The other direction is a frame: where a connection entry outlives
     the rule, there is a time behind the rule's end at which that entry passes it (`Host.Outlives.passes`).
-/
import OpenNHP.AC.Egress

namespace OpenNHP.AC

open Inet BigEndian Runs

/-! ## One rule and its flow -/

/-- The end of a connection entry. -/
def ConnValue.expireTime (v : ConnValue) : UInt64 := v.timestamp + v.ttlNs

/-- A connection entry is alive up to its end. -/
theorem not_expired_iff {v : ConnValue} {now : UInt64} : v.expired now = false ↔ now ≤ v.expireTime := by
  rw [ConnValue.expired, decide_eq_false_iff_not, UInt64.not_lt]
  rfl

/-- What happens in a history of one rule: the rule is added, frames arrive, time passes, and the maps
    evict. -/
def HostEvent.OfRule (mapType : Int) (params : EbpfRuleParams) : HostEvent → Prop
  | .addRule mapType' params' _ => mapType' = mapType ∧ params' = params
  | .egress _ => False
  | _ => True

/-- A connection entry that is still alive ends after a time. -/
def Host.Outlives (h : Host) (expireTime : UInt64) : Prop :=
  ∃ t v, h.xdp.connTrack t = some v ∧ h.clock ≤ v.expireTime ∧ expireTime < v.expireTime

/-- A rule is added only where no connection entry outlives it. -/
def Host.Unoutlived (h : Host) : HostEvent → Prop
  | .addRule _ _ ttlSec => ¬ h.Outlives (toValue h.clock (uint64 ttlSec)).expireTime
  | _ => True

/-- After the end of the rule that was added last, no frame of its flow is passed. -/
def Host.Revoked (h : Host) : Prop :=
  ∀ u, h.installed.getLast? = some u → u.value.expireTime < h.clock →
    ∀ data, (u.map, u.key) ∈ (readFrame data).ownKeys → (xdpWhiteProg h.clock data h.xdp).2 = .drop

/-- A rule has the same key whenever it is added. -/
theorem ebpfRuleAdd_at (net6 : Net6) (now : UInt64) (mapType : Int) (params : EbpfRuleParams) (ttl : Int) :
    ebpfRuleAdd net6 now mapType params ttl =
      (ebpfRuleAdd net6 0 mapType params 0).map fun u => { u with now := now, ttlSec := uint64 ttl } := by
  unfold ebpfRuleAdd
  cases protocolNumber params.protocol with
  | error e => rfl
  | ok protocol =>
    show (if mapType = 1 then _ else _) = Except.map _ (if mapType = 1 then _ else _)
    split_ifs
    · unfold addEbpfRuleForSrcDstPortProto
      cases parseIP net6 params.srcIP <;> cases parseIP net6 params.dstIP <;> rfl
    · unfold addEbpfRuleForSrcDst
      cases parseIP net6 params.srcIP <;> cases parseIP net6 params.dstIP <;> rfl
    · unfold addEbpfIcmpRuleForSrcDst
      cases parseIP net6 params.srcIP <;> cases parseIP net6 params.dstIP <;> rfl
    · unfold addEbpfRuleForSrcDestPort
      cases parseIP net6 params.srcIP <;> cases safeIntToUint16 params.dstPort <;> rfl
    · unfold addEbpfRuleForSrcDestPortList
      cases parseIP net6 params.srcIP <;> cases safeIntToUint16 params.dstPortStart <;>
        cases safeIntToUint16 params.dstPortEnd <;> rfl
    · rfl
    · rfl

section History

variable {net6 : Net6} {mapType : Int} {params : EbpfRuleParams} {h h' : Host} {e : HostEvent}

/-- What is alive under a key is the rule added last, or ends before it. -/
def Host.UnderLast (h : Host) (m : MapName) (key : Bytes) (expireTime : UInt64) : Prop :=
  h.clock ≤ expireTime →
    ∃ u, h.installed.getLast? = some u ∧ u.map = m ∧ u.key = key ∧ expireTime ≤ u.value.expireTime

/-- Nothing but the one rule has been installed, and nothing alive outlives its last addition. -/
structure Host.Kept (net6 : Net6) (mapType : Int) (params : EbpfRuleParams) (h : Host) : Prop where
  installed : ∀ u ∈ h.installed, ∃ u₀, ebpfRuleAdd net6 0 mapType params 0 = .ok u₀ ∧ u.map = u₀.map ∧
    u.key = u₀.key
  accounted : h.xdp.Accounted h.UnderLast

/-- No rule was added yet. -/
theorem Host.Kept.boot (clock : UInt64) : (Host.boot clock).Kept net6 mapType params where
  installed := nofun
  accounted := ⟨nofun, nofun⟩

/-- The key does not depend on the time. -/
theorem ebpfRuleAdd_key {now : UInt64} {ttl : Int} {u : MapUpdate}
    (hu : ebpfRuleAdd net6 now mapType params ttl = .ok u) :
    ∃ u₀, ebpfRuleAdd net6 0 mapType params 0 = .ok u₀ ∧ u.map = u₀.map ∧ u.key = u₀.key := by
  rw [ebpfRuleAdd_at] at hu
  cases hadd : ebpfRuleAdd net6 0 mapType params 0 with
  | error e =>
    rw [hadd] at hu
    cases hu
  | ok u₀ =>
    rw [hadd] at hu
    cases hu
    exact ⟨u₀, rfl, rfl, rfl⟩

/-- Adding the rule, where no connection entry outlives it. -/
theorem Host.Kept.install (hkept : h.Kept net6 mapType params) {ttl : Int} {u : MapUpdate}
    (hu : ebpfRuleAdd net6 h.clock mapType params ttl = .ok u) (hout : ¬ h.Outlives u.value.expireTime) :
    (h.install u).Kept net6 mapType params := by
  obtain ⟨u₀, hadd, hmap, hkey⟩ := ebpfRuleAdd_key hu
  have hlast : (h.install u).installed.getLast? = some u := List.getLast?_concat
  -- an entry that is alive was under the last addition, so under this rule's key
  have hsame : ∀ {m key e}, h.UnderLast m key e → h.clock ≤ e → u.map = m ∧ u.key = key := by
    intro m key e hO halive
    obtain ⟨u', hu', rfl, rfl, -⟩ := hO halive
    obtain ⟨u₁, hadd', hmap', hkey'⟩ := hkept.installed u' (List.mem_of_getLast? hu')
    rw [hadd] at hadd'
    cases hadd'
    exact ⟨hmap.trans hmap'.symm, hkey.trans hkey'.symm⟩
  refine ⟨fun u' hu' => ?_, fun m key v hv => ?_, fun t v hv => ?_⟩
  · rcases List.mem_append.mp hu' with hold | hnew
    · exact hkept.installed u' hold
    · rw [List.mem_singleton.mp hnew]
      exact ⟨u₀, hadd, hmap, hkey⟩
  · change (if m = u.map ∧ key = u.key then some u.value else h.xdp.maps m key) = some v at hv
    split at hv
    · rename_i hrule
      cases hv
      exact ⟨rfl, fun _ => ⟨u, hlast, hrule.1.symm, hrule.2.symm, UInt64.le_refl _⟩⟩
    · rename_i hother
      obtain ⟨hallowed, hO⟩ := hkept.accounted.rules m key v hv
      refine ⟨hallowed, fun halive => absurd ?_ hother⟩
      obtain ⟨rfl, rfl⟩ := hsame hO halive
      exact ⟨rfl, rfl⟩
  · obtain ⟨hflags, m, key, hlooks, hO⟩ := hkept.accounted.conns t v hv
    refine ⟨hflags, m, key, hlooks, fun halive => ?_⟩
    obtain ⟨rfl, rfl⟩ := hsame hO halive
    exact ⟨u, hlast, rfl, rfl, UInt64.not_lt.mp fun hlt => hout ⟨t, v, hv, halive, hlt⟩⟩

/-- Every event that meets the condition keeps the invariant. -/
theorem Host.Kept.step (hkept : h.Kept net6 mapType params) (hrule : e.OfRule mapType params)
    (hout : h.Unoutlived e) (hstep : h.step net6 e = some h') : h'.Kept net6 mapType params := by
  cases e with
  | addRule mapType' params' ttl =>
    obtain ⟨rfl, rfl⟩ := hrule
    rw [Host.step] at hstep
    cases hu : ebpfRuleAdd net6 h.clock mapType' params' ttl with
    | error _ =>
      rw [hu] at hstep
      cases hstep
      exact hkept
    | ok u =>
      rw [hu] at hstep
      cases hstep
      obtain ⟨hnow, httl⟩ := ebpfRuleAdd_times hu
      refine hkept.install hu ?_
      rw [MapUpdate.value, hnow, httl]
      exact hout
  | ingress data =>
    cases hstep
    exact ⟨hkept.installed, (xdpWhiteProg_accounted hkept.accounted).1⟩
  | egress data => exact hrule.elim
  | tick now =>
    rw [Host.step] at hstep
    split at hstep
    · rename_i hle
      cases hstep
      refine ⟨hkept.installed, hkept.accounted.mono fun m key e hO halive => hO ?_⟩
      exact UInt64.le_trans hle halive
    · cases hstep
  | evictRule m key =>
    cases hstep
    exact ⟨hkept.installed, hkept.accounted.deleteRule m key⟩
  | evictConn t =>
    cases hstep
    exact ⟨hkept.installed, hkept.accounted.untrack t⟩

/-- Where it holds no frame is passed behind the end. -/
theorem Host.Kept.revoked (hkept : h.Kept net6 mapType params) : h.Revoked := by
  intro u hlast hexpired data hown
  cases hverdict : (xdpWhiteProg h.clock data h.xdp).2 with
  | drop => rfl
  | pass =>
    obtain ⟨v, hfixed⟩ | ⟨m, key, e, -, hO, halive⟩ := (xdpWhiteProg_accounted hkept.accounted).2 hverdict
    · rw [hfixed] at hown
      cases hown
    · obtain ⟨u', hu', -, -, hle⟩ := hO (UInt64.not_lt.mp halive)
      rw [hlast] at hu'
      cases hu'
      exact absurd (UInt64.lt_of_le_of_lt hle hexpired) halive

/-- The frames of a connection entry that outlives the new rule are passed until the entry's end. -/
theorem Host.Outlives.passes {u : MapUpdate} (hout : h.Outlives u.value.expireTime) :
    ∃ t now, h.clock ≤ now ∧ u.value.expireTime < now ∧
      ∀ data protocol, readFrame data = .flow t protocol →
        (xdpWhiteProg now data (h.install u).xdp).2 = .pass := by
  obtain ⟨t, v, hv, halive, hlt⟩ := hout
  refine ⟨t, v.expireTime, halive, hlt, fun data protocol hread => ?_⟩
  have hconn : (h.install u).xdp.connTrack t = some v := hv
  have hexpired : v.expired v.expireTime = false := not_expired_iff.mpr (UInt64.le_refl _)
  rw [xdpWhiteProg_read, hread, Reading.judge, checkFlow, checkConn, hconn]
  simp [hexpired]

end History

/-- **Revocation.** In every history of a rule in which it is added only where no connection entry outlives
    it, no frame of its flow is passed after the end of its last addition; and where one outlives a further
    addition, its frames are passed after the end of that. -/
theorem rule_revoked {net6 : Net6} {mapType : Int} {params : EbpfRuleParams} {clock : UInt64}
    {events : List HostEvent} {h : Host}
    (hsteps : Steps (Host.step net6) (fun h e => e.OfRule mapType params ∧ h.Unoutlived e)
      (.boot clock) events)
    (hrun : run (Host.step net6) (.boot clock) events = some h) :
    h.Revoked ∧ ∀ u, h.Outlives u.value.expireTime → ∃ t now, h.clock ≤ now ∧ u.value.expireTime < now ∧
      ∀ data protocol, readFrame data = .flow t protocol →
        (xdpWhiteProg now data (h.install u).xdp).2 = .pass := by
  have hkept : h.Kept net6 mapType params :=
    run_invariant_of (fun _ _ _ hC hI hstep => hI.step hC.1 hC.2 hstep) hsteps (Host.Kept.boot clock) hrun
  exact ⟨hkept.revoked, fun u hout => hout.passes⟩

/-! ## Samples -/

/-- The rule for port 443 of the service. -/
def webRule : EbpfRuleParams :=
  { srcIP := "10.0.0.1", dstIP := "10.1.0.1", dstPort := 443, protocol := "tcp" }

/-- The rule for a minute and at once again for a second, then a frame; twenty seconds later. -/
def shortenedRun : List HostEvent :=
  [.addRule 1 webRule 60, .addRule 1 webRule 1, .ingress sampleRequest, .tick 20000000000]

/-- The rule for a minute, a frame, and after ten seconds the rule again for a second; ten seconds later. -/
def exitRun : List HostEvent :=
  [.addRule 1 webRule 60, .ingress sampleRequest, .tick 10000000000, .addRule 1 webRule 1, .tick 20000000000]

/-- A rule is shortened before any frame has used it. -/
theorem rule_revoked_sample :
    ∃ h, run (Host.step noNet6) (.boot 0) shortenedRun = some h ∧ h.installed.length = 2 ∧ h.Revoked := by
  have hrun : run (Host.step noNet6) (.boot 0) shortenedRun = some _ := rfl
  have hsteps : Steps (Host.step noNet6) (fun h e => e.OfRule 1 webRule ∧ h.Unoutlived e) (.boot 0)
      shortenedRun := by
    refine ⟨⟨⟨rfl, rfl⟩, ?_⟩, fun h₁ hh₁ => ⟨⟨⟨rfl, rfl⟩, ?_⟩, fun h₂ _ => ?_⟩⟩
    · rintro ⟨t, v, hv, -⟩
      cases hv
    · have htrack : h₁.xdp.connTrack = fun _ => none := by
        rw [Host.step] at hh₁
        split at hh₁ <;> cases hh₁ <;> rfl
      rintro ⟨t, v, hv, -⟩
      rw [htrack] at hv
      cases hv
    · exact ⟨⟨trivial, trivial⟩, fun _ _ => ⟨⟨trivial, trivial⟩, fun _ _ => trivial⟩⟩
  exact ⟨_, hrun, rfl, (rule_revoked hsteps hrun).1⟩

/-- The agent's frames are still passed. -/
theorem exit_not_effective : ¬ ∀ clock events h, (∀ e ∈ events, e.OfRule 1 webRule) →
    run (Host.step noNet6) (.boot clock) events = some h → h.Revoked := by
  intro hall
  have hrule : ∀ e ∈ exitRun, e.OfRule 1 webRule := by
    simp [exitRun, HostEvent.OfRule]
  have hrun : run (Host.step noNet6) (.boot 0) exitRun = some _ := rfl
  have hdrop := hall 0 exitRun _ hrule hrun _ rfl (by decide) sampleRequest (by decide)
  exact absurd hdrop (by decide)

end OpenNHP.AC
