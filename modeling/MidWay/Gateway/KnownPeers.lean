import MidWay.CLib.Bytes
import MidWay.Lib.TwoLevel

/-!
Contract: the lists of peers that the gateway knows.

The hosts are in one block, whose size is written as `sizeof(char *) * i+2`: two bytes more than
the pointers that were in it, where two pointers are stored. The peers are in blocks of 16,
which stay where they are while the directory of their addresses grows.

Owns: `gw_addknownpeerhost`, `addKnownPeer`, and that a run stays inside its blocks exactly when
no host is added.
-/

namespace MidWay.Gateway.KnownPeers

open MidWay.CLib MidWay.Lib

variable {Info : Type}

inductive Fault where
  | overrun
  | wild
deriving DecidableEq

/-- The fields of a `struct gwpeerinfo` behind the name are `Info`. -/
structure GwPeer (Info : Type) where
  instanceName : List Byte
  info : Info

/-- The address of an entry, and what is at it once it is written. -/
structure Entry (Info : Type) where
  address : Nat
  peer : Option (GwPeer Info)

/-- A pointer of the directory that was not written leads to no entries. -/
structure PeerLists (Info : Type) where
  peerhostnames : Option (List (List Byte))
  knownGWs : List (List (Entry Info))
  gwCount : Nat
  gwAlloccount : Nat

def noPeers : PeerLists Info := ⟨none, [], 0, 0⟩

def dirsize : Nat := 16
def sizeofPointer : Nat := 8

/-- The store of a pointer in a block of so many bytes. -/
def PointerFits (size index : Nat) : Prop := sizeofPointer * index + sizeofPointer ≤ size

instance (size index : Nat) : Decidable (PointerFits size index) :=
  inferInstanceAs (Decidable (_ ≤ _))

/-- The name and the null pointer behind it go into the new block. -/
def PeerLists.storeHost (lists : PeerLists Info) (names : List (List Byte)) (hostname : List Byte) :
    Except Fault (PeerLists Info) :=
  let size := sizeofPointer * names.length + 2
  if PointerFits size names.length ∧ PointerFits size (names.length + 1) then
    .ok { lists with peerhostnames := some (names ++ [hostname]) }
  else .error .overrun

def gwAddknownpeerhost (lists : PeerLists Info) (hostname : List Byte) :
    Except Fault (PeerLists Info) :=
  match lists.peerhostnames with
  | some names => if hostname ∈ names then .ok lists else lists.storeHost names hostname
  | none => lists.storeHost [] hostname

/-- The loop to the entry with the name, from `i` on. -/
def PeerLists.findPeer (lists : PeerLists Info) (name : List Byte) :
    Nat → Nat → Except Fault (Option Nat)
  | 0, _ => .ok none
  | turns + 1, i =>
      match (entryAt dirsize lists.knownGWs i).bind Entry.peer with
      | none => .error .wild
      | some peer =>
          if peer.instanceName = name then .ok (some i) else lists.findPeer name turns (i + 1)

/-- A block at `fresh`, whose entries have `sizeofPeer` bytes each. -/
def newBlock (sizeofPeer fresh : Nat) : List (Entry Info) :=
  (List.range dirsize).map fun k => ⟨fresh + sizeofPeer * k, none⟩

/-- The directory is reallocated, and has one more block. -/
def PeerLists.extend (sizeofPeer fresh : Nat) (lists : PeerLists Info) :
    Except Fault (PeerLists Info) :=
  let alloccount := lists.gwAlloccount + dirsize
  let size := alloccount * sizeofPointer / dirsize
  let grown := lists.knownGWs ++
    List.replicate (size / sizeofPointer - lists.knownGWs.length) []
  if PointerFits size (lists.gwCount / dirsize) then
    .ok { lists with
      knownGWs := grown.set (lists.gwCount / dirsize) (newBlock sizeofPeer fresh)
      gwAlloccount := alloccount }
  else .error .overrun

/-- The peer is stored, and the address of its entry returned. -/
def PeerLists.storePeer (lists : PeerLists Info) (idx : Nat) (peer : GwPeer Info) :
    Except Fault (PeerLists Info × Nat) :=
  match entryAt dirsize lists.knownGWs idx with
  | none => .error .wild
  | some entry =>
      .ok ({ lists with
        knownGWs := modifyAt dirsize lists.knownGWs idx fun entry =>
          { entry with peer := some peer } },
        entry.address)

def addKnownPeer (sizeofPeer fresh : Nat) (lists : PeerLists Info) (peer : GwPeer Info) :
    Except Fault (PeerLists Info × Nat) :=
  match lists.findPeer peer.instanceName lists.gwCount 0 with
  | .error fault => .error fault
  | .ok (some idx) =>
      match entryAt dirsize lists.knownGWs idx with
      | none => .error .wild
      | some entry => .ok (lists, entry.address)
  | .ok none =>
      let idx := lists.gwCount
      let counted := { lists with gwCount := lists.gwCount + 1 }
      if counted.gwAlloccount ≤ counted.gwCount then
        match counted.extend sizeofPeer fresh with
        | .error fault => .error fault
        | .ok extended => extended.storePeer idx peer
      else counted.storePeer idx peer

inductive PeerCall (Info : Type) where
  | host (hostname : List Byte)
  | peer (fresh : Nat) (peer : GwPeer Info)

def PeerCall.run (sizeofPeer : Nat) (lists : PeerLists Info) :
    PeerCall Info → Except Fault (PeerLists Info)
  | .host hostname => gwAddknownpeerhost lists hostname
  | .peer fresh known => (addKnownPeer sizeofPeer fresh lists known).map Prod.fst

/-- All peers are reached by their indexes, and each by one. -/
structure PeerLists.Complete (lists : PeerLists Info) (peers : List (GwPeer Info)) : Prop where
  count : lists.gwCount = peers.length
  reached : ∀ (idx : Nat) (inside : idx < peers.length),
    (entryAt dirsize lists.knownGWs idx).bind Entry.peer = some peers[idx]
  nodup : (peers.map GwPeer.instanceName).Nodup

/-- The entries that were there are where they were, with what they held. -/
def PeerLists.Keeps (before after : PeerLists Info) : Prop :=
  ∀ idx < before.gwCount,
    entryAt dirsize after.knownGWs idx = entryAt dirsize before.knownGWs idx

/-- Every call of a run stays inside its blocks and keeps the entries, and all names are reached
and distinct behind each of them. -/
def Safe (sizeofPeer : Nat) : PeerLists Info → List (PeerCall Info) → Prop
  | lists, [] => (∃ peers, lists.Complete peers) ∧ ∀ names ∈ lists.peerhostnames, names.Nodup
  | lists, call :: rest =>
      ((∃ peers, lists.Complete peers) ∧ ∀ names ∈ lists.peerhostnames, names.Nodup) ∧
        ∃ after, call.run sizeofPeer lists = .ok after ∧ lists.Keeps after ∧
          Safe sizeofPeer after rest

def PeerCall.AddsHost : PeerCall Info → Prop
  | .host .. => True
  | .peer .. => False

/-- No host was added, and all entries are in blocks that the directory leads to. -/
structure Stored (lists : PeerLists Info) (peers : List (GwPeer Info)) : Prop where
  reached : ∀ (idx : Nat) (inside : idx < peers.length),
    (entryAt dirsize lists.knownGWs idx).bind Entry.peer = some peers[idx]
  nodup : (peers.map GwPeer.instanceName).Nodup
  noHosts : lists.peerhostnames = none
  wide : AllWide dirsize lists.knownGWs
  alloc : lists.gwAlloccount = lists.knownGWs.length * dirsize

structure Growing (lists : PeerLists Info) (peers : List (GwPeer Info)) : Prop extends
    Stored lists peers where
  count : lists.gwCount = peers.length
  room : peers.length < lists.gwAlloccount ∨ peers.length = 0 ∧ lists.gwAlloccount = 0

section

variable {lists : PeerLists Info} {peers : List (GwPeer Info)}

theorem findPeer_eq (stored : Stored lists peers) (name : List Byte) {turns i : Nat}
    (isRest : i + turns = peers.length) :
    lists.findPeer name turns i =
      .ok (((peers.drop i).findIdx? fun peer => peer.instanceName = name).map (i + ·)) := by
  induction turns generalizing i with
  | zero =>
      rw [List.drop_of_length_le (by omega)]
      rfl
  | succ turns ih =>
      have inside : i < peers.length := by omega
      rw [PeerLists.findPeer, stored.reached i inside, List.drop_eq_getElem_cons inside,
        List.findIdx?_cons]
      dsimp only
      by_cases isName : peers[i].instanceName = name
      · simp [isName]
      · rw [if_neg isName, ih (by omega)]
        simp [isName, Function.comp_def, Nat.add_assoc, Nat.add_comm 1]

/-- A new peer goes into an entry behind the others. -/
theorem Stored.storePeer (stored : Stored lists peers) (count : lists.gwCount = peers.length + 1)
    (room : lists.gwCount < lists.gwAlloccount) {peer : GwPeer Info}
    (isNew : peer.instanceName ∉ peers.map GwPeer.instanceName) :
    ∃ after address, lists.storePeer peers.length peer = .ok (after, address) ∧
      Growing after (peers ++ [peer]) ∧ ∀ idx < peers.length,
        entryAt dirsize after.knownGWs idx = entryAt dirsize lists.knownGWs idx := by
  have inside : (entryAt dirsize lists.knownGWs peers.length).isSome = true := by
    rw [stored.wide.entryAt_isSome, ← stored.alloc]
    omega
  obtain ⟨entry, isEntry⟩ := Option.isSome_iff_exists.mp inside
  rw [PeerLists.storePeer, isEntry]
  have others : ∀ idx < peers.length,
      entryAt dirsize (modifyAt dirsize lists.knownGWs peers.length fun entry =>
        { entry with peer := some peer }) idx = entryAt dirsize lists.knownGWs idx := by
    intro idx below
    rw [entryAt_modifyAt, if_neg (by omega)]
  refine ⟨_, _, rfl, ⟨⟨?_, ?_, stored.noHosts, stored.wide.modifyAt _ _, ?_⟩, by simp [count],
    .inl (by simpa [count] using room)⟩, others⟩
  · intro idx below
    dsimp only
    rw [List.length_append, List.length_singleton] at below
    obtain isOld | rfl := Nat.lt_succ_iff_lt_or_eq.mp below
    · rw [others idx isOld, stored.reached idx isOld, List.getElem_append_left isOld]
    · rw [entryAt_modifyAt, if_pos rfl, isEntry]
      simp
  · rw [List.map_append]
    refine List.nodup_append.mpr ⟨stored.nodup, by simp, ?_⟩
    rintro name member _ inNew rfl
    exact isNew (List.mem_singleton.mp inNew ▸ member)
  · dsimp only
    rw [length_modifyAt, stored.alloc]

/-- The block is the next one, also when there is none yet. -/
theorem Stored.extend (stored : Stored lists peers) (count : lists.gwCount = peers.length + 1)
    (room : peers.length < lists.gwAlloccount ∨ peers.length = 0 ∧ lists.gwAlloccount = 0)
    (full : lists.gwAlloccount ≤ lists.gwCount) (sizeofPeer fresh : Nat) :
    ∃ extended, lists.extend sizeofPeer fresh = .ok extended ∧ Stored extended peers ∧
      extended.gwCount = peers.length + 1 ∧ extended.gwCount < extended.gwAlloccount ∧
      ∀ idx < peers.length,
        entryAt dirsize extended.knownGWs idx = entryAt dirsize lists.knownGWs idx := by
  have alloc := stored.alloc
  have place : lists.gwCount / dirsize = lists.knownGWs.length := by
    unfold dirsize at *
    omega
  have size : (lists.gwAlloccount + dirsize) * sizeofPointer / dirsize =
      sizeofPointer * (lists.knownGWs.length + 1) := by
    unfold dirsize sizeofPointer at *
    omega
  have more : sizeofPointer * (lists.knownGWs.length + 1) / sizeofPointer -
      lists.knownGWs.length = 1 := by
    unfold sizeofPointer
    omega
  have fits : PointerFits (sizeofPointer * (lists.knownGWs.length + 1)) lists.knownGWs.length :=
    Nat.le_refl _
  have kept : ∀ idx < peers.length,
      entryAt dirsize (lists.knownGWs ++ [newBlock sizeofPeer fresh]) idx =
        entryAt dirsize lists.knownGWs idx := by
    intro idx below
    apply entryAt_append
    omega
  have grown : (lists.knownGWs ++ List.replicate 1 []).set lists.knownGWs.length
      (newBlock sizeofPeer fresh) = lists.knownGWs ++ [newBlock sizeofPeer fresh] := by
    simp
  unfold PeerLists.extend
  dsimp only
  rw [size, place, more, if_pos fits, grown]
  refine ⟨_, rfl, ⟨?_, stored.nodup, stored.noHosts, ?_, ?_⟩, count, ?_, kept⟩
  · intro idx inside
    dsimp only
    rw [kept idx inside, stored.reached idx inside]
  · refine stored.wide.append ?_
    simp [AllWide, newBlock]
  · simp [alloc, Nat.add_mul]
  · dsimp only
    unfold dirsize at *
    omega

theorem Growing.addKnownPeer (growing : Growing lists peers) (sizeofPeer fresh : Nat)
    (peer : GwPeer Info) : ∃ after address more,
      addKnownPeer sizeofPeer fresh lists peer = .ok (after, address) ∧ Growing after more ∧
        lists.Keeps after := by
  have count := growing.count
  rw [KnownPeers.addKnownPeer, findPeer_eq growing.toStored _ (Nat.zero_add _ ▸ count),
    List.drop_zero]
  cases isFound : peers.findIdx? fun other => other.instanceName = peer.instanceName with
  | some idx =>
      have inside : idx < peers.length := (List.findIdx?_eq_some_iff_findIdx_eq.mp isFound).1
      obtain ⟨entry, isEntry, _⟩ := Option.bind_eq_some_iff.mp (growing.reached idx inside)
      simp only [Option.map_some, Nat.zero_add]
      rw [isEntry]
      exact ⟨lists, entry.address, peers, rfl, growing, fun _ _ => rfl⟩
  | none =>
      have isNew : peer.instanceName ∉ peers.map GwPeer.instanceName := by
        rw [List.findIdx?_eq_none_iff] at isFound
        intro member
        obtain ⟨other, inPeers, same⟩ := List.mem_map.mp member
        simpa [same] using isFound other inPeers
      have stored : Stored { lists with gwCount := lists.gwCount + 1 } peers :=
        ⟨growing.reached, growing.nodup, growing.noHosts, growing.wide, growing.alloc⟩
      have counted : lists.gwCount + 1 = peers.length + 1 := by rw [count]
      simp only [Option.map_none]
      by_cases full : lists.gwAlloccount ≤ lists.gwCount + 1
      · obtain ⟨extended, isExtended, storedNow, countNow, roomNow, kept⟩ :=
          stored.extend counted growing.room full sizeofPeer fresh
        obtain ⟨after, address, isStored, next, others⟩ :=
          storedNow.storePeer countNow roomNow isNew
        rw [if_pos full, isExtended]
        dsimp only
        rw [count, isStored]
        refine ⟨after, address, _, rfl, next, fun idx below => ?_⟩
        rw [others idx (count ▸ below), kept idx (count ▸ below)]
      · obtain ⟨after, address, isStored, next, others⟩ :=
          stored.storePeer counted (Nat.lt_of_not_le full) isNew
        rw [if_neg full]
        rw [← count] at isStored
        exact ⟨after, address, _, isStored, next, fun idx below => others idx (count ▸ below)⟩

theorem Growing.safe_iff (growing : Growing lists peers) (sizeofPeer : Nat)
    (calls : List (PeerCall Info)) :
    Safe sizeofPeer lists calls ↔ ∀ call ∈ calls, ¬call.AddsHost := by
  have complete : (∃ peers, lists.Complete peers) ∧ ∀ names ∈ lists.peerhostnames, names.Nodup := by
    refine ⟨⟨peers, growing.count, growing.reached, growing.nodup⟩, ?_⟩
    rw [growing.noHosts]
    exact fun names member => by cases member
  induction calls generalizing lists peers with
  | nil => exact ⟨fun _ => List.forall_mem_nil _, fun _ => complete⟩
  | cons call rest ih =>
      rw [Safe, List.forall_mem_cons]
      cases call with
      | host hostname =>
          have fails : gwAddknownpeerhost lists hostname = .error .overrun := by
            rw [gwAddknownpeerhost, growing.noHosts]
            rfl
          constructor
          · rintro ⟨_, after, isRun, _⟩
            rw [PeerCall.run, fails] at isRun
            cases isRun
          · exact fun others => absurd trivial others.1
      | peer fresh peer =>
          obtain ⟨after, address, more, isAdded, next, kept⟩ :=
            growing.addKnownPeer sizeofPeer fresh peer
          have isRun : PeerCall.run sizeofPeer lists (.peer fresh peer) = .ok after := by
            rw [PeerCall.run, isAdded]
            rfl
          have nextComplete : (∃ peers, after.Complete peers) ∧
              ∀ names ∈ after.peerhostnames, names.Nodup := by
            refine ⟨⟨more, next.count, next.reached, next.nodup⟩, ?_⟩
            rw [next.noHosts]
            exact fun names member => by cases member
          constructor
          · rintro ⟨_, other, isOther, _, safe⟩
            rw [isRun] at isOther
            cases isOther
            exact ⟨id, (ih next nextComplete).mp safe⟩
          · rintro ⟨_, others⟩
            exact ⟨complete, after, isRun, kept, (ih next nextComplete).mpr others⟩

end

/-- A run stays inside its blocks and keeps its entries exactly when it adds no host. -/
theorem safe_iff_no_host (sizeofPeer : Nat) (calls : List (PeerCall Info)) :
    Safe sizeofPeer noPeers calls ↔ ∀ call ∈ calls, ¬call.AddsHost := by
  have start : Growing (noPeers : PeerLists Info) [] :=
    ⟨⟨fun _ inside => absurd inside (Nat.not_lt_zero _), List.nodup_nil, rfl,
      List.forall_mem_nil _, rfl⟩, rfl, .inr ⟨rfl, rfl⟩⟩
  exact start.safe_iff sizeofPeer calls

/-- The first host is stored behind the two bytes of its block. -/
theorem first_host_overruns : ¬Safe 64 (noPeers : PeerLists Unit) [.host [97]] := by
  rintro ⟨_, after, isRun, _⟩
  cases isRun

end MidWay.Gateway.KnownPeers
