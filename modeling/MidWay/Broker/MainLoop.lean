import MidWay.Broker.Gateways
import MidWay.Lib.Runs

/-!
Contract: the main loop of the broker, and what it keeps of the descriptors.

A descriptor is accepted, marked for `select`, put into one of two lists, and later taken
out, unmarked and closed, by separate calls in another order for each event. The events
that forget one of them are a gateway that is not accepted, a greeting that fails, an
exception on a client and a gateway that fails while a client is handed over.

Owns: `main` without its set-up, `accept_tcp`, `accept_unix` and `client_clean`, and the
runs over which the set, the lists and the open sockets agree.
-/

namespace MidWay.Broker

open MidWay.CLib MidWay.Lib MidWay.Srb MidWay.Gateway MidWay.Url

variable {fd now : Int} {block : Option Block} {list : FdList} {request : ClientRead}

structure Sockets where
  tcp : Int
  unix : Int
  udp : Int

def Sockets.Listening (sockets : Sockets) (fd : Int) : Prop :=
  fd = sockets.tcp ∨ fd = sockets.unix ∨ fd = sockets.udp

/-- One turn of the loop, with what the calls in it return: `accept`, `malloc`, `time`, the greeting
of a client, and what is read. -/
inductive Event where
  | acceptTcp (sd : Int) (block : Option Block) (now greeting : Int)
  | acceptUnix (newfd : Int) (block : Option Block) (now : Int)
  | datagram
  | except (fd : Int)
  | readable (fd : Int) (gw : GwRead) (client : ClientRead)
  | timeout (now : Int)

def Mwbd.accepted (broker : Mwbd) (fd : Int) : Mwbd :=
  { broker with opened := Function.update broker.opened fd true }

def Mwbd.acceptTcp (broker : Mwbd) (sd : Int) (block : Option Block) (now greeting : Int) :
    Except Fault Mwbd :=
  if sd = -1 then .ok broker
  else
    match (broker.accepted sd).markfd sd with
    | .error fault => .error fault
    | .ok broker =>
        match broker.addC block sd now with
        | .error fault => .error fault
        | .ok broker =>
            if greeting < 0 then (broker.unmarkfd sd).map fun broker => broker.close sd
            else .ok broker

/-- A gateway is put into the list also when `accept` fails; the result of its greeting is only
logged. -/
def Mwbd.acceptUnix (broker : Mwbd) (newfd : Int) (block : Option Block) (now : Int) :
    Except Fault Mwbd :=
  if newfd = -1 then broker.addGw block newfd now
  else
    match (broker.accepted newfd).markfd newfd with
    | .error fault => .error fault
    | .ok broker => broker.addGw block newfd now

/-- `do_udp_dgram` goes along the gateways; its answers are left out. -/
def Mwbd.doUdpDgram (broker : Mwbd) : Except Fault Mwbd :=
  ((walk broker.gw.cells (fun _ => false) broker.allocated broker.gw.head).mapError .list).map
    fun _ => broker

def Mwbd.exceptReady (broker : Mwbd) (fd : Int) : Except Fault Mwbd :=
  match broker.unmarkfd fd with
  | .error fault => .error fault
  | .ok broker => (broker.close fd).delGw fd

/-- The clients that have not been used for ten seconds go; the loop starts again behind each. -/
def Mwbd.clientClean (now : Int) : Nat → Mwbd → Except Fault Mwbd
  | 0, _ => .error (.list .endless)
  | turns + 1, broker =>
      match walk broker.client.cells (fun cell => decide (cell.value.lastused < now - 10))
          broker.allocated broker.client.head with
      | .error fault => .error (.list fault)
      | .ok none => .ok broker
      | .ok (some cfi) =>
          match broker.client.cells cfi with
          | none => .error (.list .wild)
          | some cell =>
              match broker.unmarkfd cell.value.fd with
              | .error fault => .error fault
              | .ok broker =>
                  match broker.delC cell.value.fd with
                  | .error fault => .error fault
                  | .ok broker => Mwbd.clientClean now turns (broker.close cell.value.fd)

def Mwbd.readReady (broker : Mwbd) (fd : Int) (gw : GwRead) (client : ClientRead) :
    Except Fault Mwbd :=
  match findFdInfoByfd broker.allocated broker.gw fd with
  | .error fault => .error fault
  | .ok (some _) => (broker.recvGwData fd gw).map Prod.fst
  | .ok none =>
      match findFdInfoByfd broker.allocated broker.client fd with
      | .error fault => .error fault
      | .ok (some cinfo) => (broker.readFromClient fd cinfo client).map Prod.fst
      | .ok none => (broker.unmarkfd fd).map fun broker => broker.close fd

def Mwbd.step (broker : Mwbd) : Event → Except Fault Mwbd
  | .acceptTcp sd block now greeting => broker.acceptTcp sd block now greeting
  | .acceptUnix newfd block now => broker.acceptUnix newfd block now
  | .datagram => broker.doUdpDgram
  | .except fd => broker.exceptReady fd
  | .readable fd gw client => broker.readReady fd gw client
  | .timeout now => broker.clientClean now (broker.allocated + 1)

/-- `accept` gives no descriptor that is open, `malloc` no place of an element, and `select` none but
descriptors that are marked, up to `maxfd`. -/
def Enabled (sockets : Sockets) (broker : Mwbd) : Event → Prop
  | .acceptTcp sd block _ _ =>
      (sd = -1 ∨ (0 ≤ sd ∧ broker.opened sd = false)) ∧
        ∀ place, block = some place → broker.client.cells place.place = none
  | .acceptUnix newfd block _ =>
      (newfd = -1 ∨ (0 ≤ newfd ∧ broker.opened newfd = false)) ∧
        ∀ place, block = some place → broker.gw.cells place.place = none
  | .datagram => True
  | .except fd => broker.openFdset fd = true ∧ fd ≤ broker.maxfd ∧ ¬sockets.Listening fd
  | .readable fd _ _ => broker.openFdset fd = true ∧ fd ≤ broker.maxfd ∧ ¬sockets.Listening fd
  | .timeout _ => True

structure Started (sockets : Sockets) (broker : Mwbd) : Prop where
  inSet : InSet sockets.tcp ∧ InSet sockets.unix ∧ InSet sockets.udp
  marks : ∀ fd, broker.openFdset fd = true ↔ sockets.Listening fd
  opens : ∀ fd, broker.opened fd = true ↔ sockets.Listening fd
  highest : Highest broker.openFdset broker.maxfd
  gw : broker.gw.head = none ∧ broker.gw.tail = none
  client : broker.client.head = none ∧ broker.client.tail = none

def main (sockets : Sockets) : Machine Mwbd Event Fault where
  start := Started sockets
  enabled := Enabled sockets
  step := Mwbd.step

/-- The open sockets are the marked ones, each of them is a listening socket or has one element in
one list, and each element has an open socket. -/
structure Consistent (sockets : Sockets) (broker : Mwbd) (gws clients : List (Nat × FdInfo)) :
    Prop extends Listed broker gws clients where
  marks : ∀ fd, broker.openFdset fd = true ↔ broker.opened fd = true
  owned : ∀ fd, broker.opened fd = true → sockets.Listening fd ∨ fd ∈ fdsOf (gws ++ clients)
  apart : ∀ fd ∈ fdsOf (gws ++ clients), ¬sockets.Listening fd
  listens : ∀ fd, sockets.Listening fd → broker.opened fd = true
  highest : Highest broker.openFdset broker.maxfd

def Bookkept (sockets : Sockets) (broker : Mwbd) : Prop :=
  ∃ gws clients, Consistent sockets broker gws clients

/-- A turn leaves the descriptors as they are to be, or the process ends with an access of
`recv_gw_data` that leaves its object, and never with a `NULL` pointer or a list. -/
def KeptBy (sockets : Sockets) : Except Fault Mwbd → Prop
  | .ok after => Bookkept sockets after
  | .error fault => fault = .outside ∨ fault = .assertion

def ClientRead.Taken (request : ClientRead) (broker : Mwbd) : Prop :=
  ∀ bytes srbmsg gws gw, InitRequest request bytes srbmsg → broker.gw.Holds gws →
    chosen (urlmapgetvalue srbmsg.map srbDomain) (urlmapgetvalue srbmsg.map srbInstance) gws =
      some gw → request.sendfd gw.2.fd = bytes.length

/-- The turns that forget nothing: a gateway is accepted, a client is greeted, what is accepted fits
the set and has a block, an exception is on a gateway, and the gateway that is chosen for a client
takes it. -/
def GoesWell (broker : Mwbd) : Event → Prop
  | .acceptTcp sd block _ greeting => sd = -1 ∨ (sd < fdSetSize ∧ block ≠ none ∧ 0 ≤ greeting)
  | .acceptUnix newfd block _ => newfd ≠ -1 ∧ newfd < fdSetSize ∧ block ≠ none
  | .except fd => ∃ info, broker.Knows fd info
  | .readable fd _ client => (∃ info, broker.Knows fd info) ∨ client.Taken broker
  | _ => True

section

variable {sockets : Sockets} {broker after : Mwbd}
  {gws clients someGws someClients front back : List (Nat × FdInfo)} {entry : Nat × FdInfo}

/-- The elements change, but not their descriptors. -/
theorem Consistent.same (consistent : Consistent sockets broker gws clients)
    (listed : Listed after someGws someClients)
    (sameFds : fdsOf (someGws ++ someClients) = fdsOf (gws ++ clients))
    (sameMarks : after.openFdset = broker.openFdset) (sameOpened : after.opened = broker.opened)
    (sameMax : after.maxfd = broker.maxfd) : Consistent sockets after someGws someClients where
  toListed := listed
  marks := by
    rw [sameMarks, sameOpened]
    exact consistent.marks
  owned := by
    rw [sameOpened, sameFds]
    exact consistent.owned
  apart := by
    rw [sameFds]
    exact consistent.apart
  listens := by
    rw [sameOpened]
    exact consistent.listens
  highest := by
    rw [sameMarks, sameMax]
    exact consistent.highest

/-- A descriptor is taken out, unmarked and closed. -/
theorem Consistent.gone (consistent : Consistent sockets broker gws clients) {fd : Int}
    (isEntry : fd ∈ fdsOf (gws ++ clients)) (listed : Listed after someGws someClients)
    (others : ∀ other, other ∈ fdsOf (someGws ++ someClients) ↔
      other ∈ fdsOf (gws ++ clients) ∧ other ≠ fd)
    (marks : after.openFdset = Function.update broker.openFdset fd false)
    (opens : after.opened = Function.update broker.opened fd false)
    (highest : Highest broker.openFdset broker.maxfd → Highest after.openFdset after.maxfd) :
    Consistent sockets after someGws someClients where
  toListed := listed
  marks := by
    intro other
    rw [marks, opens]
    by_cases same : other = fd
    · rw [same, Function.update_self, Function.update_self]
    · simp_all [Function.update_of_ne, consistent.marks]
  owned := by
    intro other isOpen
    rw [opens] at isOpen
    by_cases same : other = fd
    · simp [same, Function.update_self] at isOpen
    · simp_all [Function.update_of_ne, consistent.owned]
  apart := by
    intro other member
    exact consistent.apart other ((others other).mp member).1
  listens := by
    intro other isListening
    have notFd : other ≠ fd := fun same => consistent.apart fd isEntry (same ▸ isListening)
    rw [opens, Function.update_of_ne notFd]
    exact consistent.listens other isListening
  highest := highest consistent.highest

theorem Consistent.goneGw (consistent : Consistent sockets broker (front ++ entry :: back) clients)
    (listed : Listed after (front ++ back) clients)
    (marks : after.openFdset = Function.update broker.openFdset entry.2.fd false)
    (opens : after.opened = Function.update broker.opened entry.2.fd false)
    (highest : Highest broker.openFdset broker.maxfd → Highest after.openFdset after.maxfd) :
    Consistent sockets after (front ++ back) clients := by
  have distinct := consistent.distinct
  rw [List.append_assoc, List.cons_append] at distinct
  refine consistent.gone (mem_fdsOf.mpr ⟨entry, by simp, rfl⟩) listed ?_ marks opens highest
  grind [List.append_assoc, mem_fdsOf_without]

theorem Consistent.goneClient
    (consistent : Consistent sockets broker gws (front ++ entry :: back))
    (listed : Listed after gws (front ++ back))
    (marks : after.openFdset = Function.update broker.openFdset entry.2.fd false)
    (opens : after.opened = Function.update broker.opened entry.2.fd false)
    (highest : Highest broker.openFdset broker.maxfd → Highest after.openFdset after.maxfd) :
    Consistent sockets after gws (front ++ back) := by
  have distinct := consistent.distinct
  rw [← List.append_assoc] at distinct
  refine consistent.gone (mem_fdsOf.mpr ⟨entry, by simp, rfl⟩) listed ?_ marks opens highest
  grind [List.append_assoc, mem_fdsOf_without]

theorem Consistent.of_marked (consistent : Consistent sockets broker gws clients)
    (isMarked : broker.openFdset fd = true) (notListening : ¬sockets.Listening fd) :
    (∃ gw ∈ gws, gw.2.fd = fd) ∨ ∃ client ∈ clients, client.2.fd = fd := by
  have isOpen := (consistent.marks fd).mp isMarked
  obtain ⟨entry, member, isFd⟩ := mem_fdsOf.mp ((consistent.owned fd isOpen).resolve_left notListening)
  grind

/-- A descriptor is accepted, marked and put into a list. -/
theorem Consistent.came (consistent : Consistent sockets broker gws clients)
    (isNew : broker.opened fd = false) (fits : InSet fd) {gw client : FdList}
    (gwHolds : gw.Holds someGws) (clientHolds : client.Holds someClients)
    (fds : (fdsOf (someGws ++ someClients)).Perm (fd :: fdsOf (gws ++ clients))) {maxfd : Int}
    (highest : Highest broker.openFdset broker.maxfd → Highest (Function.update broker.openFdset fd true) maxfd) :
    Consistent sockets
      { openFdset := Function.update broker.openFdset fd true
        maxfd := maxfd
        gw := gw
        client := client
        allocated := broker.allocated + 1
        opened := Function.update broker.opened fd true } someGws someClients := by
  have absent : fd ∉ fdsOf (gws ++ clients) := by
    intro member
    obtain ⟨entry, inLists, isFd⟩ := mem_fdsOf.mp member
    have isOpen := consistent.isOpen entry inLists
    rw [isFd, isNew] at isOpen
    cases isOpen
  have forFd : ∀ property : Int → Prop, property fd →
      (∀ entry ∈ gws ++ clients, property entry.2.fd) →
      ∀ entry ∈ someGws ++ someClients, property entry.2.fd := by
    intro property ofFd each entry member
    rcases List.mem_cons.mp (fds.mem_iff.mp (mem_fdsOf.mpr ⟨entry, member, rfl⟩)) with same | other
    · simp [same, ofFd]
    · obtain ⟨before, inLists, same⟩ := mem_fdsOf.mp other
      rw [← same]
      exact each before inLists
  have updated : ∀ set : Int → Bool, ∀ other, set other = true →
      Function.update set fd true other = true := by
    intro set other inSet
    by_cases same : other = fd
    · rw [same, Function.update_self]
    · rw [Function.update_of_ne same, inSet]
  constructor
  · constructor
    · exact gwHolds
    · exact clientHolds
    · have counted := fds.length_eq
      have room := consistent.allocated
      simp_all [fdsOf, List.length_cons, List.length_map, List.length_append]
    · exact fds.nodup_iff.mpr (List.nodup_cons.mpr ⟨absent, consistent.distinct⟩)
    · exact forFd InSet fits consistent.inSet
    · exact forFd (fun other => Function.update broker.openFdset fd true other = true)
        (Function.update_self _ _ _) fun entry member => updated _ _ (consistent.isMarked entry member)
    · exact forFd (fun other => Function.update broker.opened fd true other = true)
        (Function.update_self _ _ _) fun entry member => updated _ _ (consistent.isOpen entry member)
  · intro other
    dsimp only
    by_cases same : other = fd
    · rw [same, Function.update_self, Function.update_self]
    · simp_all [Function.update_of_ne, consistent.marks]
  · intro other isOpen
    rw [fds.mem_iff, List.mem_cons]
    by_cases same : other = fd
    · exact Or.inr (Or.inl same)
    · simp_all [Function.update_of_ne, consistent.owned]
  · intro other member
    rcases List.mem_cons.mp (fds.mem_iff.mp member) with rfl | inLists
    · intro isListening
      simp_all [consistent.listens]
    · exact consistent.apart other inLists
  · intro other isListening
    exact updated _ _ (consistent.listens other isListening)
  · exact highest consistent.highest

variable (broker) in
theorem addC_ok (added : addFdInfo broker.client block fd now = .ok list) :
    broker.addC block fd now =
      .ok { broker with client := list, allocated := broker.allocated + 1 } := by
  rw [Mwbd.addC, added]
  rfl

variable (broker) in
theorem addGw_ok (added : addFdInfo broker.gw block fd now = .ok list) :
    broker.addGw block fd now =
      .ok { broker with gw := list, allocated := broker.allocated + 1 } := by
  rw [Mwbd.addGw, added]
  rfl

theorem Consistent.acceptTcp (consistent : Consistent sockets broker gws clients) {sd : Int}
    {greeting : Int} (isEnabled : Enabled sockets broker (.acceptTcp sd block now greeting))
    (goesWell : GoesWell broker (.acceptTcp sd block now greeting)) :
    KeptBy sockets (broker.acceptTcp sd block now greeting) := by
  by_cases failed : sd = -1
  · rw [Mwbd.acceptTcp, if_pos failed]
    exact ⟨gws, clients, consistent⟩
  · obtain ⟨nonneg, isNew⟩ := isEnabled.1.resolve_left failed
    obtain ⟨inSet, hasBlock, greeted⟩ := goesWell.resolve_left failed
    obtain ⟨place, rfl⟩ := Option.ne_none_iff_exists'.mp hasBlock
    obtain ⟨maxfd, marked, highest⟩ := (broker.accepted sd).markfd_ok ⟨nonneg, inSet⟩
    obtain ⟨list, added, holds⟩ :=
      addFdInfo_holds consistent.client (isEnabled.2 place rfl) sd now
    have addedC := addC_ok { broker.accepted sd with
      openFdset := Function.update (broker.accepted sd).openFdset sd true
      maxfd := maxfd } added
    rw [Mwbd.acceptTcp, if_neg failed, marked]
    dsimp only at addedC ⊢
    rw [addedC]
    dsimp only
    rw [if_neg (Int.not_lt.mpr greeted)]
    refine ⟨gws, _, consistent.came isNew ⟨nonneg, inSet⟩ consistent.gw holds ?_ highest⟩
    simp only [fdsOf, List.map_append, List.map_cons, List.map_nil, ← List.append_assoc]
    exact List.perm_append_singleton _ _

theorem Consistent.acceptUnix (consistent : Consistent sockets broker gws clients) {newfd : Int}
    (isEnabled : Enabled sockets broker (.acceptUnix newfd block now))
    (goesWell : GoesWell broker (.acceptUnix newfd block now)) :
    KeptBy sockets (broker.acceptUnix newfd block now) := by
  obtain ⟨isAccepted, inSet, hasBlock⟩ := goesWell
  obtain ⟨nonneg, isNew⟩ := isEnabled.1.resolve_left isAccepted
  obtain ⟨place, rfl⟩ := Option.ne_none_iff_exists'.mp hasBlock
  obtain ⟨maxfd, marked, highest⟩ := (broker.accepted newfd).markfd_ok ⟨nonneg, inSet⟩
  obtain ⟨list, added, holds⟩ := addFdInfo_holds consistent.gw (isEnabled.2 place rfl) newfd now
  have addedGw := addGw_ok { broker.accepted newfd with
    openFdset := Function.update (broker.accepted newfd).openFdset newfd true
    maxfd := maxfd } added
  rw [Mwbd.acceptUnix, if_neg isAccepted, marked]
  dsimp only at addedGw ⊢
  rw [addedGw]
  refine ⟨_, clients, consistent.came isNew ⟨nonneg, inSet⟩ holds consistent.client ?_ highest⟩
  simp only [fdsOf, List.map_append, List.map_cons, List.map_nil, List.append_assoc]
  exact List.perm_middle

theorem Consistent.doUdpDgram (consistent : Consistent sockets broker gws clients) :
    KeptBy sockets broker.doUdpDgram := by
  have enough : gws.length ≤ broker.allocated := (Nat.le_add_right _ _).trans consistent.allocated
  rw [Mwbd.doUdpDgram, consistent.gw.segment.walk_value (fun _ => false) enough]
  exact ⟨gws, clients, consistent⟩

/-- An exception on a gateway. -/
theorem Consistent.exceptReady (consistent : Consistent sockets broker gws clients)
    (goesWell : GoesWell broker (.except fd)) : KeptBy sockets (broker.exceptReady fd) := by
  obtain ⟨info, others, place, holds, member, rfl⟩ := goesWell
  rw [holds.unique consistent.gw] at member
  obtain ⟨front, back, rfl⟩ := List.append_of_mem member
  obtain ⟨maxfd, unmarked, highest⟩ := broker.unmarkfd_ok
    (consistent.inSet (place, info) (by simp))
  obtain ⟨list, deleted, holdsAfter⟩ := consistent.deleteGw
  have absent : ∀ other ∈ front ++ back ++ clients, other.2.fd ≠ info.fd := by
    simp_all [List.append_assoc, consistent.gws_apart]
  rw [Mwbd.exceptReady, unmarked]
  dsimp only
  rw [Mwbd.delGw]
  change KeptBy sockets ((delFdInfo broker.allocated broker.gw info.fd).map _)
  rw [deleted]
  exact ⟨front ++ back, clients, consistent.goneGw
    ((consistent.withoutGw holdsAfter).unused absent maxfd) rfl rfl highest⟩

/-- The clients that time out go one by one. -/
theorem Consistent.clientClean (consistent : Consistent sockets broker gws clients) (now : Int)
    {turns : Nat} (enough : clients.length < turns) :
    KeptBy sockets (Mwbd.clientClean now turns broker) := by
  induction turns generalizing broker clients with
  | zero => exact absurd enough (Nat.not_lt_zero _)
  | succ turns ih =>
      have inTurns : clients.length ≤ broker.allocated :=
        (Nat.le_add_left _ _).trans consistent.allocated
      have found := consistent.client.segment.walk_value
        (fun info => decide (info.lastused < now - 10)) inTurns
      rw [Mwbd.clientClean, found]
      cases expired : clients.find? fun entry => decide (entry.2.lastused < now - 10) with
      | none => exact ⟨gws, clients, consistent⟩
      | some entry =>
          obtain ⟨front, back, rfl⟩ := List.append_of_mem (List.mem_of_find?_eq_some expired)
          obtain ⟨next, isCell, _⟩ := consistent.client.cell
          obtain ⟨maxfd, unmarked, highest⟩ := broker.unmarkfd_ok
            (consistent.inSet entry (by simp))
          obtain ⟨list, deleted, holdsAfter⟩ := consistent.deleteClient
          have shorter : (front ++ back).length < turns := by
            grind
          rw [Option.map_some]
          dsimp only
          rw [isCell]
          dsimp only
          rw [unmarked]
          dsimp only
          rw [Mwbd.delC]
          dsimp only
          rw [deleted]
          exact ih (consistent.goneClient
            ((consistent.withoutClient holdsAfter).unused consistent.clients_apart maxfd) rfl rfl
            highest) shorter

/-- What is known of a gateway keeps its descriptor, and the process ends only with an access that
leaves its object. -/
def OfGateway (fd : Int) : Except Fault (Option FdInfo × List Sent) → Prop
  | .ok (some after, _) => after.fd = fd
  | .ok (none, _) => True
  | .error fault => fault = .outside ∨ fault = .assertion

theorem takeMessage_ofGateway (info : FdInfo) (srbmsg : SRBmessage) :
    OfGateway info.fd (info.takeMessage srbmsg) := by
  unfold FdInfo.takeMessage
  split_ifs
  · trivial
  · trivial
  · cases szGetReqField srbmsg srbDomain with
    | error reason => trivial
    | ok domain =>
        cases szGetReqField srbmsg srbInstance with
        | error reason => trivial
        | ok instanceName =>
            cases szGetReqField srbmsg srbVersion with
            | error reason => trivial
            | ok version =>
                dsimp only
                cases sscanfVersion version with
                | none => exact Or.inl rfl
                | some numbers => rfl

theorem keep_ofGateway (request : GwRead) (memory : List Byte) (info : FdInfo) (len : Int)
    (msg : Msg) :
    OfGateway info.fd ((request.keep memory info len msg).map fun info => (some info, [])) := by
  cases msg with
  | buffer offset =>
      rw [GwRead.keep]
      split_ifs
      · exact Or.inr rfl
      · rfl
  | block offset =>
      cases offset with
      | zero => rfl
      | succ offset =>
          rw [GwRead.keep]
          split_ifs
          · exact Or.inl rfl
          · rfl
          · exact Nat.succ_ne_zero offset

theorem messageEnd_error {object : List Byte} {fault : Fault}
    (searched : messageEnd object = .error fault) : fault = .outside := by
  unfold messageEnd at searched
  grind

/-- The loop takes two bytes or more at each turn. -/
theorem parse_ofGateway (request : GwRead) {turns : Nat} (memory : List Byte) (info : FdInfo)
    (msg : Msg) {len : Int} (enough : len < turns) (positive : 0 < turns) :
    OfGateway info.fd (request.parse turns memory info msg len) := by
  induction turns generalizing memory info msg len with
  | zero => exact absurd positive (Nat.lt_irrefl 0)
  | succ turns ih =>
      rw [GwRead.parse]
      split_ifs with isEmpty
      · rfl
      · cases searched : messageEnd (msg.object memory info) with
        | error fault =>
            exact Or.inl (messageEnd_error searched)
        | ok found =>
            cases found with
            | none => exact keep_ofGateway request memory info len msg
            | some msgend =>
                dsimp only
                by_cases outside : len < 0 ∨ (srbMessageMaxLen : Int) ≤ len
                · rw [GwRead.decode, if_pos outside]
                  exact Or.inl rfl
                · rw [GwRead.decode, if_neg outside]
                  dsimp only
                  cases (mwSrbdecodemessage request.uninit memory bufferStart len.toNat).srbmsg with
                  | none => trivial
                  | some srbmsg =>
                      dsimp only
                      have message := takeMessage_ofGateway info srbmsg
                      cases taken : info.takeMessage srbmsg with
                      | error fault =>
                          simp_all
                      | ok outcome =>
                          obtain ⟨known, sent⟩ := outcome
                          rw [taken] at message
                          cases known with
                          | none => trivial
                          | some after =>
                              have sameFd : after.fd = info.fd := message
                              grind

theorem take_ofGateway (request : GwRead) (info : FdInfo) (bytes : List Byte) :
    OfGateway info.fd (request.take info bytes) := by
  rw [GwRead.take]
  cases info.incompleteMesg with
  | none => exact parse_ofGateway request _ info _ (by omega) (Nat.succ_pos _)
  | some old =>
      dsimp only
      rw [GwRead.append]
      split_ifs
      · exact Or.inl rfl
      · exact parse_ofGateway request _ { info with incompleteMesg := some _ } _ (by omega)
          (Nat.succ_pos _)

/-- A gateway that is read from stays, or is closed. -/
theorem Consistent.recvGwData
    (consistent : Consistent sockets broker (front ++ entry :: back) clients) (request : GwRead) :
    KeptBy sockets ((broker.recvGwData entry.2.fd request).map Prod.fst) := by
  obtain ⟨after, closed, listedAfter, marks, opens, highest⟩ := consistent.closeGw
  have closedKept : Bookkept sockets after :=
    ⟨front ++ back, clients, consistent.goneGw listedAfter marks opens highest⟩
  obtain ⟨next, isCell, _⟩ := consistent.gw.cell
  rw [Mwbd.recvGwData]
  cases request.read with
  | none =>
      obtain ⟨maxfd, unmarked, highestDropped⟩ := broker.unmarkfd_ok
        (consistent.inSet entry (by simp))
      obtain ⟨list, deleted, holdsAfter⟩ := consistent.deleteGw
      have absent : ∀ other ∈ front ++ back ++ clients, other.2.fd ≠ entry.2.fd := by
        simp_all [List.append_assoc, consistent.gws_apart]
      dsimp only
      rw [Mwbd.dropGw, unmarked]
      dsimp only
      rw [Mwbd.delGw]
      dsimp only
      rw [deleted]
      exact ⟨front ++ back, clients, consistent.goneGw
        ((consistent.withoutGw holdsAfter).unused absent maxfd) rfl rfl highestDropped⟩
  | some bytes =>
      dsimp only
      split_ifs
      · rw [closed]
        exact closedKept
      · rw [consistent.findGwByfd]
        dsimp only
        rw [isCell]
        dsimp only
        have ofGateway := take_ofGateway request entry.2 bytes
        cases taken : request.take entry.2 bytes with
        | error fault =>
            rw [taken] at ofGateway
            exact ofGateway
        | ok outcome =>
            obtain ⟨known, sent⟩ := outcome
            rw [taken] at ofGateway
            cases known with
            | none =>
                dsimp only
                rw [closed]
                exact closedKept
            | some info =>
                have sameFd : info.fd = entry.2.fd := ofGateway
                refine ⟨_, clients, consistent.same (consistent.setGw (fun _ => info) sameFd)
                  ?_ rfl rfl rfl⟩
                simp only [fdsOf, List.map_append, List.map_cons, sameFd]

theorem Consistent.clean (consistent : Consistent sockets broker gws (front ++ entry :: back))
    (sent : List Sent) :
    KeptBy sockets (((broker.clean entry.2.fd).map fun broker => (broker, sent)).map Prod.fst) := by
  obtain ⟨after, cleaned, listedAfter, marks, opens, highest⟩ := consistent.toListed.clean
  rw [cleaned]
  exact ⟨gws, front ++ back, consistent.goneClient listedAfter marks opens highest⟩

theorem readyResponses_ok {contents : List (Nat × FdInfo)} {place : Option Nat}
    (segment : ListSegment list.cells place contents none) (fd : Int) {turns : Nat}
    (enough : contents.length ≤ turns) : ∃ sent, readyResponses list fd turns place = .ok sent := by
  induction contents generalizing place turns with
  | nil =>
      have isEnd : place = none := segment
      rw [isEnd, readyResponses]
      exact ⟨_, rfl⟩
  | cons first rest ih =>
      obtain ⟨rfl, next, isCell, behind⟩ := segment
      cases turns with
      | zero => exact absurd enough (Nat.not_succ_le_zero _)
      | succ turns =>
          obtain ⟨sent, answered⟩ := ih behind (Nat.le_of_succ_le_succ enough)
          rw [readyResponses, isCell]
          dsimp only
          rw [answered]
          exact ⟨_, rfl⟩

/-- The client is handed over to the gateway that takes it, or it is rejected. -/
theorem Consistent.handedOver (consistent : Consistent sockets broker gws (front ++ entry :: back))
    {bytes : List Byte} {srbmsg : SRBmessage} (isRequest : InitRequest request bytes srbmsg)
    (taken : request.Taken broker) :
    KeptBy sockets ((broker.readFromClient entry.2.fd entry.1 request).map Prod.fst) := by
  have named := mt And.symm isRequest.named
  have listedUsed := consistent.toListed.useClient (request.clock (broker.allocated + 1))
  have used := consistent.same listedUsed (by simp only [fdsOf, List.map_append, List.map_cons]) rfl
    rfl rfl
  rw [isRequest.readFromClient]
  cases isChosen : chosen (urlmapgetvalue srbmsg.map srbDomain)
      (urlmapgetvalue srbmsg.map srbInstance) gws with
  | none =>
      simp_all [listedUsed.handover_none, used.clean]
  | some gw =>
      have takes : request.sendfd gw.2.fd = (request.message bytes).length := by
        rw [request.length_message isRequest.short]
        exact taken bytes srbmsg gws gw isRequest consistent.gw isChosen
      obtain ⟨list, others, listedAfter, sameFds, handed⟩ := listedUsed.handover_taken
        request entry.2.fd _ named isChosen takes broker.allocated entry.2.fd []
      have fds : fdsOf (others ++ (front ++ (entry.1,
          { entry.2 with lastused := request.clock (broker.allocated + 1) }) :: back)) =
            fdsOf (gws ++ (front ++ (entry.1,
              { entry.2 with lastused := request.clock (broker.allocated + 1) }) :: back)) := by
        simp only [fdsOf, List.map_append] at sameFds ⊢
        rw [sameFds]
      rw [handed]
      exact (used.same listedAfter fds rfl rfl rfl).clean _

/-- What else is read from a client rejects it, is answered, or is nothing. -/
theorem Consistent.readFromClient
    (consistent : Consistent sockets broker gws (front ++ entry :: back))
    (taken : request.Taken broker) :
    KeptBy sockets ((broker.readFromClient entry.2.fd entry.1 request).map Prod.fst) := by
  by_cases asks : ∃ bytes srbmsg, InitRequest request bytes srbmsg
  · obtain ⟨bytes, srbmsg, isRequest⟩ := asks
    exact consistent.handedOver isRequest taken
  · have listedUsed : Listed (broker.useClient entry.1 (request.clock (broker.allocated + 1))) gws
        (front ++ (entry.1, { entry.2 with lastused := request.clock (broker.allocated + 1) }) ::
          back) := consistent.useClient _
    have used := consistent.same listedUsed
      (by simp only [fdsOf, List.map_append, List.map_cons]) rfl rfl rfl
    rw [Mwbd.readFromClient]
    cases isRead : request.read with
    | none => exact ⟨gws, front ++ entry :: back, consistent⟩
    | some bytes =>
        dsimp only
        by_cases isEnd : bytes = []
        · simp_all [consistent.clean]
        · rw [if_neg isEnd]
          by_cases tooLong : bytes.length = srbMessageMaxLen
          · rw [if_pos tooLong]
            exact consistent.clean _
          · rw [if_neg tooLong]
            cases decodes : (request.decode bytes).srbmsg with
            | none => exact consistent.clean _
            | some srbmsg =>
                dsimp only
                rw [Mwbd.takeMessage]
                split_ifs with isReady notInit notRequest
                · obtain ⟨sent, answered⟩ := readyResponses_ok listedUsed.gw.segment entry.2.fd
                    ((Nat.le_add_right _ _).trans listedUsed.allocated)
                  rw [answered]
                  exact ⟨gws, _, used⟩
                · exact used.clean _
                · exact used.clean _
                · dsimp only
                  split_ifs with nameless
                  · exact used.clean _
                  · have bounded := request.bounded bytes isRead
                    exact absurd ⟨bytes, srbmsg, isRead, isEnd, by omega, decodes,
                      not_not.mp notInit, not_not.mp notRequest, nameless⟩ asks

/-- What is read from a gateway or from a client. -/
theorem Consistent.readReady (consistent : Consistent sockets broker gws clients) {gw : GwRead}
    {client : ClientRead} (isEnabled : Enabled sockets broker (.readable fd gw client))
    (goesWell : GoesWell broker (.readable fd gw client)) :
    KeptBy sockets (broker.readReady fd gw client) := by
  rw [Mwbd.readReady]
  rcases consistent.of_marked isEnabled.1 isEnabled.2.2 with ⟨entry, member, rfl⟩ | isClient
  · obtain ⟨front, back, rfl⟩ := List.append_of_mem member
    rw [consistent.findGwByfd]
    exact consistent.recvGwData gw
  · obtain ⟨entry, member, rfl⟩ := isClient
    obtain ⟨front, back, rfl⟩ := List.append_of_mem member
    have absent : ∀ other ∈ gws, other.2.fd ≠ entry.2.fd := fun other inGws =>
      consistent.clients_apart other (List.mem_append_left _ inGws)
    have taken : client.Taken broker := by
      apply goesWell.resolve_left
      intro ⟨info, knows⟩
      exact consistent.not_knows absent info knows
    rw [consistent.findGwByfd_none absent, consistent.findClientByfd]
    exact consistent.readFromClient taken

theorem Consistent.step (consistent : Consistent sockets broker gws clients) {event : Event}
    (isEnabled : Enabled sockets broker event) (goesWell : GoesWell broker event) :
    KeptBy sockets (broker.step event) := by
  cases event with
  | acceptTcp sd block now greeting => exact consistent.acceptTcp isEnabled goesWell
  | acceptUnix newfd block now => exact consistent.acceptUnix isEnabled goesWell
  | datagram => exact consistent.doUdpDgram
  | except fd => exact consistent.exceptReady goesWell
  | readable fd gw client => exact consistent.readReady isEnabled goesWell
  | timeout now =>
      apply consistent.clientClean
      exact Nat.lt_succ_of_le ((Nat.le_add_left _ _).trans consistent.allocated)

theorem Bookkept.gw_open (kept : Bookkept sockets after) (holds : after.gw.Holds someGws)
    (member : entry ∈ someGws) : InSet entry.2.fd ∧ after.opened entry.2.fd = true := by
  obtain ⟨gws, clients, consistent⟩ := kept
  rw [holds.unique consistent.gw] at member
  exact ⟨consistent.inSet entry (List.mem_append_left _ member),
    consistent.isOpen entry (List.mem_append_left _ member)⟩

theorem Bookkept.client_open (kept : Bookkept sockets after)
    (holds : after.client.Holds someClients) (member : entry ∈ someClients) :
    after.opened entry.2.fd = true := by
  obtain ⟨gws, clients, consistent⟩ := kept
  rw [holds.unique consistent.client] at member
  exact consistent.isOpen entry (List.mem_append_right _ member)

theorem not_keptBy_error {fault : Fault} (isOutside : fault ≠ .outside)
    (isAssertion : fault ≠ .assertion) : ¬KeptBy sockets (.error fault) :=
  not_or.mpr ⟨isOutside, isAssertion⟩

theorem markfd_error (unfit : fdSetSize ≤ fd) :
    broker.markfd fd = .error .fdSet := by
  rw [Mwbd.markfd, if_pos (Or.inr unfit)]

/-- A client whose greeting fails stays in the list. -/
theorem Consistent.acceptTcp_forgets (consistent : Consistent sockets broker gws clients) {sd : Int}
    {greeting : Int} (isEnabled : Enabled sockets broker (.acceptTcp sd block now greeting))
    (kept : KeptBy sockets (broker.acceptTcp sd block now greeting)) :
    GoesWell broker (.acceptTcp sd block now greeting) := by
  by_cases failed : sd = -1
  · exact Or.inl failed
  · rw [Mwbd.acceptTcp, if_neg failed] at kept
    obtain ⟨nonneg, isNew⟩ := isEnabled.1.resolve_left failed
    by_cases fits : sd < fdSetSize
    · obtain ⟨maxfd, marked, _⟩ := (broker.accepted sd).markfd_ok ⟨nonneg, fits⟩
      rw [marked] at kept
      dsimp only at kept
      cases block with
      | none => exact absurd kept (not_keptBy_error (by decide) (by decide))
      | some place =>
          obtain ⟨list, added, holds⟩ :=
            addFdInfo_holds consistent.client (isEnabled.2 place rfl) sd now
          have addedC := addC_ok { broker.accepted sd with
            openFdset := Function.update (broker.accepted sd).openFdset sd true
            maxfd := maxfd } added
          dsimp only at addedC
          rw [addedC] at kept
          dsimp only at kept
          refine Or.inr ⟨fits, Option.some_ne_none _, ?_⟩
          by_contra refused
          rw [if_pos (Int.not_le.mp refused)] at kept
          obtain ⟨lower, unmarked, _⟩ := Mwbd.unmarkfd_ok { broker.accepted sd with
            openFdset := Function.update (broker.accepted sd).openFdset sd true
            maxfd := maxfd
            client := list
            allocated := (broker.accepted sd).allocated + 1 } ⟨nonneg, fits⟩
          dsimp only at unmarked
          rw [unmarked] at kept
          have isListed : (place.place, newFdInfo place sd now) ∈
              clients ++ [(place.place, newFdInfo place sd now)] := by
            simp
          have isOpen := Bookkept.client_open kept holds isListed
          change Function.update (broker.accepted sd).opened sd false sd = true at isOpen
          rw [Function.update_self] at isOpen
          cases isOpen
    · grind [markfd_error, not_keptBy_error]

/-- A gateway that is not accepted has an element. -/
theorem Consistent.acceptUnix_forgets (consistent : Consistent sockets broker gws clients)
    {newfd : Int} (isEnabled : Enabled sockets broker (.acceptUnix newfd block now))
    (kept : KeptBy sockets (broker.acceptUnix newfd block now)) :
    GoesWell broker (.acceptUnix newfd block now) := by
  rw [Mwbd.acceptUnix] at kept
  by_cases failed : newfd = -1
  · rw [if_pos failed] at kept
    cases block with
    | none => exact absurd kept (not_keptBy_error (by decide) (by decide))
    | some place =>
        obtain ⟨list, added, holds⟩ := addFdInfo_holds consistent.gw (isEnabled.2 place rfl) newfd now
        rw [addGw_ok _ added] at kept
        have isListed : (place.place, newFdInfo place newfd now) ∈
            gws ++ [(place.place, newFdInfo place newfd now)] := by
          simp
        have inSet := (Bookkept.gw_open kept holds isListed).1.1
        change 0 ≤ newfd at inSet
        omega
  · rw [if_neg failed] at kept
    by_cases fits : newfd < fdSetSize
    · obtain ⟨nonneg, _⟩ := isEnabled.1.resolve_left failed
      obtain ⟨maxfd, marked, _⟩ := (broker.accepted newfd).markfd_ok ⟨nonneg, fits⟩
      refine ⟨failed, fits, ?_⟩
      intro isNone
      rw [isNone, marked] at kept
      exact absurd kept (not_keptBy_error (by decide) (by decide))
    · grind [markfd_error, not_keptBy_error]

/-- A client with an exception stays in the list, or there is no list of gateways to go along. -/
theorem Consistent.exceptReady_forgets (consistent : Consistent sockets broker gws clients)
    (isEnabled : Enabled sockets broker (.except fd))
    (kept : KeptBy sockets (broker.exceptReady fd)) : GoesWell broker (.except fd) := by
  rcases consistent.of_marked isEnabled.1 isEnabled.2.2 with ⟨entry, member, rfl⟩ | isClient
  · exact ⟨entry.2, gws, entry.1, consistent.gw, member, rfl⟩
  · obtain ⟨entry, member, rfl⟩ := isClient
    obtain ⟨front, back, rfl⟩ := List.append_of_mem member
    have absent : ∀ other ∈ gws, other.2.fd ≠ entry.2.fd := fun other inGws =>
      consistent.clients_apart other (List.mem_append_left _ inGws)
    obtain ⟨maxfd, unmarked, _⟩ := broker.unmarkfd_ok (consistent.inSet entry (by simp))
    have untouched := delFdInfo_absent consistent.gw absent
      ((Nat.le_add_right _ _).trans consistent.allocated)
    rw [Mwbd.exceptReady, unmarked] at kept
    dsimp only at kept
    rw [Mwbd.delGw] at kept
    change KeptBy sockets ((delFdInfo broker.allocated broker.gw entry.2.fd).map _) at kept
    rw [untouched] at kept
    by_cases noGw : gws = []
    · rw [if_pos noGw] at kept
      exact absurd kept (not_keptBy_error (by decide) (by decide))
    · rw [if_neg noGw] at kept
      have isOpen := Bookkept.client_open kept consistent.client member
      change Function.update broker.opened entry.2.fd false entry.2.fd = true at isOpen
      rw [Function.update_self] at isOpen
      cases isOpen

/-- A gateway that fails while a client is handed over stays open and marked. -/
theorem Consistent.handover_forgets
    (consistent : Consistent sockets broker gws (front ++ entry :: back)) {request : ClientRead}
    {bytes : List Byte} {srbmsg : SRBmessage} (isRequest : InitRequest request bytes srbmsg)
    {gw : Nat × FdInfo} (isChosen : chosen (urlmapgetvalue srbmsg.map srbDomain)
      (urlmapgetvalue srbmsg.map srbInstance) gws = some gw)
    (fails : request.sendfd gw.2.fd ≠ bytes.length) :
    ¬KeptBy sockets ((broker.readFromClient entry.2.fd entry.1 request).map Prod.fst) := by
  have named := mt And.symm isRequest.named
  have member := (chosen_mem isChosen).1
  have apart := consistent.clients_apart gw (List.mem_append_left _ member)
  have listedUsed := consistent.toListed.useClient (request.clock (broker.allocated + 1))
  have counted := consistent.allocated
  rw [← request.length_message isRequest.short] at fails
  obtain ⟨first, someOthers, listedFirst, shorter, without, goesOn⟩ := listedUsed.handover_failed
    request entry.2.fd _ named isChosen fails broker.allocated entry.2.fd []
  have enough : someOthers.length < broker.allocated := by
    omega
  obtain ⟨list, left, later, listedAfter, fewer, handed⟩ := listedFirst.handover_ends request
    entry.2.fd (request.message bytes) named enough gw.2.fd
    [.pass gw.2.fd entry.2.fd (request.message bytes) (request.sendfd gw.2.fd)]
  obtain ⟨after, result, listedCleaned, _, opens, _⟩ :=
    isRequest.readFromClient_ok (goesOn.trans handed) listedAfter
  rw [result]
  intro ⟨someGws, someClients, kept⟩
  have isOpen : after.opened gw.2.fd = true := by
    simp_all [Function.update_of_ne, consistent.isOpen]
  have notListening := consistent.apart gw.2.fd (mem_fdsOf.mpr ⟨gw, by simp [member], rfl⟩)
  obtain ⟨other, inLists, sameFd⟩ := mem_fdsOf.mp ((kept.owned _ isOpen).resolve_left notListening)
  rw [kept.gw.unique listedCleaned.gw, kept.client.unique listedCleaned.client] at inLists
  rcases List.mem_append.mp inLists with isGw | isClient
  · exact ((without gw.2.fd).mp (fewer _ (mem_fdsOf.mpr ⟨other, isGw, sameFd⟩))).2 rfl
  · obtain ⟨before, behind, rfl⟩ := List.append_of_mem member
    refine consistent.gws_apart other ?_ sameFd
    grind

theorem Consistent.readReady_forgets (consistent : Consistent sockets broker gws clients)
    {gw : GwRead} {client : ClientRead}
    (isEnabled : Enabled sockets broker (.readable fd gw client))
    (kept : KeptBy sockets (broker.readReady fd gw client)) :
    GoesWell broker (.readable fd gw client) := by
  rcases consistent.of_marked isEnabled.1 isEnabled.2.2 with ⟨entry, member, rfl⟩ | isClient
  · exact Or.inl ⟨entry.2, gws, entry.1, consistent.gw, member, rfl⟩
  · obtain ⟨entry, member, rfl⟩ := isClient
    obtain ⟨front, back, rfl⟩ := List.append_of_mem member
    have absent : ∀ other ∈ gws, other.2.fd ≠ entry.2.fd := fun other inGws =>
      consistent.clients_apart other (List.mem_append_left _ inGws)
    rw [Mwbd.readReady, consistent.findGwByfd_none absent, consistent.findClientByfd] at kept
    refine Or.inr ?_
    intro bytes srbmsg others chosenGw isRequest holds isChosen
    rw [holds.unique consistent.gw] at isChosen
    by_contra fails
    exact consistent.handover_forgets isRequest isChosen fails kept

theorem Consistent.step_iff (consistent : Consistent sockets broker gws clients) {event : Event}
    (isEnabled : Enabled sockets broker event) :
    KeptBy sockets (broker.step event) ↔ GoesWell broker event := by
  refine ⟨?_, consistent.step isEnabled⟩
  intro kept
  cases event with
  | acceptTcp sd block now greeting => exact consistent.acceptTcp_forgets isEnabled kept
  | acceptUnix newfd block now => exact consistent.acceptUnix_forgets isEnabled kept
  | datagram => trivial
  | except fd => exact consistent.exceptReady_forgets isEnabled kept
  | readable fd gw client => exact consistent.readReady_forgets isEnabled kept
  | timeout now => trivial

theorem Started.consistent (started : Started sockets broker) : Consistent sockets broker [] [] where
  gw := ⟨started.gw.1, started.gw.2⟩
  client := ⟨started.client.1, started.client.2⟩
  allocated := Nat.zero_le _
  distinct := List.nodup_nil
  inSet := by simp
  isMarked := by simp
  isOpen := by simp
  marks fd := (started.marks fd).trans (started.opens fd).symm
  owned fd isOpen := Or.inl ((started.opens fd).mp isOpen)
  apart := by simp [fdsOf]
  listens fd isListening := (started.opens fd).mpr isListening
  highest := started.highest

end

def threeSockets : Sockets := ⟨3, 4, 5⟩

def listening : Mwbd where
  openFdset fd := fd == 3 || fd == 4 || fd == 5
  maxfd := 5
  gw := ⟨none, none, fun _ => none⟩
  client := ⟨none, none, fun _ => none⟩
  allocated := 0
  opened fd := fd == 3 || fd == 4 || fd == 5

theorem listening_started : Started threeSockets listening := by
  have sets : ∀ fd : Int, (fd == 3 || fd == 4 || fd == 5) = true ↔ threeSockets.Listening fd := by
    simp [Sockets.Listening, threeSockets, or_assoc]
  refine ⟨⟨by decide, by decide, by decide⟩, sets, sets, ⟨?_, Or.inr rfl⟩, ⟨rfl, rfl⟩, ⟨rfl, rfl⟩⟩
  intro fd isMarked
  have isSocket : fd = 3 ∨ fd = 4 ∨ fd = 5 := (sets fd).mp isMarked
  have isLast : listening.maxfd = 5 := rfl
  omega

end MidWay.Broker
