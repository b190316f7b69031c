import MidWay.Shm.CallBuffers

/-!
Contract: the table of segments a process keeps, beside what it has mapped.

`segments` is an array; an entry is deleted by moving the last one into its place.
`_mw_detach_mmap` finds the entry to delete by its descriptor, and closes the
descriptor of the entry that is in that place afterwards. The descriptor of a
freed buffer can therefore stay open and that of another one be closed, and a
later buffer gets a descriptor that is in the table already.

Owns: `Process`, `attachMmap`, `mwDetachMmap` and the lookups.
-/

namespace MidWay.Shm

/-- A `seginfo_t`; `finish` is its `end`. -/
structure Seginfo where
  segmentid : Int
  fd : Int
  start : Int
  finish : Int
deriving DecidableEq, Repr

/-- What the system has mapped and opened for a process, and the table of the process. -/
structure Process where
  space : AddressSpace
  segments : List Seginfo
  descriptors : List Int

/-- The place of the first entry around an address. -/
def Process.findsegmentByaddr (process : Process) (ptr : Int) : Option Nat :=
  process.segments.findIdx? fun si => decide (si.start ≤ ptr ∧ si.finish ≥ ptr)

def Process.segmentAt (process : Process) (ptr : Int) : Option Seginfo :=
  (process.findsegmentByaddr ptr).bind fun index => process.segments[index]?

def Process.findsegmentByid (process : Process) (id : Int) : Option Seginfo :=
  process.segments.find? fun si => si.segmentid == id

/-- The mapping an access to the memory at an address goes to. -/
def AddressSpace.resolve (space : AddressSpace) (ptr : Int) : Option Mapping :=
  space.segments.find? fun si => decide (si.start ≤ ptr ∧ ptr < si.finish)

/-- `attach_mmap`, with the descriptor `open` gives and the place `mmap` finds. -/
def Process.attachMmap (process : Process) (id length fd : Int)
    (area : FreeArea process.space length) (fresh : process.space.findsegmentByid id = none) :
    Process where
  space := process.space.attach id length area fresh
  segments := process.segments ++ [⟨id, fd, area.start, area.start + length⟩]
  descriptors := fd :: process.descriptors

/-- `munmap` of a range. A mapping that is only cut by it is taken as gone too. -/
def AddressSpace.unmap (space : AddressSpace) (start finish : Int) : AddressSpace where
  segments := space.segments.filter fun si => !decide (si.start < finish ∧ start < si.finish)
  distinct := fun one oneIn two twoIn =>
    space.distinct one (List.mem_of_mem_filter oneIn) two (List.mem_of_mem_filter twoIn)
  apart := fun one oneIn two twoIn =>
    space.apart one (List.mem_of_mem_filter oneIn) two (List.mem_of_mem_filter twoIn)

/-- The entry `delsegment` takes: by its descriptor, or by its id when it has none. -/
def deletedIndex (segments : List Seginfo) (id fd : Int) : Option Nat :=
  if fd > -1 then segments.findIdx? fun si => si.fd == fd
  else segments.findIdx? fun si => si.segmentid == id

/-- The array behind `segments[idx] = segments[nsegments]`, and the number of its entries. The
last place is still there, but no entry any more. -/
def delsegment (segments : List Seginfo) (id fd : Int) : List Seginfo × Nat :=
  match deletedIndex segments id fd, segments.getLast? with
  | some idx, some last => (segments.set idx last, segments.length - 1)
  | _, _ => (segments, segments.length)

/-- `_mw_detach_mmap`. It is given a pointer into the array, and reads the descriptor to close
through it when the entry is gone. -/
def Process.mwDetachMmap (process : Process) (index : Nat) : Process :=
  match process.segments[index]? with
  | none => process
  | some si =>
      let (array, nsegments) := delsegment process.segments si.segmentid si.fd
      let closed := (array[index]?).map Seginfo.fd
      { space := process.space.unmap si.start si.finish
        segments := array.take nsegments
        descriptors := process.descriptors.filter fun fd => some fd != closed }

/-- An address inside of a mapping is resolved there. -/
theorem AddressSpace.resolve_inside {space : AddressSpace} {si : Mapping}
    (member : si ∈ space.segments) {ptr : Int} (lower : si.start ≤ ptr) (upper : ptr < si.finish) :
    space.resolve ptr = some si := by
  unfold AddressSpace.resolve
  cases found : space.segments.find? fun si => decide (si.start ≤ ptr ∧ ptr < si.finish) with
  | none =>
      grind
  | some other =>
      have otherIn := List.mem_of_find?_eq_some found
      have contains := List.find?_some found
      simp only [decide_eq_true_eq] at contains
      by_cases same : other = si
      · rw [same]
      · rcases space.apart other otherIn si member same with before | behind
        · omega
        · omega

theorem Process.segmentAt_some {process : Process} {ptr : Int} {si : Seginfo}
    (found : process.segmentAt ptr = some si) :
    ∃ index, process.findsegmentByaddr ptr = some index ∧ process.segments[index]? = some si ∧
      si.start ≤ ptr ∧ ptr ≤ si.finish := by
  rcases Option.bind_eq_some_iff.mp found with ⟨index, isIndex, isEntry⟩
  rcases List.findIdx?_eq_some_iff_getElem.mp isIndex with ⟨below, around, -⟩
  have same : process.segments[index] = si := by
    rw [List.getElem?_eq_getElem below] at isEntry
    exact Option.some.inj isEntry
  rw [same] at around
  simp only [decide_eq_true_eq] at around
  exact ⟨index, isIndex, isEntry, around.1, around.2⟩

theorem Process.segmentAt_attachMmap {process : Process} {ptr : Int} {si : Seginfo}
    (found : process.segmentAt ptr = some si) (id length fd : Int)
    (area : FreeArea process.space length) (fresh : process.space.findsegmentByid id = none) :
    (process.attachMmap id length fd area fresh).segmentAt ptr = some si := by
  rcases Option.bind_eq_some_iff.mp found with ⟨index, isIndex, isEntry⟩
  have below := (List.getElem?_eq_some_iff.mp isEntry).1
  unfold Process.segmentAt Process.findsegmentByaddr Process.attachMmap
  simp only
  rw [List.findIdx?_append, show process.segments.findIdx? _ = some index from isIndex,
    Option.some_or, Option.bind_some, List.getElem?_append_left below]
  exact isEntry

end MidWay.Shm
