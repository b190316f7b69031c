import MidWay.Shm.Format
import MidWay.Lib.Runs

/-!
Contract: `_mwalloc` and `_mwfree0` as the processes of a domain run them on one
heap.

A call is cut where another process can come in between: the free counts are
read without a lock, a pop and a push hold the lock of their bin, and the owner
is written outside of it. `find_bin` is a parameter, so a request may start at
any bin. A request no bin can serve goes to `mwd` for a buffer of its own and is
left out, as is the blanking of a freed buffer.

Owns: `Task`, `HeapState`, `HeapAction` and `heapMachine`.
-/

namespace MidWay.Shm

open MidWay.Lib

/-- Where a process stands in `_mwalloc` or `_mwfree0`. -/
inductive Task where
  | idle
  | scanning (bin : Nat)
  | locking (bin : Nat)
  | popped (pCHead : Int)
  | freeing (pCHead : Int) (bin : Nat)
deriving DecidableEq, Repr

/-- `holder` names the process that got the chunk from its last `_mwalloc`, as
long as no `_mwfree` of it was accepted. -/
structure HeapState where
  seg : Segment
  tasks : Nat → Task
  holder : Int → Option Nat

def HeapState.setTask (state : HeapState) (pid : Nat) (task : Task) : HeapState :=
  { state with tasks := setAt state.tasks pid task }

inductive HeapAction where
  /-- `_mwalloc` is called. -/
  | alloc (pid size : Nat)
  /-- The loop of `_mwalloc` looks at the free count of its bin. -/
  | look (pid : Nat)
  | lockFails (pid : Nat)
  /-- `popchunk`, under the lock of the bin. -/
  | pop (pid : Nat)
  /-- `_mwalloc` writes the owner and returns. -/
  | own (pid : Nat)
  /-- `_mwfree` is called for the buffer of a chunk: the checks, and the owner. -/
  | free (pid : Nat) (pCHead : Int)
  /-- `pushchunk`, under the lock of the bin. -/
  | push (pid : Nat)
deriving Repr

/-- Every process runs one call at a time, and only buffers in use are freed. -/
def HeapState.enabled (state : HeapState) : HeapAction → Prop
  | .alloc pid _ => state.tasks pid = .idle
  | .look pid => ∃ bin, state.tasks pid = .scanning bin
  | .lockFails pid => ∃ bin, state.tasks pid = .locking bin
  | .pop pid => ∃ bin, state.tasks pid = .locking bin
  | .own pid => ∃ pCHead, state.tasks pid = .popped pCHead
  | .free pid pCHead => state.tasks pid = .idle ∧ ∃ owner, state.holder pCHead = some owner
  | .push pid => ∃ pCHead bin, state.tasks pid = .freeing pCHead bin

section

variable (findBin : Nat → Nat) (mwid : Nat → Int)

/-- One bin of the loop. Behind the last bin the request leaves the heap. -/
def lookAt (state : HeapState) (pid bin : Nat) : HeapState :=
  if bin < bins then
    if state.seg.freecount bin > 0 then state.setTask pid (.locking bin)
    else state.setTask pid (.scanning (bin + 1))
  else state.setTask pid .idle

def popFrom (state : HeapState) (pid bin : Nat) : Except HeapFailure HeapState :=
  match popchunk state.seg bin with
  | .error failure => .error failure
  | .ok (none, seg) => .ok ({ state with seg := seg }.setTask pid (.scanning (bin + 1)))
  | .ok (some pCHead, seg) => .ok ({ state with seg := seg }.setTask pid (.popped pCHead))

def handOut (state : HeapState) (pid : Nat) (pCHead : Int) : HeapState :=
  { state with
    seg := state.seg.setOwner pCHead (mwid pid)
    holder := setAt state.holder pCHead (some pid) }.setTask pid .idle

def takeBack (state : HeapState) (pid : Nat) (pCHead : Int) : HeapState :=
  match mwfree0Check state.seg (pCHead + sizeofChunkhead) with
  | .error _ => state
  | .ok bin =>
      { state with
        seg := state.seg.setOwner pCHead unassigned
        holder := setAt state.holder pCHead none }.setTask pid (.freeing pCHead bin)

def pushTo (state : HeapState) (pid : Nat) (pCHead : Int) (bin : Nat) :
    Except HeapFailure HeapState :=
  match pushchunk state.seg pCHead bin with
  | .error failure => .error failure
  | .ok seg => .ok ({ state with seg := seg }.setTask pid .idle)

def HeapState.step (state : HeapState) : HeapAction → Except HeapFailure HeapState
  | .alloc pid size =>
      .ok (if size = 0 then state else state.setTask pid (.scanning (findBin size)))
  | .look pid =>
      match state.tasks pid with
      | .scanning bin => .ok (lookAt state pid bin)
      | _ => .ok state
  | .lockFails pid => .ok (state.setTask pid .idle)
  | .pop pid =>
      match state.tasks pid with
      | .locking bin => popFrom state pid bin
      | _ => .ok state
  | .own pid =>
      match state.tasks pid with
      | .popped pCHead => .ok (handOut mwid state pid pCHead)
      | _ => .ok state
  | .free pid pCHead => .ok (takeBack state pid pCHead)
  | .push pid =>
      match state.tasks pid with
      | .freeing pCHead bin => pushTo state pid pCHead bin
      | _ => .ok state

/-- The heap of a domain: `mwd` formats it, then any processes use it. -/
def heapMachine (base cps : Nat) : Machine HeapState HeapAction HeapFailure where
  start := fun state => shmbFormat base cps = some state.seg ∧
    state.tasks = (fun _ => .idle) ∧ state.holder = (fun _ => none)
  enabled := HeapState.enabled
  step := HeapState.step findBin mwid

end

/-- The chunk is in the hands of this process: taken by its `_mwalloc`, kept since
that returned, or on its way back in its `_mwfree`. -/
def HeapState.HandedTo (state : HeapState) (pid : Nat) (p : Int) : Prop :=
  state.tasks pid = .popped p ∨ state.holder p = some pid ∨
    ∃ bin, state.tasks pid = .freeing p bin

end MidWay.Shm
