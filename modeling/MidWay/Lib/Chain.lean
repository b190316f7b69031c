import Mathlib.Data.List.Nodup
import Mathlib.Tactic.Common

/-!
Contract: intrusive lists whose elements know the link that points to them.

A list has a name, and its head link holds its first element; every element has a
link of its own that holds the next one, and a root that names the link the element
is held by. Elements are put in front of a list and taken out of whichever list
they are in, by changing the links around them.

Owns: `Links`, `Chain`, `Threads`, the rules `Threads.link` and `Threads.unlink`,
and walks along a list.
-/

namespace MidWay.Lib

variable {Name α : Type}

inductive Link (Name α : Type) where
  | head (name : Name)
  | next (element : α)
deriving DecidableEq

structure Links (Name α : Type) where
  target : Link Name α → Option α
  root : α → Option (Link Name α)

section Operations

variable [DecidableEq Name] [DecidableEq α]

def Links.setTarget (links : Links Name α) (place : Link Name α) (held : Option α) :
    Links Name α :=
  { links with target := fun other => if other = place then held else links.target other }

def Links.setRoot (links : Links Name α) (element : α) (root : Option (Link Name α)) :
    Links Name α :=
  { links with root := fun other => if other = element then root else links.root other }

def Links.setRootAt (links : Links Name α) (held : Option α) (root : Link Name α) :
    Links Name α :=
  match held with
  | some element => links.setRoot element (some root)
  | none => links

def Links.link (links : Links Name α) (element : α) (place : Link Name α) : Links Name α :=
  let held := links.target place
  (((links.setRootAt held (.next element)).setRoot element (some place)).setTarget
    (.next element) held).setTarget place (some element)

/-- The element is taken out of where it is. An element without a root is in no list. -/
def Links.unlink (links : Links Name α) (element : α) : Option (Links Name α) :=
  match links.root element with
  | none => none
  | some root =>
      let links := links.setTarget root (links.target (.next element))
      let links := links.setRootAt (links.target (.next element)) root
      some ((links.setRoot element none).setTarget (.next element) none)

end Operations

/-- From this place on the links hold these elements, each with the right root. -/
def Chain (links : Links Name α) : Link Name α → List α → Prop
  | place, [] => links.target place = none
  | place, element :: rest =>
      links.target place = some element ∧ links.root element = some place ∧
        Chain links (.next element) rest

structure Threads (links : Links Name α) (lists : Name → List α) : Prop where
  chain : ∀ name, Chain links (.head name) (lists name)
  nodup : ∀ name, (lists name).Nodup
  apart : ∀ name other element, element ∈ lists name → element ∈ lists other → name = other

section Chains

variable {links links' : Links Name α} {place : Link Name α} {elements : List α}

/-- A chain uses the place it starts at, the links of its elements and their roots. -/
theorem Chain.congr (chain : Chain links place elements)
    (start : links'.target place = links.target place)
    (next : ∀ element ∈ elements, links'.target (.next element) = links.target (.next element))
    (root : ∀ element ∈ elements, links'.root element = links.root element) :
    Chain links' place elements := by
  induction elements generalizing place with
  | nil => exact start.trans chain
  | cons element rest ih =>
      have first : element ∈ element :: rest := List.mem_cons_self
      refine ⟨start.trans chain.1, (root element first).trans chain.2.1, ?_⟩
      apply ih chain.2.2 (next element first)
      · simp_all
      · simp_all

/-- The root of an element is the start of the chain or the link of another element. -/
theorem Chain.root_mem (chain : Chain links place elements) (nodup : elements.Nodup) {element : α}
    (member : element ∈ elements) :
    links.root element = some place ∨
      ∃ before ∈ elements, before ≠ element ∧ links.root element = some (.next before) := by
  induction elements generalizing place with
  | nil => cases member
  | cons first rest ih =>
      rcases List.nodup_cons.mp nodup with ⟨notLater, restNodup⟩
      rcases List.mem_cons.mp member with rfl | later
      · exact Or.inl chain.2.1
      · rcases ih chain.2.2 restNodup later with
          here | ⟨before, inRest, different, isRoot⟩
        · exact Or.inr ⟨first, List.mem_cons_self, fun same => notLater (same ▸ later), here⟩
        · exact Or.inr ⟨before, List.mem_cons_of_mem first inRest, different, isRoot⟩

/-- The link of an element holds an element of the chain. -/
theorem Chain.next_mem (chain : Chain links place elements) {element after : α}
    (member : element ∈ elements) (holds : links.target (.next element) = some after) :
    after ∈ elements.tail := by
  induction elements generalizing place with
  | nil => cases member
  | cons first rest ih =>
      rcases List.mem_cons.mp member with rfl | later
      · cases rest with
        | nil =>
            rw [show links.target (.next element) = none from chain.2.2] at holds
            cases holds
        | cons second others =>
            rw [chain.2.2.1] at holds
            cases holds
            exact List.mem_cons_self
      · exact List.mem_of_mem_tail (ih chain.2.2 later)

theorem Chain.head (chain : Chain links place elements) : links.target place = elements.head? := by
  cases elements with
  | nil => exact chain
  | cons element rest => exact chain.1

/-- The link of an element holds the first of those behind it. -/
theorem Chain.next_head {before after : List α} {element : α}
    (chain : Chain links place (before ++ element :: after)) :
    links.target (.next element) = after.head? := by
  induction before generalizing place with
  | nil => exact chain.2.2.head
  | cons first rest ih => exact ih chain.2.2

/-- A loop along a list up to the first element that passes the test. Without a result
the turns are used up. -/
def Links.search (links : Links Name α) (test : α → Bool) : Nat → Option α → Option (Option α)
  | _, none => some none
  | 0, some _ => none
  | turns + 1, some element =>
      if test element then some (some element)
      else links.search test turns (links.target (.next element))

theorem Chain.search (chain : Chain links place elements) (test : α → Bool) {turns : Nat}
    (enough : elements.length ≤ turns) :
    links.search test turns (links.target place) = some (elements.find? test) := by
  induction elements generalizing place turns with
  | nil =>
      rw [show links.target place = none from chain, Links.search]
      rfl
  | cons element rest ih =>
      cases turns with
      | zero => exact absurd enough (by simp)
      | succ turns =>
          rw [chain.1, Links.search, List.find?_cons]
          cases test element with
          | false =>
              simp only [Bool.false_eq_true, if_false]
              exact ih chain.2.2 (Nat.le_of_succ_le_succ enough)
          | true => rfl

end Chains

section Changes

variable [DecidableEq α] {links : Links Name α}

theorem Links.setRootAt_target (links : Links Name α) (held : Option α) (root : Link Name α) :
    (links.setRootAt held root).target = links.target := by
  cases held with
  | none => rfl
  | some element => rfl

theorem Links.setRootAt_root (links : Links Name α) (held : Option α) (root : Link Name α)
    (element : α) :
    (links.setRootAt held root).root element =
      if held = some element then some root else links.root element := by
  cases held with
  | none => rfl
  | some other =>
      simp only [Links.setRootAt, Links.setRoot, Option.some.injEq]
      by_cases same : element = other
      · rw [if_pos same, if_pos same.symm]
      · rw [if_neg same, if_neg (Ne.symm same)]

variable [DecidableEq Name]

theorem Links.link_target (links : Links Name α) (element : α) (place other : Link Name α) :
    (links.link element place).target other =
      if other = place then some element
      else if other = .next element then links.target place else links.target other := by
  simp only [Links.link, Links.setTarget, Links.setRoot, Links.setRootAt_target]

theorem Links.link_root (links : Links Name α) (element : α) (place : Link Name α) (other : α) :
    (links.link element place).root other =
      if other = element then some place
      else if links.target place = some other then some (.next element) else links.root other := by
  simp only [Links.link, Links.setTarget, Links.setRoot, Links.setRootAt_root]

/-- What a place holds when the element is out of its list. -/
theorem Links.unlink_some {element : α} {root : Link Name α}
    (isRoot : links.root element = some root) (own : root ≠ .next element) :
    ∃ links', links.unlink element = some links' ∧
      (∀ place, links'.target place = if place = .next element then none
        else if place = root then links.target (.next element) else links.target place) ∧
      (∀ other, links'.root other = if other = element then none
        else if links.target (.next element) = some other then some root
        else links.root other) := by
  rw [Links.unlink, isRoot]
  refine ⟨_, rfl, ?_, ?_⟩
  · intro place
    simp only [Links.setTarget, Links.setRoot, Links.setRootAt_target]
  · intro other
    simp only [Links.setTarget, Links.setRoot, Links.setRootAt_root, if_neg (Ne.symm own)]

theorem Chain.unlink {links' : Links Name α} {element : α} {root place : Link Name α}
    {elements : List α} (isRoot : links.root element = some root)
    (target : ∀ place, links'.target place = if place = .next element then none
      else if place = root then links.target (.next element) else links.target place)
    (roots : ∀ other, links'.root other = if other = element then none
      else if links.target (.next element) = some other then some root else links.root other)
    (chain : Chain links place elements) (nodup : elements.Nodup)
    (start : ∀ other ∈ elements, place ≠ .next other) (member : element ∈ elements) :
    Chain links' place (elements.erase element) := by
  induction elements generalizing place with
  | nil => cases member
  | cons first rest ih =>
      rcases List.nodup_cons.mp nodup with ⟨notLater, restNodup⟩
      by_cases here : first = element
      · subst here
        rw [List.erase_cons_head]
        have isPlace : root = place := Option.some.inj (isRoot.symm.trans chain.2.1)
        subst isPlace
        have held : links'.target root = links.target (.next first) := by
          rw [target, if_neg (start first List.mem_cons_self), if_pos rfl]
        cases rest with
        | nil => exact held.trans chain.2.2
        | cons second others =>
            rcases List.nodup_cons.mp restNodup with ⟨secondOnce, othersNodup⟩
            have secondNot : second ≠ first := by
              grind
            refine ⟨held.trans chain.2.2.1, ?_, ?_⟩
            · rw [roots, if_neg secondNot, if_pos chain.2.2.1]
            · have unchanged : ∀ other ∈ second :: others,
                  links'.target (.next other) = links.target (.next other) := by
                intro other inRest
                have notFirst : other ≠ first := fun same => notLater (same ▸ inRest)
                rw [target, if_neg (fun same => notFirst (Link.next.inj same)),
                  if_neg (Ne.symm (start other (List.mem_cons_of_mem first inRest)))]
              apply Chain.congr chain.2.2.2.2 (unchanged second List.mem_cons_self)
              · simp_all
              · intro other inOthers
                have notFirst : other ≠ first := by
                  grind
                have notSecond : some second ≠ some other := by
                  grind
                rw [roots, if_neg notFirst, chain.2.2.1, if_neg notSecond]
      · have later : element ∈ rest := by
          rcases List.mem_cons.mp member with same | later
          · exact absurd same.symm here
          · exact later
        rw [List.erase_cons_tail (by simpa using here)]
        have rootInside : ∃ before ∈ first :: rest, root = .next before := by
          rcases chain.2.2.root_mem restNodup later with isNext | ⟨before, inRest, -, isNext⟩
          · exact ⟨first, List.mem_cons_self, Option.some.inj (isRoot.symm.trans isNext)⟩
          · grind
        rcases rootInside with ⟨before, inside, isBefore⟩
        refine ⟨?_, ?_, ?_⟩
        · rw [target, if_neg (start element member),
            if_neg (isBefore ▸ start before inside)]
          exact chain.1
        · have notNext : links.target (.next element) ≠ some first := by
            intro holds
            exact notLater (List.mem_of_mem_tail (chain.2.2.next_mem later holds))
          rw [roots, if_neg here, if_neg notNext]
          exact chain.2.1
        · apply ih chain.2.2 restNodup _ later
          intro other inRest same
          exact notLater (Link.next.inj same ▸ inRest)

variable {lists : Name → List α}

/-- The links of an element that is in no list can be cleared. -/
theorem Threads.clear (threads : Threads links lists) {element : α}
    (outside : ∀ name, element ∉ lists name) :
    Threads ((links.setRoot element none).setTarget (.next element) none) lists := by
  refine ⟨?_, threads.nodup, threads.apart⟩
  intro name
  have different : ∀ other ∈ lists name, other ≠ element := by
    grind
  apply (threads.chain name).congr
  · simp [Links.setTarget, Links.setRoot]
  · simp_all [Links.setTarget, Links.setRoot]
  · simp_all [Links.setTarget, Links.setRoot]

def consAt (lists : Name → List α) (element : α) (name : Name) : Name → List α :=
  fun other => if other = name then element :: lists other else lists other

/-- An element that is in no list goes in front of one. -/
theorem Threads.link (threads : Threads links lists) {element : α}
    (outside : ∀ name, element ∉ lists name) (name : Name) :
    Threads (links.link element (.head name)) (consAt lists element name) := by
  have target := links.link_target element (.head name)
  have roots := links.link_root element (.head name)
  have tailNext : ∀ other, ∀ held ∈ lists other,
      (links.link element (.head name)).target (.next held) = links.target (.next held) := by
    intro other held member
    have different : held ≠ element := fun same => outside other (same ▸ member)
    rw [target, if_neg (by simp), if_neg (fun same => different (Link.next.inj same))]
  refine ⟨?_, ?_, ?_⟩
  · intro other
    by_cases here : other = name
    · subst here
      rw [consAt, if_pos rfl]
      refine ⟨by rw [target, if_pos rfl], by rw [roots, if_pos rfl], ?_⟩
      have chain := threads.chain other
      have distinct := threads.nodup other
      have held : (links.link element (.head other)).target (.next element) =
          links.target (.head other) := by
        rw [target, if_neg (by simp), if_pos rfl]
      generalize isList : lists other = elements at chain distinct
      have member : ∀ one ∈ elements, one ∈ lists other := by
        simp [isList]
      cases elements with
      | nil => exact held.trans chain
      | cons first rest =>
          have notElement : ∀ one ∈ first :: rest, one ≠ element := by
            grind
          refine ⟨held.trans chain.1, ?_, ?_⟩
          · rw [roots, if_neg (notElement first List.mem_cons_self), if_pos chain.1]
          · apply Chain.congr chain.2.2 (tailNext other first (member first List.mem_cons_self))
            · simp_all
            · intro one inRest
              have notFirst : some first ≠ some one := by
                grind
              rw [roots, if_neg (notElement one (List.mem_cons_of_mem first inRest)), chain.1,
                if_neg notFirst]
    · rw [consAt, if_neg here]
      apply (threads.chain other).congr
      · rw [target, if_neg (fun same => here (Link.head.inj same)), if_neg (by simp)]
      · exact tailNext other
      · intro one member
        have notElement : one ≠ element := fun same => outside other (same ▸ member)
        have notFirst : links.target (.head name) ≠ some one := by
          intro holds
          have chain := threads.chain name
          cases isList : lists name with
          | nil =>
              rw [isList] at chain
              rw [show links.target (.head name) = none from chain] at holds
              cases holds
          | cons first rest =>
              rw [isList] at chain
              have same : first = one := Option.some.inj (chain.1.symm.trans holds)
              have inName : one ∈ lists name := by
                simp [isList, same]
              exact here (threads.apart other name one member inName)
        rw [roots, if_neg notElement, if_neg notFirst]
  · intro other
    rw [consAt]
    split_ifs
    · exact List.nodup_cons.mpr ⟨outside other, threads.nodup other⟩
    · exact threads.nodup other
  · intro first second one inFirst inSecond
    rw [consAt] at inFirst inSecond
    split_ifs at inFirst inSecond with isFirst isSecond isSecond
    · rw [isFirst, isSecond]
    · rcases List.mem_cons.mp inFirst with rfl | before
      · exact absurd inSecond (outside second)
      · exact threads.apart first second one before inSecond
    · rcases List.mem_cons.mp inSecond with rfl | before
      · exact absurd inFirst (outside first)
      · exact threads.apart first second one inFirst before
    · exact threads.apart first second one inFirst inSecond

/-- An element that is in a list can be taken out. -/
theorem Threads.unlink (threads : Threads links lists) {element : α} {name : Name}
    (member : element ∈ lists name) :
    ∃ links', links.unlink element = some links' ∧ Threads links' fun other =>
      (lists other).erase element := by
  have rooted : ∃ root, links.root element = some root ∧ root ≠ .next element ∧
      (root = .head name ∨ ∃ before ∈ lists name, root = .next before) := by
    rcases (threads.chain name).root_mem (threads.nodup name) member with
      isHead | ⟨before, inside, different, isNext⟩
    · exact ⟨_, isHead, by simp, Or.inl rfl⟩
    · exact ⟨_, isNext, fun same => different (Link.next.inj same), Or.inr ⟨before, inside, rfl⟩⟩
  rcases rooted with ⟨root, isRoot, own, inName⟩
  rcases links.unlink_some isRoot own with ⟨links', taken, target, roots⟩
  refine ⟨links', taken, ?_, ?_, ?_⟩
  · intro other
    by_cases here : other = name
    · subst here
      exact (threads.chain other).unlink isRoot target roots (threads.nodup other) (by simp) member
    · have absent : element ∉ lists other :=
        fun inOther => here (threads.apart other name element inOther member)
      rw [List.erase_of_not_mem absent]
      have notRoot : ∀ place, (place = .head other ∨ ∃ one ∈ lists other, place = .next one) →
          place ≠ root := by
        intro place isPlace same
        subst same
        rcases isPlace with rfl | ⟨one, inOther, rfl⟩
        · simp_all
        · rcases inName with isHead | ⟨before, inside, isNext⟩
          · cases isHead
          · cases isNext
            exact here (threads.apart other name one inOther inside)
      apply (threads.chain other).congr
      · rw [target, if_neg (by simp), if_neg (notRoot _ (Or.inl rfl))]
      · grind
      · intro one inOther
        have different : one ≠ element := fun same => absent (same ▸ inOther)
        have notNext : links.target (.next element) ≠ some one := by
          intro holds
          have inside := List.mem_of_mem_tail ((threads.chain name).next_mem member holds)
          exact here (threads.apart other name one inOther inside)
        rw [roots, if_neg different, if_neg notNext]
  · intro other
    exact (threads.nodup other).erase element
  · intro first second one inFirst inSecond
    exact threads.apart first second one (List.mem_of_mem_erase inFirst)
      (List.mem_of_mem_erase inSecond)

end Changes

end MidWay.Lib
