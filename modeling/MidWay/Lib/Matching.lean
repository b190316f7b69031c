import Mathlib.Data.List.Basic

/-!
Contract: replies that find their asker by a tag.

The askers wait on a stack. A reply names its tag and nothing else, and the newest
asker with that tag is taken off. Some requests are never answered, and their askers
stay where they are.

Owns: `Matched`, which says that the newest askers with a tag are those of the
requests under way with it, what keeps it, and that a reply then takes off the asker
of its request.
-/

namespace MidWay.Lib.Matching

variable {Tag Owner : Type} [DecidableEq Tag]

def owners (tag : Tag) (entries : List (Tag × Owner)) : List Owner :=
  (entries.filter fun entry => entry.1 = tag).map Prod.snd

@[simp]
theorem owners_nil (tag : Tag) : owners tag ([] : List (Tag × Owner)) = [] :=
  rfl

theorem owners_cons_same (tag : Tag) (owner : Owner) (entries : List (Tag × Owner)) :
    owners tag ((tag, owner) :: entries) = owner :: owners tag entries := by
  simp [List.filter_cons_of_pos, List.map_cons, owners]

theorem owners_cons_other {tag : Tag} {entry : Tag × Owner} (different : entry.1 ≠ tag)
    (entries : List (Tag × Owner)) : owners tag (entry :: entries) = owners tag entries := by
  simp_all [List.filter_cons_of_neg, owners]

theorem owners_append (tag : Tag) (older newer : List (Tag × Owner)) :
    owners tag (older ++ newer) = owners tag older ++ owners tag newer := by
  simp [List.filter_append, List.map_append, owners]

theorem owners_sublist {fewer entries : List (Tag × Owner)} (sublist : fewer.Sublist entries)
    (tag : Tag) : (owners tag fewer).Sublist (owners tag entries) :=
  (sublist.filter _).map _

theorem mem_owners {tag : Tag} {owner : Owner} {entries : List (Tag × Owner)} :
    owner ∈ owners tag entries ↔ (tag, owner) ∈ entries := by
  unfold owners
  rw [List.mem_map]
  constructor
  · rintro ⟨⟨otherTag, other⟩, selected, rfl⟩
    rcases List.mem_filter.mp selected with ⟨member, same⟩
    have sameTag : otherTag = tag := of_decide_eq_true same
    rw [← sameTag]
    exact member
  · intro member
    exact ⟨(tag, owner), List.mem_filter.mpr ⟨member, decide_eq_true rfl⟩, rfl⟩

/-- What is left when the first entry with the tag is taken off. -/
def takeOff (tag : Tag) (entries : List (Tag × Owner)) : List (Tag × Owner) :=
  entries.eraseP fun entry => entry.1 = tag

theorem owners_takeOff_same (tag : Tag) (entries : List (Tag × Owner)) :
    owners tag (takeOff tag entries) = (owners tag entries).tail := by
  unfold takeOff
  induction entries with
  | nil => rfl
  | cons entry entries ih =>
      rcases entry with ⟨other, owner⟩
      by_cases same : other = tag
      · subst same
        rw [List.eraseP_cons_of_pos (by simp), owners_cons_same, List.tail_cons]
      · rw [List.eraseP_cons_of_neg (by simp [same]), owners_cons_other same,
          owners_cons_other same, ih]

theorem owners_takeOff_other {tag other : Tag} (different : other ≠ tag)
    (entries : List (Tag × Owner)) : owners other (takeOff tag entries) = owners other entries := by
  unfold takeOff
  induction entries with
  | nil => rfl
  | cons entry entries ih =>
      by_cases same : entry.1 = tag
      · simp [List.eraseP_cons_of_pos, same, different.symm, owners_cons_other]
      · rw [List.eraseP_cons_of_neg (by simp [same])]
        by_cases its : entry.1 = other
        · grind [owners_cons_same]
        · rw [owners_cons_other its, owners_cons_other its, ih]

/-- The first owner with the tag is the one that is found. -/
theorem find_first {tag : Tag} {owner : Owner} {rest : List Owner} {entries : List (Tag × Owner)}
    (first : owners tag entries = owner :: rest) :
    entries.find? (fun entry => entry.1 = tag) = some (tag, owner) := by
  induction entries with
  | nil => cases first
  | cons entry entries ih =>
      grind [owners_cons_same, List.cons.inj, owners_cons_other]

/-- The requests under way with one tag have one owner, and the newest askers with that tag are
theirs. -/
structure Matched (waiting inFlight : List (Tag × Owner)) : Prop where
  alike : ∀ tag, ∀ one ∈ owners tag inFlight, ∀ other ∈ owners tag inFlight, one = other
  newest : ∀ tag, owners tag inFlight <+: owners tag waiting

theorem Matched.nil : Matched ([] : List (Tag × Owner)) [] :=
  ⟨fun _ _ member => absurd member List.not_mem_nil, fun _ => List.nil_prefix⟩

variable {waiting inFlight : List (Tag × Owner)} {tag : Tag} {owner : Owner}

/-- Among owners that are all the same, the first place and the last are alike. -/
theorem append_alike {some : List Owner} (alike : ∀ other ∈ some, other = owner) :
    some ++ [owner] = owner :: some := by
  rw [List.eq_replicate_of_mem alike, ← List.replicate_succ', List.replicate_succ]

/-- An asker comes without a request. -/
theorem Matched.wait (matched : Matched waiting inFlight)
    (its : ∀ other ∈ owners tag inFlight, other = owner) :
    Matched ((tag, owner) :: waiting) inFlight := by
  refine ⟨matched.alike, ?_⟩
  intro asked
  by_cases same : tag = asked
  · subst same
    have moved : owners tag inFlight ++ [owner] <+: owner :: owners tag waiting := by
      rw [append_alike its]
      exact (List.prefix_cons_inj owner).mpr (matched.newest tag)
    rw [owners_cons_same]
    exact (List.prefix_append _ [owner]).trans moved
  · simp_all [owners_cons_other, matched.newest]

/-- An asker comes with its request. -/
theorem Matched.ask (matched : Matched waiting inFlight)
    (its : ∀ other ∈ owners tag inFlight, other = owner) :
    Matched ((tag, owner) :: waiting) (inFlight ++ [(tag, owner)]) := by
  have ownersAfter : ∀ asked, tag ≠ asked →
      owners asked (inFlight ++ [(tag, owner)]) = owners asked inFlight := by
    intro asked different
    rw [owners_append, owners_cons_other different, owners_nil, List.append_nil]
  have ownersOfTag : owners tag (inFlight ++ [(tag, owner)]) = owners tag inFlight ++ [owner] := by
    rw [owners_append, owners_cons_same, owners_nil]
  refine ⟨?_, ?_⟩
  · intro asked one oneOf other otherOf
    by_cases same : tag = asked
    · grind
    · rw [ownersAfter asked same] at oneOf otherOf
      exact matched.alike asked one oneOf other otherOf
  · intro asked
    by_cases same : tag = asked
    · subst same
      rw [ownersOfTag, owners_cons_same, append_alike its]
      exact (List.prefix_cons_inj owner).mpr (matched.newest tag)
    · simp_all [owners_cons_other, matched.newest]

/-- Requests are dropped, and their askers stay. -/
theorem Matched.drop {fewer : List (Tag × Owner)} (matched : Matched waiting inFlight)
    (dropped : fewer.Sublist inFlight) : Matched waiting fewer := by
  refine ⟨?_, ?_⟩
  · intro asked one oneOf other otherOf
    have still := (owners_sublist dropped asked).subset
    exact matched.alike asked one (still oneOf) other (still otherOf)
  · intro asked
    have sublist := owners_sublist dropped asked
    cases isOwners : owners asked fewer with
    | nil => exact List.nil_prefix
    | cons owner rest =>
        have member : owner ∈ owners asked inFlight :=
          sublist.subset (by rw [isOwners]; exact List.mem_cons_self)
        have alike : owners asked inFlight =
            List.replicate (owners asked inFlight).length owner :=
          List.eq_replicate_of_mem fun other otherOf =>
            matched.alike asked other otherOf owner member
        rw [alike, List.sublist_replicate_iff] at sublist
        rcases sublist with ⟨count, atMost, same⟩
        rw [← isOwners, same]
        refine List.IsPrefix.trans ?_ (matched.newest asked)
        rw [alike]
        exact (List.prefix_replicate_iff).mpr ⟨by rwa [List.length_replicate], by simp⟩

/-- A reply finds the asker of its request. -/
theorem Matched.found (matched : Matched waiting ((tag, owner) :: inFlight)) :
    waiting.find? (fun entry => entry.1 = tag) = some (tag, owner) := by
  have newest := matched.newest tag
  rw [owners_cons_same] at newest
  rcases newest with ⟨stale, first⟩
  exact find_first first.symm

/-- The asker is taken off with its request. -/
theorem Matched.answer (matched : Matched waiting ((tag, owner) :: inFlight)) :
    Matched (takeOff tag waiting) inFlight := by
  refine ⟨(matched.drop (List.sublist_cons_self _ _)).alike, ?_⟩
  intro asked
  have newest := matched.newest asked
  by_cases same : tag = asked
  · subst same
    rw [owners_cons_same] at newest
    rcases newest with ⟨stale, first⟩
    rw [owners_takeOff_same, ← first]
    exact ⟨stale, rfl⟩
  · grind [owners_cons_other, owners_takeOff_other]

end MidWay.Lib.Matching
