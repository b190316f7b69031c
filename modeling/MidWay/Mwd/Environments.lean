import Mathlib.Data.List.Basic
import Mathlib.Logic.Function.Basic
import MidWay.CLib.Bytes

/-!
Contract: the environments of the servers, which are inherited from the default one to a
group and from a group to a server.

An environment is an array of pointers to strings, with `NULL` behind the last one, and
every string has a block of its own. A variable that is set is put behind the others, and
the one that is found is the first.

Owns: `mySetEnv`, `myUnSetEnv`, `myGetEnv` and `dupEnv`, the last settings of
`smgrExecServer`, and the exact condition under which environments behave as maps.
-/

namespace MidWay.Mwd.Environments

open MidWay.CLib

variable {value : List Byte} {pointer place : Nat}

structure Block where
  size : Nat
  text : List Byte
deriving DecidableEq

/-- The numbers of the blocks that the array points to, in front of the `NULL`, and for how many
pointers there is room. -/
structure Environ where
  pointers : List Nat
  capacity : Nat
deriving DecidableEq

/-- A byte or pointer is stored outside its block, `NULL` is followed, or a loop does not end. -/
inductive Fault where
  | outside
  | null
  | endless
deriving DecidableEq

def equalSign : Byte := 61

/-- What `%s` writes for `NULL`. -/
def nullText : List Byte := ascii "(null)".toList

def entryText (var value : List Byte) : List Byte := var ++ equalSign :: value

def mySetEnv (strings : List Block) (envp : Option Environ) (var : List Byte)
    (value : Option (List Byte)) : Except Fault (List Block × Option Environ) :=
  let vallen := value.elim 0 List.length
  let pointers := envp.elim [] Environ.pointers
  let capacity := envp.elim 3 fun _ => pointers.length + 2
  let entry : Block := ⟨var.length + vallen + 2, entryText var (value.getD nullText)⟩
  if entry.size < entry.text.length + 1 ∨ capacity < pointers.length + 2 then .error .outside
  else .ok (strings ++ [entry], some ⟨pointers ++ [strings.length], capacity⟩)

def valueAt (strings : List Block) (var : List Byte) (pointer : Nat) : Option (List Byte) :=
  (strings[pointer]?).bind fun block =>
    if (var ++ [equalSign]).isPrefixOf block.text then some (block.text.drop (var.length + 1))
    else none

def myGetEnv (strings : List Block) (envp : Option Environ) (var : List Byte) :
    Option (List Byte) :=
  envp.bind fun env => env.pointers.findSome? (valueAt strings var)

/-- When the variable is found, the search for the end of the array looks at the entry of the
variable in every turn, and not at that of the turn. -/
def myUnSetEnv (strings : List Block) (envp : Option Environ) (var : List Byte) :
    Except Fault Int :=
  match envp with
  | none => .error .null
  | some env =>
      if env.pointers.any fun pointer => (valueAt strings var pointer).isSome then .error .endless
      else .ok (-1)

/-- `strdup`. -/
def copyBlock (strings : List Block) (pointer : Nat) : Block :=
  let text := (strings[pointer]?).elim [] Block.text
  ⟨text.length + 1, text⟩

def dupEnv (strings : List Block) (envp : Option Environ) : List Block × Option Environ :=
  match envp with
  | none => (strings, none)
  | some env =>
      (strings ++ env.pointers.map (copyBlock strings),
        some ⟨List.range' strings.length env.pointers.length, env.pointers.length + 1⟩)

/-- What the instance of `mwd` gives to its servers. -/
structure Settings where
  homedir : List Byte
  instancename : List Byte
  uri : List Byte

def pathName : List Byte := ascii "PATH".toList
def homeName : List Byte := ascii "MWHOME".toList
def addressName : List Byte := ascii "MWADDRESS".toList
def instanceName : List Byte := ascii "MWINSTANCE".toList

/-- `%s/%s/bin:%s`. -/
def pathText (settings : Settings) (path : Option (List Byte)) : List Byte :=
  settings.homedir ++ ascii "/".toList ++ settings.instancename ++ ascii "/bin:".toList ++
    path.getD nullText

/-- `%s/%s/run`. -/
def runText (settings : Settings) : List Byte :=
  settings.homedir ++ ascii "/".toList ++ settings.instancename ++ ascii "/run".toList

def lastSettings (settings : Settings) (path : Option (List Byte)) : List (List Byte × List Byte) :=
  [(pathName, pathText settings path),
    (homeName, settings.homedir),
    (addressName, settings.uri),
    (instanceName, settings.instancename)]

def setAll (strings : List Block) (envp : Option Environ) :
    List (List Byte × List Byte) → Except Fault (List Block × Option Environ)
  | [] => .ok (strings, envp)
  | (var, value) :: rest =>
      (mySetEnv strings envp var (some value)).bind fun set => setAll set.1 set.2 rest

/-- The environment that the child makes for `execvpe`, in a copy of the memory. The paths are
written to an array of 1024 bytes. -/
def smgrExecServer (strings : List Block) (defaultEnv env : Option Environ)
    (settings : Settings) : Except Fault (List Block × Option Environ) :=
  let dup := dupEnv strings env
  let path := myGetEnv dup.1 dup.2 pathName
  if 1024 < (pathText settings path).length + 1 then .error .outside
  else
    (setAll dup.1 dup.2 (lastSettings settings path)).bind fun set =>
      if 1024 < (runText settings).length + 1 then .error .outside
      else
        (mySetEnv set.1 defaultEnv (ascii "PWD".toList) (some (runText settings))).map
          fun pwd => (pwd.1, set.2)

structure Memory where
  strings : List Block
  envs : List (Option Environ)

def Memory.env (memory : Memory) (place : Nat) : Option Environ := (memory.envs[place]?).join

inductive Event where
  | set (place : Nat) (var : List Byte) (value : Option (List Byte))
  | unset (place : Nat) (var : List Byte)
  | dup (place : Nat)
  | exec (place : Nat) (settings : Settings)

def Memory.step (memory : Memory) : Event → Except Fault Memory
  | .set place var value =>
      (mySetEnv memory.strings (memory.env place) var value).map fun set =>
        ⟨set.1, memory.envs.set place set.2⟩
  | .unset place var =>
      (myUnSetEnv memory.strings (memory.env place) var).map fun _ => memory
  | .dup place =>
      let dup := dupEnv memory.strings (memory.env place)
      .ok ⟨dup.1, memory.envs ++ [dup.2]⟩
  | .exec place settings =>
      (smgrExecServer memory.strings (memory.env 0) (memory.env place) settings).map fun _ => memory

abbrev Maps := List (List Byte → Option (List Byte))

def Maps.behind (maps : Maps) : Event → Maps
  | .set place var value =>
      maps.modify place fun map => Function.update map var (some (value.getD []))
  | .unset place var => maps.modify place fun map => Function.update map var none
  | .dup place => maps ++ [(maps[place]?).getD fun _ => none]
  | .exec _ _ => maps

structure Agrees (memory : Memory) (maps : Maps) : Prop where
  length : memory.envs.length = maps.length
  values : ∀ (place : Nat) (envp : Option Environ) (map : List Byte → Option (List Byte)),
    memory.envs[place]? = some envp → maps[place]? = some map →
      ∀ var, equalSign ∉ var → myGetEnv memory.strings envp var = map var

/-- A server that is executed sees the last settings, and else what its environment has. -/
def Event.Executes (memory : Memory) (maps : Maps) : Event → Prop
  | .exec place settings => ∀ map, maps[place]? = some map →
      ∃ child, smgrExecServer memory.strings (memory.env 0) (memory.env place) settings = .ok child ∧
        (∀ setting ∈ lastSettings settings (map pathName),
          myGetEnv child.1 child.2 setting.1 = some setting.2) ∧
        ∀ var, equalSign ∉ var →
          var ∉ (lastSettings settings (map pathName)).map Prod.fst →
            myGetEnv child.1 child.2 var = map var
  | .set _ _ _ | .unset _ _ | .dup _ => True

def Event.Lawful (maps : Maps) : Event → Prop
  | .set place var _ | .unset place var => place < maps.length ∧ equalSign ∉ var
  | .dup place | .exec place _ => place < maps.length

def AllLawful : Maps → List Event → Prop
  | _, [] => True
  | maps, event :: rest => event.Lawful maps ∧ AllLawful (maps.behind event) rest

def Memory.Keeps : Memory → Maps → List Event → Prop
  | _, _, [] => True
  | memory, maps, event :: rest =>
      ∃ after, memory.step event = .ok after ∧ Agrees after (maps.behind event) ∧
        event.Executes memory maps ∧ after.Keeps (maps.behind event) rest

/-- A variable that is set gets a value, and does not have another one; a variable that is unset
has none, in an environment that is not `NULL`; and in the environment of a server that is executed
there is none of the last settings with another value, and the path is shorter than the array. -/
def Event.Fits (memory : Memory) (maps : Maps) : Event → Prop
  | .set place var value =>
      value ≠ none ∧ ∀ map, maps[place]? = some map → map var = none ∨ map var = value
  | .unset place var => memory.env place ≠ none ∧ ∀ map, maps[place]? = some map → map var = none
  | .dup _ => True
  | .exec place settings => ∀ map, maps[place]? = some map →
      (pathText settings (map pathName)).length < 1024 ∧
        ∀ setting ∈ lastSettings settings (map pathName),
          map setting.1 = none ∨ map setting.1 = some setting.2

def AllFit : Memory → Maps → List Event → Prop
  | _, _, [] => True
  | memory, maps, event :: rest =>
      event.Fits memory maps ∧ ∀ after, memory.step event = .ok after →
        AllFit after (maps.behind event) rest

def WellFormed (strings : List Block) (envp : Option Environ) : Prop :=
  ∀ env, envp = some env → ∀ pointer ∈ env.pointers, ∃ size name value,
    strings[pointer]? = some ⟨size, entryText name value⟩ ∧ equalSign ∉ name

theorem isPrefixOf_entryText {var name : List Byte} (varFree : equalSign ∉ var)
    (nameFree : equalSign ∉ name) (value : List Byte) :
    (var ++ [equalSign]).isPrefixOf (entryText name value) = true ↔ name = var := by
  induction var generalizing name with
  | nil =>
      cases name with
      | nil => exact iff_of_true rfl rfl
      | cons c rest =>
          refine iff_of_false (fun isPrefix => ?_) (List.cons_ne_nil _ _)
          have same := (List.cons_prefix_cons.mp (List.isPrefixOf_iff_prefix.mp isPrefix)).1
          exact nameFree (same ▸ List.mem_cons_self)
  | cons v var ih =>
      cases name with
      | nil =>
          refine iff_of_false (fun isPrefix => ?_) (List.cons_ne_nil _ _).symm
          have same := (List.cons_prefix_cons.mp (List.isPrefixOf_iff_prefix.mp isPrefix)).1
          exact varFree (same ▸ List.mem_cons_self)
      | cons c rest =>
          have later := @ih rest
            (fun member => varFree (List.mem_cons_of_mem _ member))
            (fun member => nameFree (List.mem_cons_of_mem _ member))
          rw [List.isPrefixOf_iff_prefix] at later ⊢
          rw [entryText, List.cons_append, List.cons_append, List.cons_prefix_cons,
            List.cons.injEq, eq_comm]
          exact and_congr_right fun _ => later

theorem findSome?_of_map {entries others : List Nat} {find search : Nat → Option (List Byte)}
    (same : entries.map find = others.map search) :
    entries.findSome? find = others.findSome? search := by
  have values (entries : List Nat) (find : Nat → Option (List Byte)) :
      entries.findSome? find = (entries.map find).findSome? id := by
    rw [List.findSome?_map, Function.id_comp]
  rw [values, same, ← values]

section

variable {strings : List Block} {envp : Option Environ} {var : List Byte}

theorem valueAt_entry {size : Nat} {name : List Byte}
    (isEntry : strings[pointer]? = some ⟨size, entryText name value⟩) (nameFree : equalSign ∉ name)
    (varFree : equalSign ∉ var) :
    valueAt strings var pointer = if name = var then some value else none := by
  have isPrefix := isPrefixOf_entryText varFree nameFree value
  rw [valueAt, isEntry, Option.bind_some]
  dsimp only
  by_cases same : name = var
  · rw [if_pos (isPrefix.mpr same), if_pos same, entryText, same, List.append_cons,
      List.drop_left' (by rw [List.length_append, List.length_singleton])]
  · rw [if_neg (mt isPrefix.mp same), if_neg same]

theorem WellFormed.extend (wellFormed : WellFormed strings envp) (more : List Block) :
    WellFormed (strings ++ more) envp := by
  intro env isEnv pointer member
  obtain ⟨size, name, value, isEntry, nameFree⟩ := wellFormed env isEnv pointer member
  grind

theorem valueAt_extend (inside : pointer < strings.length) (more : List Block) :
    valueAt (strings ++ more) var pointer = valueAt strings var pointer := by
  rw [valueAt, valueAt, List.getElem?_append_left inside]

theorem WellFormed.inside {env : Environ} (wellFormed : WellFormed strings (some env))
    (member : pointer ∈ env.pointers) : pointer < strings.length := by
  obtain ⟨size, name, value, isEntry, _⟩ := wellFormed env rfl pointer member
  exact (List.getElem?_eq_some_iff.mp isEntry).1

theorem WellFormed.getEnv_extend (wellFormed : WellFormed strings envp) (more : List Block)
    (var : List Byte) : myGetEnv (strings ++ more) envp var = myGetEnv strings envp var := by
  cases envp with
  | none => rfl
  | some env =>
      rw [myGetEnv, myGetEnv, Option.bind_some, Option.bind_some]
      exact findSome?_of_map (List.map_congr_left fun pointer member =>
        valueAt_extend (wellFormed.inside member) more)

/-- A variable that gets a value is put behind the others. -/
theorem mySetEnv_some (strings : List Block) (envp : Option Environ) (var value : List Byte) :
    mySetEnv strings envp var (some value) =
      .ok (strings ++ [⟨var.length + value.length + 2, entryText var value⟩],
        some ⟨envp.elim [] Environ.pointers ++ [strings.length],
          envp.elim 3 fun _ => (envp.elim [] Environ.pointers).length + 2⟩) := by
  have length : (entryText var value).length = var.length + value.length + 1 := by
    grind [entryText, List.length_append, List.length_cons]
  have room : ¬(envp.elim 3 fun _ => (envp.elim [] Environ.pointers).length + 2) <
      (envp.elim [] Environ.pointers).length + 2 := by
    cases envp with
    | none => decide
    | some env => exact Nat.lt_irrefl _
  simp_all [mySetEnv, if_neg]

theorem mySetEnv_none (strings : List Block) (envp : Option Environ) (var : List Byte) :
    mySetEnv strings envp var none = .error .outside := by
  rw [mySetEnv, if_pos]
  left
  dsimp only [Option.elim_none, Option.getD_none]
  rw [entryText, List.length_append, List.length_cons]
  have six : nullText.length = 6 := by decide
  omega

theorem WellFormed.set (wellFormed : WellFormed strings envp) (varFree : equalSign ∉ var)
    {set : List Block × Option Environ} (isSet : mySetEnv strings envp var (some value) = .ok set) :
    WellFormed set.1 set.2 := by
  rw [mySetEnv_some, Except.ok.injEq] at isSet
  subst isSet
  intro env isEnv pointer member
  rw [← Option.some.inj isEnv] at member
  rcases List.mem_append.mp member with old | isNew
  · cases envp with
    | none => cases old
    | some before => exact wellFormed.extend _ before rfl pointer old
  · rw [List.mem_singleton.mp isNew]
    exact ⟨_, var, value, List.getElem?_concat_length, varFree⟩

/-- The value that is found is the one of before, if there was one. -/
theorem WellFormed.getEnv_set (wellFormed : WellFormed strings envp) (varFree : equalSign ∉ var)
    {set : List Block × Option Environ} (isSet : mySetEnv strings envp var (some value) = .ok set)
    {other : List Byte} (otherFree : equalSign ∉ other) :
    myGetEnv set.1 set.2 other =
      (myGetEnv strings envp other).or (if var = other then some value else none) := by
  rw [mySetEnv_some, Except.ok.injEq] at isSet
  subst isSet
  have last : valueAt (strings ++ [⟨var.length + value.length + 2, entryText var value⟩]) other
      strings.length = if var = other then some value else none :=
    valueAt_entry List.getElem?_concat_length varFree otherFree
  rw [myGetEnv, Option.bind_some, List.findSome?_append, List.findSome?_singleton, last]
  cases envp with
  | none => rfl
  | some env =>
      have before : env.pointers.findSome? (valueAt (strings ++
          [⟨var.length + value.length + 2, entryText var value⟩]) other) =
          env.pointers.findSome? (valueAt strings other) :=
        findSome?_of_map (List.map_congr_left fun pointer member =>
          valueAt_extend (wellFormed.inside member) _)
      exact congrArg (Option.or · _) before

/-- A call returns just if the variable is not there, in an environment that is. -/
theorem myUnSetEnv_ok_iff :
    (∃ result, myUnSetEnv strings envp var = .ok result) ↔
      envp ≠ none ∧ myGetEnv strings envp var = none := by
  cases envp with
  | none => exact iff_of_false (fun returned => by cases returned.choose_spec) fun both => both.1 rfl
  | some env =>
      rw [myUnSetEnv, myGetEnv, Option.bind_some, List.findSome?_eq_none_iff]
      have absent : (env.pointers.any fun pointer => (valueAt strings var pointer).isSome) = true ↔
          ¬∀ pointer ∈ env.pointers, valueAt strings var pointer = none := by
        rw [List.any_eq_true]
        push Not
        simp only [Option.isSome_iff_ne_none]
      split_ifs with found
      · exact iff_of_false (fun returned => by cases returned.choose_spec)
          fun both => absent.mp found both.2
      · exact iff_of_true ⟨-1, rfl⟩ ⟨Option.some_ne_none _, not_not.mp (mt absent.mpr found)⟩

/-- The copy has the values of the environment, in blocks of its own. -/
theorem WellFormed.dup (wellFormed : WellFormed strings envp) :
    WellFormed (dupEnv strings envp).1 (dupEnv strings envp).2 ∧
      ∀ var, equalSign ∉ var →
        myGetEnv (dupEnv strings envp).1 (dupEnv strings envp).2 var =
          myGetEnv strings envp var := by
  cases envp with
  | none => exact ⟨wellFormed, fun _ _ => rfl⟩
  | some env =>
      have copied {i : Nat} (inside : i < env.pointers.length) : ∃ size otherSize name value,
          strings[env.pointers[i]]? = some ⟨otherSize, entryText name value⟩ ∧
            (strings ++ env.pointers.map (copyBlock strings))[strings.length + i]? =
              some ⟨size, entryText name value⟩ ∧ equalSign ∉ name := by
        obtain ⟨otherSize, name, value, isEntry, nameFree⟩ :=
          wellFormed env rfl _ (List.getElem_mem inside)
        refine ⟨(entryText name value).length + 1, otherSize, name, value, isEntry, ?_, nameFree⟩
        rw [List.getElem?_append_right (Nat.le_add_right _ _), Nat.add_sub_cancel_left,
          List.getElem?_map, List.getElem?_eq_getElem inside, Option.map_some, copyBlock, isEntry]
        rfl
      constructor
      · intro copy isCopy pointer member
        rw [← Option.some.inj isCopy] at member
        obtain ⟨i, inside, rfl⟩ := List.mem_range'.mp member
        obtain ⟨size, _, name, value, _, isEntry, nameFree⟩ := copied inside
        exact ⟨size, name, value, by rw [Nat.one_mul]; exact isEntry, nameFree⟩
      · intro var varFree
        have same : (List.range' strings.length env.pointers.length).map
            (valueAt (strings ++ env.pointers.map (copyBlock strings)) var) =
            env.pointers.map (valueAt strings var) := by
          apply List.ext_getElem
          · rw [List.length_map, List.length_map, List.length_range']
          · intro i _ inside
            rw [List.length_map] at inside
            obtain ⟨size, otherSize, name, value, isEntry, isCopy, nameFree⟩ := copied inside
            rw [List.getElem_map, List.getElem_map, List.getElem_range', Nat.one_mul,
              valueAt_entry isCopy nameFree varFree, valueAt_entry isEntry nameFree varFree]
        exact findSome?_of_map same

end

section

variable {strings : List Block} {envp : Option Environ}

/-- Of settings with different names each is seen just if there was no other value. -/
theorem WellFormed.setAll (wellFormed : WellFormed strings envp)
    {settings : List (List Byte × List Byte)} (nodup : (settings.map Prod.fst).Nodup)
    (free : ∀ setting ∈ settings, equalSign ∉ setting.1) :
    ∃ set, setAll strings envp settings = .ok set ∧ WellFormed set.1 set.2 ∧
      (∀ setting ∈ settings, myGetEnv set.1 set.2 setting.1 =
        (myGetEnv strings envp setting.1).or (some setting.2)) ∧
      ∀ var, equalSign ∉ var → var ∉ settings.map Prod.fst →
        myGetEnv set.1 set.2 var = myGetEnv strings envp var := by
  induction settings generalizing strings envp with
  | nil =>
      exact ⟨_, rfl, wellFormed, fun _ member => absurd member List.not_mem_nil, fun _ _ _ => rfl⟩
  | cons setting rest ih =>
      obtain ⟨var, value⟩ := setting
      rw [List.map_cons, List.nodup_cons] at nodup
      obtain ⟨varFree, restFree⟩ := List.forall_mem_cons.mp free
      have isSet := mySetEnv_some strings envp var value
      obtain ⟨all, isAll, allFormed, settings, others⟩ :=
        ih (wellFormed.set varFree isSet) nodup.2 restFree
      have kept {other : List Byte} (otherFree : equalSign ∉ other) (differs : var ≠ other) :=
        (wellFormed.getEnv_set varFree isSet otherFree).trans
          (by rw [if_neg differs, Option.or_none])
      refine ⟨all, ?_, allFormed, ?_, ?_⟩
      · rw [MidWay.Mwd.Environments.setAll, isSet]
        exact isAll
      · intro setting member
        rcases List.mem_cons.mp member with rfl | later
        · rw [others var varFree nodup.1, wellFormed.getEnv_set varFree isSet varFree, if_pos rfl]
        · grind
      · grind

theorem lastSettings_nodup (settings : Settings) (path : Option (List Byte)) :
    ((lastSettings settings path).map Prod.fst).Nodup := by
  change [pathName, homeName, addressName, instanceName].Nodup
  decide

theorem lastSettings_free (settings : Settings) (path : Option (List Byte)) :
    ∀ setting ∈ lastSettings settings path, equalSign ∉ setting.1 := by
  have names : ∀ name ∈ [pathName, homeName, addressName, instanceName], equalSign ∉ name := by
    decide
  intro setting member
  exact names setting.1 (List.mem_map_of_mem member)

theorem runText_length (settings : Settings) (path : Option (List Byte)) :
    (runText settings).length ≤ (pathText settings path).length := by
  simp only [runText, pathText, List.length_append]
  have four : (ascii "/run".toList).length = 4 := by decide
  have five : (ascii "/bin:".toList).length = 5 := by decide
  omega

/-- A server that is executed sees the last settings just if its environment has no others. -/
theorem WellFormed.executes_iff {defaultEnv : Option Environ} {settings : Settings}
    {map : List Byte → Option (List Byte)} (wellFormed : WellFormed strings envp)
    (agrees : ∀ var, equalSign ∉ var → myGetEnv strings envp var = map var) :
    (∃ child, smgrExecServer strings defaultEnv envp settings = .ok child ∧
      (∀ setting ∈ lastSettings settings (map pathName),
        myGetEnv child.1 child.2 setting.1 = some setting.2) ∧
      ∀ var, equalSign ∉ var → var ∉ (lastSettings settings (map pathName)).map Prod.fst →
        myGetEnv child.1 child.2 var = map var) ↔
      (pathText settings (map pathName)).length < 1024 ∧
        ∀ setting ∈ lastSettings settings (map pathName),
          map setting.1 = none ∨ map setting.1 = some setting.2 := by
  obtain ⟨dupFormed, dupValues⟩ := wellFormed.dup
  have dupAgrees {var : List Byte} (varFree : equalSign ∉ var) :
      myGetEnv (dupEnv strings envp).1 (dupEnv strings envp).2 var = map var :=
    (dupValues var varFree).trans (agrees var varFree)
  have path : myGetEnv (dupEnv strings envp).1 (dupEnv strings envp).2 pathName = map pathName :=
    dupAgrees (by decide)
  have free := lastSettings_free settings (map pathName)
  obtain ⟨all, isAll, allFormed, set, others⟩ :=
    dupFormed.setAll (lastSettings_nodup settings (map pathName)) free
  have runShort := runText_length settings (map pathName)
  have executed : smgrExecServer strings defaultEnv envp settings =
      if 1024 < (pathText settings (map pathName)).length + 1 then .error .outside
      else .ok (all.1 ++ [⟨(ascii "PWD".toList).length + (runText settings).length + 2,
        entryText (ascii "PWD".toList) (runText settings)⟩], all.2) := by
    rw [smgrExecServer, path, isAll]
    by_cases long : 1024 < (pathText settings (map pathName)).length + 1
    · rw [if_pos long, if_pos long]
    · rw [if_neg long, if_neg long]
      change (if 1024 < (runText settings).length + 1 then _ else _) = _
      rw [if_neg (by omega), mySetEnv_some]
      rfl
  rw [executed]
  split_ifs with long
  · exact iff_of_false (fun returned => by cases returned.choose_spec.1) fun both => by omega
  · have value {setting : List Byte × List Byte}
        (member : setting ∈ lastSettings settings (map pathName)) (more : List Block) :
        myGetEnv (all.1 ++ more) all.2 setting.1 = (map setting.1).or (some setting.2) := by
      rw [allFormed.getEnv_extend, set setting member, dupAgrees (free setting member)]
    have orSame (before : Option (List Byte)) (last : List Byte) :
        before.or (some last) = some last ↔ before = none ∨ before = some last := by
      cases before with
      | none => exact iff_of_true rfl (.inl rfl)
      | some old => simp
    constructor
    · grind
    · rintro ⟨_, noOther⟩
      refine ⟨_, rfl, fun setting member => ?_, fun var varFree notSet => ?_⟩
      · exact (value member _).trans ((orSame _ _).mpr (noOther setting member))
      · simp_all [allFormed.getEnv_extend]

end

section

variable {memory : Memory} {maps : Maps}

structure Inv (memory : Memory) (maps : Maps) : Prop where
  agrees : Agrees memory maps
  wellFormed : ∀ envp ∈ memory.envs, WellFormed memory.strings envp

theorem Inv.at (inv : Inv memory maps) (inside : place < maps.length) :
    ∃ map, maps[place]? = some map ∧ memory.envs[place]? = some (memory.env place) ∧
      WellFormed memory.strings (memory.env place) ∧
      ∀ var, equalSign ∉ var → myGetEnv memory.strings (memory.env place) var = map var := by
  have isMap := List.getElem?_eq_getElem inside
  have insideEnvs : place < memory.envs.length := inv.agrees.length ▸ inside
  have isEnv : memory.envs[place]? = some (memory.env place) := by
    simp_all [Memory.env]
  exact ⟨_, isMap, isEnv, inv.wellFormed _ (List.mem_of_getElem? isEnv),
    inv.agrees.values place _ _ isEnv isMap⟩

/-- A variable is set. -/
theorem Inv.set (inv : Inv memory maps) {var : List Byte} (inside : place < maps.length)
    (varFree : equalSign ∉ var)
    (noOther : ∀ map, maps[place]? = some map → map var = none ∨ map var = some value) :
    ∃ after, memory.step (.set place var (some value)) = .ok after ∧
      Inv after (maps.behind (.set place var (some value))) := by
  obtain ⟨map, isMap, isEnv, formed, values⟩ := inv.at inside
  have isSet := mySetEnv_some memory.strings (memory.env place) var value
  have insideEnvs : place < memory.envs.length := inv.agrees.length ▸ inside
  refine ⟨_, by rw [Memory.step, isSet]; rfl, ⟨?_, ?_⟩, ?_⟩
  · rw [List.length_set, Maps.behind, List.length_modify, inv.agrees.length]
  · intro other envp otherMap isOther isOtherMap name nameFree
    rw [Maps.behind, List.getElem?_modify, Option.map_eq_map, Option.map_eq_some_iff] at isOtherMap
    obtain ⟨old, isOld, rfl⟩ := isOtherMap
    dsimp only at isOther ⊢
    by_cases same : place = other
    · subst same
      rw [List.getElem?_set_self insideEnvs, Option.some.injEq] at isOther
      rw [isMap, Option.some.injEq] at isOld
      subst isOther isOld
      rw [if_pos rfl, formed.getEnv_set varFree isSet nameFree, values name nameFree]
      grind
    · rw [List.getElem?_set_ne same] at isOther
      rw [if_neg same, (inv.wellFormed envp (List.mem_of_getElem? isOther)).getEnv_extend]
      exact inv.agrees.values other envp old isOther isOld name nameFree
  · intro envp member
    rcases List.mem_or_eq_of_mem_set member with old | isNew
    · exact (inv.wellFormed envp old).extend _
    · rw [isNew]
      exact formed.set varFree isSet

/-- An environment is copied. -/
theorem Inv.dup (inv : Inv memory maps) (inside : place < maps.length) :
    ∃ after, memory.step (.dup place) = .ok after ∧ Inv after (maps.behind (.dup place)) := by
  obtain ⟨map, isMap, isEnv, formed, values⟩ := inv.at inside
  obtain ⟨dupFormed, dupValues⟩ := formed.dup
  obtain ⟨more, grown⟩ : ∃ more, (dupEnv memory.strings (memory.env place)).1 =
      memory.strings ++ more := by
    cases memory.env place with
    | none => exact ⟨[], (List.append_nil _).symm⟩
    | some env => exact ⟨_, rfl⟩
  refine ⟨_, rfl, ⟨?_, ?_⟩, ?_⟩
  · simp [Maps.behind, List.length_append, inv.agrees.length]
  · intro other envp otherMap isOther isOtherMap name nameFree
    rw [Maps.behind, isMap, Option.getD_some] at isOtherMap
    dsimp only at isOther ⊢
    by_cases old : other < maps.length
    · rw [List.getElem?_append_left old] at isOtherMap
      rw [List.getElem?_append_left (inv.agrees.length ▸ old)] at isOther
      rw [grown, (inv.wellFormed envp (List.mem_of_getElem? isOther)).getEnv_extend]
      exact inv.agrees.values other envp otherMap isOther isOtherMap name nameFree
    · have notOld : maps.length ≤ other := Nat.le_of_not_lt old
      rw [List.getElem?_append_right notOld] at isOtherMap
      rw [List.getElem?_append_right (inv.agrees.length ▸ notOld), inv.agrees.length] at isOther
      grind
  · intro envp member
    rcases List.mem_append.mp member with old | isNew
    · dsimp only
      rw [grown]
      exact (inv.wellFormed envp old).extend more
    · simp_all

/-- A step that fits is as it should be, and leaves environments that are. -/
theorem Inv.step (inv : Inv memory maps) {event : Event} (lawful : event.Lawful maps)
    (fits : event.Fits memory maps) :
    ∃ after, memory.step event = .ok after ∧ Inv after (maps.behind event) ∧
      event.Executes memory maps := by
  cases event with
  | set place var value =>
      cases value with
      | none => exact absurd rfl fits.1
      | some value =>
          obtain ⟨after, stepped, invAfter⟩ := inv.set lawful.1 lawful.2 fits.2
          exact ⟨after, stepped, invAfter, trivial⟩
  | unset place var =>
      obtain ⟨inside, varFree⟩ := lawful
      obtain ⟨map, isMap, isEnv, formed, values⟩ := inv.at inside
      obtain ⟨isThere, noValue⟩ := fits
      obtain ⟨result, returned⟩ := myUnSetEnv_ok_iff.mpr
        ⟨isThere, (values var varFree).trans (noValue map isMap)⟩
      refine ⟨memory, by rw [Memory.step, returned]; rfl, ⟨⟨?_, ?_⟩, inv.wellFormed⟩, trivial⟩
      · rw [Maps.behind, List.length_modify, inv.agrees.length]
      · intro other envp otherMap isOther isOtherMap name nameFree
        rw [Maps.behind, List.getElem?_modify, Option.map_eq_map,
          Option.map_eq_some_iff] at isOtherMap
        obtain ⟨old, isOld, rfl⟩ := isOtherMap
        have value := inv.agrees.values other envp old isOther isOld name nameFree
        split_ifs with same
        · grind
        · exact value
  | dup place =>
      obtain ⟨after, stepped, invAfter⟩ := inv.dup lawful
      exact ⟨after, stepped, invAfter, trivial⟩
  | exec place settings =>
      obtain ⟨map, isMap, isEnv, formed, values⟩ := inv.at lawful
      obtain ⟨child, isChild, seen⟩ := (formed.executes_iff values).mpr (fits map isMap)
      refine ⟨memory, by rw [Memory.step, isChild]; rfl, inv, ?_⟩
      intro other isOther
      grind

/-- Only a step that fits is as it should be. -/
theorem Inv.step_iff (inv : Inv memory maps) {event : Event} (lawful : event.Lawful maps) :
    (∃ after, memory.step event = .ok after ∧ Agrees after (maps.behind event) ∧
      event.Executes memory maps) ↔ event.Fits memory maps := by
  constructor
  · rintro ⟨after, stepped, agrees, executes⟩
    cases event with
    | set place var value =>
        obtain ⟨inside, varFree⟩ := lawful
        obtain ⟨map, isMap, isEnv, formed, values⟩ := inv.at inside
        have insideEnvs : place < memory.envs.length := inv.agrees.length ▸ inside
        cases value with
        | none =>
            rw [Memory.step, mySetEnv_none] at stepped
            cases stepped
        | some value =>
            refine ⟨Option.some_ne_none _, fun other isOther => ?_⟩
            rw [isMap, Option.some.injEq] at isOther
            subst isOther
            have isSet := mySetEnv_some memory.strings (memory.env place) var value
            have isBehind : (maps.behind (.set place var (some value)))[place]? =
                some (Function.update map var (some value)) := by
              rw [Maps.behind, List.getElem?_modify, isMap, Option.map_eq_map, Option.map_some,
                if_pos rfl]
              rfl
            rw [Memory.step, isSet] at stepped
            cases stepped
            have seen := agrees.values place _ _ (List.getElem?_set_self insideEnvs) isBehind var
              varFree
            dsimp only at seen
            rw [formed.getEnv_set varFree isSet varFree, if_pos rfl, Function.update_self,
              values var varFree] at seen
            cases before : map var with
            | none => exact .inl rfl
            | some old =>
                simp_all
    | unset place var =>
        obtain ⟨inside, varFree⟩ := lawful
        obtain ⟨map, isMap, isEnv, formed, values⟩ := inv.at inside
        cases returned : myUnSetEnv memory.strings (memory.env place) var with
        | error fault =>
            rw [Memory.step, returned] at stepped
            cases stepped
        | ok result =>
            obtain ⟨isThere, noValue⟩ := myUnSetEnv_ok_iff.mp ⟨result, returned⟩
            refine ⟨isThere, fun other isOther => ?_⟩
            simp_all [Option.some.injEq]
    | dup place => trivial
    | exec place settings =>
        obtain ⟨map, isMap, isEnv, formed, values⟩ := inv.at lawful
        intro other isOther
        rw [isMap, Option.some.injEq] at isOther
        rw [← isOther]
        exact (formed.executes_iff values).mp (executes map isMap)
  · intro fits
    obtain ⟨after, stepped, invAfter, executes⟩ := inv.step lawful fits
    exact ⟨after, stepped, invAfter.agrees, executes⟩

end

/-- There is only the default environment, which is `NULL`. -/
def Memory.initial : Memory := ⟨[], [none]⟩

def Maps.initial : Maps := [fun _ => none]

theorem initial_inv : Inv Memory.initial Maps.initial := by
  refine ⟨⟨rfl, ?_⟩, ?_⟩
  · intro place envp map isEnv isMap var _
    have noEnv := List.mem_singleton.mp (List.mem_of_getElem? isEnv)
    have noMap := List.mem_singleton.mp (List.mem_of_getElem? isMap)
    rw [noEnv, noMap]
    rfl
  · intro envp member env isEnv
    rw [List.mem_singleton.mp member] at isEnv
    cases isEnv

/-- In every run the environments behave as maps, and a server that is executed sees the last
settings, just if every call fits. -/
theorem environments_are_maps_iff {events : List Event} (lawful : AllLawful Maps.initial events) :
    Memory.initial.Keeps Maps.initial events ↔ AllFit Memory.initial Maps.initial events := by
  have inv := initial_inv
  generalize Memory.initial = memory at inv
  generalize Maps.initial = maps at inv lawful
  induction events generalizing memory maps with
  | nil => exact Iff.rfl
  | cons event rest ih =>
      obtain ⟨isLawful, lawfulAfter⟩ := lawful
      constructor
      · rintro ⟨after, stepped, agrees, executes, keeps⟩
        have fits := (inv.step_iff isLawful).mp ⟨after, stepped, agrees, executes⟩
        obtain ⟨other, again, invAfter, _⟩ := inv.step isLawful fits
        refine ⟨fits, fun later isLater => ?_⟩
        rw [again, Except.ok.injEq] at stepped isLater
        subst stepped isLater
        exact (ih _ _ invAfter lawfulAfter).mp keeps
      · rintro ⟨fits, later⟩
        obtain ⟨after, stepped, invAfter, executes⟩ := inv.step isLawful fits
        exact ⟨after, stepped, invAfter.agrees, executes,
          (ih _ _ invAfter lawfulAfter).mpr (later after stepped)⟩

/-- `A` gets the value `1`, and then perhaps another one. -/
def setTwice (second : List Byte) : List Event :=
  [.set 0 [65] (some [49]), .set 0 [65] (some second)]

theorem environments_are_maps_iff_again : Memory.initial.Keeps Maps.initial (setTwice [49]) := by
  refine (environments_are_maps_iff ?_).mpr ?_
  · exact ⟨⟨by decide, by decide⟩, ⟨by decide, by decide⟩, trivial⟩
  · refine ⟨⟨Option.some_ne_none _, fun map isMap => ?_⟩, fun after _ =>
      ⟨⟨Option.some_ne_none _, fun map isMap => ?_⟩, fun _ _ => trivial⟩⟩
    · cases isMap
      exact .inl rfl
    · cases isMap
      exact .inr (Function.update_self ..)

/-- The value that was set first is the one that is found. -/
theorem second_value_not_found : ¬Memory.initial.Keeps Maps.initial (setTwice [50]) := by
  rintro ⟨first, firstStep, _, _, second, secondStep, agrees, _⟩
  cases firstStep
  cases secondStep
  have found : myGetEnv _ _ [65] = some [50] :=
    (agrees.values 0 _ _ rfl rfl [65] (by decide)).trans (Function.update_self ..)
  exact absurd found (by decide)

end MidWay.Mwd.Environments
