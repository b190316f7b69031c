import Mathlib.Logic.Relation
import MidWay.Mwd.Consistency

/-!
Contract: what a request to `mwd` can do to the service table, in single steps: a service
is added with its event, or deleted with its event, or the table stays.

Owns: `ServiceStep`, which service a request adds, and that every request is a chain of
such steps.
-/

namespace MidWay.Mwd

open MidWay.CLib MidWay.Lib

/-- One change of the service table and of the log; `adds` are the entries that may be added,
with their provider and index. -/
inductive ServiceStep (adds : Int → Int → Serviceentry → Prop) (before after : Tables) : Prop
  | same (svctblLength : after.svctblLength = before.svctblLength)
      (svctbl : after.svctbl = before.svctbl) (events : after.events = before.events)
  | added (provider idx : Int) (entry : Serviceentry) (added : Added provider before after idx entry)
      (allowed : adds provider idx entry)
  | deleted (svctblLength : after.svctblLength = before.svctblLength) (idx : Int)
      (svctbl : after.svctbl = Function.update before.svctbl idx (before.svctbl idx).cleared)
      (events : after.events = before.events ++ [unprovideEvent idx (before.svctbl idx)])

abbrev ServiceSteps (adds : Int → Int → Serviceentry → Prop) : Tables → Tables → Prop :=
  Relation.ReflTransGen (ServiceStep adds)

def Tables.Adds (tables : Tables) (request : Request) (provider idx : Int) (entry : Serviceentry) :
    Prop :=
  match request with
  | .provide _ pmesg =>
      (tables.svctbl idx).type = unassigned ∧
        ((pmesg.srvid ≠ -1 ∧ provider = pmesg.srvid ∧
            entry = (tables.svctbl idx).provided pmesg.srvid pmesg.svcname pmesg.type) ∨
          (pmesg.srvid = -1 ∧ provider = pmesg.gwid ∧
            ∃ gwidx, tables.getgatewayentry pmesg.gwid = some gwidx ∧
              entry = (tables.svctbl idx).imported pmesg.gwid pmesg.svcname
                (tables.gwtbl gwidx).location pmesg.cost pmesg.type))
  | .attach _ _ | .detach _ | .unprovide _ | .check _ | .gateways _ => False

section

variable {adds : Int → Int → Serviceentry → Prop} {before after tables : Tables}

theorem SameServices.steps (same : SameServices before after) : ServiceSteps adds before after :=
  .single (.same same.svctblLength same.svctbl same.events)

theorem Unchanged.steps (same : Unchanged before after) : ServiceSteps adds before after :=
  .single (.same same.members.svctblLength same.svctbl same.events)

theorem delservice_steps (tables : Tables) (svcid : Int) :
    ServiceSteps adds tables (tables.delservice svcid).2 := by
  by_cases isService : svcidOf svcid = unassigned
  · rw [Tables.delservice, if_pos isService]
  · rcases delservice_deleted isService tables with ⟨svctbl, events⟩
    exact .single (.deleted (delservice_sameMembers tables svcid).svctblLength _ svctbl events)

theorem foldl_steps {turn : Tables → Nat → Tables}
    (turns : ∀ tables idx, ServiceSteps adds tables (turn tables idx)) (tables : Tables)
    (indexes : List Nat) : ServiceSteps adds tables (indexes.foldl turn tables) := by
  refine List.foldlRecOn indexes turn .refl ?_
  intro middle held idx _
  exact held.trans (turns middle idx)

theorem dropServer_steps (tables : Tables) (sid srvid : Int) :
    ServiceSteps adds tables ((tables.delserver sid).delallservices srvid) := by
  have server : ServiceSteps adds tables (tables.delserver sid) := .single (.same rfl rfl rfl)
  refine server.trans (foldl_steps ?_ _ _)
  grind [Tables.delserviceOf, delservice_steps]

theorem doAttach_steps (tables : Tables) (status : Status) (areq : Attach) :
    ServiceSteps adds tables (tables.doAttach status areq).2 := by
  unfold Tables.doAttach
  dsimp only
  split_ifs
  · exact .refl
  · exact .refl
  · exact (attachClient_sameServices tables _).steps
  · exact .refl
  all_goals
    rcases addserver_spec tables areq.ipcqid areq.pid with refused | ⟨srvidx, _, _, _, added⟩
  · rw [refused]
  · rw [added]
    exact .single (.same rfl rfl rfl)
  · rw [refused]
    exact (attachClient_sameServices tables _).steps
  · rw [added]
    have server : ServiceSteps adds tables
        { tables.setServer srvidx ⟨areq.ipcqid, areq.pid, 0, unassigned⟩ with
          nextServer := Fin.ofNat (tables.srvtblLength + 1) (srvidx.toNat + 1) } :=
      .single (.same rfl rfl rfl)
    exact server.trans (attachClient_sameServices _ _).steps

theorem doDetach_steps (tables : Tables) (dm : Attach) :
    ServiceSteps adds tables (tables.doDetach dm) := by
  have servers : ServiceSteps adds tables (if dm.server = 0 then tables
      else (tables.delserver dm.srvid).delallservices dm.srvid) := by
    split_ifs
    · exact .refl
    · exact dropServer_steps tables _ _
  rw [Tables.doDetach]
  generalize (if dm.server = 0 then tables
      else (tables.delserver dm.srvid).delallservices dm.srvid) = detached at servers ⊢
  split_ifs
  · exact servers
  · exact servers.trans (delclient_sameServices _ _).steps

theorem doUnprovide_steps (tables : Tables) (pmesg : Provide) :
    ServiceSteps adds tables (tables.doUnprovide pmesg).2 := by
  unfold Tables.doUnprovide
  cases tables.getserviceentry (svcidOf pmesg.svcid) with
  | none => exact .refl
  | some idx =>
      exact ((use_unchanged tables _ _ _).steps.trans (useProvider_unchanged _ _).steps).trans
        (delservice_steps _ _)

theorem checkService_steps (tables : Tables) (idx : Nat) :
    ServiceSteps adds tables (tables.checkService idx) := by
  unfold Tables.checkService
  dsimp only
  split_ifs
  · exact .refl
  · exact (use_unchanged tables _ _ _).steps.trans (delservice_steps _ _)
  · exact (use_unchanged tables _ _ _).steps
  · exact (use_unchanged tables _ _ _).steps.trans (delservice_steps _ _)
  · exact (use_unchanged tables _ _ _).steps
  · exact .refl

theorem checkClients_steps (dead : Int → Bool) (tables : Tables) (indexes : List Nat) :
    ServiceSteps adds tables (indexes.foldl (Tables.checkClient dead) tables) :=
  foldl_steps (fun middle idx => (checkClient_sameServices dead middle idx).steps) _ _

theorem checkServers_steps (dead : Int → Bool) (tables : Tables) (indexes : List Nat) :
    ServiceSteps adds tables (indexes.foldl (Tables.checkServer dead) tables) := by
  grind [Tables.checkServer, foldl_steps, dropServer_steps]

theorem checkGateways_steps (dead : Int → Bool) (tables : Tables) (indexes : List Nat) :
    ServiceSteps adds tables (indexes.foldl (Tables.checkGateway dead) tables) := by
  refine foldl_steps ?_ _ _
  intro middle idx
  rcases checkGateway_same dead middle idx with ⟨lengths, _, svctbl, events⟩
  exact .single (.same lengths.svctblLength svctbl events)

theorem checkTables_steps (tables : Tables) (dead : Int → Bool) :
    ServiceSteps adds tables (tables.checkTables dead) := by
  unfold Tables.checkTables
  exact (((checkClients_steps dead _ _).trans (checkServers_steps dead _ _)).trans
    (checkGateways_steps dead _ _)).trans (foldl_steps checkService_steps _ _)

end

/-- Every request is a chain of steps. -/
theorem handle_steps {tables next : Tables} {request : Request}
    (done : tables.handle request = .ok next) :
    ServiceSteps (tables.Adds request) tables next := by
  cases request with
  | attach status areq =>
      cases done
      exact doAttach_steps tables status areq
  | detach dm =>
      cases done
      exact doDetach_steps tables dm
  | provide status pmesg =>
      change (tables.doProvide status pmesg).map Prod.snd = .ok next at done
      cases provided : tables.doProvide status pmesg with
      | error failure =>
          rw [provided] at done
          cases done
      | ok result =>
          rw [provided] at done
          cases done
          rcases doProvide_spec provided with same | ⟨server, _, idx, added⟩ |
            ⟨noServer, _, _, gwidx, idx, isEntry, added⟩
          · exact same.steps
          · exact .single (.added _ _ _ added ⟨added.free, Or.inl ⟨server, rfl, rfl⟩⟩)
          · exact .single (.added _ _ _ added
              ⟨added.free, Or.inr ⟨noServer, rfl, gwidx, isEntry, rfl⟩⟩)
  | unprovide pmesg =>
      cases done
      exact doUnprovide_steps tables pmesg
  | check dead =>
      cases done
      exact checkTables_steps tables dead
  | gateways gwtbl =>
      cases done
      exact .single (.same rfl rfl rfl)

end MidWay.Mwd
