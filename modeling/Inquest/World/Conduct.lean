import Inquest.Profile
import Inquest.Text.Search
import Inquest.Tool.Standard
import Inquest.World.Errand

/-! # What suspects do in the world

The standard actions as errands. An action whose arguments are missing or whose target is unknown posts
no command, and no action is left without an invocation.

* `find?`: the suspect whose name or role occurs in a text.
* `perform`: the errand of an action, by the name under which the model called it.
* `executor`: whoever carries out these actions in a world.
-/

namespace Inquest

/-- A suspect among the others. -/
structure Conduct where
  profile : Profile
  town : List Profile

namespace Conduct

/-- The first of the town whose name or role occurs in a text, in any case. -/
def find? (c : Conduct) (nameOrRole : String) : Option Profile :=
  let wanted := Text.lowercase (Text.trim nameOrRole)
  if wanted.isEmpty then none
  else
    c.town.find? fun npc =>
      let name := Text.lowercase (Text.trim npc.name)
      (!name.isEmpty && Text.contains name.toList wanted.toList) ||
        (!npc.role.isEmpty && Text.contains npc.role.toList wanted.toList)

/-- An argument that must hold text. -/
def required (parameters : Parameters) (name : String) : Option String :=
  (parameters.text? name).filter fun t => !Text.isBlank t

/-- An action for want of an argument. -/
def missing (now : Timestamp) (action : String) (parameters : Parameters) (name : String) :
    Invocation :=
  let e := ActionError.missingParameter name
  .failed now action parameters e.message e.message

/-- A walk to the suspect of a name or role, whose name it ends with. -/
def moveNextTo (c : Conduct) (nameOrRole : String) : Errand (Except ActionError String) :=
  match c.find? nameOrRole with
  | none => .done (.error (.world s!"There is no NPC by that name: {nameOrRole}"))
  | some target => .post (.moveNextTo c.profile.name target.name) fun s =>
    .done (s.map fun _ => target.name)

/-- Going to another suspect. -/
def goTo (c : Conduct) (now : Timestamp) (parameters : Parameters) : Errand Invocation :=
  let action := StandardAction.goToNpc.name
  match required parameters "npc_name" with
  | none => .done (missing now action parameters "npc_name")
  | some target => (c.moveNextTo target).andThen fun r => .done <|
    match r with
    | .ok _ =>
      .succeeded now action parameters
        s!"You are now standing next to {target}. Don't talk to him yet."
    | .error e => .failed now action parameters s!"You cannot visit '{target}' right now." e.message

/-- Handing an item over. Whether the world takes note of it does not count: the suspect has agreed. -/
def handOver (c : Conduct) (now : Timestamp) (parameters : Parameters) : Errand Invocation :=
  let action := StandardAction.handoverItem.name
  match required parameters "item_name" with
  | none => .done (missing now action parameters "item_name")
  | some item => .post (.giveItem c.profile.name item) fun _ =>
    .done (.succeeded now action parameters s!"{c.profile.name} handed over the {item}")

/-- Refusing to hand an item over. -/
def refuse (c : Conduct) (now : Timestamp) (parameters : Parameters) : Invocation :=
  let action := StandardAction.refuseHandover.name
  match required parameters "item_name", required parameters "reason" with
  | none, _ => missing now action parameters "item_name"
  | some _, none => missing now action parameters "reason"
  | some item, some reason =>
    .succeeded now action parameters
      s!"{c.profile.name} refused to hand over the {item}. Reason: {reason}"

/-- Arresting a suspect, after walking to them. -/
def arrest (c : Conduct) (now : Timestamp) (parameters : Parameters) : Errand Invocation :=
  let action := StandardAction.arrestSuspect.name
  match required parameters "suspect_npc_name" with
  | none => .done (missing now action parameters "suspect_npc_name")
  | some suspect =>
    let outcome : Errand Settlement := (c.moveNextTo suspect).andThen fun r =>
      match r with
      | .ok target => .submit (.arrest c.profile.name target)
      | .error e => .done (.error e)
    outcome.andThen fun r => .done <|
      match r with
      | .ok () =>
        .succeeded now action parameters
          s!"You are now standing next to {suspect} to arrest him. Don't talk to him yet."
      | .error e =>
        .failed now action parameters s!"You cannot arrest '{suspect}' right now." e.message

/-- The errand of an action. -/
def perform (c : Conduct) (now : Timestamp) (action : String) (parameters : Parameters) :
    Errand Invocation :=
  match StandardAction.ofName? action with
  | some .goToNpc => c.goTo now parameters
  | some .handoverItem => c.handOver now parameters
  | some .refuseHandover => .done (c.refuse now parameters)
  | some .arrestSuspect => c.arrest now parameters
  | none =>
    let name := Text.lowercase action
    let e := ActionError.unsupported name
    .done (.failed now name parameters e.message e.message)

/-- Whoever carries out the actions of a suspect in a world. -/
def executor {ω : Type} (world : Errand.World ω) (c : Conduct) : Executor ω where
  perform now w action parameters :=
    match (c.perform now action parameters).run world w with
    | (some i, w) => (.finished (.ok i), w)
    | (none, w) => (.pending, w)

end Conduct

end Inquest
