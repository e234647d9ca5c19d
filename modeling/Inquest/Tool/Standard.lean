import Inquest.Text.Casing
import Inquest.Tool.Declaration

/-! # The tools of every suspect

The four standard actions and their declarations.

* `StandardAction.ofName?`: finds an action by its name, in any case and with blanks around it.
-/

namespace Inquest

/-- What every suspect can be asked to do. -/
inductive StandardAction
  | goToNpc
  | handoverItem
  | refuseHandover
  | arrestSuspect
  deriving Repr, DecidableEq

namespace StandardAction

/-- The actions in the order of their declaration. -/
def all : List StandardAction := [.goToNpc, .handoverItem, .refuseHandover, .arrestSuspect]

/-- The name under which an action is declared. -/
def name : StandardAction → String
  | .goToNpc => "go_to_npc"
  | .handoverItem => "handover_item_to_detective"
  | .refuseHandover => "refuse_handover_item_to_detective"
  | .arrestSuspect => "arrest_suspect"

/-- A text argument with its documentation. -/
def textField (name doc : String) : FieldDeclaration := ⟨name, .plain "String", [doc], []⟩

/-- The declaration of an action. -/
def declaration : StandardAction → Declaration
  | .goToNpc => {
      name := "GoToNpc"
      docs := ["Go to another NPC in the game map."]
      attributes := [("name", name .goToNpc)]
      fields := [
        textField "npc_name"
          "Name of the other NPC. Only the names from the instructions are valid."] }
  | .handoverItem => {
      name := "HandoverItemToDetective"
      docs := ["Handover an item to detective."]
      attributes := [("name", name .handoverItem)]
      fields := [
        textField "item_name" ("Name of the item to handover. " ++
          "Only Items you currently have in the instructions are valid."),
        textField "response" "Short acknowledgement phrase."] }
  | .refuseHandover => {
      name := "RefuseHandoverItemToDetective"
      docs := ["Refuse handing over the item to detective.",
        "If you do not have asked item, do not call this method, " ++
          "just respond and tell you don't have it."]
      attributes := [("name", name .refuseHandover)]
      fields := [
        textField "item_name" "Name of the item you refused to handover.",
        textField "reason" "Your reason to refuse."] }
  | .arrestSuspect => {
      name := "ArrestSuspect"
      docs := ["Arrest the suspected NPC. Only mayor is allowed to call this function."]
      attributes := [("name", name .arrestSuspect)]
      fields := [
        textField "suspect_npc_name" ("Name of the suspected NPC to arrest. " ++
          "Only the names from the instructions are valid"),
        textField "response"
          "A short excited text about the action, similar to 'let's go get him!'."] }

/-- The tool of an action. -/
def tool (a : StandardAction) : Tool := a.declaration.tool

/-- The action of a name, in any case and with blanks around it. -/
def ofName? (name : String) : Option StandardAction :=
  let wanted := Text.lowercase (Text.trim name)
  all.find? fun a => a.name == wanted

/-- A name that stands for no action, in words. -/
def unknownMessage (name : String) : String := s!"Unknown tool: {name}"

end StandardAction

/-- The standard tools. -/
def Toolbox.standard : Toolbox := StandardAction.all.map StandardAction.tool

end Inquest
