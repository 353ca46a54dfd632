import Dialogue.Json.Printer
import Dialogue.Playbook
import Dialogue.Text.Blank
import Dialogue.Text.Lowercase

/-! A coffee bar: one script takes an order, drink by drink, and calls another to choose each drink. -/

namespace Dialogue.Coffee

def defaultMenu : List String := ["latte", "mocha", "tea"]

def scope (items : List String) : Scope .common := (Services.provide {} "menu" none ⟨CommonKind.menu, items⟩).scope

variable {α β : Type}

def plain (f : α → β) : Hook .common α β := .direct { run := fun x => .ok (f x) }

-- Uses the menu of the scope.
def withMenu (f : List String → α → β) : Hook .common α β :=
  .bound none ["menu"] fun services => (services.get 0 .menu).map fun items x => .ok (f items x)

def words : Option Value → String
  | some (.str s) => String.ofList (Text.lower (Text.trim s.toList))
  | some v => v.compact
  | none => ""

def textVar (c : Context) (name : String) : String := ((c.var? name).bind Value.str?).getD ""

def valueVar (c : Context) (name : String) : Value := (c.var? name).getD .null

def isYes (answer : String) : Bool := answer == "yes" || answer == "y"

def greet (items : List String) (_ : Context) : Value :=
  let menu := ", ".intercalate items
  .str s!"We have: {menu}. What would you like?"

def storeChoice (c : Context × Option Value) : Value := c.1.vars.set "choice" (.str (words c.2))

def isServed (items : List String) (c : Context) : Bool := items.contains (textVar c "choice")

def apologise (c : Context) : Value :=
  let choice := textVar c "choice"
  .str s!"Sorry, we don't serve {choice}."

def chosen (c : Context) : Value := .obj [("drink", valueVar c "choice")]

def chooseDrink : Script .common where
  name := "choose_drink"
  commands := [
    .say (withMenu greet),
    .ask "drink" (some (plain storeChoice)),
    .branch (withMenu isServed) false 3,
    .say (plain apologise),
    .jump (-4),
    .finish (some (plain chosen))]
  stops := ⟨[("drink", 1)]⟩
  indexed := rfl

def welcome (c : Context) : Value :=
  let shop := ((c.info.get? "shop").bind Value.str?).getD "the shop"
  .str s!"Welcome to {shop}!"

def storeDrink (c : Context × Option Value) : Value :=
  let drink := (c.2.bind fun v => v.get? "drink").getD .null
  let orders := ((c.1.var? "orders").bind Value.items?).getD []
  (c.1.vars.set "orders" (.arr (orders ++ [drink]))).set "last" drink

def count? : Value → Option UInt64
  | .int n => if 0 ≤ n ∧ n < Int.pow 2 64 then some (UInt64.ofNat n.toNat) else none
  | _ => none

def tally (c : Context × Option Value) : Value :=
  let count := ((c.2.bind fun v => v.get? "ordered").bind count?).getD 0
  let rest := ((c.2.bind fun v => v.get? "drinks").bind Value.items?).getD []
  .obj [("drinks", .arr (valueVar c.1 "last" :: rest)), ("ordered", .int (count + 1).toNat)]

def offerMore (c : Context) : Value :=
  let last := textVar c "last"
  .str s!"One {last} coming up! Anything else? (yes/no)"

def storeMore (c : Context × Option Value) : Value := c.1.vars.set "more" (.bool (isYes (words c.2)))

def wantsMore (c : Context) : Bool := (valueVar c "more").same (.bool true)

def thank (c : Context) : Value :=
  let orders := ((c.var? "orders").bind Value.items?).getD []
  let drinks := ", ".intercalate (orders.filterMap Value.str?)
  .str s!"Thanks! Your order: {drinks}."

def ordered (c : Context) : Value := .obj [("orders", valueVar c "orders")]

def takeOrder (chooser : ScriptId) : Script .common where
  name := "take_order"
  commands := [
    .say (plain welcome),
    .call "choose" chooser none none (some (plain storeDrink)),
    .effect none (some (plain tally)),
    .say (plain offerMore),
    .ask "more" (some (plain storeMore)),
    .branch (plain wantsMore) false (-4),
    .say (plain thank),
    .finish (some (plain ordered))]
  stops := ⟨[("more", 4), ("choose", 1)]⟩
  initVars := fun _ => .obj [("orders", .arr [])]
  info := .obj [("shop", .str "parley coffee")]
  indexed := rfl

def book : Playbook .common := { scripts := [chooseDrink, takeOrder 0] }

def root : ScriptId := 1

end Dialogue.Coffee
