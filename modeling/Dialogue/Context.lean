import Dialogue.Json.Value

/-! Where a script runs: the thread of a conversation, and what its hooks may see. -/

namespace Dialogue

structure Thread where
  platform : String
  uid : String
deriving DecidableEq, Inhabited, Repr

structure Context where
  thread : Thread
  vars : Value
  info : Value
deriving Inhabited

namespace Context

def var? (c : Context) (name : String) : Option Value := c.vars.get? name

end Context

end Dialogue
