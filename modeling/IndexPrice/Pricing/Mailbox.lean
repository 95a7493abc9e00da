/-!
# Mailboxes

A mailbox holds at most one item.  Once its reader has left, it takes nothing any more.
-/

namespace IndexPrice.Pricing

structure Mailbox (α : Type) where
  content : Option α := none
  closed : Bool := false
  deriving DecidableEq, Repr

inductive PostFault where
  | full
  | closed
  deriving DecidableEq, Repr

namespace Mailbox

variable {α : Type}

def post (box : Mailbox α) (item : α) : Except PostFault (Mailbox α) :=
  if box.closed then .error .closed
  else if box.content.isSome then .error .full
  else .ok { box with content := some item }

def take (box : Mailbox α) : Option α × Mailbox α := (box.content, { box with content := none })

/-- Closes the mailbox; what is left in it is lost. -/
def close (_ : Mailbox α) : Mailbox α := ⟨none, true⟩

end Mailbox

end IndexPrice.Pricing
