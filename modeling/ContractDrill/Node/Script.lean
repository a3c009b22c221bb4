import ContractDrill.Node.Reply
import ContractDrill.Schema.Record

/-!
# Scripts of replies

What a node replied can be kept and played back: a reply is an object that says how the program
ended, and how long that took.  An object without any member is a program that ends at once, well,
and without a word.
-/

namespace ContractDrill

open Schema

/-- A reply, and the time it takes. -/
structure TimedReply where
  duration : Binary64
  reply : Reply

namespace TimedReply

/-- The reply of a program that ended. -/
def finishedOfMembers (members : Json.Members) : Verdict Reply :=
  Reply.finished <$> optional "code" 0 integer members
    <*> optional "out" (some "") (nullable text) members
    <*> optional "err" (some "") (nullable text) members

/-- The reply that members describe: that the program is missing, that it may not be run, or how it
ended. -/
def replyOfMembers (members : Json.Members) : Verdict Reply :=
  match members.lookup "missing", members.lookup "denied" with
  | some reason, _ => Reply.missing <$> (text reason).under (.key "missing")
  | none, some reason => Reply.denied <$> (text reason).under (.key "denied")
  | none, none => finishedOfMembers members

/-- The timed reply that a value describes. -/
def ofJson : Reader TimedReply :=
  record fun members =>
    TimedReply.mk <$> optional "t" 0 number members <*> replyOfMembers members

end TimedReply

end ContractDrill
