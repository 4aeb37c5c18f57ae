import WordMachine.Channel.Basic

/-!
# Chained input

A chain reads from its first member until that is at the end of input, then
drops it for good and goes on with the next.  Any other failure, and an
interruption, leaves the chain as it was.  Members are known by their names, and
reading one changes the world in which they are.
-/

namespace WordMachine
namespace Chain

/-- What a chain without members says. -/
def exhausted : Failure :=
  .endOfInput "all input sources exhausted"

/-- Reads from the first member that is not at its end, and gives the members that are left. -/
def read {Member World : Type}
    (readMember : Member -> World -> Reply Value × World) :
    List Member -> World -> Reply Value × List Member × World
  | [], world => (.failed exhausted, [], world)
  | member :: members, world =>
      match readMember member world with
      | (.failed failure, world) =>
          if failure.isEndOfInput then
            read readMember members world
          else
            (.failed failure, member :: members, world)
      | (reply, world) => (reply, member :: members, world)

end Chain
end WordMachine
