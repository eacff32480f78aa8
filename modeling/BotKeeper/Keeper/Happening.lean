import BotKeeper.Keeper

/-! What the bots do by themselves. They print and die when they like, and what they
have left behind may print after them. -/

namespace BotKeeper

namespace Ledger

def living? (ledger : Ledger) : Option Bot :=
  ledger.bots.find? Bot.isAlive

/-- The latest process, if it has left something behind that holds its output. -/
def leaking? (ledger : Ledger) : Option Bot :=
  ledger.bots.head?.filter (·.conduct.leaks)

end Ledger

namespace Account

def observe (account : Account) (change : Bot × List Report) : Account :=
  match account with
  | vacant ledger => .vacant (ledger.replace change.1)
  | kept state => .kept (state.observe change)

end Account

namespace Keeper

def happen (keeper : Keeper) (id : AccountId) (bot : Option Bot)
    (happening : Bot → Bot × List Report) : Option Keeper := do
  let account ← keeper.accounts.get? id
  return keeper.put id (account.observe (happening (← bot)))

/-- The living process of an instance prints some bytes. -/
def print? (keeper : Keeper) (id : AccountId) (bytes : List UInt8) : Option Keeper :=
  keeper.happen id (keeper.ledger id).living? (·.print bytes)

/-- The living process of an instance dies, with a code unless it is by a signal. -/
def exit? (keeper : Keeper) (id : AccountId) (code : Option Int32) : Option Keeper :=
  keeper.happen id (keeper.ledger id).living? (·.exit code keeper.around.now)

/-- What the latest process of an account has left behind prints some bytes. -/
def printLate? (keeper : Keeper) (id : AccountId) (bytes : List UInt8) : Option Keeper :=
  keeper.happen id (keeper.ledger id).leaking? (·.print bytes)

end Keeper

end BotKeeper
