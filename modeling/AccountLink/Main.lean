import Std.Async.DNS
import Std.Async.TCP
import Std.Async.Timer
import AccountLink.Http.Message
import AccountLink.Program.Run

-- The program: it takes its words and variables from the outside, makes the connections that a run
-- needs, and writes what the run writes.

namespace AccountLink.Main

open Std.Net Std.Async AccountLink.Http

def readEnvironment : IO Environment := do
  let names := [Settings.baseUrlVariable,Settings.requestVariable,Settings.connectVariable,
    Program.tokenVariable,Program.emailVariable]
  let values ← names.mapM fun name => return (name,← IO.getEnv name)
  return fun name =>
    match (values.lookup name).join with
    | some value => .text value
    | none => .unset

def resolve : Url.Host → Async (List IPAddr)
  | .four n =>
    let byte (i : Nat) : UInt8 := UInt8.ofNat (n / Nat.pow 256 i)
    return [.v4 (.ofParts (byte 3) (byte 2) (byte 1) (byte 0))]
  | .six pieces =>
    match IPv6Addr.ofString (String.ofList (Url.sixChars pieces)) with
    | some addr => return [.v6 addr]
    | none => return []
  | .name cs => do return (← DNS.getAddrInfo (String.ofList cs) "").toList

def socketAddress (portNumber : Nat) : IPAddr → SocketAddress
  | .v4 addr => .v4 ⟨addr,UInt16.ofNat portNumber⟩
  | .v6 addr => .v6 ⟨addr,UInt16.ofNat portNumber⟩

def connect (portNumber : Nat) : List IPAddr → Async (Option TCP.Socket.Client)
  | [] => return none
  | addr :: addrs => do
    try
      let client ← TCP.Socket.Client.mk
      client.connect (socketAddress portNumber addr)
      return some client
    catch _ => connect portNumber addrs

partial def receive (client : TCP.Socket.Client) (bytes : ByteArray) : Async ByteArray := do
  let more ← try client.recv? 65536 catch _ => pure none
  match more with
  | some chunk => receive client (bytes ++ chunk)
  | none => return bytes

def within [Inhabited α] (seconds : Option Nat) (late : α) (get : Async α) : Async α :=
  match seconds with
  | none => get
  | some n => Async.race get do
    Std.Async.sleep (.ofNat (1000 * min n 1000000))
    return late

-- One post over a connection of its own; there are no secure connections.
def exchange (p : Post) : Async Exchange := do
  if p.address.secure then return .unreachable
  let portNumber := p.address.portNumber.getD (Url.defaultPort false)
  match ← (do connect portNumber (← resolve p.address.host)) with
  | none => return .unreachable
  | some client =>
    client.send p.text.toUTF8
    return .ofBytes (← receive client .empty).toList

-- Which posts a run makes depends on what came of those before, so they are made one by one: each run is given
-- the exchanges that there are, until it makes no further post.
partial def exchanges (env : Environment) (words : List String) (known : List Exchange) : Async (List Exchange) := do
  match (Program.run env words (.ofExchanges known)).arrived[known.length]? with
  | none => return known
  | some post =>
    let outcome ← try exchange post catch _ => pure .unreachable
    exchanges env words (known ++ [outcome])

end AccountLink.Main

def main (words : List String) : IO UInt32 := do
  let env ← AccountLink.Main.readEnvironment
  let seconds := AccountLink.Settings.secondsOf (env AccountLink.Settings.requestVariable)
  let known ← (AccountLink.Main.within seconds [.unreachable] (AccountLink.Main.exchanges env words [])).block
  let run := AccountLink.Program.run env words (.ofExchanges known)
  IO.print run.output
  return run.exitCode.toUInt32
