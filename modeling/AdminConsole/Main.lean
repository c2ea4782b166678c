/-
# `Main` — the program over a network

Every call becomes a request of its own over a new connection, which the server
closes behind its response.  A call that is not answered in time has no answer.
-/
import AdminConsole.Command.Program
import AdminConsole.Http.Message
import Std.Async.DNS
import Std.Async.TCP

namespace AdminConsole

open Std.Async Std.Net

namespace Connection

/-! ## Addresses -/

def byteAt (n i : Nat) : UInt8 := UInt8.ofNat (n / Nat.pow 256 i)

/-- A unit of an address. -/
def unitAt (units : List Nat) (i : Nat) : UInt16 := UInt16.ofNat (units[i]?.getD 0)

/-- The addresses of a host. -/
def addressesOf : Url.Host → Async (List IPAddr)
  | .ipv4 n => pure [.v4 (.ofParts (byteAt n 3) (byteAt n 2) (byteAt n 1) (byteAt n 0))]
  | .ipv6 us =>
    pure [.v6 (.ofParts (unitAt us 0) (unitAt us 1) (unitAt us 2) (unitAt us 3)
      (unitAt us 4) (unitAt us 5) (unitAt us 6) (unitAt us 7))]
  | .domain name => return (← DNS.getAddrInfo name "").toList

/-- An address with a port. -/
def socketAddress (port : UInt16) : IPAddr → SocketAddress
  | .v4 addr => .v4 ⟨addr, port⟩
  | .v6 addr => .v6 ⟨addr, port⟩

def portOf (u : Url) : UInt16 := UInt16.ofNat ((u.port <|> Url.defaultPort? u.scheme).getD 0)

/-! ## Exchanges -/

/-- Receive until the other side has finished. -/
partial def receiveAll (socket : TCP.Socket.Client) (received : ByteArray) : Async ByteArray := do
  match ← socket.recv? 65536 with
  | some bytes => receiveAll socket (received ++ bytes)
  | none => pure received

/-- Send a text to an address and receive the answer. -/
def exchangeWith (addr : SocketAddress) (text : String) : Async ByteArray := do
  let socket ← TCP.Socket.Client.mk
  socket.connect addr
  socket.send text.toUTF8
  receiveAll socket ByteArray.empty

/-- Send a text to the first of some addresses that takes it. -/
def exchangeWithAny (text : String) : List SocketAddress → Async (Option ByteArray)
  | [] => pure none
  | addr :: rest =>
    try return some (← exchangeWith addr text)
    catch _ => exchangeWithAny text rest

/-- How many milliseconds pass between two looks at a task. -/
def pause : UInt32 := 5

/-- The value of a task, looked for a number of times. -/
def await {α : Type} (task : AsyncTask (Option α)) : Nat → IO (Option α)
  | 0 => pure none
  | looks + 1 => do
    if ← IO.hasFinished task then
      try task.block
      catch _ => pure none
    else
      IO.sleep pause
      await task looks

/-- The answer to a text, if it arrives in time.  Only plain connections are made. -/
def exchange (seconds : Nat) (u : Url) (text : String) : IO (Option ByteArray) := do
  match u.host with
  | some host =>
    if u.scheme == "http" then
      let task ← Async.toIO do
        let addresses ← addressesOf host
        exchangeWithAny text (addresses.map (socketAddress (portOf u)))
      await task (seconds * 1000 / pause.toNat + 1)
    else pure none
  | none => pure none

/-! ## Calls -/

/-- The reply to a call in a request that bears a number. -/
def ask (client : Http.Client) (number : String) {α : Type} (c : Call α) :
    IO (Except ApiError α) := do
  match client.url c.endpoint, client.request c with
  | .ok u, .ok request =>
    let answer ← exchange client.timeoutSecs request.url (request.wire number)
    match answer.bind fun bytes => Http.Response.ofWire? bytes.toList with
    | some response => pure (response.reply u.toText c)
    | none => pure (.error (client.unanswered c))
  | _, _ => pure (.error (client.unanswered c))

end Connection

/-! ## The program -/

/-- Small hexadecimal digits of a byte. -/
def hexByte (b : UInt8) : String :=
  String.ofList [Json.hexDigit (b.toNat / 16), Json.hexDigit (b.toNat % 16)]

/-- Sixteen bytes as a random identifier, in groups with hyphens between them. -/
def identifier (bytes : List UInt8) : String :=
  let marked := bytes.mapIdx fun i b =>
    if i = 6 then 0x40 ||| (b &&& 0x0F) else if i = 8 then 0x80 ||| (b &&& 0x3F) else b
  let part (start length : Nat) : String := String.join (((marked.drop start).take length).map hexByte)
  Text.joinText "-" [part 0 4, part 4 2, part 6 2, part 8 2, part 10 6]

def readEnvironment : IO Command.Environment := do
  let names := Command.Slot.everywhere.filterMap Command.Slot.environmentName?
  let found ← names.mapM fun name => do
    return (← IO.getEnv name).map fun value => (name, value)
  return found.filterMap id

/-- Carry the arguments out, print, and give the exit code. -/
def run (args : List String) : IO UInt32 := do
  let env ← readEnvironment
  let number := identifier (← IO.getRandomBytes 16).toList
  let ending ← Command.program (fun client => .asking (Connection.ask client number)) env args
  for text in ending.printed do
    IO.println text
  match ending.complaint with
  | some text => IO.eprintln text
  | none => pure ()
  return UInt32.ofNat ending.exitCode

end AdminConsole

def main (args : List String) : IO UInt32 := AdminConsole.run args
