import GrammarBots.Cli.Execute
import GrammarBots.Schedule.Polling
import GrammarBots.Web.Wire
import Std.Async.DNS
import Std.Async.TCP
import Std.Async.Timer

/-!
# The program

The platform that a call of the program runs on: the files, the environment and the clock of the
machine, the entropy of its system, and connections to web servers.  Connections are not encrypted,
so an `https` address has no answer here; a gateway may encrypt them.
-/

namespace GrammarBots.Machine

/-! ### Files -/

/-- An error of the system in its words. -/
def systemError (kind : FileErrorKind) (code : UInt32) (words : String) : FileError :=
  ⟨kind, words ++ " (os error " ++ toString code ++ ")"⟩

/-- An error of the file system. -/
def fileError : IO.Error → FileError
  | .noFileOrDirectory _ code words => systemError .notFound code words
  | .permissionDenied _ code words => systemError .permissionDenied code words
  | .alreadyExists _ code words => systemError .other code words
  | .inappropriateType _ code words => systemError .other code words
  | .invalidArgument _ code words => systemError .other code words
  | .noSuchThing _ code words => systemError .other code words
  | .resourceExhausted _ code words => systemError .other code words
  | .resourceBusy code words => systemError .other code words
  | .unsatisfiedConstraints code words => systemError .other code words
  | .otherError code words => systemError .other code words
  | e => ⟨.other, toString e⟩

/-- The rights in three permission bits. -/
def accessRight (bits : Nat) : IO.AccessRight := ⟨bits.testBit 2, bits.testBit 1, bits.testBit 0⟩

/-- The rights in nine permission bits. -/
def fileRight (mode : Nat) : IO.FileRight :=
  ⟨accessRight (mode / 64), accessRight (mode / 8), accessRight mode⟩

/-- Makes a change of the file system. -/
def perform : FileStep → IO Unit
  | .createDirectories path => if path.isEmpty then pure () else IO.FS.createDirAll path
  | .write path content => IO.FS.writeFile path content
  | .readMode path => discard (IO.FS.realPath path)
  | .setMode path mode => IO.setAccessRights path (fileRight mode)
  | .rename source target => IO.FS.rename source target

/-- The file system of the machine. -/
def files : FileAccess IO where
  contains path := return (← (IO.FS.realPath path).toBaseIO).toOption.isSome
  read path := do
    match ← (IO.FS.readBinFile path).toBaseIO with
    | .error e => return .error (fileError e)
    | .ok content =>
      return match String.fromUTF8? content with
        | some text => .ok text
        | none => .error FileError.notText
  change step := return (← (perform step).toBaseIO).mapError fileError

/-! ### Time and chance -/

/-- Reads the clock of the machine. -/
def clock : IO Instant := do
  let nanos := (← Std.Time.Timestamp.now).toNanosecondsSinceUnixEpoch.val
  return (Instant.of? (nanos / 1000000000) (nanos % 1000000000).toNat).getD Instant.last

/-- Random octets. -/
def entropy (count : USize) : IO Bytes := return (← IO.getRandomBytes count).toList

/-- The word of four octets. -/
def word (bytes : Bytes) : UInt32 := bytes.foldl (fun w b => w * 256 + b.toUInt32) 0

/-- A generator with a random key. -/
def chance : IO Generator := do
  let bytes ← entropy 32
  return ⟨Vector.ofFn fun i => word ((bytes.drop (4 * i.val)).take 4), 0⟩

/-! ### Connections -/

open Std.Async

/-- An address with a port. -/
def socketAddress (port : UInt16) : Std.Net.IPAddr → Std.Net.SocketAddress
  | .v4 address => .v4 ⟨address, port⟩
  | .v6 address => .v6 ⟨address, port⟩

/-- All octets that come until the other side ends the connection. -/
partial def receiveAll (socket : TCP.Socket.Client) (received : ByteArray) : Async ByteArray := do
  match ← socket.recv? 65536 with
  | some bytes => receiveAll socket (received ++ bytes)
  | none => return received

/-- Sends octets to an address and receives the answer. -/
def converse (address : Std.Net.SocketAddress) (message : Bytes) : Async Bytes := do
  let socket ← TCP.Socket.Client.mk
  socket.connect address
  socket.send ⟨message.toArray⟩
  return (← receiveAll socket .empty).toList

/-- Sends octets to the first of several addresses that answers. -/
def converseWithAny (message : Bytes) : List Std.Net.SocketAddress → Async (Option Bytes)
  | [] => return none
  | address :: others =>
    try
      return some (← converse address message)
    catch _ =>
      converseWithAny message others

/-- The name of a host as the system looks it up, without brackets. -/
def lookUpName (url : Url) : String :=
  Text.str (url.host.filter fun c => c != '[' && c != ']')

/-- Carries a request to its server. -/
def exchange (boundary : Text) (request : Request) : Async (Option Response) := do
  if request.url.isSecure then return none
  let port := request.url.port?.getD 80
  let addresses ← DNS.getAddrInfo (lookUpName request.url) (toString port)
  let answer ← converseWithAny (Wire.encodeRequest boundary request)
    (addresses.toList.map (socketAddress port.toUInt16))
  return answer.bind Wire.decodeResponse?

/-- Nothing, after as long as a fetch may take. -/
def giveUp : Async (Option Response) := do
  sleep (.ofNat fetchTimeout)
  return none

/-- The network of the machine.  Only a fetch is given up when it takes too long. -/
def transport : Transport IO := fun request => do
  let boundary := (← entropy 16).flatMap Percent.encodeOctet |>.filter (· != '%')
  let action := match request.method with
    | .get => Async.race (exchange boundary request) giveUp
    | .post => exchange boundary request
  return (← action.block.toBaseIO).toOption.join

/-! ### The platform -/

/-- The machine as a platform. -/
def platform : Platform IO where
  files := files
  environment := ⟨fun name => IO.getEnv name⟩
  clock := clock
  transport := transport
  chance := chance

/-- Prints to the error stream of the program. -/
def printError (text : String) : IO Unit := do (← IO.getStderr).putStr text

/-- Waits until a time on the monotonous clock in milliseconds, an hour at a time at most. -/
partial def waitUntil (time : Nat) : IO Unit := do
  let now ← IO.monoMsNow
  if now < time then
    IO.sleep (min (time - now) 3600000).toUInt32
    waitUntil time

/-- Ticks at a deadline and at all later ones. -/
partial def poll (settings : Settings) (path : Path) (deadline : Nat) : IO Unit := do
  waitUntil deadline
  let start ← IO.monoMsNow
  match ← (platform.tickNow settings path).run with
  | .ok report => printError (Report.tickText report)
  | .error f => printError ("Scheduler tick failed: " ++ f.oneLine ++ "\n")
  poll settings path (Polling.nextDeadline (settings.pollInterval * 1000) deadline start)

/-- Looks at the schedule again and again, unless there are no settings or no store to do so. -/
def runForever (i : Invocation) : IO Ending := do
  let prepared : ExceptT Failure IO Unit := do
    let settings ← ExceptT.mk (i.settings platform)
    let path ← platform.storePath settings
    poll settings path (← IO.monoMsNow)
  match ← prepared.run with
  | .ok () => return .result { output := "" }
  | .error f => return .result { output := "", failure := some f }

/-- Prints what a call of the program ended with, and gives its exit code. -/
def conclude (ending : Ending) : IO UInt32 := do
  match ending with
  | .usage e =>
    let text := Report.usageErrorText e
    if ending.exitCode = 0 then IO.print text else printError text
  | .result r =>
    IO.print r.output
    if let some f := r.failure then printError (Report.failureText f.advise)
  return ending.exitCode.toUInt32

end GrammarBots.Machine

open GrammarBots in
/-- Does what the arguments of the command line ask for. -/
def main (arguments : List String) : IO UInt32 := do
  match ← Invocation.read Machine.platform (arguments.map String.toList) with
  | .error e => Machine.conclude (.usage e)
  | .ok i =>
    match i.command with
    | .run false => Machine.conclude (← Machine.runForever i)
    | _ => Machine.conclude (.result (← i.execute Machine.platform))
